/-
  File:      Kalm/Resources/Apply.lean
  Subject:   CLIENT SIDE APPLY: `ResourceManager.Apply` (api/resources/common.go) gets the object, sets
             the spec on a copy and sends the difference as a merge patch, without a version.

  * `ApplyWorld`, `applyStep` -- any number of calls on one object, in any order of their two API calls;
  * `storesRequest_iff` -- along every run, each patch that succeeds stores the requested spec and
    leaves the rest alone, if and only if the stored spec it meets agrees with the copy that was
    read on every field the patch does not name.

  The document holds what JSON writes; `V` stands for its scalars and arrays, which a patch replaces
  as a whole.
-/
import Kalm.Lib.MergePatch
import Kalm.Lib.Runs
import Kalm.Go.Strings

namespace Kalm

open MergePatch (Json Patch fieldOf patched diff delta Untouched)
open Runs (Always)

/-! ## 1. One call -/

section Call

variable {V : Type} [DecidableEq V]

/-- The object an API server stores under one key. -/
abbrev Stored (V : Type) := Option (Json Str V)

/-- The JSON name of the field `Spec`. -/
def specField : Str := str "spec"

/-- The spec of an object. -/
def Stored.spec (obj : Stored V) : Option (Json Str V) := fieldOf obj specField

/-- `setSpec`. -/
def setSpec (spec obj : Json Str V) : Json Str V := obj.setField specField spec

/-- The patch of an Apply: `client.MergeFrom(fetched)` of the copy with the spec set. -/
def applyPatch (fetched spec : Json Str V) : Option (Patch Str V) := diff fetched (setSpec spec fetched)

/-- `Patch` on the server, which stores what it is sent: a missing object is not found, and the server may refuse. -/
def patchStored (answers : Bool) (patch : Option (Patch Str V)) (stored : Stored V) :
    Option (Stored V) :=
  if stored ≠ none ∧ answers = true then some (patched patch stored) else none

/-- **The patch sets the spec alone.** -/
theorem fieldOf_applyPatch (fetched spec : Json Str V) (stored : Stored V) :
    fieldOf (patched (applyPatch fetched spec) stored) =
      Function.update (fieldOf stored) specField
        (patched (delta (fetched.field specField) (some spec)) stored.spec) :=
  MergePatch.fieldOf_diff_setField fetched spec specField stored

/-! ## 2. Any number of calls -/

variable {ι : Type} [DecidableEq ι]

/-- The stored object, and what the calls in flight have fetched. -/
structure ApplyWorld (V ι : Type) where
  stored : Stored V
  fetched : ι → Option (Json Str V)

/-- An API call of one of the Apply calls. -/
inductive ApplyEvent (ι : Type) where
  | get (call : ι)
  | patch (call : ι) (answers : Bool)

/-- One API call. A call that did not get the object has returned its error, and a call ends with its
    patch. -/
def applyStep (requests : ι → Json Str V) (w : ApplyWorld V ι) : ApplyEvent ι → ApplyWorld V ι
  | .get call => { w with fetched := Function.update w.fetched call w.stored }
  | .patch call answers =>
    match w.fetched call with
    | none => w
    | some fetched =>
      { stored :=
          (patchStored answers (applyPatch fetched (requests call)) w.stored).getD w.stored
        fetched := Function.update w.fetched call none }

/-- The patch of a call succeeds. -/
structure Patches (w : ApplyWorld V ι) (e : ApplyEvent ι) (call : ι) (fetched : Json Str V) : Prop where
  event : e = .patch call true
  fetched : w.fetched call = some fetched
  found : w.stored ≠ none

/-- A patch that succeeds leaves the requested spec, and everything else as it was. -/
def StoresRequest (requests : ι → Json Str V) (w : ApplyWorld V ι) (e : ApplyEvent ι) : Prop :=
  ∀ call fetched, Patches w e call fetched →
    (applyStep requests w e).stored.spec = some (requests call) ∧
      ∀ field, field ≠ specField → fieldOf (applyStep requests w e).stored field = fieldOf w.stored field

/-- A patch that succeeds meets a spec that agrees with the fetched one on every field it does not
    name. -/
def MeetsFetched (requests : ι → Json Str V) (w : ApplyWorld V ι) (e : ApplyEvent ι) : Prop :=
  ∀ call fetched, Patches w e call fetched →
    Untouched (delta (fetched.field specField) (some (requests call))) w.stored.spec
      (fetched.field specField)

theorem Patches.stored_eq {requests : ι → Json Str V} {w : ApplyWorld V ι} {e : ApplyEvent ι}
    {call : ι} {fetched : Json Str V} (h : Patches w e call fetched) :
    (applyStep requests w e).stored = patched (applyPatch fetched (requests call)) w.stored := by
  have hpatch : patchStored true (applyPatch fetched (requests call)) w.stored =
      some (patched (applyPatch fetched (requests call)) w.stored) := if_pos ⟨h.found, rfl⟩
  rw [h.event, applyStep, h.fetched]
  simp only [hpatch, Option.getD_some]

/-- **One API call.** -/
theorem storesRequest_step_iff (requests : ι → Json Str V) (w : ApplyWorld V ι) (e : ApplyEvent ι) :
    StoresRequest requests w e ↔ MeetsFetched requests w e := by
  refine forall_congr' fun call => forall_congr' fun fetched => forall_congr' fun h => ?_
  have hfields := fieldOf_applyPatch fetched (requests call) w.stored
  rw [Stored.spec, h.stored_eq, hfields, Function.update_self,
    ← MergePatch.patched_delta_eq_iff]
  refine and_iff_left fun field hne => ?_
  rw [Function.update_of_ne hne]

/-- **Along every run, each patch that succeeds stores what its call requested, if and only if each
    meets what its call read**, as far as the patch does not name it. -/
theorem storesRequest_iff (requests : ι → Json Str V) (w : ApplyWorld V ι)
    (events : List (ApplyEvent ι)) :
    Always (applyStep requests) (StoresRequest requests) w events ↔
      Always (applyStep requests) (MeetsFetched requests) w events :=
  Runs.always_congr (storesRequest_step_iff requests) w events

end Call

/-- A spec with an image and a number of replicas. -/
def imageSpec (image replicas : Str) : Json Str Str :=
  .ofFields {str "image", str "replicas"} fun k =>
    if k = str "image" then some (.leaf image) else some (.leaf replicas)

/-- One call asks for another image, one for another number of replicas. -/
def twoRequests (second : Bool) : Json Str Str :=
  if second then imageSpec (str "v1") (str "2") else imageSpec (str "v2") (str "1")

/-- Both read the object before either patches it: the second leaves a mixture. -/
theorem storesRequest_fails :
    ¬ ∀ (requests : Bool → Json Str Str) (w : ApplyWorld Str Bool) (events : List (ApplyEvent Bool)),
      Always (applyStep requests) (StoresRequest requests) w events := by
  intro h
  have hstep := (h twoRequests
    ⟨some (setSpec (imageSpec (str "v1") (str "1")) (.ofFields ∅ fun _ => none)), fun _ => none⟩
    [.get false, .get true, .patch false true, .patch true true]).2.2.2.1
  have hstored := (hstep true _ ⟨rfl, rfl, by decide +kernel⟩).1
  exact absurd hstored (by decide +kernel)

end Kalm
