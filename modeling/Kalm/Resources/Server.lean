/-
  File:      Kalm/Resources/Server.lean
  Subject:   THE API SERVER as the resource manager sees it: objects by kind, namespace and name,
             the calls of `ResourceManager` (api/resources/common.go) and `Apply` on top of them.

  * `Doc`, `Volume` -- an object as JSON; the volumes of a component's spec are kept as they are read;
  * `ApiServer` -- admission: defaulting, then validation against the stored spec;
  * `answer` -- what the server answers to a call and what it stores;
  * `apply` -- `Apply`: get, then patch. `holds_apply`: every run of it leaves the cluster as it was
    or stores the spec as admission defaults it.
-/
import Kalm.Lib.Calls
import Kalm.Lib.Mirror
import Kalm.Resources.Apply

namespace Kalm

open MergePatch (Json Patch patched)
open Calls (Action Fault Holds Returns Strict Refusable Uses)

/-! ## 1. Objects -/

/-- `VolumeType`. -/
inductive VolumeType where
  | temporaryMemory
  | temporaryDisk
  | persistentVolumeClaim
  | persistentVolumeClaimTemplate
  | hostPath
  | other (name : Str)
  deriving DecidableEq

/-- `Volume`; `rest` is the size and the storage class as they are written. -/
structure Volume where
  type : VolumeType
  path : Str
  hostPath : Str
  pvToMatch : Str
  pvc : Str
  rest : Str
  deriving DecidableEq

/-- What a patch replaces as a whole: a text, the volumes of a spec, anything else as it is written. -/
inductive Scalar where
  | text (s : Str)
  | volumes (vs : List Volume)
  | raw (json : Str)
  deriving DecidableEq

/-- A JSON document. -/
abbrev Doc := Json Str Scalar

/-- A JSON text. -/
def Doc.text (s : Str) : Doc := .leaf (.text s)

/-- The object without fields. -/
def emptyDoc : Doc := .ofFields ∅ fun _ => none

/-- `Spec.Volumes`. -/
def volumesOf (spec : Doc) : List Volume :=
  match spec.field (str "volumes") with
  | some (.leaf (.volumes vs)) => vs
  | _ => []

/-- A label of an object. -/
def labelOf (obj : Doc) (label : Str) : Option Doc :=
  ((obj.field (str "metadata")).bind fun metadata => metadata.field (str "labels")).bind fun labels =>
    labels.field label

/-- The kinds of objects the resource manager writes here. -/
inductive Kind where
  | component
  | protectedEndpoint
  | componentPluginBinding
  deriving DecidableEq

/-- `types.NamespacedName` -/
abbrev NamespacedName := Str × Str

/-- `PersistentVolume`: the claim it is bound to. -/
structure PersistentVolume where
  claimRef : Option NamespacedName

/-- What the API server stores. -/
structure Cluster where
  objects : Kind → Mirror.Table NamespacedName Doc
  volumes : Str → Option PersistentVolume
  claims : List NamespacedName

namespace Cluster

/-- The object under a key. -/
def get (s : Cluster) (kind : Kind) (key : NamespacedName) : Option Doc := (s.objects kind).lookup key

/-- An object is written. -/
def store (s : Cluster) (kind : Kind) (key : NamespacedName) (obj : Doc) : Cluster :=
  { s with objects := Function.update s.objects kind ((s.objects kind).insert key obj) }

/-- An object is removed. -/
def remove (s : Cluster) (kind : Kind) (key : NamespacedName) : Cluster :=
  { s with objects := Function.update s.objects kind ((s.objects kind).erase key) }

variable {s : Cluster} {kind k : Kind} {key x : NamespacedName} {obj : Doc}

theorem objects_store_self : (s.store kind key obj).objects kind = (s.objects kind).insert key obj :=
  Function.update_self ..

theorem objects_remove_self : (s.remove kind key).objects kind = (s.objects kind).erase key :=
  Function.update_self ..

theorem objects_store_of_ne (h : k ≠ kind) : (s.store kind key obj).objects k = s.objects k :=
  Function.update_of_ne h ..

theorem objects_remove_of_ne (h : k ≠ kind) : (s.remove kind key).objects k = s.objects k :=
  Function.update_of_ne h ..

@[simp] theorem get_store_self : (s.store kind key obj).get kind key = some obj := by
  rw [get, objects_store_self, AList.lookup_insert]

theorem get_store_of_ne (h : x ≠ key) : (s.store kind key obj).get kind x = s.get kind x := by
  rw [get, objects_store_self, AList.lookup_insert_ne h, get]

@[simp] theorem get_remove_self : (s.remove kind key).get kind key = none := by
  rw [get, objects_remove_self, AList.lookup_erase]

theorem get_remove_of_ne (h : x ≠ key) : (s.remove kind key).get kind x = s.get kind x := by
  rw [get, objects_remove_self, AList.lookup_erase_ne h, get]

/-- The objects of a kind decide what is under its keys. -/
theorem get_congr {s' : Cluster} (h : s'.objects kind = s.objects kind) (key : NamespacedName) :
    s'.get kind key = s.get kind key := by
  rw [get, h, get]

end Cluster

/-! ## 2. Calls -/

/-- The errors the handlers tell apart. -/
inductive ApiError where
  | notFound
  | alreadyExists
  | invalid
  | unavailable
  | noKind
  | badRequest
  | noNamespaceEditorRole (ns : Str)
  deriving DecidableEq

/-- The calls of `ResourceManager`. -/
inductive ApiCall where
  | get (kind : Kind) (key : NamespacedName)
  | create (kind : Kind) (key : NamespacedName) (obj : Doc)
  | patch (kind : Kind) (key : NamespacedName) (patch : Option (Patch Str Scalar))
  | delete (kind : Kind) (key : NamespacedName)
  | list (kind : Kind) (label value : Str)
  | getPV (name : Str)
  | listPVCs

/-- What a call returns. -/
@[reducible] def ApiCall.Value : ApiCall → Type
  | .get .. => Doc
  | .create .. => Doc
  | .patch .. => Unit
  | .delete .. => Unit
  | .list .. => List (NamespacedName × Doc)
  | .getPV _ => PersistentVolume
  | .listPVCs => List NamespacedName

/-- The kind of the objects a call writes. -/
def ApiCall.writes : ApiCall → Option Kind
  | .create kind .. => some kind
  | .patch kind .. => some kind
  | .delete kind _ => some kind
  | _ => none

/-- `Component.Default` on one volume; `genPVCName` is the name it draws. -/
def Volume.default (genPVCName : Str) (vol : Volume) : Volume :=
  match vol.type with
  | .hostPath =>
    if vol.hostPath ≠ [] ∧ vol.path = [] then { vol with path := vol.hostPath }
    else if vol.hostPath = [] ∧ vol.path ≠ [] then { vol with hostPath := vol.path }
    else vol
  | .persistentVolumeClaimTemplate | .persistentVolumeClaim =>
    if vol.pvc = [] then { vol with pvc := genPVCName } else vol
  | _ => vol

/-- The clock and the random numbers of one admission, as one number. -/
abbrev Seed := Nat

/-- The API server with its admission: a new spec is defaulted, then validated against the stored
    one. `getFillsKind`: a typed `Get` leaves the kind and the version in the object. -/
structure ApiServer where
  default : Seed → Kind → NamespacedName → Doc → Doc
  accepts : Kind → NamespacedName → Option Doc → Doc → Bool
  getFillsKind : Bool
  -- the volumes of a component are defaulted one by one
  volumes_default : ∀ seed key spec, ∃ genPVCName : Nat → Str,
    volumesOf (default seed .component key spec) =
      (volumesOf spec).mapIdx fun i vol => vol.default (genPVCName i)

/-- The spec with its volumes defaulted. -/
def defaultVolumes (genPVCName : Nat → Str) (spec : Doc) : Doc :=
  match spec.field (str "volumes") with
  | some (.leaf (.volumes vs)) =>
    spec.setField (str "volumes")
      (.leaf (.volumes (vs.mapIdx fun i vol => vol.default (genPVCName i))))
  | _ => spec

theorem volumesOf_defaultVolumes (genPVCName : Nat → Str) (spec : Doc) :
    volumesOf (defaultVolumes genPVCName spec) =
      (volumesOf spec).mapIdx fun i vol => vol.default (genPVCName i) := by
  unfold defaultVolumes
  split
  · rename_i vs hvs
    rw [volumesOf, Json.field_setField, Function.update_self, volumesOf, hvs]
  · rename_i hnone
    have hnil : volumesOf spec = [] := by
      unfold volumesOf
      split
      · rename_i vs hvs
        exact absurd hvs (hnone vs)
      · rfl
    rw [hnil, List.mapIdx_nil]

/-- A server that accepts everything and defaults volumes. -/
def plainServer (getFillsKind : Bool) : ApiServer where
  default seed kind key spec :=
    if kind = .component then
      defaultVolumes (fun i => str "pvc-" ++ key.2 ++ [dash, UInt8.ofNat (seed + i)]) spec
    else spec
  accepts _ _ _ _ := true
  getFillsKind := getFillsKind
  volumes_default _ _ spec := ⟨_, volumesOf_defaultVolumes _ spec⟩

namespace ApiServer

variable (srv : ApiServer) (seed : Seed)

/-- The object as it is stored, if admission accepts it. -/
def admits (kind : Kind) (key : NamespacedName) (old : Option Doc) (obj : Doc) : Option Doc :=
  let spec := srv.default seed kind key ((obj.field specField).getD emptyDoc)
  if srv.accepts kind key old spec = true then some (setSpec spec obj) else none

/-- The answer to a call, and the cluster after it. -/
def answer : (c : ApiCall) → Cluster → Except ApiError c.Value × Cluster
  | .get kind key, s =>
    match s.get kind key with
    | some obj => (.ok obj, s)
    | none => (.error .notFound, s)
  | .create kind key obj, s =>
    match srv.admits seed kind key none obj with
    | none => (.error .invalid, s)
    | some stored =>
      if (s.get kind key).isSome then (.error .alreadyExists, s)
      else (.ok stored, s.store kind key stored)
  | .patch kind key patch, s =>
    match s.get kind key with
    | none => (.error .notFound, s)
    | some old =>
      match (patched patch (some old)).bind (srv.admits seed kind key (old.field specField)) with
      | none => (.error .invalid, s)
      | some stored => (.ok (), s.store kind key stored)
  | .delete kind key, s =>
    if (s.get kind key).isSome then (.ok (), s.remove kind key) else (.error .notFound, s)
  | .list kind label value, s =>
    (.ok (((s.objects kind).entries.map fun e => (e.1, e.2)).filter fun e =>
      labelOf e.2 label = some (Doc.text value)), s)
  | .getPV name, s =>
    match s.volumes name with
    | some pv => (.ok pv, s)
    | none => (.error .notFound, s)
  | .listPVCs, s => (.ok s.claims, s)

end ApiServer

/-- A program of the API process. -/
abbrev Request := Action ApiCall ApiCall.Value ApiError

/-- `Get` -/
def getObject (kind : Kind) (key : NamespacedName) : Request Doc := Action.invoke (ApiCall.get kind key)

/-- `Create` -/
def createObject (kind : Kind) (key : NamespacedName) (obj : Doc) : Request Doc :=
  Action.invoke (ApiCall.create kind key obj)

/-- `Patch` -/
def patchObject (kind : Kind) (key : NamespacedName) (patch : Option (Patch Str Scalar)) :
    Request Unit := Action.invoke (ApiCall.patch kind key patch)

/-- `Delete` -/
def deleteObject (kind : Kind) (key : NamespacedName) : Request Unit :=
  Action.invoke (ApiCall.delete kind key)

/-- `Apply` of an object with this spec; without its kind no object to fetch into is made. -/
def apply (hasKind : Bool) (kind : Kind) (key : NamespacedName) (spec : Doc) : Request Unit :=
  if hasKind then do
    let fetched ← getObject kind key
    patchObject kind key (applyPatch fetched spec)
  else .fail .noKind

/-! ## 3. What a call leaves alone -/

section Answer

variable {srv : ApiServer} {seed : Seed}

/-- A call writes objects of its own kind alone. -/
theorem answer_objects {c : ApiCall} {k : Kind} (h : c.writes ≠ some k) (s : Cluster) :
    (srv.answer seed c s).2.objects k = s.objects k := by
  cases c with
  | get kind key => rw [ApiServer.answer]; split <;> rfl
  | create kind key obj =>
      have hk : k ≠ kind := fun e => h (e ▸ rfl)
      rw [ApiServer.answer]
      split
      · rfl
      · split
        · rfl
        · exact Cluster.objects_store_of_ne hk
  | patch kind key patch =>
      have hk : k ≠ kind := fun e => h (e ▸ rfl)
      rw [ApiServer.answer]
      split
      · rfl
      · split
        · rfl
        · exact Cluster.objects_store_of_ne hk
  | delete kind key =>
      have hk : k ≠ kind := fun e => h (e ▸ rfl)
      rw [ApiServer.answer]
      split
      · exact Cluster.objects_remove_of_ne hk
      · rfl
  | list kind label value => rfl
  | getPV name => rw [ApiServer.answer]; split <;> rfl
  | listPVCs => rfl

/-- No call writes volumes or claims. -/
theorem answer_disks (c : ApiCall) (s : Cluster) :
    (srv.answer seed c s).2.volumes = s.volumes ∧ (srv.answer seed c s).2.claims = s.claims := by
  cases c with
  | get kind key => rw [ApiServer.answer]; split <;> exact ⟨rfl, rfl⟩
  | create kind key obj =>
      rw [ApiServer.answer]
      split
      · exact ⟨rfl, rfl⟩
      · split <;> exact ⟨rfl, rfl⟩
  | patch kind key patch =>
      rw [ApiServer.answer]
      split
      · exact ⟨rfl, rfl⟩
      · split <;> exact ⟨rfl, rfl⟩
  | delete kind key => rw [ApiServer.answer]; split <;> exact ⟨rfl, rfl⟩
  | list kind label value => exact ⟨rfl, rfl⟩
  | getPV name => rw [ApiServer.answer]; split <;> exact ⟨rfl, rfl⟩
  | listPVCs => exact ⟨rfl, rfl⟩

/-! ## 4. `Apply` -/

variable {kind : Kind} {key : NamespacedName} {spec : Doc} {s : Cluster}

/-- The spec of the object under a key. -/
def Cluster.specAt (s : Cluster) (kind : Kind) (key : NamespacedName) : Option Doc :=
  (s.get kind key).bind fun obj => obj.field specField

theorem field_setSpec (spec obj : Doc) : (setSpec spec obj).field specField = some spec := by
  rw [setSpec, Json.field_setField, Function.update_self]

theorem labelOf_setSpec (spec obj : Doc) (label : Str) :
    labelOf (setSpec spec obj) label = labelOf obj label := by
  rw [labelOf, setSpec, Json.field_setField, Function.update_of_ne (by decide), labelOf]

@[simp] theorem Cluster.specAt_store_self {obj : Doc} :
    (s.store kind key (setSpec spec obj)).specAt kind key = some spec := by
  rw [specAt, get_store_self, Option.bind_some, field_setSpec]

/-- Admission of an object with this spec. -/
theorem admit_setSpec (old : Option Doc) (spec obj : Doc) :
    srv.admits seed kind key old (setSpec spec obj) =
      if srv.accepts kind key old (srv.default seed kind key spec) = true then
        some (setSpec (srv.default seed kind key spec) (setSpec spec obj)) else none := by
  rw [ApiServer.admits, field_setSpec, Option.getD_some]

/-- **The patch of an Apply, on the object it was made from.** -/
theorem answer_applyPatch {fetched : Doc} (h : s.get kind key = some fetched) :
    srv.answer seed (.patch kind key (applyPatch fetched spec)) s =
      if srv.accepts kind key (s.specAt kind key) (srv.default seed kind key spec) = true then
        (.ok (), s.store kind key (setSpec (srv.default seed kind key spec) (setSpec spec fetched)))
      else (.error .invalid, s) := by
  have hold : s.specAt kind key = fetched.field specField := by
    rw [Cluster.specAt, h, Option.bind_some]
  rw [ApiServer.answer, h]
  simp only [applyPatch, MergePatch.patched_diff, Option.bind_some, admit_setSpec, hold]
  by_cases hok : srv.accepts kind key (fetched.field specField) (srv.default seed kind key spec) = true
  · simp only [if_pos hok]
  · simp only [if_neg hok]

/-- The spec is stored as admission defaults it, the rest of the object stays. -/
def Settles (srv : ApiServer) (seed : Seed) (kind : Kind) (key : NamespacedName) (spec : Doc)
    (s s' : Cluster) : Prop :=
  ∃ fetched, s.get kind key = some fetched ∧
    srv.accepts kind key (s.specAt kind key) (srv.default seed kind key spec) = true ∧
    s' = s.store kind key (setSpec (srv.default seed kind key spec) (setSpec spec fetched))

theorem Settles.specAt {s' : Cluster} (h : Settles srv seed kind key spec s s') :
    s'.specAt kind key = some (srv.default seed kind key spec) := by
  obtain ⟨fetched, _, _, rfl⟩ := h
  exact Cluster.specAt_store_self

/-- A `Create` that succeeds. -/
theorem returns_createObject {obj : Doc} {Q : Doc → Cluster → Prop} :
    Returns (srv.answer seed) .unavailable (createObject kind key obj) s Q ↔
      ∃ stored, srv.admits seed kind key none obj = some stored ∧ s.get kind key = none ∧
        Q stored (s.store kind key stored) := by
  rw [createObject, Action.invoke, Calls.returns_call, ApiServer.answer]
  cases ha : srv.admits seed kind key none obj with
  | none => exact iff_of_false Calls.not_returns_fail fun ⟨_, h, _⟩ => nomatch h
  | some stored =>
      cases hg : s.get kind key with
      | none =>
          refine Calls.returns_done.trans ⟨fun h => ⟨stored, rfl, rfl, h⟩, fun ⟨t, e, _, h⟩ => ?_⟩
          rwa [Option.some.inj e]
      | some obj => exact iff_of_false Calls.not_returns_fail fun ⟨_, _, h, _⟩ => nomatch h

theorem specAt_created {obj stored : Doc} (h : srv.admits seed kind key none (setSpec spec obj) = some stored) :
    (s.store kind key stored).specAt kind key = some (srv.default seed kind key spec) := by
  rw [admit_setSpec] at h
  split at h
  · rw [← Option.some.inj h]
    exact Cluster.specAt_store_self
  · cases h

/-- What admission lets in was accepted. -/
theorem accepted_of_admit {old : Option Doc} {obj stored : Doc}
    (h : srv.admits seed kind key old (setSpec spec obj) = some stored) :
    srv.accepts kind key old (srv.default seed kind key spec) = true := by
  rw [admit_setSpec] at h
  split at h
  · assumption
  · cases h

theorem getObject_answer : srv.answer seed (.get kind key) s =
    ((match s.get kind key with | some obj => .ok obj | none => .error .notFound), s) := by
  rw [ApiServer.answer]
  split <;> rfl

/-- **Every run of an Apply** leaves the cluster as it was, or stores the spec. -/
theorem holds_apply (hasKind : Bool) :
    Holds (srv.answer seed) .unavailable (apply hasKind kind key spec) s fun _ s' =>
      s' = s ∨ Settles srv seed kind key spec s s' := by
  unfold apply
  cases hasKind with
  | false => exact Calls.holds_fail.mpr (Or.inl rfl)
  | true =>
      have hfail : ∀ e : ApiError, Holds (srv.answer seed) .unavailable (Action.fail e : Request Unit) s
          fun _ s' => s' = s ∨ Settles srv seed kind key spec s s' :=
        fun e => Calls.holds_fail.mpr (Or.inl rfl)
      refine Calls.holds_call.mpr ⟨?_, hfail _, ?_⟩
      · rw [getObject_answer]
        cases hg : s.get kind key with
        | none => exact hfail _
        | some fetched =>
            have hpatch : srv.answer seed (.patch kind key (applyPatch fetched spec)) s = _ :=
              answer_applyPatch hg
            refine Calls.holds_call.mpr ?_
            rw [hpatch]
            by_cases hok : srv.accepts kind key (s.specAt kind key)
                (srv.default seed kind key spec) = true
            · rw [if_pos hok]
              have hset : Settles srv seed kind key spec s _ := ⟨fetched, hg, hok, rfl⟩
              exact ⟨Calls.holds_done.mpr (Or.inr hset), hfail _,
                Calls.holds_fail.mpr (Or.inr hset)⟩
            · rw [if_neg hok]
              exact ⟨hfail _, hfail _, hfail _⟩
      · rw [getObject_answer]
        exact hfail _

/-- **When no call fails** an Apply needs the kind, the object and admission. -/
theorem returns_apply {hasKind : Bool} {Q : Unit → Cluster → Prop} :
    Returns (srv.answer seed) .unavailable (apply hasKind kind key spec) s Q ↔
      hasKind = true ∧ ∃ s', Settles srv seed kind key spec s s' ∧ Q () s' := by
  unfold apply
  cases hasKind with
  | false => exact iff_of_false Calls.not_returns_fail fun h => absurd h.1 (by decide)
  | true =>
      refine Calls.returns_bind.trans (Iff.trans ?_ (and_iff_right rfl).symm)
      rw [getObject, Action.invoke, Calls.returns_call, getObject_answer]
      cases hg : s.get kind key with
      | none =>
          refine iff_of_false Calls.not_returns_fail fun ⟨_, ⟨fetched, hf, _⟩, _⟩ => ?_
          rw [hg] at hf
          cases hf
      | some fetched =>
          have hpatch : srv.answer seed (.patch kind key (applyPatch fetched spec)) s = _ :=
            answer_applyPatch hg
          simp only
          rw [Calls.returns_done, patchObject, Action.invoke, Calls.returns_call, hpatch]
          by_cases hok : srv.accepts kind key (s.specAt kind key)
              (srv.default seed kind key spec) = true
          · rw [if_pos hok, Calls.returns_done]
            refine ⟨fun hQ => ⟨_, ⟨fetched, hg, hok, rfl⟩, hQ⟩, fun ⟨s', ⟨f, hf, _, hs⟩, hQ⟩ => ?_⟩
            cases hg.symm.trans hf
            rwa [hs] at hQ
          · rw [if_neg hok]
            exact iff_of_false Calls.not_returns_fail fun ⟨_, ⟨_, _, h, _⟩, _⟩ => hok h

theorem strict_apply (hasKind : Bool) (kind : Kind) (key : NamespacedName) (spec : Doc) :
    Strict ApiError.unavailable (apply hasKind kind key spec) := by
  unfold apply
  cases hasKind with
  | false => trivial
  | true => exact Calls.strict_bind (Calls.strict_invoke _) fun _ => Calls.strict_invoke _

theorem refusable_apply (kind : Kind) (key : NamespacedName) (spec : Doc) :
    Refusable ApiError.unavailable (apply true kind key spec) :=
  Calls.refusable_bind (Calls.refusable_invoke _)

theorem uses_apply (hasKind : Bool) (kind : Kind) (key : NamespacedName) (spec : Doc) :
    Uses (fun c => c.writes = none ∨ c.writes = some kind) (apply hasKind kind key spec) := by
  unfold apply
  cases hasKind with
  | false => trivial
  | true =>
      exact Calls.uses_bind (Calls.uses_invoke (Or.inl rfl)) fun _ => Calls.uses_invoke (Or.inr rfl)

end Answer

end Kalm
