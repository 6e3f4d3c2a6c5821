/-
  File:      Kalm/Volumes/Parties.lean
  Subject:   WHO GETS A FREED VOLUME: a component that asks for it, the controller of the volumes and the binder,
             each one call at a time, in any order.

  * `get_meet` -- what a call that can fail does to what is under a key;
  * `World`, `Event`, `step` -- the three parties over one API server, where any call can fail: both reconciles read
    what the informers of their manager show, and write to the server;
  * `KeptFor` -- while the volume is available for the component, its claim for nobody is not created and only the
    component's claim is bound to it;
  * `Meets` -- what the steps must be like for it.
-/
import Kalm.Lib.Informers
import Kalm.Lib.Runs
import Kalm.Volumes.Claims

namespace Kalm.Volumes

open Objects (Cached Error State Versioned serveCached)
open Calls (Fault meet)

/-! ## 1. Calls that can fail -/

/-- What a call that can fail does to what is under a key. -/
theorem get_meet (fault : Fault) (c : Objects.Call schema) (s : Cluster) (k : Kind) (key : Str × Str) :
    (meet Objects.serve .unavailable fault c s).2.get k key = s.get k key ∨
      (∃ obj : k.Obj, c = .create k obj ∧ k.key obj = key ∧
        (meet Objects.serve .unavailable fault c s).2.get k key = some ⟨obj, s.revision + 1⟩) ∨
      (∃ v current : Stored k, c = .update k v ∧ v.key = key ∧ s.get k key = some current ∧
        current.version = v.version ∧
        (meet Objects.serve .unavailable fault c s).2.get k key = some ⟨v.obj, s.revision + 1⟩) ∨
      c = .delete k key ∧ (meet Objects.serve .unavailable fault c s).2.get k key = none := by
  rcases Calls.meet_state Objects.serve .unavailable fault c s with hs | hs
  · exact Or.inl (by rw [hs])
  rw [hs]
  rcases Objects.get_serve c s k key with h | ⟨obj, hc, hkey, _, h⟩ | h | h
  · exact Or.inl h
  · exact Or.inr (Or.inl ⟨obj, hc, hkey, h⟩)
  · exact Or.inr (Or.inr (Or.inl h))
  · exact Or.inr (Or.inr (Or.inr h))

/-! ## 2. The three parties -/

/-- A component that asks for a volume. -/
structure Taker where
  disk : Disk
  asks : disk.pvToMatch ≠ []

namespace Taker

/-- The key of the claim of the component. -/
def claim (t : Taker) : Str × Str := (t.disk.ns, t.disk.pvc)

/-- The key of the volume. -/
def volume (t : Taker) : Str × Str := ([], t.disk.pvToMatch)

/-- The key of the claim for the volume when it has none. -/
def orphan (t : Taker) : Str × Str := (kalmSystemNamespace, orphanName t.disk.pvToMatch)

end Taker

/-- A reconcile under way, and the copies of the volume that it has come by. -/
structure Reconcile (α : Type) where
  task : VolumeTask α
  copies : List (Stored .pv)

/-- The copies of the volume that an answer gives; behind an update it is the copy that was written. -/
def copiesOf (t : Taker) : (c : Objects.Call schema) → Except Error c.Reply → List (Stored .pv)
  | .get .pv _, .ok v => [v].filter fun v => v.key = t.volume
  | .list .pv, .ok pvs => pvs.filter fun v => v.key = t.volume
  | .update .pv u, .ok _ => [u].filter fun v => v.key = t.volume
  | _, _ => []

/-- One call of a reconcile. -/
def Reconcile.next {α : Type} (t : Taker) (fault : Fault) (r : Reconcile α) (s : Cached schema) :
    Reconcile α × Cached schema :=
  match r.task with
  | .call c next =>
    let answer := meet serveCached .unavailable fault c s
    (⟨next answer.1, r.copies ++ copiesOf t c answer.1⟩, answer.2)
  | _ => (r, s)

/-- What the reconcile of the component does: it makes the volume ready, or creates the claim. -/
inductive Phase where
  | idle
  | preparing (r : Reconcile (Option PersistentVolumeClaim))
  | creating (pvc : PersistentVolumeClaim)

/-- The cluster with its informers, the reconciles under way, and whether the component has left the volume available
    and its claim is not bound yet. -/
structure World where
  cluster : Cached schema
  component : Phase
  controller : Reconcile Unit
  available : Bool

/-- What the controller is asked to reconcile. -/
inductive Request where
  | pv (name : Str)
  | pvcChange (o : MapOrder)

/-- The reconcile. -/
def Request.reconcile : Request → VolumeTask Unit
  | .pv name => reconcilePV name
  | .pvcChange o => reconcileForPVCChange o

/-- What happens: a reconcile starts, makes one call, the binder binds a claim to a volume, or an informer is told of
    a write. -/
inductive Event where
  | startComponent
  | component (fault : Fault)
  | startController (req : Request)
  | controller (fault : Fault)
  | bind (claim : Str × Str) (pvName : Str)
  | deliver (k : Kind)

/-- The volume has no claim. -/
def unclaimed (s : Cluster) (key : Str × Str) : Bool :=
  match s.get .pv key with
  | none => false
  | some v => (PersistentVolume.claimRef v.obj).isNone

/-- The labels that the claim selects are those of the volume. -/
def PersistentVolumeClaim.selects (pvc : PersistentVolumeClaim) (pv : PersistentVolume) : Bool :=
  match pvc.selector with
  | none => true
  | some labels => decide (∀ key ∈ labels.keys, pv.lookup key = labels.lookup key)

/-- The volume with a claim. -/
def PersistentVolume.claimedBy (claim : Str × Str) (pv : PersistentVolume) : PersistentVolume :=
  { pv with claimRef := some claim }

/-- The claim with a volume. -/
def PersistentVolumeClaim.boundTo (pvName : Str) (pvc : PersistentVolumeClaim) : PersistentVolumeClaim :=
  { pvc with volumeName := pvName }

/-- An unbound claim is bound to a volume without a claim. -/
def bindClaim (s : Cluster) (claim : Str × Str) (pvName : Str) : Option Cluster :=
  match s.get .pvc claim, s.get .pv ([], pvName) with
  | some pvc, some pv =>
    if PersistentVolumeClaim.volumeName pvc.obj = [] ∧ PersistentVolume.claimRef pv.obj = none ∧
        PersistentVolumeClaim.selects pvc.obj pv.obj = true then
      some ((s.put Kind.pv (PersistentVolume.claimedBy claim pv.obj)).put Kind.pvc
        (PersistentVolumeClaim.boundTo pvName pvc.obj))
    else none
  | _, _ => none

/-- What follows a call of the component. -/
def World.prepared (w : World) (key : Str × Str) (r : Reconcile (Option PersistentVolumeClaim))
    (s : Cached schema) : World :=
  match r.task with
  | .done (some pvc) =>
    { w with cluster := s, component := .creating pvc, available := w.available || unclaimed s.stored key }
  | .call .. => { w with cluster := s, component := .preparing r }
  | _ => { w with cluster := s, component := .idle }

/-- One step; what is not possible does nothing. -/
def step (t : Taker) (w : World) : Event → World
  | .startComponent =>
    match w.component with
    | .idle => { w with component := .preparing ⟨prepareClaim t.disk, []⟩ }
    | _ => w
  | .component fault =>
    match w.component with
    | .idle => w
    | .preparing r => w.prepared t.volume (r.next t fault w.cluster).1 (r.next t fault w.cluster).2
    | .creating pvc =>
      { w with
        cluster := (meet serveCached .unavailable fault (.create Kind.pvc pvc) w.cluster).2
        component := .idle }
  | .startController req => if w.controller.task.ended then { w with controller := ⟨req.reconcile, []⟩ } else w
  | .controller fault =>
    { w with
      cluster := (w.controller.next t fault w.cluster).2
      controller := (w.controller.next t fault w.cluster).1 }
  | .bind claim pvName =>
    match bindClaim w.cluster.stored claim pvName with
    | none => w
    | some s => { w with cluster := w.cluster.write s, available := w.available && claim ≠ t.claim }
  | .deliver k => { w with cluster := w.cluster.deliver k }

/-- No reconcile is under way, and the informers have come to what is stored. -/
structure Initial (w : World) : Prop where
  cluster : ∃ s, w.cluster = .synced s ∧ Objects.Dated s
  component : w.component = .idle
  controller : w.controller = ⟨.done (), []⟩
  available : w.available = false

/-! ## 3. The statement -/

/-- While the volume is available for the component, the controller creates no claim for it, and no other claim than
    the component's is bound to it. -/
def KeptFor (t : Taker) (w : World) (e : Event) : Prop :=
  w.available = true →
    (∀ fault, e = .controller fault → w.cluster.stored.get .pvc t.orphan = none →
      (step t w e).cluster.stored.get .pvc t.orphan = none) ∧
    ∀ v k, (step t w e).cluster.stored.get .pv t.volume = some v → PersistentVolume.claimRef v.obj = some k →
      k = t.claim

/-! ## 4. What the steps must be like -/

/-- The lock keeps the controller of the volumes away. -/
def Locked (pv : PersistentVolume) : Prop :=
  pv.label kalmLabelPVLocker ≠ [] ∧ pv.label kalmLabelPVLocker ≠ controllerKalmPV

/-- A copy with which `reconcileOrphanPV` leaves the volume alone, or has to take it from a claim first. -/
def PassedBy (pv : PersistentVolume) : Prop :=
  pv.label kalmLabelManaged ≠ str "true" ∨ pv.label kalmLabelCleanIfPVCGone ≠ [] ∨ Locked pv ∨
    claimedElsewhere pv = true

/-- The volume as `takeFrom` frees it. -/
def freed (pv : PersistentVolume) : PersistentVolume :=
  (cleanPVToBeAvailable pv).withLabel kalmLabelPVLocker controllerComponent

/-- No other unbound claim than the component's can be bound to the volume. -/
def OnlyFor (t : Taker) (s : Cluster) (pv : PersistentVolume) : Prop :=
  ∀ pvc ∈ s.list .pvc, Versioned.key pvc ≠ t.claim → PersistentVolumeClaim.volumeName pvc.obj = [] →
    PersistentVolumeClaim.selects pvc.obj pv = false

/-- The volume is not labelled as another one. -/
def NotAnother (t : Taker) (pv : PersistentVolume) : Prop :=
  ∀ name, pv.lookup kalmLabelPV = some name → name = t.disk.pvToMatch

/-- The volume can be left to the component: it is not labelled as another one, no other claim can be bound to it, and
    a reconcile of the controller that is under way has no copy of it that makes it create a claim. -/
structure Clear (t : Taker) (w : World) (pv : PersistentVolume) : Prop where
  label : NotAnother t pv
  others : OnlyFor t w.cluster.stored pv
  copies : w.controller.task.ended = false → ∀ v ∈ w.controller.copies, PassedBy v.obj

/-- A volume without a claim is locked, and can be left to the component. -/
def Reserved (t : Taker) (w : World) : Prop :=
  ∀ v, w.cluster.stored.get .pv t.volume = some v → PersistentVolume.claimRef v.obj = none →
    Locked v.obj ∧ Clear t w v.obj

/-- The next call of the component: the claim that it looks for is shown, a volume that it can leave without a claim
    is reserved, and one that it frees can be left to it. -/
def CallMeets (t : Taker) (w : World) : Objects.Call schema → Prop
  | .get .pv key =>
    (∃ v, w.cluster.shown.get .pv key = some v ∧ PersistentVolume.claimRef v.obj = none) → Reserved t w
  | .get .pvc key => (w.cluster.shown.get .pvc key).isSome ∧ Reserved t w
  | .list .pod => Reserved t w
  | .update .pv _ => Reserved t w ∧ ∀ v, w.cluster.stored.get .pv t.volume = some v →
      PersistentVolume.claimRef v.obj ≠ none → Clear t w (freed v.obj)
  | _ => True

/-- A call that reads the volume. -/
def Reads (t : Taker) : Objects.Call schema → Prop
  | .get .pv key => key = t.volume
  | .list .pv => True
  | _ => False

/-- **What a step must be like**: the calls of the component; and what the controller reads of the volume while it is
    available is what is stored, or passed by. -/
def Meets (t : Taker) (w : World) : Event → Prop
  | .component _ => ∀ c next copies, w.component = .preparing ⟨.call c next, copies⟩ → CallMeets t w c
  | .controller _ => w.available = true → ∀ c next, w.controller.task = .call c next → Reads t c →
      ∀ v, w.cluster.shown.get .pv t.volume = some v →
        w.cluster.stored.get .pv t.volume = some v ∨ PassedBy v.obj
  | _ => True

end Kalm.Volumes
