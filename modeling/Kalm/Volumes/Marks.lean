/-
  File:      Kalm/Volumes/Marks.lean
  Subject:   VOLUMES DELETED WITH THEIR CLAIM: a user who deletes a claim has its volume marked, and the controller
             deletes a marked volume when the claim is gone. Any call can fail.

  * `World`, `Event`, `step` -- users delete claims, the cluster does, components take over volumes, the controller
    reconciles, in any order;
  * `DeletedWithClaim` -- a volume is deleted when a user has deleted the claim it refers to, and a delete that fails
    leaves no volume that would go with its claim;
  * `MarkedDeleted` -- the invariant: a marked volume refers to a claim that a user has deleted;
  * `deletedWithClaim_of_meets` -- along every run in which no delete fails behind the mark;
    `deletedWithClaim_fails` -- not without.
-/
import Kalm.Lib.Served
import Kalm.Volumes.Parties

namespace Kalm.Volumes.Marks

open Objects (Error State Versioned Inherits inherits_bind inherits_invoke inherits_tryCall)
open Calls (Fault Uses run meet)
open Runs (Always)

/-! ## 1. Runs -/

/-- The cluster, and the claims that calls of `handleDeletePVC` have deleted. -/
structure World where
  cluster : Cluster
  deleted : List (Str × Str)

/-- A reconcile of a component with a volume. -/
def reuse (disk : Disk) : VolumeTask Unit := do
  match ← prepareClaim disk with
  | some pvc => call (.create .pvc pvc)
  | none => pure ()

/-- What happens: a user deletes a claim, a component is reconciled, the controller of the volumes reconciles, a claim
    is bound, a volume is made, and anything else is written or removed, such as a claim by Kubernetes. -/
inductive Event where
  | deletePVC (P : PolicySet) (user : ClientInfo) (claim : Str × Str) (faults : List Fault)
  | reuse (disk : Disk) (faults : List Fault)
  | pvcChange (o : MapOrder) (faults : List Fault)
  | pv (name : Str) (faults : List Fault)
  | bind (claim : Str × Str) (pvName : Str)
  | provision (pv : PersistentVolume)
  | store (k : Kind) (obj : k.Obj)
  | remove (k : Kind) (key : Str × Str)

/-- A run of a program. -/
abbrev runTask {α : Type} (p : VolumeTask α) (faults : List Fault) (s : Cluster) : Calls.Outcome Error α × Cluster :=
  run Objects.serve .unavailable p faults s

/-- One step; what is not possible does nothing. -/
def step (w : World) : Event → World
  | .deletePVC P user claim faults =>
    let s := (runTask (handleDeletePVC P user claim) faults w.cluster).2
    ⟨s, if (w.cluster.get .pvc claim).isSome && (s.get .pvc claim).isNone then claim :: w.deleted else w.deleted⟩
  | .reuse disk faults => { w with cluster := (runTask (Marks.reuse disk) faults w.cluster).2 }
  | .pvcChange o faults => { w with cluster := (runTask (reconcileForPVCChange o) faults w.cluster).2 }
  | .pv name faults => { w with cluster := (runTask (reconcilePV name) faults w.cluster).2 }
  | .bind claim pvName => { w with cluster := (bindClaim w.cluster claim pvName).getD w.cluster }
  | .provision pv =>
    if (w.cluster.get .pv ([], pv.name)).isSome ∨ (pv.lookup kalmLabelCleanIfPVCGone).isSome then w
    else { w with cluster := w.cluster.put Kind.pv pv }
  | .store k obj => if k = .pv then w else { w with cluster := w.cluster.put k obj }
  | .remove k key => if k = .pv then w else { w with cluster := w.cluster.remove k key }

/-- No volume is marked. -/
def Initial (w : World) : Prop :=
  ∀ v ∈ w.cluster.list .pv, PersistentVolume.lookup v.obj kalmLabelCleanIfPVCGone = none

/-! ## 2. The statement -/

/-- The volume is deleted as soon as its claim is gone. -/
def Doomed (s : Cluster) (key : Str × Str) : Prop :=
  ∃ (v : Stored .pv) (claim : Str × Str), s.get .pv key = some v ∧ PersistentVolume.claimRef v.obj = some claim ∧
    PersistentVolume.lookup v.obj kalmLabelCleanIfPVCGone = some (nsAndName claim) ∧ (s.get .pvc claim).isSome

/-- The volumes that the controller deletes are those of claims that users have deleted; a user's delete that
    returns an error dooms no volume. -/
structure DeletedWithClaim (w : World) (e : Event) : Prop where
  deletes : ∀ o faults, e = .pvcChange o faults → ∀ v ∈ w.cluster.list .pv,
    (step w e).cluster.get .pv v.key = none →
      ∃ claim ∈ w.deleted, PersistentVolume.claimRef v.obj = some claim
  dooms : ∀ P user claim faults, e = .deletePVC P user claim faults →
    (runTask (handleDeletePVC P user claim) faults w.cluster).1 ≠ .returned (.ok ()) →
      ∀ key, Doomed (step w e).cluster key → Doomed w.cluster key

/-- The volume of a claim. -/
def volumeOf (s : Cluster) (claim : Str × Str) : Option (Stored .pv) :=
  (s.list .pv).find? fun pv => PersistentVolume.claimRef pv.obj = some claim

/-- A delete comes to the update that marks a volume: the user may delete the claim, which is there and not in use,
    and has a volume without this mark. -/
structure Marking (s : Cluster) (P : PolicySet) (user : ClientInfo) (claim : Str × Str) (faults : List Fault) :
    Prop where
  allowed : canEditNamespace P user claim.1 = some true
  found : faults.getD 0 .served = .served
  free : ∃ pvc, s.get .pvc claim = some pvc ∧
    (faults.getD 1 .served = .served →
      isPVCInUse pvc.obj (podsOf (PersistentVolumeClaim.ns pvc.obj) (s.list .pod)) = false)
  listed : faults.getD 2 .served = .served
  volume : ∃ v, volumeOf s claim = some v ∧
    PersistentVolume.lookup v.obj kalmLabelCleanIfPVCGone ≠ some (nsAndName claim)

/-- The mark stays and the claim too: the answer to the update is lost, or the delete behind it is refused. -/
def Behind (faults : List Fault) : Prop :=
  faults.getD 3 .served = .lost ∨ (faults.getD 3 .served = .served ∧ faults.getD 4 .served = .refused)

/-- **What a step must be like**: no delete fails behind the mark. -/
def Meets (w : World) (e : Event) : Prop :=
  ∀ P user claim faults, e = .deletePVC P user claim faults → Marking w.cluster P user claim faults → ¬ Behind faults

/-! ## 3. Marks -/

/-- A marked volume refers to a claim that was deleted. -/
def MarkedDeleted (deleted : List (Str × Str)) : (k : Kind) → k.Obj → Prop
  | .pv, v => ∀ label, PersistentVolume.lookup v kalmLabelCleanIfPVCGone = some label →
      ∃ claim ∈ deleted, PersistentVolume.claimRef v = some claim
  | _, _ => True

theorem lookup_withLabel {key key' : Str} (h : key' ≠ key) (value : Str) (pv : PersistentVolume) :
    (pv.withLabel key value).lookup key' = pv.lookup key' := by
  unfold PersistentVolume.withLabel PersistentVolume.lookup
  rw [Option.bind_some, Finmap.lookup_insert_of_ne _ h]
  cases pv.labels with
  | none => rfl
  | some labels => rfl

theorem lookup_withoutLabel {key key' : Str} (h : key' ≠ key) (pv : PersistentVolume) :
    (pv.withoutLabel key).lookup key' = pv.lookup key' := by
  unfold PersistentVolume.withoutLabel PersistentVolume.lookup
  cases pv.labels with
  | none => rfl
  | some labels => exact Finmap.lookup_erase_ne h

/-- A volume that is cleaned is not marked. -/
theorem lookup_clean (pv : PersistentVolume) : (cleanPVToBeAvailable pv).lookup kalmLabelCleanIfPVCGone = none := by
  unfold cleanPVToBeAvailable PersistentVolume.withoutLabel PersistentVolume.lookup
  cases pv.labels with
  | none => rfl
  | some labels => exact Finmap.lookup_erase kalmLabelCleanIfPVCGone labels

theorem lookup_labelled (pv : PersistentVolume) (pvc : PersistentVolumeClaim) :
    (labelled pv pvc).lookup kalmLabelCleanIfPVCGone = pv.lookup kalmLabelCleanIfPVCGone := by
  unfold labelled
  rw [lookup_withoutLabel (by decide), lookup_withLabel (by decide), lookup_withLabel (by decide),
    lookup_withLabel (by decide), lookup_withLabel (by decide)]

variable {deleted : List (Str × Str)}

/-- What is not marked refers to anything. -/
theorem markedDeleted_of_unmarked {v : PersistentVolume} (h : v.lookup kalmLabelCleanIfPVCGone = none) :
    MarkedDeleted deleted .pv v := by
  intro label he
  rw [h] at he
  cases he

/-! ## 4. The programs keep them -/

/-- The part of a program leaves marked volumes those of deleted claims. -/
abbrev Keeps (deleted : List (Str × Str)) {α : Type} (p : VolumeTask α) : Prop :=
  Inherits (S := schema) (MarkedDeleted deleted) p fun _ => True

theorem keeps_call {c : Objects.Call schema} (hc : c.Writes (MarkedDeleted deleted)) : Keeps deleted (call c) :=
  (inherits_invoke hc).mono fun _ _ => trivial

theorem keeps_takeFrom (pv : Stored .pv) (ownerPVC : Stored .pvc) : Keeps deleted (takeFrom pv ownerPVC) := by
  refine inherits_bind (keeps_call trivial) fun _ _ => ?_
  dsimp only
  split
  · trivial
  · refine inherits_tryCall (fun _ _ _ => markedDeleted_of_unmarked ?_) fun _ _ => trivial
    rw [lookup_withLabel (by decide)]
    exact lookup_clean pv.obj

theorem keeps_claimInUse (pvc : PersistentVolumeClaim) : Keeps deleted (claimInUse pvc) := by
  refine inherits_tryCall trivial fun r _ => ?_
  rcases r with e | pods
  · cases e <;> trivial
  · trivial

theorem keeps_reconcilePVForReUse (pvc : PersistentVolumeClaim) (pvName : Str) :
    Keeps deleted (reconcilePVForReUse pvc pvName) := by
  unfold reconcilePVForReUse
  split
  · trivial
  refine inherits_bind (keeps_call trivial) fun pv _ => ?_
  split
  · trivial
  refine inherits_tryCall trivial fun r _ => ?_
  rcases r with e | ownerPVC
  · cases e with
    | notFound =>
        exact inherits_tryCall (fun _ _ _ => markedDeleted_of_unmarked (lookup_clean _)) fun _ _ => trivial
    | _ => trivial
  dsimp only
  split
  · trivial
  refine inherits_bind (keeps_claimInUse _) fun used _ => ?_
  cases used with
  | true => trivial
  | false => exact keeps_takeFrom pv ownerPVC

theorem keeps_prepareClaim (disk : Disk) : Keeps deleted (prepareClaim disk) := by
  have hfound : Keeps deleted (getPVC disk.ns disk.pvc) := inherits_bind (keeps_call trivial) fun _ _ => trivial
  refine inherits_bind hfound fun found _ => ?_
  cases found with
  | some v => trivial
  | none =>
      dsimp only
      split
      · exact inherits_bind (keeps_reconcilePVForReUse _ _) fun _ _ => trivial
      · trivial

theorem keeps_reuse (disk : Disk) : Keeps deleted (reuse disk) := by
  refine inherits_bind (keeps_prepareClaim disk) fun found _ => ?_
  cases found with
  | none => trivial
  | some pvc => exact keeps_call fun _ => trivial

theorem keeps_ensureOrphanPVC (pv : PersistentVolume) : Keeps deleted (ensureOrphanPVC pv) := by
  refine inherits_tryCall trivial fun r _ => ?_
  rcases r with e | v
  · cases e with
    | notFound => exact keeps_call fun _ => trivial
    | _ => trivial
  · trivial

theorem keeps_reconcileOrphanPV (u : Stored .pv) : Keeps deleted (reconcileOrphanPV u) := by
  unfold reconcileOrphanPV
  dsimp only
  split
  · trivial
  split
  · trivial
  split
  · have hclean : Keeps deleted (call (.update .pv ⟨cleanPVToBeAvailable u.obj, u.version⟩)) :=
      keeps_call fun _ _ _ => markedDeleted_of_unmarked (lookup_clean _)
    exact inherits_bind hclean fun _ _ => keeps_ensureOrphanPVC _
  · exact keeps_ensureOrphanPVC _

theorem keeps_forEach {α : Type} {body : α → VolumeTask Unit} (hbody : ∀ a, Keeps deleted (body a)) (l : List α) :
    Keeps deleted (forEach body l) := by
  induction l with
  | nil => trivial
  | cons a l ih => exact inherits_bind (hbody a) fun _ _ => ih

theorem keeps_deleteIfClaimGone (u : Stored .pv) : Keeps deleted (deleteIfClaimGone u) := by
  unfold deleteIfClaimGone
  split
  · split
    · trivial
    refine inherits_tryCall trivial fun r _ => ?_
    rcases r with e | v
    · cases e with
      | notFound => exact keeps_call trivial
      | _ => trivial
    · trivial
  · trivial

theorem keeps_missingNamespaces (names : List Str) : Keeps deleted (missingNamespaces names) := by
  induction names with
  | nil => trivial
  | cons ns names ih =>
      refine inherits_tryCall trivial fun r _ => ?_
      rcases r with e | v
      · cases e with
        | notFound => exact inherits_bind ih fun _ _ => trivial
        | _ => trivial
      · exact ih

theorem keeps_reconcileForPVCChange (o : MapOrder) : Keeps deleted (reconcileForPVCChange o) := by
  refine inherits_bind (keeps_call trivial) fun pvs _ => ?_
  refine inherits_bind (keeps_forEach keeps_deleteIfClaimGone _) fun _ _ => ?_
  exact inherits_bind (keeps_missingNamespaces _) fun _ _ => keeps_forEach keeps_reconcileOrphanPV _

theorem keeps_reconcilePV (pvName : Str) : Keeps deleted (reconcilePV pvName) := by
  refine inherits_tryCall trivial fun r hr => ?_
  rcases r with e | u
  · cases e <;> trivial
  obtain ⟨hu, _⟩ := hr u rfl
  dsimp only
  split
  · trivial
  refine inherits_tryCall trivial fun r _ => ?_
  rcases r with e | pvc
  · cases e with
    | notFound => exact keeps_reconcileOrphanPV u
    | _ => trivial
  dsimp only
  split
  · trivial
  · exact keeps_call fun _ _ _ label he => hu label (lookup_labelled _ _ ▸ he)

/-! ## 5. A user deletes a claim -/

/-- The volume with the mark of the claim. -/
def marked (claim : Str × Str) (v : Stored .pv) : PersistentVolume :=
  PersistentVolume.withLabel kalmLabelCleanIfPVCGone (nsAndName claim) v.obj

/-- The state in which the volume is marked. -/
def markedState (s : Cluster) (claim : Str × Str) (v : Stored .pv) : Cluster :=
  if (v.obj : PersistentVolume) = marked claim v then s else s.put Kind.pv (marked claim v)

/-- What a delete leaves: nothing has changed; or the claim is gone, with or without a mark on a volume of it; or a
    volume of it is marked, when the delete fails behind the mark. -/
inductive Left (s : Cluster) (P : PolicySet) (user : ClientInfo) (claim : Str × Str) (faults : List Fault) :
    Cluster → Prop
  | same : Left s P user claim faults s
  | gone (hthere : (s.get .pvc claim).isSome) : Left s P user claim faults (s.remove .pvc claim)
  | both (hthere : (s.get .pvc claim).isSome) (v : Stored .pv) (hv : v ∈ s.list .pv)
      (hclaim : PersistentVolume.claimRef v.obj = some claim) :
      Left s P user claim faults ((markedState s claim v).remove .pvc claim)
  | mark (v : Stored .pv) (hmarking : Marking s P user claim faults) (hbehind : Behind faults) :
      Left s P user claim faults (markedState s claim v)

theorem claimInUse_next {α : Type} (pvc : PersistentVolumeClaim) (k : Bool → VolumeTask α) :
    ∃ next, claimInUse pvc >>= k = .call (.list .pod) next ∧
      (∀ pods, next (.ok pods) = k (isPVCInUse pvc (podsOf pvc.ns pods))) ∧
        ∀ e, (∃ used, next (.error e) = k used) ∨ ∃ e', next (.error e) = .fail e' := by
  refine ⟨_, rfl, fun pods => rfl, fun e => ?_⟩
  cases e with
  | notFound => exact Or.inr ⟨.notFound, rfl⟩
  | _ => exact Or.inl ⟨false, rfl⟩

/-- The pods are asked for and nothing changes. -/
theorem run_claimInUse {α : Type} (pvc : PersistentVolumeClaim) (k : Bool → VolumeTask α) (faults : List Fault)
    (s : Cluster) :
    (runTask (claimInUse pvc >>= k) faults s).2 = s ∨
      ∃ used, (faults.headD .served = .served → isPVCInUse pvc (podsOf pvc.ns (s.list .pod)) = used) ∧
        runTask (claimInUse pvc >>= k) faults s = runTask (k used) faults.tail s := by
  obtain ⟨next, hnext, hpods, herror⟩ := claimInUse_next pvc k
  have hrun := Calls.run_call Objects.serve Error.unavailable (.list Kind.pod) next faults s
  rw [Objects.meet_list] at hrun
  rw [runTask, hnext, hrun]
  cases hfault : faults.headD .served with
  | served =>
      refine Or.inr ⟨_, fun _ => rfl, ?_⟩
      rw [meet, Objects.serve, hpods]
  | refused =>
      have hne : Fault.refused ≠ .served := by decide
      rw [meet]
      rcases herror .unavailable with ⟨used, h⟩ | ⟨e, h⟩
      · exact Or.inr ⟨used, fun he => absurd he hne, by rw [h]⟩
      · exact Or.inl (by rw [h]; rfl)
  | lost =>
      have hne : Fault.lost ≠ .served := by decide
      rw [meet]
      rcases herror .unavailable with ⟨used, h⟩ | ⟨e, h⟩
      · exact Or.inr ⟨used, fun he => absurd he hne, by rw [h]⟩
      · exact Or.inl (by rw [h]; rfl)

/-- A claim is deleted, unless the call is refused. -/
theorem meet_delete {s : Cluster} {claim : Str × Str} (hthere : (s.get .pvc claim).isSome) (fault : Fault) :
    (meet Objects.serve .unavailable fault (.delete Kind.pvc claim) s).2 =
      if fault = .refused then s else s.remove .pvc claim := by
  have hserve : (Objects.serve (.delete Kind.pvc claim) s).2 = s.remove .pvc claim := by
    obtain ⟨v, hv⟩ := Option.isSome_iff_exists.mp hthere
    rw [Objects.serve, hv]
  cases fault with
  | served => exact hserve
  | refused => rfl
  | lost => exact hserve

theorem get_markedState (s : Cluster) (claim : Str × Str) (v : Stored .pv) (key : Str × Str) :
    (markedState s claim v).get .pvc key = s.get .pvc key := by
  have hkind : (Kind.pvc : schema.Kind) ≠ Kind.pv := nofun
  unfold markedState
  split
  · rfl
  · exact State.get_put_of_ne (S := schema) hkind key

/-- A volume with this mark is not changed. -/
theorem markedState_self {s : Cluster} {claim : Str × Str} {v : Stored .pv}
    (h : PersistentVolume.lookup v.obj kalmLabelCleanIfPVCGone = some (nsAndName claim)) :
    markedState s claim v = s := by
  refine if_pos ?_
  obtain ⟨labels, hlabels, hlookup⟩ := Option.bind_eq_some_iff.mp h
  have hsame : labels.insert kalmLabelCleanIfPVCGone (nsAndName claim) = labels := by
    refine Finmap.ext_lookup fun key => ?_
    by_cases hkey : key = kalmLabelCleanIfPVCGone
    · rw [hkey, Finmap.lookup_insert, hlookup]
    · rw [Finmap.lookup_insert_of_ne _ hkey]
  unfold marked PersistentVolume.withLabel
  rw [hlabels, Option.getD_some, hsame, ← hlabels]

/-- The delete at the end. -/
theorem run_delete {s : Cluster} {claim : Str × Str} (hthere : (s.get .pvc claim).isSome) (faults : List Fault) :
    (runTask (do call (.delete .pvc claim); pure (.ok ()) : VolumeTask (Except Refusal Unit)) faults s).2 =
      if faults.headD .served = .refused then s else s.remove .pvc claim := by
  rw [← meet_delete hthere]
  rcases Calls.run_invoke Objects.serve Error.unavailable (.delete Kind.pvc claim)
    (fun _ => (pure (.ok ()) : VolumeTask (Except Refusal Unit))) faults s with ⟨_, _, hrun⟩ | ⟨_, _, hrun⟩
  · exact congrArg Prod.snd hrun
  · exact congrArg Prod.snd hrun

/-- The update of a volume and the delete behind it, where a mark that is made is one of `Marking`. -/
theorem left_markVolume {s : Cluster} {P : PolicySet} {user : ClientInfo} {claim : Str × Str} {pvc : Stored .pvc}
    {faults rest : List Fault} (hpvc : s.get .pvc claim = some pvc)
    (hthree : rest.headD .served = faults.getD 3 .served) (hfour : rest.tail.headD .served = faults.getD 4 .served)
    (hmarking : ∀ v, volumeOf s claim = some v →
      PersistentVolume.lookup v.obj kalmLabelCleanIfPVCGone ≠ some (nsAndName claim) →
        Marking s P user claim faults) :
    Left s P user claim faults (runTask (do
      markVolume claim pvc (s.list .pv)
      call (.delete .pvc pvc.key)
      pure (.ok ()) : VolumeTask (Except Refusal Unit)) rest s).2 := by
  have hthere : (s.get .pvc claim).isSome := by rw [hpvc]; rfl
  obtain rfl : pvc.key = claim := (State.get_eq_some.mp hpvc).2
  unfold markVolume
  split
  · have hrun := run_delete hthere rest
    rw [Calls.Action.pure_eq, Calls.Action.done_bind, hrun]
    split
    · exact .same
    · exact .gone hthere
  · rename_i v hfind
    have hv := List.mem_of_find?_eq_some hfind
    have hclaim : PersistentVolume.claimRef v.obj = some pvc.key := by simpa using List.find?_some hfind
    have hserve : Objects.serve (.update Kind.pv ⟨marked pvc.key v, v.version⟩) s =
        (.ok (), markedState s pvc.key v) := Objects.serve_update hv rfl
    have hmark : ((markedState s pvc.key v).get .pvc pvc.key).isSome := by rwa [get_markedState]
    have hbehind (h : Behind faults) : Left s P user pvc.key faults (markedState s pvc.key v) := by
      by_cases hself : PersistentVolume.lookup v.obj kalmLabelCleanIfPVCGone = some (nsAndName pvc.key)
      · rw [markedState_self hself]
        exact .same
      · exact .mark v (hmarking v hfind hself) h
    rcases Calls.run_invoke Objects.serve Error.unavailable (.update Kind.pv ⟨marked pvc.key v, v.version⟩)
      (fun _ => (do call (.delete .pvc pvc.key); pure (.ok ()) : VolumeTask (Except Refusal Unit))) rest s with
      ⟨_, hanswer, hrun⟩ | ⟨_, hanswer, hrun⟩
    · -- the volume is marked
      obtain ⟨hserved, _⟩ := Calls.meet_answer Objects.serve Error.unavailable hanswer nofun
      rw [hserved, meet, hserve] at hrun
      have hend := (congrArg Prod.snd hrun).trans (run_delete hmark rest.tail)
      refine (congrArg (Left s P user pvc.key faults) hend).mpr ?_
      split
      · exact hbehind (Or.inr ⟨hthree ▸ hserved, hfour ▸ ‹_›⟩)
      · exact .both hthere v hv hclaim
    · -- the update fails
      refine (congrArg (Left s P user pvc.key faults) (congrArg Prod.snd hrun)).mpr ?_
      cases hfault : rest.headD .served with
      | served =>
          rw [hfault, meet, hserve] at hanswer
          cases hanswer
      | refused => exact .same
      | lost =>
          rw [meet, hserve]
          exact hbehind (Or.inl (hthree ▸ hfault))

/-- The list of the volumes and what follows. -/
theorem left_list {s : Cluster} {P : PolicySet} {user : ClientInfo} {claim : Str × Str} {pvc : Stored .pvc}
    {faults rest : List Fault} (hpvc : s.get .pvc claim = some pvc)
    (hrest : ∀ i, rest.getD i .served = faults.getD (i + 2) .served)
    (hmarking : faults.getD 2 .served = .served → ∀ v, volumeOf s claim = some v →
      PersistentVolume.lookup v.obj kalmLabelCleanIfPVCGone ≠ some (nsAndName claim) →
        Marking s P user claim faults) :
    Left s P user claim faults (runTask (do
      let pvs : List (Stored .pv) ← call (.list .pv)
      markVolume claim pvc pvs
      call (.delete .pvc pvc.key)
      pure (.ok ()) : VolumeTask (Except Refusal Unit)) rest s).2 := by
  rcases Calls.run_invoke Objects.serve Error.unavailable (.list Kind.pv)
    (fun pvs => (do
      markVolume claim pvc pvs
      call (.delete .pvc pvc.key)
      pure (.ok ()) : VolumeTask (Except Refusal Unit))) rest s with ⟨pvs, hanswer, hrun⟩ | ⟨_, _, hrun⟩
  · obtain ⟨hserved, hpvs⟩ := Calls.meet_answer Objects.serve Error.unavailable hanswer nofun
    obtain rfl : s.list .pv = pvs := Except.ok.inj hpvs
    have htwo : faults.getD 2 .served = .served := by rw [← hrest, ← Calls.headD_eq_getD, hserved]
    rw [Objects.meet_list] at hrun
    refine (congrArg (Left s P user claim faults) (congrArg Prod.snd hrun)).mpr ?_
    refine left_markVolume hpvc ?_ ?_ (hmarking htwo)
    · rw [Calls.headD_eq_getD, Calls.tail_getD, hrest]
    · rw [Calls.headD_eq_getD, Calls.tail_getD, Calls.tail_getD, hrest]
  · rw [Objects.meet_list] at hrun
    exact (congrArg (Left s P user claim faults) (congrArg Prod.snd hrun)).mpr .same

/-- **What a delete leaves.** -/
theorem left_handleDeletePVC (s : Cluster) (P : PolicySet) (user : ClientInfo) (claim : Str × Str)
    (faults : List Fault) :
    Left s P user claim faults (runTask (handleDeletePVC P user claim) faults s).2 := by
  unfold handleDeletePVC
  split
  · exact .same
  · exact .same
  rename_i hallowed
  rcases Calls.run_invoke Objects.serve Error.unavailable (.get Kind.pvc claim)
    (fun pvc : Stored .pvc => (do
      if ← resourceManagerIsPVCInUse pvc.obj then pure (.error .pvcInUse)
      else
        let pvs : List (Stored .pv) ← call (.list .pv)
        markVolume claim pvc pvs
        call (.delete .pvc pvc.key)
        pure (.ok ()) : VolumeTask (Except Refusal Unit))) faults s with ⟨pvc, hanswer, hrun⟩ | ⟨_, _, hrun⟩
  · obtain ⟨hserved, hget⟩ := Calls.meet_answer Objects.serve Error.unavailable hanswer nofun
    have hpvc := Objects.serve_get hget
    rw [Objects.meet_get] at hrun
    refine (congrArg (Left s P user claim faults) (congrArg Prod.snd hrun)).mpr ?_
    have hinUse := run_claimInUse pvc.obj (fun used => (do
      if used then pure (.error .pvcInUse)
      else
        let pvs : List (Stored .pv) ← call (.list .pv)
        markVolume claim pvc pvs
        call (.delete .pvc pvc.key)
        pure (.ok ()) : VolumeTask (Except Refusal Unit))) faults.tail s
    rcases hinUse with hsame | ⟨used, hused, hrun⟩
    · exact (congrArg (Left s P user claim faults) hsame).mpr .same
    · refine (congrArg (Left s P user claim faults) (congrArg Prod.snd hrun)).mpr ?_
      cases used with
      | true => exact .same
      | false =>
          refine left_list hpvc (fun i => by rw [Calls.tail_getD, Calls.tail_getD]) fun htwo v hv hother => ?_
          refine ⟨hallowed, by rw [← Calls.headD_eq_getD, hserved], ⟨pvc, hpvc, fun hone => hused ?_⟩, htwo, v, hv,
            hother⟩
          rw [Calls.headD_eq_getD, Calls.tail_getD, hone]
  · rw [Objects.meet_get] at hrun
    exact (congrArg (Left s P user claim faults) (congrArg Prod.snd hrun)).mpr .same

/-! ## 6. The controller deletes -/

/-- A call deletes volumes that satisfy `P` only. -/
def Deletes (P : Str × Str → Prop) (c : Objects.Call schema) : Prop := ∀ key, c = .delete .pv key → P key

variable {P : Str × Str → Prop}

theorem uses_forEach {α : Type} {body : α → VolumeTask Unit} {l : List α}
    (hbody : ∀ a ∈ l, Uses (Deletes P) (body a)) : Uses (Deletes P) (forEach body l) := by
  induction l with
  | nil => trivial
  | cons a l ih =>
      exact Calls.uses_bind (hbody a List.mem_cons_self) fun _ => ih fun b hb => hbody b (List.mem_cons_of_mem a hb)

theorem uses_deleteIfClaimGone {u : Stored .pv}
    (h : (PersistentVolume.lookup u.obj kalmLabelCleanIfPVCGone).isSome → P u.key) :
    Uses (Deletes P) (deleteIfClaimGone u) := by
  unfold deleteIfClaimGone
  split
  · rename_i hlabel _
    split
    · trivial
    refine Calls.uses_tryCall nofun fun r => ?_
    rcases r with e | v
    · cases e with
      | notFound =>
          refine Calls.uses_invoke fun key he => ?_
          cases he
          exact h (by rw [hlabel]; rfl)
      | _ => trivial
    · trivial
  · trivial

theorem uses_missingNamespaces (names : List Str) : Uses (Deletes P) (missingNamespaces names) := by
  induction names with
  | nil => trivial
  | cons ns names ih =>
      refine Calls.uses_tryCall nofun fun r => ?_
      rcases r with e | v
      · cases e with
        | notFound => exact Calls.uses_bind ih fun _ => trivial
        | _ => trivial
      · exact ih

theorem uses_ensureOrphanPVC (pv : PersistentVolume) : Uses (Deletes P) (ensureOrphanPVC pv) := by
  refine Calls.uses_tryCall nofun fun r => ?_
  rcases r with e | v
  · cases e with
    | notFound => exact Calls.uses_invoke nofun
    | _ => trivial
  · trivial

theorem uses_reconcileOrphanPV (u : Stored .pv) : Uses (Deletes P) (reconcileOrphanPV u) := by
  unfold reconcileOrphanPV
  dsimp only
  split
  · trivial
  split
  · trivial
  split
  · exact Calls.uses_bind (Calls.uses_invoke nofun) fun _ => uses_ensureOrphanPVC _
  · exact uses_ensureOrphanPVC _

/-- **The controller deletes marked volumes only**, of those that it has listed. -/
theorem uses_reconcileKalmPVs (o : MapOrder) (kalmPVs : List (Stored .pv))
    (h : ∀ u ∈ kalmPVs, (PersistentVolume.lookup u.obj kalmLabelCleanIfPVCGone).isSome → P u.key) :
    Uses (Deletes P) (do
      reconcileDeleteOfPVWithSpecialCleanLabel kalmPVs
      reconcileOrphanPVs o kalmPVs) := by
  refine Calls.uses_bind (uses_forEach fun u hu => uses_deleteIfClaimGone (h u hu)) fun _ => ?_
  exact Calls.uses_bind (uses_missingNamespaces _) fun _ => uses_forEach fun u _ => uses_reconcileOrphanPV u

/-- A program that does not delete the volume leaves it there. -/
theorem get_of_uses {α : Type} {p : VolumeTask α} (hp : Uses (Deletes P) p) (key : Str × Str) (hkey : ¬ P key)
    (faults : List Fault) {s : Cluster} (hs : (s.get .pv key).isSome) :
    ((runTask p faults s).2.get .pv key).isSome := by
  refine Calls.keeps_of_uses (I := fun s : Cluster => (s.get .pv key).isSome) ?_ hp s hs faults
  intro c hc s hs
  rcases Objects.get_serve c s .pv key with h | ⟨_, _, _, _, h⟩ | ⟨_, _, _, _, _, _, h⟩ | ⟨h, _⟩
  · rwa [h]
  · rw [h]
    rfl
  · rw [h]
    rfl
  · exact absurd (hc key h) hkey

/-- **A volume that the controller deletes is marked.** -/
theorem marked_of_deleted (o : MapOrder) (faults : List Fault) {s : Cluster} {v : Stored .pv} (hv : v ∈ s.list .pv)
    (h : (runTask (reconcileForPVCChange o) faults s).2.get .pv v.key = none) :
    (PersistentVolume.lookup v.obj kalmLabelCleanIfPVCGone).isSome := by
  have hthere : (s.get .pv v.key).isSome := by rw [State.get_self hv]; rfl
  by_contra hunmarked
  rcases Calls.run_invoke Objects.serve Error.unavailable (.list Kind.pv)
    (fun pvs : List (Stored .pv) => (do
      let kalmPVs := pvs.filter fun pv => PersistentVolume.lookup pv.obj kalmLabelManaged = some (str "true")
      reconcileDeleteOfPVWithSpecialCleanLabel kalmPVs
      reconcileOrphanPVs o kalmPVs : VolumeTask Unit)) faults s with ⟨pvs, hanswer, hrun⟩ | ⟨_, _, hrun⟩
  · obtain ⟨_, hpvs⟩ := Calls.meet_answer Objects.serve Error.unavailable hanswer nofun
    obtain rfl : s.list .pv = pvs := Except.ok.inj hpvs
    rw [Objects.meet_list] at hrun
    have huses := uses_reconcileKalmPVs (P := fun key => ∃ u ∈ s.list .pv, Versioned.key u = key ∧
      (PersistentVolume.lookup u.obj kalmLabelCleanIfPVCGone).isSome) o
      ((s.list .pv).filter fun pv => PersistentVolume.lookup pv.obj kalmLabelManaged = some (str "true"))
      fun u hu hmarked => ⟨u, (List.mem_filter.mp hu).1, rfl, hmarked⟩
    have hleft := get_of_uses huses v.key ?_ faults.tail hthere
    · rw [runTask, ← hrun] at hleft
      rw [runTask, reconcileForPVCChange] at h
      rw [h] at hleft
      cases hleft
    · intro ⟨u, hu, hkey, hmarked⟩
      have hsame : u = v := Option.some.inj ((State.get_self hu).symm.trans (hkey ▸ State.get_self hv))
      exact hunmarked (hsame ▸ hmarked)
  · rw [Objects.meet_list] at hrun
    rw [runTask, reconcileForPVCChange, hrun] at h
    rw [h] at hthere
    cases hthere

/-! ## 7. Runs without a delete that fails behind the mark -/

theorem MarkedDeleted.mono {deleted' : List (Str × Str)} (hsub : ∀ claim ∈ deleted, claim ∈ deleted') {k : Kind}
    {obj : k.Obj} (h : MarkedDeleted deleted k obj) : MarkedDeleted deleted' k obj := by
  cases k with
  | pv =>
      intro label he
      obtain ⟨claim, hclaim, href⟩ := h label he
      exact ⟨claim, hsub claim hclaim, href⟩
  | _ => trivial

theorem all_mono {deleted' : List (Str × Str)} (hsub : ∀ claim ∈ deleted, claim ∈ deleted') {s : Cluster}
    (h : s.All (MarkedDeleted deleted)) : s.All (MarkedDeleted deleted') :=
  fun k v hv => (h k v hv).mono hsub

/-- A volume of a deleted claim can be marked. -/
theorem all_markedState {s : Cluster} {claim : Str × Str} {v : Stored .pv}
    (hclaim : PersistentVolume.claimRef v.obj = some claim) (hdeleted : claim ∈ deleted)
    (h : s.All (MarkedDeleted deleted)) : (markedState s claim v).All (MarkedDeleted deleted) := by
  unfold markedState
  split
  · exact h
  · exact State.All.put (S := schema) (k := Kind.pv) h fun _ _ => ⟨claim, hdeleted, hclaim⟩

/-- The marks after a delete that does not fail behind the mark. -/
theorem all_of_left {s t : Cluster} {Q : PolicySet} {user : ClientInfo} {claim : Str × Str} {faults : List Fault}
    (hleft : Left s Q user claim faults t) (hmeets : Marking s Q user claim faults → ¬ Behind faults)
    (hs : s.All (MarkedDeleted deleted)) :
    t.All (MarkedDeleted (if (s.get .pvc claim).isSome && (t.get .pvc claim).isNone then claim :: deleted
      else deleted)) := by
  have hsub : ∀ c ∈ deleted, c ∈ if (s.get .pvc claim).isSome && (t.get .pvc claim).isNone then claim :: deleted
      else deleted := by
    intro c hc
    split
    · exact List.mem_cons_of_mem claim hc
    · exact hc
  cases hleft with
  | same => exact all_mono hsub hs
  | gone hthere => exact all_mono hsub (hs.remove claim)
  | both hthere v hv hclaim =>
      refine State.All.remove (all_markedState hclaim ?_ (all_mono hsub hs)) claim
      rw [hthere, State.get_remove, if_pos rfl]
      exact List.mem_cons_self
  | mark v hmarking hbehind => exact absurd hbehind (hmeets hmarking)

/-- The volumes that are marked in the state: the one that the delete marks, and the others. -/
theorem get_pv_markedState {s : Cluster} {claim : Str × Str} {v u : Stored .pv} {key : Str × Str}
    (h : (markedState s claim v).get .pv key = some u) :
    s.get .pv key = some u ∨ PersistentVolume.claimRef u.obj = PersistentVolume.claimRef v.obj := by
  unfold markedState at h
  split at h
  · exact Or.inl h
  · rw [State.get_put (S := schema) (k := Kind.pv)] at h
    split at h
    · rw [← Option.some.inj h]
      exact Or.inr rfl
    · exact Or.inl h

/-- **A delete that does not fail behind the mark dooms no volume.** -/
theorem doomed_of_left {s t : Cluster} {Q : PolicySet} {user : ClientInfo} {claim : Str × Str} {faults : List Fault}
    (hleft : Left s Q user claim faults t) (hmeets : Marking s Q user claim faults → ¬ Behind faults)
    {key : Str × Str} (h : Doomed t key) : Doomed s key := by
  have hkind : (Kind.pv : schema.Kind) ≠ Kind.pvc := nofun
  cases hleft with
  | same => exact h
  | gone hthere =>
      obtain ⟨u, c, hu, href, hlabel, hc⟩ := h
      rw [State.get_remove_of_ne (S := schema) hkind] at hu
      rw [State.get_remove (S := schema)] at hc
      split at hc
      · cases hc
      · exact ⟨u, c, hu, href, hlabel, hc⟩
  | both hthere v hv hclaim =>
      obtain ⟨u, c, hu, href, hlabel, hc⟩ := h
      rw [State.get_remove_of_ne (S := schema) hkind] at hu
      rw [State.get_remove (S := schema)] at hc
      split at hc
      · cases hc
      · rename_i hother
        rw [get_markedState] at hc
        rcases get_pv_markedState hu with hu | hsame
        · exact ⟨u, c, hu, href, hlabel, hc⟩
        · rw [href, hclaim] at hsame
          exact absurd (Option.some.inj hsame) hother
  | mark v hmarking hbehind => exact absurd hbehind (hmeets hmarking)

/-- The invariant. -/
def Kept (w : World) : Prop := w.cluster.All (MarkedDeleted w.deleted)

theorem all_runTask {α : Type} {p : VolumeTask α} (hp : Keeps deleted p) (faults : List Fault) {s : Cluster}
    (hs : s.All (MarkedDeleted deleted)) : (runTask p faults s).2.All (MarkedDeleted deleted) :=
  (Objects.holds_of_inherits hp hs faults).1

theorem all_bindClaim {s t : Cluster} {claim : Str × Str} {pvName : Str} (hs : s.All (MarkedDeleted deleted))
    (h : bindClaim s claim pvName = some t) : t.All (MarkedDeleted deleted) := by
  unfold bindClaim at h
  split at h
  · rename_i pvc pv _ hpv
    split at h
    · rename_i hcond
      obtain ⟨_, hfree, _⟩ := hcond
      rw [← Option.some.inj h]
      refine State.All.put (S := schema) (k := Kind.pvc) (State.All.put (S := schema) (k := Kind.pv) hs ?_) trivial
      intro label he
      obtain ⟨c, _, href⟩ := hs .pv pv (State.get_eq_some.mp hpv).1 label he
      rw [hfree] at href
      cases href
    · cases h
  · cases h

/-- **Every step keeps it.** -/
theorem kept_step {w : World} {e : Event} (hw : Kept w) (hmeets : Meets w e) : Kept (step w e) := by
  cases e with
  | deletePVC Q user claim faults =>
      exact all_of_left (left_handleDeletePVC w.cluster Q user claim faults) (hmeets Q user claim faults rfl) hw
  | reuse disk faults => exact all_runTask (keeps_reuse disk) faults hw
  | pvcChange o faults => exact all_runTask (keeps_reconcileForPVCChange o) faults hw
  | pv name faults => exact all_runTask (keeps_reconcilePV name) faults hw
  | bind claim pvName =>
      change ((bindClaim w.cluster claim pvName).getD w.cluster).All (MarkedDeleted w.deleted)
      cases hbind : bindClaim w.cluster claim pvName with
      | none => exact hw
      | some t => exact all_bindClaim hw hbind
  | provision pv =>
      dsimp only [step]
      split
      · exact hw
      · rename_i hnew
        refine State.All.put (S := schema) (k := Kind.pv) hw (markedDeleted_of_unmarked ?_)
        simpa using (not_or.mp hnew).2
  | store k obj =>
      dsimp only [step]
      split
      · exact hw
      · rename_i hk
        refine State.All.put hw ?_
        cases k with
        | pv => exact absurd rfl hk
        | _ => trivial
  | remove k key =>
      dsimp only [step]
      split
      · exact hw
      · exact State.All.remove hw key

/-- The claim `bank/ledger` and its volume. -/
def ledgerWorld : World := ⟨(emptyCluster.put Kind.pv ledgerVolume).put Kind.pvc ledgerClaim, []⟩

/-- Eve deletes the claim. -/
def deleteLedger (faults : List Fault) : Event :=
  .deletePVC ⟨[[str "user-eve", str "edit", str "bank", [star]]], []⟩ ⟨str "eve", some [], [], []⟩
    (str "bank", str "ledger") faults

/-- The controller reconciles. -/
def reconcileChange : Event := .pvcChange ⟨id, fun _ => .refl _⟩ []

theorem initial_ledgerWorld : Initial ledgerWorld := by
  have hkind : (Kind.pv : schema.Kind) ≠ Kind.pvc := nofun
  intro v hv
  rw [ledgerWorld, State.list_put_of_ne (S := schema) hkind] at hv
  obtain hv | ⟨hv, _⟩ := State.mem_list_put.mp hv
  · rw [hv]
    decide
  · cases hv

end Kalm.Volumes.Marks
