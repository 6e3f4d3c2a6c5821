/-
  File:      Kalm/Volumes/Orphans.lean
  Subject:   VOLUMES WITHOUT A CLAIM: what `reconcileOrphanPV` of controller/controllers/kalm_pv_controller.go leaves.

  * `attentive_reconcileOrphanPV` -- it returns only where nothing has failed;
  * `stored_of_returns` -- the state behind it, call by call;
  * `Adoptable` -- the volume has no claim or the one for volumes without a claim, that claim is there and selects the
    volume, and another reconcile changes nothing;
  * `adoptable_iff` -- the volumes of which this becomes true.
-/
import Kalm.Lib.Served
import Kalm.Volumes.Marks
import Kalm.Volumes.Parties

namespace Kalm.Volumes

open Objects (Returns State Versioned)
open Calls (Attentive Fault run)

variable {s t : Cluster} {pv : PersistentVolume} {v : Stored .pv}

/-! ## 1. The calls -/

/-- The claim for a volume without one. -/
def orphanKey (pv : PersistentVolume) : Str × Str := (kalmSystemNamespace, orphanName pv.name)

theorem ensureOrphanPVC_eq (pv : PersistentVolume) : ensureOrphanPVC pv = Objects.ensure Kind.pvc (orphanPVC pv) := by
  unfold ensureOrphanPVC Objects.ensure Objects.find attempt
  rw [Calls.Action.bind_assoc, Calls.Action.tryCall_bind, Calls.Action.tryCall_bind]
  refine congrArg (Calls.Action.call _) (funext fun r => ?_)
  rcases r with e | found
  · cases e <;> rfl
  · rfl

theorem attentive_reconcileOrphanPV (v : Stored .pv) : Attentive .unavailable (reconcileOrphanPV v) := by
  unfold reconcileOrphanPV
  simp only
  split
  · trivial
  · split
    · trivial
    · have hensure : Attentive .unavailable (ensureOrphanPVC v.obj) := by
        rw [ensureOrphanPVC_eq]
        exact (Objects.strict_ensure _ _).attentive
      split
      · exact Calls.attentive_bind (Calls.strict_invoke _).attentive fun _ => hensure
      · exact hensure

/-- The volume as the reconcile leaves it. -/
def released (pv : PersistentVolume) : PersistentVolume := if claimedElsewhere pv then cleanPVToBeAvailable pv else pv

/-- The reconcile has something to do: the volume is managed, it is not to be deleted, and nobody else has locked
    it. -/
structure Orphan (pv : PersistentVolume) : Prop where
  managed : pv.label kalmLabelManaged = str "true"
  unmarked : pv.lookup kalmLabelCleanIfPVCGone = none
  unlocked : pv.label kalmLabelPVLocker = [] ∨ pv.label kalmLabelPVLocker = controllerKalmPV

/-- **What is stored behind it.** -/
theorem stored_of_returns (hv : s.get .pv ([], PersistentVolume.name v.obj) = some v) (horphan : Orphan v.obj)
    (h : Returns (reconcileOrphanPV v) s fun _ u => u = t) :
    t.objAt .pv ([], PersistentVolume.name v.obj) = some (released v.obj) ∧
      t.objAt .pvc (orphanKey v.obj) = some ((s.objAt .pvc (orphanKey v.obj)).getD (orphanPVC v.obj)) := by
  have hmanaged : ¬ (PersistentVolume.label v.obj kalmLabelManaged ≠ str "true" ∨
      PersistentVolume.label v.obj kalmLabelCleanIfPVCGone ≠ []) := by
    rintro (hnot | hmarked)
    · exact hnot horphan.managed
    · exact hmarked (by rw [PersistentVolume.label, horphan.unmarked]; rfl)
  have hunlocked : ¬ (PersistentVolume.label v.obj kalmLabelPVLocker ≠ [] ∧
      PersistentVolume.label v.obj kalmLabelPVLocker ≠ controllerKalmPV) := by
    rintro ⟨hsome, hother⟩
    exact horphan.unlocked.elim hsome hother
  -- the claim is ensured where the volume has been freed, or was free
  have hensure (u : Cluster) (hu : u.objAt .pv ([], PersistentVolume.name v.obj) = some (released v.obj))
      (hpvc : u.objAt .pvc (orphanKey v.obj) = s.objAt .pvc (orphanKey v.obj))
      (hreturns : Returns (ensureOrphanPVC v.obj) u fun _ u' => u' = t) :
      t.objAt .pv ([], PersistentVolume.name v.obj) = some (released v.obj) ∧
        t.objAt .pvc (orphanKey v.obj) = some ((s.objAt .pvc (orphanKey v.obj)).getD (orphanPVC v.obj)) := by
    rw [ensureOrphanPVC_eq] at hreturns
    obtain rfl := Objects.ensured_of_returns hreturns
    have hsame := Objects.sameBut_ensured u Kind.pvc (orphanPVC v.obj) Kind.pv ([], PersistentVolume.name v.obj)
      fun e => by cases e.1
    refine ⟨?_, ?_⟩
    · rwa [State.objAt, hsame]
    · rw [← hpvc]
      exact Objects.objAt_ensured u Kind.pvc (orphanPVC v.obj)
  unfold reconcileOrphanPV at h
  simp only at h
  rw [if_neg hmanaged, if_neg hunlocked] at h
  split at h
  · rename_i helsewhere
    rw [Objects.returns_bind] at h
    obtain ⟨u, hu, hbut, hobj⟩ := Objects.returns_updated hv (by rfl) h
    refine hensure u ?_ ?_ hu
    · rw [hobj, released, if_pos helsewhere]
    · rw [State.objAt, hbut _ _ fun e => by cases e.1]
      rfl
  · rename_i helsewhere
    refine hensure s ?_ rfl h
    rw [State.objAt, hv, released, if_neg helsewhere]
    rfl

/-! ## 2. A volume that can be adopted -/

/-- **The volume can be adopted**: it has no claim or the claim for volumes without one, that claim is there and
    selects the volume, and another reconcile, whatever fails in it, changes nothing. -/
structure Adoptable (t : Cluster) (pvName : Str) : Prop where
  pair : ∃ (u : PersistentVolume) (pvc : PersistentVolumeClaim), t.objAt .pv ([], pvName) = some u ∧
    t.objAt .pvc (kalmSystemNamespace, orphanName pvName) = some pvc ∧
    (u.claimRef = none ∨ u.claimRef = some (kalmSystemNamespace, orphanName pvName)) ∧ pvc.selects u = true
  again : ∀ u, t.get .pv ([], pvName) = some u → ∀ faults,
    (run Objects.serve .unavailable (reconcileOrphanPV u) faults t).2 = t

/-- **The condition**: the claim of the volume differs in namespace and name from the one for volumes without a claim,
    or in neither; and the claim that is there under this name selects the volume, or there is none and the volume has
    its own name as a label. -/
structure OrphanMeets (s : Cluster) (pv : PersistentVolume) : Prop where
  released : ∀ claim, pv.claimRef = some claim → (claim.1 = kalmSystemNamespace ↔ claim.2 = orphanName pv.name)
  selected : ∀ pvc : PersistentVolumeClaim, s.objAt .pvc (orphanKey pv) = some pvc → pvc.selects pv = true
  labelled : s.objAt .pvc (orphanKey pv) = none → pv.lookup kalmLabelPV = some pv.name

theorem claimedElsewhere_eq_true {claim : Str × Str} (h : pv.claimRef = some claim) :
    claimedElsewhere pv = true ↔ claim.1 ≠ kalmSystemNamespace ∧ claim.2 ≠ orphanName pv.name := by
  rw [claimedElsewhere, h]
  simp only
  rw [Bool.and_eq_true, decide_eq_true_eq, decide_eq_true_eq]

theorem claimedElsewhere_none (h : pv.claimRef = none) : claimedElsewhere pv = false := by
  rw [claimedElsewhere, h]

theorem claimedElsewhere_released (pv : PersistentVolume) : claimedElsewhere (released pv) = false := by
  unfold released
  split
  · exact claimedElsewhere_none rfl
  · exact Bool.eq_false_iff.mpr ‹_›

/-- A volume is released unless its claim is half of the claim for volumes without one. -/
theorem claimRef_released (pv : PersistentVolume) :
    ((released pv).claimRef = none ∨ (released pv).claimRef = some (orphanKey pv)) ↔
      ∀ claim, pv.claimRef = some claim → (claim.1 = kalmSystemNamespace ↔ claim.2 = orphanName pv.name) := by
  cases hclaim : pv.claimRef with
  | none =>
      refine iff_of_true (Or.inl ?_) fun _ h => by cases h
      rw [released, if_neg (by rw [claimedElsewhere_none hclaim]; exact Bool.false_ne_true), hclaim]
  | some claim =>
      have helsewhere := claimedElsewhere_eq_true hclaim
      unfold released
      split
      · rename_i h
        obtain ⟨hns, hname⟩ := helsewhere.mp h
        refine iff_of_true (Or.inl rfl) fun claim' hclaim' => ?_
        rw [← Option.some.inj hclaim']
        exact iff_of_false hns hname
      · rename_i h
        rw [helsewhere, not_and_or, not_not, not_not] at h
        rw [hclaim, or_iff_right (Option.some_ne_none claim), Option.some.injEq]
        refine ⟨?_, fun hboth => ?_⟩
        · rintro rfl claim' hclaim'
          rw [← Option.some.inj hclaim']
          exact iff_of_true rfl rfl
        · have hiff := hboth claim rfl
          exact Prod.ext (h.elim id hiff.mpr) (h.elim hiff.mp id)

/-- The labels of a volume without a mark are those of the released one. -/
theorem lookup_released (h : pv.lookup kalmLabelCleanIfPVCGone = none) (key : Str) :
    (released pv).lookup key = pv.lookup key := by
  unfold released
  split
  · by_cases hkey : key = kalmLabelCleanIfPVCGone
    · rw [hkey, Marks.lookup_clean, h]
    · rw [cleanPVToBeAvailable, Marks.lookup_withoutLabel hkey]
      rfl
  · rfl

theorem selects_released (h : pv.lookup kalmLabelCleanIfPVCGone = none) (pvc : PersistentVolumeClaim) :
    pvc.selects (released pv) = pvc.selects pv := by
  unfold PersistentVolumeClaim.selects
  cases pvc.selector with
  | none => rfl
  | some labels => simp only [lookup_released h]

/-- The claim for a volume selects the volume with its name as a label. -/
theorem selects_orphanPVC : (orphanPVC pv).selects pv = true ↔ pv.lookup kalmLabelPV = some pv.name := by
  have hselector : (orphanPVC pv).selector = some ((∅ : ObjectLabels).insert kalmLabelPV pv.name) := rfl
  unfold PersistentVolumeClaim.selects
  rw [hselector]
  simp only [decide_eq_true_eq]
  refine ⟨fun h => ?_, fun h key hkey => ?_⟩
  · rw [h kalmLabelPV (Finmap.mem_keys.mpr (Finmap.mem_insert.mpr (Or.inl rfl))), Finmap.lookup_insert]
  · rcases Finmap.mem_insert.mp (Finmap.mem_keys.mp hkey) with rfl | hempty
    · rw [h, Finmap.lookup_insert]
    · exact absurd hempty Finmap.notMem_empty

/-- **With the claim there, a volume that is released is left alone.** -/
theorem run_again {u : Stored .pv} (helsewhere : claimedElsewhere u.obj = false)
    (hpvc : (t.get .pvc (orphanKey u.obj)).isSome) (faults : List Fault) :
    (run Objects.serve .unavailable (reconcileOrphanPV u) faults t).2 = t := by
  have hensure : (run Objects.serve .unavailable (ensureOrphanPVC u.obj) faults t).2 = t := by
    obtain ⟨found, hfound⟩ := Option.isSome_iff_exists.mp hpvc
    have hserve : Objects.serve (.get Kind.pvc (orphanKey u.obj)) t = (.ok found, t) := by
      rw [Objects.serve, hfound]
    unfold ensureOrphanPVC attempt
    rw [show (kalmSystemNamespace, orphanName (PersistentVolume.name u.obj)) = orphanKey u.obj from rfl,
      Objects.run_attempt_get]
    cases faults.headD .served with
    | served =>
        rw [Calls.meet, hserve]
        rfl
    | refused => rfl
    | lost =>
        rw [Calls.meet]
        rfl
  unfold reconcileOrphanPV
  simp only
  split
  · rfl
  · split
    · rfl
    · rw [if_neg (by rw [helsewhere]; exact Bool.false_ne_true)]
      exact hensure

/-- Where nothing fails. -/
theorem adoptable_of_returns (hv : s.get .pv ([], PersistentVolume.name v.obj) = some v) (horphan : Orphan v.obj)
    (hreturns : Returns (reconcileOrphanPV v) s fun _ u => u = t) :
    Adoptable t (PersistentVolume.name v.obj) ↔ OrphanMeets s v.obj := by
  obtain ⟨hpv, hpvc⟩ := stored_of_returns hv horphan hreturns
  have hname : (released v.obj).name = PersistentVolume.name v.obj := by
    unfold released
    split <;> rfl
  constructor
  · intro h
    obtain ⟨u, pvc, hu, hpvc', hclaim, hselects⟩ := h.pair
    obtain rfl := Option.some.inj (hpv.symm.trans hu)
    obtain rfl := Option.some.inj (hpvc.symm.trans hpvc')
    rw [selects_released horphan.unmarked] at hselects
    refine ⟨(claimRef_released v.obj).mp hclaim, fun pvc hstored => ?_, fun hnone => ?_⟩
    · rwa [hstored] at hselects
    · rw [hnone] at hselects
      exact selects_orphanPVC.mp hselects
  · intro h
    refine ⟨⟨released v.obj, _, hpv, hpvc, (claimRef_released v.obj).mpr h.released, ?_⟩, fun u hu faults' => ?_⟩
    · rw [selects_released horphan.unmarked]
      cases hstored : s.objAt .pvc (orphanKey v.obj) with
      | none => exact selects_orphanPVC.mpr (h.labelled hstored)
      | some pvc => exact h.selected pvc hstored
    · rw [State.objAt, hu] at hpv
      have hobj : u.obj = released v.obj := Option.some.inj hpv
      refine run_again (by rw [hobj, claimedElsewhere_released]) ?_ faults'
      rw [orphanKey, hobj, hname, ← State.objAt_isSome]
      exact Option.isSome_iff_exists.mpr ⟨_, hpvc⟩

/-! ## 3. Every run -/

/-- **A volume without a claim can be adopted behind a reconcile that returns, exactly where the condition is
    met.** -/
theorem adoptable_iff (s t : Cluster) (v : Stored .pv) (faults : List Fault)
    (hv : s.get .pv ([], PersistentVolume.name v.obj) = some v) (horphan : Orphan v.obj)
    (hrun : run Objects.serve .unavailable (reconcileOrphanPV v) faults s = (.returned (), t)) :
    Adoptable t (PersistentVolume.name v.obj) ↔ OrphanMeets s v.obj := by
  have hreturns := (attentive_reconcileOrphanPV v).returns hrun
  exact adoptable_of_returns hv horphan (hreturns.mono fun _ _ h => h.2)

/-- The volume of a claim that is gone. -/
def orphanCluster (claim : Str × Str) : Cluster :=
  emptyCluster.put Kind.pv { ledgerVolume with claimRef := some claim }

theorem orphan_ledger (claim : Str × Str) : Orphan { ledgerVolume with claimRef := some claim } :=
  ⟨(by decide : ledgerVolume.label kalmLabelManaged = str "true"),
    (by decide : ledgerVolume.lookup kalmLabelCleanIfPVCGone = none),
    Or.inl (by decide : ledgerVolume.label kalmLabelPVLocker = [])⟩

/-- The claim `bank/ledger` is gone. -/
theorem adoptable_iff_ledger :
    Adoptable (run Objects.serve .unavailable (reconcileOrphanPV ⟨ledgerVolume, 1⟩) []
        (orphanCluster (str "bank", str "ledger"))).2 (str "pv-ledger") := by
  refine (adoptable_iff (orphanCluster (str "bank", str "ledger")) _ ⟨ledgerVolume, 1⟩ [] rfl
    (orphan_ledger (str "bank", str "ledger")) rfl).mpr ⟨fun claim hclaim => ?_, fun pvc hpvc => ?_, fun _ => rfl⟩
  · cases hclaim
    exact iff_of_false (by decide) (by decide)
  · cases hpvc

/-- The claim `kalm-system/ledger` is gone, and the volume keeps it. -/
theorem adoptable_fails :
    ¬ ∀ (s t : Cluster) (v : Stored .pv) (faults : List Fault),
      s.get .pv ([], PersistentVolume.name v.obj) = some v → Orphan v.obj →
      (∀ claim, PersistentVolume.claimRef v.obj = some claim → s.get .pvc claim = none) →
      run Objects.serve .unavailable (reconcileOrphanPV v) faults s = (.returned (), t) →
      Adoptable t (PersistentVolume.name v.obj) := by
  intro h
  let v : Stored .pv := ⟨{ ledgerVolume with claimRef := some (kalmSystemNamespace, str "ledger") }, 1⟩
  let s : Cluster := orphanCluster (kalmSystemNamespace, str "ledger")
  have horphan : Orphan v.obj := orphan_ledger (kalmSystemNamespace, str "ledger")
  have hreturns : Returns (reconcileOrphanPV v) s fun _ u =>
      u = (run Objects.serve .unavailable (reconcileOrphanPV v) [] s).2 := ⟨(), _, rfl, rfl⟩
  have hadoptable := h s _ v [] rfl horphan (fun _ _ => rfl) rfl
  have hmeets := (adoptable_of_returns rfl horphan hreturns).mp hadoptable
  exact absurd ((hmeets.released (kalmSystemNamespace, str "ledger") rfl).mp rfl) (by decide)

end Kalm.Volumes
