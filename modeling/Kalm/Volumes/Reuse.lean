/-
  File:      Kalm/Volumes/Reuse.lean
  Subject:   A FREED VOLUME GOES TO THE COMPONENT THAT ASKED FOR IT: in every order of the steps of the component, of
             the controller of the volumes, of the binder and of the informers.

  * `heeds_reconcile` -- whatever the controller is answered, it goes by the copies of the volume that it has come by;
  * `reuses_prepareClaim` -- so does the component, when the claim it looks for is shown;
  * `Inv`, `inv_step` -- the invariant: all copies are genuine, and an available volume is locked and only the
    component's claim can be bound to it;
  * `keptFor_of_meets` -- along every run whose steps meet the condition the volume is kept for the component;
  * `keptFor_fails` -- not without: the claim is gone already, and the volume is freed without a lock; or a copy of the
    volume from before the lock is shown.
-/
import Kalm.Volumes.Marks

namespace Kalm.Volumes

open Objects (Cached Error Genuine Past State Versioned serveCached)
open Calls (Action Fault Guarded meet guarded_bind guarded_tryCall guarded_invoke guarded_last)
open Runs (Always)

variable {t : Taker} {copies : List (Stored .pv)}

/-! ## 1. Reconciles of the controller -/

/-- A call of the controller goes by a copy of the volume: an update by one with a claim, and the claim for nobody by
    one that is not passed by. -/
def ByCopy (t : Taker) : Objects.Call schema → List (Stored .pv) → Prop
  | .update .pv u, copies => u.key = t.volume →
      ∃ v ∈ copies, v.version = u.version ∧ PersistentVolume.claimRef v.obj ≠ none
  | .create .pvc pvc, copies => ∃ pv, pvc = orphanPVC pv ∧
      (PersistentVolume.name pv = t.disk.pvToMatch → ∃ v ∈ copies, ¬ PassedBy v.obj)
  | .create .pv _, _ => False
  | .update .pvc _, _ => False
  | _, _ => True

/-- What a call does to the copies. -/
def Gathers (t : Taker) (c : Objects.Call schema) (r : Except Error c.Reply) (x y : List (Stored .pv)) : Prop :=
  y = x ++ copiesOf t c r

/-- Every call of a reconcile goes by a copy. -/
def Heeds (t : Taker) (p : VolumeTask Unit) (copies : List (Stored .pv)) : Prop :=
  Guarded (ByCopy t) (Gathers t) (fun _ _ => True) p copies

/-- Every call of a part goes by a copy, and the part keeps the copies. -/
abbrev HeedsOn (t : Taker) {α : Type} (p : VolumeTask α) (copies : List (Stored .pv)) : Prop :=
  Guarded (ByCopy t) (Gathers t) (fun _ y => copies ⊆ y) p copies

theorem Gathers.same {c : Objects.Call schema} {r : Except Error c.Reply} {y : List (Stored .pv)}
    (h : Gathers t c r copies y) (hc : copiesOf t c r = []) : y = copies := by
  rw [h, hc, List.append_nil]

theorem Gathers.subset {c : Objects.Call schema} {r : Except Error c.Reply} {y : List (Stored .pv)}
    (h : Gathers t c r copies y) : copies ⊆ y := h ▸ List.subset_append_left _ _

theorem orphanName_injective {a b : Str} (h : orphanName a = orphanName b) : a = b :=
  List.append_cancel_left h

theorem heedsOn_ensureOrphanPVC {pv : PersistentVolume}
    (hpv : pv.name = t.disk.pvToMatch → ∃ v ∈ copies, ¬ PassedBy v.obj) : HeedsOn t (ensureOrphanPVC pv) copies := by
  refine guarded_tryCall trivial fun r y hy => ?_
  obtain rfl := hy.same rfl
  rcases r with e | v
  · cases e with
    | notFound => exact guarded_last ⟨pv, rfl, hpv⟩ fun _ y hy => hy.subset
    | _ => trivial
  · exact List.Subset.refl _

theorem claimRef_of_elsewhere {pv : PersistentVolume} (h : claimedElsewhere pv = true) : pv.claimRef ≠ none := by
  intro hnone
  rw [claimedElsewhere, hnone] at h
  cases h

/-- A volume that is cleaned is not passed by any more, when only its claim was in the way. -/
theorem not_passedBy_clean {pv : PersistentVolume}
    (hmanaged : ¬ (pv.label kalmLabelManaged ≠ str "true" ∨ pv.label kalmLabelCleanIfPVCGone ≠ []))
    (hlock : ¬ Locked pv) : ¬ PassedBy (cleanPVToBeAvailable pv) := by
  have hlabel (key : Str) (hkey : key ≠ kalmLabelCleanIfPVCGone) :
      (cleanPVToBeAvailable pv).label key = pv.label key := by
    unfold PersistentVolume.label
    rw [cleanPVToBeAvailable, Marks.lookup_withoutLabel hkey]
    rfl
  have hmark : (cleanPVToBeAvailable pv).label kalmLabelCleanIfPVCGone = [] := by
    rw [PersistentVolume.label, Marks.lookup_clean]
    rfl
  rintro (h | h | h | h)
  · rw [hlabel _ (by decide)] at h
    exact hmanaged (Or.inl h)
  · exact h hmark
  · rw [Locked, hlabel _ (by decide)] at h
    exact hlock h
  · cases h

/-- **The claim for nobody comes from a copy that is not passed by.** -/
theorem heedsOn_reconcileOrphanPV {u : Stored .pv} (hu : u.key = t.volume → u ∈ copies) :
    HeedsOn t (reconcileOrphanPV u) copies := by
  unfold reconcileOrphanPV
  dsimp only
  split
  · exact List.Subset.refl _
  rename_i hmanaged
  split
  · exact List.Subset.refl _
  rename_i hlock
  split
  · rename_i helsewhere
    refine guarded_invoke (fun hkey => ⟨u, hu hkey, rfl, claimRef_of_elsewhere helsewhere⟩) fun _ y hy => ?_
    refine (heedsOn_ensureOrphanPVC fun hname => ⟨⟨cleanPVToBeAvailable u.obj, u.version⟩, ?_, ?_⟩).mono
      fun _ z hz => List.Subset.trans hy.subset hz
    · rw [hy]
      refine List.mem_append_right _ (List.mem_filter.mpr ⟨List.mem_singleton_self _, decide_eq_true ?_⟩)
      exact Prod.ext rfl hname
    · exact not_passedBy_clean hmanaged hlock
  · rename_i helsewhere
    refine heedsOn_ensureOrphanPVC fun hname => ⟨u, hu (Prod.ext rfl hname), ?_⟩
    rintro (h | h | h | h)
    · exact hmanaged (Or.inl h)
    · exact hmanaged (Or.inr h)
    · exact hlock h
    · exact helsewhere h

theorem heedsOn_deleteIfClaimGone (u : Stored .pv) : HeedsOn t (deleteIfClaimGone u) copies := by
  unfold deleteIfClaimGone
  split
  · split
    · exact List.Subset.refl _
    refine guarded_tryCall trivial fun r y hr => ?_
    obtain rfl := hr.same rfl
    rcases r with e | v
    · cases e with
      | notFound => exact guarded_last trivial fun _ y hy => hy.subset
      | _ => trivial
    · exact List.Subset.refl _
  · exact List.Subset.refl _

theorem heedsOn_forEach {α : Type} {body : α → VolumeTask Unit} {l : List α}
    (hbody : ∀ a ∈ l, ∀ y, copies ⊆ y → HeedsOn t (body a) y) : HeedsOn t (forEach body l) copies := by
  induction l generalizing copies with
  | nil => exact List.Subset.refl _
  | cons a l ih =>
      refine guarded_bind ((hbody a List.mem_cons_self copies (List.Subset.refl _)).mono fun _ y hy => ?_)
      refine (ih fun b hb z hz => ?_).mono fun _ z hz => List.Subset.trans hy hz
      exact hbody b (List.mem_cons_of_mem a hb) z (List.Subset.trans hy hz)

theorem heedsOn_missingNamespaces (names : List Str) : HeedsOn t (missingNamespaces names) copies := by
  induction names with
  | nil => exact List.Subset.refl _
  | cons ns names ih =>
      refine guarded_tryCall trivial fun r y hr => ?_
      obtain rfl := hr.same rfl
      rcases r with e | v
      · cases e with
        | notFound => exact guarded_bind (ih.mono fun _ y hy => hy)
        | _ => trivial
      · exact ih

theorem heedsOn_reconcilePV (pvName : Str) : HeedsOn t (reconcilePV pvName) copies := by
  refine guarded_tryCall trivial fun r y hr => ?_
  have hsubset := hr.subset
  rcases r with e | u
  · cases e with
    | notFound => exact hsubset
    | _ => trivial
  have hu : Versioned.key (u : Stored .pv) = t.volume → u ∈ y := fun hkey =>
    hr ▸ List.mem_append_right _ (List.mem_filter.mpr ⟨List.mem_singleton_self _, decide_eq_true hkey⟩)
  dsimp only
  split
  · exact hsubset
  rename_i claim hclaim
  refine guarded_tryCall trivial fun r z hz => ?_
  obtain rfl := hz.same rfl
  rcases r with e | pvc
  · cases e with
    | notFound => exact (heedsOn_reconcileOrphanPV hu).mono fun _ z hz => List.Subset.trans hsubset hz
    | _ => trivial
  dsimp only
  split
  · exact hsubset
  · refine guarded_last (fun hkey => ⟨u, hu hkey, rfl, ?_⟩) fun _ y hy => List.Subset.trans hsubset hy.subset
    rw [hclaim]
    exact Option.some_ne_none claim

theorem heedsOn_reconcileForPVCChange (o : MapOrder) : HeedsOn t (reconcileForPVCChange o) copies := by
  refine guarded_invoke trivial fun pvs y hy => ?_
  have hfresh : ∀ u ∈ (pvs : List (Stored .pv)), u.key = t.volume → u ∈ y := fun u hu hkey =>
    hy ▸ List.mem_append_right _ (List.mem_filter.mpr ⟨hu, decide_eq_true hkey⟩)
  refine guarded_bind ((heedsOn_forEach fun u _ z _ => heedsOn_deleteIfClaimGone u).mono fun _ z hz => ?_)
  refine guarded_bind ((heedsOn_missingNamespaces _).mono fun missing x hx => ?_)
  refine (heedsOn_forEach fun u hu x' hx' => heedsOn_reconcileOrphanPV fun hkey => ?_).mono fun _ x' hx' v hv =>
    hx' (hx (hz (hy.subset hv)))
  exact hx' (hx (hz (hfresh u (List.mem_filter.mp (List.mem_filter.mp hu).1).1 hkey)))

/-- **A reconcile of the controller goes by the copies of the volume.** -/
theorem heeds_reconcile (t : Taker) (req : Request) : Heeds t req.reconcile [] := by
  cases req with
  | pv name => exact (heedsOn_reconcilePV name).mono fun _ _ _ => trivial
  | pvcChange o => exact (heedsOn_reconcileForPVCChange o).mono fun _ _ _ => trivial

/-! ## 2. The reuse -/

/-- Behind such an answer the reuse can leave the volume as it is. -/
def Leaves : (c : Objects.Call schema) → Except Error c.Reply → Prop
  | .get .pv _, .ok v => PersistentVolume.claimRef (Versioned.obj v) = none
  | .get .pvc _, _ => True
  | .list .pod, _ => True
  | .update .pv _, _ => True
  | _, _ => False

/-- The answers to calls that meet the condition. -/
def Shown : (c : Objects.Call schema) → Except Error c.Reply → Prop
  | .get .pv key, .ok v => Versioned.key v = key
  | .get .pvc _, r => r ≠ .error .notFound
  | _, _ => True

/-- A call of the reuse: the volume is freed as in a copy of it that has a claim. -/
def ReuseCall : Objects.Call schema → List (Stored .pv) × Prop → Prop
  | .update .pv u, x => ∃ v ∈ x.1, u = ⟨freed v.obj, v.version⟩ ∧ PersistentVolume.claimRef v.obj ≠ none
  | .create _ _, _ => False
  | .update _ _, _ => False
  | .delete .pv _, _ => False
  | _, _ => True

/-- What the reuse knows behind a call: its copies, and whether it can leave the volume as it is. -/
def Learns (t : Taker) (c : Objects.Call schema) (r : Except Error c.Reply) (x y : List (Stored .pv) × Prop) : Prop :=
  y = (x.1 ++ copiesOf t c r, Leaves c r) ∧ Shown c r

/-- The claim of the component is to be created only where the reuse has left the volume. -/
def Reuses (t : Taker) (p : VolumeTask (Option PersistentVolumeClaim)) (x : List (Stored .pv) × Prop) : Prop :=
  Guarded ReuseCall (Learns t) (fun found y => ∀ pvc, found = some pvc → pvc = t.disk.expectedPVC ∧ y.2) p x

theorem locked_freed (pv : PersistentVolume) : Locked (freed pv) := by
  have hlabel : (freed pv).label kalmLabelPVLocker = controllerComponent := by
    unfold PersistentVolume.label PersistentVolume.lookup freed PersistentVolume.withLabel
    rw [Option.bind_some, Finmap.lookup_insert, Option.getD_some]
  unfold Locked
  rw [hlabel]
  exact ⟨by decide, by decide⟩

section Reuse

variable {x : List (Stored .pv) × Prop}

theorem reuses_claimInUse (pvc : PersistentVolumeClaim) :
    Guarded ReuseCall (Learns t) (fun _ y => x.1 ⊆ y.1 ∧ y.2) (claimInUse pvc) x := by
  refine guarded_tryCall trivial fun r y hy => ?_
  obtain ⟨rfl, -⟩ := hy
  have hsubset : x.1 ⊆ x.1 ++ copiesOf t (.list Kind.pod) r := List.subset_append_left _ _
  rcases r with e | pods
  · cases e with
    | notFound => trivial
    | _ => exact ⟨hsubset, trivial⟩
  · exact ⟨hsubset, trivial⟩

/-- The volume is freed as it was read. -/
theorem reuses_takeFrom {pv : Stored .pv} (hmem : pv ∈ x.1) (hclaim : PersistentVolume.claimRef pv.obj ≠ none)
    (ownerPVC : Stored .pvc) : Guarded ReuseCall (Learns t) (fun _ y => y.2) (takeFrom pv ownerPVC) x := by
  refine guarded_invoke trivial fun _ y hy => ?_
  obtain ⟨rfl, -⟩ := hy
  dsimp only
  split
  · trivial
  · refine guarded_tryCall ⟨pv, List.mem_append_left _ hmem, rfl, hclaim⟩ fun r y hy => ?_
    obtain ⟨rfl, -⟩ := hy
    exact trivial

theorem reuses_reconcilePVForReuse (pvc : PersistentVolumeClaim) (hpvc : pvc.volumeName ≠ t.disk.pvToMatch) :
    Guarded ReuseCall (Learns t) (fun _ y => y.2) (reconcilePVForReUse pvc t.disk.pvToMatch) x := by
  unfold reconcilePVForReUse
  rw [if_neg hpvc]
  refine guarded_invoke trivial fun pv y hy => ?_
  obtain ⟨rfl, hkey⟩ := hy
  have hmem : pv ∈ x.1 ++ copiesOf t (.get .pv ([], t.disk.pvToMatch)) (.ok pv) :=
    List.mem_append_right _ (List.mem_filter.mpr ⟨List.mem_singleton_self _, decide_eq_true hkey⟩)
  split
  · rename_i hfree
    exact hfree
  rename_i owner hclaim
  refine guarded_tryCall trivial fun r y hy => ?_
  obtain ⟨rfl, hthere⟩ := hy
  rcases r with e | ownerPVC
  · cases e with
    | notFound => exact absurd rfl hthere
    | _ => trivial
  dsimp only
  split
  · exact trivial
  refine guarded_bind ((reuses_claimInUse _).mono fun used y hy => ?_)
  cases used with
  | true => exact hy.2
  | false =>
      refine reuses_takeFrom (hy.1 (List.mem_append_left _ hmem)) ?_ ownerPVC
      rw [hclaim]
      exact Option.some_ne_none owner

/-- **The component frees the volume as it was read.** -/
theorem reuses_prepareClaim (t : Taker) : Reuses t (prepareClaim t.disk) ([], False) := by
  refine guarded_bind (guarded_invoke trivial fun pvcs y _ => ?_)
  cases (pvcs : List (Stored .pvc)).find? fun pvc => pvc.key = (t.disk.ns, t.disk.pvc) with
  | some v => exact fun pvc he => nomatch he
  | none =>
      dsimp only
      rw [if_pos t.asks]
      refine guarded_bind ((reuses_reconcilePVForReuse _ (Ne.symm t.asks)).mono fun _ y hy pvc he => ?_)
      exact ⟨(Option.some.inj he).symm, hy⟩

end Reuse

/-! ## 3. What a call does -/

/-- The copies of a reconcile are of the volume, and genuine. -/
def Sound (t : Taker) (s : Cluster) (copies : List (Stored .pv)) : Prop :=
  ∀ v ∈ copies, v.key = t.volume ∧ Genuine s v

section Call

variable {w : Cached schema} {s : Cluster} {c : Objects.Call schema} {fault : Fault}

/-- **A copy of the volume is shown**, or it was written. -/
theorem mem_copiesOf {v : Stored .pv} (h : v ∈ copiesOf t c (meet serveCached .unavailable fault c w).1) :
    v.key = t.volume ∧ ((Reads t c ∧ w.shown.get .pv t.volume = some v) ∨
      (c = .update .pv v ∧ fault = .served ∧ (Objects.serve (.update Kind.pv v) w.stored).1 = .ok ())) := by
  unfold copiesOf at h
  split at h
  · rename_i key u hu
    obtain ⟨hmem, hkey⟩ := List.mem_filter.mp h
    obtain rfl := List.mem_singleton.mp hmem
    have hkey := of_decide_eq_true hkey
    have hget := Objects.serve_get (Calls.meet_answer serveCached .unavailable hu nofun).2
    have hsame : key = t.volume := (State.get_eq_some.mp hget).2.symm.trans hkey
    exact ⟨hkey, Or.inl ⟨hsame, hsame ▸ hget⟩⟩
  · rename_i pvs hpvs
    obtain ⟨hmem, hkey⟩ := List.mem_filter.mp h
    have hkey := of_decide_eq_true hkey
    obtain ⟨_, hserve⟩ := Calls.meet_answer serveCached .unavailable hpvs nofun
    cases hserve
    exact ⟨hkey, Or.inl ⟨trivial, hkey ▸ State.get_self hmem⟩⟩
  · rename_i u r hr
    obtain ⟨hmem, hkey⟩ := List.mem_filter.mp h
    obtain rfl := List.mem_singleton.mp hmem
    obtain ⟨hfault, hserve⟩ := Calls.meet_answer serveCached .unavailable hr nofun
    exact ⟨of_decide_eq_true hkey, Or.inr ⟨rfl, hfault, hserve⟩⟩
  · cases h

/-- **The copies that a call adds are genuine.** -/
theorem sound_copiesOf (h : Objects.Follows w) : Sound t (meet serveCached .unavailable fault c w).2.stored
    (copiesOf t c (meet serveCached .unavailable fault c w).1) := by
  intro v hv
  obtain ⟨hkey, ⟨_, hshown⟩ | ⟨rfl, rfl, hserve⟩⟩ := mem_copiesOf hv
  · exact ⟨hkey, (h.genuine hshown).later (Objects.follows_meet .unavailable fault c h).2⟩
  · exact ⟨hkey, h.dated.genuine_update hserve⟩

theorem Sound.later {s' : Cluster} (h : Sound t s copies) (hpast : Past s s') : Sound t s' copies :=
  fun v hv => ⟨(h v hv).1, (h v hv).2.later hpast⟩

theorem Sound.append {more : List (Stored .pv)} (h : Sound t s copies) (hmore : Sound t s more) :
    Sound t s (copies ++ more) := by
  intro v hv
  rcases List.mem_append.mp hv with hv | hv
  · exact h v hv
  · exact hmore v hv

/-- An update that goes by a genuine copy replaces that copy. -/
theorem eq_of_update {v u current : Stored .pv} (h : Sound t s copies) (hv : v ∈ copies)
    (hversion : v.version = u.version) (hget : s.get .pv t.volume = some current)
    (hcurrent : current.version = u.version) : current = v := by
  obtain ⟨hkey, hgenuine⟩ := h v hv
  exact hgenuine.same current (hkey ▸ hget) (hcurrent.trans hversion.symm)

/-- Other claims than the component's are as they were, or cannot be bound to the volume. -/
theorem onlyFor_meet {pv : PersistentVolume} (hs : OnlyFor t s pv) (hcreate : ∀ pvc, c = .create Kind.pvc pvc →
      Kind.key .pvc pvc = t.claim ∨ PersistentVolumeClaim.selects pvc pv = false)
    (hupdate : ∀ u, c ≠ .update Kind.pvc u) : OnlyFor t (meet Objects.serve .unavailable fault c s).2 pv := by
  intro pvc hmem hkey hunbound
  have hget := State.mem_list_iff.mp hmem
  rcases get_meet fault c s .pvc pvc.key with h | ⟨obj, hc, _, h⟩ | ⟨u, _, hu, _⟩ | ⟨_, h⟩
  · exact hs pvc (State.mem_list_iff.mpr (h ▸ hget)) hkey hunbound
  · rw [h] at hget
    cases hget
    exact (hcreate obj hc).resolve_left hkey
  · exact absurd hu (hupdate u)
  · rw [h] at hget
    cases hget

end Call

theorem not_selects_orphan {pv v : PersistentVolume} (hlabel : NotAnother t v) (hname : pv.name ≠ t.disk.pvToMatch) :
    (orphanPVC pv).selects v = false := by
  refine decide_eq_false fun hall => hname (hlabel pv.name ?_)
  have hkey := hall kalmLabelPV (Finmap.mem_keys.mpr (Finmap.mem_insert.mpr (Or.inl rfl)))
  rw [hkey, Finmap.lookup_insert]

/-! ## 4. The invariant -/

/-- The component is on its way. -/
def Phase.OnWay (t : Taker) (s : Cluster) : Phase → Prop
  | .idle => True
  | .preparing r => r.task.ended = false ∧ (∃ leaves, Reuses t r.task (r.copies, leaves)) ∧ Sound t s r.copies
  | .creating pvc => pvc = t.disk.expectedPVC

/-- The volume is left to the component. -/
structure LeftTo (t : Taker) (w : World) : Prop where
  volume : ∀ v, w.cluster.stored.get .pv t.volume = some v → PersistentVolume.claimRef v.obj = none ∧ Locked v.obj ∧
    NotAnother t v.obj ∧ OnlyFor t w.cluster.stored v.obj
  copies : w.controller.task.ended = false → ∀ v ∈ w.controller.copies, PassedBy v.obj

/-- **The invariant.** -/
structure Inv (t : Taker) (w : World) : Prop where
  cluster : Objects.Follows w.cluster
  controller : Heeds t w.controller.task w.controller.copies
  copies : Sound t w.cluster.stored w.controller.copies
  component : w.component.OnWay t w.cluster.stored
  available : w.available = true → LeftTo t w

theorem Phase.OnWay.later {s s' : Cluster} {p : Phase} (h : p.OnWay t s) (hpast : Past s s') : p.OnWay t s' := by
  cases p with
  | idle => trivial
  | preparing r => exact ⟨h.1, h.2.1, h.2.2.later hpast⟩
  | creating pvc => exact h

theorem inv_initial {w : World} (h : Initial w) : Inv t w := by
  obtain ⟨s, hs, hdated⟩ := h.cluster
  refine ⟨?_, ?_, ?_, ?_, fun ha => nomatch h.available.symm.trans ha⟩
  · rw [hs]
    exact Objects.follows_synced hdated
  · rw [h.controller]
    exact trivial
  · rw [h.controller]
    exact fun v hv => nomatch hv
  · rw [h.component]
    exact trivial

theorem inv_startComponent {w : World} (h : Inv t w) : Inv t (step t w .startComponent) := by
  simp only [step]
  split
  · refine ⟨h.cluster, h.controller, h.copies, ⟨rfl, ⟨False, reuses_prepareClaim t⟩, fun v hv => nomatch hv⟩, ?_⟩
    intro ha
    exact ⟨(h.available ha).volume, (h.available ha).copies⟩
  · exact h

theorem inv_startController {w : World} (h : Inv t w) (req : Request) : Inv t (step t w (.startController req)) := by
  simp only [step]
  split
  · refine ⟨h.cluster, heeds_reconcile t req, fun v hv => (nomatch hv), h.component, fun ha => ?_⟩
    exact ⟨(h.available ha).volume, fun _ v hv => (nomatch hv)⟩
  · exact h

theorem stored_deliver (s : Cached schema) (k : Kind) : (s.deliver k).stored = s.stored := by
  unfold Cached.deliver
  split <;> rfl

theorem inv_deliver {w : World} (h : Inv t w) (k : Kind) : Inv t (step t w (.deliver k)) := by
  have hsame : (step t w (.deliver k)).cluster.stored = w.cluster.stored := stored_deliver w.cluster k
  refine ⟨h.cluster.deliver k, h.controller, hsame.symm ▸ h.copies, hsame.symm ▸ h.component, fun ha => ?_⟩
  exact ⟨hsame.symm ▸ (h.available ha).volume, (h.available ha).copies⟩

/-- An available volume is not written. -/
theorem get_of_leftTo {w : World} {c : Objects.Call schema} {fault : Fault} {v : Stored .pv} (hleft : LeftTo t w)
    (hupdate : ∀ u, c = .update Kind.pv u → u.key = t.volume →
      ∃ copies, Sound t w.cluster.stored copies ∧ ∃ v ∈ copies, v.version = u.version ∧
        PersistentVolume.claimRef v.obj ≠ none) (hcreate : ∀ pv, c ≠ .create Kind.pv pv)
    (hv : (meet serveCached .unavailable fault c w.cluster).2.stored.get .pv t.volume = some v) :
    w.cluster.stored.get .pv t.volume = some v := by
  rw [Objects.stored_meet] at hv
  rcases get_meet fault c w.cluster.stored .pv t.volume with h | ⟨pv, hc, _⟩ |
    ⟨u, current, hc, hkey, hget, hcurrent, _⟩ | ⟨_, h⟩
  · exact h ▸ hv
  · exact absurd hc (hcreate pv)
  · obtain ⟨copies, hsound, copy, hmem, hversion, hclaimed⟩ := hupdate u hc hkey
    obtain rfl := eq_of_update hsound hmem hversion hget hcurrent
    exact absurd ((hleft.volume _ hget).1) hclaimed
  · rw [h] at hv
    cases hv

/-- **One call of the controller.** -/
theorem inv_controller {w : World} (h : Inv t w) (fault : Fault) (hm : Meets t w (.controller fault)) :
    Inv t (step t w (.controller fault)) := by
  have hcontroller := h.controller
  simp only [step]
  unfold Reconcile.next
  split
  swap
  · exact h
  rename_i c next htask
  rw [htask] at hcontroller
  obtain ⟨hc, hnext⟩ := hcontroller
  obtain ⟨hfollows, hpast⟩ := Objects.follows_meet .unavailable fault c h.cluster
  refine ⟨hfollows, hnext _ _ rfl, (h.copies.later hpast).append (sound_copiesOf h.cluster), h.component.later hpast,
    fun ha => ?_⟩
  have hleft := h.available ha
  have hbefore := hleft.copies (by rw [htask]; rfl)
  have hold : ∀ v, (meet serveCached .unavailable fault c w.cluster).2.stored.get .pv t.volume = some v →
      w.cluster.stored.get .pv t.volume = some v := by
    refine fun v => get_of_leftTo hleft (fun u he hkey => ?_) fun pv he => ?_
    · subst he
      exact ⟨_, h.copies, hc hkey⟩
    · subst he
      exact hc
  refine ⟨fun v hv => ?_, fun _ v hv => ?_⟩
  · obtain ⟨hfree, hlocked, hlabel, hothers⟩ := hleft.volume v (hold v hv)
    refine ⟨hfree, hlocked, hlabel, ?_⟩
    dsimp only
    rw [Objects.stored_meet]
    refine onlyFor_meet hothers (fun pvc he => Or.inr ?_) fun u he => ?_
    · subst he
      obtain ⟨pv, rfl, hcopy⟩ := hc
      refine not_selects_orphan hlabel fun hname => ?_
      obtain ⟨copy, hmem, hnot⟩ := hcopy hname
      exact hnot (hbefore copy hmem)
    · subst he
      exact hc
  · rcases List.mem_append.mp hv with hv | hv
    · exact hbefore v hv
    obtain ⟨hkey, ⟨hreads, hshown⟩ | ⟨rfl, rfl, hserve⟩⟩ := mem_copiesOf hv
    · rcases hm ha c next htask hreads v hshown with hstored | hpassed
      · exact Or.inr (Or.inr (Or.inl (hleft.volume v hstored).2.1))
      · exact hpassed
    · obtain ⟨current, hget, hcurrent⟩ := Objects.exists_of_update hserve
      obtain ⟨copy, hmem, hversion, hclaimed⟩ := hc hkey
      rw [hkey] at hget
      obtain rfl := eq_of_update h.copies hmem hversion hget hcurrent
      exact absurd (hleft.volume _ hget).1 hclaimed

/-- The answer to a call that meets the condition. -/
theorem shown_meet {w : World} {c : Objects.Call schema} {fault : Fault} (hm : CallMeets t w c) :
    Shown c (meet serveCached .unavailable fault c w.cluster).1 := by
  unfold Shown
  split
  · rename_i key v hv
    exact (State.get_eq_some.mp (Objects.serve_get (Calls.meet_answer serveCached .unavailable hv nofun).2)).2
  · intro hr
    have hnone := Objects.serve_get_error (Calls.meet_answer serveCached .unavailable hr nofun).2
    have hthere := hm.1
    rw [hnone] at hthere
    cases hthere
  · trivial

/-- Where the reuse can leave the volume, a volume without a claim is reserved. -/
theorem reserved_of_leaves {w : World} {c : Objects.Call schema} {fault : Fault} (hm : CallMeets t w c)
    (hleaves : Leaves c (meet serveCached .unavailable fault c w.cluster).1) : Reserved t w := by
  unfold Leaves at hleaves
  split at hleaves
  · rename_i v hv
    exact hm ⟨v, Objects.serve_get (Calls.meet_answer serveCached .unavailable hv nofun).2, hleaves⟩
  · exact hm.2
  · exact hm
  · exact hm.1
  · exact hleaves.elim

theorem onlyFor_reuse {w : World} {c : Objects.Call schema} {fault : Fault} {pv : PersistentVolume}
    {x : List (Stored .pv) × Prop} (hc : ReuseCall c x) (hs : OnlyFor t w.cluster.stored pv) :
    OnlyFor t (meet serveCached .unavailable fault c w.cluster).2.stored pv := by
  rw [Objects.stored_meet]
  refine onlyFor_meet hs (fun pvc he => ?_) fun u he => ?_
  · subst he
    exact hc.elim
  · subst he
    exact hc.elim

/-- **The volume is left to the component** when its reuse comes to an end with the volume free. -/
theorem leftTo_reuse {w : World} {c : Objects.Call schema} {fault : Fault} {leaves : Prop} (hm : CallMeets t w c)
    (hc : ReuseCall c (copies, leaves)) (hsound : Sound t w.cluster.stored copies)
    (hleaves : Leaves c (meet serveCached .unavailable fault c w.cluster).1) {v : Stored .pv}
    (hv : (meet serveCached .unavailable fault c w.cluster).2.stored.get .pv t.volume = some v)
    (hfree : PersistentVolume.claimRef v.obj = none) : Locked v.obj ∧ Clear t w v.obj := by
  rw [Objects.stored_meet] at hv
  rcases get_meet fault c w.cluster.stored .pv t.volume with h | ⟨pv, rfl, _⟩ |
    ⟨u, current, rfl, hkey, hget, hcurrent, h⟩ | ⟨rfl, h⟩
  · exact reserved_of_leaves hm hleaves v (h ▸ hv) hfree
  · exact hc.elim
  · -- the volume is freed as it is stored
    obtain ⟨copy, hmem, rfl, hclaimed⟩ := hc
    obtain rfl := eq_of_update hsound hmem rfl hget hcurrent
    rw [h] at hv
    cases hv
    exact ⟨locked_freed _, hm.2 current hget hclaimed⟩
  · exact hc.elim

theorem eq_some_of_unclaimed {s : Cluster} {key : Str × Str} (h : unclaimed s key = true) :
    ∃ v, s.get .pv key = some v ∧ PersistentVolume.claimRef v.obj = none := by
  unfold unclaimed at h
  split at h
  · cases h
  · rename_i v hget
    exact ⟨v, hget, Option.isNone_iff_eq_none.mp h⟩

/-- What is behind a call of the component. -/
theorem inv_prepared {w : World} (h : Inv t w) {r : Reconcile (Option PersistentVolumeClaim)} {s : Cached schema}
    (hs : Objects.Follows s) (hpast : Past w.cluster.stored s.stored) {leaves : Prop}
    (hreuses : Reuses t r.task (r.copies, leaves)) (hsound : Sound t s.stored r.copies)
    (hleft : w.available = true ∨ leaves ∧ unclaimed s.stored t.volume = true →
      ∀ v, s.stored.get .pv t.volume = some v → PersistentVolume.claimRef v.obj = none ∧ Locked v.obj ∧
        NotAnother t v.obj ∧ OnlyFor t s.stored v.obj)
    (hcopies : w.available = true ∨ leaves ∧ unclaimed s.stored t.volume = true →
      w.controller.task.ended = false → ∀ v ∈ w.controller.copies, PassedBy v.obj) :
    Inv t (w.prepared t.volume r s) := by
  obtain ⟨task, copies⟩ := r
  cases task with
  | call c next =>
      exact ⟨hs, h.controller, h.copies.later hpast, ⟨rfl, ⟨leaves, hreuses⟩, hsound⟩,
        fun ha => ⟨hleft (Or.inl ha), hcopies (Or.inl ha)⟩⟩
  | fail e =>
      exact ⟨hs, h.controller, h.copies.later hpast, trivial, fun ha => ⟨hleft (Or.inl ha), hcopies (Or.inl ha)⟩⟩
  | crash =>
      exact ⟨hs, h.controller, h.copies.later hpast, trivial, fun ha => ⟨hleft (Or.inl ha), hcopies (Or.inl ha)⟩⟩
  | done found =>
      cases found with
      | none =>
          exact ⟨hs, h.controller, h.copies.later hpast, trivial, fun ha => ⟨hleft (Or.inl ha), hcopies (Or.inl ha)⟩⟩
      | some pvc =>
          obtain ⟨hown, hleaves⟩ := hreuses pvc rfl
          refine ⟨hs, h.controller, h.copies.later hpast, hown, fun ha => ?_⟩
          have hboth := ((Bool.or_eq_true _ _).mp ha).imp id fun hfree => And.intro hleaves hfree
          exact ⟨hleft hboth, hcopies hboth⟩

/-- **One call of the component.** -/
theorem inv_component {w : World} (h : Inv t w) (fault : Fault) (hm : Meets t w (.component fault)) :
    Inv t (step t w (.component fault)) := by
  have hway := h.component
  simp only [step]
  split
  · exact h
  · rename_i r hr
    obtain ⟨task, copies⟩ := r
    rw [hr] at hway
    obtain ⟨hended, ⟨leaves, hreuses⟩, hsound⟩ := hway
    cases task with
    | done a => cases hended
    | fail e => cases hended
    | crash => cases hended
    | call c next =>
        have hmeets := hm c next copies hr
        obtain ⟨hc, hnext⟩ := hreuses
        obtain ⟨hfollows, hpast⟩ := Objects.follows_meet .unavailable fault c h.cluster
        refine inv_prepared h hfollows hpast (hnext _ _ ⟨rfl, shown_meet hmeets⟩)
          ((hsound.later hpast).append (sound_copiesOf h.cluster)) (fun hboth v hv => ?_) fun hboth => ?_
        · rcases hboth with ha | ⟨hleaves, hfree⟩
          · -- it was left to the component before
            have hold : w.cluster.stored.get .pv t.volume = some v := by
              refine get_of_leftTo (h.available ha) (fun u he _ => ?_) (fun pv he => ?_) hv
              · subst he
                obtain ⟨copy, hmem, rfl, hclaimed⟩ := hc
                exact ⟨copies, hsound, copy, hmem, rfl, hclaimed⟩
              · subst he
                exact hc
            obtain ⟨hfree, hlocked, hlabel, hothers⟩ := (h.available ha).volume v hold
            exact ⟨hfree, hlocked, hlabel, onlyFor_reuse hc hothers⟩
          · -- it is left to the component now
            obtain ⟨v', hv', hnone⟩ := eq_some_of_unclaimed hfree
            obtain rfl := Option.some.inj (hv.symm.trans hv')
            obtain ⟨hlocked, hclear⟩ := leftTo_reuse hmeets hc hsound hleaves hv hnone
            exact ⟨hnone, hlocked, hclear.label, onlyFor_reuse hc hclear.others⟩
        · rcases hboth with ha | ⟨hleaves, hfree⟩
          · exact (h.available ha).copies
          · obtain ⟨v, hv, hnone⟩ := eq_some_of_unclaimed hfree
            exact (leftTo_reuse hmeets hc hsound hleaves hv hnone).2.copies
  · rename_i pvc hpvc
    rw [hpvc] at hway
    obtain rfl : pvc = t.disk.expectedPVC := hway
    obtain ⟨hfollows, hpast⟩ := Objects.follows_meet .unavailable fault (.create Kind.pvc t.disk.expectedPVC) h.cluster
    refine ⟨hfollows, h.controller, h.copies.later hpast, trivial, fun ha => ⟨fun v hv => ?_, (h.available ha).copies⟩⟩
    obtain ⟨hfree, hlocked, hlabel, hothers⟩ := (h.available ha).volume v
      (get_of_leftTo (h.available ha) (fun u he _ => by cases he) (fun pv he => by cases he) hv)
    refine ⟨hfree, hlocked, hlabel, ?_⟩
    dsimp only
    rw [Objects.stored_meet]
    refine onlyFor_meet hothers (fun pvc he => ?_) fun u he => by cases he
    cases he
    exact Or.inl rfl

/-- **A claim is bound.** -/
theorem bindClaim_spec {s s' : Cluster} {claim : Str × Str} {pvName : Str} (h : bindClaim s claim pvName = some s') :
    ∃ (pvc : Stored .pvc) (pv : Stored .pv), s.get .pvc claim = some pvc ∧ s.get .pv ([], pvName) = some pv ∧
      PersistentVolumeClaim.volumeName pvc.obj = [] ∧ PersistentVolumeClaim.selects pvc.obj pv.obj = true ∧
        s' = (s.put Kind.pv (PersistentVolume.claimedBy claim pv.obj)).put Kind.pvc
          (PersistentVolumeClaim.boundTo pvName pvc.obj) := by
  unfold bindClaim at h
  split at h
  · rename_i pvc pv hpvc hpv
    split at h
    · rename_i hcond
      exact ⟨pvc, pv, hpvc, hpv, hcond.1, hcond.2.2, (Option.some.inj h).symm⟩
    · cases h
  · cases h

/-- What a binding writes of the volume. -/
theorem volume_bind {s : Cluster} {claim : Str × Str} {pvName : Str} {pvc : Stored .pvc} {pv : Stored .pv}
    (hpv : s.get .pv ([], pvName) = some pv) (hname : pvName ≠ t.disk.pvToMatch) :
    ((s.put Kind.pv (PersistentVolume.claimedBy claim pv.obj)).put Kind.pvc
      (PersistentVolumeClaim.boundTo pvName pvc.obj)).get .pv t.volume = s.get .pv t.volume := by
  have hkind : (Kind.pv : schema.Kind) ≠ Kind.pvc := nofun
  rw [State.get_put_of_ne hkind, State.get_put, if_neg]
  intro he
  have hkey : ([], pvName) = t.volume := (State.get_eq_some.mp hpv).2.symm.trans he.symm
  exact hname (Prod.ext_iff.mp hkey).2

/-- A claim that is bound to a volume which is left to the component is the component's. -/
theorem claim_of_leftTo {w : World} {claim : Str × Str} {pvc : Stored .pvc} {pv : Stored .pv} (hleft : LeftTo t w)
    (hpv : w.cluster.stored.get .pv t.volume = some pv) (hpvc : w.cluster.stored.get .pvc claim = some pvc)
    (hunbound : PersistentVolumeClaim.volumeName pvc.obj = [])
    (hselects : PersistentVolumeClaim.selects pvc.obj pv.obj = true) : claim = t.claim := by
  obtain ⟨hmem, rfl⟩ := State.get_eq_some.mp hpvc
  by_contra hne
  rw [(hleft.volume pv hpv).2.2.2 pvc hmem hne hunbound] at hselects
  cases hselects

theorem inv_bind {w : World} (h : Inv t w) (claim : Str × Str) (pvName : Str) :
    Inv t (step t w (.bind claim pvName)) := by
  simp only [step]
  split
  · exact h
  rename_i s hbind
  obtain ⟨pvc, pv, hpvc, hpv, hunbound, hselects, rfl⟩ := bindClaim_spec hbind
  have hpast := (Objects.past_put w.cluster.stored Kind.pv (PersistentVolume.claimedBy claim pv.obj)).trans
    (Objects.past_put _ Kind.pvc (PersistentVolumeClaim.boundTo pvName pvc.obj))
  have hdated := (h.cluster.dated.put Kind.pv (PersistentVolume.claimedBy claim pv.obj)).put Kind.pvc
    (PersistentVolumeClaim.boundTo pvName pvc.obj)
  refine ⟨h.cluster.write hdated hpast, h.controller, h.copies.later hpast, h.component.later hpast, fun ha => ?_⟩
  obtain ⟨hbefore, hother⟩ := Bool.and_eq_true_iff.mp ha
  have hclaim : claim ≠ t.claim := of_decide_eq_true hother
  have hleft := h.available hbefore
  have hname : pvName ≠ t.disk.pvToMatch := by
    rintro rfl
    exact hclaim (claim_of_leftTo hleft hpv hpvc hunbound hselects)
  refine ⟨fun v hv => ?_, hleft.copies⟩
  have hv : w.cluster.stored.get .pv t.volume = some v := (volume_bind hpv hname).symm.trans hv
  obtain ⟨hfree, hlocked, hlabel, hothers⟩ := hleft.volume v hv
  refine ⟨hfree, hlocked, hlabel, fun pvc' hmem hkey hunbound' => ?_⟩
  rcases State.mem_list_put.mp hmem with rfl | ⟨hold, _⟩
  · exact hothers pvc (State.get_eq_some.mp hpvc).1 hkey hunbound
  · have hkind : (Kind.pvc : schema.Kind) ≠ Kind.pv := nofun
    rw [State.list_put_of_ne hkind] at hold
    exact hothers pvc' hold hkey hunbound'

/-- **One step keeps the invariant.** -/
theorem inv_step {w : World} (h : Inv t w) (e : Event) (hm : Meets t w e) : Inv t (step t w e) := by
  cases e with
  | startComponent => exact inv_startComponent h
  | component fault => exact inv_component h fault hm
  | startController req => exact inv_startController h req
  | controller fault => exact inv_controller h fault hm
  | bind claim pvName => exact inv_bind h claim pvName
  | deliver k => exact inv_deliver h k

/-! ## 5. The volume is kept -/

/-- The volume is no longer to be kept when the claim of the component is bound, and only then. -/
theorem bound_of_not_available {w : World} {e : Event} (ha : w.available = true)
    (hafter : (step t w e).available = false) :
    ∃ pvName s, e = .bind t.claim pvName ∧ bindClaim w.cluster.stored t.claim pvName = some s ∧
      (step t w e).cluster.stored = s := by
  cases e with
  | startComponent =>
      simp only [step] at hafter
      split at hafter <;> exact nomatch ha.symm.trans hafter
  | component fault =>
      simp only [step] at hafter
      split at hafter
      · exact nomatch ha.symm.trans hafter
      · unfold World.prepared at hafter
        split at hafter
        · rw [ha, Bool.true_or] at hafter
          cases hafter
        · exact nomatch ha.symm.trans hafter
        · exact nomatch ha.symm.trans hafter
      · exact nomatch ha.symm.trans hafter
  | startController req =>
      simp only [step] at hafter
      split at hafter <;> exact nomatch ha.symm.trans hafter
  | controller fault => exact nomatch ha.symm.trans hafter
  | deliver k => exact nomatch ha.symm.trans hafter
  | bind claim pvName =>
      cases hbind : bindClaim w.cluster.stored claim pvName with
      | none =>
          simp only [step, hbind] at hafter
          exact nomatch ha.symm.trans hafter
      | some s =>
          simp only [step, hbind] at hafter ⊢
          rw [ha, Bool.true_and] at hafter
          have hclaim : claim = t.claim := not_not.mp (of_decide_eq_false hafter)
          subst hclaim
          exact ⟨pvName, s, rfl, hbind, rfl⟩

/-- The claim for nobody is not created. -/
theorem orphan_controller {w : World} (h : Inv t w) (ha : w.available = true) (fault : Fault)
    (horphan : w.cluster.stored.get .pvc t.orphan = none) :
    (step t w (.controller fault)).cluster.stored.get .pvc t.orphan = none := by
  have hcontroller := h.controller
  simp only [step]
  unfold Reconcile.next
  split
  swap
  · exact horphan
  rename_i c next htask
  rw [htask] at hcontroller
  dsimp only
  rw [Objects.stored_meet]
  rcases get_meet fault c w.cluster.stored .pvc t.orphan with hx | ⟨obj, rfl, hkey, _⟩ | ⟨_, _, rfl, _⟩ | ⟨_, hx⟩
  · exact hx.trans horphan
  · obtain ⟨pv, rfl, hcopy⟩ := hcontroller.1
    obtain ⟨copy, hmem, hnot⟩ := hcopy (orphanName_injective (Prod.ext_iff.mp hkey).2)
    exact absurd ((h.available ha).copies (by rw [htask]; rfl) copy hmem) hnot
  · exact hcontroller.1.elim
  · exact hx

theorem keptFor_step {w : World} (h : Inv t w) (e : Event) (hm : Meets t w e) : KeptFor t w e := by
  intro ha
  have hleft := h.available ha
  refine ⟨?_, fun v k hv hk => ?_⟩
  · rintro fault rfl horphan
    exact orphan_controller h ha fault horphan
  · cases hafter : (step t w e).available with
    | true =>
        have hfree := (((inv_step h e hm).available hafter).volume v hv).1
        rw [hfree] at hk
        cases hk
    | false =>
        obtain ⟨pvName, s, rfl, hbind, hs⟩ := bound_of_not_available ha hafter
        obtain ⟨pvc, pv, hpvc, hpv, _, _, rfl⟩ := bindClaim_spec hbind
        rw [hs] at hv
        have hkind : (Kind.pv : schema.Kind) ≠ Kind.pvc := nofun
        rw [State.get_put_of_ne hkind, State.get_put] at hv
        split at hv
        · cases hv
          exact (Option.some.inj hk).symm
        · rw [(hleft.volume v hv).1] at hk
          cases hk

/-- **A freed volume goes to the component that asked for it**, along every run whose steps meet the condition. -/
theorem keptFor_of_meets (t : Taker) (w : World) (events : List Event) (hw : Initial w)
    (h : Always (step t) (Meets t) w events) : Always (step t) (KeptFor t) w events :=
  Always.of_invariant (fun _ e hi hm => inv_step hi e hm) (fun _ e hi hm => keptFor_step hi e hm) (inv_initial hw) h

/-- The component `shop/copy`. -/
def copyTaker : Taker := ⟨copyDisk, by decide⟩

/-- No reconcile is under way. -/
def startWorld (s : Cluster) : World := ⟨.synced s, .idle, ⟨.done (), []⟩, false⟩

/-- The order of the names is kept. -/
def plainOrder : MapOrder := ⟨id, List.Perm.refl⟩

theorem dated_empty : Objects.Dated emptyCluster := fun _ _ _ h => by cases h

theorem initial_startWorld {s : Cluster} (h : Objects.Dated s) : Initial (startWorld s) := ⟨⟨s, rfl, h⟩, rfl, rfl, rfl⟩

theorem meets_component {w : World} {fault : Fault} {c : Objects.Call schema}
    {next : Except Error c.Reply → VolumeTask (Option PersistentVolumeClaim)}
    (hw : w.component = .preparing ⟨.call c next, copies⟩) (hc : CallMeets t w c) : Meets t w (.component fault) := by
  intro c' next' copies' he
  obtain ⟨hcall, _⟩ := Reconcile.mk.inj (Phase.preparing.inj (hw.symm.trans he))
  obtain ⟨rfl, _⟩ := Action.call.inj hcall
  exact hc

/-- A volume with a claim needs no reservation. -/
theorem reserved_of_claimed {w : World} {v : Stored .pv} {claim : Str × Str}
    (hv : w.cluster.stored.get .pv t.volume = some v) (hclaim : PersistentVolume.claimRef v.obj = some claim) :
    Reserved t w := by
  intro v' hv' hfree
  obtain rfl := Option.some.inj (hv.symm.trans hv')
  exact nomatch hclaim.symm.trans hfree

/-- The claim is there and no pod uses it. The controller reads the volume once as it was before the lock, and once
    with it; then the claim of the component is created, and bound. -/
theorem keptFor_copy :
    Always (step copyTaker) (KeptFor copyTaker)
      (startWorld ((emptyCluster.put Kind.pv ledgerVolume).put Kind.pvc ledgerClaim))
      [.startComponent, .component .served, .component .served, .component .served, .component .served,
        .component .served, .component .served, .startController (.pvcChange plainOrder), .controller .served,
        .controller .served, .controller .served, .deliver .pv, .deliver .pv,
        .startController (.pvcChange plainOrder), .controller .served, .component .served,
        .bind (str "shop", str "copy") (str "pv-ledger")] := by
  have hclaimed {w : World} (hw : w.cluster.stored.get .pv copyTaker.volume = some ⟨ledgerVolume, 1⟩) :
      Reserved copyTaker w := reserved_of_claimed hw rfl
  refine keptFor_of_meets copyTaker _ _ (initial_startWorld ((dated_empty.put _ _).put _ _))
    ⟨trivial, ?_, ?_, ?_, ?_, ?_, ?_, trivial, ?_, ?_, ?_, trivial, trivial, trivial, ?_, ?_, trivial, trivial⟩
  · exact meets_component rfl trivial
  · exact meets_component rfl fun _ => hclaimed rfl
  · exact meets_component rfl ⟨rfl, hclaimed rfl⟩
  · exact meets_component rfl (hclaimed rfl)
  · exact meets_component rfl trivial
  · refine meets_component rfl ⟨hclaimed rfl, fun v hv _ => ?_⟩
    have hledger : some (⟨ledgerVolume, 1⟩ : Stored .pv) = some v := hv
    cases hledger
    refine ⟨fun name hname => ?_, fun pvc hmem => ?_, fun hended => ?_⟩
    · have hlabel : some (str "pv-ledger") = some name := hname
      cases hlabel
      rfl
    · have hnone : pvc ∈ ([] : List (Stored .pvc)) := hmem
      cases hnone
    · cases hended
  · intro _ c next hc _ v hv
    have hledger : some (⟨ledgerVolume, 1⟩ : Stored .pv) = some v := hv
    cases hledger
    exact Or.inr (Or.inr (Or.inr (Or.inr (by decide))))
  · intro _ c next hc hreads
    cases hc
    exact hreads.elim
  · intro _ c next hc hreads
    cases hc
    exact hreads.elim
  · exact fun _ _ _ _ _ v hv => Or.inl hv
  · exact fun _ _ _ he => nomatch he

/-- The volume has the claim for nobody. -/
def spareVolume : PersistentVolume := { ledgerVolume with claimRef := some copyTaker.orphan }

/-- The claim is gone: the reuse frees the volume without a lock, and the controller takes it for an orphan. Or the
    claim is that for nobody, and the controller reads the volume as it was before the lock. -/
theorem keptFor_fails :
    (¬ ∀ (t : Taker) (w : World) (events : List Event), Initial w → Always (step t) (KeptFor t) w events) ∧
      ¬ Always (step copyTaker) (KeptFor copyTaker)
        (startWorld ((emptyCluster.put Kind.pv spareVolume).put Kind.pvc (orphanPVC spareVolume)))
        ([.startComponent, .component .served, .component .served, .component .served, .component .served,
          .component .served, .component .served, .deliver .pvc, .startController (.pv (str "pv-ledger")),
          .controller .served, .controller .served, .controller .served] ++ [.controller .served]) := by
  constructor
  · intro h
    have hkept := (h copyTaker (startWorld (emptyCluster.put Kind.pv ledgerVolume))
      ([.startComponent, .component .served, .component .served, .component .served, .component .served,
        .deliver .pv, .startController (.pvcChange plainOrder), .controller .served, .controller .served] ++
          [.controller .served]) (initial_startWorld (dated_empty.put _ _))).last
    have hnone := (hkept rfl).1 .served rfl rfl
    cases hnone
  · intro h
    have hnone := (h.last rfl).1 .served rfl rfl
    cases hnone

end Kalm.Volumes
