/-
  File:      Kalm/Component/Immutable.lean
  Subject:   THE DISKS OF A STATEFULSET DO NOT CHANGE: a StatefulSet keeps its claim templates, so the webhook is to
             refuse an update of its component that asks for others.

  * `StatefulSet`, `reconcileStatefulSet` -- what the controller writes;
  * `World`, `Event`, `step` -- a component, its StatefulSet and the controller, which reads before it writes;
  * `Sound` -- an update that changes the templates is refused, and the templates of the component are those of the
    StatefulSet;
  * `refused_iff_of_distinct` -- the one difference that is not seen;
  * `sound_of_run` -- where the updates keep to the condition, every step of a run is sound.
-/
import Kalm.Component.DiskChecks
import Kalm.Lib.Runs

namespace Kalm.Disks

open Runs (Always)

/-! ## 1. The controller -/

/-- `StatefulSet`, the fields of its spec that are written. -/
structure StatefulSet where
  replicas : Option Int
  template : PodTemplate
  volumeClaimTemplates : List ClaimTemplate
  deriving DecidableEq

/-- `ReconcileStatefulSet`: the templates of a StatefulSet that is there are left as they are. -/
def reconcileStatefulSet (component : Component) (spec : PodTemplate) (volClaimTemplates : List ClaimTemplate)
    (found : Option StatefulSet) : StatefulSet :=
  let sts := match found with
    | none => ⟨none, spec, volClaimTemplates⟩
    | some sts => { sts with template := spec }
  match component.spec.replicas with
  | none => sts
  | some replicas => { sts with replicas := some replicas }

/-- `LoadResources`: the StatefulSet is looked for where the component is one. -/
def loadStatefulSet (component : Component) (stored : Option StatefulSet) : Option StatefulSet :=
  if component.isSts then stored else none

/-- `ReconcileWorkload`: the StatefulSet that is stored behind it. What was found is deleted where the namespace is
    not enabled; a write is refused where another StatefulSet is stored than the one that was found. -/
def reconcileWorkload (md5 : Md5) (enabled : Bool) (template : PodTemplate) (component : Component)
    (found stored : Option StatefulSet) : Option StatefulSet :=
  if enabled = false then if found.isSome then none else stored
  else if component.isSts then
    match prepareVolsForSTS md5 component template with
    | .error _ => stored
    | .ok (spec, volClaimTemplates) =>
      if found = stored then some (reconcileStatefulSet component spec volClaimTemplates found) else stored
  else stored

/-! ## 2. The system -/

/-- A component, its StatefulSet, and what a run of the controller has read. -/
structure World where
  component : Component
  statefulSet : Option StatefulSet
  running : Option (Component × Option StatefulSet)

/-- An update is sent; the controller reads; it writes, or a call fails; the StatefulSet is deleted by others. -/
inductive Event where
  | update (o : Volumes.MapOrder) (new : Component)
  | load
  | finish (enabled : Bool) (template : PodTemplate) (served : Bool)
  | delete

section System

variable (md5 : Md5) (checks : OtherChecks)

def step (w : World) : Event → World
  | .update o new => if validateUpdate checks o new w.component = [] then { w with component := new } else w
  | .load => { w with running := some (w.component, loadStatefulSet w.component w.statefulSet) }
  | .finish enabled template served =>
    match w.running with
    | none => w
    | some (component, found) =>
      { w with
        statefulSet :=
          if served then reconcileWorkload md5 enabled template component found w.statefulSet else w.statefulSet
        running := none }
  | .delete => { w with statefulSet := none }

/-- A component that was created. -/
structure Start (w : World) : Prop where
  valid : validate checks w.component = []
  fresh : w.statefulSet = none
  idle : w.running = none

/-- What is compared of a template: its name, its size and its class. -/
def Volume.key (vol : Volume) : Str × Int × Option Str := (vol.pvc, vol.size.amount, vol.storageClassName)

def ClaimTemplate.key (t : ClaimTemplate) : Str × Int × Option Str := (t.name, t.storage.amount, t.storageClassName)

/-- The templates of the volumes are the same. -/
def SameTemplates (new old : Component) : Prop :=
  ((templatesOf new).map Volume.key).Perm ((templatesOf old).map Volume.key)

/-- The templates that the controller makes for the component are those of its StatefulSet. -/
def Kept (w : World) : Prop :=
  ∀ sts ∈ w.statefulSet, w.component.isSts = true →
    (sts.volumeClaimTemplates.map ClaimTemplate.key).Perm ((claimTemplates w.component).map ClaimTemplate.key)

/-- **A step is sound**: an update of a StatefulSet is refused for its volumes exactly when it changes the templates,
    and the StatefulSet that is stored behind the step has the templates of the component. -/
def Sound (w : World) (e : Event) : Prop :=
  (∀ o new, e = .update o new → w.component.isSts = true → new.isSts = true →
    (volumeError o new w.component ≠ [] ↔ ¬ SameTemplates new w.component)) ∧ Kept (step md5 checks w e)

/-- The templates have the same names and sizes and no two classes that differ, and one of them has a class in one of
    the components only. -/
def OnlyClassGiven (new old : List Volume) : Prop :=
  AllAlike new old ∧ ∃ vNew ∈ new, ∃ vOld ∈ old, vOld.pvc = vNew.pvc ∧ vNew.storageClassName ≠ vOld.storageClassName

/-- **The condition on a step**: the templates of a StatefulSet have distinct names, and its update does not only
    give, or take, a class. A component becomes a StatefulSet without templates only where no StatefulSet with
    templates is stored or being written. -/
def Meets (w : World) : Event → Prop
  | .update _ new => new.isSts = true →
    (w.component.isSts = true → DistinctNames (templatesOf w.component) ∧ DistinctNames (templatesOf new) ∧
      ¬ OnlyClassGiven (templatesOf new) (templatesOf w.component)) ∧
    (w.component.isSts = false → templatesOf new = [] →
      (∀ sts ∈ w.statefulSet, sts.volumeClaimTemplates = []) ∧
        ∀ r ∈ w.running, r.1.isSts = true → claimTemplates r.1 = [])
  | _ => True

end System

/-! ## 3. One update -/

section Updates

variable {new old : Component} {o : Volumes.MapOrder} {checks : OtherChecks}

theorem volumeError_eq_nil_iff (hnew : new.isSts = true) :
    volumeError o new old = [] ↔
      isIdenticalVolMap o (getStsTemplateVolMap new) (getStsTemplateVolMap old) = none := by
  rw [volumeError, if_pos (of_decide_eq_true hnew)]
  cases isIdenticalVolMap o (getStsTemplateVolMap new) (getStsTemplateVolMap old) with
  | none => exact iff_of_true rfl rfl
  | some err => exact iff_of_false (List.cons_ne_nil _ _) (Option.some_ne_none err)

/-- Templates with distinct names are the same when each is among the others. -/
theorem perm_key_iff {a b : List Volume} (ha : DistinctNames a) (hlength : a.length = b.length) :
    (a.map Volume.key).Perm (b.map Volume.key) ↔ ∀ v ∈ a, ∃ u ∈ b, v.key = u.key := by
  constructor
  · intro h v hv
    obtain ⟨u, hu, heq⟩ := List.mem_map.mp (h.mem_iff.mp (List.mem_map_of_mem hv))
    exact ⟨u, hu, heq.symm⟩
  · intro h
    have hnames : (a.map Volume.key).map Prod.fst = a.map Volume.pvc := by
      rw [List.map_map]
      rfl
    have hnodup : (a.map Volume.key).Nodup := by
      refine List.Nodup.of_map Prod.fst ?_
      rw [hnames]
      exact ha
    have hsub : a.map Volume.key ⊆ b.map Volume.key := by
      intro k hk
      obtain ⟨v, hv, rfl⟩ := List.mem_map.mp hk
      obtain ⟨u, hu, heq⟩ := h v hv
      rw [heq]
      exact List.mem_map_of_mem hu
    refine (hnodup.subperm hsub).perm_of_length_le ?_
    rw [List.length_map, List.length_map, hlength]

/-- Two templates of one list that have one name are one. -/
theorem eq_of_name {vols : List Volume} (h : DistinctNames vols) {u v : Volume} (hu : u ∈ vols) (hv : v ∈ vols)
    (hname : u.pvc = v.pvc) : u = v := List.inj_on_of_nodup_map h hu hv hname

/-- **The templates are the same** exactly when they are alike and each has its class, or none, in both. -/
theorem same_iff_of_distinct (hnew : DistinctNames (templatesOf new)) (hold : DistinctNames (templatesOf old)) :
    SameTemplates new old ↔
      AllAlike (templatesOf new) (templatesOf old) ∧ ¬ OnlyClassGiven (templatesOf new) (templatesOf old) := by
  constructor
  · intro hsame
    have hlength : (templatesOf new).length = (templatesOf old).length := by
      have h := hsame.length_eq
      rwa [List.length_map, List.length_map] at h
    have hall := (perm_key_iff hnew hlength).mp hsame
    refine ⟨⟨hlength, fun vNew hvNew => ?_⟩, fun ⟨_, vNew, hvNew, vOld, hvOld, hname, hclass⟩ => hclass ?_⟩
    · obtain ⟨vOld, hvOld, hkey⟩ := hall vNew hvNew
      rw [Volume.key, Volume.key, Prod.mk.injEq, Prod.mk.injEq] at hkey
      refine ⟨vOld, hvOld, hkey.1.symm, hkey.2.1, fun scNew hNew scOld hOld => ?_⟩
      rw [Option.mem_def] at hNew hOld
      rw [hkey.2.2, hOld] at hNew
      exact (Option.some.inj hNew).symm
    · obtain ⟨u, hu, hkey⟩ := hall vNew hvNew
      rw [Volume.key, Volume.key, Prod.mk.injEq, Prod.mk.injEq] at hkey
      rw [eq_of_name hold hvOld hu (hname.trans hkey.1), hkey.2.2]
  · intro ⟨halike, hclasses⟩
    refine (perm_key_iff hnew halike.1).mpr fun vNew hvNew => ?_
    obtain ⟨vOld, hvOld, h⟩ := halike.2 vNew hvNew
    refine ⟨vOld, hvOld, ?_⟩
    by_contra hkey
    refine hclasses ⟨halike, vNew, hvNew, vOld, hvOld, h.name, fun hclass => hkey ?_⟩
    rw [Volume.key, Volume.key, h.name, h.size, hclass]

/-- **Where the names are distinct, the error is right** unless the update only gives, or takes, a class. -/
theorem refused_iff_of_distinct (hsts : new.isSts = true) (hnew : DistinctNames (templatesOf new))
    (hold : DistinctNames (templatesOf old)) :
    (volumeError o new old ≠ [] ↔ ¬ SameTemplates new old) ↔
      ¬ OnlyClassGiven (templatesOf new) (templatesOf old) := by
  rw [not_iff_not, volumeError_eq_nil_iff hsts, getStsTemplateVolMap, getStsTemplateVolMap,
    isIdenticalVolMap_eq_none_iff hnew hold, same_iff_of_distinct hnew hold]
  constructor
  · intro h hgiven
    exact (h.mp hgiven.1).2 hgiven
  · intro hgiven
    exact ⟨fun h => ⟨h, hgiven⟩, fun h => h.1⟩

/-- A map without names is of no templates. -/
theorem eq_nil_of_volMap {vols : List Volume} (h : (volMap vols).keys.length = 0) : vols = [] := by
  rcases List.eq_nil_or_concat vols with rfl | ⟨front, last, rfl⟩
  · rfl
  · rw [volMap, List.concat_eq_append, List.foldl_append, List.foldl_cons, List.foldl_nil, AList.keys_insert,
      List.length_cons] at h
    omega

/-- A component that becomes a StatefulSet has no templates. -/
theorem templatesOf_of_becomes (hnew : new.isSts = true) (hold : old.isSts = false)
    (h : volumeError o new old = []) : templatesOf new = [] := by
  have hnone : templatesOf old = [] := if_neg (of_decide_eq_false hold)
  have hsame := (volumeError_eq_nil_iff hnew).mp h
  unfold isIdenticalVolMap at hsame
  by_cases hlength : (getStsTemplateVolMap new).keys.length = (getStsTemplateVolMap old).keys.length
  · refine eq_nil_of_volMap ?_
    have hempty : (getStsTemplateVolMap old).keys.length = 0 := by
      rw [getStsTemplateVolMap, hnone]
      rfl
    exact hlength.trans hempty
  · rw [if_pos hlength] at hsame
    cases hsame

end Updates

/-! ## 4. Runs -/

section Run

variable {md5 : Md5} {checks : OtherChecks} {component new old : Component} {w : World} {e : Event}

/-- No volume of a StatefulSet that was accepted is a claim of another kind. -/
theorem claimTemplates_of_valid (hsts : component.isSts = true) (h : validate checks component = []) :
    (claimTemplates component).map ClaimTemplate.key = (templatesOf component).map Volume.key := by
  have htype : component.spec.workloadType = some .statefulset := of_decide_eq_true hsts
  have hnone : ∀ vol ∈ component.spec.volumes, vol.type ≠ .persistentVolumeClaim := by
    unfold validate validateVolumesOfComponent at h
    simp only [List.append_eq_nil_iff, htype, if_true] at h
    exact flatMap_zipIdx_reportIf_eq_nil.mp h.1.1.2.1.1.2
  have hfilter : component.spec.volumes.filter Volume.isClaim =
      component.spec.volumes.filter fun vol => vol.type = .persistentVolumeClaimTemplate := by
    refine List.filter_congr fun vol hvol => ?_
    rw [Volume.isClaim, decide_eq_false (hnone vol hvol), Bool.false_or]
  rw [claimTemplates, templatesOf, if_pos htype, hfilter, List.map_map]
  rfl

/-- The templates of accepted StatefulSets are the same when those of their volumes are. -/
theorem perm_claimTemplates (hnew : new.isSts = true) (hold : old.isSts = true) (hvnew : validate checks new = [])
    (hvold : validate checks old = []) (h : SameTemplates new old) :
    ((claimTemplates old).map ClaimTemplate.key).Perm ((claimTemplates new).map ClaimTemplate.key) := by
  rw [claimTemplates_of_valid hnew hvnew, claimTemplates_of_valid hold hvold]
  exact h.symm

/-- **The invariant**: the component was accepted, the StatefulSet has its templates, and so has what is being
    written. -/
structure Inv (checks : OtherChecks) (w : World) : Prop where
  valid : validate checks w.component = []
  kept : Kept w
  running : ∀ r ∈ w.running, r.1.isSts = true → w.component.isSts = true →
    ((claimTemplates r.1).map ClaimTemplate.key).Perm ((claimTemplates w.component).map ClaimTemplate.key)

theorem inv_of_start (h : Start checks w) : Inv checks w where
  valid := h.valid
  kept := by
    intro sts hsts
    rw [h.fresh] at hsts
    cases hsts
  running := by
    intro r hr
    rw [h.idle] at hr
    cases hr

/-- The update of a StatefulSet that is accepted has its templates. -/
theorem same_of_accepted {o : Volumes.MapOrder} (hsts : new.isSts = true) (hnew : DistinctNames (templatesOf new))
    (hold : DistinctNames (templatesOf old)) (hgiven : ¬ OnlyClassGiven (templatesOf new) (templatesOf old))
    (h : volumeError o new old = []) : SameTemplates new old := by
  by_contra hnot
  exact ((refused_iff_of_distinct hsts hnew hold).mpr hgiven).mpr hnot h

/-- An update that is accepted keeps the invariant. -/
theorem inv_update {o : Volumes.MapOrder} (hinv : Inv checks w) (hmeets : Meets w (.update o new))
    (haccepted : validateUpdate checks o new w.component = []) : Inv checks { w with component := new } := by
  obtain ⟨herror, hvalid⟩ := List.append_eq_nil_iff.mp haccepted
  cases hsts : new.isSts with
  | false =>
      have hnot : ¬ new.isSts = true := by rw [hsts]; exact Bool.false_ne_true
      exact ⟨hvalid, fun _ _ h => absurd h hnot, fun _ _ _ h => absurd h hnot⟩
  | true =>
      obtain ⟨hstays, hbecomes⟩ := hmeets hsts
      cases hwas : w.component.isSts with
      | true =>
          obtain ⟨hold, hnew, hgiven⟩ := hstays hwas
          have hperm := perm_claimTemplates hsts hwas hvalid hinv.valid
            (same_of_accepted hsts hnew hold hgiven herror)
          exact ⟨hvalid, fun sts h _ => (hinv.kept sts h hwas).trans hperm,
            fun r hr hrsts _ => (hinv.running r hr hrsts hwas).trans hperm⟩
      | false =>
          -- nothing that is stored, or being written, has templates
          have hempty := templatesOf_of_becomes hsts hwas herror
          obtain ⟨hstored, hrunning⟩ := hbecomes hwas hempty
          have hnone : (claimTemplates new).map ClaimTemplate.key = [] := by
            rw [claimTemplates_of_valid hsts hvalid, hempty]
            rfl
          refine ⟨hvalid, fun sts h _ => ?_, fun r hr hrsts _ => ?_⟩
          · rw [hstored sts h, hnone]
            exact List.Perm.refl []
          · rw [hrunning r hr hrsts, hnone]
            exact List.Perm.refl []

/-- The templates of what is written are those of what was found, or those that were made. -/
theorem templates_reconcileStatefulSet {spec : PodTemplate} {templates : List ClaimTemplate}
    {found : Option StatefulSet} : (reconcileStatefulSet component spec templates found).volumeClaimTemplates =
      (found.map StatefulSet.volumeClaimTemplates).getD templates := by
  unfold reconcileStatefulSet
  cases component.spec.replicas <;> cases found <;> rfl

/-- The StatefulSet behind a run of the controller was there before, or has the templates of what was read. -/
theorem reconcileWorkload_cases {enabled : Bool} {template : PodTemplate} {found stored : Option StatefulSet}
    {sts : StatefulSet} (h : reconcileWorkload md5 enabled template component found stored = some sts) :
    (∃ before, stored = some before ∧ sts.volumeClaimTemplates = before.volumeClaimTemplates) ∨
      (component.isSts = true ∧ sts.volumeClaimTemplates = claimTemplates component) := by
  unfold reconcileWorkload at h
  by_cases henabled : enabled = false
  · rw [if_pos henabled] at h
    by_cases hfound : found.isSome
    · rw [if_pos hfound] at h
      cases h
    · rw [if_neg hfound] at h
      exact Or.inl ⟨sts, h, rfl⟩
  · rw [if_neg henabled] at h
    cases hsts : component.isSts with
    | false =>
        rw [hsts, if_neg Bool.false_ne_true] at h
        exact Or.inl ⟨sts, h, rfl⟩
    | true =>
        rw [hsts, if_pos rfl] at h
        cases hmade : prepareVolsForSTS md5 component template with
        | error err =>
            rw [hmade] at h
            exact Or.inl ⟨sts, h, rfl⟩
        | ok made =>
            obtain ⟨spec, volClaimTemplates⟩ := made
            rw [hmade] at h
            have htemplates := claims_of_prepareVolsForSTS hmade
            change (if found = stored then _ else _) = _ at h
            by_cases hsame : found = stored
            · rw [if_pos hsame] at h
              rw [← Option.some.inj h, templates_reconcileStatefulSet, ← htemplates, ← hsame]
              cases found with
              | none => exact Or.inr ⟨rfl, rfl⟩
              | some before => exact Or.inl ⟨before, rfl, rfl⟩
            · rw [if_neg hsame] at h
              exact Or.inl ⟨sts, h, rfl⟩

/-- **Every step that meets the condition keeps the invariant.** -/
theorem inv_step (hinv : Inv checks w) (hmeets : Meets w e) : Inv checks (step md5 checks w e) := by
  cases e with
  | update o new =>
      by_cases haccepted : validateUpdate checks o new w.component = []
      · rw [step, if_pos haccepted]
        exact inv_update hinv hmeets haccepted
      · rw [step, if_neg haccepted]
        exact hinv
  | load =>
      refine ⟨hinv.valid, hinv.kept, fun r hr _ _ => ?_⟩
      cases hr
      exact List.Perm.refl _
  | finish enabled template served =>
      rw [step]
      cases hrunning : w.running with
      | none => exact hinv
      | some r =>
          refine ⟨hinv.valid, fun sts hsts hcomponent => ?_, fun r' hr' => (nomatch hr')⟩
          cases served with
          | false => exact hinv.kept sts hsts hcomponent
          | true =>
              rcases reconcileWorkload_cases hsts with ⟨before, hbefore, htemplates⟩ | ⟨hread, htemplates⟩
              · rw [htemplates]
                exact hinv.kept before hbefore hcomponent
              · rw [htemplates]
                exact hinv.running r hrunning hread hcomponent
  | delete => exact ⟨hinv.valid, fun sts hsts => (nomatch hsts), hinv.running⟩

/-- Every step that meets the condition is sound. -/
theorem sound_step (hinv : Inv checks w) (hmeets : Meets w e) : Sound md5 checks w e := by
  refine ⟨fun o new he hwas hsts => ?_, (inv_step hinv hmeets).kept⟩
  subst he
  obtain ⟨hold, hnew, hgiven⟩ := (hmeets hsts).1 hwas
  exact (refused_iff_of_distinct hsts hnew hold).mpr hgiven

/-- **Along every run** in which the updates meet the condition, an update of a StatefulSet is refused for its volumes
    exactly when it changes the templates, and the StatefulSet has the templates of its component. -/
theorem sound_of_run (md5 : Md5) (checks : OtherChecks) (w : World) (events : List Event)
    (hstart : Start checks w) (hmeets : Always (step md5 checks) Meets w events) :
    Always (step md5 checks) (Sound md5 checks) w events :=
  Always.of_invariant (fun _ _ => inv_step) (fun _ _ => sound_step) (inv_of_start hstart) hmeets

end Run

/-! ## 5. Two StatefulSets -/

/-- The keys of a map in the order in which they were added. -/
def inOrder : Volumes.MapOrder := ⟨id, List.Perm.refl⟩

/-- The claim template `data`. -/
def dataVolume (path : Str) (storageClassName : Option Str) : Volume :=
  ⟨path, [], ⟨1048576000000000, str "1Mi"⟩, .persistentVolumeClaimTemplate, storageClassName, [], str "data"⟩

/-- A component `db`. -/
def dbComponent (workloadType : Components.Workload) (volumes : List Volume) : Component :=
  ⟨str "bank", str "db", ⟨∅, some workloadType, some 1, volumes, [], []⟩⟩

/-- A StatefulSet with the template `data`. -/
def dbSts : Component := dbComponent .statefulset [dataVolume (str "/data") (some (str "standard"))]

/-- It is mounted at another path, beside a volume in memory. -/
def dbMoved : Component :=
  dbComponent .statefulset [dataVolume (str "/other") (some (str "standard")),
    ⟨str "/data", [], ⟨1048576000000000, str "1Mi"⟩, .temporaryMemory, none, [], []⟩]

def dbWorld : World := ⟨dbSts, none, none⟩

theorem start_db : Start noChecks dbWorld := ⟨by decide, rfl, rfl⟩

/-- The StatefulSet is written, and then its component is updated. -/
theorem sound_of_run_db :
    Always (step sampleMd5 noChecks) (Sound sampleMd5 noChecks) dbWorld
      [.load, .finish true ⟨[], [], []⟩ true, .update inOrder dbMoved] := by
  refine sound_of_run sampleMd5 noChecks dbWorld _ start_db
    ⟨trivial, trivial, fun _ => ⟨fun _ => ⟨by decide, by decide, ?_⟩, fun h => absurd h (by decide)⟩, trivial⟩
  intro ⟨_, vNew, hvNew, vOld, hvOld, _, hclass⟩
  have hnew : vNew = dataVolume (str "/other") (some (str "standard")) := List.mem_singleton.mp hvNew
  have hold : vOld = dataVolume (str "/data") (some (str "standard")) := List.mem_singleton.mp hvOld
  exact hclass (by rw [hnew, hold]; rfl)

/-- The class is taken away. -/
def dbUnclassed : Component := dbComponent .statefulset [dataVolume (str "/data") none]

/-- The component becomes a StatefulSet without templates, behind another workload. -/
def detour : List Event :=
  [.load, .finish true ⟨[], [], []⟩ true, .update inOrder (dbComponent .server [])]

/-- An update that takes the class away is accepted; and so is one that takes the templates away on a detour. -/
theorem sound_fails :
    (¬ ∀ (checks : OtherChecks) (o : Volumes.MapOrder) (new old : Component), old.isSts = true → new.isSts = true →
      validate checks old = [] → (volumeError o new old ≠ [] ↔ ¬ SameTemplates new old)) ∧
    ¬ ∀ (md5 : Md5) (checks : OtherChecks) (w : World) (events : List Event), Start checks w →
      Always (step md5 checks) (fun w e => Kept (step md5 checks w e)) w events := by
  refine ⟨fun h => ?_, fun h => ?_⟩
  · have hdiffer : ¬ SameTemplates dbUnclassed dbSts := by
      unfold SameTemplates
      decide
    exact (h noChecks inOrder dbUnclassed dbSts (by decide) (by decide) (by decide)).mpr hdiffer (by decide)
  · have hkept := Always.last (h sampleMd5 noChecks dbWorld
      (detour ++ [.update inOrder (dbComponent .statefulset [])]) start_db)
    have hstored : (step sampleMd5 noChecks (detour.foldl (step sampleMd5 noChecks) dbWorld)
        (.update inOrder (dbComponent .statefulset []))).statefulSet =
          some ⟨some 1, ⟨[], [], [⟨str "data", str "/data", [], false⟩]⟩, claimTemplates dbSts⟩ := by decide +kernel
    have hcomponent : (step sampleMd5 noChecks (detour.foldl (step sampleMd5 noChecks) dbWorld)
        (.update inOrder (dbComponent .statefulset []))).component = dbComponent .statefulset [] := by decide +kernel
    have hperm := hkept _ hstored (by rw [hcomponent]; decide)
    rw [hcomponent] at hperm
    have hlength := hperm.length_eq
    revert hlength
    decide

end Kalm.Disks
