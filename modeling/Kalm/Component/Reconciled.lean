/-
  File:      Kalm/Component/Reconciled.lean
  Subject:   WHAT A RECONCILE OF A COMPONENT DOES: which of its objects are there behind a run that returns.

  * `has` -- an object is stored under a key;
  * `Owners` -- what a run writes the component owns, or its owner is as it was;
  * `Reconciled` -- the services, the destination rule and the workloads behind a run, from those before it:
    a headless service, a destination rule and the workloads of other types can stay as they were;
  * `returns_run` -- a run that returns has found no component, or a deleted one, or has reconciled it.
-/
import Kalm.Component.Controller

namespace Kalm.Controller

open Objects (State Returns SameBut find save deleteLoaded sameBut_put sameBut_saved sameBut_cleared get_saved
  get_cleared)
open Calls (Action)

/-! ## 1. Slots -/

/-- An object of the kind is stored under the key. -/
def has (s : Cluster) (k : Kind) (key : Str × Str) : Bool := (s.get k key).isSome

variable {c : Component} {enabled : Bool} {s t u : Cluster} {k : Kind} {key : Str × Str}

theorem headlessKey_ne : c.headlessKey ≠ c.key := by
  intro h
  have hname : c.name ++ str "-headless" = c.name := congrArg Prod.snd h
  have hnil := List.append_right_eq_self.mp hname
  exact absurd hnil (by decide)

/-- **What is stored belongs to the component**, or its owner is as it was. -/
def Owners (c : Component) (s t : Cluster) : Prop :=
  ∀ k key v, t.get k key = some v →
    Kind.controller k v.obj = some c.name ∨
      ∃ w, s.get k key = some w ∧ Kind.controller k w.obj = Kind.controller k v.obj

theorem Owners.refl (c : Component) (s : Cluster) : Owners c s s :=
  fun _ _ v hv => Or.inr ⟨v, hv, rfl⟩

theorem Owners.trans (hst : Owners c s t) (htu : Owners c t u) : Owners c s u := by
  intro k key v hv
  rcases htu k key v hv with hc | ⟨w, hw, hwv⟩
  · exact Or.inl hc
  · rcases hst k key w hw with hc | ⟨x, hx, hxw⟩
    · exact Or.inl (hwv ▸ hc)
    · exact Or.inr ⟨x, hx, hxw.trans hwv⟩

/-- A run touches one slot, and says whether it is taken behind it. -/
structure Writes (c : Component) (k : Kind) (key : Str × Str) (there : Bool) (s t : Cluster) : Prop where
  same : SameBut (S := schema) k key s t
  there : has t k key = there
  owners : Owners c s t

theorem SameBut.has (h : SameBut (S := schema) k key s t) {l : Kind} {key' : Str × Str}
    (hne : ¬ (l = k ∧ key' = key)) : has t l key' = has s l key' := by
  unfold Controller.has
  rw [h l key' hne]

/-- Only the slot can change its owner. -/
theorem owners_of_sameBut (h : SameBut (S := schema) k key s t)
    (hslot : ∀ v, t.get k key = some v → Kind.controller k v.obj = some c.name ∨
      ∃ w, s.get k key = some w ∧ Kind.controller k w.obj = Kind.controller k v.obj) : Owners c s t := by
  intro l key' v hv
  by_cases hne : l = k ∧ key' = key
  · obtain ⟨rfl, rfl⟩ := hne
    exact hslot v hv
  · rw [h l key' hne] at hv
    exact Or.inr ⟨v, hv, rfl⟩

section Steps

variable {Q : Unit → Cluster → Prop}

/-- **An object that is saved is there.** -/
theorem returns_saved {new : k.Obj} {updated : k.Obj → k.Obj} (hnew : k.key new = key)
    (hupdated : ∀ obj, k.key obj = key → k.key (updated obj) = key)
    (howner : k.controller new = some c.name) (hkeeps : ∀ obj, k.controller (updated obj) = k.controller obj)
    (h : Returns (save (S := schema) k (s.get k key) new updated) s Q) :
    ∃ t, Writes c k key true s t ∧ Q () t := by
  have hQ := (Objects.returns_save (S := schema) hnew hupdated).mp h
  obtain ⟨w, hw, hobj⟩ := get_saved (S := schema) (s := s) hnew hupdated
  have hsame := sameBut_saved (S := schema) (s := s) hnew hupdated
  refine ⟨_, ⟨hsame, by rw [has, hw]; rfl, owners_of_sameBut hsame fun v hv => ?_⟩, hQ.2⟩
  rw [hw] at hv
  cases hv
  rcases hobj with hobj | ⟨v, hv, hobj⟩
  · exact Or.inl (by rw [hobj, howner])
  · exact Or.inr ⟨v, hv, by rw [hobj, hkeeps]⟩

/-- **An object that is deleted is gone.** -/
theorem returns_cleared (c : Component) (h : Returns (deleteLoaded (S := schema) k (s.get k key)) s Q) :
    ∃ t, Writes c k key false s t ∧ Q () t := by
  have hsame : SameBut (S := schema) k key s (s.cleared k key) := sameBut_cleared
  have hgone : (s.cleared k key).get k key = none := get_cleared (S := schema)
  refine ⟨_, ⟨hsame, by rw [has, hgone]; rfl, owners_of_sameBut hsame fun v hv => ?_⟩,
    (Objects.returns_deleteLoaded (S := schema)).mp h⟩
  rw [hgone] at hv
  cases hv

/-- An object of the component is stored. -/
theorem writes_put {new : k.Obj} (howner : k.controller new = some c.name) :
    Writes c k (k.key new) true s (s.put k new) := by
  have hsame := sameBut_put (S := schema) (k := k) s new
  have hget : (s.put k new).get k (k.key new) = some ⟨new, s.revision + 1⟩ := by
    rw [State.get_put, if_pos rfl]
  refine ⟨hsame, by rw [has, hget]; rfl, owners_of_sameBut hsame fun v hv => ?_⟩
  rw [hget] at hv
  cases hv
  exact Or.inl howner

/-- An object that is created. -/
theorem returns_created {new : k.Obj} (hnew : k.key new = key) (howner : k.controller new = some c.name)
    (h : Returns (call (.create k new)) s Q) : ∃ t, Writes c k key true s t ∧ Q () t := by
  subst hnew
  obtain ⟨_, _, hQ⟩ := (Objects.returns_create (S := schema)).mp h
  exact ⟨_, writes_put howner, hQ⟩

/-- An object of the component that is updated. -/
theorem returns_updated {obj : k.Obj} {version : Nat} (hobj : k.key obj = key)
    (howner : k.controller obj = some c.name)
    (h : Returns (call (.update k ⟨obj, version⟩)) s Q) : ∃ t, Writes c k key true s t ∧ Q () t := by
  subst hobj
  obtain ⟨current, hcurrent, _, hQ⟩ := (Objects.returns_update (S := schema)).mp h
  by_cases heq : current.obj = obj
  · rw [if_pos heq] at hQ
    exact ⟨s, ⟨fun _ _ _ => rfl, Option.isSome_of_eq_some hcurrent, Owners.refl c s⟩, hQ⟩
  · rw [if_neg heq] at hQ
    exact ⟨_, writes_put howner, hQ⟩

end Steps

theorem returns_orFail {α : Type} {o : Option α} {Q : α → Cluster → Prop} (h : Returns (orFail o) s Q) :
    ∃ a, o = some a ∧ Q a s := by
  cases o with
  | none => exact absurd h Calls.not_returns_fail
  | some a => exact ⟨a, rfl, Calls.returns_done.mp h⟩

/-! ## 2. The services and the destination rule -/

/-- Services and destination rule behind a run. In a disabled namespace the headless service and the rule stay as
    they were, and so does a headless service that is not asked for any more. -/
structure ServiceReconciled (c : Component) (enabled : Bool) (s t : Cluster) : Prop where
  service : has t .service c.key = (enabled && decide (c.spec.ports ≠ []))
  headless : has t .service c.headlessKey =
    if enabled ∧ c.spec.ports ≠ [] ∧ c.spec.asksForHeadless then true
    else if enabled ∧ c.spec.ports = [] then false
    else has s .service c.headlessKey
  kept : enabled = false → t.get .service c.headlessKey = s.get .service c.headlessKey
  rule : has t .destinationRule c.key =
    if enabled then decide (c.spec.ports ≠ []) else has s .destinationRule c.key
  elsewhere : ∀ k key, ¬ (k = .service ∧ (key = c.key ∨ key = c.headlessKey)) →
    ¬ (k = .destinationRule ∧ key = c.key) → t.get k key = s.get k key
  owners : Owners c s t

theorem returns_loadService {Q : Option (Stored .service) × Option (Stored .service) → Cluster → Prop}
    (h : Returns (loadService c) s Q) : Q (s.get .service c.key, s.get .service c.headlessKey) s := by
  have hservice := (Objects.returns_find (S := schema)).mp (Objects.returns_bind.mp h)
  have hheadless := (Objects.returns_find (S := schema)).mp (Objects.returns_bind.mp hservice)
  exact Calls.returns_done.mp hheadless

section Service

variable {Q : Option Service → Cluster → Prop}

theorem serviceReconciled_disabled (hw : Writes c .service c.key false s t) : ServiceReconciled c false s t where
  service := hw.there
  headless := by
    rw [if_neg fun h => Bool.false_ne_true h.1, if_neg fun h => Bool.false_ne_true h.1]
    exact SameBut.has hw.same fun h => headlessKey_ne h.2
  kept _ := hw.same .service c.headlessKey fun h => headlessKey_ne h.2
  rule := SameBut.has hw.same fun h => Kind.noConfusion h.1
  elsewhere k key hk _ := hw.same k key fun h => hk ⟨h.1, Or.inl h.2⟩
  owners := hw.owners

/-- Three slots are written, one after the other. -/
theorem serviceReconciled_written {v : Cluster} {there headless : Bool}
    (hports : there = decide (c.spec.ports ≠ []))
    (hservice : Writes c .service c.key there s t)
    (hheadless : Writes c .service c.headlessKey headless t u ∨ (u = t ∧ headless = has s .service c.headlessKey))
    (hrule : Writes c .destinationRule c.key there u v)
    (hasks : headless = if c.spec.ports ≠ [] ∧ c.spec.asksForHeadless then true
      else if c.spec.ports = [] then false else has s .service c.headlessKey) :
    ServiceReconciled c true s v := by
  have hsame : ∀ k key, ¬ (k = .service ∧ key = c.headlessKey) → u.get k key = t.get k key := by
    intro k key hne
    rcases hheadless with hw | ⟨rfl, _⟩
    · exact hw.same k key hne
    · rfl
  have howners : Owners c t u := by
    rcases hheadless with hw | ⟨rfl, _⟩
    · exact hw.owners
    · exact Owners.refl c u
  have hthere : has u .service c.headlessKey = headless := by
    rcases hheadless with hw | ⟨rfl, he⟩
    · exact hw.there
    · rw [he]
      exact SameBut.has hservice.same fun h => headlessKey_ne h.2
  refine ⟨?_, ?_, fun h => Bool.noConfusion h, ?_, ?_, (hservice.owners.trans howners).trans hrule.owners⟩
  · rw [SameBut.has hrule.same fun h => Kind.noConfusion h.1, has,
      hsame _ _ fun h => headlessKey_ne h.2.symm, Bool.true_and, ← hports]
    exact hservice.there
  · rw [SameBut.has hrule.same fun h => Kind.noConfusion h.1, hthere, hasks]
    simp only [true_and]
  · rw [hrule.there, if_pos rfl, hports]
  · intro k key hk hk'
    rw [hrule.same k key hk', hsame k key fun h => hk ⟨h.1, Or.inr h.2⟩,
      hservice.same k key fun h => hk ⟨h.1, Or.inl h.2⟩]

/-- **`ReconcileService`**, with what was loaded. -/
theorem returns_reconcileService
    (h : Returns (reconcileService c enabled (s.get .service c.key) (s.get .service c.headlessKey)
      (s.get .destinationRule c.key)) s Q) : ∃ held t, ServiceReconciled c enabled s t ∧ Q held t := by
  unfold reconcileService at h
  cases enabled with
  | false =>
      rw [if_pos rfl] at h
      obtain ⟨t, hw, hQ⟩ := returns_cleared c (Objects.returns_bind.mp h)
      exact ⟨_, t, serviceReconciled_disabled hw, Calls.returns_done.mp hQ⟩
  | true =>
      rw [if_neg Bool.noConfusion] at h
      by_cases hports : c.spec.ports = []
      · rw [if_neg (not_not.mpr hports)] at h
        obtain ⟨t, hservice, h⟩ := returns_cleared c (Objects.returns_bind.mp h)
        rw [← hservice.same .service c.headlessKey fun h => headlessKey_ne h.2] at h
        obtain ⟨u, hheadless, h⟩ := returns_cleared c (Objects.returns_bind.mp h)
        rw [← hservice.same .destinationRule c.key fun h => Kind.noConfusion h.1,
          ← hheadless.same .destinationRule c.key fun h => Kind.noConfusion h.1] at h
        obtain ⟨v, hrule, h⟩ := returns_cleared c (Objects.returns_bind.mp h)
        refine ⟨_, v, serviceReconciled_written ?_ hservice (Or.inl hheadless) hrule ?_,
          Calls.returns_done.mp (returns_loadService (Objects.returns_bind.mp h))⟩
        · rw [decide_eq_false (not_not.mpr hports)]
        · rw [if_neg fun h => h.1 hports, if_pos hports]
      · rw [if_pos hports] at h
        obtain ⟨t, hservice, h⟩ := returns_saved (c := c) (by rfl) (fun _ hkey => by exact hkey) (by rfl)
          (fun _ => by rfl) (Objects.returns_bind.mp h)
        rw [← hservice.same .destinationRule c.key fun h => Kind.noConfusion h.1] at h
        by_cases hasks : c.spec.asksForHeadless = true
        · rw [if_pos hasks, ← hservice.same .service c.headlessKey fun h => headlessKey_ne h.2] at h
          obtain ⟨u, hheadless, h⟩ := returns_saved (c := c) (by rfl) (fun _ hkey => by exact hkey) (by rfl)
            (fun _ => by rfl) (Objects.returns_bind.mp h)
          rw [← hheadless.same .destinationRule c.key fun h => Kind.noConfusion h.1] at h
          obtain ⟨v, hrule, h⟩ := returns_saved (c := c) (by rfl) (fun _ hkey => by exact hkey) (by rfl)
            (fun _ => by rfl) (Objects.returns_bind.mp h)
          refine ⟨_, v, serviceReconciled_written ?_ hservice (Or.inl hheadless) hrule ?_,
            Calls.returns_done.mp (returns_loadService (Objects.returns_bind.mp h))⟩
          · rw [decide_eq_true hports]
          · rw [if_pos ⟨hports, hasks⟩]
        · rw [if_neg hasks] at h
          obtain ⟨v, hrule, h⟩ := returns_saved (c := c) (by rfl) (fun _ hkey => by exact hkey) (by rfl)
            (fun _ => by rfl) (Objects.returns_bind.mp h)
          refine ⟨_, v, serviceReconciled_written ?_ hservice (Or.inr ⟨rfl, rfl⟩) hrule ?_,
            Calls.returns_done.mp (returns_loadService (Objects.returns_bind.mp h))⟩
          · rw [decide_eq_true hports]
          · rw [if_neg fun h => hasks h.2, if_neg hports]

end Service

/-! ## 3. The workload -/

theorem setControllerReference_spec {metadata metadata' : ObjectMeta}
    (h : c.setControllerReference metadata = some metadata') :
    metadata'.controller = some c.name ∧ metadata'.ns = metadata.ns ∧ metadata'.name = metadata.name := by
  unfold Component.setControllerReference at h
  split at h
  · cases h
    exact ⟨rfl, rfl, rfl⟩
  · rename_i owner howner
    split at h
    · rename_i heq
      cases h
      exact ⟨by rw [howner, heq], rfl, rfl⟩
    · cases h

theorem runPlugins_metadata {around : Surroundings} {w w' : Workload .server} (h : w.runPlugins around = some w') :
    w'.metadata = w.metadata := by
  obtain ⟨spec, _, rfl⟩ := Option.map_eq_some_iff.mp h
  rfl

section Workload

variable {Q : Unit → Cluster → Prop} {around : Surroundings} {template : PodTemplate}

theorem returns_reconcileDeployment
    (h : Returns (reconcileDeployment around c template (s.get (.workload .server) c.key)) s Q) :
    ∃ t, Writes c (.workload .server) c.key true s t ∧ Q () t := by
  unfold reconcileDeployment at h
  cases hget : s.get (.workload .server) c.key with
  | none =>
      rw [hget] at h
      obtain ⟨w, hw, h⟩ := returns_orFail (Objects.returns_bind.mp h)
      have hmeta := runPlugins_metadata hw
      exact returns_created (by rw [Kind.key, hmeta]; rfl) (by rw [Kind.controller, hmeta]; rfl) h
  | some v =>
      rw [hget] at h
      simp only at h
      have hkey : Kind.key (.workload .server) v.obj = c.key := (State.get_eq_some.mp hget).2
      split at h
      · exact absurd h Calls.not_returns_crash
      obtain ⟨owned, howned, hplugins⟩ := returns_orFail (Objects.returns_bind.mp h)
      obtain ⟨w, hw, hupdate⟩ := returns_orFail (Objects.returns_bind.mp hplugins)
      have hmeta := runPlugins_metadata hw
      obtain ⟨metadata, hset, rfl⟩ := Option.map_eq_some_iff.mp howned
      obtain ⟨hcontroller, hns, hname⟩ := setControllerReference_spec hset
      refine returns_updated ?_ ?_ hupdate
      · rw [← hkey, Kind.key, hmeta, Kind.key]
        exact Prod.ext hns hname
      · rw [Kind.controller, hmeta]
        exact hcontroller

/-- **Each reconciler leaves a workload of its type.** -/
theorem returns_reconcileWorkloadOf {headlessService : Option Service} {volumeClaimTemplates : Doc}
    {t : WorkloadType} (h : Returns (reconcileWorkloadOf around c headlessService template volumeClaimTemplates t
      (s.get (.workload t) c.key)) s Q) :
    ∃ u, Writes c (.workload t) c.key true s u ∧ Q () u := by
  cases t with
  | server => exact returns_reconcileDeployment h
  | cronjob =>
      rw [reconcileWorkloadOf, reconcileCronJob] at h
      exact returns_saved (c := c) (by rfl) (fun _ hkey => by exact hkey) (by rfl) (fun _ => by rfl) h
  | daemonset =>
      rw [reconcileWorkloadOf, reconcileDaemonSet] at h
      exact returns_saved (c := c) (by rfl) (fun _ hkey => by exact hkey) (by rfl) (fun _ => by rfl) h
  | statefulset =>
      rw [reconcileWorkloadOf, reconcileStatefulSet] at h
      exact returns_saved (c := c) (by rfl) (fun _ hkey => by exact hkey) (by rfl) (fun _ => by rfl) h

theorem returns_reconcileWorkload {headlessService : Option Service}
    (h : Returns (reconcileWorkload around c enabled headlessService
      (s.get (.workload c.spec.workloadType) c.key)) s Q) :
    ∃ t, Writes c (.workload c.spec.workloadType) c.key enabled s t ∧ Q () t := by
  unfold reconcileWorkload at h
  cases enabled with
  | false =>
      rw [if_pos rfl] at h
      exact returns_cleared c h
  | true =>
      rw [if_neg Bool.noConfusion] at h
      obtain ⟨⟨template, claims⟩, _, h⟩ := returns_orFail (Objects.returns_bind.mp h)
      exact returns_reconcileWorkloadOf h

end Workload

/-! ## 4. The run -/

/-- The objects a reconcile of the component can write. -/
def IsSlot (c : Component) : Kind → Str × Str → Prop
  | .service, key => key = c.key ∨ key = c.headlessKey
  | .destinationRule, key => key = c.key
  | .workload type, key => type = c.spec.workloadType ∧ key = c.key
  | _, _ => False

/-- The objects of a component behind a run that returns. -/
structure Reconciled (c : Component) (enabled : Bool) (s t : Cluster) : Prop where
  service : has t .service c.key = (enabled && decide (c.spec.ports ≠ []))
  headless : has t .service c.headlessKey =
    if enabled ∧ c.spec.ports ≠ [] ∧ c.spec.asksForHeadless then true
    else if enabled ∧ c.spec.ports = [] then false
    else has s .service c.headlessKey
  kept : enabled = false → t.get .service c.headlessKey = s.get .service c.headlessKey
  rule : has t .destinationRule c.key =
    if enabled then decide (c.spec.ports ≠ []) else has s .destinationRule c.key
  workload : has t (.workload c.spec.workloadType) c.key = enabled
  elsewhere : ∀ k key, ¬ IsSlot c k key → t.get k key = s.get k key
  owners : Owners c s t

theorem ServiceReconciled.then_workload (hs : ServiceReconciled c enabled s t)
    (hw : Writes c (.workload c.spec.workloadType) c.key enabled t u) : Reconciled c enabled s u where
  service := (SameBut.has hw.same fun h => Kind.noConfusion h.1).trans hs.service
  headless := (SameBut.has hw.same fun h => Kind.noConfusion h.1).trans hs.headless
  kept h := (hw.same .service c.headlessKey fun h => Kind.noConfusion h.1).trans (hs.kept h)
  rule := (SameBut.has hw.same fun h => Kind.noConfusion h.1).trans hs.rule
  workload := hw.there
  elsewhere k key hslot := by
    have hservice : ¬ (k = .service ∧ (key = c.key ∨ key = c.headlessKey)) := by
      rintro ⟨rfl, h⟩
      exact hslot h
    have hrule : ¬ (k = .destinationRule ∧ key = c.key) := by
      rintro ⟨rfl, h⟩
      exact hslot h
    have hworkload : ¬ (k = .workload c.spec.workloadType ∧ key = c.key) := by
      rintro ⟨rfl, h⟩
      exact hslot ⟨rfl, h⟩
    rw [hw.same k key hworkload, hs.elsewhere k key hservice hrule]
  owners := hs.owners.trans hw.owners

variable {around : Surroundings} {Q : Unit → Cluster → Prop}

/-- The services first, then the workload. -/
theorem returns_reconcile_workload (h : Returns (ComponentReconcilerTask.reconcile around c enabled) s Q) :
    (c.deleting = true ∧ Q () s) ∨ (c.deleting = false ∧ ∃ held t, ServiceReconciled c enabled s t ∧
      Returns (reconcileWorkload around c enabled held (t.get (.workload c.spec.workloadType) c.key)) t Q) := by
  unfold ComponentReconcilerTask.reconcile at h
  have hloaded := returns_loadService (Objects.returns_bind.mp h)
  unfold loadComponentPluginBinding at hloaded
  have hbindings := (Objects.returns_list (S := schema)).mp
    (Objects.returns_bind.mp (Objects.returns_bind.mp hloaded))
  have hlisted := Calls.returns_done.mp hbindings
  have hrule := (Objects.returns_find (S := schema)).mp (Objects.returns_bind.mp hlisted)
  have hworkload := (Objects.returns_find (S := schema)).mp (Objects.returns_bind.mp hrule)
  cases hdeleting : c.deleting with
  | true =>
      rw [hdeleting, if_pos rfl] at hworkload
      exact Or.inl ⟨rfl, Calls.returns_done.mp hworkload⟩
  | false =>
      rw [hdeleting, if_neg Bool.false_ne_true] at hworkload
      obtain ⟨held, t, hs, hrest⟩ := returns_reconcileService (Objects.returns_bind.mp hworkload)
      obtain ⟨_, _, hrest⟩ := returns_orFail (Objects.returns_bind.mp hrest)
      rw [← hs.elsewhere _ _ (fun h => Kind.noConfusion h.1) fun h => Kind.noConfusion h.1] at hrest
      exact Or.inr ⟨rfl, held, t, hs, hrest⟩

theorem returns_reconcile (h : Returns (ComponentReconcilerTask.reconcile around c enabled) s Q) :
    (c.deleting = true ∧ Q () s) ∨ (c.deleting = false ∧ ∃ t, Reconciled c enabled s t ∧ Q () t) := by
  rcases returns_reconcile_workload h with ⟨hdeleting, hQ⟩ | ⟨hlive, held, t, hs, hrest⟩
  · exact Or.inl ⟨hdeleting, hQ⟩
  · obtain ⟨u, hw, hQ⟩ := returns_reconcileWorkload hrest
    exact Or.inr ⟨hlive, u, hs.then_workload hw, hQ⟩

/-- The component and its namespace as `Run` finds them. -/
def setupOf (s : Cluster) (key : Str × Str) : Option (Component × Namespace) :=
  (s.get .component key).bind fun v =>
    (s.get .ns ([], Component.ns v.obj)).map fun nspace => (v.obj, nspace.obj)

/-- What `setupOf` finds. -/
theorem setupOf_eq_some {s : Cluster} {key : Str × Str} {c : Component} {nspace : Namespace} :
    setupOf s key = some (c, nspace) ↔
      ∃ v n, s.get .component key = some v ∧ s.get .ns ([], c.ns) = some n ∧ v.obj = c ∧ n.obj = nspace := by
  unfold setupOf
  rw [Option.bind_eq_some_iff]
  constructor
  · rintro ⟨v, hv, h⟩
    obtain ⟨n, hn, he⟩ := Option.map_eq_some_iff.mp h
    cases he
    exact ⟨v, n, hv, hn, rfl, rfl⟩
  · rintro ⟨v, n, hv, hn, rfl, rfl⟩
    exact ⟨v, hv, by rw [hn]; rfl⟩

theorem returns_setupAttributes {Q : Option (Component × Namespace) → Cluster → Prop}
    (h : Returns (setupAttributes key) s Q) : Q (setupOf s key) s := by
  unfold setupAttributes at h
  have hcomponent := (Objects.returns_find (S := schema)).mp (Objects.returns_bind.mp h)
  unfold setupOf
  cases hv : s.get .component key with
  | none =>
      rw [hv] at hcomponent
      exact Calls.returns_done.mp hcomponent
  | some v =>
      rw [hv] at hcomponent
      have hnamespace := (Objects.returns_find (S := schema)).mp (Objects.returns_bind.mp hcomponent)
      rw [Option.bind_some]
      cases hn : s.get .ns ([], Component.ns v.obj) with
      | none =>
          rw [hn] at hnamespace
          exact Calls.returns_done.mp hnamespace
      | some nspace =>
          rw [hn] at hnamespace
          exact Calls.returns_done.mp hnamespace

/-- `Run` finds the component and its namespace, or does nothing. -/
theorem returns_found (h : Returns (ComponentReconcilerTask.run around key) s Q) :
    (setupOf s key = none ∧ Q () s) ∨ ∃ c nspace, setupOf s key = some (c, nspace) ∧
      Returns (ComponentReconcilerTask.reconcile around c (isNamespaceKalmEnabled nspace)) s Q := by
  unfold ComponentReconcilerTask.run at h
  have hsetup := returns_setupAttributes (Objects.returns_bind.mp h)
  cases hfound : setupOf s key with
  | none =>
      rw [hfound] at hsetup
      exact Or.inl ⟨rfl, Calls.returns_done.mp hsetup⟩
  | some found =>
      obtain ⟨c, nspace⟩ := found
      rw [hfound] at hsetup
      exact Or.inr ⟨c, nspace, rfl, hsetup⟩

/-- **`Run`** finds no component, or no namespace, or a component that is deleted, or reconciles it. -/
theorem returns_run (h : Returns (ComponentReconcilerTask.run around key) s Q) :
    (Q () s ∧ ∀ c nspace, setupOf s key = some (c, nspace) → c.deleting = true) ∨
    ∃ c nspace t, setupOf s key = some (c, nspace) ∧ c.deleting = false ∧
      Reconciled c (isNamespaceKalmEnabled nspace) s t ∧ Q () t := by
  rcases returns_found h with ⟨hnone, hQ⟩ | ⟨c, nspace, hfound, hreconcile⟩
  · refine Or.inl ⟨hQ, fun c nspace he => ?_⟩
    rw [hnone] at he
    cases he
  · rcases returns_reconcile hreconcile with ⟨hdeleting, hQ⟩ | ⟨hlive, t, hr, hQ⟩
    · refine Or.inl ⟨hQ, fun c' nspace' he => ?_⟩
      rw [hfound] at he
      cases he
      exact hdeleting
    · exact Or.inr ⟨c, nspace, t, hfound, hlive, hr, hQ⟩

section Strict

variable {service headlessService : Option (Stored .service)} {rule : Option (Stored .destinationRule)}

theorem strict_loadService (c : Component) : Calls.Strict .unavailable (loadService c) :=
  Calls.strict_bind (Objects.strict_find ..) fun _ => Calls.strict_bind (Objects.strict_find ..) fun _ => trivial

theorem strict_orFail {α : Type} (o : Option α) : Calls.Strict .unavailable (orFail o) := by
  cases o <;> trivial

theorem strict_reconcileService :
    Calls.Strict .unavailable (reconcileService c enabled service headlessService rule) := by
  unfold reconcileService
  split
  · exact Calls.strict_bind (Objects.strict_deleteLoaded ..) fun _ => trivial
  split
  · refine Calls.strict_bind (Objects.strict_save ..) fun _ => ?_
    split
    · refine Calls.strict_bind (Objects.strict_save ..) fun _ => ?_
      refine Calls.strict_bind (Objects.strict_save ..) fun _ => ?_
      exact Calls.strict_bind (strict_loadService c) fun _ => trivial
    · refine Calls.strict_bind (Objects.strict_save ..) fun _ => ?_
      exact Calls.strict_bind (strict_loadService c) fun _ => trivial
  · refine Calls.strict_bind (Objects.strict_deleteLoaded ..) fun _ => ?_
    refine Calls.strict_bind (Objects.strict_deleteLoaded ..) fun _ => ?_
    refine Calls.strict_bind (Objects.strict_deleteLoaded ..) fun _ => ?_
    exact Calls.strict_bind (strict_loadService c) fun _ => trivial

theorem strict_reconcileWorkload {headlessService : Option Service}
    {loaded : Option (Stored (.workload c.spec.workloadType))} :
    Calls.Strict .unavailable (reconcileWorkload around c enabled headlessService loaded) := by
  unfold reconcileWorkload
  split
  · exact Objects.strict_deleteLoaded ..
  refine Calls.strict_bind (strict_orFail _) fun made => ?_
  obtain ⟨template, claims⟩ := made
  generalize c.spec.workloadType = type at loaded
  cases type with
  | server =>
      unfold reconcileWorkloadOf reconcileDeployment
      cases loaded with
      | none => exact Calls.strict_bind (strict_orFail _) fun _ => Calls.strict_invoke _
      | some v =>
          dsimp only
          split
          · trivial
          · exact Calls.strict_bind (strict_orFail _) fun _ =>
              Calls.strict_bind (strict_orFail _) fun _ => Calls.strict_invoke _
  | cronjob =>
      dsimp only [reconcileWorkloadOf, reconcileCronJob]
      exact Objects.strict_save ..
  | daemonset =>
      dsimp only [reconcileWorkloadOf, reconcileDaemonSet]
      exact Objects.strict_save ..
  | statefulset =>
      dsimp only [reconcileWorkloadOf, reconcileStatefulSet]
      exact Objects.strict_save ..

/-- **A run in which a call fails does not return.** -/
theorem strict_run (around : Surroundings) (key : Str × Str) :
    Calls.Strict .unavailable (ComponentReconcilerTask.run around key) := by
  unfold ComponentReconcilerTask.run
  refine Calls.strict_bind ?_ fun found => ?_
  · unfold setupAttributes
    refine Calls.strict_bind (Objects.strict_find ..) fun found => ?_
    cases found with
    | none => trivial
    | some v =>
        refine Calls.strict_bind (Objects.strict_find ..) fun nspace => ?_
        cases nspace <;> trivial
  · cases found with
    | none => trivial
    | some found =>
        unfold ComponentReconcilerTask.reconcile
        refine Calls.strict_bind (strict_loadService _) fun _ => ?_
        refine Calls.strict_bind (Calls.strict_bind (Calls.strict_invoke _) fun _ => trivial) fun _ => ?_
        refine Calls.strict_bind (Objects.strict_find ..) fun _ => ?_
        refine Calls.strict_bind (Objects.strict_find ..) fun _ => ?_
        split
        · trivial
        · refine Calls.strict_bind strict_reconcileService fun _ => ?_
          exact Calls.strict_bind (strict_orFail _) fun _ => strict_reconcileWorkload

end Strict

/-- The cluster behind a program that returns. -/
def ranTo (p : ControllerTask Unit) (s : Cluster) : Option Cluster :=
  match Calls.run Objects.serve .unavailable p [] s with
  | (.returned _, t) => some t
  | _ => none

theorem returns_of_ranTo {p : ControllerTask Unit} (h : ranTo p s = some t) : Returns p s fun _ u => u = t := by
  unfold ranTo at h
  split at h
  · rename_i a u hrun
    cases h
    exact ⟨a, _, hrun, rfl⟩
  · cases h

/-- The workloads of other types stay as they were. -/
theorem Reconciled.has_workload (h : Reconciled c enabled s t) (type : WorkloadType) :
    has t (.workload type) c.key =
      if type = c.spec.workloadType then enabled else has s (.workload type) c.key := by
  split
  · rename_i htype
    rw [htype]
    exact h.workload
  · rename_i htype
    rw [has, h.elsewhere (.workload type) c.key fun hslot => htype hslot.1]
    rfl

/-! ## 5. What a component owns -/

/-- The kinds a reconcile writes. -/
def Written : Kind → Prop
  | .service => True
  | .destinationRule => True
  | .workload _ => True
  | _ => False

/-- An object of the namespace that the component owns. -/
def Owned (ns name : Str) (s : Cluster) (k : Kind) (key : Str × Str) : Prop :=
  key.1 = ns ∧ ∃ v, s.get k key = some v ∧ Kind.controller k v.obj = some name

theorem written_of_controller {name : Str} {obj : k.Obj} (h : Kind.controller k obj = some name) : Written k := by
  cases k with
  | service => trivial
  | destinationRule => trivial
  | workload type => trivial
  | _ => cases h

/-- A cluster without objects. -/
def emptyCluster : Cluster where
  objects := fun _ => .empty
  revision := 0

/-- A component with one port. -/
def webComponent : Component where
  ns := str "shop"
  name := str "web"
  labels := ∅
  annotations := ∅
  ownerReferences := []
  deleting := false
  spec := {
    labels := ∅
    annotations := ∅
    replicas := some 1
    enableHeadlessService := false
    ports := [⟨8080, 80, .http⟩]
    workloadType := .server
    schedule := []
    restartStrategy := []
    podFields := emptyDoc }

end Kalm.Controller
