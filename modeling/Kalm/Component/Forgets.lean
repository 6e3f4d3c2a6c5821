/-
  File:      Kalm/Component/Forgets.lean
  Subject:   WHAT A COMPONENT KEEPS OF ITS PAST: its spec and the label of its namespace change, and after each
             change one reconcile returns.

  * `settle` -- a change and the reconcile behind it;
  * `Part` -- the objects of a component; `on` and `off` say which changes make one and which delete it;
  * `has_run` -- behind a run, a part is there as those changes leave it;
  * `Forgets` -- what the component owns is what a reconcile of the last change makes in an empty namespace;
  * `forgets_iff` -- exactly when: what the last change does not ask for was deleted by a later change than the
    one that made it. A change of the type deletes no workload of another type, and nothing but a spec without
    ports deletes a headless service or a destination rule.
-/
import Kalm.Component.Reconciled
import Kalm.Lib.Runs

namespace Kalm.Controller

open Objects (State Returns)
open Runs (runSteps switch Undone)

/-! ## 1. Changes -/

/-- A change: the component and the labels of its namespace behind it, and what the reconcile reads beside them. -/
structure Change where
  labels : ObjectLabels
  annotations : ObjectLabels
  ownerReferences : List OwnerReference
  spec : ComponentSpec
  namespaceLabels : ObjectLabels
  around : Surroundings

/-- The component. -/
def Change.component (change : Change) (ns name : Str) : Component where
  ns := ns
  name := name
  labels := change.labels
  annotations := change.annotations
  ownerReferences := change.ownerReferences
  deleting := false
  spec := change.spec

/-- Its namespace. -/
def Change.nspace (change : Change) (ns : Str) : Namespace := ⟨ns, change.namespaceLabels⟩

/-- The namespace is enabled. -/
def Change.enabled (change : Change) : Bool := isNamespaceKalmEnabled ⟨[], change.namespaceLabels⟩

/-- The change is stored. -/
def applied (ns name : Str) (s : Cluster) (change : Change) : Cluster :=
  (s.put Kind.ns (change.nspace ns)).put Kind.component (change.component ns name)

/-- The change, and one reconcile that returns. -/
def settle (ns name : Str) (s : Cluster) (change : Change) : Option Cluster :=
  ranTo (ComponentReconcilerTask.run change.around (ns, name)) (applied ns name s change)

section Settle

variable {ns name : Str} {s t : Cluster} {change : Change}

theorem setupOf_applied : setupOf (applied ns name s change) (ns, name) =
    some (change.component ns name, change.nspace ns) := by
  have hcomponent :
      (applied ns name s change).get Kind.component (ns, name) = some ⟨change.component ns name, _⟩ :=
    (State.get_put (S := schema) (k := Kind.component) (ns, name)).trans (if_pos rfl)
  have hns : (applied ns name s change).get Kind.ns ([], ns) = some ⟨change.nspace ns, _⟩ :=
    (State.get_put_of_ne (S := schema) (k := Kind.component) (l := Kind.ns) Kind.noConfusion _).trans
      ((State.get_put (S := schema) (k := Kind.ns) ([], ns)).trans (if_pos rfl))
  unfold setupOf
  rw [hcomponent, Option.bind_some]
  exact congrArg (Option.map _) hns

theorem get_applied {k : Kind} (hns : k ≠ .ns) (hcomponent : k ≠ .component) (key : Str × Str) :
    (applied ns name s change).get k key = s.get k key :=
  (State.get_put_of_ne (S := schema) hcomponent key).trans (State.get_put_of_ne (S := schema) hns key)

/-- **A change that settles is reconciled.** -/
theorem settle_spec (h : settle ns name s change = some t) :
    Reconciled (change.component ns name) change.enabled (applied ns name s change) t := by
  rcases returns_run (returns_of_ranTo h) with ⟨_, hnone⟩ | ⟨c, nspace, u, hsetup, _, hr, rfl⟩
  · have hdeleting := hnone _ _ setupOf_applied
    cases hdeleting
  · rw [setupOf_applied] at hsetup
    cases hsetup
    exact hr

end Settle

/-! ## 2. Parts -/

/-- The objects of a component. -/
inductive Part where
  | service
  | headlessService
  | destinationRule
  | workload (type : WorkloadType)

namespace Part

/-- The kind of a part. -/
def kind : Part → Kind
  | service => .service
  | headlessService => .service
  | destinationRule => .destinationRule
  | workload type => .workload type

/-- Namespace and name of a part. -/
def key (ns name : Str) : Part → Str × Str
  | headlessService => (ns, getNameForHeadlessService name)
  | _ => (ns, name)

/-- The changes that make the part. -/
def on : Part → Change → Bool
  | service, change => change.enabled && decide (change.spec.ports ≠ [])
  | headlessService, change => change.enabled && decide (change.spec.ports ≠ []) && change.spec.asksForHeadless
  | destinationRule, change => change.enabled && decide (change.spec.ports ≠ [])
  | workload type, change => change.enabled && decide (type = change.spec.workloadType)

/-- The changes that delete it. -/
def off : Part → Change → Bool
  | service, change => !change.enabled || decide (change.spec.ports = [])
  | headlessService, change => change.enabled && decide (change.spec.ports = [])
  | destinationRule, change => change.enabled && decide (change.spec.ports = [])
  | workload type, change => !change.enabled && decide (type = change.spec.workloadType)

end Part

section Parts

variable {ns name : Str} {s t : Cluster} {change : Change} {part : Part}

variable (ns name s change) in
theorem has_applied (part : Part) (key : Str × Str) :
    has (applied ns name s change) part.kind key = has s part.kind key := by
  unfold has
  cases part <;> rw [get_applied Kind.noConfusion Kind.noConfusion]

/-- **What a change makes of a part.** -/
theorem has_settle (h : settle ns name s change = some t) (part : Part) :
    has t part.kind (part.key ns name) =
      switch part.on part.off (has s part.kind (part.key ns name)) change := by
  have hr := settle_spec h
  rw [← has_applied ns name s change part]
  unfold switch
  cases part with
  | service =>
      refine hr.service.trans ?_
      cases henabled : change.enabled <;> by_cases hports : change.spec.ports = [] <;>
        simp [Part.on, Part.off, henabled, hports, Change.component]
  | headlessService =>
      refine hr.headless.trans ?_
      cases henabled : change.enabled <;> by_cases hports : change.spec.ports = [] <;>
        simp [Part.on, Part.off, Part.kind, Part.key, henabled, hports, Change.component, Component.headlessKey]
  | destinationRule =>
      refine hr.rule.trans ?_
      cases henabled : change.enabled <;> by_cases hports : change.spec.ports = [] <;>
        simp [Part.on, Part.off, Part.kind, Part.key, henabled, hports, Change.component, Component.key]
  | workload type =>
      refine (hr.has_workload type).trans ?_
      cases henabled : change.enabled <;> by_cases htype : type = change.spec.workloadType <;>
        simp [Part.on, Part.off, Part.kind, Part.key, henabled, htype, Change.component, Component.key]

end Parts

/-! ## 3. What the component owns -/

/-- Nothing of the kinds that a reconcile writes is in the namespace. -/
def EmptyNamespace (ns : Str) (s : Cluster) : Prop := ∀ k key, Written k → key.1 = ns → s.get k key = none

/-- The objects of these kinds in the namespace are parts of the component, and it owns them. -/
def OnlyParts (ns name : Str) (s : Cluster) : Prop :=
  ∀ k key v, Written k → key.1 = ns → s.get k key = some v →
    Kind.controller k v.obj = some name ∧ ∃ part : Part, part.kind = k ∧ part.key ns name = key

section Owned

variable {ns name : Str} {s t : Cluster} {change : Change} {k : Kind} {key : Str × Str} {part : Part}

theorem written_kind (part : Part) : Written part.kind := by
  cases part <;> trivial

theorem key_fst (part : Part) : (part.key ns name).1 = ns := by
  cases part <;> rfl

theorem part_of_isSlot {c : Component} (h : IsSlot c k key) :
    ∃ part : Part, part.kind = k ∧ part.key c.ns c.name = key := by
  cases k with
  | service =>
      rcases h with h | h
      · exact ⟨.service, rfl, h.symm⟩
      · exact ⟨.headlessService, rfl, h.symm⟩
  | destinationRule => exact ⟨.destinationRule, rfl, Eq.symm h⟩
  | workload type => exact ⟨.workload type, rfl, h.2.symm⟩
  | _ => exact h.elim

theorem EmptyNamespace.onlyParts (h : EmptyNamespace ns s) : OnlyParts ns name s := by
  intro k key v hk hns hv
  rw [h k key hk hns] at hv
  cases hv

theorem EmptyNamespace.has_eq_false (h : EmptyNamespace ns s) (part : Part) :
    has s part.kind (part.key ns name) = false := by
  rw [has, h _ _ (written_kind part) (key_fst part)]
  rfl

/-- A change keeps what is foreign out. -/
theorem OnlyParts.settle (hs : OnlyParts ns name s) (h : settle ns name s change = some t) :
    OnlyParts ns name t := by
  have hr := settle_spec h
  have happlied : ∀ k key, Written k → (applied ns name s change).get k key = s.get k key := by
    intro k key hk
    refine get_applied ?_ ?_ key
    · rintro rfl
      exact hk
    · rintro rfl
      exact hk
  intro k key v hk hns hv
  constructor
  · rcases hr.owners k key v hv with hc | ⟨w, hw, hwv⟩
    · exact hc
    · rw [happlied k key hk] at hw
      rw [← hwv]
      exact (hs k key w hk hns hw).1
  · by_cases hslot : IsSlot (change.component ns name) k key
    · exact part_of_isSlot hslot
    · rw [hr.elsewhere k key hslot, happlied k key hk] at hv
      exact (hs k key v hk hns hv).2

/-- **The parts that are there are what the component owns.** -/
theorem OnlyParts.owned_part (h : OnlyParts ns name s) (part : Part) :
    Owned ns name s part.kind (part.key ns name) ↔ has s part.kind (part.key ns name) = true := by
  constructor
  · rintro ⟨_, v, hv, _⟩
    exact Option.isSome_of_eq_some hv
  · intro hthere
    obtain ⟨v, hv⟩ := Option.isSome_iff_exists.mp hthere
    exact ⟨key_fst part, v, hv, (h _ _ v (written_kind part) (key_fst part) hv).1⟩

theorem OnlyParts.part_of_owned (h : OnlyParts ns name s) (ho : Owned ns name s k key) :
    ∃ part : Part, part.kind = k ∧ part.key ns name = key := by
  obtain ⟨hns, v, hv, hc⟩ := ho
  exact (h k key v (written_of_controller hc) hns hv).2

end Owned

/-! ## 4. Runs -/

section Run

variable {ns name : Str} {start s t : Cluster} {history : List Change} {last : Change}

theorem onlyParts_run (hstart : EmptyNamespace ns start) (h : runSteps (settle ns name) start history = some s) :
    OnlyParts ns name s :=
  Runs.runSteps_invariant (fun _ _ _ hs hsettle => hs.settle hsettle) hstart.onlyParts h

/-- **Behind a run, a part is there as the changes that make it and those that delete it leave it.** -/
theorem has_run (hstart : EmptyNamespace ns start) (h : runSteps (settle ns name) start history = some s)
    (part : Part) :
    has s part.kind (part.key ns name) = history.foldl (switch part.on part.off) false := by
  have hfalse : has start part.kind (part.key ns name) = false := hstart.has_eq_false part
  rw [← hfalse]
  exact Runs.runSteps_bit (fun _ _ _ hsettle => has_settle hsettle part) h

/-- It is as the last change has it, if that makes it or every change that makes it is undone. -/
theorem has_eq_on_iff (hstart : EmptyNamespace ns start)
    (h : runSteps (settle ns name) start (history ++ [last]) = some s) (part : Part) :
    has s part.kind (part.key ns name) = part.on last ↔
      (part.on last = false → Undone part.on part.off (history ++ [last])) := by
  rw [has_run hstart h part]
  cases hon : part.on last with
  | true => exact iff_of_true (Runs.foldl_switch_append_on hon false) fun hfalse => Bool.noConfusion hfalse
  | false =>
      rw [forall_prop_of_true rfl]
      exact Runs.switch_eq_false

end Run

/-! ## 5. The statement -/

/-- **The past is forgotten**: in `s` the component owns what it owns in `t`, where the last change alone was
    reconciled; one workload of the current type, none in a disabled namespace; a headless service if and only if
    the spec asks for one; a service and a destination rule if and only if it has ports and the namespace is
    enabled. -/
structure Forgets (ns name : Str) (last : Change) (s t : Cluster) : Prop where
  fresh : ∀ k key, Owned ns name s k key ↔ Owned ns name t k key
  workload : ∀ type key, Owned ns name s (.workload type) key ↔
    key = (ns, name) ∧ last.enabled = true ∧ type = last.spec.workloadType
  headless : Owned ns name s .service (ns, getNameForHeadlessService name) ↔ last.spec.asksForHeadless = true
  service : Owned ns name s .service (ns, name) ↔ last.spec.ports ≠ [] ∧ last.enabled = true
  rule : Owned ns name s .destinationRule (ns, name) ↔ last.spec.ports ≠ [] ∧ last.enabled = true

/-- Nothing is left of the past: a part that the last change does not make was deleted behind every change that
    made it. And a headless service is asked for only with ports in an enabled namespace. -/
structure PastCleared (history : List Change) (last : Change) : Prop where
  undone : ∀ part : Part, part.on last = false → Undone part.on part.off (history ++ [last])
  asked : last.spec.asksForHeadless = true → last.enabled = true ∧ last.spec.ports ≠ []

section Statement

variable {ns name : Str} {start start' s t : Cluster} {history : List Change} {last : Change}

/-- The parts are those of the last change. -/
theorem forgets_of_parts (hs : OnlyParts ns name s) (ht : OnlyParts ns name t)
    (hst : ∀ part : Part, has s part.kind (part.key ns name) = part.on last)
    (htt : ∀ part : Part, has t part.kind (part.key ns name) = part.on last)
    (hasked : last.spec.asksForHeadless = true → last.enabled = true ∧ last.spec.ports ≠ []) :
    Forgets ns name last s t := by
  have howned : ∀ part : Part, Owned ns name s part.kind (part.key ns name) ↔ part.on last = true := by
    intro part
    rw [hs.owned_part, hst]
  refine ⟨fun k key => ⟨fun ho => ?_, fun ho => ?_⟩, fun type key => ⟨fun ho => ?_, ?_⟩, ?_, ?_, ?_⟩
  · obtain ⟨part, rfl, rfl⟩ := hs.part_of_owned ho
    rw [ht.owned_part, htt, ← hst, ← hs.owned_part]
    exact ho
  · obtain ⟨part, rfl, rfl⟩ := ht.part_of_owned ho
    rw [hs.owned_part, hst, ← htt, ← ht.owned_part]
    exact ho
  · obtain ⟨part, hkind, rfl⟩ := hs.part_of_owned ho
    cases part with
    | workload type' =>
        obtain rfl := Kind.workload.inj hkind
        have hon := (howned (.workload type')).mp ho
        rw [Part.on, Bool.and_eq_true, decide_eq_true_eq] at hon
        exact ⟨rfl, hon⟩
    | _ => cases hkind
  · rintro ⟨rfl, henabled, rfl⟩
    refine (howned (.workload last.spec.workloadType)).mpr ?_
    rw [Part.on, henabled, decide_eq_true rfl, Bool.and_true]
  · refine (howned .headlessService).trans ?_
    rw [Part.on, Bool.and_eq_true, Bool.and_eq_true, decide_eq_true_eq]
    exact ⟨fun h => h.2, fun h => ⟨hasked h, h⟩⟩
  · refine (howned .service).trans ?_
    rw [Part.on, Bool.and_eq_true, decide_eq_true_eq]
    exact and_comm
  · refine (howned .destinationRule).trans ?_
    rw [Part.on, Bool.and_eq_true, decide_eq_true_eq]
    exact and_comm

theorem Forgets.has_eq (h : Forgets ns name last s t) (hs : OnlyParts ns name s) (ht : OnlyParts ns name t)
    (htt : ∀ part : Part, has t part.kind (part.key ns name) = part.on last) (part : Part) :
    has s part.kind (part.key ns name) = part.on last := by
  rw [← htt part, Bool.eq_iff_iff, ← hs.owned_part, ← ht.owned_part]
  exact h.fresh _ _

theorem Forgets.asked (h : Forgets ns name last s t) (ht : OnlyParts ns name t)
    (htt : ∀ part : Part, has t part.kind (part.key ns name) = part.on last)
    (hasks : last.spec.asksForHeadless = true) : last.enabled = true ∧ last.spec.ports ≠ [] := by
  have hon := (ht.owned_part .headlessService).mp ((h.fresh _ _).mp (h.headless.mpr hasks))
  rw [htt, Part.on, Bool.and_eq_true, Bool.and_eq_true, decide_eq_true_eq] at hon
  exact hon.1

/-- **Reconciling forgets the past if and only if it was cleared.** -/
theorem forgets_iff (hstart : EmptyNamespace ns start)
    (h : runSteps (settle ns name) start (history ++ [last]) = some s)
    (hstart' : EmptyNamespace ns start') (h' : settle ns name start' last = some t) :
    Forgets ns name last s t ↔ PastCleared history last := by
  have hfresh : runSteps (settle ns name) start' [last] = some t := by
    rw [runSteps, h']
    rfl
  have hs := onlyParts_run hstart h
  have ht := onlyParts_run hstart' hfresh
  have htt : ∀ part : Part, has t part.kind (part.key ns name) = part.on last := by
    intro part
    rw [has_settle h' part, hstart'.has_eq_false, switch]
    cases hon : part.on last with
    | true => rfl
    | false => exact ite_self _
  constructor
  · intro hf
    exact ⟨fun part => (has_eq_on_iff hstart h part).mp (hf.has_eq hs ht htt part), hf.asked ht htt⟩
  · intro hc
    exact forgets_of_parts hs ht (fun part => (has_eq_on_iff hstart h part).mpr (hc.undone part)) htt hc.asked

end Statement

theorem emptyNamespace_emptyCluster (ns : Str) : EmptyNamespace ns emptyCluster := fun _ _ _ _ => rfl

/-- A change of the type, the ports and the label. -/
def shopChange (type : WorkloadType) (ports : List Port) (enabled : Str) : Change where
  labels := ∅
  annotations := ∅
  ownerReferences := []
  spec := {
    labels := ∅
    annotations := ∅
    replicas := some 1
    enableHeadlessService := false
    ports := ports
    workloadType := type
    schedule := str "0 * * * *"
    restartStrategy := []
    podFields := emptyDoc }
  namespaceLabels := (∅ : ObjectLabels).insert kalmEnableLabelName enabled
  around := {
    podTemplate := fun _ => some (⟨∅, [], emptyDoc⟩, emptyDoc)
    beforeDeploymentSave := some }

/-- A component is started, its ports are taken away, and then its namespace is disabled. -/
def shopHistory : List Change :=
  [shopChange .server [⟨8080, 80, .http⟩] (str "true"), shopChange .server [] (str "true")]

/-- The last change clears everything. -/
theorem forgets_shop : ∃ s t,
    runSteps (settle (str "shop") (str "web")) emptyCluster
        (shopHistory ++ [shopChange .server [] (str "false")]) = some s ∧
      settle (str "shop") (str "web") emptyCluster (shopChange .server [] (str "false")) = some t ∧
        Forgets (str "shop") (str "web") (shopChange .server [] (str "false")) s t := by
  have hs : (runSteps (settle (str "shop") (str "web")) emptyCluster
      (shopHistory ++ [shopChange .server [] (str "false")])).isSome = true := rfl
  have ht : (settle (str "shop") (str "web") emptyCluster
      (shopChange .server [] (str "false"))).isSome = true := rfl
  obtain ⟨s, hs⟩ := Option.isSome_iff_exists.mp hs
  obtain ⟨t, ht⟩ := Option.isSome_iff_exists.mp ht
  refine ⟨s, t, hs, ht, (forgets_iff (emptyNamespace_emptyCluster _) hs (emptyNamespace_emptyCluster _) ht).mpr
    ⟨fun part _ => ?_, by decide⟩⟩
  cases part with
  | workload type => cases type <;> exact Runs.switch_eq_false.mp rfl
  | _ => exact Runs.switch_eq_false.mp rfl

/-- **A component that becomes a cron job keeps its deployment.** -/
theorem forgets_fails :
    ¬ ∀ (ns name : Str) (history : List Change) (last : Change) (start start' s t : Cluster),
      EmptyNamespace ns start → runSteps (settle ns name) start (history ++ [last]) = some s →
      EmptyNamespace ns start' → settle ns name start' last = some t → Forgets ns name last s t := by
  intro h
  have hs : (runSteps (settle (str "shop") (str "web")) emptyCluster
      ([shopChange .server [⟨8080, 80, .http⟩] (str "true")] ++
        [shopChange .cronjob [⟨8080, 80, .http⟩] (str "true")])).isSome = true := rfl
  have ht : (settle (str "shop") (str "web") emptyCluster
      (shopChange .cronjob [⟨8080, 80, .http⟩] (str "true"))).isSome = true := rfl
  obtain ⟨s, hs⟩ := Option.isSome_iff_exists.mp hs
  obtain ⟨t, ht⟩ := Option.isSome_iff_exists.mp ht
  have hempty := emptyNamespace_emptyCluster (str "shop")
  have hf := h _ _ _ _ _ _ s t hempty hs hempty ht
  have hdeployment := (onlyParts_run hempty hs).owned_part (.workload .server)
  rw [has_run hempty hs] at hdeployment
  have howned := (hf.workload .server (str "shop", str "web")).mp (hdeployment.mpr rfl)
  cases howned.2.2

end Kalm.Controller
