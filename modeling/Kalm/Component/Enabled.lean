/-
  File:      Kalm/Component/Enabled.lean
  Subject:   ENABLED NAMESPACES RUN, OTHERS DO NOT: labels of namespaces change, components are created, and the
             two controllers run after the events they are waiting for, in any order.

  * `World`, `step` -- the cluster and the events that wait; a component is reconciled after it changed, and by
    nothing else;
  * `EnabledRuns` -- when no event waits, a component of an enabled namespace has its workload, and another one
    has no workload and no service;
  * `Meets` -- what the controllers need: a label that changes wakes the components, and a component that is
    stopped has no headless service;
  * `enabledRuns_of_reaches` -- then it holds in every state reached; `enabledRuns_fails` -- not without: nobody
    wakes the components of a namespace whose label is removed.
-/
import Kalm.Component.Waking
import Kalm.Lib.Runs

namespace Kalm.Controller

open Objects (State Versioned Returns)
open Runs (Reaches anyStep runSteps)

/-! ## 1. Events -/

/-- The cluster, and the events the controllers have not seen: a namespace changed, components changed. -/
structure World where
  cluster : Cluster
  namespaceEvent : Bool
  changed : List (Str × Str)

/-- What happens: a namespace gets labels, a component is created, or a controller runs. -/
inductive Event where
  | label (name : Str) (labels : ObjectLabels)
  | create (component : Component)
  | reconcileNamespaces (now : Nat)
  | reconcileComponent (key : Str × Str) (around : Surroundings)

/-- The objects of a kind that have another version in `t`. -/
def newVersions (s t : Cluster) (k : Kind) : List (Str × Str) :=
  ((t.list k).filter fun v => (s.get k v.key).map Versioned.version ≠ some v.version).map Versioned.key

/-- One step; `none` where it is not possible or the run of a controller does not return. -/
def step (w : World) : Event → Option World
  | .label name labels =>
    some { w with cluster := w.cluster.put Kind.ns ⟨name, labels⟩, namespaceEvent := true }
  | .create c =>
    if c.deleting = false ∧ (w.cluster.get .ns ([], c.ns)).isSome ∧ has w.cluster .component c.key = false then
      some { w with cluster := w.cluster.put Kind.component c, changed := c.key :: w.changed }
    else none
  | .reconcileNamespaces now =>
    if w.namespaceEvent then
      (ranTo (KalmNSReconciler.reconcile now) w.cluster).map fun t => {
        cluster := t
        namespaceEvent := decide (newVersions w.cluster t .ns ≠ [])
        changed := w.changed ++ newVersions w.cluster t .component }
    else none
  | .reconcileComponent key around =>
    -- a reconcile writes no component and no namespace
    if key ∈ w.changed then
      (ranTo (ComponentReconcilerTask.run around key) w.cluster).map fun t => {
        cluster := t
        namespaceEvent := w.namespaceEvent
        changed := w.changed.filter fun key' => key' ≠ key }
    else none

/-- Neither components nor what a reconcile writes are there, and no component waits. -/
structure Initial (w : World) : Prop where
  components : ∀ key, w.cluster.get .component key = none
  written : ∀ k key, Written k → w.cluster.get k key = none
  changed : w.changed = []

/-! ## 2. The statement -/

/-- The label `kalm-enabled` of a namespace. -/
def namespaceLabel (s : Cluster) (ns : Str) : Option Str := (s.get .ns ([], ns)).bind enabledLabel

/-- The label says that the namespace is enabled. -/
def labelEnables (label : Option Str) : Bool := label = some (str "true")

/-- Nothing of the component runs. -/
def Stopped (s : Cluster) (c : Component) : Prop :=
  (∀ key, ¬ Owned c.ns c.name s .service key) ∧ ∀ type key, ¬ Owned c.ns c.name s (.workload type) key

/-- The component has its workload. -/
def Started (s : Cluster) (c : Component) : Prop := Owned c.ns c.name s (.workload c.spec.workloadType) c.key

/-- The component does what the label says. -/
def Obeys (s : Cluster) (label : Option Str) (c : Component) : Prop :=
  if labelEnables label then Started s c else Stopped s c

/-- No event waits. -/
def Settled (w : World) : Prop := w.namespaceEvent = false ∧ w.changed = []

/-- **When the history has settled**, every component does what the label of its namespace says. -/
def EnabledRuns (w : World) : Prop :=
  Settled w → ∀ v ∈ w.cluster.list .component,
    Obeys w.cluster (namespaceLabel w.cluster (Component.ns v.obj)) v.obj

/-- A label that `KalmNSReconciler` acts on: it is set, and the component's own label ends in the other word. -/
def Wakes (label : Option Str) (c : Component) : Prop :=
  label ≠ none ∧ c.hasWakeSuffix (labelEnables label) = false

/-- What a step needs: a new label of a namespace wakes its components, except those that will be reconciled
    anyway or already do what it says; and a component that is reconciled in a namespace that is not enabled
    owns no headless service. -/
def Meets (w : World) : Event → Prop
  | .label name labels => ∀ v ∈ w.cluster.list .component, Component.ns v.obj = name → v.key ∉ w.changed →
    Wakes (labels.lookup kalmEnableLabelName) v.obj ∨
      Obeys w.cluster (labels.lookup kalmEnableLabelName) v.obj
  | .reconcileComponent key _ => ∀ c nspace, setupOf w.cluster key = some (c, nspace) →
    isNamespaceKalmEnabled nspace = false → ¬ Owned c.ns c.name w.cluster .service c.headlessKey
  | _ => True

/-! ## 3. What the owned objects depend on -/

section Owned

variable {s t : Cluster} {ns name : Str} {k : Kind} {key : Str × Str} {label : Option Str} {c d : Component}

theorem owned_congr (h : ∀ k key, Written k → t.get k key = s.get k key) :
    Owned ns name t k key ↔ Owned ns name s k key := by
  refine and_congr_right fun _ => ⟨fun ⟨v, hv, hc⟩ => ⟨v, ?_, hc⟩, fun ⟨v, hv, hc⟩ => ⟨v, ?_, hc⟩⟩
  · rw [← h k key (written_of_controller hc)]
    exact hv
  · rw [h k key (written_of_controller hc)]
    exact hv

theorem obeys_congr (h : ∀ k key, Written k → t.get k key = s.get k key) (hns : d.ns = c.ns)
    (hname : d.name = c.name) (htype : d.spec.workloadType = c.spec.workloadType) :
    Obeys t label d ↔ Obeys s label c := by
  unfold Obeys Started Stopped Component.key
  simp only [owned_congr h, hns, hname, htype]

end Owned

/-! ## 4. The invariant -/

/-- What holds in every state: components live in namespaces; what a component owns are its own objects; a
    workload is owned by the component of its name; and each component waits, or will be woken, or obeys. -/
structure Kept (w : World) : Prop where
  live : ∀ v ∈ w.cluster.list .component,
    Component.deleting v.obj = false ∧ (w.cluster.get .ns ([], Component.ns v.obj)).isSome
  parts : ∀ ns name k key, Owned ns name w.cluster k key →
    ∃ v, w.cluster.get .component (ns, name) = some v ∧ IsSlot v.obj k key
  owners : ∀ type key v, w.cluster.get (.workload type) key = some v →
    Kind.controller (.workload type) v.obj = some key.2
  fresh : w.cluster.Fresh .component
  pending : ∀ v ∈ w.cluster.list .component, v.key ∈ w.changed ∨
    (w.namespaceEvent = true ∧ Wakes (namespaceLabel w.cluster (Component.ns v.obj)) v.obj) ∨
      Obeys w.cluster (namespaceLabel w.cluster (Component.ns v.obj)) v.obj

theorem Kept.enabledRuns {w : World} (h : Kept w) : EnabledRuns w := by
  intro ⟨hevent, hchanged⟩ v hv
  rcases h.pending v hv with hpending | ⟨hwaits, _⟩ | hobeys
  · rw [hchanged] at hpending
    exact absurd hpending List.not_mem_nil
  · rw [hevent] at hwaits
    cases hwaits
  · exact hobeys

theorem Initial.kept {w : World} (h : Initial w) : Kept w := by
  have hnone : ∀ v, v ∉ w.cluster.list .component := by
    intro v hv
    have hget := State.get_self (S := schema) hv
    rw [h.components] at hget
    cases hget
  refine ⟨fun v hv => absurd hv (hnone v), fun ns name k key ho => ?_, fun type key v hv => ?_,
    fun v hv => absurd hv (hnone v), fun v hv => absurd hv (hnone v)⟩
  · obtain ⟨_, v, hv, hc⟩ := ho
    rw [h.written k key (written_of_controller hc)] at hv
    cases hv
  · rw [h.written (.workload type) key trivial] at hv
    cases hv

/-! ## 5. Events of the user -/

section Users

variable {w : World} {s : Cluster}

theorem written_put_ns (nspace : Namespace) (k : Kind) (key : Str × Str) (hk : Written k) :
    (s.put Kind.ns nspace).get k key = s.get k key :=
  State.get_put_of_ne (S := schema) (by rintro rfl; exact hk) key

theorem written_put_component (c : Component) (k : Kind) (key : Str × Str) (hk : Written k) :
    (s.put Kind.component c).get k key = s.get k key :=
  State.get_put_of_ne (S := schema) (by rintro rfl; exact hk) key

theorem namespaceLabel_put (name : Str) (labels : ObjectLabels) (ns : Str) :
    namespaceLabel (s.put Kind.ns ⟨name, labels⟩) ns =
      if ns = name then labels.lookup kalmEnableLabelName else namespaceLabel s ns := by
  unfold namespaceLabel
  rw [State.get_put (S := schema)]
  by_cases hns : ns = name
  · rw [if_pos hns, if_pos (by rw [hns]; rfl)]
    rfl
  · rw [if_neg hns, if_neg fun h => hns (congrArg Prod.snd h)]

theorem Kept.label (h : Kept w) {name : Str} {labels : ObjectLabels} (hm : Meets w (.label name labels)) :
    Kept { w with cluster := w.cluster.put Kind.ns ⟨name, labels⟩, namespaceEvent := true } where
  live v hv := by
    rw [State.list_put_of_ne (S := schema) Kind.noConfusion] at hv
    refine ⟨(h.live v hv).1, ?_⟩
    rw [State.get_put (S := schema)]
    split
    · rfl
    · exact (h.live v hv).2
  parts ns name' k key ho := by
    have ho' := (owned_congr (written_put_ns ⟨name, labels⟩)).mp ho
    rw [State.get_put_of_ne (S := schema) Kind.noConfusion]
    exact h.parts ns name' k key ho'
  owners type key v hv := by
    rw [written_put_ns _ (.workload type) key trivial] at hv
    exact h.owners type key v hv
  fresh := h.fresh.put _
  pending v hv := by
    rw [State.list_put_of_ne (S := schema) Kind.noConfusion] at hv
    have hobeys : ∀ label, Obeys (w.cluster.put Kind.ns ⟨name, labels⟩) label v.obj ↔
        Obeys w.cluster label v.obj := fun label => obeys_congr (written_put_ns ⟨name, labels⟩) rfl rfl rfl
    simp only [namespaceLabel_put]
    by_cases hns : Component.ns v.obj = name
    · rw [if_pos hns]
      by_cases hchanged : v.key ∈ w.changed
      · exact Or.inl hchanged
      · rcases hm v hv hns hchanged with hwakes | ho
        · exact Or.inr (Or.inl ⟨trivial, hwakes⟩)
        · exact Or.inr (Or.inr ((hobeys _).mpr ho))
    · rw [if_neg hns]
      rcases h.pending v hv with hchanged | ⟨_, hwakes⟩ | ho
      · exact Or.inl hchanged
      · exact Or.inr (Or.inl ⟨trivial, hwakes⟩)
      · exact Or.inr (Or.inr ((hobeys _).mpr ho))

theorem Kept.create (h : Kept w) {c : Component} (hlive : c.deleting = false)
    (hns : (w.cluster.get .ns ([], c.ns)).isSome) (hfree : has w.cluster .component c.key = false) :
    Kept { w with cluster := w.cluster.put Kind.component c, changed := c.key :: w.changed } where
  live v hv := by
    rw [State.get_put_of_ne (S := schema) Kind.noConfusion]
    rcases (State.mem_list_put (S := schema)).mp hv with rfl | ⟨hv, _⟩
    · exact ⟨hlive, hns⟩
    · exact h.live v hv
  parts ns name k key ho := by
    obtain ⟨v, hv, hslot⟩ := h.parts ns name k key ((owned_congr (written_put_component c)).mp ho)
    refine ⟨v, ?_, hslot⟩
    rw [State.get_put (S := schema), if_neg ?_]
    · exact hv
    · intro hkey
      rw [hkey] at hv
      rw [has, Option.isSome_eq_false_iff, Option.isNone_iff_eq_none] at hfree
      exact absurd (hfree.symm.trans hv) (Option.some_ne_none v).symm
  owners type key v hv := by
    rw [written_put_component c (.workload type) key trivial] at hv
    exact h.owners type key v hv
  fresh := h.fresh.put _
  pending v hv := by
    have hlabel : ∀ ns, namespaceLabel (w.cluster.put Kind.component c) ns = namespaceLabel w.cluster ns := by
      intro ns
      unfold namespaceLabel
      rw [State.get_put_of_ne (S := schema) Kind.noConfusion]
    simp only [hlabel]
    rcases (State.mem_list_put (S := schema)).mp hv with rfl | ⟨hv, _⟩
    · exact Or.inl List.mem_cons_self
    · rcases h.pending v hv with hchanged | hwakes | ho
      · exact Or.inl (List.mem_cons_of_mem _ hchanged)
      · exact Or.inr (Or.inl hwakes)
      · exact Or.inr (Or.inr ((obeys_congr (written_put_component c) rfl rfl rfl).mpr ho))

end Users

/-! ## 6. Runs of the controllers -/

section Controllers

variable {w : World} {t : Cluster}

theorem Relabelled.namespaceLabel {s : Cluster} (h : Relabelled s t) (ns : Str) :
    namespaceLabel t ns = namespaceLabel s ns := by
  have hsame := congrArg (fun o => Option.bind o id) (h.namespaces ([], ns))
  simp only [Option.bind_map] at hsame
  exact hsame

/-- A component that is touched is among the new versions. -/
theorem Touched.mem_newVersions {s : Cluster} {key : Str × Str} (hfresh : s.Fresh .component)
    (h : Touched s t key) : key ∈ newVersions s t .component := by
  obtain ⟨v, hv, hlt⟩ := h
  obtain ⟨hmem, hkey⟩ := (State.get_eq_some (S := schema)).mp hv
  refine List.mem_map.mpr ⟨v, List.mem_filter.mpr ⟨hmem, decide_eq_true ?_⟩, hkey⟩
  intro hsame
  obtain ⟨u, hu, hversion⟩ := Option.map_eq_some_iff.mp hsame
  have hle := hfresh u ((State.get_eq_some (S := schema)).mp hu).1
  omega

/-- What a component is beside its labels. -/
theorem unlabelled_inj {u v : Stored .component} (h : unlabelled v = unlabelled u) :
    Component.ns v.obj = Component.ns u.obj ∧ Component.name v.obj = Component.name u.obj ∧
      Component.deleting v.obj = Component.deleting u.obj ∧ Component.spec v.obj = Component.spec u.obj :=
  ⟨congrArg (fun c => c.ns) h, congrArg (fun c => c.name) h, congrArg (fun c => c.deleting) h,
    congrArg (fun c => c.spec) h⟩

/-- A component behind a run that relabels was there, with other labels. -/
theorem Relabelled.component {s : Cluster} (h : Relabelled s t) {v : Stored .component}
    (hv : v ∈ t.list .component) :
    ∃ u ∈ s.list .component, u.key = v.key ∧ unlabelled v = unlabelled u := by
  have hsame := h.components v.key
  rw [State.get_self (S := schema) hv, Option.map_some] at hsame
  obtain ⟨u, hu, hvu⟩ := Option.map_eq_some_iff.mp hsame.symm
  obtain ⟨hmem, hkey⟩ := (State.get_eq_some (S := schema)).mp hu
  exact ⟨u, hmem, hkey, hvu.symm⟩

theorem isSlot_congr {c d : Component} (hns : d.ns = c.ns) (hname : d.name = c.name) (hspec : d.spec = c.spec)
    {k : Kind} {key : Str × Str} (h : IsSlot c k key) : IsSlot d k key := by
  cases k with
  | service =>
      unfold IsSlot Component.key Component.headlessKey at h ⊢
      rwa [hns, hname]
  | destinationRule =>
      unfold IsSlot Component.key at h ⊢
      rwa [hns, hname]
  | workload type =>
      unfold IsSlot Component.key at h ⊢
      rwa [hns, hname, hspec]
  | _ => exact h

theorem Kept.reconcileNamespaces (h : Kept w) {now : Nat}
    (hrun : ranTo (KalmNSReconciler.reconcile now) w.cluster = some t) :
    Kept {
      cluster := t
      namespaceEvent := decide (newVersions w.cluster t .ns ≠ [])
      changed := w.changed ++ newVersions w.cluster t .component } := by
  obtain ⟨_, hst, htouched, rfl, hfresh⟩ :=
    returns_reconcileNamespaces (Objects.returns_fresh (k := Kind.component) (returns_of_ranTo hrun) h.fresh)
  refine ⟨fun v hv => ?_, fun ns name k key ho => ?_, fun type key v hv => ?_, hfresh, fun v hv => ?_⟩
  · obtain ⟨u, hu, _, hvu⟩ := hst.component hv
    have hthere := congrArg Option.isSome (hst.namespaces ([], Component.ns v.obj))
    rw [Option.isSome_map, Option.isSome_map] at hthere
    obtain ⟨hns, _, hdeleting, _⟩ := unlabelled_inj hvu
    rw [hthere, hns, hdeleting]
    exact h.live u hu
  · obtain ⟨u, hu, hslot⟩ := h.parts ns name k key ((owned_congr hst.written).mp ho)
    have hsame := hst.components (ns, name)
    rw [hu, Option.map_some] at hsame
    obtain ⟨v, hv, hvu⟩ := Option.map_eq_some_iff.mp hsame
    obtain ⟨hns, hname, _, hspec⟩ := unlabelled_inj hvu
    exact ⟨v, hv, isSlot_congr hns hname hspec hslot⟩
  · rw [hst.written (.workload type) key trivial] at hv
    exact h.owners type key v hv
  · obtain ⟨u, hu, hkey, hvu⟩ := hst.component hv
    obtain ⟨hns, hname, _, hspec⟩ := unlabelled_inj hvu
    simp only [hst.namespaceLabel, hns]
    rw [← hkey]
    rcases h.pending u hu with hchanged | ⟨_, hlabel, hwake⟩ | ho
    · exact Or.inl (List.mem_append_left _ hchanged)
    · obtain ⟨label, hsome⟩ := Option.ne_none_iff_exists'.mp hlabel
      obtain ⟨n, hn, hnlabel⟩ := Option.bind_eq_some_iff.mp hsome
      obtain ⟨hmem, hnkey⟩ := (State.get_eq_some (S := schema)).mp hn
      have hnname : Component.ns u.obj = Namespace.name n.obj := (congrArg Prod.snd hnkey).symm
      rw [hsome, ← hnlabel] at hwake
      have htouch := htouched n hmem (by rw [hnlabel]; exact Option.some_ne_none label) u hu hnname hwake
      exact Or.inl (List.mem_append_right _ (htouch.mem_newVersions h.fresh))
    · refine Or.inr (Or.inr ((obeys_congr hst.written hns hname ?_).mpr ho))
      rw [hspec]

theorem IsSlot.fst {c : Component} {k : Kind} {key : Str × Str} (h : IsSlot c k key) : key.1 = c.ns := by
  cases k with
  | service => rcases h with rfl | rfl <;> rfl
  | destinationRule => rw [show key = c.key from h]; rfl
  | workload type => rw [h.2]; rfl
  | _ => exact h.elim

section Reconciled

variable {s : Cluster} {c d : Component} {enabled : Bool} {ns name : Str} {k : Kind} {key : Str × Str}

/-- What is owned behind a reconcile is an object of the component, or was owned before. -/
theorem Reconciled.owned (hr : Reconciled c enabled s t) (h : Owned ns name t k key) :
    (IsSlot c k key ∧ ns = c.ns ∧ name = c.name) ∨ Owned ns name s k key := by
  obtain ⟨hns, v, hv, hc⟩ := h
  by_cases hslot : IsSlot c k key
  · rcases hr.owners k key v hv with hname | ⟨w, hw, hwv⟩
    · rw [hc, Option.some_inj] at hname
      exact Or.inl ⟨hslot, hns.symm.trans hslot.fst, hname⟩
    · exact Or.inr ⟨hns, w, hw, hwv.trans hc⟩
  · rw [hr.elsewhere k key hslot] at hv
    exact Or.inr ⟨hns, v, hv, hc⟩

theorem not_owned_of_has (h : has t k key = false) : ¬ Owned ns name t k key := by
  rintro ⟨_, v, hv, _⟩
  rw [has, hv] at h
  cases h

/-- **The component that is reconciled obeys**, if no headless service is left when it is stopped. -/
theorem Reconciled.obeys (hr : Reconciled c enabled s t)
    (howners : ∀ type key v, s.get (.workload type) key = some v →
      Kind.controller (.workload type) v.obj = some key.2)
    (hparts : ∀ k key, Owned c.ns c.name s k key → IsSlot c k key)
    (hheadless : enabled = false → ¬ Owned c.ns c.name s .service c.headlessKey) {label : Option Str}
    (hlabel : labelEnables label = enabled) : Obeys t label c := by
  have hslot : ∀ k key, Owned c.ns c.name t k key → IsSlot c k key := by
    intro k key ho
    rcases hr.owned ho with ⟨hslot, _⟩ | ho
    · exact hslot
    · exact hparts k key ho
  unfold Obeys
  rw [hlabel]
  cases enabled with
  | false =>
      rw [if_neg Bool.false_ne_true]
      refine ⟨fun key ho => ?_, fun type key ho => ?_⟩
      · rcases hslot .service key ho with rfl | rfl
        · exact not_owned_of_has hr.service ho
        · obtain ⟨hns, v, hv, hc⟩ := ho
          rw [hr.kept rfl] at hv
          exact hheadless rfl ⟨hns, v, hv, hc⟩
      · obtain ⟨rfl, rfl⟩ := hslot (.workload type) key ho
        exact not_owned_of_has hr.workload ho
  | true =>
      rw [if_pos rfl]
      obtain ⟨v, hv⟩ := Option.isSome_iff_exists.mp hr.workload
      refine ⟨rfl, v, hv, ?_⟩
      rcases hr.owners _ _ v hv with hc | ⟨w, hw, hwv⟩
      · exact hc
      · rw [← hwv]
        exact howners _ _ w hw

/-- The others are left alone. -/
theorem Reconciled.obeys_other (hr : Reconciled c enabled s t) (hne : d.key ≠ c.key) {label : Option Str}
    (h : Obeys s label d) : Obeys t label d := by
  have howned : ∀ k key, Owned d.ns d.name t k key → Owned d.ns d.name s k key := by
    intro k key ho
    rcases hr.owned ho with ⟨_, hns, hname⟩ | ho
    · exact absurd (Prod.ext hns hname) hne
    · exact ho
  unfold Obeys at h ⊢
  split
  · rename_i hlabel
    rw [if_pos hlabel] at h
    obtain ⟨hns, v, hv, hc⟩ := h
    refine ⟨hns, v, ?_, hc⟩
    rw [hr.elsewhere (.workload d.spec.workloadType) d.key fun hslot => hne hslot.2]
    exact hv
  · rename_i hlabel
    rw [if_neg hlabel] at h
    exact ⟨fun key ho => h.1 key (howned _ _ ho), fun type key ho => h.2 type key (howned _ _ ho)⟩

end Reconciled

theorem Kept.reconcileComponent (h : Kept w) {key : Str × Str} {around : Surroundings}
    (hm : Meets w (.reconcileComponent key around))
    (hrun : ranTo (ComponentReconcilerTask.run around key) w.cluster = some t) :
    Kept {
      cluster := t
      namespaceEvent := w.namespaceEvent
      changed := w.changed.filter fun key' => key' ≠ key } := by
  have hfilter : ∀ key', key' ≠ key → key' ∈ w.changed →
      key' ∈ w.changed.filter fun key' => key' ≠ key :=
    fun key' hne hmem => List.mem_filter.mpr ⟨hmem, decide_eq_true hne⟩
  rcases returns_run (Objects.returns_fresh (k := Kind.component) (returns_of_ranTo hrun) h.fresh) with
    ⟨⟨rfl, hfresh⟩, hnone⟩ | ⟨c, nspace, u, hsetup, _, hr, rfl, hfresh⟩
  · refine ⟨h.live, h.parts, h.owners, hfresh, fun v hv => ?_⟩
    by_cases hkey : v.key = key
    · obtain ⟨hlive, hns⟩ := h.live v hv
      obtain ⟨n, hn⟩ := Option.isSome_iff_exists.mp hns
      have hget := State.get_self (S := schema) hv
      rw [hkey] at hget
      have hdeleting := hnone _ _ (setupOf_eq_some.mpr ⟨v, n, hget, hn, rfl, rfl⟩)
      rw [hlive] at hdeleting
      cases hdeleting
    · exact (h.pending v hv).imp (hfilter _ hkey) id
  · have hheadless := hm c nspace hsetup
    obtain ⟨v₀, n, hv₀, hn, rfl, rfl⟩ := setupOf_eq_some.mp hsetup
    have hkey₀ : Component.key v₀.obj = key := (State.get_eq_some (S := schema).mp hv₀).2
    have hmem : ∀ v, v ∈ u.list .component ↔ v ∈ w.cluster.list .component := by
      intro v
      rw [State.mem_list_iff (S := schema), State.mem_list_iff (S := schema), hr.elsewhere .component v.key id]
    have hlabels : ∀ ns, namespaceLabel u ns = namespaceLabel w.cluster ns := by
      intro ns
      unfold namespaceLabel
      rw [hr.elsewhere .ns ([], ns) id]
    have hparts : ∀ k key, Owned (Component.ns v₀.obj) (Component.name v₀.obj) w.cluster k key →
        IsSlot v₀.obj k key := by
      intro k key' ho
      obtain ⟨v, hv, hslot⟩ := h.parts _ _ k key' ho
      have hsame : w.cluster.get .component (Component.key v₀.obj) = some v := hv
      rw [hkey₀, hv₀] at hsame
      cases hsame
      exact hslot
    refine ⟨fun v hv => ?_, fun ns name k key' ho => ?_, fun type key' v hv => ?_, hfresh, fun v hv => ?_⟩
    · rw [hr.elsewhere .ns _ id]
      exact h.live v ((hmem v).mp hv)
    · rw [hr.elsewhere .component (ns, name) id]
      rcases hr.owned ho with ⟨hslot, rfl, rfl⟩ | ho
      · exact ⟨v₀, (congrArg (w.cluster.get Kind.component) hkey₀).trans hv₀, hslot⟩
      · exact h.parts ns name k key' ho
    · by_cases hslot : IsSlot v₀.obj (.workload type) key'
      · rcases hr.owners _ _ v hv with hc | ⟨x, hx, hxv⟩
        · rw [hc, hslot.2]
          rfl
        · rw [← hxv]
          exact h.owners type key' x hx
      · rw [hr.elsewhere _ _ hslot] at hv
        exact h.owners type key' v hv
    · have hv := (hmem v).mp hv
      simp only [hlabels]
      by_cases hkey : v.key = key
      · have hget := State.get_self (S := schema) hv
        rw [hkey, hv₀] at hget
        cases hget
        refine Or.inr (Or.inr (hr.obeys h.owners hparts hheadless ?_))
        unfold namespaceLabel
        rw [hn]
        rfl
      · rcases h.pending v hv with hchanged | hwakes | ho
        · exact Or.inl (hfilter _ hkey hchanged)
        · exact Or.inr (Or.inl hwakes)
        · exact Or.inr (Or.inr (hr.obeys_other (fun he => hkey (he.trans hkey₀)) ho))

end Controllers

/-! ## 7. Every run -/

/-- One step keeps the invariant. -/
theorem Kept.step {w w' : World} {event : Event} (h : Kept w) (hm : Meets w event) (hstep : step w event = some w') :
    Kept w' := by
  cases event with
  | label name labels =>
      cases hstep
      exact h.label hm
  | create c =>
      simp only [Controller.step] at hstep
      split at hstep
      · rename_i hfree
        cases hstep
        exact h.create hfree.1 hfree.2.1 hfree.2.2
      · cases hstep
  | reconcileNamespaces now =>
      simp only [Controller.step] at hstep
      split at hstep
      · obtain ⟨t, hrun, rfl⟩ := Option.map_eq_some_iff.mp hstep
        exact h.reconcileNamespaces hrun
      · cases hstep
  | reconcileComponent key around =>
      simp only [Controller.step] at hstep
      split at hstep
      · obtain ⟨t, hrun, rfl⟩ := Option.map_eq_some_iff.mp hstep
        exact h.reconcileComponent hm hrun
      · cases hstep

/-- **Along every run whose steps meet the condition**, enabled namespaces run and others do not. -/
theorem enabledRuns_of_reaches {w : World} (h : Reaches Initial Meets step w) : EnabledRuns w :=
  Kept.enabledRuns (Reaches.invariant (fun _ hinitial => Initial.kept hinitial)
    (fun _ _ _ hk hm hstep => Kept.step hk hm hstep) h)

/-- Nothing is stored, and no event waits. -/
def emptyWorld : World := ⟨emptyCluster, false, []⟩

theorem initial_emptyWorld : Initial emptyWorld := ⟨fun _ => rfl, fun _ _ _ => rfl, rfl⟩

/-- The reconcile of the component. -/
def webReconcile : Event :=
  .reconcileComponent (str "shop", str "web")
    { podTemplate := fun _ => some (⟨∅, [], emptyDoc⟩, emptyDoc), beforeDeploymentSave := some }

/-- The namespace is enabled, and the component is created in it. -/
def webStarts : List Event :=
  [.label (str "shop") ((∅ : ObjectLabels).insert kalmEnableLabelName (str "true")), .reconcileNamespaces 1,
    .reconcileNamespaces 2, .create webComponent, webReconcile]

/-- An object that is stored with its owner is owned. -/
theorem owned_of_bind {s : Cluster} {ns name : Str} {k : Kind} {key : Str × Str} (hns : key.1 = ns)
    (h : ((s.get k key).bind fun v => Kind.controller k v.obj) = some name) : Owned ns name s k key := by
  obtain ⟨v, hv, hc⟩ := Option.bind_eq_some_iff.mp h
  exact ⟨hns, v, hv, hc⟩

/-- A component without a headless service can be stopped. -/
theorem meets_reconcileComponent {w : World} {ns name : Str} {around : Surroundings}
    (h : has w.cluster .service (ns, getNameForHeadlessService name) = false) :
    Meets w (.reconcileComponent (ns, name) around) := by
  intro c nspace hsetup _
  obtain ⟨v, n, hv, _, rfl, _⟩ := setupOf_eq_some.mp hsetup
  obtain ⟨_, hkey⟩ := (State.get_eq_some (S := schema)).mp hv
  have hns : Component.ns v.obj = ns := congrArg Prod.fst hkey
  have hname : Component.name v.obj = name := congrArg Prod.snd hkey
  unfold Component.headlessKey
  rw [hns, hname]
  exact not_owned_of_has h

/-- The namespace is enabled and disabled again: the component is started and stopped. -/
theorem enabledRuns_shop : ∃ w, Reaches Initial Meets step w ∧ Settled w ∧ EnabledRuns w := by
  have h₀ : Reaches Initial Meets step emptyWorld := .start initial_emptyWorld
  have h₁ := h₀.taking
    (.label (str "shop") ((∅ : ObjectLabels).insert kalmEnableLabelName (str "true")))
    (fun v hv => absurd hv List.not_mem_nil) rfl
  have h₂ := h₁.taking (.reconcileNamespaces 1) trivial rfl
  have h₃ := h₂.taking (.reconcileNamespaces 2) trivial rfl
  have h₄ := h₃.taking (.create webComponent) trivial rfl
  have h₅ := h₄.taking webReconcile (meets_reconcileComponent rfl) rfl
  have h₆ := h₅.taking (.label (str "shop") ((∅ : ObjectLabels).insert kalmEnableLabelName (str "false")))
    (fun v hv _ _ => Or.inl ⟨by rw [Finmap.lookup_insert]; exact Option.some_ne_none _, by
      rw [List.mem_singleton.mp hv]
      rfl⟩) rfl
  have h₇ := h₆.taking (.reconcileNamespaces 3) trivial rfl
  have h₈ := h₇.taking (.reconcileNamespaces 4) trivial rfl
  have h₉ := h₈.taking webReconcile (meets_reconcileComponent rfl) rfl
  exact ⟨_, h₉, ⟨rfl, rfl⟩, enabledRuns_of_reaches h₉⟩

/-- **Nobody wakes the components of a namespace that loses its label.** -/
theorem enabledRuns_fails : ¬ ∀ w, Reaches Initial anyStep step w → EnabledRuns w := by
  intro h
  have hrun : (runSteps step emptyWorld
      (webStarts ++ [.label (str "shop") ∅, .reconcileNamespaces 3])).isSome = true := rfl
  have hthere : (((runSteps step emptyWorld
      (webStarts ++ [.label (str "shop") ∅, .reconcileNamespaces 3])).get hrun).cluster.get .component
        (str "shop", str "web")).isSome = true := rfl
  obtain ⟨v, hv⟩ := Option.isSome_iff_exists.mp hthere
  obtain ⟨hmem, hkey⟩ := (State.get_eq_some (S := schema)).mp hv
  have hobeys := h _ ((Reaches.start initial_emptyWorld).run (Option.some_get hrun).symm) ⟨rfl, rfl⟩ v hmem
  have hns : Component.ns v.obj = str "shop" := congrArg Prod.fst hkey
  have hname : Component.name v.obj = str "web" := congrArg Prod.snd hkey
  have hlabel : labelEnables (namespaceLabel ((runSteps step emptyWorld
      (webStarts ++ [.label (str "shop") ∅, .reconcileNamespaces 3])).get hrun).cluster (str "shop")) = false := rfl
  unfold Obeys Stopped at hobeys
  rw [hns, hname, if_neg (by rw [hlabel]; exact Bool.false_ne_true)] at hobeys
  exact hobeys.2 .server (str "shop", str "web") (owned_of_bind rfl rfl)

end Kalm.Controller
