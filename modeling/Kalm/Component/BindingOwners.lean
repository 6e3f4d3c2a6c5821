/-
  File:      Kalm/Component/BindingOwners.lean
  Subject:   PLUGIN BINDINGS AND THE COMPONENT: what `ReconcileComponentPluginBinding` does to the owners of a
             component, and whether `Run` goes on behind it.

  * `setOwner_eq_self_iff` -- a reference leaves the owners alone when it is the last one to its object, and
    nothing else is the controller;
  * `BindingsHarmless` -- the owners stay, the bindings of the component belong to it, and the workload follows;
  * `bindingsHarmless_iff` -- that is so without bindings in the namespace, or with a single one that is the
    controller of the component already.
-/
import Kalm.Component.Reconciled

namespace Kalm.Controller

open Objects (State Versioned Returns)

/-! ## 1. Owners -/

variable {ref : OwnerReference} {refs refs' : List OwnerReference}

/-- Nobody else is the controller. -/
def NoOther (ref : OwnerReference) (refs : List OwnerReference) : Prop :=
  ∀ r ∈ refs, r.controller = true → r.sameObject ref = true

/-- The last reference to the object. -/
def lastTo (ref : OwnerReference) (refs : List OwnerReference) : Option OwnerReference :=
  (refs.filter fun r => r.sameObject ref).getLast?

theorem setOwner_eq_some : setOwner ref refs = some refs' ↔ NoOther ref refs ∧ upsertOwner ref refs = refs' := by
  have hany : (refs.any fun r => r.controller && !r.sameObject ref) = false ↔ NoOther ref refs := by
    simp [NoOther]
  unfold setOwner
  by_cases h : NoOther ref refs
  · rw [hany.mpr h]
    simp [h]
  · rw [Bool.eq_true_of_not_eq_false fun hfalse => h (hany.mp hfalse)]
    simp [h]

/-- The reference is there behind it. -/
theorem mem_upsertOwner : ref ∈ upsertOwner ref refs := by
  induction refs with
  | nil => exact List.mem_singleton.mpr rfl
  | cons r rest ih =>
      unfold upsertOwner
      split
      · exact List.mem_cons_self
      · exact List.mem_cons_of_mem r ih

theorem lastTo_cons (r : OwnerReference) (rest : List OwnerReference) :
    lastTo ref (r :: rest) = (lastTo ref rest).or (if r.sameObject ref then some r else none) := by
  unfold lastTo
  rw [List.filter_cons]
  split
  · rw [List.getLast?_cons]
    cases (rest.filter fun r => r.sameObject ref).getLast? <;> rfl
  · rw [Option.or_none]

theorem lastTo_eq_none : lastTo ref refs = none ↔ refs.all (fun r => !r.sameObject ref) = true := by
  rw [lastTo, List.getLast?_eq_none_iff, List.filter_eq_nil_iff, List.all_eq_true]
  simp

/-- **The references stay when the last one to the object is this one.** -/
theorem upsertOwner_eq_self : upsertOwner ref refs = refs ↔ lastTo ref refs = some ref := by
  induction refs with
  | nil => simp [upsertOwner, lastTo]
  | cons r rest ih =>
      rw [upsertOwner, lastTo_cons]
      by_cases hlast : lastTo ref rest = none
      · have hall := lastTo_eq_none.mp hlast
        by_cases hsame : r.sameObject ref = true
        · rw [if_pos ⟨hsame, hall⟩, hlast, if_pos hsame, Option.none_or, List.cons_eq_cons, Option.some.injEq]
          exact ⟨fun h => h.1.symm, fun h => ⟨h.symm, rfl⟩⟩
        · rw [if_neg fun h => hsame h.1, hlast, if_neg hsame, Option.none_or, List.cons_eq_cons, ih, hlast]
          refine iff_of_false (fun h => ?_) fun h => ?_
          · cases h.2
          · cases h
      · rw [if_neg fun h => hlast (lastTo_eq_none.mpr h.2), List.cons_eq_cons, ih, and_iff_right rfl]
        obtain ⟨r', hr'⟩ := Option.ne_none_iff_exists'.mp hlast
        rw [hr', Option.some_or]

/-- The object is the controller, and was referred to so last. -/
structure Controls (ref : OwnerReference) (refs : List OwnerReference) : Prop where
  only : NoOther ref refs
  last : lastTo ref refs = some ref

theorem setOwner_eq_self_iff : setOwner ref refs = some refs ↔ Controls ref refs := by
  rw [setOwner_eq_some, upsertOwner_eq_self]
  exact ⟨fun h => ⟨h.1, h.2⟩, fun h => ⟨h.only, h.last⟩⟩

/-! ## 2. The loop -/

variable {bindings : List PluginBinding}

/-- **A second binding finds the component controlled.** -/
theorem reconcileComponentPluginBinding_cons_cons {a b : PluginBinding} {rest : List PluginBinding}
    (hne : a.name ≠ b.name) : reconcileComponentPluginBinding refs (a :: b :: rest) = none := by
  unfold reconcileComponentPluginBinding
  rw [List.foldlM_cons]
  cases ha : setOwner a.controllerRef refs with
  | none => rfl
  | some refs' =>
      rw [Option.bind_eq_bind, Option.bind_some, List.foldlM_cons]
      have hmem : a.controllerRef ∈ refs' := (setOwner_eq_some.mp ha).2 ▸ mem_upsertOwner
      have hb : setOwner b.controllerRef refs' = none := by
        rw [Option.eq_none_iff_forall_ne_some]
        intro refs'' h
        have hsame := (setOwner_eq_some.mp h).1 _ hmem rfl
        simp only [OwnerReference.sameObject, PluginBinding.controllerRef, decide_eq_true_eq] at hsame
        exact hne hsame.2
      rw [hb]
      rfl

/-- **The owners of the component stay**: without bindings, or with one that controls it. -/
theorem reconcileComponentPluginBinding_eq_self_iff (refs : List OwnerReference)
    (hdistinct : (bindings.map PluginBinding.name).Nodup) :
    reconcileComponentPluginBinding refs bindings = some refs ↔
      bindings = [] ∨ ∃ b, bindings = [b] ∧ Controls b.controllerRef refs := by
  match bindings with
  | [] => exact iff_of_true rfl (Or.inl rfl)
  | [b] =>
      have hone : reconcileComponentPluginBinding refs [b] = setOwner b.controllerRef refs := by
        unfold reconcileComponentPluginBinding
        rw [List.foldlM_cons]
        exact bind_pure _
      rw [hone, setOwner_eq_self_iff]
      constructor
      · intro h
        exact Or.inr ⟨b, rfl, h⟩
      · rintro (h | ⟨b', h, hcontrols⟩)
        · cases h
        · cases h
          exact hcontrols
  | a :: b :: rest =>
      have hne : a.name ≠ b.name := fun h => (List.nodup_cons.mp hdistinct).1 (h ▸ List.mem_cons_self)
      rw [reconcileComponentPluginBinding_cons_cons hne]
      refine iff_of_false (fun h => by cases h) fun h => ?_
      rcases h with h | ⟨b', h, _⟩ <;> cases h

/-! ## 3. The run -/

/-- The bindings `LoadComponentPluginBinding` lists. -/
def bindingsOf (s : Cluster) (c : Component) : List PluginBinding :=
  ((s.list .pluginBinding).map Versioned.obj).filter fun binding => PluginBinding.ns binding = c.ns

/-- The component controls the binding. -/
def Component.controlsBinding (c : Component) (binding : PluginBinding) : Prop :=
  ∃ r ∈ binding.ownerReferences, r.controller = true ∧ r.kind = str "Component" ∧ r.name = c.name

/-- **The bindings do not stop the component**: no error and the owners as they were; the bindings made for the
    component, which the loop leaves as they are, are controlled by it; and a run that has reconciled the
    services goes on with the workload. -/
structure BindingsHarmless (s : Cluster) (c : Component) : Prop where
  owners : reconcileComponentPluginBinding c.ownerReferences (bindingsOf s c) = some c.ownerReferences
  controlled : ∀ b ∈ bindingsOf s c, b.componentName = c.name → c.controlsBinding b
  goesOn : c.deleting = false → ∀ (around : Surroundings) (Q : Unit → Cluster → Prop),
    Returns (ComponentReconcilerTask.reconcile around c true) s Q ↔
      Returns (reconcileService c true (s.get .service c.key) (s.get .service c.headlessKey)
        (s.get .destinationRule c.key)) s fun held t =>
          Returns (reconcileWorkload around c true held (s.get (.workload c.spec.workloadType) c.key)) t Q

variable {s : Cluster} {c : Component}

theorem returns_loadService_iff {Q : Option (Stored .service) × Option (Stored .service) → Cluster → Prop} :
    Returns (loadService c) s Q ↔ Q (s.get .service c.key, s.get .service c.headlessKey) s := by
  unfold loadService
  rw [Objects.returns_bind, Objects.returns_find, Objects.returns_bind, Objects.returns_find]
  exact Calls.returns_done

theorem returns_bindings_iff {Q : List PluginBinding → Cluster → Prop} :
    Returns (loadComponentPluginBinding c) s Q ↔ Q (bindingsOf s c) s := by
  unfold loadComponentPluginBinding
  rw [Objects.returns_bind, Objects.returns_list (S := schema)]
  exact Calls.returns_done

/-- Behind owners that can be set the workload is reconciled. -/
theorem returns_reconcile_iff (hlive : c.deleting = false) {refs : List OwnerReference}
    (howners : reconcileComponentPluginBinding c.ownerReferences (bindingsOf s c) = some refs)
    (around : Surroundings) (Q : Unit → Cluster → Prop) :
    Returns (ComponentReconcilerTask.reconcile around c true) s Q ↔
      Returns (reconcileService c true (s.get .service c.key) (s.get .service c.headlessKey)
        (s.get .destinationRule c.key)) s fun held t =>
          Returns (reconcileWorkload around c true held (s.get (.workload c.spec.workloadType) c.key)) t Q := by
  unfold ComponentReconcilerTask.reconcile
  rw [Objects.returns_bind, returns_loadService_iff, Objects.returns_bind, returns_bindings_iff,
    Objects.returns_bind, Objects.returns_find, Objects.returns_bind, Objects.returns_find, hlive,
    if_neg Bool.false_ne_true, Objects.returns_bind, howners]
  rfl

/-- The bindings of a namespace have distinct names. -/
theorem nodup_bindingsOf (s : Cluster) (c : Component) : ((bindingsOf s c).map PluginBinding.name).Nodup := by
  have hkeys : (((s.list .pluginBinding).map Versioned.obj).map (Kind.key .pluginBinding)).Nodup := by
    rw [List.map_map]
    exact (s.objects .pluginBinding).distinct
  have hkey : (bindingsOf s c).map (Kind.key .pluginBinding) =
      ((bindingsOf s c).map PluginBinding.name).map (Prod.mk c.ns) := by
    rw [List.map_map]
    refine List.map_congr_left fun b hb => ?_
    have hns : PluginBinding.ns b = c.ns := of_decide_eq_true (List.mem_filter.mp hb).2
    exact Prod.ext hns rfl
  refine List.Nodup.of_map (Prod.mk c.ns) ?_
  rw [← hkey]
  exact hkeys.sublist (List.filter_sublist.map _)

/-- **The bindings are harmless** exactly when there is none in the namespace, or a single one that is already the
    controller of the component, and that the component controls if it is made for it. -/
theorem bindingsHarmless_iff (s : Cluster) (c : Component) :
    BindingsHarmless s c ↔ bindingsOf s c = [] ∨ ∃ b, bindingsOf s c = [b] ∧
      Controls b.controllerRef c.ownerReferences ∧ (b.componentName = c.name → c.controlsBinding b) := by
  have howners := reconcileComponentPluginBinding_eq_self_iff c.ownerReferences (nodup_bindingsOf s c)
  constructor
  · intro h
    rcases howners.mp h.owners with hnone | ⟨b, hb, hcontrols⟩
    · exact Or.inl hnone
    · exact Or.inr ⟨b, hb, hcontrols, h.controlled b (hb ▸ List.mem_singleton.mpr rfl)⟩
  · intro h
    have hself : reconcileComponentPluginBinding c.ownerReferences (bindingsOf s c) = some c.ownerReferences :=
      howners.mpr (h.imp_right fun ⟨b, hb, hcontrols, _⟩ => ⟨b, hb, hcontrols⟩)
    refine ⟨hself, fun b hb hname => ?_, fun hlive around Q => returns_reconcile_iff hlive hself around Q⟩
    rcases h with hnone | ⟨b', hb', _, hcontrolled⟩
    · rw [hnone] at hb
      exact absurd hb List.not_mem_nil
    · rw [hb', List.mem_singleton] at hb
      subst hb
      exact hcontrolled hname

/-- Two bindings for all components of the namespace. -/
def shopBindings : Cluster :=
  ((emptyCluster.put Kind.ns ⟨str "shop", (∅ : ObjectLabels).insert kalmEnableLabelName (str "true")⟩).put
    Kind.pluginBinding ⟨str "shop", str "ingress", [], []⟩).put Kind.pluginBinding ⟨str "shop", str "mesh", [], []⟩

/-- **Two bindings stop every component of the namespace**: the loop fails at the second one. -/
theorem bindingsHarmless_fails : ¬ ∀ s c, BindingsHarmless s c := by
  intro h
  have hnone : reconcileComponentPluginBinding webComponent.ownerReferences (bindingsOf shopBindings webComponent) =
    none := rfl
  have howners := (h shopBindings webComponent).owners
  rw [hnone] at howners
  cases howners

end Kalm.Controller
