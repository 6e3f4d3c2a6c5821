/-
  File:      Kalm/Component/Waking.lean
  Subject:   WHAT A RUN OF `KalmNSReconciler.Reconcile` DOES: it labels, and nothing else.

  * `Relabelled` -- namespaces keep their label `kalm-enabled`, components change in their labels only, and what
    changed has a new version;
  * `Touched` -- a component has a new version, so it is reconciled;
  * `returns_reconcileNamespaces` -- every component of a namespace with the label `kalm-enabled` is touched, if
    its own label does not end in the word for the value.
-/
import Kalm.Component.Reconciled

namespace Kalm.Controller

open Objects (State Versioned Returns SameBut find save sameBut_put sameBut_saved)

/-! ## 1. Relabelled clusters -/

/-- The label `kalm-enabled` of a namespace. -/
def enabledLabel (v : Stored .ns) : Option Str := (Namespace.labels v.obj).lookup kalmEnableLabelName

/-- A component without its labels. -/
def unlabelled (v : Stored .component) : Component := { (v.obj : Component) with labels := ∅ }

/-- From `s` to `t` only labels change. -/
structure Relabelled (s t : Cluster) : Prop where
  written : ∀ k key, Written k → t.get k key = s.get k key
  namespaces : ∀ key, (t.get .ns key).map enabledLabel = (s.get .ns key).map enabledLabel
  components : ∀ key, (t.get .component key).map unlabelled = (s.get .component key).map unlabelled
  touched : ∀ key v, t.get .component key = some v → s.get .component key = some v ∨ s.revision < v.version
  revision : s.revision ≤ t.revision

/-- The component has a version that is newer than the cluster `s`. -/
def Touched (s t : Cluster) (key : Str × Str) : Prop :=
  ∃ v, t.get .component key = some v ∧ s.revision < v.version

section Relabelled

variable {s t u : Cluster} {key : Str × Str}

theorem Relabelled.refl (s : Cluster) : Relabelled s s :=
  ⟨fun _ _ _ => rfl, fun _ => rfl, fun _ => rfl, fun _ _ h => Or.inl h, Nat.le_refl _⟩

theorem Relabelled.trans (hst : Relabelled s t) (htu : Relabelled t u) : Relabelled s u where
  written k key hk := (htu.written k key hk).trans (hst.written k key hk)
  namespaces key := (htu.namespaces key).trans (hst.namespaces key)
  components key := (htu.components key).trans (hst.components key)
  touched key v hv := by
    rcases htu.touched key v hv with h | h
    · exact hst.touched key v h
    · exact Or.inr (Nat.lt_of_le_of_lt hst.revision h)
  revision := hst.revision.trans htu.revision

theorem Touched.of_later (hst : Relabelled s t) (h : Touched t u key) : Touched s u key := by
  obtain ⟨v, hv, hlt⟩ := h
  exact ⟨v, hv, Nat.lt_of_le_of_lt hst.revision hlt⟩

theorem Touched.of_earlier (htu : Relabelled t u) (hrevision : s.revision ≤ t.revision) (h : Touched s t key) :
    Touched s u key := by
  obtain ⟨v, hv, hlt⟩ := h
  have hthere := htu.components key
  rw [hv] at hthere
  cases hu : u.get .component key with
  | none =>
      rw [hu] at hthere
      cases hthere
  | some w =>
      refine ⟨w, hu, ?_⟩
      rcases htu.touched key w hu with h | h
      · rw [hv] at h
        cases h
        exact hlt
      · exact Nat.lt_of_le_of_lt hrevision h

/-- Another object of a kind that is not read here. -/
theorem Relabelled.of_sameBut {k : Kind} (h : SameBut (S := schema) k key s t) (hw : ¬ Written k) (hns : k ≠ .ns)
    (hcomponent : k ≠ .component) (hrevision : s.revision ≤ t.revision) : Relabelled s t where
  written l key' hl := h l key' fun e => hw (e.1 ▸ hl)
  namespaces key' := congrArg _ (h .ns key' fun e => hns e.1.symm)
  components key' := congrArg _ (h .component key' fun e => hcomponent e.1.symm)
  touched key' v hv := by
    rw [h .component key' fun e => hcomponent e.1.symm] at hv
    exact Or.inl hv
  revision := hrevision

/-- A namespace gets another label. -/
theorem Relabelled.put_ns {v current : Stored .ns} (obj : Namespace)
    (hcurrent : s.get .ns (Kind.key .ns obj) = some current)
    (hv : enabledLabel current = enabledLabel v) (hobj : obj.labels.lookup kalmEnableLabelName = enabledLabel v) :
    Relabelled s (s.put Kind.ns obj) where
  written l key' hl := State.get_put_of_ne (S := schema) (by rintro rfl; exact hl) key'
  namespaces key' := by
    rw [State.get_put (S := schema)]
    by_cases hkey : key' = Kind.key .ns obj
    · rw [if_pos hkey, hkey, hcurrent, Option.map_some, Option.map_some, hv, ← hobj]
      rfl
    · rw [if_neg hkey]
  components key' := congrArg _ (State.get_put_of_ne (S := schema) Kind.noConfusion key')
  touched key' w hw := by
    rw [State.get_put_of_ne (S := schema) Kind.noConfusion key'] at hw
    exact Or.inl hw
  revision := Nat.le_succ _

/-- A component gets another label. -/
theorem Relabelled.put_component {current : Stored .component} (obj : Component)
    (hcurrent : s.get .component (Kind.key .component obj) = some current)
    (hobj : { obj with labels := ∅ } = unlabelled current) : Relabelled s (s.put Kind.component obj) where
  written l key' hl := State.get_put_of_ne (S := schema) (by rintro rfl; exact hl) key'
  namespaces key' := congrArg _ (State.get_put_of_ne (S := schema) Kind.noConfusion key')
  components key' := by
    rw [State.get_put (S := schema)]
    by_cases hkey : key' = Kind.key .component obj
    · rw [if_pos hkey, hkey, hcurrent, Option.map_some, Option.map_some, ← hobj]
      rfl
    · rw [if_neg hkey]
  touched key' w hw := by
    rw [State.get_put (S := schema)] at hw
    split at hw
    · cases hw
      exact Or.inr (Nat.lt_succ_self _)
    · exact Or.inl hw
  revision := Nat.le_succ _

end Relabelled

/-! ## 2. The loop over the components -/

section Loops

variable {now : Nat} {s t : Cluster} {isActive : Bool} {Q : Unit → Cluster → Prop}

variable (now isActive) in
theorem hasWakeSuffix_woken (c : Component) : (c.woken now isActive).hasWakeSuffix isActive = true := by
  unfold Component.hasWakeSuffix Component.woken
  rw [Finmap.lookup_insert, List.isSuffixOf_iff_suffix]
  exact ⟨itoa now ++ [dash], by rw [List.append_assoc]; rfl⟩

/-- One component of a listing that was taken in `s`. -/
theorem returns_wakeComponent {v : Stored .component} (hv : s.get .component (Kind.key .component v.obj) = some v)
    (hst : Relabelled s t) (hsuffix : Component.hasWakeSuffix v.obj isActive = false)
    (h : Returns (call (.update .component ⟨Component.woken v.obj now isActive, v.version⟩)) t Q) :
    ∃ u, Relabelled t u ∧ Touched s u (Kind.key .component v.obj) ∧ Q () u := by
  obtain ⟨current, hcurrent, _, hQ⟩ := (Objects.returns_update (S := schema)).mp h
  have hget : t.get .component (Kind.key .component v.obj) = some current := hcurrent
  have hsame := hst.components (Kind.key .component v.obj)
  rw [hget, hv, Option.map_some, Option.map_some, Option.some_inj] at hsame
  by_cases heq : current.obj = Component.woken v.obj now isActive
  · rw [if_pos heq] at hQ
    refine ⟨t, Relabelled.refl t, ⟨current, hget, ?_⟩, hQ⟩
    rcases hst.touched _ current hget with hsame | hlt
    · rw [hv] at hsame
      cases hsame
      have hwoken := hasWakeSuffix_woken now isActive v.obj
      rw [← heq, hsuffix] at hwoken
      cases hwoken
    · exact hlt
  · rw [if_neg heq] at hQ
    refine ⟨_, Relabelled.put_component (Component.woken v.obj now isActive) hcurrent hsame.symm, ?_, hQ⟩
    refine ⟨⟨Component.woken v.obj now isActive, t.revision + 1⟩, ?_, Nat.lt_succ_of_le hst.revision⟩
    rw [State.get_put (S := schema)]
    exact if_pos rfl

theorem returns_wakeComponents (components : List (Stored .component))
    (hlisted : ∀ v ∈ components, s.get .component (Kind.key .component v.obj) = some v) (hst : Relabelled s t)
    (h : Returns (wakeComponents now isActive components) t Q) :
    ∃ u, Relabelled t u ∧ (∀ v ∈ components, Component.hasWakeSuffix v.obj isActive = false →
      Touched s u (Kind.key .component v.obj)) ∧ Q () u := by
  induction components generalizing t with
  | nil => exact ⟨t, Relabelled.refl t, fun v hv => absurd hv List.not_mem_nil, Calls.returns_done.mp h⟩
  | cons v components ih =>
      have hrest := fun w hw => hlisted w (List.mem_cons_of_mem v hw)
      rw [wakeComponents] at h
      cases hsuffix : Component.hasWakeSuffix v.obj isActive with
      | true =>
          rw [if_pos hsuffix] at h
          obtain ⟨u, htu, hall, hQ⟩ := ih hrest hst h
          refine ⟨u, htu, fun w hw hwake => ?_, hQ⟩
          rcases List.mem_cons.mp hw with rfl | hw
          · rw [hsuffix] at hwake
            cases hwake
          · exact hall w hw hwake
      | false =>
          rw [if_neg (by rw [hsuffix]; exact Bool.false_ne_true)] at h
          obtain ⟨t', htt', htouched, h⟩ :=
            returns_wakeComponent (hlisted v List.mem_cons_self) hst hsuffix (Objects.returns_bind.mp h)
          obtain ⟨u, htu, hall, hQ⟩ := ih hrest (hst.trans htt') h
          refine ⟨u, htt'.trans htu, fun w hw hwake => ?_, hQ⟩
          rcases List.mem_cons.mp hw with rfl | hw
          · exact htouched.of_earlier htu (hst.trans htt').revision
          · exact hall w hw hwake

/-! ## 3. The loop over the namespaces -/

theorem returns_labelForIstio {v : Stored .ns} (hv : s.get .ns (Kind.key .ns v.obj) = some v) (hst : Relabelled s t)
    (h : Returns (labelForIstio v) t Q) : ∃ u, Relabelled t u ∧ Q () u := by
  unfold labelForIstio at h
  split at h
  · exact ⟨t, Relabelled.refl t, Calls.returns_done.mp h⟩
  obtain ⟨current, hcurrent, _, hQ⟩ := (Objects.returns_update (S := schema)).mp h
  split at hQ
  · exact ⟨t, Relabelled.refl t, hQ⟩
  have hget : t.get .ns (Kind.key .ns v.obj) = some current := hcurrent
  have hsame := hst.namespaces (Kind.key .ns v.obj)
  rw [hget, hv, Option.map_some, Option.map_some, Option.some_inj] at hsame
  refine ⟨_, Relabelled.put_ns (Namespace.withIstio v.obj) hcurrent hsame ?_, hQ⟩
  exact Finmap.lookup_insert_of_ne _ (by decide)

/-- **Each component of the namespaces is touched** where its label has the wrong suffix. -/
theorem returns_wakeNamespaces (namespaces : List (Stored .ns))
    (hlisted : ∀ v ∈ namespaces, s.get .ns (Kind.key .ns v.obj) = some v) (hst : Relabelled s t)
    (h : Returns (wakeNamespaces now namespaces) t Q) :
    ∃ u, Relabelled t u ∧ (∀ v ∈ namespaces, ∀ w ∈ s.list .component,
      Component.ns w.obj = Namespace.name v.obj →
      Component.hasWakeSuffix w.obj (isNamespaceKalmEnabled v.obj) = false →
      Touched s u (Kind.key .component w.obj)) ∧ Q () u := by
  induction namespaces generalizing t with
  | nil => exact ⟨t, Relabelled.refl t, fun v hv => absurd hv List.not_mem_nil, Calls.returns_done.mp h⟩
  | cons v namespaces ih =>
      rw [wakeNamespaces] at h
      obtain ⟨t₁, ht₁, h⟩ :=
        returns_labelForIstio (hlisted v List.mem_cons_self) hst (Objects.returns_bind.mp h)
      have h := (Objects.returns_list (S := schema)).mp (Objects.returns_bind.mp h)
      obtain ⟨t₂, ht₂, hwoken, h⟩ := returns_wakeComponents _
        (fun w hw => State.get_self (S := schema) (List.mem_filter.mp hw).1) (Relabelled.refl t₁)
        (Objects.returns_bind.mp h)
      have hst₁ := hst.trans ht₁
      obtain ⟨u, hu, hall, hQ⟩ := ih (fun w hw => hlisted w (List.mem_cons_of_mem v hw)) (hst₁.trans ht₂) h
      refine ⟨u, (ht₁.trans ht₂).trans hu, fun v' hv' w hw hns hwake => ?_, hQ⟩
      rcases List.mem_cons.mp hv' with rfl | hv'
      · -- the component as it is listed in this round: as before, or touched already
        have hw' : s.get .component (Kind.key .component w.obj) = some w := State.get_self (S := schema) hw
        have hthere := hst₁.components (Kind.key .component w.obj)
        rw [hw', Option.map_some] at hthere
        obtain ⟨w₁, hw₁, _⟩ := Option.map_eq_some_iff.mp hthere
        rcases hst₁.touched _ w₁ hw₁ with hsame | hlt
        · rw [hw'] at hsame
          cases hsame
          have hmem : w ∈ (t₁.list .component).filter fun w => Component.ns w.obj = Namespace.name v'.obj :=
            List.mem_filter.mpr ⟨(State.get_eq_some (S := schema).mp hw₁).1, decide_eq_true hns⟩
          exact ((hwoken w hmem hwake).of_later hst₁).of_earlier hu (hst₁.trans ht₂).revision
        · exact Touched.of_earlier (ht₂.trans hu) hst₁.revision ⟨w₁, hw₁, hlt⟩
      · exact hall v' hv' w hw hns hwake

end Loops

/-! ## 4. The run -/

section Run

variable {now : Nat} {s t : Cluster} {Q : Unit → Cluster → Prop}

/-- An issuer or a certificate is found and saved. -/
theorem relabelled_saved {k : Kind} {key : Str × Str} {new : k.Obj} {updated : k.Obj → k.Obj} (hw : ¬ Written k)
    (hns : k ≠ .ns) (hcomponent : k ≠ .component) (hnew : k.key new = key)
    (hupdated : ∀ obj, k.key obj = key → k.key (updated obj) = key)
    (h : Returns (find (S := schema) k key) t fun loaded u => Returns (save (S := schema) k loaded new updated) u Q) :
    ∃ u, Relabelled t u ∧ Q () u := by
  have hfound := (Objects.returns_find (S := schema)).mp h
  have hsaved := (Objects.returns_save (S := schema) hnew hupdated).mp hfound
  exact ⟨_, Relabelled.of_sameBut (sameBut_saved (S := schema) hnew hupdated) hw hns hcomponent
    Objects.revision_saved, hsaved.2⟩

theorem returns_reconcileDefaults
    (h : Returns (do reconcileDefaultCAIssuerAndCert; reconcileDefaultHTTP01Issuer) t Q) :
    ∃ u, Relabelled t u ∧ Q () u := by
  unfold reconcileDefaultCAIssuerAndCert reconcileDefaultHTTP01Issuer at h
  have hissuer := Objects.returns_bind.mp (Objects.returns_bind.mp h)
  obtain ⟨t₁, ht₁, hcert⟩ := relabelled_saved id Kind.noConfusion Kind.noConfusion (by rfl)
    (fun _ hkey => by exact hkey) (hissuer.mono fun _ _ h => Objects.returns_bind.mp h)
  obtain ⟨t₂, ht₂, hhttp01⟩ := relabelled_saved id Kind.noConfusion Kind.noConfusion (by rfl)
    (fun _ hkey => by exact hkey) (Objects.returns_bind.mp hcert)
  obtain ⟨u, hu, hQ⟩ := relabelled_saved id Kind.noConfusion Kind.noConfusion (by rfl)
    (fun _ hkey => by exact hkey) (Objects.returns_bind.mp hhttp01)
  exact ⟨u, (ht₁.trans ht₂).trans hu, hQ⟩

/-- **A run that returns relabels**, and touches the components whose label says the other word. -/
theorem returns_reconcileNamespaces (h : Returns (KalmNSReconciler.reconcile now) s Q) :
    ∃ t, Relabelled s t ∧ (∀ v ∈ s.list .ns, enabledLabel v ≠ none → ∀ w ∈ s.list .component,
      Component.ns w.obj = Namespace.name v.obj →
      Component.hasWakeSuffix w.obj (isNamespaceKalmEnabled v.obj) = false →
      Touched s t (Kind.key .component w.obj)) ∧ Q () t := by
  unfold KalmNSReconciler.reconcile at h
  have hlisted := (Objects.returns_list (S := schema)).mp (Objects.returns_bind.mp h)
  obtain ⟨t, hst, hall, hrest⟩ := returns_wakeNamespaces _
    (fun v hv => State.get_self (S := schema) (List.mem_filter.mp hv).1) (Relabelled.refl s)
    (Objects.returns_bind.mp hlisted)
  obtain ⟨u, htu, hQ⟩ := returns_reconcileDefaults hrest
  refine ⟨u, hst.trans htu, fun v hv hlabel w hw hns hwake => ?_, hQ⟩
  have hmem : v ∈ (s.list .ns).filter fun v => ((Namespace.labels v.obj).lookup kalmEnableLabelName).isSome :=
    List.mem_filter.mpr ⟨hv, Option.isSome_iff_ne_none.mpr hlabel⟩
  exact (hall v hmem w hw hns hwake).of_earlier htu hst.revision

end Run

end Kalm.Controller
