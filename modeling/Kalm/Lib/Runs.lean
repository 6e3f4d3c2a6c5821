/-
  File:      Kalm/Lib/Runs.lean
  Subject:   RUNS: a system takes one input after the other, and a property of its transitions holds
             along the run.

  * `Always` -- the property holds of every transition: the state before it and its input;
  * `always_congr` -- what is equivalent for one step is equivalent for a run; `Always.of_invariant`;
  * `Reaches` -- the states of a system whose steps can be impossible, by steps that meet a condition;
  * `Reaches.invariant` -- what holds at the start and is kept by a step holds in every state reached;
  * `Reaches.run`, `runSteps_invariant` -- a run of steps that are possible, and what it keeps;
  * `switch`, `switch_eq_false` -- a bit that some steps set and others clear is off at the end exactly when
    every setting is undone.
-/
import Mathlib.Data.List.Induction

namespace Runs

/-! ## 1. Total steps -/

variable {σ ι : Type} {step : σ → ι → σ} {p q : σ → ι → Prop}

/-- Along the run from a state over the inputs, every transition has the property. -/
def Always (step : σ → ι → σ) (p : σ → ι → Prop) : σ → List ι → Prop
  | _, [] => True
  | s, i :: inputs => p s i ∧ Always step p (step s i) inputs

theorem Always.mono (h : ∀ s i, p s i → q s i) {s : σ} {inputs : List ι}
    (hp : Always step p s inputs) : Always step q s inputs := by
  induction inputs generalizing s with
  | nil => trivial
  | cons i inputs ih => exact ⟨h s i hp.1, ih hp.2⟩

theorem Always.and {s : σ} {inputs : List ι} (hp : Always step p s inputs) (hq : Always step q s inputs) :
    Always step (fun s i => p s i ∧ q s i) s inputs := by
  induction inputs generalizing s with
  | nil => trivial
  | cons i inputs ih => exact ⟨⟨hp.1, hq.1⟩, ih hp.2 hq.2⟩

/-- **From steps to runs.** -/
theorem always_congr (h : ∀ s i, p s i ↔ q s i) (s : σ) (inputs : List ι) :
    Always step p s inputs ↔ Always step q s inputs := by
  induction inputs generalizing s with
  | nil => exact Iff.rfl
  | cons i inputs ih => exact and_congr (h s i) (ih (step s i))

/-- **Along a run that keeps an invariant**, every transition from a state that has it has the property. -/
theorem Always.of_invariant {I : σ → Prop} {meets : σ → ι → Prop}
    (hstep : ∀ s i, I s → meets s i → I (step s i)) (hp : ∀ s i, I s → meets s i → p s i) {s : σ}
    {inputs : List ι} (hs : I s) (h : Always step meets s inputs) : Always step p s inputs := by
  induction inputs generalizing s with
  | nil => trivial
  | cons i inputs ih => exact ⟨hp s i hs h.1, ih (hstep s i hs h.1) h.2⟩

/-- **What is equivalent for a step from a state that has an invariant** is equivalent for a run that starts in one,
    where the property keeps the invariant. -/
theorem always_iff_of_invariant {I : σ → Prop} (h : ∀ s i, I s → (p s i ↔ q s i))
    (hstep : ∀ s i, I s → p s i → I (step s i)) {s : σ} (hs : I s) (inputs : List ι) :
    Always step p s inputs ↔ Always step q s inputs := by
  induction inputs generalizing s with
  | nil => exact Iff.rfl
  | cons i inputs ih =>
      constructor
      · intro ⟨hp, hrun⟩
        exact ⟨(h s i hs).mp hp, (ih (hstep s i hs hp)).mp hrun⟩
      · intro ⟨hq, hrun⟩
        have hp := (h s i hs).mpr hq
        exact ⟨hp, (ih (hstep s i hs hp)).mpr hrun⟩

/-- The same along a run all of whose steps are of a kind. -/
theorem Always.iff_of_invariant {I : σ → Prop} {r : σ → ι → Prop} {s : σ} {inputs : List ι}
    (hr : Always step r s inputs) (hs : I s) (h : ∀ s i, I s → r s i → (p s i ↔ q s i))
    (hstep : ∀ s i, I s → r s i → p s i → I (step s i)) : Always step p s inputs ↔ Always step q s inputs := by
  have hboth : Always step (fun s i => r s i ∧ p s i) s inputs ↔ Always step (fun s i => r s i ∧ q s i) s inputs :=
    always_iff_of_invariant (fun s i hs => and_congr_right (h s i hs)) (fun s i hs hp => hstep s i hs hp.1 hp.2) hs
      inputs
  constructor
  · exact fun hp => (hboth.mp (hr.and hp)).mono fun _ _ h => h.2
  · exact fun hq => (hboth.mpr (hr.and hq)).mono fun _ _ h => h.2

/-- The last transition of a run has the property. -/
theorem Always.last {s : σ} {inputs : List ι} {i : ι} (h : Always step p s (inputs ++ [i])) :
    p (inputs.foldl step s) i := by
  induction inputs generalizing s with
  | nil => exact h.1
  | cons j inputs ih => exact ih h.2

/-! ## 2. Steps that can be impossible -/

/-- The states that are reached from an initial one by steps that meet a condition. -/
inductive Reaches (init : σ → Prop) (meets : σ → ι → Prop) (step : σ → ι → Option σ) : σ → Prop
  | start {s : σ} (h : init s) : Reaches init meets step s
  | step {s s' : σ} {i : ι} (reached : Reaches init meets step s) (hi : meets s i)
      (taken : step s i = some s') : Reaches init meets step s'

/-- Every step meets this condition. -/
def anyStep (_ : σ) (_ : ι) : Prop := True

variable {init : σ → Prop} {meets : σ → ι → Prop} {next : σ → ι → Option σ}

/-- A step that is possible is taken. -/
theorem Reaches.taking {s : σ} (h : Reaches init meets next s) (i : ι) (hi : meets s i)
    (hpossible : (next s i).isSome = true) : Reaches init meets next ((next s i).get hpossible) :=
  .step h hi (Option.some_get hpossible).symm

/-- **An invariant holds in every state reached.** -/
theorem Reaches.invariant {I : σ → Prop} (hstart : ∀ s, init s → I s)
    (hstep : ∀ s i s', I s → meets s i → next s i = some s' → I s') {s : σ}
    (h : Reaches init meets next s) : I s := by
  induction h with
  | start h => exact hstart _ h
  | step _ hi taken ih => exact hstep _ _ _ ih hi taken

theorem Reaches.mono {meets' : σ → ι → Prop} (hm : ∀ s i, meets s i → meets' s i) {s : σ}
    (h : Reaches init meets next s) : Reaches init meets' next s := by
  induction h with
  | start h => exact .start h
  | step _ hi taken ih => exact .step ih (hm _ _ hi) taken

/-- One run after the other. -/
theorem Reaches.trans {s s' : σ} (h : Reaches init meets next s) (h' : Reaches (· = s) meets next s') :
    Reaches init meets next s' := by
  induction h' with
  | start heq => exact heq ▸ h
  | step _ hi taken ih => exact .step ih hi taken

/-- The state after the inputs, if each step is possible. -/
def runSteps (next : σ → ι → Option σ) : σ → List ι → Option σ
  | s, [] => some s
  | s, i :: inputs =>
    match next s i with
    | none => none
    | some s' => runSteps next s' inputs

/-- **What a run reaches is reached**, by steps that meet the condition in every state. -/
theorem Reaches.run_of {s s' : σ} (h : Reaches init meets next s) {inputs : List ι}
    (hmeets : ∀ i ∈ inputs, ∀ s, meets s i) (hrun : runSteps next s inputs = some s') :
    Reaches init meets next s' := by
  induction inputs generalizing s with
  | nil =>
      rw [← Option.some.inj hrun]
      exact h
  | cons i inputs ih =>
      rw [runSteps] at hrun
      cases hi : next s i with
      | none =>
          rw [hi] at hrun
          cases hrun
      | some t =>
          rw [hi] at hrun
          exact ih (.step h (hmeets i List.mem_cons_self s) hi) (fun j hj => hmeets j (List.mem_cons_of_mem _ hj)) hrun

theorem Reaches.run {s s' : σ} (h : Reaches init anyStep next s) {inputs : List ι}
    (hrun : runSteps next s inputs = some s') : Reaches init anyStep next s' :=
  h.run_of (fun _ _ _ => trivial) hrun

/-- What each step keeps, a run keeps. -/
theorem runSteps_invariant {I : σ → Prop} (hstep : ∀ s i s', I s → next s i = some s' → I s') {s s' : σ}
    {inputs : List ι} (hs : I s) (h : runSteps next s inputs = some s') : I s' := by
  induction inputs generalizing s with
  | nil =>
      rw [← Option.some.inj h]
      exact hs
  | cons i inputs ih =>
      rw [runSteps] at h
      cases hi : next s i with
      | none =>
          rw [hi] at h
          cases h
      | some t =>
          rw [hi] at h
          exact ih (hstep s i t hs hi) h

/-! ## 3. Bits that are set and cleared -/

/-- What a step makes of a bit. -/
def switch (on off : ι → Bool) (bit : Bool) (i : ι) : Bool :=
  if on i then true else if off i then false else bit

/-- Behind every step that sets the bit there is one that clears it. -/
def Undone (on off : ι → Bool) (steps : List ι) : Prop :=
  ∀ front i back, steps = front ++ i :: back → on i = true → ∃ j ∈ back, off j = true

variable {on off : ι → Bool} {steps : List ι} {i : ι}

/-- **A bit of the state** that each step sets, clears or leaves. -/
theorem runSteps_bit {bit : σ → Bool} (hstep : ∀ s i s', next s i = some s' → bit s' = switch on off (bit s) i)
    {s s' : σ} (h : runSteps next s steps = some s') : bit s' = steps.foldl (switch on off) (bit s) := by
  induction steps generalizing s with
  | nil => rw [Option.some.inj h, List.foldl_nil]
  | cons i steps ih =>
      rw [runSteps] at h
      cases hi : next s i with
      | none =>
          rw [hi] at h
          cases h
      | some t =>
          rw [hi] at h
          rw [ih h, hstep s i t hi, List.foldl_cons]

/-- The last step decides, if it sets the bit. -/
theorem foldl_switch_append_on (hon : on i = true) (bit : Bool) :
    (steps ++ [i]).foldl (switch on off) bit = true := by
  rw [List.foldl_append, List.foldl_cons, List.foldl_nil, switch, if_pos hon]

theorem not_undone_append_on (hon : on i = true) : ¬ Undone on off (steps ++ [i]) := by
  intro h
  obtain ⟨j, hj, _⟩ := h steps i [] rfl hon
  exact absurd hj List.not_mem_nil

/-- The last step, seen from a step before it. -/
theorem append_singleton_eq {front back : List ι} {j : ι} (h : steps ++ [i] = front ++ j :: back) :
    (back = [] ∧ steps = front ∧ i = j) ∨ ∃ back', back = back' ++ [i] ∧ steps = front ++ j :: back' := by
  rcases List.eq_nil_or_concat back with rfl | ⟨back', k, rfl⟩
  · have hlast := List.append_inj' h rfl
    exact Or.inl ⟨rfl, hlast.1, List.head_eq_of_cons_eq hlast.2⟩
  · rw [List.concat_eq_append, ← List.cons_append, ← List.append_assoc] at h
    have hlast := List.append_inj' h rfl
    rw [List.head_eq_of_cons_eq hlast.2, List.concat_eq_append]
    exact Or.inr ⟨back', rfl, hlast.1⟩

theorem undone_append_off (hon : on i = false) (hoff : off i = true) : Undone on off (steps ++ [i]) := by
  intro front j back h hj
  rcases append_singleton_eq h with ⟨_, _, rfl⟩ | ⟨back', rfl, _⟩
  · rw [hon] at hj
    cases hj
  · exact ⟨i, List.mem_append_right _ (List.mem_singleton.mpr rfl), hoff⟩

theorem undone_append_iff (hon : on i = false) (hoff : off i = false) :
    Undone on off (steps ++ [i]) ↔ Undone on off steps := by
  constructor
  · intro h front j back hsteps hj
    obtain ⟨k, hk, hoffk⟩ := h front j (back ++ [i]) (by rw [hsteps, List.append_assoc, List.cons_append]) hj
    rcases List.mem_append.mp hk with hk | hk
    · exact ⟨k, hk, hoffk⟩
    · rw [List.mem_singleton.mp hk, hoff] at hoffk
      cases hoffk
  · intro h front j back hsteps hj
    rcases append_singleton_eq hsteps with ⟨_, _, rfl⟩ | ⟨back', rfl, hsteps'⟩
    · rw [hon] at hj
      cases hj
    · obtain ⟨k, hk, hoffk⟩ := h front j back' hsteps' hj
      exact ⟨k, List.mem_append_left _ hk, hoffk⟩

/-- **The bit is off at the end exactly when every setting is undone.** -/
theorem switch_eq_false : steps.foldl (switch on off) false = false ↔ Undone on off steps := by
  induction steps using List.reverseRec with
  | nil =>
      refine iff_of_true rfl fun front i back h => ?_
      cases front <;> cases h
  | append_singleton steps i ih =>
      rw [List.foldl_append, List.foldl_cons, List.foldl_nil, switch]
      cases hon : on i with
      | true =>
          rw [if_pos rfl]
          exact iff_of_false Bool.noConfusion (not_undone_append_on hon)
      | false =>
          rw [if_neg Bool.false_ne_true]
          cases hoff : off i with
          | true =>
              rw [if_pos rfl]
              exact iff_of_true rfl (undone_append_off hon hoff)
          | false =>
              rw [if_neg Bool.false_ne_true, ih]
              exact (undone_append_iff hon hoff).symm

end Runs
