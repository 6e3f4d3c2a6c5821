/-
  File:      Kalm/Lib/Calls.lean
  Subject:   PROGRAMS THAT CALL A SERVER, and any call may fail: refused before it takes effect, or
             served with its answer lost.

  * `Action`, `run` -- a program, and its run under a list of faults;
  * `Holds` -- what holds after every run, whatever fails (`holds_call`, `holds_bind`);
  * `Returns` -- what holds after the run in which nothing fails (`returns_bind`); `ReturnsBy` -- and which
    calls it makes;
  * `Strict` -- after a failed call the program fails: a run that does not fail is the run in which
    nothing fails; `Attentive` -- after a failed call it may do more, but does not return;
  * `Keeps` -- an invariant of every run, from the calls the program can make (`Uses`);
  * `Repeatable` -- a run that returns has done its work, and after a run that fails the next run
    without faults does it. `repeatable_of_keeps`: a strict program is repeatable from every state
    of an invariant from whose states it succeeds.
-/
import Mathlib.Logic.Basic

namespace Calls

/-! ## 1. Programs -/

/-- A program that makes calls `C`; a call `c` answers with `V c` or an error. -/
inductive Action (C : Type) (V : C → Type) (E α : Type) where
  | done (a : α)
  | fail (e : E)
  | crash
  | call (c : C) (next : Except E (V c) → Action C V E α)

variable {C : Type} {V : C → Type} {E α β σ : Type}

namespace Action

/-- What follows runs when the first part returns. -/
def bind : Action C V E α → (α → Action C V E β) → Action C V E β
  | .done a, f => f a
  | .fail e, _ => .fail e
  | .crash, _ => .crash
  | .call c next, f => .call c fun r => (next r).bind f

instance : Monad (Action C V E) where
  pure := .done
  bind := bind

/-- A call whose error the program looks at. -/
def tryCall (c : C) : Action C V E (Except E (V c)) := .call c .done

@[simp] theorem tryCall_bind (c : C) (f : Except E (V c) → Action C V E β) :
    (tryCall c >>= f) = .call c f := rfl

/-- A call whose error the program returns. -/
def invoke (c : C) : Action C V E (V c) :=
  .call c fun r => match r with
    | .ok v => .done v
    | .error e => .fail e

@[simp] theorem pure_eq (a : α) : (Pure.pure a : Action C V E α) = .done a := rfl

@[simp] theorem done_bind (a : α) (f : α → Action C V E β) :
    ((Action.done a : Action C V E α) >>= f) = f a := rfl

@[simp] theorem fail_bind (e : E) (f : α → Action C V E β) :
    ((Action.fail e : Action C V E α) >>= f) = .fail e := rfl

@[simp] theorem crash_bind (f : α → Action C V E β) :
    ((Action.crash : Action C V E α) >>= f) = .crash := rfl

@[simp] theorem call_bind (c : C) (next : Except E (V c) → Action C V E α)
    (f : α → Action C V E β) : (Action.call c next >>= f) = .call c fun r => next r >>= f := rfl

theorem bind_assoc {γ : Type} (p : Action C V E α) (f : α → Action C V E β)
    (g : β → Action C V E γ) : (p >>= f) >>= g = p >>= fun a => f a >>= g := by
  induction p with
  | done a => rfl
  | fail e => rfl
  | crash => rfl
  | call c next ih => exact congrArg (Action.call c) (funext ih)

end Action

/-! ## 2. Runs -/

/-- What becomes of a call: the server answers, it is refused, or its answer is lost. -/
inductive Fault where
  | served
  | refused
  | lost
  deriving DecidableEq

/-- How a run ends. -/
inductive Outcome (E α : Type) where
  | returned (a : α)
  | failed (e : E)
  | crashed

section Runs

variable (serve : (c : C) → σ → Except E (V c) × σ) (failure : E)

/-- The run whose calls meet the faults in their order; the calls behind them are served. -/
def run : Action C V E α → List Fault → σ → Outcome E α × σ
  | .done a, _, s => (.returned a, s)
  | .fail e, _, s => (.failed e, s)
  | .crash, _, s => (.crashed, s)
  | .call c next, [], s => run (next (serve c s).1) [] (serve c s).2
  | .call c next, .served :: faults, s => run (next (serve c s).1) faults (serve c s).2
  | .call _ next, .refused :: faults, s => run (next (.error failure)) faults s
  | .call c next, .lost :: faults, s => run (next (.error failure)) faults (serve c s).2

/-- `Q` holds at the end of every run, whatever fails. -/
def Holds (p : Action C V E α) (s : σ) (Q : Outcome E α → σ → Prop) : Prop :=
  ∀ faults, Q (run serve failure p faults s).1 (run serve failure p faults s).2

/-- The run in which nothing fails returns, and `Q` holds at its end. -/
def Returns (p : Action C V E α) (s : σ) (Q : α → σ → Prop) : Prop :=
  ∃ a s', run serve failure p [] s = (.returned a, s') ∧ Q a s'

variable {serve failure} {p : Action C V E α} {f : α → Action C V E β} {s : σ}

/-! ### After every run -/

theorem holds_done {a : α} {Q : Outcome E α → σ → Prop} :
    Holds serve failure (.done a) s Q ↔ Q (.returned a) s := ⟨fun h => h [], fun h _ => h⟩

theorem holds_fail {e : E} {Q : Outcome E α → σ → Prop} :
    Holds serve failure (.fail e) s Q ↔ Q (.failed e) s := ⟨fun h => h [], fun h _ => h⟩

theorem holds_crash {Q : Outcome E α → σ → Prop} :
    Holds serve failure .crash s Q ↔ Q .crashed s := ⟨fun h => h [], fun h _ => h⟩

/-- **A call is served, refused or lost.** -/
theorem holds_call {c : C} {next : Except E (V c) → Action C V E α} {Q : Outcome E α → σ → Prop} :
    Holds serve failure (.call c next) s Q ↔
      Holds serve failure (next (serve c s).1) (serve c s).2 Q ∧
        Holds serve failure (next (.error failure)) s Q ∧
          Holds serve failure (next (.error failure)) (serve c s).2 Q := by
  refine ⟨fun h => ⟨fun faults => h (.served :: faults), fun faults => h (.refused :: faults),
    fun faults => h (.lost :: faults)⟩, ?_⟩
  intro ⟨hserved, hrefused, hlost⟩ faults
  cases faults with
  | nil => exact hserved []
  | cons fault faults =>
      cases fault with
      | served => exact hserved faults
      | refused => exact hrefused faults
      | lost => exact hlost faults

/-- **One part after the other.** -/
theorem holds_bind {Q : Outcome E β → σ → Prop} :
    Holds serve failure (p >>= f) s Q ↔
      Holds serve failure p s fun o s' => match o with
        | .returned a => Holds serve failure (f a) s' Q
        | .failed e => Q (.failed e) s'
        | .crashed => Q .crashed s' := by
  induction p generalizing s with
  | done a => rw [Action.done_bind, holds_done]
  | fail e => rw [Action.fail_bind, holds_fail, holds_fail]
  | crash => rw [Action.crash_bind, holds_crash, holds_crash]
  | call c next ih =>
      rw [Action.call_bind, holds_call, holds_call, ih, ih, ih]

/-- A call that the server answers. -/
theorem holds_invoke_ok {c : C} {v : V c} {t : σ} (h : serve c s = (.ok v, t)) {Q : Outcome E (V c) → σ → Prop} :
    Holds serve failure (Action.invoke c) s Q ↔
      Q (.returned v) t ∧ Q (.failed failure) s ∧ Q (.failed failure) t := by
  unfold Action.invoke
  rw [holds_call, h]
  exact and_congr holds_done (and_congr holds_fail holds_fail)

theorem Holds.mono {Q R : Outcome E α → σ → Prop} (h : Holds serve failure p s Q)
    (hQR : ∀ o s', Q o s' → R o s') : Holds serve failure p s R := fun faults => hQR _ _ (h faults)

theorem Holds.and {Q R : Outcome E α → σ → Prop} (hQ : Holds serve failure p s Q)
    (hR : Holds serve failure p s R) : Holds serve failure p s fun o s' => Q o s' ∧ R o s' :=
  fun faults => ⟨hQ faults, hR faults⟩

/-! ### When nothing fails -/

theorem returns_done {a : α} {Q : α → σ → Prop} :
    Returns serve failure (.done a) s Q ↔ Q a s := by
  constructor
  · intro ⟨b, s', h, hQ⟩
    cases h
    exact hQ
  · exact fun h => ⟨a, s, rfl, h⟩

theorem not_returns_fail {e : E} {Q : α → σ → Prop} : ¬ Returns serve failure (.fail e) s Q :=
  fun ⟨_, _, h, _⟩ => nomatch h

theorem not_returns_crash {Q : α → σ → Prop} : ¬ Returns serve failure .crash s Q :=
  fun ⟨_, _, h, _⟩ => nomatch h

theorem returns_call {c : C} {next : Except E (V c) → Action C V E α} {Q : α → σ → Prop} :
    Returns serve failure (.call c next) s Q ↔
      Returns serve failure (next (serve c s).1) (serve c s).2 Q := Iff.rfl

theorem returns_bind {Q : β → σ → Prop} :
    Returns serve failure (p >>= f) s Q ↔
      Returns serve failure p s fun a s' => Returns serve failure (f a) s' Q := by
  induction p generalizing s with
  | done a => rw [Action.done_bind, returns_done]
  | fail e => exact iff_of_false not_returns_fail not_returns_fail
  | crash => exact iff_of_false not_returns_crash not_returns_crash
  | call c next ih => exact ih _

/-- A call that the server answers. -/
theorem returns_invoke_ok {c : C} {v : V c} {t : σ} (h : serve c s = (.ok v, t)) {Q : V c → σ → Prop} :
    Returns serve failure (Action.invoke c) s Q ↔ Q v t := by
  unfold Action.invoke
  rw [returns_call, h]
  exact returns_done

theorem Returns.mono {Q R : α → σ → Prop} (h : Returns serve failure p s Q)
    (hQR : ∀ a s', Q a s' → R a s') : Returns serve failure p s R := by
  obtain ⟨a, s', hrun, hQ⟩ := h
  exact ⟨a, s', hrun, hQR a s' hQ⟩

/-- The run in which nothing fails is one of the runs. -/
theorem Holds.returned {Q : Outcome E α → σ → Prop} {R : α → σ → Prop}
    (h : Holds serve failure p s Q) (hR : Returns serve failure p s R) :
    ∃ a s', R a s' ∧ Q (.returned a) s' := by
  obtain ⟨a, s', hrun, ha⟩ := hR
  have hQ := h []
  rw [hrun] at hQ
  exact ⟨a, s', ha, hQ⟩

/-- It returns in one way. -/
theorem Returns.and {Q R : α → σ → Prop} (hQ : Returns serve failure p s Q)
    (hR : Returns serve failure p s R) : Returns serve failure p s fun a s' => Q a s' ∧ R a s' := by
  obtain ⟨a, s', hrun, ha⟩ := hQ
  obtain ⟨b, s'', hrun', hb⟩ := hR
  rw [hrun] at hrun'
  cases hrun'
  exact ⟨a, s', hrun, ha, hb⟩

/-! ### The calls it makes -/

variable (serve) in
/-- The run in which nothing fails makes calls that satisfy `A` only, returns, and `Q` holds at its end. -/
def ReturnsBy (A : C → Prop) : Action C V E α → σ → (α → σ → Prop) → Prop
  | .done a, s, Q => Q a s
  | .fail _, _, _ => False
  | .crash, _, _ => False
  | .call c next, s, Q => A c ∧ ReturnsBy A (next (serve c s).1) (serve c s).2 Q

theorem returnsBy_bind {A : C → Prop} {Q : β → σ → Prop} :
    ReturnsBy serve A (p >>= f) s Q ↔
      ReturnsBy serve A p s fun a s' => ReturnsBy serve A (f a) s' Q := by
  induction p generalizing s with
  | done a => exact Iff.rfl
  | fail e => exact Iff.rfl
  | crash => exact Iff.rfl
  | call c next ih => exact and_congr_right fun _ => ih _

theorem ReturnsBy.mono {A : C → Prop} {Q R : α → σ → Prop} (h : ReturnsBy serve A p s Q)
    (hQR : ∀ a s', Q a s' → R a s') : ReturnsBy serve A p s R := by
  induction p generalizing s with
  | done a => exact hQR a s h
  | fail e => exact h
  | crash => exact h
  | call c next ih => exact ⟨h.1, ih _ h.2⟩

theorem ReturnsBy.returns {A : C → Prop} {Q : α → σ → Prop} (h : ReturnsBy serve A p s Q) :
    Returns serve failure p s Q := by
  induction p generalizing s with
  | done a => exact returns_done.mpr h
  | fail e => exact h.elim
  | crash => exact h.elim
  | call c next ih => exact returns_call.mpr (ih _ h.2)

/-! ## 3. Programs that fail when a call does -/

variable (failure) in
/-- A failed call ends the program. -/
def Strict : Action C V E α → Prop
  | .call _ next => (∃ e, next (.error failure) = .fail e) ∧ ∀ r, Strict (next r)
  | _ => True

variable (failure) in
/-- The program begins with the call `c`, and fails when that does. -/
def Begins (c : C) (p : Action C V E α) : Prop :=
  ∃ next e, p = .call c next ∧ next (.error failure) = .fail e

variable (failure) in
/-- The program begins with a call, and fails when that does. -/
def Refusable (p : Action C V E α) : Prop := ∃ c, Begins failure c p

theorem strict_bind (hp : Strict failure p) (hf : ∀ a, Strict failure (f a)) :
    Strict failure (p >>= f) := by
  induction p with
  | done a => exact hf a
  | fail e => trivial
  | crash => trivial
  | call c next ih =>
      obtain ⟨⟨e, he⟩, hnext⟩ := hp
      refine ⟨⟨e, ?_⟩, fun r => ih r (hnext r)⟩
      exact congrArg (· >>= f) he

theorem Begins.bind {c : C} (hp : Begins failure c p) : Begins failure c (p >>= f) := by
  obtain ⟨next, e, rfl, he⟩ := hp
  exact ⟨_, e, rfl, congrArg (· >>= f) he⟩

theorem refusable_bind (hp : Refusable failure p) : Refusable failure (p >>= f) :=
  hp.imp fun _ h => h.bind

theorem strict_invoke (c : C) : Strict failure (Action.invoke c : Action C V E (V c)) := by
  refine ⟨⟨failure, rfl⟩, fun r => ?_⟩
  cases r <;> trivial

theorem begins_invoke (c : C) : Begins failure c (Action.invoke c : Action C V E (V c)) :=
  ⟨_, failure, rfl, rfl⟩

theorem refusable_invoke (c : C) : Refusable failure (Action.invoke c : Action C V E (V c)) :=
  ⟨c, begins_invoke c⟩

/-- **A run that does not fail is the run in which nothing fails.** -/
theorem Strict.run_eq (h : Strict failure p) (faults : List Fault) (s : σ) :
    (∃ e, (run serve failure p faults s).1 = .failed e) ∨
      run serve failure p faults s = run serve failure p [] s := by
  induction p generalizing faults s with
  | done a => exact Or.inr rfl
  | fail e => exact Or.inr rfl
  | crash => exact Or.inr rfl
  | call c next ih =>
      obtain ⟨⟨e, he⟩, hnext⟩ := h
      cases faults with
      | nil => exact Or.inr rfl
      | cons fault faults =>
          cases fault with
          | served => exact ih _ (hnext _) faults _
          | refused =>
              refine Or.inl ⟨e, ?_⟩
              rw [run, he]
              rfl
          | lost =>
              refine Or.inl ⟨e, ?_⟩
              rw [run, he]
              rfl

/-- The program does not return. -/
def Ends : Action C V E α → Prop
  | .done _ => False
  | .fail _ => True
  | .crash => True
  | .call _ next => ∀ r, Ends (next r)

theorem ends_bind (hf : ∀ a, Ends (f a)) : Ends (p >>= f) := by
  induction p with
  | done a => exact hf a
  | fail e => trivial
  | crash => trivial
  | call c next ih => exact fun r => ih r

theorem Ends.bind (hp : Ends p) : Ends (p >>= f) := by
  induction p with
  | done a => exact hp.elim
  | fail e => trivial
  | crash => trivial
  | call c next ih => exact fun r => ih r (hp r)

theorem Ends.not_returned (h : Ends p) (faults : List Fault) (a : α) :
    (run serve failure p faults s).1 ≠ .returned a := by
  induction p generalizing faults s with
  | done b => exact h.elim
  | fail e => exact fun e => by cases e
  | crash => exact fun e => by cases e
  | call c next ih =>
      cases faults with
      | nil => exact ih _ (h _) []
      | cons fault faults => cases fault <;> exact ih _ (h _) faults

variable (failure) in
/-- After a failed call the program does not return. -/
def Attentive : Action C V E α → Prop
  | .call _ next => Ends (next (.error failure)) ∧ ∀ r, Attentive (next r)
  | _ => True

theorem Strict.attentive (h : Strict failure p) : Attentive failure p := by
  induction p with
  | done a => trivial
  | fail e => trivial
  | crash => trivial
  | call c next ih =>
      obtain ⟨⟨e, he⟩, hnext⟩ := h
      exact ⟨by rw [he]; trivial, fun r => ih r (hnext r)⟩

theorem Ends.attentive (h : Ends p) : Attentive failure p := by
  induction p with
  | done a => trivial
  | fail e => trivial
  | crash => trivial
  | call c next ih => exact ⟨h _, fun r => ih r (h r)⟩

theorem attentive_bind (hp : Attentive failure p) (hf : ∀ a, Attentive failure (f a)) :
    Attentive failure (p >>= f) := by
  induction p with
  | done a => exact hf a
  | fail e => trivial
  | crash => trivial
  | call c next ih => exact ⟨hp.1.bind, fun r => ih r (hp.2 r)⟩

/-- A run that returns is the run in which nothing fails. -/
theorem Attentive.returns (h : Attentive failure p) {faults : List Fault} {t : σ} {a : α}
    (hrun : run serve failure p faults s = (.returned a, t)) :
    Returns serve failure p s fun b u => b = a ∧ u = t := by
  induction p generalizing faults s with
  | done b =>
      obtain ⟨hb, rfl⟩ := Prod.mk.inj hrun
      exact ⟨b, s, rfl, Outcome.returned.inj hb, rfl⟩
  | fail e => exact absurd (congrArg Prod.fst hrun) fun e => by cases e
  | crash => exact absurd (congrArg Prod.fst hrun) fun e => by cases e
  | call c next ih =>
      refine returns_call.mpr ?_
      cases faults with
      | nil => exact ih _ (h.2 _) hrun
      | cons fault faults =>
          cases fault with
          | served => exact ih _ (h.2 _) hrun
          | refused => exact absurd (congrArg Prod.fst hrun) (h.1.not_returned faults a)
          | lost => exact absurd (congrArg Prod.fst hrun) (h.1.not_returned faults a)

theorem Strict.returns (h : Strict failure p) {faults : List Fault} {t : σ} {a : α}
    (hrun : run serve failure p faults s = (.returned a, t)) :
    Returns serve failure p s fun b u => b = a ∧ u = t := h.attentive.returns hrun

/-- **What holds where nothing fails holds of every run that does not fail.** -/
theorem Strict.holds (h : Strict failure p) {R : α → σ → Prop} (hR : Returns serve failure p s R) :
    Holds serve failure p s fun o t => (∃ e, o = .failed e) ∨ ∃ a, o = .returned a ∧ R a t := by
  intro faults
  have hcases : (∃ e, (run serve failure p faults s).1 = .failed e) ∨
      run serve failure p faults s = run serve failure p [] s := h.run_eq faults s
  rcases hcases with he | heq
  · exact Or.inl he
  · obtain ⟨a, t, hrun, ha⟩ := hR
    rw [heq, hrun]
    exact Or.inr ⟨a, rfl, ha⟩

/-- **What follows a part in which nothing can happen but a failure.** -/
theorem Strict.holds_bind (h : Strict failure p) {R : α → σ → Prop} (hR : Returns serve failure p s R)
    {Q : Outcome E β → σ → Prop} (hfailed : ∀ e t, Q (.failed e) t)
    (hf : ∀ a t, R a t → Holds serve failure (f a) t Q) : Holds serve failure (p >>= f) s Q := by
  refine Calls.holds_bind.mpr ((h.holds hR).mono ?_)
  rintro o t (⟨e, rfl⟩ | ⟨a, rfl, ha⟩)
  · exact hfailed e t
  · exact hf a t ha

/-- What follows a part that may end there, however it ends. -/
theorem Strict.holds_bind_of_returned (h : Strict failure p) {Q : Outcome E β → σ → Prop}
    (hfailed : ∀ e t, Q (.failed e) t) (hcrashed : ∀ t, Q .crashed t)
    (hf : ∀ a t, Returns serve failure p s (fun b u => b = a ∧ u = t) → Holds serve failure (f a) t Q) :
    Holds serve failure (p >>= f) s Q := by
  refine Calls.holds_bind.mpr fun faults => ?_
  rcases hrun : run serve failure p faults s with ⟨o, t⟩
  cases o with
  | returned a => exact hf a t (h.returns hrun)
  | failed e => exact hfailed e t
  | crashed => exact hcrashed t

/-- The part behind one that returns is among the runs. -/
theorem Holds.behind {Q : Outcome E β → σ → Prop} {R : α → σ → Prop} (h : Holds serve failure (p >>= f) s Q)
    (hR : Returns serve failure p s R) : ∃ a t, R a t ∧ Holds serve failure (f a) t Q :=
  (Calls.holds_bind.mp h).returned hR

/-- The program has no place at which it crashes. -/
def Crashless : Action C V E α → Prop
  | .crash => False
  | .call _ next => ∀ r, Crashless (next r)
  | _ => True

theorem crashless_bind (hp : Crashless p) (hf : ∀ a, Crashless (f a)) : Crashless (p >>= f) := by
  induction p with
  | done a => exact hf a
  | fail e => trivial
  | crash => exact hp.elim
  | call c next ih => exact fun r => ih r (hp r)

theorem crashless_invoke (c : C) : Crashless (Action.invoke c : Action C V E (V c)) := by
  intro r
  cases r <;> trivial

/-- **It never crashes.** -/
theorem Crashless.holds (hp : Crashless p) : Holds serve failure p s fun o _ => o ≠ .crashed := by
  induction p generalizing s with
  | done a => exact holds_done.mpr (by rintro ⟨⟩)
  | fail e => exact holds_fail.mpr (by rintro ⟨⟩)
  | crash => exact hp.elim
  | call c next ih => exact holds_call.mpr ⟨ih _ (hp _), ih _ (hp _), ih _ (hp _)⟩

/-- The first call is refused, and nothing happened. -/
theorem Holds.refused {Q : Outcome E α → σ → Prop} (h : Holds serve failure p s Q)
    (hp : Refusable failure p) : ∃ e, Q (.failed e) s := by
  obtain ⟨c, next, e, rfl, he⟩ := hp
  have hfail := (holds_call.mp h).2.1
  rw [he] at hfail
  exact ⟨e, holds_fail.mp hfail⟩

/-- The answer to the first call is lost. -/
theorem Holds.lost {c : C} {Q : Outcome E α → σ → Prop} (h : Holds serve failure p s Q)
    (hp : Begins failure c p) : ∃ e, Q (.failed e) (serve c s).2 := by
  obtain ⟨next, e, rfl, he⟩ := hp
  have hfail := (holds_call.mp h).2.2
  rw [he] at hfail
  exact ⟨e, holds_fail.mp hfail⟩

/-! ## 4. Invariants -/

variable (serve failure) in
/-- Every run of the program keeps `I`. -/
def Keeps (I : σ → Prop) (p : Action C V E α) : Prop :=
  ∀ s, I s → Holds serve failure p s fun _ s' => I s'

/-- Every call the program can make satisfies `A`. -/
def Uses (A : C → Prop) : Action C V E α → Prop
  | .call c next => A c ∧ ∀ r, Uses A (next r)
  | _ => True

theorem uses_bind {A : C → Prop} (hp : Uses A p) (hf : ∀ a, Uses A (f a)) : Uses A (p >>= f) := by
  induction p with
  | done a => exact hf a
  | fail e => trivial
  | crash => trivial
  | call c next ih => exact ⟨hp.1, fun r => ih r (hp.2 r)⟩

theorem uses_invoke {A : C → Prop} {c : C} (h : A c) :
    Uses A (Action.invoke c : Action C V E (V c)) := by
  refine ⟨h, fun r => ?_⟩
  cases r <;> trivial

theorem uses_tryCall {A : C → Prop} {c : C} {k : Except E (V c) → Action C V E β} (h : A c)
    (hk : ∀ r, Uses A (k r)) : Uses A (Action.tryCall c >>= k) := ⟨h, hk⟩

theorem Uses.mono {A B : C → Prop} (hp : Uses A p) (hAB : ∀ c, A c → B c) : Uses B p := by
  induction p with
  | done a => trivial
  | fail e => trivial
  | crash => trivial
  | call c next ih => exact ⟨hAB c hp.1, fun r => ih r (hp.2 r)⟩

/-- The invariant holds where it returns. -/
theorem Returns.keeps {I : σ → Prop} {Q : α → σ → Prop} (h : Returns serve failure p s Q)
    (hp : Keeps serve failure I p) (hs : I s) : Returns serve failure p s fun a s' => Q a s' ∧ I s' := by
  obtain ⟨a, s', hrun, hQ⟩ := h
  have hI := hp s hs []
  rw [hrun] at hI
  exact ⟨a, s', hrun, hQ, hI⟩

theorem keeps_call {I : σ → Prop} {c : C} {next : Except E (V c) → Action C V E α}
    (hc : ∀ s, I s → I (serve c s).2) (hnext : ∀ r, Keeps serve failure I (next r)) :
    Keeps serve failure I (.call c next) := fun s hs =>
  holds_call.mpr ⟨hnext _ _ (hc s hs), hnext _ _ hs, hnext _ _ (hc s hs)⟩

theorem keeps_done {I : σ → Prop} (a : α) : Keeps serve failure I (.done a : Action C V E α) :=
  fun _ hs => holds_done.mpr hs

theorem keeps_fail {I : σ → Prop} (e : E) : Keeps serve failure I (.fail e : Action C V E α) :=
  fun _ hs => holds_fail.mpr hs

theorem keeps_crash {I : σ → Prop} : Keeps serve failure I (.crash : Action C V E α) :=
  fun _ hs => holds_crash.mpr hs

/-- **What each call keeps, every run keeps.** -/
theorem keeps_of_uses {A : C → Prop} {I : σ → Prop} (hA : ∀ c, A c → ∀ s, I s → I (serve c s).2)
    (hp : Uses A p) : Keeps serve failure I p := by
  induction p with
  | done a => exact fun s hs => holds_done.mpr hs
  | fail e => exact fun s hs => holds_fail.mpr hs
  | crash => exact fun s hs => holds_crash.mpr hs
  | call c next ih => exact keeps_call (hA c hp.1) fun r => ih r (hp.2 r)

theorem keeps_of_serve {I : σ → Prop} (h : ∀ c s, I s → I (serve c s).2) (p : Action C V E α) :
    Keeps serve failure I p := by
  induction p with
  | done a => exact keeps_done a
  | fail e => exact keeps_fail e
  | crash => exact keeps_crash
  | call c next ih => exact keeps_call (h c) ih

theorem keeps_bind {I : σ → Prop} (hp : Keeps serve failure I p)
    (hf : ∀ a, Keeps serve failure I (f a)) : Keeps serve failure I (p >>= f) := by
  intro s hs
  refine holds_bind.mpr ((hp s hs).mono fun o s' hs' => ?_)
  cases o with
  | returned a => exact hf a s' hs'
  | failed e => exact hs'
  | crashed => exact hs'

end Runs

/-! ## 5. Repeatable programs -/

section Repeat

-- what a run does not control: the server's choices and the order of unordered things
variable {χ : Type} (serve : χ → (c : C) → σ → Except E (V c) × σ) (failure : E)
  (p : χ → Action C V E α) (Done : σ → Prop)

/-- Every run in which nothing fails returns with the work done. -/
def Resumes (s : σ) : Prop := ∀ x, Returns (serve x) failure (p x) s fun _ s' => Done s'

/-- No run crashes; a run that returns has done the work; after a run that fails, every run in which
    nothing fails does it. -/
def Repeatable (s : σ) : Prop :=
  ∀ x, Holds (serve x) failure (p x) s fun o s' => match o with
    | .returned _ => Done s'
    | .failed _ => Resumes serve failure p Done s'
    | .crashed => False

variable {serve failure p Done}

/-- **A strict program is repeatable** from the states of an invariant from all of which it
    succeeds. -/
theorem repeatable_of_keeps {I : σ → Prop} (hstrict : ∀ x, Strict failure (p x))
    (hkeeps : ∀ x, Keeps (serve x) failure I (p x))
    (hresumes : ∀ s, I s → Resumes serve failure p Done s) {s : σ} (hs : I s) :
    Repeatable serve failure p Done s := by
  intro x faults
  have hI := hkeeps x s hs faults
  have hrun := fun faults => @Strict.run_eq _ _ _ _ _ (serve x) _ _ (hstrict x) faults s
  rcases hrun faults with ⟨e, he⟩ | heq
  · rw [he]
    exact hresumes _ hI
  · obtain ⟨a, s', hrun, hdone⟩ := hresumes s hs x
    rw [heq, hrun]
    exact hdone

/-- A part has returned and the next call is refused: the whole succeeds from there. -/
theorem Repeatable.resumes_after {γ : Type} {s : σ} (h : Repeatable serve failure p Done s) {x : χ}
    {q : Action C V E γ} {f : γ → Action C V E α} (hp : p x = q >>= f) {R : γ → σ → Prop}
    (hq : Returns (serve x) failure q s R) (hf : ∀ a, Refusable failure (f a)) :
    ∃ a s', R a s' ∧ Resumes serve failure p Done s' := by
  have hx := h x
  rw [hp] at hx
  obtain ⟨a, s', hR, hrest⟩ := (holds_bind.mp hx).returned hq
  obtain ⟨e, hfail⟩ := Holds.refused hrest (hf a)
  exact ⟨a, s', hR, hfail⟩

/-- A part has returned and the answer to the next call is lost: the whole succeeds from there. -/
theorem Repeatable.resumes_lost {γ : Type} {s : σ} (h : Repeatable serve failure p Done s) {x : χ}
    {q : Action C V E γ} {f : γ → Action C V E α} (hp : p x = q >>= f) {R : γ → σ → Prop}
    (hq : Returns (serve x) failure q s R) {c : C} (hf : ∀ a s', R a s' → Begins failure c (f a)) :
    ∃ a s', R a s' ∧ Resumes serve failure p Done (serve x c s').2 := by
  have hx := h x
  rw [hp] at hx
  obtain ⟨a, s', hR, hrest⟩ := (holds_bind.mp hx).returned hq
  obtain ⟨e, hfail⟩ := Holds.lost hrest (hf a s' hR)
  exact ⟨a, s', hR, hfail⟩

/-- A program that begins with a call succeeds from where it is. -/
theorem Repeatable.resumes {s : σ} (h : Repeatable serve failure p Done s) {x : χ}
    (hp : Refusable failure (p x)) : Resumes serve failure p Done s := by
  obtain ⟨e, hfail⟩ := Holds.refused (h x) hp
  exact hfail

/-- A program that crashes is not repeatable. -/
theorem Repeatable.not_crash {s : σ} (h : Repeatable serve failure p Done s) (x : χ) :
    p x ≠ .crash := by
  intro hp
  have hx := h x
  rw [hp] at hx
  exact holds_crash.mp hx

/-- A program that fails without a call fails again. -/
theorem Repeatable.not_fail {s : σ} (h : Repeatable serve failure p Done s) (x : χ) (e : E) :
    p x ≠ .fail e := by
  intro hp
  have hx := h x
  rw [hp] at hx
  have hagain := holds_fail.mp hx x
  rw [hp] at hagain
  exact not_returns_fail hagain

end Repeat

end Calls
