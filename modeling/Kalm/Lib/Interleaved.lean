/-
  File:      Kalm/Lib/Interleaved.lean
  Subject:   PROGRAMS AMONG OTHERS: a program makes one call at a time, and what it does with the answers is said
             by what a call can do to the part of the state it knows.

  * `run_call`, `run_invoke` -- a run is one call after the other;
  * `Guarded` -- every call the program makes is allowed, and what it returns is right, however the calls are
    answered;
  * `guarded_bind`, `guarded_invoke`, `guarded_tryCall` -- by the parts of the program.
-/
import Kalm.Lib.Calls

namespace Calls

variable {C : Type} {V : C → Type} {E α β σ ω : Type}

/-! ## 1. One call at a time -/

section Advance

variable (serve : (c : C) → σ → Except E (V c) × σ) (failure : E)

/-- The answer to a call that meets a fault, and the state behind it. -/
def meet : Fault → (c : C) → σ → Except E (V c) × σ
  | .served, c, s => serve c s
  | .refused, _, s => (.error failure, s)
  | .lost, c, s => (.error failure, (serve c s).2)

/-- The first call of a run meets the first fault. -/
theorem run_call (c : C) (next : Except E (V c) → Action C V E α) (faults : List Fault) (s : σ) :
    run serve failure (.call c next) faults s =
      run serve failure (next (meet serve failure (faults.headD .served) c s).1) faults.tail
        (meet serve failure (faults.headD .served) c s).2 := by
  cases faults with
  | nil => rfl
  | cons fault faults => cases fault <;> rfl

/-- A call whose error the program returns is answered, or the run ends. -/
theorem run_invoke (c : C) (k : V c → Action C V E α) (faults : List Fault) (s : σ) :
    (∃ v, (meet serve failure (faults.headD .served) c s).1 = .ok v ∧
      run serve failure (Action.invoke c >>= k) faults s =
        run serve failure (k v) faults.tail (meet serve failure (faults.headD .served) c s).2) ∨
    ∃ e, (meet serve failure (faults.headD .served) c s).1 = .error e ∧
      run serve failure (Action.invoke c >>= k) faults s =
        (.failed e, (meet serve failure (faults.headD .served) c s).2) := by
  unfold Action.invoke
  rw [Action.call_bind, run_call]
  cases (meet serve failure (faults.headD .served) c s).1 with
  | ok v => exact Or.inl ⟨v, rfl, rfl⟩
  | error e => exact Or.inr ⟨e, rfl, rfl⟩

/-- A call that the server answers: the fault decides how the program goes on. -/
theorem run_invoke_ok {c : C} {s t : σ} {v : V c} (h : serve c s = (.ok v, t)) (k : V c → Action C V E α)
    (faults : List Fault) : run serve failure (Action.invoke c >>= k) faults s =
      match faults.headD .served with
      | .served => run serve failure (k v) faults.tail t
      | .refused => (.failed failure, s)
      | .lost => (.failed failure, t) := by
  unfold Action.invoke
  rw [Action.call_bind, run_call]
  cases faults.headD .served with
  | served => rw [meet, h]; rfl
  | refused => rfl
  | lost => rw [meet, h]; rfl

/-- What a call answers, as the end of a program. -/
def answered {v : Type} : Except E v → Outcome E v
  | .ok a => .returned a
  | .error e => .failed e

/-- The last call of a program. -/
theorem run_invoke_end (c : C) (faults : List Fault) (s : σ) :
    run serve failure (Action.invoke c) faults s =
      (answered (meet serve failure (faults.headD .served) c s).1,
        (meet serve failure (faults.headD .served) c s).2) := by
  unfold Action.invoke
  rw [run_call]
  cases (meet serve failure (faults.headD .served) c s).1 <;> rfl

/-- A program of one call. -/
theorem run_invoke_only (c : C) (fault : Fault) (s : σ) :
    run serve failure (Action.invoke c) [fault] s =
      (answered (meet serve failure fault c s).1, (meet serve failure fault c s).2) :=
  run_invoke_end serve failure c [fault] s

/-- What becomes of the state: the call is served, or nothing happens. -/
theorem meet_state (fault : Fault) (c : C) (s : σ) :
    (meet serve failure fault c s).2 = s ∨ (meet serve failure fault c s).2 = (serve c s).2 := by
  cases fault with
  | served => exact Or.inr rfl
  | refused => exact Or.inl rfl
  | lost => exact Or.inr rfl

/-- An answer that is no failure is the server's. -/
theorem meet_answer {fault : Fault} {c : C} {s : σ} {r : Except E (V c)}
    (h : (meet serve failure fault c s).1 = r) (hr : r ≠ .error failure) :
    fault = .served ∧ (serve c s).1 = r := by
  cases fault with
  | served => exact ⟨rfl, h⟩
  | refused => exact absurd h.symm hr
  | lost => exact absurd h.symm hr

end Advance

/-- The program has made its last call. -/
def Action.ended : Action C V E α → Bool
  | .call .. => false
  | _ => true

/-! ## 2. Guards -/

/-- Every call satisfies `ok` of what is known before it, and `Q` holds of what the program returns, when a call
    does to what is known what `eff` says. -/
def Guarded (ok : C → ω → Prop) (eff : (c : C) → Except E (V c) → ω → ω → Prop) (Q : α → ω → Prop) :
    Action C V E α → ω → Prop
  | .done a, x => Q a x
  | .fail _, _ => True
  | .crash, _ => True
  | .call c next, x => ok c x ∧ ∀ r y, eff c r x y → Guarded ok eff Q (next r) y

section Guarded

variable {ok : C → ω → Prop} {eff : (c : C) → Except E (V c) → ω → ω → Prop} {Q : α → ω → Prop}
  {R : β → ω → Prop} {p : Action C V E α} {f : α → Action C V E β} {x : ω}

theorem Guarded.mono {Q' : α → ω → Prop} (h : Guarded ok eff Q p x) (hQ : ∀ a y, Q a y → Q' a y) :
    Guarded ok eff Q' p x := by
  induction p generalizing x with
  | done a => exact hQ a x h
  | fail e => trivial
  | crash => trivial
  | call c next ih => exact ⟨h.1, fun r y hr => ih r (h.2 r y hr)⟩

/-- **One part after the other.** -/
theorem guarded_bind (h : Guarded ok eff (fun a y => Guarded ok eff R (f a) y) p x) :
    Guarded ok eff R (p >>= f) x := by
  induction p generalizing x with
  | done a => exact h
  | fail e => trivial
  | crash => trivial
  | call c next ih => exact ⟨h.1, fun r y hr => ih r (h.2 r y hr)⟩

theorem guarded_tryCall {c : C} {k : Except E (V c) → Action C V E β} (hok : ok c x)
    (hk : ∀ r y, eff c r x y → Guarded ok eff R (k r) y) : Guarded ok eff R (Action.tryCall c >>= k) x := ⟨hok, hk⟩

theorem guarded_invoke {c : C} {k : V c → Action C V E β} (hok : ok c x)
    (hk : ∀ v y, eff c (.ok v) x y → Guarded ok eff R (k v) y) : Guarded ok eff R (Action.invoke c >>= k) x := by
  refine ⟨hok, fun r y hr => ?_⟩
  cases r with
  | ok v => exact hk v y hr
  | error e => trivial

/-- A call at the end of a program. -/
theorem guarded_last {c : C} {Q : V c → ω → Prop} (hok : ok c x) (hQ : ∀ v y, eff c (.ok v) x y → Q v y) :
    Guarded ok eff Q (Action.invoke c : Action C V E (V c)) x := by
  refine ⟨hok, fun r y hr => ?_⟩
  cases r with
  | ok v => exact hQ v y hr
  | error e => trivial

end Guarded

end Calls
