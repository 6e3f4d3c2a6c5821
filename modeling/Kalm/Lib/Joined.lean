/-
  File:      Kalm/Lib/Joined.lean
  Subject:   TWO PROGRAMS AT ONE TIME, each with calls about objects of its own; when it has made its last call, a
             program assigns what it comes to, and may assign it to a variable of both.

  * `Side`, `Half`, `Thread`, `Half.step` -- one program: a call, or the assignment at its end;
  * `exec`, `Ends` -- both of them, in any order of their steps, until both have assigned;
  * `Thread.result` -- what a program comes to alone; `result_step` says that no step changes it;
  * `ends_iff` -- **they end as they would alone**, and either of them assigns last.
-/
import Kalm.Lib.Interleaved

namespace Joined

open Calls (Action Fault Outcome meet run)

variable {C C' : Type} {V : C → Type} {V' : C' → Type} {E E' α β σ τ ω : Type}

/-! ## 1. One program -/

/-- The two programs. -/
inductive Side where
  | left
  | right
  deriving DecidableEq

/-- What a program is up against: the server of its objects, and where its outcome goes. -/
structure Half (C : Type) (V : C → Type) (E α σ ω : Type) where
  serve : (c : C) → σ → Except E (V c) × σ
  failure : E
  assign : Outcome E α → ω → ω

/-- A program on its way: what it still does, if it has not assigned; what will become of its calls; its objects. -/
structure Thread (C : Type) (V : C → Type) (E α σ : Type) where
  program : Option (Action C V E α)
  faults : List Fault
  state : σ

/-- The program has assigned. -/
def Thread.over (t : Thread C V E α σ) : Prop := t.program = none

/-- One step of it. -/
def Half.step (h : Half C V E α σ ω) (t : Thread C V E α σ) (v : ω) : Thread C V E α σ × ω :=
  match t.program with
  | none => (t, v)
  | some (.call c next) =>
    let answer := meet h.serve h.failure (t.faults.headD .served) c t.state
    (⟨some (next answer.1), t.faults.tail, answer.2⟩, v)
  | some (.done a) => (⟨none, t.faults, t.state⟩, h.assign (.returned a) v)
  | some (.fail e) => (⟨none, t.faults, t.state⟩, h.assign (.failed e) v)
  | some .crash => (⟨none, t.faults, t.state⟩, h.assign .crashed v)

/-- What it comes to alone: its outcome, if that is not assigned yet, and its objects. -/
def Thread.result (h : Half C V E α σ ω) (t : Thread C V E α σ) : Option (Outcome E α) × σ :=
  match t.program with
  | none => (none, t.state)
  | some p => (some (run h.serve h.failure p t.faults t.state).1, (run h.serve h.failure p t.faults t.state).2)

/-- An outcome is assigned, if there is one. -/
def Half.assignSome (h : Half C V E α σ ω) : Option (Outcome E α) → ω → ω
  | none => id
  | some o => h.assign o

variable {h : Half C V E α σ ω} {t : Thread C V E α σ} {v : ω}

theorem result_of_over (ht : t.over) : t.result h = (none, t.state) := by
  rw [Thread.result, ht]

/-- **A step changes nothing of what a program comes to**: it goes on, or it assigns. -/
theorem result_step (h : Half C V E α σ ω) (t : Thread C V E α σ) (v : ω) :
    ((h.step t v).1.result h).2 = (t.result h).2 ∧
      (((h.step t v).1.result h).1 = (t.result h).1 ∧ (h.step t v).2 = v ∨
        ((h.step t v).1.result h).1 = none ∧ (h.step t v).2 = h.assignSome (t.result h).1 v) := by
  rcases t with ⟨program, faults, s⟩
  cases program with
  | none => exact ⟨rfl, Or.inl ⟨rfl, rfl⟩⟩
  | some p =>
      cases p with
      | done a => exact ⟨rfl, Or.inr ⟨rfl, rfl⟩⟩
      | fail e => exact ⟨rfl, Or.inr ⟨rfl, rfl⟩⟩
      | crash => exact ⟨rfl, Or.inr ⟨rfl, rfl⟩⟩
      | call c next =>
          have hrun := Calls.run_call h.serve h.failure c next faults s
          exact ⟨(congrArg Prod.snd hrun).symm, Or.inl ⟨(congrArg (fun x => some (Prod.fst x)) hrun).symm, rfl⟩⟩

/-- Several steps. -/
def Half.steps (h : Half C V E α σ ω) : Nat → Thread C V E α σ × ω → Thread C V E α σ × ω
  | 0, x => x
  | n + 1, x => h.steps n (h.step x.1 x.2)

/-- **It comes to an end.** -/
theorem exists_steps (h : Half C V E α σ ω) (t : Thread C V E α σ) (v : ω) :
    ∃ n, h.steps n (t, v) = (⟨none, (h.steps n (t, v)).1.faults, (t.result h).2⟩, h.assignSome (t.result h).1 v) := by
  rcases t with ⟨program, faults, s⟩
  cases program with
  | none => exact ⟨0, rfl⟩
  | some p =>
      induction p generalizing faults s with
      | done a => exact ⟨1, rfl⟩
      | fail e => exact ⟨1, rfl⟩
      | crash => exact ⟨1, rfl⟩
      | call c next ih =>
          obtain ⟨n, hn⟩ := ih (meet h.serve h.failure (faults.headD .served) c s).1 faults.tail
            (meet h.serve h.failure (faults.headD .served) c s).2
          have hrun := Calls.run_call h.serve h.failure c next faults s
          have hresult : Thread.result h ⟨some (.call c next), faults, s⟩ = Thread.result h
              ⟨some (next (meet h.serve h.failure (faults.headD .served) c s).1), faults.tail,
                (meet h.serve h.failure (faults.headD .served) c s).2⟩ :=
            congrArg (fun x => (some (Prod.fst x), Prod.snd x)) hrun
          refine ⟨n + 1, ?_⟩
          rw [hresult]
          exact hn

/-! ## 2. Both -/

section Both

variable (l : Half C V E α σ ω) (r : Half C' V' E' β τ ω)

/-- The steps in their order. -/
def exec : List Side → Thread C V E α σ → Thread C' V' E' β τ → ω →
    Thread C V E α σ × Thread C' V' E' β τ × ω
  | [], t, u, v => (t, u, v)
  | .left :: schedule, t, u, v => exec schedule (l.step t v).1 u (l.step t v).2
  | .right :: schedule, t, u, v => exec schedule t (r.step u v).1 (r.step u v).2

/-- In some order of their steps both come to an end, with these objects and this variable. -/
def Ends (t : Thread C V E α σ) (u : Thread C' V' E' β τ) (v : ω) (x : σ) (y : τ) (w : ω) : Prop :=
  ∃ schedule, (exec l r schedule t u v).1.over ∧ (exec l r schedule t u v).2.1.over ∧
    (exec l r schedule t u v).1.state = x ∧ (exec l r schedule t u v).2.1.state = y ∧
    (exec l r schedule t u v).2.2 = w

end Both

variable {l : Half C V E α σ ω} {r : Half C' V' E' β τ ω} {u : Thread C' V' E' β τ} {x : σ} {y : τ} {w : ω}

/-- Whatever the order, each comes to what it comes to alone, and one of them assigns last. -/
theorem exec_spec (schedule : List Side) (t : Thread C V E α σ) (u : Thread C' V' E' β τ) (v : ω)
    (ht : (exec l r schedule t u v).1.over) (hu : (exec l r schedule t u v).2.1.over) :
    (exec l r schedule t u v).1.state = (t.result l).2 ∧ (exec l r schedule t u v).2.1.state = (u.result r).2 ∧
      ((exec l r schedule t u v).2.2 = r.assignSome (u.result r).1 (l.assignSome (t.result l).1 v) ∨
        (exec l r schedule t u v).2.2 = l.assignSome (t.result l).1 (r.assignSome (u.result r).1 v)) := by
  induction schedule generalizing t u v with
  | nil =>
      have hleft : t.result l = (none, t.state) := result_of_over ht
      have hright : u.result r = (none, u.state) := result_of_over hu
      rw [hleft, hright]
      exact ⟨rfl, rfl, Or.inl rfl⟩
  | cons side schedule ih =>
      cases side with
      | left =>
          obtain ⟨hx, hy, hw⟩ := ih (l.step t v).1 u (l.step t v).2 ht hu
          obtain ⟨hstate, hstep⟩ := result_step l t v
          refine ⟨hx.trans hstate, hy, ?_⟩
          rw [exec]
          rcases hstep with ⟨houtcome, hv⟩ | ⟨houtcome, hv⟩
          · rw [houtcome, hv] at hw
            rwa [hv]
          · rw [houtcome, hv] at hw
            rw [hv]
            exact Or.inl (hw.elim (fun e => e) fun e => e)
      | right =>
          obtain ⟨hx, hy, hw⟩ := ih t (r.step u v).1 (r.step u v).2 ht hu
          obtain ⟨hstate, hstep⟩ := result_step r u v
          refine ⟨hx, hy.trans hstate, ?_⟩
          rw [exec]
          rcases hstep with ⟨houtcome, hv⟩ | ⟨houtcome, hv⟩
          · rw [houtcome, hv] at hw
            rwa [hv]
          · rw [houtcome, hv] at hw
            rw [hv]
            exact Or.inr (hw.elim (fun e => e) fun e => e)

theorem exec_append (first second : List Side) (t : Thread C V E α σ) (u : Thread C' V' E' β τ) (v : ω) :
    exec l r (first ++ second) t u v = exec l r second (exec l r first t u v).1 (exec l r first t u v).2.1
      (exec l r first t u v).2.2 := by
  induction first generalizing t u v with
  | nil => rfl
  | cons side first ih => cases side <;> exact ih ..

theorem exec_left (n : Nat) (t : Thread C V E α σ) (u : Thread C' V' E' β τ) (v : ω) :
    exec l r (List.replicate n .left) t u v = ((l.steps n (t, v)).1, u, (l.steps n (t, v)).2) := by
  induction n generalizing t v with
  | zero => rfl
  | succ n ih => exact ih ..

theorem exec_right (n : Nat) (t : Thread C V E α σ) (u : Thread C' V' E' β τ) (v : ω) :
    exec l r (List.replicate n .right) t u v = (t, (r.steps n (u, v)).1, (r.steps n (u, v)).2) := by
  induction n generalizing u v with
  | zero => rfl
  | succ n ih => exact ih ..

/-- **Two programs end as they would alone**, and either of them may be the last to assign. -/
theorem ends_iff : Ends l r t u v x y w ↔ x = (t.result l).2 ∧ y = (u.result r).2 ∧
    (w = r.assignSome (u.result r).1 (l.assignSome (t.result l).1 v) ∨
      w = l.assignSome (t.result l).1 (r.assignSome (u.result r).1 v)) := by
  constructor
  · intro hends
    obtain ⟨schedule, ht, hu, rfl, rfl, rfl⟩ := hends
    exact exec_spec schedule t u v ht hu
  · intro hends
    obtain ⟨rfl, rfl, rfl | rfl⟩ := hends
    · -- the left one first
      obtain ⟨n, hn⟩ := exists_steps l t v
      obtain ⟨m, hm⟩ := exists_steps r u (l.assignSome (t.result l).1 v)
      refine ⟨List.replicate n .left ++ List.replicate m .right, ?_⟩
      rw [exec_append, exec_left, exec_right, hn, hm]
      exact ⟨rfl, rfl, rfl, rfl, rfl⟩
    · obtain ⟨m, hm⟩ := exists_steps r u v
      obtain ⟨n, hn⟩ := exists_steps l t (r.assignSome (u.result r).1 v)
      refine ⟨List.replicate m .right ++ List.replicate n .left, ?_⟩
      rw [exec_append, exec_right, exec_left, hm, hn]
      exact ⟨rfl, rfl, rfl, rfl, rfl⟩

end Joined
