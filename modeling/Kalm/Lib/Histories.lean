/-
  File:      Kalm/Lib/Histories.lean
  Subject:   HISTORIES OF PROGRAMS THAT CALL A SERVER: the calls of a run with their answers, whatever these are.

  * `Traces` -- the program makes these calls, is answered so, and ends so; every answer is possible;
  * `traces_bind` -- one part after the other; `traces_tryCall`, `traces_invoke`, `traces_last` -- one call;
  * `history`, `traces_history` -- every run against a server, with or without faults, follows its history;
  * `Preceded` -- what stands before each call of a history; `Cautious` -- of every history of a program;
  * `Action.via`, `traces_via` -- a program as one that calls more than its own server.
-/
import Kalm.Lib.Calls

namespace Calls

/-! ## 1. What a program follows -/

variable {C : Type} {V : C → Type} {E α β σ : Type}

/-- A call and its answer. -/
abbrev Performed (C : Type) (V : C → Type) (E : Type) := (c : C) × Except E (V c)

/-- The program makes the calls, is answered so, and ends so. -/
def Traces : Action C V E α → List (Performed C V E) → Outcome E α → Prop
  | .done a, h, o => h = [] ∧ o = .returned a
  | .fail e, h, o => h = [] ∧ o = .failed e
  | .crash, h, o => h = [] ∧ o = .crashed
  | .call c next, h, o => ∃ r rest, h = ⟨c, r⟩ :: rest ∧ Traces (next r) rest o

variable {p : Action C V E α} {f : α → Action C V E β} {h : List (Performed C V E)}

theorem traces_call {c : C} {next : Except E (V c) → Action C V E α} {o : Outcome E α} :
    Traces (.call c next) h o ↔ ∃ r rest, h = ⟨c, r⟩ :: rest ∧ Traces (next r) rest o := Iff.rfl

/-- **One part after the other.** -/
theorem traces_bind {o : Outcome E β} :
    Traces (p >>= f) h o ↔
      (∃ a h₁ h₂, h = h₁ ++ h₂ ∧ Traces p h₁ (.returned a) ∧ Traces (f a) h₂ o) ∨
        (∃ e, Traces p h (.failed e) ∧ o = .failed e) ∨ (Traces p h .crashed ∧ o = .crashed) := by
  induction p generalizing h with
  | done a =>
      rw [Action.done_bind]
      constructor
      · exact fun hf => Or.inl ⟨a, [], h, rfl, ⟨rfl, rfl⟩, hf⟩
      · rintro (⟨b, h₁, h₂, rfl, ⟨rfl, hb⟩, hf⟩ | ⟨e, ⟨_, he⟩, _⟩ | ⟨⟨_, hc⟩, _⟩)
        · cases hb
          exact hf
        · cases he
        · cases hc
  | fail e =>
      rw [Action.fail_bind]
      constructor
      · exact fun ⟨hnil, ho⟩ => Or.inr (Or.inl ⟨e, ⟨hnil, rfl⟩, ho⟩)
      · rintro (⟨b, h₁, h₂, rfl, ⟨rfl, hb⟩, hf⟩ | ⟨e', ⟨hnil, he⟩, ho⟩ | ⟨⟨_, hc⟩, _⟩)
        · cases hb
        · cases he
          exact ⟨hnil, ho⟩
        · cases hc
  | crash =>
      rw [Action.crash_bind]
      constructor
      · exact fun ⟨hnil, ho⟩ => Or.inr (Or.inr ⟨⟨hnil, rfl⟩, ho⟩)
      · rintro (⟨b, h₁, h₂, rfl, ⟨rfl, hb⟩, hf⟩ | ⟨e, ⟨_, he⟩, _⟩ | ⟨⟨hnil, _⟩, ho⟩)
        · cases hb
        · cases he
        · exact ⟨hnil, ho⟩
  | call c next ih =>
      rw [Action.call_bind]
      constructor
      · rintro ⟨r, rest, rfl, hrest⟩
        rcases ih r |>.mp hrest with ⟨a, h₁, h₂, rfl, hp, hf⟩ | ⟨e, hp, ho⟩ | ⟨hp, ho⟩
        · exact Or.inl ⟨a, ⟨c, r⟩ :: h₁, h₂, rfl, ⟨r, h₁, rfl, hp⟩, hf⟩
        · exact Or.inr (Or.inl ⟨e, ⟨r, rest, rfl, hp⟩, ho⟩)
        · exact Or.inr (Or.inr ⟨⟨r, rest, rfl, hp⟩, ho⟩)
      · rintro (⟨a, h₁, h₂, rfl, ⟨r, rest, rfl, hp⟩, hf⟩ | ⟨e, ⟨r, rest, rfl, hp⟩, ho⟩ | ⟨⟨r, rest, rfl, hp⟩, ho⟩)
        · exact ⟨r, rest ++ h₂, rfl, (ih r).mpr (Or.inl ⟨a, rest, h₂, rfl, hp, hf⟩)⟩
        · exact ⟨r, rest, rfl, (ih r).mpr (Or.inr (Or.inl ⟨e, hp, ho⟩))⟩
        · exact ⟨r, rest, rfl, (ih r).mpr (Or.inr (Or.inr ⟨hp, ho⟩))⟩

/-- **One part after the other**, when the program returns. -/
theorem traces_bind_returned {b : β} : Traces (p >>= f) h (.returned b) ↔
    ∃ a h₁ h₂, h = h₁ ++ h₂ ∧ Traces p h₁ (.returned a) ∧ Traces (f a) h₂ (.returned b) := by
  rw [traces_bind]
  refine or_iff_left ?_
  rintro (⟨e, _, ho⟩ | ⟨_, ho⟩)
  · cases ho
  · cases ho

/-- A call whose error the program looks at. -/
theorem traces_tryCall {c : C} {k : Except E (V c) → Action C V E α} {o : Outcome E α} :
    Traces (Action.tryCall c >>= k) h o ↔ ∃ r rest, h = ⟨c, r⟩ :: rest ∧ Traces (k r) rest o := Iff.rfl

/-- A call whose error the program returns. -/
theorem traces_invoke {c : C} {k : V c → Action C V E α} {o : Outcome E α} :
    Traces (Action.invoke c >>= k) h o ↔
      (∃ v rest, h = ⟨c, .ok v⟩ :: rest ∧ Traces (k v) rest o) ∨ ∃ e, h = [⟨c, .error e⟩] ∧ o = .failed e := by
  unfold Action.invoke
  rw [Action.call_bind, traces_call]
  constructor
  · rintro ⟨r, rest, rfl, hrest⟩
    cases r with
    | ok v => exact Or.inl ⟨v, rest, rfl, hrest⟩
    | error e =>
        obtain ⟨rfl, ho⟩ := hrest
        exact Or.inr ⟨e, rfl, ho⟩
  · rintro (⟨v, rest, rfl, hrest⟩ | ⟨e, rfl, ho⟩)
    · exact ⟨.ok v, rest, rfl, hrest⟩
    · exact ⟨.error e, [], rfl, rfl, ho⟩

/-- A program that returned goes on with what its call was answered. -/
theorem traces_invoke_returned {c : C} {k : V c → Action C V E α} {a : α} :
    Traces (Action.invoke c >>= k) h (.returned a) ↔
      ∃ v rest, h = ⟨c, .ok v⟩ :: rest ∧ Traces (k v) rest (.returned a) :=
  traces_invoke.trans (or_iff_left fun ⟨_, _, ho⟩ => nomatch ho)

/-- A last call that returned was answered. -/
theorem traces_last {c : C} {v : V c} :
    Traces (Action.invoke c : Action C V E (V c)) h (.returned v) ↔ h = [⟨c, .ok v⟩] := by
  constructor
  · rintro ⟨r, rest, rfl, hrest⟩
    cases r with
    | ok v' =>
        obtain ⟨rfl, ho⟩ := hrest
        cases ho
        rfl
    | error e => cases hrest.2
  · rintro rfl
    exact ⟨.ok v, [], rfl, rfl, rfl⟩

section Runs

variable (serve : (c : C) → σ → Except E (V c) × σ) (failure : E)

/-- The history of a run. -/
def history : Action C V E α → List Fault → σ → List (Performed C V E)
  | .done _, _, _ => []
  | .fail _, _, _ => []
  | .crash, _, _ => []
  | .call c next, [], s => ⟨c, (serve c s).1⟩ :: history (next (serve c s).1) [] (serve c s).2
  | .call c next, .served :: faults, s => ⟨c, (serve c s).1⟩ :: history (next (serve c s).1) faults (serve c s).2
  | .call c next, .refused :: faults, s => ⟨c, .error failure⟩ :: history (next (.error failure)) faults s
  | .call c next, .lost :: faults, s => ⟨c, .error failure⟩ :: history (next (.error failure)) faults (serve c s).2

/-- **Every run follows its history.** -/
theorem traces_history (p : Action C V E α) (faults : List Fault) (s : σ) :
    Traces p (history serve failure p faults s) (run serve failure p faults s).1 := by
  induction p generalizing faults s with
  | done a => exact ⟨rfl, rfl⟩
  | fail e => exact ⟨rfl, rfl⟩
  | crash => exact ⟨rfl, rfl⟩
  | call c next ih =>
      cases faults with
      | nil => exact ⟨_, _, rfl, ih _ _ _⟩
      | cons fault faults =>
          cases fault with
          | served => exact ⟨_, _, rfl, ih _ _ _⟩
          | refused => exact ⟨_, _, rfl, ih _ _ _⟩
          | lost => exact ⟨_, _, rfl, ih _ _ _⟩

end Runs

/-! ## 2. What came before -/

section Preceded

variable {ι : Type} {P : List ι → ι → Prop}

/-- Of each item and those before it `P` holds. -/
def Preceded (P : List ι → ι → Prop) (items : List ι) : Prop :=
  ∀ before item after, items = before ++ item :: after → P before item

theorem preceded_nil : Preceded P [] := by
  intro before item after h
  cases before <;> cases h

theorem preceded_cons {item : ι} {items : List ι} :
    Preceded P (item :: items) ↔ P [] item ∧ Preceded (fun before => P (item :: before)) items := by
  constructor
  · intro h
    refine ⟨h [] item items rfl, fun before i after he => ?_⟩
    exact h (item :: before) i after (congrArg (item :: ·) he)
  · intro ⟨hfirst, hrest⟩ before i after he
    cases before with
    | nil =>
        cases he
        exact hfirst
    | cons first before =>
        obtain ⟨rfl, hitems⟩ := List.cons.inj he
        exact hrest before i after hitems

theorem preceded_append {front items : List ι} :
    Preceded P (front ++ items) ↔ Preceded P front ∧ Preceded (fun before => P (front ++ before)) items := by
  induction front generalizing P with
  | nil => exact (and_iff_right preceded_nil).symm
  | cons first front ih => rw [List.cons_append, preceded_cons, preceded_cons, ih, and_assoc]; rfl

/-- Nothing has to come before the items of a list of which nothing is asked. -/
theorem preceded_of_forall {items : List ι} (h : ∀ item ∈ items, ∀ before, P before item) : Preceded P items := by
  intro before item after he
  exact h item (he ▸ List.mem_append_right before List.mem_cons_self) before

end Preceded

/-! ## 3. Programs and what comes before their calls -/

section Cautious

variable {P : List (Performed C V E) → Performed C V E → Prop} {before : List (Performed C V E)}

/-- A program makes the calls that it uses. -/
theorem mem_of_traces {A : C → Prop} {o : Outcome E α} (hp : Uses A p) (ht : Traces p h o) : ∀ x ∈ h, A x.1 := by
  induction p generalizing h with
  | done a =>
      rw [ht.1]
      exact fun _ hx => absurd hx List.not_mem_nil
  | fail e =>
      rw [ht.1]
      exact fun _ hx => absurd hx List.not_mem_nil
  | crash =>
      rw [ht.1]
      exact fun _ hx => absurd hx List.not_mem_nil
  | call c next ih =>
      obtain ⟨r, rest, rfl, hrest⟩ := ht
      exact List.forall_mem_cons.mpr ⟨hp.1, ih r (hp.2 r) hrest⟩

/-- Behind some calls, every call of the program has before it what it has to have, however the calls are answered. -/
def Cautious (P : List (Performed C V E) → Performed C V E → Prop) (before : List (Performed C V E))
    (p : Action C V E α) : Prop :=
  ∀ h o, Traces p h o → Preceded (fun front => P (before ++ front)) h

/-- **One part after the other.** -/
theorem cautious_bind (hp : Cautious P before p)
    (hf : ∀ a h, Traces p h (.returned a) → Cautious P (before ++ h) (f a)) : Cautious P before (p >>= f) := by
  intro h o ht
  rcases traces_bind.mp ht with ⟨a, h₁, h₂, rfl, hreturned, hrest⟩ | ⟨e, hfailed, _⟩ | ⟨hcrashed, _⟩
  · refine preceded_append.mpr ⟨hp _ _ hreturned, ?_⟩
    have hback := hf a h₁ hreturned h₂ o hrest
    simp only [List.append_assoc] at hback
    exact hback
  · exact hp _ _ hfailed
  · exact hp _ _ hcrashed

theorem cautious_done (a : α) : Cautious P before (.done a : Action C V E α) := by
  rintro h o ⟨rfl, _⟩
  exact preceded_nil

/-- Where every call that it uses may stand, a program is cautious. -/
theorem cautious_of_uses {A : C → Prop} (hp : Uses A p)
    (hA : ∀ c r front, A c → P (before ++ front) ⟨c, r⟩) : Cautious P before p := by
  intro h o ht
  exact preceded_of_forall fun x hx front => hA x.1 x.2 front (mem_of_traces hp ht x hx)

end Cautious

/-! ## 4. Programs that call a part of a server -/

section Via

variable {C' : Type} {V' : C' → Type} {wrap : C → C'} {q : Action C (fun c => V' (wrap c)) E α}

/-- A program, with its calls as calls of another kind. -/
def Action.via (wrap : C → C') : Action C (fun c => V' (wrap c)) E α → Action C' V' E α
  | .done a => .done a
  | .fail e => .fail e
  | .crash => .crash
  | .call c next => .call (wrap c) fun r => (next r).via wrap

theorem uses_via {A : C' → Prop} (h : ∀ c, A (wrap c)) (q : Action C (fun c => V' (wrap c)) E α) :
    Uses A (q.via wrap) := by
  induction q with
  | done a => trivial
  | fail e => trivial
  | crash => trivial
  | call c next ih => exact ⟨h c, ih⟩

/-- A history of the program as one of calls of another kind. -/
theorem traces_via {h : List (Performed C' V' E)} {o : Outcome E α} (ht : Traces (q.via wrap) h o) :
    ∃ h', Traces q h' o ∧ h = h'.map fun x => ⟨wrap x.1, x.2⟩ := by
  induction q generalizing h with
  | done a => exact ⟨[], ⟨rfl, ht.2⟩, ht.1⟩
  | fail e => exact ⟨[], ⟨rfl, ht.2⟩, ht.1⟩
  | crash => exact ⟨[], ⟨rfl, ht.2⟩, ht.1⟩
  | call c next ih =>
      obtain ⟨r, rest, rfl, hrest⟩ := ht
      obtain ⟨h', ht', rfl⟩ := ih r hrest
      exact ⟨⟨c, r⟩ :: h', ⟨r, h', rfl, ht'⟩, rfl⟩

end Via

end Calls
