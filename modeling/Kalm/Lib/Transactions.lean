/-
  File:      Kalm/Lib/Transactions.lean
  Subject:   PROGRAMS THAT WORK ON A DATABASE in transactions: any statement may fail, and takes its own time.

  * `Call`, `Answer` -- begin, prepare, execute, commit, roll back; a statement answers with the time at which it ran;
  * `Database`, `perform` -- what is stored, what the transaction at hand has changed, and how many are left open;
  * `finish`, `within` -- the end of a transaction, behind a program that only prepares and executes statements;
  * `after_within` -- it is all or nothing, and is left open exactly when it never comes to the commit;
  * `executed_execAll` -- a program that executes statements, and returns, has executed each once;
  * `Stops` -- a program that returns, or ends with a statement that failed.
-/
import Kalm.Lib.Histories

namespace Transactions

open Calls (Action Outcome Performed Traces Uses)

variable {P Q E σ α β : Type}

/-! ## 1. Statements -/

/-- What a program asks of the database: `P` is what it prepares, `Q` what it executes. -/
inductive Call (P Q : Type) where
  | begin
  | prepare (p : P)
  | exec (q : Q)
  | commit
  | rollback

/-- The answer to a statement that is executed is the time at which it ran. -/
def Answer : Call P Q → Type
  | .exec _ => Int
  | _ => Unit

/-- A program. -/
abbrev Program (P Q E α : Type) := Action (Call P Q) Answer E α

/-- A statement, with its answer. -/
abbrev Done (P Q E : Type) := Performed (Call P Q) Answer E

/-- Statements that were executed, each at its time. -/
abbrev Changes (Q : Type) := List (Q × Int)

/-- A statement, at the time at which it ran. -/
def change (q : Q) (now : Int) : Q × Int := (q, now)

/-- What statements do. -/
def applyAll (effect : Q → Int → σ → σ) (changes : Changes Q) (s : σ) : σ :=
  changes.foldl (fun s c => effect c.1 c.2 s) s

/-- The database: what is stored, what is changed in the transaction at hand, and the transactions that are open. -/
structure Database (σ Q : Type) where
  stored : σ
  pending : Changes Q
  opened : Nat

/-- A statement takes effect. A transaction is over behind a commit, also behind one that fails. -/
def Database.perform (effect : Q → Int → σ → σ) (db : Database σ Q) : Done P Q E → Database σ Q
  | ⟨.begin, .ok _⟩ => ⟨db.stored, [], db.opened + 1⟩
  | ⟨.exec q, .ok now⟩ => ⟨db.stored, db.pending ++ [change q now], db.opened⟩
  | ⟨.commit, .ok _⟩ => ⟨applyAll effect db.pending db.stored, [], db.opened - 1⟩
  | ⟨.commit, .error _⟩ => ⟨db.stored, [], db.opened - 1⟩
  | _ => db

/-- Statements take effect, one after the other. -/
def Database.after (effect : Q → Int → σ → σ) (db : Database σ Q) (h : List (Done P Q E)) : Database σ Q :=
  h.foldl (Database.perform effect) db

/-- What was executed. -/
def executed (h : List (Done P Q E)) : Changes Q := h.filterMap fun
  | ⟨.exec q, .ok now⟩ => some (change q now)
  | _ => none

/-- The end of a transaction: when the commit fails it is rolled back. -/
def finish : Program P Q E Unit :=
  .call .commit fun
    | .ok _ => .done ()
    | .error e => .call .rollback fun
      | .ok _ => .fail e
      | .error e' => .fail e'

/-- A transaction that is begun: what is done in it, and its end. -/
def within (body : Program P Q E Unit) : Program P Q E Unit := body >>= fun _ => finish

/-- Statements, one after the other. -/
def execAll : List Q → Program P Q E Unit
  | [] => .done ()
  | q :: qs => Action.invoke (.exec q) >>= fun _ => execAll qs

/-- What may be done in a transaction. -/
def Inner : Call P Q → Prop
  | .prepare _ => True
  | .exec _ => True
  | _ => False

/-- The commit was asked for. -/
def Committed (h : List (Done P Q E)) : Prop := ∃ r, (⟨.commit, r⟩ : Done P Q E) ∈ h

variable {effect : Q → Int → σ → σ} {db : Database σ Q} {h h' : List (Done P Q E)} {o : Outcome E Unit}
  {body : Program P Q E Unit}

theorem applyAll_append (changes changes' : Changes Q) (s : σ) :
    applyAll effect (changes ++ changes') s = applyAll effect changes' (applyAll effect changes s) := List.foldl_append

theorem after_append : db.after effect (h ++ h') = (db.after effect h).after effect h' := List.foldl_append

theorem executed_append : executed (h ++ h') = executed h ++ executed h' := List.filterMap_append

/-! ## 2. Inside a transaction -/

/-- **Inside a transaction** nothing is stored: what is executed is pending. -/
theorem after_inner (hinner : ∀ x ∈ h, Inner x.1) :
    db.after effect h = ⟨db.stored, db.pending ++ executed h, db.opened⟩ := by
  induction h generalizing db with
  | nil =>
      obtain ⟨stored, pending, opened⟩ := db
      exact congrArg (Database.mk stored · opened) (List.append_nil pending).symm
  | cons x h ih =>
      obtain ⟨hx, hrest⟩ := List.forall_mem_cons.mp hinner
      rw [Database.after, List.foldl_cons, ← Database.after, ih hrest]
      obtain ⟨c, r⟩ := x
      cases c with
      | begin => exact hx.elim
      | commit => exact hx.elim
      | rollback => exact hx.elim
      | prepare p => rfl
      | exec q =>
          cases r with
          | error e => rfl
          | ok now =>
              have hexecuted : executed (⟨.exec q, .ok now⟩ :: h) = change q now :: executed h := rfl
              have happend := List.append_cons db.pending (change q now) (executed h)
              rw [hexecuted, happend]
              rfl

theorem not_committed_of_inner (hinner : ∀ x ∈ h, Inner x.1) : ¬ Committed h :=
  fun ⟨_, hmem⟩ => hinner _ hmem

variable (effect db) in
/-- **A transaction is all or nothing**: what was executed in it is stored when it returns, and nothing otherwise; it is
    left open exactly when it never comes to the commit. -/
theorem after_within (huses : Uses Inner body) (ht : Traces (within body) h o) (hpending : db.pending = []) :
    (o = .returned () ∧ Committed h ∧
        db.after effect h = ⟨applyAll effect (executed h) db.stored, [], db.opened - 1⟩) ∨
      (o ≠ .returned () ∧ Committed h ∧ db.after effect h = ⟨db.stored, [], db.opened - 1⟩) ∨
      (o ≠ .returned () ∧ ¬ Committed h ∧ (db.after effect h).stored = db.stored ∧
        (db.after effect h).opened = db.opened) := by
  rcases Calls.traces_bind.mp ht with ⟨_, h₁, h₂, rfl, hbody, hfinish⟩ | ⟨e, hbody, rfl⟩ | ⟨hbody, rfl⟩
  · have hinner := Calls.mem_of_traces huses hbody
    obtain ⟨r, rest, rfl, hrest⟩ := hfinish
    have hcommitted : Committed (h₁ ++ ⟨.commit, r⟩ :: rest) := ⟨r, List.mem_append_right _ List.mem_cons_self⟩
    rw [after_append, after_inner hinner, hpending, List.nil_append]
    cases r with
    | ok u =>
        obtain ⟨rfl, rfl⟩ := hrest
        refine Or.inl ⟨rfl, hcommitted, ?_⟩
        rw [executed_append]
        exact congrArg (fun changes => Database.mk (applyAll effect changes db.stored) [] (db.opened - 1))
          (List.append_nil _).symm
    | error e =>
        obtain ⟨r', rest', rfl, hrest'⟩ := hrest
        refine Or.inr (Or.inl ?_)
        cases r' with
        | ok u =>
            obtain ⟨rfl, rfl⟩ := hrest'
            exact ⟨nofun, hcommitted, rfl⟩
        | error e' =>
            obtain ⟨rfl, rfl⟩ := hrest'
            exact ⟨nofun, hcommitted, rfl⟩
  · have hinner := Calls.mem_of_traces huses hbody
    refine Or.inr (Or.inr ⟨nofun, not_committed_of_inner hinner, ?_, ?_⟩)
    · rw [after_inner hinner]
    · rw [after_inner hinner]
  · have hinner := Calls.mem_of_traces huses hbody
    refine Or.inr (Or.inr ⟨nofun, not_committed_of_inner hinner, ?_, ?_⟩)
    · rw [after_inner hinner]
    · rw [after_inner hinner]

/-! ## 3. Statements in a row -/

theorem uses_execAll (qs : List Q) : Uses Inner (execAll qs : Program P Q E Unit) := by
  induction qs with
  | nil => trivial
  | cons q qs ih => exact Calls.uses_bind (Calls.uses_invoke trivial) fun _ => ih

/-- **Each is executed once, in the order.** -/
theorem executed_execAll {qs : List Q} (ht : Traces (execAll qs) h (.returned ())) :
    (executed h).map Prod.fst = qs := by
  induction qs generalizing h with
  | nil =>
      obtain ⟨rfl, _⟩ := ht
      rfl
  | cons q qs ih =>
      rcases Calls.traces_invoke.mp ht with ⟨now, rest, rfl, hrest⟩ | ⟨e, _, ho⟩
      · exact congrArg (List.cons q) (ih hrest)
      · cases ho

/-! ## 4. Where a program stops -/

/-- The last statement failed. -/
def LastFailed (h : List (Done P Q E)) : Prop := ∃ front c e, h = front ++ [⟨c, .error e⟩]

/-- **A program returns, or stops at a statement that fails.** -/
def Stops (p : Program P Q E α) : Prop := ∀ h o, Traces p h o → (∃ a, o = .returned a) ∨ LastFailed h

theorem stops_done (a : α) : Stops (.done a : Program P Q E α) := fun _ _ ht => Or.inl ⟨a, ht.2⟩

theorem LastFailed.behind (hh : LastFailed h) (front : List (Done P Q E)) : LastFailed (front ++ h) := by
  obtain ⟨front', c, e, rfl⟩ := hh
  exact ⟨front ++ front', c, e, (List.append_assoc _ _ _).symm⟩

theorem stops_bind {p : Program P Q E α} {f : α → Program P Q E β} (hp : Stops p) (hf : ∀ a, Stops (f a)) :
    Stops (p >>= f) := by
  intro h o ht
  rcases Calls.traces_bind.mp ht with ⟨a, h₁, h₂, rfl, _, hrest⟩ | ⟨e, htp, _⟩ | ⟨htp, _⟩
  · exact (hf a h₂ o hrest).imp_right fun hlast => hlast.behind h₁
  · exact Or.inr ((hp h _ htp).resolve_left fun ⟨_, ho⟩ => nomatch ho)
  · exact Or.inr ((hp h _ htp).resolve_left fun ⟨_, ho⟩ => nomatch ho)

theorem stops_invoke (c : Call P Q) : Stops (Action.invoke c : Program P Q E (Answer c)) := by
  rintro h o ⟨r, rest, rfl, hrest⟩
  cases r with
  | ok v => exact Or.inl ⟨v, hrest.2⟩
  | error e =>
      obtain ⟨rfl, _⟩ := hrest
      exact Or.inr ⟨[], c, e, rfl⟩

theorem stops_execAll (qs : List Q) : Stops (execAll qs : Program P Q E Unit) := by
  induction qs with
  | nil => exact stops_done ()
  | cons q qs ih => exact stops_bind (stops_invoke _) fun _ => ih

end Transactions
