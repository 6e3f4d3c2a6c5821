/-
  File:      Kalm/Lib/Served.lean
  Subject:   PROGRAMS OVER AN OBJECT SERVER whose calls can fail: what a single call leaves, and what a program
             that never deletes an object leaves of it.

  * `meet_get`, `meet_list` -- a call that reads;
  * `run_attempt_get`, `run_create`, `returned_create` -- a program that begins with a read, or with a create;
  * `DeletesOnly`, `get_isSome_of_uses`, `LeavesKind`, `get_eq_of_uses` -- what is not deleted stays, and what is not
    written stays as it is;
  * `holds_find`, `holds_save`, `holds_deleteLoaded`, `holds_attemptSave` -- the ends of every run of a part;
  * `ensure`, `CreatesWanted`, `Filled` -- a program that creates what it wants and does not find, and the state
    behind any of its runs (`filled_of_uses`).
-/
import Kalm.Lib.Interleaved
import Kalm.Lib.Objects

namespace Calls

theorem headD_eq_getD (faults : List Fault) : faults.headD .served = faults.getD 0 .served := by
  cases faults <;> rfl

theorem tail_getD (faults : List Fault) (i : Nat) : faults.tail.getD i .served = faults.getD (i + 1) .served := by
  cases faults <;> rfl

end Calls

namespace Objects

open Calls (Action Fault Uses run meet)

variable {S : Schema} {α : Type}

/-! ## 1. Reads -/

theorem meet_get (fault : Fault) (s : State S) (k : S.Kind) (key : S.Key) :
    (meet serve .unavailable fault (.get k key) s).2 = s := by
  rcases Calls.meet_state serve .unavailable fault (.get k key) s with h | h
  · exact h
  · rw [h, serve_get_state]

theorem meet_list (fault : Fault) (s : State S) (k : S.Kind) :
    (meet serve .unavailable fault (.list k) s).2 = s := by
  rcases Calls.meet_state serve .unavailable fault (.list k) s with h | h
  · exact h
  · rw [h, serve]

/-- A read whose error the program looks at. -/
theorem run_attempt_get (k : S.Kind) (key : S.Key) (p : Except Error (Versioned S k) → Task S α)
    (faults : List Fault) (s : State S) :
    run serve .unavailable ((Action.tryCall (Call.get k key) : Task S (Except Error (Versioned S k))) >>= p) faults
        s =
      run serve .unavailable (p (meet serve .unavailable (faults.headD .served) (.get k key) s).1) faults.tail s := by
  have hrun := Calls.run_call serve Error.unavailable (.get k key) p faults s
  rwa [meet_get] at hrun

/-! ## 2. Creates -/

/-- The object can be created. -/
def Creatable (s : State S) {k : S.Kind} (obj : S.Obj k) : Prop := S.valid obj = true ∧ s.get k (S.key obj) = none

theorem serve_create {s : State S} {k : S.Kind} {obj : S.Obj k} (h : Creatable s obj) :
    serve (.create k obj) s = (.ok (), s.put k obj) := by
  have hfree : ¬ (s.get k (S.key obj)).isSome = true := by
    rw [h.2]
    exact Bool.false_ne_true
  rw [serve, if_neg (by rw [h.1]; exact Bool.noConfusion), if_neg hfree]

theorem serve_create_error {s : State S} {k : S.Kind} {obj : S.Obj k} (h : ¬ Creatable s obj) :
    ∃ e, serve (.create k obj) s = (.error e, s) := by
  rw [serve]
  split
  · exact ⟨_, rfl⟩
  · rename_i hvalid
    split
    · exact ⟨_, rfl⟩
    · rename_i hfree
      exact absurd ⟨Bool.not_eq_false _ ▸ hvalid, Option.not_isSome_iff_eq_none.mp hfree⟩ h

/-- **A create** is answered, or its answer is lost, or it stores nothing. -/
theorem meet_create_cases {k : S.Kind} (obj : S.Obj k) (fault : Fault) (s : State S) :
    (fault = .served ∧ Creatable s obj ∧ meet serve .unavailable fault (.create k obj) s = (.ok (), s.put k obj)) ∨
      (fault = .lost ∧ Creatable s obj ∧
        meet serve .unavailable fault (.create k obj) s = (.error .unavailable, s.put k obj)) ∨
      (¬ (fault ≠ .refused ∧ Creatable s obj) ∧
        ∃ e, meet serve .unavailable fault (.create k obj) s = (.error e, s)) := by
  by_cases hcreatable : Creatable s obj
  · have hserve := serve_create hcreatable
    cases fault with
    | served => exact Or.inl ⟨rfl, hcreatable, hserve⟩
    | refused => exact Or.inr (Or.inr ⟨fun h => h.1 rfl, _, rfl⟩)
    | lost => exact Or.inr (Or.inl ⟨rfl, hcreatable, by rw [meet, hserve]⟩)
  · obtain ⟨e, hserve⟩ := serve_create_error hcreatable
    refine Or.inr (Or.inr ⟨fun h => hcreatable h.2, ?_⟩)
    cases fault with
    | served => exact ⟨e, hserve⟩
    | refused => exact ⟨_, rfl⟩
    | lost => exact ⟨.unavailable, by rw [meet, hserve]⟩

/-- A create that is answered has created. -/
theorem meet_create_ok {k : S.Kind} {obj : S.Obj k} {fault : Fault} {s : State S} {r : Unit}
    (h : (meet serve .unavailable fault (.create k obj) s).1 = .ok r) :
    Creatable s obj ∧ (meet serve .unavailable fault (.create k obj) s).2 = s.put k obj := by
  rcases meet_create_cases obj fault s with ⟨_, hcreatable, hmeet⟩ | ⟨_, _, hmeet⟩ | ⟨_, e, hmeet⟩
  · exact ⟨hcreatable, congrArg Prod.snd hmeet⟩
  · rw [hmeet] at h
    cases h
  · rw [hmeet] at h
    cases h

/-- **A program that begins with a create**: it goes on behind the new object, or it ends, and the object is there
    only where the answer is lost. -/
theorem run_create {k : S.Kind} (obj : S.Obj k) (p : Task S α) (faults : List Fault) (s : State S) :
    (faults.headD .served = .served ∧ Creatable s obj ∧
      run serve .unavailable (invoke (.create k obj) >>= fun _ => p) faults s =
        run serve .unavailable p faults.tail (s.put k obj)) ∨
    ∃ e t, run serve .unavailable (invoke (.create k obj) >>= fun _ => p) faults s = (.failed e, t) ∧
      (faults.headD .served = .served → ¬ Creatable s obj) ∧
      (faults.headD .served = .lost → Creatable s obj → t = s.put k obj) ∧
      (faults.headD .served = .refused ∨ ¬ Creatable s obj → t = s) := by
  have hrun := Calls.run_invoke serve Error.unavailable (.create k obj) (fun _ => p) faults s
  by_cases hcreatable : Creatable s obj
  · have hserve := serve_create hcreatable
    cases hfault : faults.headD .served with
    | served =>
        rw [hfault, meet, hserve] at hrun
        rcases hrun with ⟨_, _, hrun⟩ | ⟨_, herror, _⟩
        · exact Or.inl ⟨rfl, hcreatable, hrun⟩
        · cases herror
    | refused =>
        rw [hfault, meet] at hrun
        rcases hrun with ⟨_, hok, _⟩ | ⟨e, _, hrun⟩
        · cases hok
        · exact Or.inr ⟨e, s, hrun, fun h => (by cases h), fun h => (by cases h), fun _ => rfl⟩
    | lost =>
        rw [hfault, meet, hserve] at hrun
        rcases hrun with ⟨_, hok, _⟩ | ⟨e, _, hrun⟩
        · cases hok
        · refine Or.inr ⟨e, _, hrun, fun h => (by cases h), fun _ _ => rfl, fun h => ?_⟩
          rcases h with h | h
          · cases h
          · exact absurd hcreatable h
  · obtain ⟨e', hserve⟩ := serve_create_error hcreatable
    have hmeet : ∃ e, meet serve .unavailable (faults.headD .served) (.create k obj) s = (.error e, s) := by
      cases faults.headD .served with
      | served => exact ⟨e', hserve⟩
      | refused => exact ⟨.unavailable, rfl⟩
      | lost => exact ⟨.unavailable, by rw [meet, hserve]⟩
    obtain ⟨e, hmeet⟩ := hmeet
    rw [hmeet] at hrun
    rcases hrun with ⟨_, hok, _⟩ | ⟨e, _, hrun⟩
    · cases hok
    · exact Or.inr ⟨e, s, hrun, fun _ => hcreatable, fun _ h => absurd h hcreatable, fun _ => rfl⟩

/-- What returns behind a create has created. -/
theorem returned_create {k : S.Kind} {obj : S.Obj k} {p : Task S α} {faults : List Fault} {s t : State S} {r : α}
    (h : run serve .unavailable (invoke (.create k obj) >>= fun _ => p) faults s = (.returned r, t)) :
    Creatable s obj ∧ run serve .unavailable p faults.tail (s.put k obj) = (.returned r, t) := by
  rcases run_create obj p faults s with ⟨_, hcreatable, hrun⟩ | ⟨e, u, hrun, _⟩
  · exact ⟨hcreatable, hrun.symm.trans h⟩
  · cases hrun.symm.trans h

/-- A create in which nothing fails. -/
theorem run_create_nil {k : S.Kind} {obj : S.Obj k} (p : Task S α) {s : State S} (h : Creatable s obj) :
    run serve .unavailable (invoke (.create k obj) >>= fun _ => p) [] s =
      run serve .unavailable p [] (s.put k obj) := by
  rcases run_create obj p [] s with ⟨_, _, hrun⟩ | ⟨_, _, _, hnot, _⟩
  · exact hrun
  · exact absurd h (hnot rfl)

/-- Another kind of object is created. -/
theorem creatable_put {k l : S.Kind} {obj : S.Obj k} {s : State S} (hkind : k ≠ l) (other : S.Obj l) :
    Creatable (s.put l other) obj ↔ Creatable s obj := by
  unfold Creatable
  rw [State.get_put_of_ne hkind]

/-! ## 3. What is not deleted, and what is not written -/

/-- Of the objects of a kind, a call deletes those that satisfy `P` only. -/
def DeletesOnly (k : S.Kind) (P : S.Key → Prop) (c : Call S) : Prop := ∀ key, c = .delete k key → P key

/-- **What a program does not delete stays.** -/
theorem get_isSome_of_uses {k : S.Kind} {P : S.Key → Prop} {p : Task S α} (hp : Uses (DeletesOnly k P) p)
    (key : S.Key) (hkey : ¬ P key) (faults : List Fault) {s : State S} (hs : (s.get k key).isSome) :
    ((run serve .unavailable p faults s).2.get k key).isSome := by
  refine Calls.keeps_of_uses (I := fun s : State S => (s.get k key).isSome) ?_ hp s hs faults
  intro c hc s hs
  rcases get_serve c s k key with h | ⟨_, _, _, _, h⟩ | ⟨_, _, _, _, _, _, h⟩ | ⟨h, _⟩
  · rwa [h]
  · rw [h]
    rfl
  · rw [h]
    rfl
  · exact absurd (hc key h) hkey

/-- A create that is refused is the end. -/
theorem run_create_refused {k : S.Kind} (obj : S.Obj k) (p : Task S α) {faults : List Fault} (s : State S)
    (h : faults.headD .served = .refused) :
    (run serve .unavailable (invoke (.create k obj) >>= fun _ => p) faults s).2 = s := by
  rcases run_create obj p faults s with ⟨hserved, _⟩ | ⟨e, t, hrun, _, _, hsame⟩
  · rw [h] at hserved
    cases hserved
  · rw [hrun]
    exact hsame (Or.inl h)

/-- **A create that is not refused stays**, however the program ends. -/
theorem run_create_isSome {k : S.Kind} {obj : S.Obj k} {p : Task S α} {P : S.Key → Prop}
    (hp : Uses (DeletesOnly k P) p) (hkey : ¬ P (S.key obj)) {faults : List Fault} {s : State S}
    (hcreatable : Creatable s obj) (h : faults.headD .served ≠ .refused) :
    ((run serve .unavailable (invoke (.create k obj) >>= fun _ => p) faults s).2.get k (S.key obj)).isSome := by
  have hput : ((s.put k obj).get k (S.key obj)).isSome := by
    rw [State.get_put, if_pos rfl]
    rfl
  rcases run_create obj p faults s with ⟨_, _, hrun⟩ | ⟨e, t, hrun, hserved, hlost, _⟩
  · rw [hrun]
    exact get_isSome_of_uses hp _ hkey faults.tail hput
  · rw [hrun]
    cases hfault : faults.headD .served with
    | served => exact absurd hcreatable (hserved hfault)
    | refused => exact absurd hfault h
    | lost =>
        rw [hlost hfault hcreatable]
        exact hput

/-- A call that does not write objects of a kind. -/
def LeavesKind (k : S.Kind) (c : Call S) : Prop :=
  (∀ obj, c ≠ .create k obj) ∧ (∀ v, c ≠ .update k v) ∧ ∀ key, c ≠ .delete k key

/-- **What a program does not write stays as it is.** -/
theorem objects_eq_of_uses {k : S.Kind} {p : Task S α} (hp : Uses (LeavesKind k) p) (faults : List Fault)
    (s : State S) : (run serve .unavailable p faults s).2.objects k = s.objects k := by
  refine Calls.keeps_of_uses (I := fun t : State S => t.objects k = s.objects k) ?_ hp s rfl faults
  intro c hc t ht
  rcases serve_cases c t with h | ⟨l, obj, rfl, _, _, h⟩ | ⟨l, v, rfl, _, h⟩ | ⟨l, key, rfl, h⟩
  · rw [h]
    exact ht
  · have hl : k ≠ l := by
      rintro rfl
      exact hc.1 obj rfl
    rw [h, State.objects_put_of_ne hl]
    exact ht
  · have hl : k ≠ l := by
      rintro rfl
      exact hc.2.1 v rfl
    rw [h, State.objects_put_of_ne hl]
    exact ht
  · have hl : k ≠ l := by
      rintro rfl
      exact hc.2.2 key rfl
    rw [h, State.objects_remove_of_ne hl]
    exact ht

theorem get_eq_of_uses {k : S.Kind} {p : Task S α} (hp : Uses (LeavesKind k) p) (key : S.Key)
    (faults : List Fault) (s : State S) : (run serve .unavailable p faults s).2.get k key = s.get k key := by
  rw [State.get, objects_eq_of_uses hp, State.get]

/-- A delete whose error the program looks at. -/
theorem serve_delete_state (s : State S) (k : S.Kind) (key : S.Key) :
    (serve (.delete k key) s).2 = s.cleared k key := by
  rw [serve, State.cleared]
  cases s.get k key <;> rfl

/-- A program that begins with a delete and ignores its answer. -/
theorem run_attempt_delete (k : S.Kind) (key : S.Key) (p : Task S α) (s : State S) :
    run serve .unavailable ((Action.tryCall (Call.delete k key) : Task S (Except Error Unit)) >>= fun _ => p) [] s =
      run serve .unavailable p [] (s.cleared k key) := by
  have hrun := Calls.run_call serve Error.unavailable (.delete k key) (fun _ => p) [] s
  rw [List.headD_nil, meet, serve_delete_state] at hrun
  exact hrun

theorem get_cleared_of_ne {k l : S.Kind} (h : l ≠ k) (s : State S) (key key' : S.Key) :
    (s.cleared k key).get l key' = s.get l key' := sameBut_cleared l key' fun e => h e.1

/-! ## 4. Every run of a part -/

/-- A call that the server takes: it is served, refused, or served and its answer is lost. -/
theorem holds_invoke {c : Call S} {r : c.Reply} {s t : State S} (h : serve c s = (.ok r, t))
    {Q : Calls.Outcome Error c.Reply → State S → Prop} :
    Calls.Holds serve .unavailable (invoke c) s Q ↔
      Q (.returned r) t ∧ Q (.failed .unavailable) s ∧ Q (.failed .unavailable) t := by
  unfold invoke Action.invoke
  rw [Calls.holds_call, h]
  exact and_congr Calls.holds_done (and_congr Calls.holds_fail Calls.holds_fail)

/-- The same, where the program looks at the error. -/
theorem holds_attempt {c : Call S} {r : c.Reply} {s t : State S} (h : serve c s = (.ok r, t))
    {Q : Calls.Outcome Error (Except Error c.Reply) → State S → Prop} :
    Calls.Holds serve .unavailable (Action.tryCall c) s Q ↔
      Q (.returned (.ok r)) t ∧ Q (.returned (.error .unavailable)) s ∧ Q (.returned (.error .unavailable)) t := by
  unfold Action.tryCall
  rw [Calls.holds_call, h]
  exact and_congr Calls.holds_done (and_congr Calls.holds_done Calls.holds_done)

theorem returns_attempt {c : Call S} {s : State S} {Q : Except Error c.Reply → State S → Prop} :
    Returns (Action.tryCall c) s Q ↔ Q (serve c s).1 (serve c s).2 := by
  unfold Action.tryCall
  rw [Returns, Calls.returns_call]
  exact Calls.returns_done

/-- What a get without a fault comes to. -/
theorem serve_get_eq (s : State S) (k : S.Kind) (key : S.Key) :
    serve (.get k key) s = ((s.get k key).elim (.error .notFound) .ok, s) := by
  rw [serve]
  cases s.get k key <;> rfl

/-- A read whose error the program looks at. -/
def attemptGet (k : S.Kind) (key : S.Key) : Task S (Except Error (Versioned S k)) := Action.tryCall (Call.get k key)

theorem holds_attemptGet {s : State S} {k : S.Kind} {key : S.Key}
    {Q : Calls.Outcome Error (Except Error (Versioned S k)) → State S → Prop} :
    Calls.Holds serve .unavailable (attemptGet k key) s Q ↔
      Q (.returned ((s.get k key).elim (.error .notFound) .ok)) s ∧ Q (.returned (.error .unavailable)) s := by
  unfold attemptGet Action.tryCall
  rw [Calls.holds_call, serve_get_eq]
  exact and_congr Calls.holds_done ((and_congr Calls.holds_done Calls.holds_done).trans and_self_iff)

theorem returns_attemptGet {s : State S} {k : S.Kind} {key : S.Key}
    {Q : Except Error (Versioned S k) → State S → Prop} :
    Returns (attemptGet k key) s Q ↔ Q ((s.get k key).elim (.error .notFound) .ok) s := by
  unfold attemptGet
  rw [returns_attempt, serve_get_eq]

/-- A read whose error the program returns. -/
theorem holds_get {s : State S} {k : S.Kind} {key : S.Key}
    {Q : Calls.Outcome Error (Versioned S k) → State S → Prop} :
    Calls.Holds serve .unavailable (invoke (.get k key)) s Q ↔
      (s.get k key).elim (Q (.failed .notFound) s) (fun v => Q (.returned v) s) ∧ Q (.failed .unavailable) s := by
  unfold invoke Action.invoke
  rw [Calls.holds_call, serve_get_eq]
  have hfailed : Calls.Holds serve Error.unavailable (Action.fail .unavailable : Task S (Versioned S k)) s Q ↔
      Q (.failed .unavailable) s := Calls.holds_fail
  cases s.get k key with
  | none => exact and_congr Calls.holds_fail ((and_congr hfailed hfailed).trans and_self_iff)
  | some v => exact and_congr Calls.holds_done ((and_congr hfailed hfailed).trans and_self_iff)

theorem returns_get {s : State S} {k : S.Kind} {key : S.Key} {Q : Versioned S k → State S → Prop} :
    Returns (invoke (.get k key)) s Q ↔ ∃ v, s.get k key = some v ∧ Q v s := by
  unfold invoke Action.invoke
  rw [Returns, Calls.returns_call, serve_get_eq]
  cases s.get k key with
  | none => exact iff_of_false Calls.not_returns_fail fun h => by cases h.choose_spec.1
  | some v =>
      refine Calls.returns_done.trans ⟨fun h => ⟨v, rfl, h⟩, fun h => ?_⟩
      obtain ⟨w, hw, hQ⟩ := h
      rwa [Option.some.inj hw]

theorem holds_find {s : State S} {k : S.Kind} {key : S.Key}
    {Q : Calls.Outcome Error (Option (Versioned S k)) → State S → Prop} :
    Calls.Holds serve .unavailable (find k key) s Q ↔ Q (.returned (s.get k key)) s ∧ Q (.failed .unavailable) s := by
  unfold find
  rw [Action.tryCall_bind, Calls.holds_call, serve_get_state]
  have hfailed : Calls.Holds serve Error.unavailable
      (Action.fail .unavailable : Task S (Option (Versioned S k))) s Q ↔ Q (.failed .unavailable) s :=
    Calls.holds_fail
  cases hget : s.get k key with
  | none =>
      have hserve : serve (.get k key) s = (.error .notFound, s) := by
        rw [serve, hget]
      rw [hserve]
      exact and_congr Calls.holds_done ((and_congr hfailed hfailed).trans (and_self_iff))
  | some v =>
      have hserve : serve (.get k key) s = (.ok v, s) := by
        rw [serve, hget]
      rw [hserve]
      exact and_congr Calls.holds_done ((and_congr hfailed hfailed).trans (and_self_iff))

/-- **What was loaded is saved**, in every run that is answered; in the others it is saved or nothing has changed. -/
theorem holds_save {s : State S} {k : S.Kind} {key : S.Key} {new : S.Obj k} {updated : S.Obj k → S.Obj k}
    (hvalid : S.valid new = true) (hnew : S.key new = key)
    (hupdated : ∀ obj, S.key obj = key → S.key (updated obj) = key)
    {Q : Calls.Outcome Error Unit → State S → Prop} :
    Calls.Holds serve .unavailable (save k (s.get k key) new updated) s Q ↔
      Q (.returned ()) (s.saved key new updated) ∧ Q (.failed .unavailable) s ∧
        Q (.failed .unavailable) (s.saved key new updated) := by
  unfold save State.saved
  cases hget : s.get k key with
  | none => exact holds_invoke (serve_create ⟨hvalid, by rw [hnew, hget]⟩)
  | some v =>
      obtain ⟨hmem, hkey⟩ := State.get_eq_some.mp hget
      exact holds_invoke (serve_update hmem ((hupdated _ hkey).trans hkey.symm))

/-- A save whose error the program looks at. -/
def attemptSave (k : S.Kind) (loaded : Option (Versioned S k)) (new : S.Obj k) (updated : S.Obj k → S.Obj k) :
    Task S (Except Error Unit) :=
  match loaded with
  | none => Action.tryCall (Call.create k new)
  | some v => Action.tryCall (Call.update k ⟨updated v.obj, v.version⟩)

section AttemptSave

variable {s : State S} {k : S.Kind} {key : S.Key} {new : S.Obj k} {updated : S.Obj k → S.Obj k}

theorem holds_attemptSave (hvalid : S.valid new = true) (hnew : S.key new = key)
    (hupdated : ∀ obj, S.key obj = key → S.key (updated obj) = key)
    {Q : Calls.Outcome Error (Except Error Unit) → State S → Prop} :
    Calls.Holds serve .unavailable (attemptSave k (s.get k key) new updated) s Q ↔
      Q (.returned (.ok ())) (s.saved key new updated) ∧ Q (.returned (.error .unavailable)) s ∧
        Q (.returned (.error .unavailable)) (s.saved key new updated) := by
  unfold attemptSave State.saved
  cases hget : s.get k key with
  | none => exact holds_attempt (serve_create ⟨hvalid, by rw [hnew, hget]⟩)
  | some v =>
      obtain ⟨hmem, hkey⟩ := State.get_eq_some.mp hget
      exact holds_attempt (serve_update hmem ((hupdated _ hkey).trans hkey.symm))

theorem returns_attemptSave (hvalid : S.valid new = true) (hnew : S.key new = key)
    (hupdated : ∀ obj, S.key obj = key → S.key (updated obj) = key) {Q : Except Error Unit → State S → Prop}
    (hQ : Q (.ok ()) (s.saved key new updated)) :
    Returns (attemptSave k (s.get k key) new updated) s Q := by
  unfold State.saved at hQ
  unfold attemptSave
  cases hget : s.get k key with
  | none =>
      rw [hget] at hQ
      refine returns_attempt.mpr ?_
      rwa [serve_create ⟨hvalid, by rw [hnew, hget]⟩]
  | some v =>
      rw [hget] at hQ
      obtain ⟨hmem, hkey⟩ := State.get_eq_some.mp hget
      refine returns_attempt.mpr ?_
      rwa [serve_update hmem ((hupdated _ hkey).trans hkey.symm)]

end AttemptSave

/-- **What was loaded is deleted.** -/
theorem holds_deleteLoaded {s : State S} {k : S.Kind} {key : S.Key}
    {Q : Calls.Outcome Error Unit → State S → Prop} (hreturned : Q (.returned ()) (s.cleared k key))
    (hbefore : Q (.failed .unavailable) s) (hbehind : Q (.failed .unavailable) (s.cleared k key)) :
    Calls.Holds serve .unavailable (deleteLoaded k (s.get k key)) s Q := by
  unfold State.cleared at hreturned hbehind
  unfold deleteLoaded
  cases hget : s.get k key with
  | none =>
      rw [hget] at hreturned
      exact Calls.holds_done.mpr hreturned
  | some v =>
      rw [hget, Option.isSome_some, if_pos rfl] at hreturned hbehind
      have hkey : v.key = key := (State.get_eq_some.mp hget).2
      have hserve : serve (.delete k v.key) s = (.ok (), s.remove k key) := by
        rw [serve, hkey, hget]
      exact (holds_invoke hserve).mpr ⟨hreturned, hbefore, hbehind⟩

/-! ## 5. Creating what is not found -/

/-- What is stored under a key, without its version. -/
def State.objAt (s : State S) (k : S.Kind) (key : S.Key) : Option (S.Obj k) := (s.get k key).map Versioned.obj

theorem State.objAt_isSome {s : State S} {k : S.Kind} {key : S.Key} :
    (s.objAt k key).isSome = (s.get k key).isSome := Option.isSome_map

/-- What has been put is there. -/
theorem State.objAt_put_self {k : S.Kind} {key : S.Key} {s : State S} {obj : S.Obj k} (hkey : S.key obj = key) :
    (s.put k obj).objAt k key = some obj := by
  rw [State.objAt, State.get_put, if_pos hkey.symm]
  rfl

/-- The state behind an update. -/
def State.updated (s : State S) {k : S.Kind} (v : Versioned S k) (new : S.Obj k) : State S :=
  if v.obj = new then s else s.put k new

theorem serve_updated {k : S.Kind} {key : S.Key} {s : State S} {v : Versioned S k} {new : S.Obj k}
    (hv : s.get k key = some v) (hkey : S.key new = key) :
    serve (.update k ⟨new, v.version⟩) s = (.ok (), s.updated v new) := by
  obtain ⟨hmem, hv⟩ := State.get_eq_some.mp hv
  exact serve_update hmem (hkey.trans hv.symm)

/-- **What was loaded is updated.** -/
theorem State.objAt_updated {k : S.Kind} {key : S.Key} {s : State S} {v : Versioned S k} {new : S.Obj k}
    (hv : s.get k key = some v) (hkey : S.key new = key) : (s.updated v new).objAt k key = some new := by
  unfold State.updated State.objAt
  split
  · rename_i hsame
    rw [hv, Option.map_some, hsame]
  · exact State.objAt_put_self hkey

/-- **What was created is there**, and nothing else has changed. -/
theorem returns_created {k : S.Kind} {obj : S.Obj k} {s : State S} {Q : Unit → State S → Prop}
    (h : Returns (invoke (.create k obj)) s Q) :
    ∃ t, Q () t ∧ s.get k (S.key obj) = none ∧ SameBut k (S.key obj) s t ∧ t.objAt k (S.key obj) = some obj := by
  obtain ⟨_, hfree, hQ⟩ := returns_create.mp h
  refine ⟨_, hQ, hfree, sameBut_put s obj, ?_⟩
  rw [State.objAt, State.get_put, if_pos rfl]
  rfl

/-- **What was loaded and updated is there**, and nothing else has changed. -/
theorem returns_updated {k : S.Kind} {v : Versioned S k} {obj : S.Obj k} {s : State S} {key : S.Key}
    {Q : Unit → State S → Prop} (hv : s.get k key = some v) (hkey : S.key obj = key)
    (h : Returns (invoke (.update k ⟨obj, v.version⟩)) s Q) :
    ∃ t, Q () t ∧ SameBut k key s t ∧ t.objAt k key = some obj := by
  obtain ⟨current, hcurrent, _, h⟩ := returns_update.mp h
  rw [Versioned.key, hkey, hv] at hcurrent
  obtain rfl := Option.some.inj hcurrent
  split at h
  · rename_i hsame
    refine ⟨s, h, fun _ _ _ => rfl, ?_⟩
    rw [State.objAt, hv]
    exact congrArg some hsame
  · have hbut := sameBut_put s obj
    rw [hkey] at hbut
    refine ⟨_, h, hbut, ?_⟩
    rw [State.objAt, State.get_put, if_pos hkey.symm]
    rfl

/-- **What is saved**: the new object, or the updated one. -/
theorem objAt_saved {k : S.Kind} {s : State S} {key : S.Key} {new : S.Obj k} {updated : S.Obj k → S.Obj k}
    (hnew : S.key new = key) (hupdated : ∀ obj, S.key obj = key → S.key (updated obj) = key) :
    (s.saved key new updated).objAt k key = some ((s.objAt k key).elim new updated) := by
  unfold State.saved State.objAt
  cases hget : s.get k key with
  | none =>
      simp only
      rw [State.get_put, if_pos hnew.symm]
      rfl
  | some v =>
      simp only
      split
      · rename_i hsame
        rw [hget]
        exact congrArg some hsame
      · rw [State.get_put, if_pos (hupdated _ (State.get_eq_some.mp hget).2).symm]
        rfl

/-- An object is created where there is none under its key. -/
def ensure (k : S.Kind) (obj : S.Obj k) : Task S Unit := do
  match ← find k (S.key obj) with
  | none => invoke (.create k obj)
  | some _ => pure ()

/-- The state behind it. -/
def State.ensured (s : State S) {k : S.Kind} (obj : S.Obj k) : State S :=
  if (s.get k (S.key obj)).isSome then s else s.put k obj

theorem returns_ensure {k : S.Kind} {obj : S.Obj k} (hvalid : S.valid obj = true) {s : State S}
    {Q : Unit → State S → Prop} : Returns (ensure k obj) s Q ↔ Q () (s.ensured obj) := by
  unfold ensure State.ensured
  rw [returns_bind, returns_find]
  cases hget : s.get k (S.key obj) with
  | none =>
      refine returns_create.trans ?_
      rw [and_iff_right hvalid, and_iff_right hget, Option.isSome_none, if_neg Bool.false_ne_true]
  | some v => exact Calls.returns_done

/-- An object that can not be created is no hindrance where it is there. -/
theorem ensured_of_returns {k : S.Kind} {obj : S.Obj k} {s : State S} {Q : Unit → State S → Prop}
    (h : Returns (ensure k obj) s Q) : Q () (s.ensured obj) := by
  unfold ensure at h
  unfold State.ensured
  rw [returns_bind, returns_find] at h
  cases hget : s.get k (S.key obj) with
  | none =>
      rw [hget] at h
      rw [Option.isSome_none, if_neg Bool.false_ne_true]
      exact (returns_create.mp h).2.2
  | some v =>
      rw [hget] at h
      exact Calls.returns_done.mp h

theorem strict_ensure (k : S.Kind) (obj : S.Obj k) : Calls.Strict .unavailable (ensure k obj) := by
  refine Calls.strict_bind (strict_find k (S.key obj)) fun loaded => ?_
  cases loaded with
  | none => exact Calls.strict_invoke _
  | some _ => trivial

/-- An object that is there stays as it is; otherwise it is the one that is created. -/
theorem objAt_ensured (s : State S) (k : S.Kind) (obj : S.Obj k) :
    (s.ensured obj).objAt k (S.key obj) = some ((s.objAt k (S.key obj)).getD obj) := by
  unfold State.ensured State.objAt
  cases hget : s.get k (S.key obj) with
  | none =>
      rw [Option.isSome_none, if_neg Bool.false_ne_true, State.get_put, if_pos rfl]
      rfl
  | some old =>
      rw [Option.isSome_some, if_pos rfl, hget]
      rfl

theorem sameBut_ensured (s : State S) (k : S.Kind) (obj : S.Obj k) : SameBut k (S.key obj) s (s.ensured obj) := by
  unfold State.ensured
  split
  · exact fun _ _ _ => rfl
  · exact sameBut_put s obj

theorem isSome_ensured_self (s : State S) {k : S.Kind} (obj : S.Obj k) :
    ((s.ensured obj).get k (S.key obj)).isSome := by
  unfold State.ensured
  split
  · assumption
  · rw [State.get_put, if_pos rfl]
    rfl

theorem isSome_ensured {s : State S} {l : S.Kind} {key : S.Key} (h : (s.get l key).isSome) {k : S.Kind}
    (obj : S.Obj k) : ((s.ensured obj).get l key).isSome := by
  unfold State.ensured
  split
  · exact h
  · by_cases hl : l = k
    · subst hl
      rw [State.get_put]
      split
      · rfl
      · exact h
    · rwa [State.get_put_of_ne hl]

/-- A call that reads, or creates an object that is wanted. -/
def CreatesWanted (wanted : (k : S.Kind) → S.Key → Option (S.Obj k)) (c : Call S) : Prop :=
  (∀ k obj, c = .create k obj → wanted k (S.key obj) = some obj) ∧ (∀ k v, c ≠ .update k v) ∧
    ∀ k key, c ≠ .delete k key

/-- **Some of what is wanted and was not there** has been stored, and nothing else has changed. -/
def Filled (wanted : (k : S.Kind) → S.Key → Option (S.Obj k)) (s t : State S) : Prop :=
  ∀ k key, t.objAt k key = s.objAt k key ∨ (s.objAt k key = none ∧ t.objAt k key = wanted k key)

variable {wanted : (k : S.Kind) → S.Key → Option (S.Obj k)}

theorem Filled.refl (s : State S) : Filled wanted s s := fun _ _ => Or.inl rfl

theorem Filled.trans {s t u : State S} (hst : Filled wanted s t) (htu : Filled wanted t u) : Filled wanted s u := by
  intro k key
  rcases htu k key with h | ⟨hnone, h⟩
  · rw [h]
    exact hst k key
  · rcases hst k key with h' | ⟨hnone', _⟩
    · exact Or.inr ⟨h'.symm.trans hnone, h⟩
    · exact Or.inr ⟨hnone', h⟩

/-- **A program that creates what is wanted**, however it ends. -/
theorem filled_of_uses {p : Task S α} (hp : Uses (CreatesWanted wanted) p) (faults : List Fault) (s : State S) :
    Filled wanted s (run serve .unavailable p faults s).2 := by
  refine Calls.keeps_of_uses (I := Filled wanted s) ?_ hp s (Filled.refl s) faults
  intro c hc t ht
  refine ht.trans fun k key => ?_
  rcases get_serve c t k key with h | ⟨obj, hcreate, hkey, hnone, h⟩ | ⟨v, _, h, _⟩ | ⟨h, _⟩
  · exact Or.inl (by rw [State.objAt, h, State.objAt])
  · refine Or.inr ⟨by rw [State.objAt, hnone]; rfl, ?_⟩
    rw [State.objAt, h, ← hkey, hc.1 k obj hcreate]
    rfl
  · exact absurd h (hc.2.1 k v)
  · exact absurd h (hc.2.2 k key)

theorem uses_find {A : Call S → Prop} {k : S.Kind} {key : S.Key} (h : A (.get k key)) : Uses A (find k key) := by
  unfold find
  refine Calls.uses_tryCall h fun r => ?_
  split <;> trivial

theorem uses_save {A : Call S → Prop} {k : S.Kind} {loaded : Option (Versioned S k)} {new : S.Obj k}
    {updated : S.Obj k → S.Obj k} (hnew : A (.create k new))
    (hupdated : ∀ v, loaded = some v → A (.update k ⟨updated v.obj, v.version⟩)) :
    Uses A (save k loaded new updated) := by
  cases loaded with
  | none => exact Calls.uses_invoke hnew
  | some v => exact Calls.uses_invoke (hupdated v rfl)

theorem uses_deleteLoaded {A : Call S → Prop} {k : S.Kind} {loaded : Option (Versioned S k)}
    (h : ∀ v, loaded = some v → A (.delete k v.key)) : Uses A (deleteLoaded k loaded) := by
  cases loaded with
  | none => trivial
  | some v => exact Calls.uses_invoke (h v rfl)

theorem uses_ensure {k : S.Kind} {obj : S.Obj k} (h : wanted k (S.key obj) = some obj) :
    Uses (CreatesWanted wanted) (ensure k obj) := by
  have hget : CreatesWanted wanted (.get k (S.key obj)) :=
    ⟨fun _ _ e => (by cases e), fun _ _ e => (by cases e), fun _ _ e => (by cases e)⟩
  refine Calls.uses_bind (uses_find hget) fun found => ?_
  split
  · exact Calls.uses_invoke ⟨fun _ _ e => (by cases e; exact h), fun _ _ e => (by cases e), fun _ _ e => (by cases e)⟩
  · trivial

/-- **All that is wanted has been stored**, and nothing else has changed. -/
theorem Filled.objAt_eq {s t : State S} (h : Filled wanted s t)
    (hall : ∀ k key obj, wanted k key = some obj → (t.get k key).isSome) (k : S.Kind) (key : S.Key) :
    t.objAt k key = (s.objAt k key).or (wanted k key) := by
  rcases h k key with heq | ⟨hnone, heq⟩
  · cases hs : s.objAt k key with
    | some obj => rw [heq, hs, Option.some_or]
    | none =>
        rw [Option.none_or, heq, hs]
        cases hwanted : wanted k key with
        | none => rfl
        | some obj =>
            have hsome := hall k key obj hwanted
            rw [← State.objAt_isSome, heq, hs] at hsome
            cases hsome
  · rw [hnone, Option.none_or, heq]

end Objects
