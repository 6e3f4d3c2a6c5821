/-
  File:      Kalm/Lib/InPlace.lean
  Subject:   A FILTER IN PLACE, by its indices: a rejected element changes places with the last one that is not
             decided yet, and the index stays.

  * `at?`, `swap?`, `sliceTo?` -- an array with checked indices;
  * `runFor` -- the loop, for a number of rounds;
  * `Segments` -- the invariant: accepted in front, undecided in the middle, rejected behind;
  * `runFor_segments` -- the loop leaves what the filter on lists leaves (`Keyed.filterLoop`), and one round more
    than there are elements is enough;
  * **`exists_filter`** -- for a check that always answers: exactly the accepted elements, as often as before.
-/
import Kalm.Lib.Store

namespace InPlace

variable {α : Type}

/-! ## 1. Checked indices -/

/-- `a[i]`; `none` where the index is out of range. -/
def at? (a : List α) (i : Int) : Option α := if 0 ≤ i then a[i.toNat]? else none

/-- `a[i], a[j] = a[j], a[i]`. -/
def swap? (a : List α) (i j : Int) : Option (List α) :=
  match at? a i, at? a j with
  | some x, some y => some ((a.set i.toNat y).set j.toNat x)
  | _, _ => none

/-- `a[:l]`. -/
def sliceTo? (a : List α) (l : Int) : Option (List α) :=
  if 0 ≤ l ∧ l ≤ a.length then some (a.take l.toNat) else none

theorem at?_append {front back : List α} (x : α) :
    at? (front ++ x :: back) front.length = some x := by
  rw [at?, if_pos (Int.natCast_nonneg _), Int.toNat_natCast, List.getElem?_append_right (Nat.le_refl _),
    Nat.sub_self, List.getElem?_cons_zero]

/-- Two places with something between them. -/
theorem swap?_append {front mid back : List α} (x y : α) :
    swap? (front ++ x :: (mid ++ y :: back)) ((front ++ x :: mid).length : Nat) (front.length : Nat) =
      some (front ++ y :: (mid ++ x :: back)) := by
  have hassoc : front ++ x :: (mid ++ y :: back) = (front ++ x :: mid) ++ y :: back := by
    rw [List.append_assoc, List.cons_append]
  have hx : at? (front ++ x :: (mid ++ y :: back)) (front.length : Nat) = some x := at?_append x
  have hy : at? (front ++ x :: (mid ++ y :: back)) ((front ++ x :: mid).length : Nat) = some y := by
    rw [hassoc]
    exact at?_append y
  rw [swap?, hx, hy]
  dsimp only
  rw [hassoc, Int.toNat_natCast, Int.toNat_natCast, List.set_append_right _ _ (Nat.le_refl _), Nat.sub_self,
    List.set_cons_zero, List.append_assoc, List.cons_append, List.set_append_right _ _ (Nat.le_refl _),
    Nat.sub_self, List.set_cons_zero]

/-- A place and itself. -/
theorem swap?_self {front back : List α} (x : α) :
    swap? (front ++ x :: back) (front.length : Nat) (front.length : Nat) = some (front ++ x :: back) := by
  rw [swap?, at?_append]
  dsimp only
  rw [Int.toNat_natCast, List.set_append_right _ _ (Nat.le_refl _), Nat.sub_self, List.set_cons_zero,
    List.set_append_right _ _ (Nat.le_refl _), Nat.sub_self, List.set_cons_zero]

theorem sliceTo?_append (front back : List α) : sliceTo? (front ++ back) (front.length : Nat) = some front := by
  have hle : ((front.length : Nat) : Int) ≤ (front ++ back).length := by
    rw [List.length_append]
    omega
  rw [sliceTo?, if_pos ⟨Int.natCast_nonneg _, hle⟩, Int.toNat_natCast, List.take_left]

/-! ## 2. The loop -/

/-- The array, the index, and the length of what is not rejected yet. -/
structure Loop (α : Type) where
  array : List α
  i : Int
  l : Int

/-- How the loop ends: with the array and the slice, with an index out of range, in the check, or not yet. -/
inductive Outcome (α : Type) where
  | returned (array kept : List α)
  | indexError
  | panicked
  | unfinished
  deriving DecidableEq

/-- The slice that is returned. -/
def Outcome.kept : Outcome α → Option (List α)
  | .returned _ kept => some kept
  | _ => none

variable (keep : α → Option Bool)

/-- The rounds of `for i := 0; i < l; i++`; a rejected element costs `i--` and `l--`. -/
def runFor : Nat → Loop α → Outcome α
  | 0, _ => .unfinished
  | n + 1, s =>
    if s.i < s.l then
      match at? s.array s.i with
      | none => .indexError
      | some x =>
        match keep x with
        | none => .panicked
        | some true => runFor n { s with i := s.i + 1 }
        | some false =>
          match swap? s.array (s.l - 1) s.i with
          | none => .indexError
          | some array => runFor n { array := array, i := s.i - 1 + 1, l := s.l - 1 }
    else
      match sliceTo? s.array s.l with
      | none => .indexError
      | some kept => .returned s.array kept

/-- The loop from its start. -/
def filter (rounds : Nat) (xs : List α) : Outcome α := runFor keep rounds ⟨xs, 0, xs.length⟩

/-! ## 3. The three segments -/

/-- Accepted in front, undecided in the middle, rejected behind. -/
structure Segments (s : Loop α) (front mid back : List α) : Prop where
  array : s.array = front ++ (mid ++ back)
  i : s.i = front.length
  l : s.l = front.length + mid.length

variable {keep}

theorem Segments.start (xs : List α) : Segments ⟨xs, 0, xs.length⟩ [] xs [] where
  array := by rw [List.append_nil, List.nil_append]
  i := rfl
  l := (Int.zero_add _).symm

/-- An accepted element joins the front. -/
theorem Segments.accept {s : Loop α} {front mid back : List α} {x : α} (h : Segments s front (x :: mid) back) :
    Segments { s with i := s.i + 1 } (front ++ [x]) mid back where
  array := by rw [h.array, List.append_assoc, List.singleton_append, List.cons_append]
  i := by
    rw [List.length_append, List.length_singleton, Int.natCast_add]
    exact congrArg (· + 1) h.i
  l := by
    rw [h.l, List.length_append, List.length_singleton, List.length_cons]
    push_cast
    omega

/-- A rejected element that is the last one is left where it is. -/
theorem Segments.rejectLast {s : Loop α} {front back : List α} {x : α} (h : Segments s front [x] back) :
    swap? s.array (s.l - 1) s.i = some s.array ∧
      Segments { array := s.array, i := s.i - 1 + 1, l := s.l - 1 } front [] (x :: back) := by
  have hl : s.l - 1 = front.length := by
    rw [h.l, List.length_singleton]
    omega
  refine ⟨?_, h.array, ?_, hl⟩
  · rw [hl, h.i, h.array]
    exact swap?_self x
  · rw [Int.sub_add_cancel]
    exact h.i

/-- Any other rejected element changes places with the last one of the middle. -/
theorem Segments.reject {s : Loop α} {front mid back : List α} {x y : α}
    (h : Segments s front (x :: (mid ++ [y])) back) :
    swap? s.array (s.l - 1) s.i = some (front ++ (y :: mid ++ x :: back)) ∧
      Segments { array := front ++ (y :: mid ++ x :: back), i := s.i - 1 + 1, l := s.l - 1 }
        front (y :: mid) (x :: back) := by
  have hl : s.l - 1 = ((front ++ x :: mid).length : Nat) := by
    rw [h.l, List.length_cons, List.length_append, List.length_singleton, List.length_append, List.length_cons]
    push_cast
    omega
  refine ⟨?_, rfl, ?_, ?_⟩
  · have harray : s.array = front ++ x :: (mid ++ y :: back) := by
      rw [h.array, List.cons_append, List.append_assoc, List.cons_append, List.nil_append]
    rw [hl, h.i, harray, swap?_append, List.cons_append]
  · rw [Int.sub_add_cancel]
    exact h.i
  · rw [hl, List.length_append, List.length_cons, List.length_cons]
    push_cast
    rfl

/-- More rounds change nothing once the loop has ended. -/
theorem runFor_succ {n : Nat} {s : Loop α} (h : runFor keep n s ≠ .unfinished) :
    runFor keep (n + 1) s = runFor keep n s := by
  induction n generalizing s with
  | zero => exact absurd rfl h
  | succ n ih =>
      rw [runFor] at h ⊢
      conv_rhs => rw [runFor]
      split
      · rename_i hi
        rw [if_pos hi] at h
        cases hx : at? s.array s.i with
        | none => rfl
        | some x =>
            rw [hx] at h
            dsimp only at h ⊢
            cases hk : keep x with
            | none => rfl
            | some b =>
                rw [hk] at h
                cases b with
                | true => exact ih h
                | false =>
                    dsimp only at h ⊢
                    cases hswap : swap? s.array (s.l - 1) s.i with
                    | none => rfl
                    | some array =>
                        rw [hswap] at h
                        exact ih h
      · rfl

theorem runFor_of_le {n m : Nat} {s : Loop α} (h : runFor keep n s ≠ .unfinished) (hle : n ≤ m) :
    runFor keep m s = runFor keep n s := by
  induction hle with
  | refl => rfl
  | step _ ih =>
      rw [runFor_succ (ih.symm ▸ h), ih]

/-- **The loop leaves what the filter on lists leaves**, and only moves the elements of the array. -/
theorem runFor_segments (keep : α → Option Bool) {n : Nat} {s : Loop α} {front mid back : List α}
    (h : Segments s front mid back)
    (hn : mid.length < n) :
    match Keyed.filterLoop keep mid.length mid with
    | none => runFor keep n s = .panicked
    | some ys => ∃ array, runFor keep n s = .returned array (front ++ ys) ∧ array.Perm s.array := by
  induction n generalizing s front mid back with
  | zero => exact absurd hn (Nat.not_lt_zero _)
  | succ n ih =>
      cases mid with
      | nil =>
          have hi : ¬ s.i < s.l := by
            rw [h.i, h.l, List.length_nil]
            omega
          have hslice : sliceTo? s.array s.l = some front := by
            rw [h.array, h.l, List.length_nil, Int.natCast_zero, Int.add_zero, List.nil_append]
            exact sliceTo?_append front back
          refine ⟨s.array, ?_, List.Perm.refl _⟩
          rw [runFor, if_neg hi, hslice, List.append_nil]
      | cons x mid =>
          have hi : s.i < s.l := by
            rw [h.i, h.l, List.length_cons]
            omega
          have hx : at? s.array s.i = some x := by
            rw [h.array, h.i, List.cons_append]
            exact at?_append x
          have hmid : mid.length < n := Nat.lt_of_succ_lt_succ hn
          rw [List.length_cons, Keyed.filterLoop, runFor, if_pos hi, hx]
          dsimp only
          cases hk : keep x with
          | none => rfl
          | some b =>
              cases b with
              | true =>
                  have hrest := ih h.accept hmid
                  dsimp only
                  cases hys : Keyed.filterLoop keep mid.length mid with
                  | none =>
                      rw [hys] at hrest
                      exact hrest
                  | some ys =>
                      rw [hys] at hrest
                      obtain ⟨array, hrun, hperm⟩ := hrest
                      refine ⟨array, ?_, hperm⟩
                      rw [hrun, List.append_assoc, List.cons_append, List.nil_append]
              | false =>
                  dsimp only
                  rcases List.eq_nil_or_concat mid with rfl | ⟨init, y, rfl⟩
                  · -- the element is the last one, and stays
                    obtain ⟨hswap, hseg⟩ := h.rejectLast
                    rw [hswap]
                    exact ih hseg hmid
                  · rw [List.concat_eq_append] at h hmid ⊢
                    obtain ⟨hswap, hseg⟩ := h.reject
                    have hlen : (init ++ [y]).length = (y :: init).length := by
                      rw [List.length_append, List.length_singleton, List.length_cons]
                    have hrest := ih hseg (hlen ▸ hmid)
                    have hlast : (init ++ [y]).getLast? = some y := List.getLast?_concat
                    have hmoved : (front ++ (y :: init ++ x :: back)).Perm s.array := by
                      rw [h.array, List.cons_append, List.cons_append, List.append_assoc, List.singleton_append]
                      refine List.Perm.append_left front ?_
                      exact ((List.perm_middle.cons y).trans (List.Perm.swap x y _)).trans
                        (List.perm_middle.symm.cons x)
                    rw [hswap, hlast, hlen, List.dropLast_concat]
                    dsimp only
                    cases hys : Keyed.filterLoop keep (y :: init).length (y :: init) with
                    | none =>
                        rw [hys] at hrest
                        exact hrest
                    | some ys =>
                        rw [hys] at hrest
                        obtain ⟨array, hrun, hperm⟩ := hrest
                        exact ⟨array, hrun, hperm.trans hmoved⟩

/-- **The loop refines the filter on lists.** -/
theorem kept_filter {rounds : Nat} {xs : List α} (h : xs.length < rounds) :
    (filter keep rounds xs).kept = Keyed.filterInPlace keep xs := by
  have hrun := runFor_segments keep (Segments.start xs) h
  unfold Keyed.filterInPlace filter
  cases hys : Keyed.filterLoop keep xs.length xs with
  | none =>
      rw [hys] at hrun
      rw [hrun]
      rfl
  | some ys =>
      rw [hys] at hrun
      obtain ⟨array, hrun, _⟩ := hrun
      rw [hrun]
      rfl

/-- **A check that always answers**: the loop ends, without an index error; it returns the accepted elements, each as
    often as before, and only moves the elements of the array. -/
theorem exists_filter (permitted : α → Bool) (xs : List α) :
    ∃ array kept, (∀ rounds, xs.length < rounds →
        filter (fun x => some (permitted x)) rounds xs = .returned array kept) ∧
      kept.Perm (xs.filter permitted) ∧ array.Perm xs := by
  have hrun := runFor_segments (fun x => some (permitted x)) (Segments.start xs) (Nat.lt_succ_self _)
  have hsome : (Keyed.filterLoop (fun x => some (permitted x)) xs.length xs).isSome :=
    Keyed.filterLoop_isSome fun _ _ => rfl
  obtain ⟨ys, hys⟩ := Option.isSome_iff_exists.mp hsome
  rw [hys] at hrun
  obtain ⟨array, hrun, hperm⟩ := hrun
  refine ⟨array, ys, fun rounds hr => ?_, ?_, hperm⟩
  · have hended : runFor (fun x => some (permitted x)) (xs.length + 1) ⟨xs, 0, xs.length⟩ ≠ .unfinished := by
      rw [hrun]
      exact nofun
    exact (runFor_of_le hended hr).trans hrun
  · have hfilter := Keyed.filterLoop_perm (Nat.le_refl _) hys
    simpa using hfilter

end InPlace
