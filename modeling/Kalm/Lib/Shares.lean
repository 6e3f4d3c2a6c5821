/-
  File:      Kalm/Lib/Shares.lean
  Subject:   SHARES: a list of numbers of which one entry takes the rest.

  * `First`, `first_unique` -- the first of the largest entries;
  * `others` -- the sum of the other entries; `sum_modify` -- the sum when one entry takes another value;
  * `share`, `share_mono`, `share_nonneg_iff` -- a part of a total in percent, rounded half up.
-/
import Mathlib.Algebra.Order.BigOperators.Group.List
import Mathlib.Algebra.Order.Ring.Int
import Mathlib.Data.List.GetD

namespace Shares

variable {l : List Int} {k k' i : Nat}

/-! ## 1. The first of the largest -/

/-- The first of the largest entries. -/
structure First (l : List Int) (k : Nat) : Prop where
  lt : k < l.length
  largest : ∀ i < l.length, l.getD i 0 ≤ l.getD k 0
  first : ∀ i < k, l.getD i 0 < l.getD k 0

/-- There is only one. -/
theorem first_unique (h : First l k) (h' : First l k') : k = k' := by
  rcases Nat.lt_trichotomy k k' with hlt | heq | hgt
  · have hle := h.largest k' h'.lt
    have hless := h'.first k hlt
    omega
  · exact heq
  · have hle := h'.largest k h.lt
    have hless := h.first k' hgt
    omega

/-! ## 2. One entry takes the rest -/

/-- The sum of the other entries. -/
def others (l : List Int) (k : Nat) : Int := l.sum - l.getD k 0

theorem getD_modify (l : List Int) (f : Int → Int) (h : k < l.length) :
    (l.modify k f).getD i 0 = if i = k then f (l.getD k 0) else l.getD i 0 := by
  rw [List.getD_eq_getElem?_getD, List.getElem?_modify]
  split
  · rename_i heq
    subst heq
    rw [if_pos rfl, List.getD_eq_getElem?_getD, List.getElem?_eq_getElem h]
    rfl
  · rename_i hne
    rw [if_neg fun e => hne e.symm, List.getD_eq_getElem?_getD]
    cases l[i]? <;> rfl

theorem modify_congr {f g : Int → Int} (h : f (l.getD k 0) = g (l.getD k 0)) : l.modify k f = l.modify k g := by
  induction l generalizing k with
  | nil => rw [List.modify_nil, List.modify_nil]
  | cons a l ih =>
      cases k with
      | zero =>
          rw [List.getD_cons_zero] at h
          rw [List.modify_zero_cons, List.modify_zero_cons, h]
      | succ k => rw [List.modify_succ_cons, List.modify_succ_cons, ih h]

theorem modify_self {f : Int → Int} (h : f (l.getD k 0) = l.getD k 0) : l.modify k f = l := by
  rw [modify_congr (g := id) h, List.modify_id]

theorem sum_modify (f : Int → Int) (h : k < l.length) : (l.modify k f).sum = others l k + f (l.getD k 0) := by
  unfold others
  induction l generalizing k with
  | nil => cases h
  | cons a l ih =>
      cases k with
      | zero =>
          rw [List.modify_zero_cons, List.sum_cons, List.sum_cons, List.getD_cons_zero]
          omega
      | succ k =>
          rw [List.modify_succ_cons, List.sum_cons, List.sum_cons, List.getD_cons_succ,
            ih (Nat.lt_of_succ_lt_succ h)]
          omega

/-- The other entries are counted in the sum: where none is negative, neither is their sum, and each is at most their
    sum. -/
theorem others_nonneg (hk : k < l.length) (h : ∀ i < l.length, i ≠ k → 0 ≤ l.getD i 0) :
    0 ≤ others l k ∧ ∀ i < l.length, i ≠ k → l.getD i 0 ≤ others l k := by
  -- the list with the entry set to zero
  have hsum : (l.modify k fun _ => 0).sum = others l k := by rw [sum_modify _ hk, Int.add_zero]
  have hentry (i : Nat) (hi : i < l.length) (hne : i ≠ k) : (l.modify k fun _ => 0).getD i 0 = l.getD i 0 := by
    rw [getD_modify _ _ hk, if_neg hne]
  have hnonneg : ∀ a ∈ l.modify k fun _ => 0, 0 ≤ a := by
    intro a ha
    obtain ⟨i, hi, rfl⟩ := List.getElem_of_mem ha
    have hget := getD_modify (i := i) l (fun _ => 0) hk
    rw [List.getD_eq_getElem _ _ hi] at hget
    rw [hget]
    split
    · exact Int.le_refl 0
    · rename_i hne
      exact h i (by rwa [List.length_modify] at hi) hne
  refine ⟨hsum ▸ List.sum_nonneg hnonneg, fun i hi hne => ?_⟩
  rw [← hsum, ← hentry i hi hne]
  have hi' : i < (l.modify k fun _ => 0).length := by rwa [List.length_modify]
  rw [List.getD_eq_getElem _ _ hi']
  exact List.single_le_sum hnonneg _ (List.getElem_mem hi')

/-! ## 3. Percentages -/

/-- A part of a total in percent, rounded half up. -/
def share (a total : Int) : Int := Int.fdiv (200 * a + total) (2 * total)

variable {a b total : Int}

theorem share_zero : share 0 total = 0 := by
  unfold share
  rw [Int.mul_zero, Int.zero_add]
  rcases Int.lt_trichotomy total 0 with hneg | rfl | hpos
  · rw [← Int.neg_fdiv_neg]
    exact Int.fdiv_eq_zero_of_lt (by omega) (by omega)
  · rfl
  · exact Int.fdiv_eq_zero_of_lt (by omega) (by omega)

theorem share_mono (htotal : 0 < total) (h : a ≤ b) : share a total ≤ share b total := by
  unfold share
  rw [Int.fdiv_eq_ediv_of_nonneg _ (by omega), Int.fdiv_eq_ediv_of_nonneg _ (by omega)]
  exact Int.ediv_le_ediv (by omega) (by omega)

/-- In percent of a negative total no part is positive, and the small ones are nothing. -/
theorem share_nonpos (htotal : total < 0) (ha : 0 ≤ a) : share a total ≤ 0 := by
  unfold share
  rw [← Int.neg_fdiv_neg, Int.fdiv_eq_ediv_of_nonneg _ (by omega)]
  exact Int.lt_add_one_iff.mp (Int.ediv_lt_of_lt_mul (by omega) (by omega))

theorem share_nonneg_iff (htotal : total < 0) : 0 ≤ share a total ↔ 200 * a ≤ -total := by
  unfold share
  rw [← Int.neg_fdiv_neg, Int.fdiv_eq_ediv_of_nonneg _ (by omega), Int.le_ediv_iff_mul_le (by omega)]
  omega

end Shares
