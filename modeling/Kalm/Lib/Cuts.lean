/-
  File:      Kalm/Lib/Cuts.lean
  Subject:   A LIST CUT IN TWO at the first or the last separator.

  * `cut`, `cutLast` -- what is in front of the separator and what is behind it, or nothing;
  * `cut_eq_some`, `cutLast_eq_some` -- what they find.
-/
import Mathlib.Data.List.Basic

namespace Cuts

variable {α : Type} [DecidableEq α] {c : α} {s a b : List α}

/-- At the first separator. -/
def cut (c : α) (s : List α) : Option (List α × List α) :=
  if c ∈ s then some (s.takeWhile (· ≠ c), (s.dropWhile (· ≠ c)).tail) else none

/-- At the last one. -/
def cutLast (c : α) (s : List α) : Option (List α × List α) :=
  (cut c s.reverse).map fun (back, front) => (front.reverse, back.reverse)

theorem cut_append (h : c ∉ a) : cut c (a ++ c :: b) = some (a, b) := by
  have hall : ∀ x ∈ a, decide (x ≠ c) = true := fun x hx => decide_eq_true fun heq => h (heq ▸ hx)
  have hstop : (c :: b).takeWhile (fun x => decide (x ≠ c)) = [] ∧
      (c :: b).dropWhile (fun x => decide (x ≠ c)) = c :: b :=
    ⟨List.takeWhile_cons_of_neg (by simp), List.dropWhile_cons_of_neg (by simp)⟩
  rw [cut, if_pos (List.mem_append_right _ List.mem_cons_self), List.takeWhile_append_of_pos hall,
    List.dropWhile_append_of_pos hall, hstop.1, hstop.2, List.append_nil, List.tail_cons]

theorem cut_eq_none : cut c s = none ↔ c ∉ s := by
  unfold cut
  rw [ite_eq_right_iff]
  exact ⟨fun h hmem => Option.some_ne_none _ (h hmem), fun h hmem => absurd hmem h⟩

/-- **The cut at the first separator.** -/
theorem cut_eq_some : cut c s = some (a, b) ↔ c ∉ a ∧ s = a ++ c :: b := by
  constructor
  · intro h
    have hmem : c ∈ s := by
      by_contra hnot
      rw [cut_eq_none.mpr hnot] at h
      cases h
    obtain ⟨front, back, rfl, hfront⟩ := List.eq_append_cons_of_mem hmem
    rw [cut_append hfront] at h
    obtain ⟨rfl, rfl⟩ := Prod.mk.inj (Option.some.inj h)
    exact ⟨hfront, rfl⟩
  · intro ⟨ha, hs⟩
    rw [hs, cut_append ha]

theorem cutLast_eq_none : cutLast c s = none ↔ c ∉ s := by
  rw [cutLast, Option.map_eq_none_iff, cut_eq_none, List.mem_reverse]

/-- **The cut at the last one.** -/
theorem cutLast_eq_some : cutLast c s = some (a, b) ↔ c ∉ b ∧ s = a ++ c :: b := by
  unfold cutLast
  rw [Option.map_eq_some_iff]
  constructor
  · intro ⟨⟨back, front⟩, hcut, heq⟩
    obtain ⟨rfl, rfl⟩ := Prod.mk.inj heq
    obtain ⟨hback, hs⟩ := cut_eq_some.mp hcut
    rw [List.reverse_eq_iff] at hs
    rw [List.mem_reverse, hs, List.reverse_append, List.reverse_cons, List.append_assoc]
    exact ⟨hback, rfl⟩
  · intro ⟨hb, hs⟩
    have hreverse : s.reverse = b.reverse ++ c :: a.reverse := by
      rw [hs, List.reverse_append, List.reverse_cons, List.append_assoc]
      rfl
    refine ⟨(b.reverse, a.reverse), cut_eq_some.mpr ⟨List.mem_reverse.not.mpr hb, hreverse⟩, ?_⟩
    dsimp only
    rw [List.reverse_reverse, List.reverse_reverse]

end Cuts
