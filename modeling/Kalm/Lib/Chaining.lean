/-
  File:      Kalm/Lib/Chaining.lean
  Subject:   CIPHER BLOCK CHAINING over any blocks: a block is combined with the cipher text in front of it
             before it is enciphered.

  * `encipher`, `decipher` -- the two directions; `decipher_encipher`;
  * `Block`, `toBlocks`, `ofBlocks` -- a text of whole blocks.
-/
import Mathlib.Logic.Equiv.Defs
import Mathlib.Data.List.Basic

namespace Chaining

/-! ## 1. The chain -/

section Chain

variable {β : Type} (combine : β → β → β) (E : Equiv.Perm β)

/-- The cipher text of some blocks, behind the block `iv`. -/
def encipher (iv : β) : List β → List β
  | [] => []
  | p :: ps => E (combine p iv) :: encipher (E (combine p iv)) ps

/-- The blocks of a cipher text behind the block `iv`. -/
def decipher (iv : β) : List β → List β
  | [] => []
  | c :: cs => combine (E.symm c) iv :: decipher c cs

/-- **What was enciphered is deciphered**, where combining twice with one block changes nothing. -/
theorem decipher_encipher (hcombine : ∀ a b, combine (combine a b) b = a) (iv : β) (ps : List β) :
    decipher combine E iv (encipher combine E iv ps) = ps := by
  induction ps generalizing iv with
  | nil => rfl
  | cons p ps ih => rw [encipher, decipher, Equiv.symm_apply_apply, hcombine, ih]

end Chain

/-! ## 2. Whole blocks -/

/-- A block of `n` units. -/
abbrev Block (α : Type) (n : Nat) := { block : List α // block.length = n }

section Blocks

variable {α : Type} {n : Nat}

/-- The whole blocks of a text. -/
def toBlocks (n : Nat) (hn : 0 < n) (text : List α) : List (Block α n) :=
  if h : n ≤ text.length then
    ⟨text.take n, by rw [List.length_take, Nat.min_eq_left h]⟩ :: toBlocks n hn (text.drop n)
  else []
termination_by text.length
decreasing_by
  rw [List.length_drop]
  omega

/-- The text of some blocks. -/
def ofBlocks (blocks : List (Block α n)) : List α := blocks.flatMap Subtype.val

theorem length_ofBlocks (blocks : List (Block α n)) : (ofBlocks blocks).length = n * blocks.length := by
  induction blocks with
  | nil => rfl
  | cons b blocks ih =>
      have hcons : ofBlocks (b :: blocks) = b.val ++ ofBlocks blocks := rfl
      rw [hcons, List.length_append, b.property, ih, List.length_cons, Nat.mul_succ, Nat.add_comm]

/-- The blocks of some blocks. -/
theorem toBlocks_ofBlocks (hn : 0 < n) (blocks : List (Block α n)) : toBlocks n hn (ofBlocks blocks) = blocks := by
  induction blocks with
  | nil =>
      rw [toBlocks, dif_neg]
      exact Nat.not_le.mpr hn
  | cons b blocks ih =>
      have hcons : ofBlocks (b :: blocks) = b.val ++ ofBlocks blocks := rfl
      have hle : n ≤ (ofBlocks (b :: blocks)).length := by
        rw [hcons, List.length_append, b.property]
        exact Nat.le_add_right _ _
      rw [toBlocks, dif_pos hle]
      simp only [hcons]
      congr 1
      · exact Subtype.ext (List.take_left' b.property)
      · rw [List.drop_left' b.property, ih]

/-- A text of whole blocks is the text of its blocks. -/
theorem ofBlocks_toBlocks (hn : 0 < n) (text : List α) (h : n ∣ text.length) :
    ofBlocks (toBlocks n hn text) = text := by
  induction text using toBlocks.induct n hn with
  | case1 text hle ih =>
      have hrest : n ∣ (text.drop n).length := by
        rw [List.length_drop]
        exact Nat.dvd_sub h (Nat.dvd_refl n)
      rw [toBlocks, dif_pos hle]
      exact (congrArg (text.take n ++ ·) (ih hrest)).trans (List.take_append_drop n text)
  | case2 text hlt =>
      have hzero : text.length = 0 := Nat.eq_zero_of_dvd_of_lt h (Nat.not_le.mp hlt)
      rw [toBlocks, dif_neg hlt, List.eq_nil_of_length_eq_zero hzero]
      rfl

end Blocks

end Chaining
