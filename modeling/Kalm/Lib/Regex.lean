/-
  File:      Kalm/Lib/Regex.lean
  Subject:   REGULAR EXPRESSIONS as programs write them, on top of Mathlib's: classes of symbols, literals, optional
             and repeated parts.

  * `oneOf`, `literal`, `opt`, `many`, `many1` -- what is written `[…]`, `abc`, `(…)?`, `(…)*` and `(…)+`;
  * `mem_star_oneOf`, `mem_many1_oneOf` -- repeated classes;
  * `words`, `mem_words` -- the finitely many words of an expression without repetition;
  * `symbols`, `mem_symbols` -- the symbols of the words that it matches;
  * `mem_joined` -- words that are each closed by a separator, and a last one behind them, as the pieces of a split.
-/
import Mathlib.Computability.RegularExpressions
import Kalm.Lib.Fields

namespace Regex

open RegularExpression

variable {α : Type} {P Q : RegularExpression α} {l : List α} {s : List α}

/-! ## 1. Expressions -/

/-- A class of symbols. -/
def oneOf (l : List α) : RegularExpression α := l.foldr (fun a P => char a + P) 0

/-- A word. -/
def literal (w : List α) : RegularExpression α := w.foldr (fun a P => char a * P) 1

/-- A part that may be missing. -/
def opt (P : RegularExpression α) : RegularExpression α := 1 + P

/-- A part that is repeated. -/
abbrev many (P : RegularExpression α) : RegularExpression α := star P

/-- A part that is repeated, and there at least once. -/
def many1 (P : RegularExpression α) : RegularExpression α := P * star P

/-! ## 2. What they match -/

theorem mem_char {a : α} : s ∈ (char a).matches' ↔ s = [a] := Iff.rfl

theorem mem_plus : s ∈ (P + Q).matches' ↔ s ∈ P.matches' ∨ s ∈ Q.matches' := Iff.rfl

theorem mem_comp : s ∈ (P * Q).matches' ↔ ∃ t ∈ P.matches', ∃ u ∈ Q.matches', t ++ u = s := Iff.rfl

theorem mem_opt : s ∈ (opt P).matches' ↔ s = [] ∨ s ∈ P.matches' := Iff.rfl

theorem mem_oneOf : s ∈ (oneOf l).matches' ↔ ∃ a ∈ l, s = [a] := by
  induction l with
  | nil => exact ⟨fun h => h.elim, fun ⟨_, ha, _⟩ => absurd ha List.not_mem_nil⟩
  | cons a l ih =>
      have hcons : s ∈ (oneOf (a :: l)).matches' ↔ s = [a] ∨ s ∈ (oneOf l).matches' := Iff.rfl
      rw [hcons, ih, List.exists_mem_cons_iff]

theorem mem_literal {w : List α} : s ∈ (literal w).matches' ↔ s = w := by
  induction w generalizing s with
  | nil => exact Iff.rfl
  | cons a w ih =>
      have hcons : s ∈ (literal (a :: w)).matches' ↔ ∃ t ∈ (char a).matches', ∃ u ∈ (literal w).matches', t ++ u = s :=
        Iff.rfl
      rw [hcons]
      constructor
      · intro ⟨t, ht, u, hu, hs⟩
        rw [← hs, mem_char.mp ht, ih.mp hu]
        rfl
      · intro hs
        exact ⟨[a], rfl, w, ih.mpr rfl, hs.symm⟩

theorem mem_star : s ∈ (star P).matches' ↔ ∃ words : List (List α), s = words.flatten ∧ ∀ w ∈ words, w ∈ P.matches' :=
  Language.mem_kstar

/-- **A repeated class**: every symbol is of it. -/
theorem mem_star_oneOf : s ∈ (star (oneOf l)).matches' ↔ ∀ a ∈ s, a ∈ l := by
  rw [mem_star]
  constructor
  · intro ⟨words, hs, hwords⟩ a ha
    rw [hs] at ha
    obtain ⟨w, hw, haw⟩ := List.mem_flatten.mp ha
    obtain ⟨b, hb, rfl⟩ := mem_oneOf.mp (hwords w hw)
    rw [List.mem_singleton.mp haw]
    exact hb
  · intro hall
    have hflat : s = (s.map fun a => [a]).flatten := by rw [← List.flatMap_def, List.flatMap_singleton']
    refine ⟨s.map fun a => [a], hflat, fun w hw => ?_⟩
    obtain ⟨a, ha, rfl⟩ := List.mem_map.mp hw
    exact mem_oneOf.mpr ⟨a, hall a ha, rfl⟩

theorem mem_many1_oneOf : s ∈ (many1 (oneOf l)).matches' ↔ s ≠ [] ∧ ∀ a ∈ s, a ∈ l := by
  rw [many1, mem_comp]
  constructor
  · intro ⟨t, ht, u, hu, hs⟩
    obtain ⟨a, ha, rfl⟩ := mem_oneOf.mp ht
    rw [← hs]
    refine ⟨List.cons_ne_nil _ _, fun b hb => ?_⟩
    rcases List.mem_cons.mp hb with rfl | hb
    · exact ha
    · exact mem_star_oneOf.mp hu b hb
  · intro ⟨hne, hall⟩
    obtain ⟨a, u, rfl⟩ := List.exists_cons_of_ne_nil hne
    exact ⟨[a], mem_oneOf.mpr ⟨a, hall a List.mem_cons_self, rfl⟩, u,
      mem_star_oneOf.mpr fun b hb => hall b (List.mem_cons_of_mem _ hb), rfl⟩

theorem mem_separated {sep : α} :
    s ∈ (P * (char sep * Q)).matches' ↔ ∃ t ∈ P.matches', ∃ u ∈ Q.matches', s = t ++ sep :: u := by
  rw [mem_comp]
  constructor
  · intro ⟨t, ht, v, hv, hs⟩
    obtain ⟨c, hc, u, hu, rfl⟩ := mem_comp.mp hv
    obtain rfl := mem_char.mp hc
    exact ⟨t, ht, u, hu, hs.symm⟩
  · intro ⟨t, ht, u, hu, hs⟩
    exact ⟨t, ht, sep :: u, mem_comp.mpr ⟨[sep], rfl, u, hu, rfl⟩, hs.symm⟩

/-! ## 3. Expressions without repetition -/

/-- Nothing is repeated. -/
def starFree : RegularExpression α → Bool
  | .zero => true
  | .epsilon => true
  | .char _ => true
  | .plus P Q => starFree P && starFree Q
  | .comp P Q => starFree P && starFree Q
  | .star _ => false

/-- The words of such an expression. -/
def words : RegularExpression α → List (List α)
  | .zero => []
  | .epsilon => [[]]
  | .char a => [[a]]
  | .plus P Q => words P ++ words Q
  | .comp P Q => (words P).flatMap fun t => (words Q).map fun u => t ++ u
  | .star _ => []

/-- **It matches these words.** -/
theorem mem_words {P : RegularExpression α} (h : starFree P = true) : s ∈ P.matches' ↔ s ∈ words P := by
  induction P generalizing s with
  | zero => exact ⟨fun hs => hs.elim, fun hs => absurd hs List.not_mem_nil⟩
  | epsilon => exact List.mem_singleton.symm
  | char a => exact List.mem_singleton.symm
  | plus P Q ihP ihQ =>
      obtain ⟨hP, hQ⟩ := Bool.and_eq_true_iff.mp h
      have hplus : s ∈ (RegularExpression.plus P Q).matches' ↔ s ∈ P.matches' ∨ s ∈ Q.matches' := Iff.rfl
      rw [hplus, ihP hP, ihQ hQ, words, List.mem_append]
  | comp P Q ihP ihQ =>
      obtain ⟨hP, hQ⟩ := Bool.and_eq_true_iff.mp h
      have hcomp : s ∈ (RegularExpression.comp P Q).matches' ↔ ∃ t ∈ P.matches', ∃ u ∈ Q.matches', t ++ u = s := Iff.rfl
      rw [hcomp, words, List.mem_flatMap]
      constructor
      · intro ⟨t, ht, u, hu, hs⟩
        exact ⟨t, (ihP hP).mp ht, List.mem_map.mpr ⟨u, (ihQ hQ).mp hu, hs⟩⟩
      · intro ⟨t, ht, hs⟩
        obtain ⟨u, hu, hs⟩ := List.mem_map.mp hs
        exact ⟨t, (ihP hP).mpr ht, u, (ihQ hQ).mpr hu, hs⟩
  | star P => cases h

/-! ## 4. The symbols of an expression -/

/-- The symbols that stand in it. -/
def symbols : RegularExpression α → List α
  | .zero => []
  | .epsilon => []
  | .char a => [a]
  | .plus P Q => symbols P ++ symbols Q
  | .comp P Q => symbols P ++ symbols Q
  | .star P => symbols P

/-- **A word that it matches** has no others. -/
theorem mem_symbols {P : RegularExpression α} (h : s ∈ P.matches') : ∀ a ∈ s, a ∈ symbols P := by
  induction P generalizing s with
  | zero => exact h.elim
  | epsilon =>
      obtain rfl : s = [] := h
      exact fun _ ha => absurd ha List.not_mem_nil
  | char a =>
      obtain rfl : s = [a] := h
      exact fun _ hb => hb
  | plus P Q ihP ihQ =>
      intro a ha
      rcases h with h | h
      · exact List.mem_append_left _ (ihP h a ha)
      · exact List.mem_append_right _ (ihQ h a ha)
  | comp P Q ihP ihQ =>
      obtain ⟨t, ht, u, hu, rfl⟩ := mem_comp.mp h
      intro a ha
      rcases List.mem_append.mp ha with ha | ha
      · exact List.mem_append_left _ (ihP ht a ha)
      · exact List.mem_append_right _ (ihQ hu a ha)
  | star P ih =>
      obtain ⟨ws, rfl, hws⟩ := mem_star.mp h
      intro a ha
      obtain ⟨w, hw, haw⟩ := List.mem_flatten.mp ha
      exact ih (hws w hw) a haw

/-! ## 5. Words between separators -/

section Joined

variable {p q : List α} {sep : α}

/-- Words of a class. -/
def IsWord (p w : List α) : Prop := w ≠ [] ∧ ∀ a ∈ w, a ∈ p

theorem mem_closed : s ∈ (many1 (oneOf p) * char sep).matches' ↔ ∃ w, IsWord p w ∧ s = w ++ [sep] := by
  rw [mem_comp]
  constructor
  · intro ⟨w, hw, u, hu, hs⟩
    exact ⟨w, mem_many1_oneOf.mp hw, by rw [← hs, mem_char.mp hu]⟩
  · intro ⟨w, hw, hs⟩
    exact ⟨w, mem_many1_oneOf.mpr hw, [sep], rfl, hs.symm⟩

theorem mem_star_closed : s ∈ (star (many1 (oneOf p) * char sep)).matches' ↔
    ∃ words, s = Fields.unlines sep words ∧ ∀ w ∈ words, IsWord p w := by
  rw [mem_star]
  constructor
  · intro ⟨parts, hs, hparts⟩
    subst hs
    induction parts with
    | nil => exact ⟨[], rfl, fun _ hw => absurd hw List.not_mem_nil⟩
    | cons part parts ih =>
        obtain ⟨w, hw, rfl⟩ := mem_closed.mp (hparts part List.mem_cons_self)
        obtain ⟨words, hs, hwords⟩ := ih fun w hw => hparts w (List.mem_cons_of_mem _ hw)
        refine ⟨w :: words, ?_, List.forall_mem_cons.mpr ⟨hw, hwords⟩⟩
        rw [List.flatten_cons, hs]
        rfl
  · intro ⟨words, hs, hwords⟩
    refine ⟨words.map fun w => w ++ [sep], ?_, fun part hpart => ?_⟩
    · rw [hs, Fields.unlines, List.flatMap_def]
    · obtain ⟨w, hw, rfl⟩ := List.mem_map.mp hpart
      exact mem_closed.mpr ⟨w, hwords w hw, rfl⟩

theorem mem_many1_closed : s ∈ (many1 (many1 (oneOf p) * char sep)).matches' ↔
    ∃ words, words ≠ [] ∧ s = Fields.unlines sep words ∧ ∀ w ∈ words, IsWord p w := by
  rw [many1, mem_comp]
  constructor
  · intro ⟨t, ht, u, hu, hs⟩
    obtain ⟨w, hw, rfl⟩ := mem_closed.mp ht
    obtain ⟨words, rfl, hwords⟩ := mem_star_closed.mp hu
    exact ⟨w :: words, List.cons_ne_nil _ _, hs.symm, List.forall_mem_cons.mpr ⟨hw, hwords⟩⟩
  · intro ⟨words, hne, hs, hwords⟩
    obtain ⟨w, words, rfl⟩ := List.exists_cons_of_ne_nil hne
    obtain ⟨hw, hwords⟩ := List.forall_mem_cons.mp hwords
    exact ⟨w ++ [sep], mem_closed.mpr ⟨w, hw, rfl⟩, Fields.unlines sep words, mem_star_closed.mpr ⟨words, rfl, hwords⟩,
      hs.symm⟩

theorem intercalate_eq_unlines (words : List (List α)) (last : List α) :
    [sep].intercalate (words ++ [last]) = Fields.unlines sep words ++ last := by
  induction words with
  | nil => exact List.intercalate_singleton
  | cons w words ih =>
      have hne : words ++ [last] ≠ [] := List.append_ne_nil_of_right_ne_nil _ (List.cons_ne_nil _ _)
      obtain ⟨first, rest, hrest⟩ := List.exists_cons_of_ne_nil hne
      rw [List.cons_append, hrest, List.intercalate_cons_cons, ← hrest, ih, Fields.unlines_cons, List.append_assoc,
        List.append_assoc]
      rfl

variable [DecidableEq α]

/-- Closed words and a last one are the pieces of a split. -/
theorem splitOn_unlines_append {words : List (List α)} (hwords : ∀ w ∈ words, sep ∉ w) {last : List α}
    (hlast : sep ∉ last) : (Fields.unlines sep words ++ last).splitOn sep = words ++ [last] := by
  induction words with
  | nil => exact List.splitOn_eq_singleton hlast
  | cons w words ih =>
      obtain ⟨hw, hwords⟩ := List.forall_mem_cons.mp hwords
      rw [Fields.unlines_cons, List.append_assoc, List.cons_append, List.splitOn_append_cons_self, ih hwords,
        List.splitOn_eq_singleton hw]
      rfl

/-- **Words that are closed by a separator, and a last one of another class**: the pieces of the text. -/
theorem mem_joined (hp : sep ∉ p) (hq : sep ∉ q) :
    s ∈ (many1 (many1 (oneOf p) * char sep) * many1 (oneOf q)).matches' ↔
      ∃ words last, s.splitOn sep = words ++ [last] ∧ words ≠ [] ∧ (∀ w ∈ words, IsWord p w) ∧ IsWord q last := by
  rw [mem_comp]
  constructor
  · intro ⟨t, ht, last, hlast, hs⟩
    obtain ⟨words, hne, rfl, hwords⟩ := mem_many1_closed.mp ht
    have hlast := mem_many1_oneOf.mp hlast
    refine ⟨words, last, ?_, hne, hwords, hlast⟩
    rw [← hs]
    exact splitOn_unlines_append (fun w hw hmem => hp ((hwords w hw).2 sep hmem)) fun hmem => hq (hlast.2 sep hmem)
  · intro ⟨words, last, hs, hne, hwords, hlast⟩
    refine ⟨Fields.unlines sep words, mem_many1_closed.mpr ⟨words, hne, rfl, hwords⟩, last,
      mem_many1_oneOf.mpr hlast, ?_⟩
    have hjoin : [sep].intercalate (s.splitOn sep) = s := List.intercalate_splitOn sep
    rw [← hjoin, hs, intercalate_eq_unlines]

end Joined

end Regex
