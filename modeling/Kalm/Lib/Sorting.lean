/-
  File:      Kalm/Lib/Sorting.lean
  Subject:   SORTING BY A COMPARISON, and the longest prefix in a sorted list.

  * `StrictWeak` -- a comparison under which not being in front is a total preorder;
  * `Procedure` -- a sorting procedure: what it returns is a sorted permutation. Nothing is said about
    elements that tie; it looks at the elements through the comparison only (`map`);
  * `insertion` -- insertion sort, where ties keep their order (`filter_insertion`);
  * `prefix_of_find?` -- among keys in descending lexicographic order the first prefix of a text is the
    longest one.
-/
import Mathlib.Data.List.Sort

namespace Sorting

/-! ## 1. Procedures -/

/-- A strict weak order on the elements of a list. -/
structure StrictWeak {α : Type} (less : α → α → Bool) (l : List α) : Prop where
  asymm : ∀ a ∈ l, ∀ b ∈ l, less a b = true → less b a = false
  trans : ∀ a ∈ l, ∀ b ∈ l, ∀ c ∈ l, less b a = false → less c b = false → less c a = false

/-- A sorting procedure. -/
structure Procedure where
  sort : {α : Type} → (α → α → Bool) → List α → List α
  perm : ∀ {α : Type} (less : α → α → Bool) (l : List α), (sort less l).Perm l
  sorted : ∀ {α : Type} (less : α → α → Bool) (l : List α), StrictWeak less l →
    (sort less l).Pairwise fun a b => less b a = false
  map : ∀ {α β : Type} (f : α → β) (less : β → β → Bool) (l : List α),
    sort less (l.map f) = (sort (fun a b => less (f a) (f b)) l).map f

variable {α : Type} {less : α → α → Bool} {l : List α}

theorem Procedure.mem_sort (p : Procedure) {a : α} : a ∈ p.sort less l ↔ a ∈ l :=
  (p.perm less l).mem_iff

/-! ## 2. Insertion sort -/

/-- The order of insertion sort: `a` may stand in front of `b`. -/
def notBehind (less : α → α → Bool) (a b : α) : Prop := less b a = false

instance (less : α → α → Bool) : DecidableRel (notBehind less) :=
  fun a b => inferInstanceAs (Decidable (less b a = false))

theorem pairwise_insertionSort_of_strictWeak (h : StrictWeak less l) :
    (l.insertionSort (notBehind less)).Pairwise (notBehind less) := by
  -- the order is total on the elements of the list only
  have hmap : (l.attach.insertionSort (notBehind fun a b : {x // x ∈ l} => less a b)).map Subtype.val =
      l.insertionSort (notBehind less) := by
    rw [List.map_insertionSort (notBehind fun a b : {x // x ∈ l} => less a b) (notBehind less)
      Subtype.val l.attach fun _ _ _ _ => Iff.rfl, List.attach_map_subtype_val]
  have htotal : Std.Total (notBehind fun a b : {x // x ∈ l} => less a b) := by
    refine ⟨fun a b => ?_⟩
    cases hab : less a b with
    | false => exact Or.inr hab
    | true => exact Or.inl (h.asymm a a.2 b b.2 hab)
  have htrans : IsTrans {x // x ∈ l} (notBehind fun a b : {x // x ∈ l} => less a b) :=
    ⟨fun a b c => h.trans a a.2 b b.2 c c.2⟩
  rw [← hmap, List.pairwise_map]
  exact List.pairwise_insertionSort (notBehind fun a b : {x // x ∈ l} => less a b) l.attach

/-- Insertion sort. -/
def insertion : Procedure where
  sort less l := l.insertionSort (notBehind less)
  perm less l := List.perm_insertionSort (notBehind less) l
  sorted _ _ h := pairwise_insertionSort_of_strictWeak h
  map f less l := by
    rw [List.map_insertionSort (notBehind fun a b => less (f a) (f b)) (notBehind less) f l
      fun _ _ _ _ => Iff.rfl]

/-- **Insertion sort keeps the order of elements that tie.** -/
theorem filter_insertion (p : α → Bool)
    (htie : ∀ a ∈ l, ∀ b ∈ l, p a = true → p b = true → less a b = false) :
    (insertion.sort less l).filter p = l.filter p := by
  have hpair : (l.filter p).Pairwise (notBehind less) := by
    refine List.pairwise_of_forall_mem_list fun a ha b hb => ?_
    rw [List.mem_filter] at ha hb
    exact htie b hb.1 a ha.1 hb.2 ha.2
  have hsub : (l.filter p).Sublist (insertion.sort less l) :=
    List.sublist_insertionSort hpair List.filter_sublist
  have hsame : (l.filter p).Sublist ((insertion.sort less l).filter p) := by
    have hf := hsub.filter p
    rwa [List.filter_filter, show (fun a => p a && p a) = p from funext fun a => Bool.and_self _] at hf
  exact (hsame.eq_of_length ((insertion.perm less l).filter p).length_eq.symm).symm

/-! ## 3. The longest prefix -/

section Prefixes

variable {A B : Type} [LT A] [LE A] [Std.IsLinearOrder A] [Std.LawfulOrderLT A] {key : B → List A}
  {sorted : List B} {text : List A}

/-- Descending by a key is a strict weak order. -/
theorem StrictWeak.of_key [DecidableEq A] [DecidableLT A] {less : B → B → Bool} {l : List B}
    (h : ∀ a ∈ l, ∀ b ∈ l, less a b = decide (key b < key a)) : StrictWeak less l where
  asymm a ha b hb hab := by
    rw [h a ha b hb, decide_eq_true_eq] at hab
    rw [h b hb a ha]
    exact decide_eq_false (List.lt_asymm hab)
  trans a ha b hb c hc hba hcb := by
    rw [h b hb a ha, decide_eq_false_iff_not, List.not_lt] at hba
    rw [h c hc b hb, decide_eq_false_iff_not, List.not_lt] at hcb
    rw [h c hc a ha]
    exact decide_eq_false (List.not_lt.mpr (List.le_trans hcb hba))

/-- A prefix of a text that is not in front of another one is a prefix of it. -/
theorem prefix_of_le {s t : List A} (hs : s <+: text) (ht : t <+: text) (h : s ≤ t) : s <+: t := by
  rcases List.prefix_or_prefix_of_prefix hs ht with hst | hts
  · exact hst
  · have hsame : s = t := List.le_antisymm h hts.le
    exact hsame ▸ List.prefix_refl s

/-- **The first key that is a prefix of the text is the longest.** -/
theorem prefix_of_find? [DecidableEq A] (hsorted : sorted.Pairwise fun a b => key b ≤ key a) {b : B}
    (hb : sorted.find? (fun b => (key b).isPrefixOf text) = some b) {c : B} (hc : c ∈ sorted)
    (hpre : key c <+: text) : key c <+: key b := by
  obtain ⟨hbtext, front, back, rfl, hfront⟩ := List.find?_eq_some_iff_append.mp hb
  rw [List.isPrefixOf_iff_prefix] at hbtext
  rcases List.mem_append.mp hc with hc | hc
  · have hno := hfront c hc
    rw [List.isPrefixOf_iff_prefix.mpr hpre] at hno
    exact absurd hno (by decide)
  · rcases List.mem_cons.mp hc with rfl | hc
    · exact List.prefix_refl _
    · have hle := (List.pairwise_cons.mp (List.pairwise_append.mp hsorted).2.1).1 c hc
      exact prefix_of_le hpre hbtext hle

end Prefixes

end Sorting
