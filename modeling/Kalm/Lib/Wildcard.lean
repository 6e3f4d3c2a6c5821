/-
  File:      Kalm/Lib/Wildcard.lean
  Subject:   PREFIX PATTERNS over any alphabet: a pattern is a text in which the first `star`
             stands for every continuation; without a star it stands for itself.

  * `Matches` -- what a pattern stands for;
  * `matches_self`, `matches_trans` -- a pattern matches itself read as a text, and matching is
    transitive: what matches a pattern that itself matches a second one matches the second one.
    This is the containment argument behind every check that asks about a pattern as a text.
-/
import Mathlib.Data.List.Infix
import Mathlib.Data.List.Basic

namespace Wildcard

variable {α : Type} [DecidableEq α]

/-- The part of a pattern before its first star. -/
def before (star : α) (pat : List α) : List α := pat.takeWhile (fun c => c ≠ star)

/-- The texts a pattern stands for. -/
def Matches (star : α) (key pat : List α) : Prop :=
  if star ∈ pat then before star pat <+: key else key = pat

instance (star : α) (key pat : List α) : Decidable (Matches star key pat) := by
  unfold Matches
  infer_instance

theorem before_isPre (star : α) (pat : List α) : before star pat <+: pat :=
  List.takeWhile_prefix _

theorem not_mem_before (star : α) (pat : List α) : star ∉ before star pat := by
  induction pat with
  | nil => exact List.not_mem_nil
  | cons c pat ih =>
      by_cases h : c = star
      · simp [before, h]
      · have e : before star (c :: pat) = c :: before star pat := by simp [before, h]
        rw [e, List.mem_cons, not_or]
        exact ⟨fun e => h e.symm, ih⟩

theorem before_cons_self (star : α) (pat : List α) : before star (star :: pat) = [] := by
  simp [before]

theorem before_cons_of_ne {star c : α} (h : c ≠ star) (pat : List α) :
    before star (c :: pat) = c :: before star pat := by
  simp [before, h]

/-- A prefix without a star lies before the first star. -/
theorem pre_before_of_pre {star : α} {l pat : List α} (hl : star ∉ l) (hp : l <+: pat) :
    l <+: before star pat := by
  induction l generalizing pat with
  | nil => exact List.nil_prefix
  | cons c l ih =>
      cases pat with
      | nil => exact absurd (List.prefix_nil.mp hp) (List.cons_ne_nil c l)
      | cons d pat =>
          obtain ⟨rfl, hp'⟩ := List.cons_prefix_cons.mp hp
          have hc : c ≠ star := fun e => hl (e ▸ List.mem_cons_self)
          rw [before_cons_of_ne hc]
          exact List.cons_prefix_cons.mpr ⟨rfl, ih (fun h => hl (List.mem_cons_of_mem _ h)) hp'⟩

theorem matches_of_star {star : α} {key pat : List α} (h : star ∈ pat) :
    Matches star key pat ↔ before star pat <+: key := by
  simp [Matches, h]

theorem matches_of_no_star {star : α} {key pat : List α} (h : star ∉ pat) :
    Matches star key pat ↔ key = pat := by
  simp [Matches, h]

/-- The lone star matches every text. -/
theorem matches_star (star : α) (key : List α) : Matches star key [star] := by
  rw [matches_of_star List.mem_cons_self, before_cons_self]
  exact List.nil_prefix

theorem matches_self (star : α) (pat : List α) : Matches star pat pat := by
  by_cases h : star ∈ pat
  · exact (matches_of_star h).mpr (before_isPre star pat)
  · exact (matches_of_no_star h).mpr rfl

/-- **Matching is transitive**: the part before the star of the outer pattern has no star, so it
    lies before the star of the inner one. -/
theorem matches_trans {star : α} {key pat outer : List α} (h : Matches star key pat)
    (ho : Matches star pat outer) : Matches star key outer := by
  by_cases hs : star ∈ outer
  · rw [matches_of_star hs] at ho ⊢
    by_cases hp : star ∈ pat
    · rw [matches_of_star hp] at h
      exact (pre_before_of_pre (not_mem_before star outer) ho).trans h
    · rw [matches_of_no_star hp] at h
      rwa [h]
  · rw [matches_of_no_star hs] at ho
    rwa [ho] at h

/-- The test programs write: compare with what stands before the first star, if there is one. -/
def prefixMatch (star : α) (key1 key2 : List α) : Bool :=
  match key2.findIdx? (· == star) with
  | none => key1 == key2
  | some i =>
    if key1.length > i then key1.take i == key2.take i
    else key1 == key2.take i

/-- The first star stands after the part before it. -/
theorem findIdx_star (star : α) (pat : List α) :
    pat.findIdx? (· == star) = if star ∈ pat then some (before star pat).length else none := by
  induction pat with
  | nil => rfl
  | cons c pat ih =>
      by_cases h : c = star
      · subst h
        simp [List.findIdx?_cons, before_cons_self]
      · have h' : ¬ star = c := fun e => h e.symm
        rw [List.findIdx?_cons, ih, before_cons_of_ne h]
        by_cases hm : star ∈ pat <;> simp [h, h', hm]

theorem take_before (star : α) (pat : List α) :
    pat.take (before star pat).length = before star pat :=
  (List.prefix_iff_eq_take.mp (before_isPre star pat)).symm

/-- **The test decides matching.** -/
theorem prefixMatch_iff {star : α} {key pat : List α} :
    prefixMatch star key pat = true ↔ Matches star key pat := by
  unfold prefixMatch
  rw [findIdx_star]
  by_cases h : star ∈ pat
  · rw [matches_of_star h]
    simp only [h, if_true, take_before, gt_iff_lt]
    split
    · rw [beq_iff_eq, List.prefix_iff_eq_take]
      exact eq_comm
    · rename_i hlen
      rw [beq_iff_eq]
      refine ⟨fun e => e ▸ List.prefix_refl _, fun hp => ?_⟩
      exact (hp.eq_of_length_le (Nat.le_of_not_lt hlen)).symm
  · rw [matches_of_no_star h]
    simp [h]

end Wildcard
