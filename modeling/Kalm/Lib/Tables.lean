/-
  File:      Kalm/Lib/Tables.lean
  Subject:   LOOPS OVER FINITE MAPS: entries that are written, erased or rewritten one after the other.

  * `setAll` -- a key that is written has one of the values that were written, the other keys stay;
  * `eraseAll` -- the keys that are named go, the others stay;
  * `rewriteAll` -- every value is replaced by its image.
-/
import Kalm.Lib.Mirror

namespace Tables

open Mirror (Table)

variable {K V : Type} [DecidableEq K] {t : Table K V} {es : List (K × V)} {k : K}

/-! ## 1. Writing -/

/-- The entries are written, one after the other. -/
def setAll (t : Table K V) (es : List (K × V)) : Table K V := es.foldl (fun t e => t.insert e.1 e.2) t

/-- A key that is not written stays. -/
theorem lookup_setAll_of_not_mem (h : k ∉ es.map Prod.fst) : (setAll t es).lookup k = t.lookup k := by
  induction es generalizing t with
  | nil => rfl
  | cons e es ih =>
      rw [List.map_cons, List.mem_cons, not_or] at h
      have hrest : (setAll t (e :: es)).lookup k = (t.insert e.1 e.2).lookup k := ih h.2
      rw [hrest, AList.lookup_insert_ne h.1]

/-- **A key that is written has one of the values that were written.** -/
theorem exists_lookup_setAll (h : k ∈ es.map Prod.fst) : ∃ v, (k, v) ∈ es ∧ (setAll t es).lookup k = some v := by
  induction es generalizing t with
  | nil => exact absurd h List.not_mem_nil
  | cons e es ih =>
      by_cases hrest : k ∈ es.map Prod.fst
      · obtain ⟨v, hv, hlookup⟩ := ih (t := t.insert e.1 e.2) hrest
        exact ⟨v, List.mem_cons_of_mem e hv, hlookup⟩
      · obtain rfl : k = e.1 := (List.mem_cons.mp h).resolve_right hrest
        refine ⟨e.2, List.mem_cons_self, ?_⟩
        exact (lookup_setAll_of_not_mem hrest).trans (AList.lookup_insert t)

/-! ## 2. Erasing -/

/-- The keys are erased, one after the other. -/
def eraseAll (t : Table K V) (ks : List K) : Table K V := ks.foldl (fun t k => t.erase k) t

theorem lookup_eraseAll (t : Table K V) (ks : List K) (k : K) :
    (eraseAll t ks).lookup k = if k ∈ ks then none else t.lookup k := by
  induction ks generalizing t with
  | nil => rfl
  | cons first ks ih =>
      have hrest : (eraseAll t (first :: ks)).lookup k = if k ∈ ks then none else (t.erase first).lookup k :=
        ih (t.erase first)
      rw [hrest]
      by_cases hmem : k ∈ ks
      · rw [if_pos hmem, if_pos (List.mem_cons_of_mem _ hmem)]
      · rw [if_neg hmem]
        by_cases hfirst : k = first
        · rw [if_pos (List.mem_cons.mpr (Or.inl hfirst)), hfirst, AList.lookup_erase]
        · rw [if_neg (List.not_mem_cons_of_ne_of_not_mem hfirst hmem), AList.lookup_erase_ne hfirst]

/-! ## 3. Rewriting -/

/-- Every value is replaced by its image. -/
def rewriteAll (f : V → V) (t : Table K V) : Table K V := setAll t (t.entries.map fun e => (e.1, f e.2))

theorem lookup_rewriteAll (f : V → V) (t : Table K V) (k : K) :
    (rewriteAll f t).lookup k = (t.lookup k).map f := by
  cases hlookup : t.lookup k with
  | none =>
      refine (lookup_setAll_of_not_mem fun h => ?_).trans hlookup
      obtain ⟨e, he, hk⟩ := List.mem_map.mp h
      obtain ⟨⟨k', v⟩, hentry, rfl⟩ := List.mem_map.mp he
      rw [AList.lookup_eq_none, ← hk] at hlookup
      exact hlookup (List.mem_keys_of_mem hentry)
  | some v =>
      have hentry := AList.mem_lookup_iff.mp hlookup
      obtain ⟨w, hw, hset⟩ := exists_lookup_setAll (t := t)
        (List.mem_map.mpr ⟨_, List.mem_map.mpr ⟨_, hentry, rfl⟩, rfl⟩ :
          k ∈ (t.entries.map fun e => (e.1, f e.2)).map Prod.fst)
      obtain ⟨⟨k', u⟩, hu, heq⟩ := List.mem_map.mp hw
      obtain ⟨rfl, rfl⟩ := Prod.mk.inj heq
      have hsame := AList.mem_lookup_iff.mpr hu
      rw [Option.mem_def, hlookup] at hsame
      rw [rewriteAll, hset, Option.map_some, Option.some.inj hsame]

end Tables
