/-
  File:      Kalm/Lib/Listed.lean
  Subject:   LISTS OF THE VALUES OF A MAP, each once, and what a write at a found place makes of them.

  * `Lists` -- the list holds the values of the map, each under its own key and once;
  * `Lists.append`, `Lists.cons` -- a value is added under a free key;
  * `exists_of_findIdx?` -- the place a search finds;
  * `Lists.set`, `Lists.eraseIdx` -- the value at a place is replaced or removed. The search must find
    the value with the key, whatever it compares.
-/
import Mathlib.Data.List.Nodup
import Mathlib.Data.List.Perm.Basic
import Mathlib.Logic.Function.Basic

namespace Listed

/-- The list holds the values of the map, each once. -/
structure Lists {I V : Type} (ident : V → I) (l : List V) (live : I → Option V) : Prop where
  once : (l.map ident).Nodup
  listed : ∀ i v, live i = some v ↔ v ∈ l ∧ ident v = i

variable {I V : Type} {ident : V → I} {l l' : List V} {live : I → Option V} {v : V}

/-! ## 1. Keys -/

theorem Lists.empty : Lists ident [] fun _ => none :=
  ⟨List.nodup_nil, fun _ _ => iff_of_false (Option.some_ne_none _).symm fun h => List.not_mem_nil h.1⟩

theorem Lists.perm (h : Lists ident l live) (hl : l.Perm l') : Lists ident l' live :=
  ⟨(hl.map ident).nodup_iff.mp h.once, fun i v => (h.listed i v).trans (and_congr_left fun _ => hl.mem_iff)⟩

/-- A key is free if no value of the list has it. -/
theorem Lists.eq_none_iff (h : Lists ident l live) {i : I} : live i = none ↔ ∀ v ∈ l, ident v ≠ i := by
  constructor
  · intro hnone v hv he
    rw [(h.listed i v).mpr ⟨hv, he⟩] at hnone
    cases hnone
  · intro hfree
    cases hlive : live i with
    | none => rfl
    | some v =>
        obtain ⟨hv, he⟩ := (h.listed i v).mp hlive
        exact absurd he (hfree v hv)

/-- A search that finds nothing. -/
theorem Lists.eq_none_of_findIdx? {p : V → Bool} (h : Lists ident l live) {i : I} (hi : l.findIdx? p = none)
    (hp : ∀ x ∈ l, ident x = i → p x = true) : live i = none := by
  refine h.eq_none_iff.mpr fun x hx he => ?_
  have hno := List.findIdx?_eq_none_iff.mp hi x hx
  rw [hp x hx he] at hno
  cases hno

variable [DecidableEq I]

/-- **A value is added under a free key.** -/
theorem Lists.cons (h : Lists ident l live) (hfree : live (ident v) = none) :
    Lists ident (v :: l) (Function.update live (ident v) (some v)) := by
  have hno : ∀ w ∈ l, ident w ≠ ident v := h.eq_none_iff.mp hfree
  refine ⟨List.nodup_cons.mpr ⟨fun hmem => ?_, h.once⟩, fun i w => ?_⟩
  · obtain ⟨w, hw, he⟩ := List.mem_map.mp hmem
    exact hno w hw he
  · by_cases hi : i = ident v
    · subst hi
      rw [Function.update_self, Option.some.injEq, List.mem_cons]
      constructor
      · rintro rfl
        exact ⟨Or.inl rfl, rfl⟩
      · rintro ⟨rfl | hw, he⟩
        · rfl
        · exact absurd he (hno w hw)
    · rw [Function.update_of_ne hi, h.listed, List.mem_cons]
      refine and_congr_left fun he => (or_iff_right ?_).symm
      rintro rfl
      exact hi he.symm

theorem Lists.append (h : Lists ident l live) (hfree : live (ident v) = none) :
    Lists ident (l ++ [v]) (Function.update live (ident v) (some v)) :=
  (h.cons hfree).perm (List.perm_append_singleton v l).symm

/-- The first value is removed. -/
theorem Lists.tail (h : Lists ident (v :: l) live) :
    Lists ident l (Function.update live (ident v) none) := by
  obtain ⟨hno, honce⟩ := List.nodup_cons.mp h.once
  refine ⟨honce, fun i w => ?_⟩
  by_cases hi : i = ident v
  · subst hi
    rw [Function.update_self]
    refine iff_of_false (Option.some_ne_none w).symm fun hw => hno ?_
    rw [← hw.2]
    exact List.mem_map_of_mem hw.1
  · rw [Function.update_of_ne hi, h.listed, List.mem_cons]
    refine and_congr_left fun he => or_iff_right ?_
    rintro rfl
    exact hi he.symm

/-- A key that is free stays so. -/
theorem Lists.free (h : Lists ident l live) {i : I} (hfree : live i = none) :
    Lists ident l (Function.update live i none) := by
  rw [← hfree, Function.update_eq_self]
  exact h

/-! ## 2. Places -/

/-- **The place a search finds**, and what is left without it. -/
theorem exists_of_findIdx? {p : V → Bool} {index : Nat} (hi : l.findIdx? p = some index) :
    ∃ x rest, p x = true ∧ l.Perm (x :: rest) ∧ (l.eraseIdx index).Perm rest ∧
      ∀ v, (l.set index v).Perm (v :: rest) := by
  obtain ⟨hlt, hp, -⟩ := List.findIdx?_eq_some_iff_getElem.mp hi
  refine ⟨l[index], l.eraseIdx index, hp, (List.getElem_cons_eraseIdx_perm hlt).symm, .refl _, fun v => ?_⟩
  have hlt' : index < (l.set index v).length := by
    rw [List.length_set]
    exact hlt
  have hperm := (List.getElem_cons_eraseIdx_perm hlt').symm
  rw [List.getElem_set_self, List.eraseIdx_set_eq] at hperm
  exact hperm

variable {p : V → Bool}

/-- The value a search finds has the key. -/
theorem Lists.set (h : Lists ident l live) {index : Nat} (hi : l.findIdx? p = some index)
    (hp : ∀ x ∈ l, p x = true → ident x = ident v) :
    Lists ident (l.set index v) (Function.update live (ident v) (some v)) := by
  obtain ⟨x, rest, hx, hl, -, hset⟩ := exists_of_findIdx? hi
  have he : ident x = ident v := hp x (hl.mem_iff.mpr List.mem_cons_self) hx
  have hrest := (h.perm hl).tail
  rw [he] at hrest
  have hcons := hrest.cons (v := v) (Function.update_self _ _ _)
  rw [Function.update_idem] at hcons
  exact hcons.perm (hset v).symm

theorem Lists.eraseIdx (h : Lists ident l live) {i : I} {index : Nat} (hi : l.findIdx? p = some index)
    (hp : ∀ x ∈ l, p x = true → ident x = i) :
    Lists ident (l.eraseIdx index) (Function.update live i none) := by
  obtain ⟨x, rest, hx, hl, herase, -⟩ := exists_of_findIdx? hi
  have he : ident x = i := hp x (hl.mem_iff.mpr List.mem_cons_self) hx
  have hrest := (h.perm hl).tail
  rw [he] at hrest
  exact hrest.perm herase.symm

end Listed
