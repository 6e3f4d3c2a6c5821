/-
  File:      Kalm/Lib/Store.lean
  Subject:   COLLECTIONS OF OBJECTS that carry their own key, no two with the same.

  * `Store` -- the objects in their order; `find` -- the object with a key;
  * `insert`, `replace`, `erase` -- the three writes, each of which keeps the keys distinct;
  * `filterLoop` -- a filter in place: a rejected element is replaced by the last one.
    `mem_filterLoop`: what it leaves are the accepted elements.
-/
import Mathlib.Data.List.Nodup

namespace Keyed

/-! ## 1. Objects with keys -/

/-- Objects with distinct keys. -/
structure Store {K : Type} (V : Type) (key : V → K) where
  items : List V
  distinct : (items.map key).Nodup

variable {K V : Type} {key : V → K}

namespace Store

/-- No object. -/
def empty : Store V key := ⟨[], List.nodup_nil⟩

/-- One object. -/
def single (v : V) : Store V key := ⟨[v], List.nodup_singleton (key v)⟩

/-- Two objects with one key are one object. -/
theorem eq_of_key {s : Store V key} {v w : V} (hv : v ∈ s.items) (hw : w ∈ s.items)
    (h : key v = key w) : v = w := List.inj_on_of_nodup_map s.distinct hv hw h

variable [DecidableEq K] (s : Store V key)

/-- The object with a key. -/
def find (k : K) : Option V := s.items.find? fun v => key v = k

/-- An object is added if its key is free. -/
def insert (v : V) : Store V key :=
  if h : key v ∈ s.items.map key then s
  else ⟨v :: s.items, List.nodup_cons.mpr ⟨h, s.distinct⟩⟩

/-- The object with the key of `v` is replaced by `v`. -/
def replace (v : V) : Store V key where
  items := s.items.map fun w => if key w = key v then v else w
  distinct := by
    have hkeys : (s.items.map fun w => if key w = key v then v else w).map key = s.items.map key := by
      rw [List.map_map]
      refine List.map_congr_left fun w _ => ?_
      rw [Function.comp_apply]
      split
      · rename_i h
        exact h.symm
      · rfl
    rw [hkeys]
    exact s.distinct

/-- The object with a key is removed. -/
def erase (k : K) : Store V key where
  items := s.items.filter fun v => key v ≠ k
  distinct := s.distinct.sublist (List.filter_sublist.map key)

variable {s}

/-- **What is found is stored under the key.** -/
theorem find_eq_some {k : K} {v : V} : s.find k = some v ↔ v ∈ s.items ∧ key v = k := by
  constructor
  · intro h
    exact ⟨List.mem_of_find?_eq_some h, of_decide_eq_true (List.find?_some h :)⟩
  · rintro ⟨hv, rfl⟩
    have hsome : (s.find (key v)).isSome := List.find?_isSome.mpr ⟨v, hv, decide_eq_true rfl⟩
    obtain ⟨w, hw⟩ := Option.isSome_iff_exists.mp hsome
    have hkey : key w = key v := of_decide_eq_true (List.find?_some hw :)
    rw [hw, eq_of_key (List.mem_of_find?_eq_some hw) hv hkey]

theorem find_self {v : V} (h : v ∈ s.items) : s.find (key v) = some v := find_eq_some.mpr ⟨h, rfl⟩

theorem find_eq_none {k : K} : s.find k = none ↔ ∀ v ∈ s.items, key v ≠ k := by
  simp only [find, List.find?_eq_none, decide_eq_true_eq, ne_eq]

@[simp] theorem mem_replace {v w : V} :
    w ∈ (s.replace v).items ↔ (w ∈ s.items ∧ key w ≠ key v) ∨ (w = v ∧ ∃ u ∈ s.items, key u = key v) := by
  simp only [replace, List.mem_map]
  constructor
  · rintro ⟨u, hu, rfl⟩
    by_cases h : key u = key v
    · rw [if_pos h]
      exact Or.inr ⟨rfl, u, hu, h⟩
    · rw [if_neg h]
      exact Or.inl ⟨hu, h⟩
  · rintro (⟨hw, h⟩ | ⟨rfl, u, hu, h⟩)
    · exact ⟨w, hw, if_neg h⟩
    · exact ⟨u, hu, if_pos h⟩

/-- **An object that is there is replaced**, and the others are left alone. -/
theorem find_replace {v u : V} (h : s.find (key v) = some u) (k : K) :
    (s.replace v).find k = if k = key v then some v else s.find k := by
  obtain ⟨hu, hkey⟩ := find_eq_some.mp h
  by_cases hk : k = key v
  · rw [if_pos hk, hk]
    exact find_self (mem_replace.mpr (Or.inr ⟨rfl, u, hu, hkey⟩))
  · rw [if_neg hk]
    cases hf : s.find k with
    | none =>
        refine find_eq_none.mpr fun w hw hwk => ?_
        rcases mem_replace.mp hw with ⟨hw, _⟩ | ⟨rfl, _⟩
        · exact find_eq_none.mp hf w hw hwk
        · exact hk hwk.symm
    | some w =>
        obtain ⟨hw, hwk⟩ := find_eq_some.mp hf
        exact find_eq_some.mpr ⟨mem_replace.mpr (Or.inl ⟨hw, fun e => hk (hwk.symm.trans e)⟩), hwk⟩

/-- **An object is added under a free key**, and the others are left alone. -/
theorem find_insert {v : V} (h : s.find (key v) = none) (k : K) :
    (s.insert v).find k = if k = key v then some v else s.find k := by
  have hfree : key v ∉ s.items.map key := by
    intro hmem
    obtain ⟨w, hw, hkey⟩ := List.mem_map.mp hmem
    exact find_eq_none.mp h w hw hkey
  have hitems : (s.insert v).items = v :: s.items := by
    rw [insert, dif_neg hfree]
  show (s.insert v).items.find? (fun w => key w = k) = _
  rw [hitems, List.find?_cons]
  by_cases hk : k = key v
  · rw [if_pos hk, decide_eq_true hk.symm]
  · rw [if_neg hk, decide_eq_false fun e => hk e.symm]
    rfl

/-- **The object with a key is removed**, and the others are left alone. -/
theorem find_erase (k k' : K) : (s.erase k).find k' = if k' = k then none else s.find k' := by
  by_cases hk : k' = k
  · rw [if_pos hk, hk]
    refine find_eq_none.mpr fun v hv => ?_
    exact of_decide_eq_true (List.mem_filter.mp hv).2
  · rw [if_neg hk]
    cases hf : s.find k' with
    | none =>
        refine find_eq_none.mpr fun v hv => ?_
        exact find_eq_none.mp hf v (List.mem_filter.mp hv).1
    | some v =>
        obtain ⟨hv, he⟩ := find_eq_some.mp hf
        refine find_eq_some.mpr ⟨List.mem_filter.mpr ⟨hv, decide_eq_true ?_⟩, he⟩
        rw [he]
        exact hk

end Store

/-! ## 2. A filter in place -/

section Filter

variable {α : Type} (keep : α → Option Bool)

/-- The loop over the first `n` elements: a rejected element is overwritten by the last of them, and
    looked at again; `none` where the check panics. -/
def filterLoop : Nat → List α → Option (List α)
  | 0, _ => some []
  | _, [] => some []
  | n + 1, x :: xs =>
    match keep x with
    | none => none
    | some true => (filterLoop n xs).map (x :: ·)
    | some false =>
      match xs.getLast? with
      | none => some []
      | some y => filterLoop n (y :: xs.dropLast)

/-- The accepted elements, in the order the loop leaves them in. -/
def filterInPlace (xs : List α) : Option (List α) := filterLoop keep xs.length xs

variable {keep}

/-- The last element comes to the front. -/
theorem mem_last_dropLast {xs : List α} {y : α} (h : xs.getLast? = some y) (z : α) :
    z ∈ y :: xs.dropLast ↔ z ∈ xs := by
  obtain ⟨init, rfl⟩ := List.getLast?_eq_some_iff.mp h
  rw [List.dropLast_concat, List.mem_cons, List.mem_append, List.mem_singleton, or_comm]

/-- **The loop leaves each accepted element as often as it was there.** -/
theorem filterLoop_perm {n : Nat} {xs ys : List α} (hn : xs.length ≤ n) (h : filterLoop keep n xs = some ys) :
    ys.Perm (xs.filter fun x => keep x = some true) := by
  induction n generalizing xs ys with
  | zero =>
      cases h
      rw [List.length_eq_zero_iff.mp (Nat.le_zero.mp hn), List.filter_nil]
  | succ n ih =>
      cases xs with
      | nil =>
          cases h
          rw [List.filter_nil]
      | cons x xs =>
          have hlen : xs.length ≤ n := Nat.le_of_succ_le_succ hn
          unfold filterLoop at h
          cases hx : keep x with
          | none => rw [hx] at h; cases h
          | some b =>
              rw [hx] at h
              cases b with
              | true =>
                  obtain ⟨zs, hzs, rfl⟩ := Option.map_eq_some_iff.mp h
                  have haccepted : decide (keep x = some true) = true := decide_eq_true hx
                  rw [List.filter_cons, if_pos haccepted]
                  exact (ih hlen hzs).cons x
              | false =>
                  have hrejected : ¬ decide (keep x = some true) = true := by
                    rw [hx]
                    decide
                  rw [List.filter_cons, if_neg hrejected]
                  simp only at h
                  rcases List.eq_nil_or_concat xs with rfl | ⟨init, y, rfl⟩
                  · cases h
                    rw [List.filter_nil]
                  · rw [List.concat_eq_append] at h hlen ⊢
                    rw [List.getLast?_concat, List.dropLast_concat] at h
                    have hmoved : (y :: init).length ≤ n := by
                      rw [List.length_append, List.length_singleton] at hlen
                      exact hlen
                    exact (ih hmoved h).trans ((List.perm_append_singleton y init).symm.filter _)

/-- **The loop leaves exactly the accepted elements.** -/
theorem mem_filterLoop {n : Nat} {xs ys : List α} (hn : xs.length ≤ n)
    (h : filterLoop keep n xs = some ys) (z : α) : z ∈ ys ↔ z ∈ xs ∧ keep z = some true := by
  rw [(filterLoop_perm hn h).mem_iff, List.mem_filter, decide_eq_true_eq]

/-- The loop panics only where the check does. -/
theorem filterLoop_isSome {n : Nat} {xs : List α} (h : ∀ x ∈ xs, (keep x).isSome) :
    (filterLoop keep n xs).isSome := by
  induction n generalizing xs with
  | zero => rfl
  | succ n ih =>
      cases xs with
      | nil => rfl
      | cons x xs =>
          obtain ⟨hx, hxs⟩ := List.forall_mem_cons.mp h
          obtain ⟨b, hb⟩ := Option.isSome_iff_exists.mp hx
          unfold filterLoop
          rw [hb]
          cases b with
          | true =>
              rw [Option.isSome_map]
              exact ih hxs
          | false =>
              simp only
              cases hl : xs.getLast? with
              | none => rfl
              | some y => exact ih fun z hz => hxs z ((mem_last_dropLast hl z).mp hz)

/-- **What a filter in place leaves.** -/
theorem exists_filterInPlace {xs : List α} (h : ∀ x ∈ xs, (keep x).isSome) :
    ∃ ys, filterInPlace keep xs = some ys ∧ ∀ z, z ∈ ys ↔ z ∈ xs ∧ keep z = some true := by
  obtain ⟨ys, hys⟩ := Option.isSome_iff_exists.mp (filterLoop_isSome (n := xs.length) h)
  exact ⟨ys, hys, mem_filterLoop (Nat.le_refl _) hys⟩

/-- Everything is accepted. -/
theorem filterInPlace_eq_self {xs : List α} (h : ∀ x ∈ xs, keep x = some true) :
    filterInPlace keep xs = some xs := by
  unfold filterInPlace
  induction xs with
  | nil => rfl
  | cons x xs ih =>
      obtain ⟨hx, hxs⟩ := List.forall_mem_cons.mp h
      rw [List.length_cons, filterLoop, hx]
      dsimp only
      rw [ih hxs]
      rfl

/-- Nothing is accepted. -/
theorem filterInPlace_eq_nil {xs : List α} (h : ∀ x ∈ xs, keep x = some false) :
    filterInPlace keep xs = some [] := by
  have hsome : ∀ x ∈ xs, (keep x).isSome := by
    intro x hx
    rw [h x hx]
    rfl
  obtain ⟨ys, hys, hmem⟩ := exists_filterInPlace hsome
  have hnil : ys = [] := by
    refine List.eq_nil_iff_forall_not_mem.mpr fun z hz => ?_
    obtain ⟨hz, hk⟩ := (hmem z).mp hz
    rw [h z hz] at hk
    cases hk
  rw [hys, hnil]

end Filter

end Keyed
