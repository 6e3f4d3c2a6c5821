/-
  File:      Kalm/Lib/Codes.lean
  Subject:   SELF-SYNCHRONISING CODES: every symbol is written as a non-empty run of units, and
             one can tell from a unit alone whether a symbol starts there. UTF-8 and UTF-16 are
             such codes of the Unicode code points.

  What a program does unit by unit to the text of a code, it does symbol by symbol to the symbols:

  * `flat_prefix_iff`, `flat_suffix_iff`, `flat_inj` -- prefixes, suffixes and equality;
  * `mem_flat_iff` -- a symbol written as one unit occurs where its unit occurs;
  * `flat_splitOn`, `flat_trim`, `flat_matches` -- splitting, trimming and prefix patterns
    (Fields.lean, Wildcard.lean) commute with the code;
  * `utf8`, `utf16` -- the two codes.
-/
import Mathlib.Data.List.Infix
import Mathlib.Data.Char
import Mathlib.Data.Set.List
import Kalm.Lib.Fields
import Kalm.Lib.Wildcard

/-- A self-synchronising code of the symbols `σ` by units `υ`. -/
structure Code (σ υ : Type) where
  enc : σ → List υ
  lead : υ → Prop
  enc_ne_nil : ∀ c, enc c ≠ []
  /-- A symbol starts where a lead unit stands, and nowhere else. -/
  lead_iff : ∀ c i (h : i < (enc c).length), lead ((enc c)[i]) ↔ i = 0
  prefix_free : ∀ c d, enc c <+: enc d → c = d

namespace Code

variable {σ υ : Type} (K : Code σ υ)

/-- A text of symbols, written in units. -/
def flat (s : List σ) : List υ := s.flatMap K.enc

@[simp] theorem flat_nil : K.flat [] = [] := rfl

theorem flat_cons (c : σ) (s : List σ) : K.flat (c :: s) = K.enc c ++ K.flat s := rfl

@[simp] theorem flat_append (s t : List σ) : K.flat (s ++ t) = K.flat s ++ K.flat t :=
  List.flatMap_append

theorem flat_singleton (c : σ) : K.flat [c] = K.enc c := by simp [flat]

theorem flat_eq_nil {s : List σ} : K.flat s = [] ↔ s = [] := by
  cases s with
  | nil => simp
  | cons c s => simp [flat_cons, K.enc_ne_nil c]

/-! ## 1. Prefixes and suffixes -/

/-- **A prefix in units is a prefix in symbols.** -/
theorem flat_prefix_iff {s t : List σ} : K.flat s <+: K.flat t ↔ s <+: t := by
  refine ⟨fun h => ?_, fun ⟨r, e⟩ => ⟨K.flat r, by rw [← e, flat_append]⟩⟩
  induction s generalizing t with
  | nil => exact List.nil_prefix
  | cons c s ih =>
      cases t with
      | nil =>
          have e := K.flat_eq_nil.mp (List.prefix_nil.mp h)
          exact absurd e (List.cons_ne_nil c s)
      | cons d t =>
          have hc : K.enc c <+: K.flat (d :: t) := (List.prefix_append _ _).trans h
          have hd : K.enc d <+: K.flat (d :: t) := List.prefix_append _ _
          have e : c = d := by
            rcases List.prefix_or_prefix_of_prefix hc hd with h' | h'
            · exact K.prefix_free c d h'
            · exact (K.prefix_free d c h').symm
          subst e
          rw [flat_cons, flat_cons, List.prefix_append_right_inj] at h
          exact List.cons_prefix_cons.mpr ⟨rfl, ih h⟩

theorem flat_inj {s t : List σ} : K.flat s = K.flat t ↔ s = t := by
  refine ⟨fun h => ?_, fun h => h ▸ rfl⟩
  have h1 : s <+: t := K.flat_prefix_iff.mp (h ▸ List.prefix_refl _)
  have h2 : t <+: s := K.flat_prefix_iff.mp (h ▸ List.prefix_refl _)
  exact h1.eq_of_length_le h2.length_le

theorem enc_inj {c d : σ} (h : K.enc c = K.enc d) : c = d :=
  K.prefix_free c d (h ▸ List.prefix_refl _)

/-- Of two codewords one is a suffix of the other only when they are the same: the lead unit of
    the shorter one would stand inside the longer one. -/
theorem enc_suffix {c d : σ} (h : K.enc c <:+ K.enc d) : c = d := by
  obtain ⟨pre, e⟩ := h
  have hpos : 0 < (K.enc c).length := List.length_pos_of_ne_nil (K.enc_ne_nil c)
  have hlen : pre.length < (K.enc d).length := by rw [← e, List.length_append]; omega
  have hlead : K.lead ((K.enc d)[pre.length]) := by
    have e' : (K.enc d)[pre.length] = (K.enc c)[0] := by
      simp only [← e]
      rw [List.getElem_append_right (Nat.le_refl _)]
      simp
    rw [e']
    exact (K.lead_iff c 0 hpos).mpr rfl
  have h0 : pre = [] := List.eq_nil_of_length_eq_zero ((K.lead_iff d _ hlen).mp hlead)
  rw [h0, List.nil_append] at e
  exact K.enc_inj e

/-- **A suffix in units is a suffix in symbols.** -/
theorem flat_suffix_iff {s t : List σ} : K.flat s <:+ K.flat t ↔ s <:+ t := by
  refine ⟨fun h => ?_, fun ⟨r, e⟩ => ⟨K.flat r, by rw [← e, flat_append]⟩⟩
  induction s using List.reverseRecOn generalizing t with
  | nil => exact List.nil_suffix
  | append_singleton s c ih =>
      rcases List.eq_nil_or_concat t with rfl | ⟨t, d, rfl⟩
      · have e := K.flat_eq_nil.mp (List.suffix_nil.mp h)
        exact absurd e (by simp)
      · rw [List.concat_eq_append, flat_append, flat_append, flat_singleton, flat_singleton] at h
        have hc : K.enc c <:+ K.flat t ++ K.enc d := (List.suffix_append _ _).trans h
        have hd : K.enc d <:+ K.flat t ++ K.enc d := List.suffix_append _ _
        have e : c = d := by
          rcases List.suffix_or_suffix_of_suffix hc hd with h' | h'
          · exact K.enc_suffix h'
          · exact (K.enc_suffix h').symm
        subst e
        have h' : K.flat s <:+ K.flat t := by
          obtain ⟨pre, e⟩ := h
          rw [← List.append_assoc] at e
          exact ⟨pre, List.append_cancel_right e⟩
        obtain ⟨r, e⟩ := ih h'
        exact ⟨r, by rw [List.concat_eq_append, ← List.append_assoc, e]⟩

/-! ## 2. Symbols of one unit -/

/-- A symbol written as one unit stands exactly where the unit stands. -/
theorem enc_eq_of_mem {c d : σ} {u : υ} (hc : K.enc c = [u]) (h : u ∈ K.enc d) : d = c := by
  obtain ⟨i, hi, e⟩ := List.getElem_of_mem h
  have hlead : K.lead ((K.enc d)[i]) := by
    have hpos : 0 < (K.enc c).length := by simp [hc]
    have h0 : K.lead ((K.enc c)[0]) := (K.lead_iff c 0 hpos).mpr rfl
    simp only [hc, List.getElem_cons_zero] at h0
    rwa [e]
  have h0 : i = 0 := (K.lead_iff d i hi).mp hlead
  subst h0
  refine (K.prefix_free c d ?_).symm
  rw [hc]
  cases hd : K.enc d with
  | nil => exact absurd hd (K.enc_ne_nil d)
  | cons v w =>
      simp only [hd, List.getElem_cons_zero] at e
      subst e
      exact List.cons_prefix_cons.mpr ⟨rfl, List.nil_prefix⟩

theorem mem_flat_iff {c : σ} {u : υ} (hc : K.enc c = [u]) {s : List σ} :
    u ∈ K.flat s ↔ c ∈ s := by
  constructor
  · intro h
    obtain ⟨d, hd, hu⟩ := List.mem_flatMap.mp h
    exact K.enc_eq_of_mem hc hu ▸ hd
  · intro h
    exact List.mem_flatMap.mpr ⟨c, h, by simp [hc]⟩

/-- A codeword other than the separator is a run of its piece. -/
theorem splitOn_enc_append [DecidableEq υ] {u : υ} {w : List υ} (hw : u ∉ w) (rest : List υ) :
    (w ++ rest).splitOn u = (rest.splitOn u).modifyHead (w ++ ·) := by
  induction w with
  | nil =>
      cases h : rest.splitOn u with
      | nil => exact absurd h (List.splitOn_ne_nil _ _)
      | cons a b => simp [h]
  | cons x w ih =>
      have hx : (x == u) = false := by
        simpa using fun e => hw (by rw [e]; exact List.mem_cons_self)
      have hw' : u ∉ w := fun h => hw (List.mem_cons_of_mem _ h)
      rw [List.cons_append, List.splitOn_cons_eq_if_modifyHead, hx, ih hw']
      cases h : rest.splitOn u with
      | nil => exact absurd h (List.splitOn_ne_nil _ _)
      | cons a b => simp

/-- **Splitting commutes with the code.** -/
theorem flat_splitOn [DecidableEq σ] [DecidableEq υ] {c : σ} {u : υ} (hc : K.enc c = [u])
    (s : List σ) : (K.flat s).splitOn u = (s.splitOn c).map K.flat := by
  induction s with
  | nil => simp [List.splitOn_nil]
  | cons d s ih =>
      obtain ⟨hd, tl, hs⟩ := List.exists_cons_of_ne_nil (List.splitOn_ne_nil c s)
      by_cases h : d = c
      · subst h
        rw [flat_cons, hc, List.singleton_append, List.splitOn_cons_eq_if_modifyHead,
          List.splitOn_cons_eq_if_modifyHead]
        simp [ih]
      · have hu : u ∉ K.enc d := fun hm => h (K.enc_eq_of_mem hc hm)
        rw [flat_cons, splitOn_enc_append hu, ih, List.splitOn_cons_eq_if_modifyHead, hs]
        simp [h, flat_cons]

/-- Joining commutes with the code. -/
theorem flat_intercalate (sep : List σ) (ls : List (List σ)) :
    K.flat (sep.intercalate ls) = (K.flat sep).intercalate (ls.map K.flat) := by
  induction ls with
  | nil => rfl
  | cons l ls ih =>
      cases ls with
      | nil => simp
      | cons m ls =>
          rw [List.intercalate_cons_cons, flat_append, flat_append, ih]
          simp only [List.map_cons, List.intercalate_cons_cons]

/-- Texts that every piece of a list is the code of. -/
theorem exists_map_flat {ls : List (List υ)} (h : ∀ l ∈ ls, ∃ s, K.flat s = l) :
    ∃ ss : List (List σ), ss.map K.flat = ls := by
  have hmem : ls ∈ Set.range (List.map K.flat) := by
    rw [Set.range_list_map]
    exact h
  exact hmem

/-- **Prefix patterns commute with the code.** -/
theorem flat_matches [DecidableEq σ] [DecidableEq υ] {c : σ} {u : υ} (hc : K.enc c = [u])
    {key pat : List σ} :
    Wildcard.Matches u (K.flat key) (K.flat pat) ↔ Wildcard.Matches c key pat := by
  have hbefore : Wildcard.before u (K.flat pat) = K.flat (Wildcard.before c pat) := by
    induction pat with
    | nil => rfl
    | cons d pat ih =>
        by_cases h : d = c
        · subst h
          rw [flat_cons, hc, List.singleton_append, Wildcard.before_cons_self,
            Wildcard.before_cons_self, flat_nil]
        · have hu : u ∉ K.enc d := fun hm => h (K.enc_eq_of_mem hc hm)
          rw [flat_cons, Wildcard.before_cons_of_ne h, flat_cons, ← ih, Wildcard.before,
            List.takeWhile_append_of_pos]
          · rfl
          · intro x hx
            simpa using fun e : x = u => hu (e ▸ hx)
  by_cases h : c ∈ pat
  · rw [Wildcard.matches_of_star h, Wildcard.matches_of_star ((K.mem_flat_iff hc).mpr h), hbefore,
      flat_prefix_iff]
  · rw [Wildcard.matches_of_no_star h,
      Wildcard.matches_of_no_star fun hm => h ((K.mem_flat_iff hc).mp hm), flat_inj]

/-! ## 3. Trimming -/

theorem flat_reverse_prefix_iff {s t : List σ} :
    (K.flat s).reverse <+: (K.flat t).reverse ↔ s.reverse <+: t.reverse := by
  rw [List.reverse_prefix, List.reverse_prefix, flat_suffix_iff]

theorem flat_drop {s t : List σ} (h : s <+: t) :
    (K.flat t).drop (K.flat s).length = K.flat (t.drop s.length) := by
  obtain ⟨r, rfl⟩ := h
  simp

theorem length_le_flat (s : List σ) : s.length ≤ (K.flat s).length := by
  induction s with
  | nil => exact Nat.le_refl 0
  | cons c s ih =>
      have hpos : 0 < (K.enc c).length := List.length_pos_of_ne_nil (K.enc_ne_nil c)
      rw [flat_cons, List.length_append, List.length_cons]
      omega

section Trim

variable [DecidableEq σ] [DecidableEq υ]

theorem flat_trimLeft {blanks : List (List σ)} (hne : [] ∉ blanks) (s : List σ) :
    Fields.trimLeft (blanks.map K.flat) (K.flat s) = K.flat (Fields.trimLeft blanks s) := by
  unfold Fields.trimLeft
  rw [Fields.dropBlanks_map K.flat_prefix_iff (fun h => K.flat_drop h)]
  exact congrArg K.flat (Fields.dropBlanks_fuel hne (K.length_le_flat s) (Nat.le_refl _))

theorem flat_trimRight {blanks : List (List σ)} (hne : [] ∉ blanks) (s : List σ) :
    Fields.trimRight (blanks.map K.flat) (K.flat s) = K.flat (Fields.trimRight blanks s) := by
  -- read backwards, the units of the reversed symbols
  let f : List σ → List υ := fun r => (K.flat r.reverse).reverse
  have hp : ∀ {s t : List σ}, f s <+: f t ↔ s <+: t := by
    intro s t
    simp only [f]
    rw [K.flat_reverse_prefix_iff, List.reverse_reverse, List.reverse_reverse]
  have hd : ∀ {s t : List σ}, s <+: t → (f t).drop (f s).length = f (t.drop s.length) := by
    rintro s t ⟨r, rfl⟩
    simp only [f, List.reverse_append, flat_append, List.length_reverse, List.drop_left]
    rw [List.drop_left']
    exact (List.length_reverse).symm ▸ rfl
  have hblanks : (blanks.map K.flat).map List.reverse = (blanks.map List.reverse).map f := by
    simp [f]
  have hs : (K.flat s).reverse = f s.reverse := by simp [f]
  have hne' : [] ∉ blanks.map List.reverse := by
    intro h
    obtain ⟨b, hb, e⟩ := List.mem_map.mp h
    exact hne ((List.reverse_eq_nil_iff.mp e) ▸ hb)
  unfold Fields.trimRight Fields.trimLeft
  rw [hblanks, hs, Fields.dropBlanks_map hp hd]
  have hlen : s.reverse.length ≤ (f s.reverse).length := by
    simpa [f] using K.length_le_flat s
  rw [Fields.dropBlanks_fuel hne' hlen (Nat.le_refl _)]
  simp [f]

/-- **Trimming commutes with the code.** -/
theorem flat_trim {blanks : List (List σ)} (hne : [] ∉ blanks) (s : List σ) :
    Fields.trim (blanks.map K.flat) (K.flat s) = K.flat (Fields.trim blanks s) := by
  rw [Fields.trim, K.flat_trimLeft hne, K.flat_trimRight hne, Fields.trim]

end Trim

end Code

/-! ## 4. UTF-8 and UTF-16 -/

/-- UTF-8 as a code of the code points by bytes. -/
def utf8 : Code Char UInt8 where
  enc := String.utf8EncodeChar
  lead b := b.IsUTF8FirstByte
  enc_ne_nil _ := String.utf8EncodeChar_ne_nil
  lead_iff _ _ _ := UInt8.isUTF8FirstByte_getElem_utf8EncodeChar
  prefix_free c d := by
    rintro ⟨rest, e⟩
    have h1 := ByteArray.utf8DecodeChar?_utf8EncodeChar_append (b := rest.toByteArray) (c := c)
    have h2 := ByteArray.utf8DecodeChar?_utf8EncodeChar_append (b := [].toByteArray) (c := d)
    rw [← List.toByteArray_append, e] at h1
    rw [← List.toByteArray_append, List.append_nil, h1] at h2
    exact Option.some.inj h2

/-- The UTF-16 units of a code point: itself, or a surrogate pair. -/
def utf16EncodeChar (c : Char) : List UInt16 :=
  if c.toNat < 0x10000 then [UInt16.ofNat c.toNat]
  else [UInt16.ofNat (0xD800 + (c.toNat - 0x10000) / 0x400),
    UInt16.ofNat (0xDC00 + (c.toNat - 0x10000) % 0x400)]

/-- A unit that is not a low surrogate starts a code point. -/
def IsUTF16FirstUnit (u : UInt16) : Prop := ¬ (0xDC00 ≤ u.toNat ∧ u.toNat ≤ 0xDFFF)

theorem char_toNat_valid (c : Char) : c.toNat < 0xD800 ∨ 0xDFFF < c.toNat ∧ c.toNat < 0x110000 :=
  c.valid

theorem utf16_toNat {n : Nat} (h : n < 0x10000) : (UInt16.ofNat n).toNat = n := by
  simpa using h

theorem utf16_lead_iff (c : Char) (i : Nat) (h : i < (utf16EncodeChar c).length) :
    IsUTF16FirstUnit (utf16EncodeChar c)[i] ↔ i = 0 := by
  have hv := char_toNat_valid c
  unfold utf16EncodeChar at h ⊢
  split at h
  · rename_i hs
    have hi : i = 0 := by simpa using h
    subst hi
    simp only [hs, if_true, List.getElem_cons_zero, IsUTF16FirstUnit, utf16_toNat hs, iff_true]
    omega
  · rename_i hs
    have hq : (c.toNat - 0x10000) / 0x400 < 0x400 := by omega
    have hr : (c.toNat - 0x10000) % 0x400 < 0x400 := Nat.mod_lt _ (by decide)
    simp only [hs, if_false]
    match i, h with
    | 0, _ =>
        simp only [List.getElem_cons_zero, IsUTF16FirstUnit, iff_true]
        rw [utf16_toNat (by omega)]
        omega
    | 1, _ =>
        simp only [List.getElem_cons_succ, List.getElem_cons_zero, IsUTF16FirstUnit]
        rw [utf16_toNat (by omega)]
        omega

theorem utf16_prefix_free (c d : Char) (h : utf16EncodeChar c <+: utf16EncodeChar d) : c = d := by
  have hc := char_toNat_valid c
  have hd := char_toNat_valid d
  have key : c.toNat = d.toNat := by
    unfold utf16EncodeChar at h
    split at h <;> split at h
    · obtain ⟨e, _⟩ := List.cons_prefix_cons.mp h
      have e' := congrArg UInt16.toNat e
      rwa [utf16_toNat ‹_›, utf16_toNat ‹_›] at e'
    · -- a lone unit is no surrogate
      obtain ⟨e, _⟩ := List.cons_prefix_cons.mp h
      have e' := congrArg UInt16.toNat e
      rw [utf16_toNat ‹_›, utf16_toNat (by omega)] at e'
      omega
    · obtain ⟨_, h'⟩ := List.cons_prefix_cons.mp h
      exact absurd (List.prefix_nil.mp h') (List.cons_ne_nil _ _)
    · obtain ⟨e, h'⟩ := List.cons_prefix_cons.mp h
      obtain ⟨f, _⟩ := List.cons_prefix_cons.mp h'
      have e' := congrArg UInt16.toNat e
      have f' := congrArg UInt16.toNat f
      rw [utf16_toNat (by omega), utf16_toNat (by omega)] at e'
      rw [utf16_toNat (by omega), utf16_toNat (by omega)] at f'
      omega
  exact Char.ext (UInt32.toNat_inj.mp key)

/-- UTF-16 as a code of the code points by 16-bit units. -/
def utf16 : Code Char UInt16 where
  enc := utf16EncodeChar
  lead := IsUTF16FirstUnit
  enc_ne_nil c := by unfold utf16EncodeChar; split <;> simp
  lead_iff := utf16_lead_iff
  prefix_free := utf16_prefix_free
