/-
  File:      Kalm/Go/Utf8.lean
  Subject:   UTF-8 in Go strings: the bytes of a text, and what `encoding/json` makes of bytes that are none.

  * `IsUtf8` -- the bytes of a text;
  * `rune_induction` -- a string, character by character;
  * `jsonString` -- a string that goes through `encoding/json`;
  * `jsonString_eq_self` -- it comes through unchanged where it is a text, and only there.
-/
import Kalm.Go.Strings

namespace Kalm

/-! ## 1. Texts -/

/-- The bytes of a text. -/
def IsUtf8 (s : Str) : Prop := ∃ t : List Char, utf8.flat t = s

theorem isUtf8_flat (t : List Char) : IsUtf8 (utf8.flat t) := ⟨t, rfl⟩

theorem IsUtf8.append {s t : Str} : IsUtf8 s → IsUtf8 t → IsUtf8 (s ++ t) := by
  rintro ⟨a, rfl⟩ ⟨b, rfl⟩
  exact ⟨a ++ b, utf8.flat_append a b⟩

theorem isUtf8_nil : IsUtf8 [] := ⟨[], rfl⟩

theorem isUtf8_str (s : String) : IsUtf8 (str s) := ⟨s.toList, rfl⟩

/-! ## 2. Characters -/

/-- `utf8.DecodeRune`: the character at the front, if its bytes are there. -/
def decodeRune (s : Str) : Option Char := ByteArray.utf8DecodeChar? s.toByteArray 0

theorem decodeRune_enc (c : Char) (s : Str) : decodeRune (utf8.enc c ++ s) = some c := by
  rw [decodeRune, List.toByteArray_append]
  exact ByteArray.utf8DecodeChar?_utf8EncodeChar_append

theorem of_decodeRune {s : Str} {c : Char} (h : decodeRune s = some c) : ∃ rest, s = utf8.enc c ++ rest := by
  obtain ⟨l, hl⟩ := ByteArray.exists_of_utf8DecodeChar?_eq_some h
  refine ⟨l.data.toList, ?_⟩
  have h := congrArg (fun b => b.data.toList) hl
  simp only [ByteArray.data_append, Array.toList_append, List.toList_data_toByteArray] at h
  exact h

/-- An ASCII byte is a character of its own. -/
theorem enc_ascii {b : UInt8} (h : b < 128) : utf8.enc (Char.ofNat b.toNat) = [b] := by
  have hall : ∀ n : Fin 128, utf8.enc (Char.ofNat n) = [UInt8.ofNat n] := by decide
  have hb := hall ⟨b.toNat, UInt8.lt_iff_toNat_lt.mp h⟩
  rwa [UInt8.ofNat_toNat] at hb

/-- The bytes are ASCII. -/
def isAscii (s : Str) : Bool := s.all fun b => b < 128

theorem isAscii_iff {s : Str} : isAscii s = true ↔ ∀ b ∈ s, b < 128 := by
  simp [isAscii]

/-- ASCII bytes are a text. -/
theorem isUtf8_of_ascii {s : Str} (h : ∀ b ∈ s, b < 128) : IsUtf8 s := by
  induction s with
  | nil => exact isUtf8_nil
  | cons b s ih =>
      have hb : IsUtf8 [b] :=
        ⟨[Char.ofNat b.toNat], by rw [Code.flat_singleton, enc_ascii (h b List.mem_cons_self)]⟩
      exact hb.append (ih fun c hc => h c (List.mem_cons_of_mem _ hc))

theorem le_ofNat {n : Nat} (hlow : 128 ≤ n) (hhigh : n < 256) : (128 : UInt8) ≤ UInt8.ofNat n := by
  rw [UInt8.le_iff_toNat_le, UInt8.toNat_ofNat', Nat.mod_eq_of_lt hhigh]
  exact hlow

/-- Every other character has no ASCII byte. -/
theorem enc_cases (c : Char) : (∃ b : UInt8, b < 128 ∧ utf8.enc c = [b]) ∨ ∀ b ∈ utf8.enc c, 128 ≤ b := by
  by_cases hc : c.val.toNat ≤ 0x7f
  · refine .inl ⟨UInt8.ofNat c.val.toNat, ?_, if_pos hc⟩
    rw [UInt8.lt_iff_toNat_lt, UInt8.toNat_ofNat']
    exact Nat.lt_of_le_of_lt (Nat.mod_le _ _) (Nat.lt_succ_of_le hc)
  · have henc : utf8.enc c = String.utf8EncodeChar c := rfl
    refine .inr ?_
    rw [henc]
    simp only [String.utf8EncodeChar, hc, if_false]
    split
    · simp only [List.mem_cons, List.not_mem_nil, or_false]
      rintro b (rfl | rfl) <;> exact le_ofNat (by omega) (by omega)
    · split
      · simp only [List.mem_cons, List.not_mem_nil, or_false]
        rintro b (rfl | rfl | rfl) <;> exact le_ofNat (by omega) (by omega)
      · simp only [List.mem_cons, List.not_mem_nil, or_false]
        rintro b (rfl | rfl | rfl | rfl) <;> exact le_ofNat (by omega) (by omega)

/-- A string is read as `range` does it: an ASCII byte, another character, or a byte that belongs to none. -/
theorem rune_induction {P : Str → Prop} (nil : P [])
    (ascii : ∀ b s, b < 128 → P s → P (b :: s))
    (char : ∀ c s, (∀ b ∈ utf8.enc c, 128 ≤ b) → P s → P (utf8.enc c ++ s))
    (invalid : ∀ b s, 128 ≤ b → decodeRune (b :: s) = none → P s → P (b :: s)) (s : Str) : P s := by
  induction hn : s.length using Nat.strongRecOn generalizing s with
  | _ n ih =>
      cases s with
      | nil => exact nil
      | cons b s =>
          have hs : P s := ih s.length (by rw [← hn]; exact Nat.lt_succ_self _) s rfl
          by_cases hb : b < 128
          · exact ascii b s hb hs
          · cases hd : decodeRune (b :: s) with
            | none => exact invalid b s (UInt8.not_lt.mp hb) hd hs
            | some c =>
                obtain ⟨rest, hrest⟩ := of_decodeRune hd
                rcases enc_cases c with ⟨a, ha, henc⟩ | hhigh
                · rw [henc, List.cons_append, List.cons.injEq] at hrest
                  exact absurd (hrest.1 ▸ ha) hb
                · have hlen := congrArg List.length hrest
                  have hpos := List.length_pos_iff.mpr (utf8.enc_ne_nil c)
                  rw [List.length_append] at hlen
                  rw [hrest]
                  exact char c rest hhigh (ih rest.length (by omega) rest rfl)

/-! ## 3. Strings in JSON -/

/-- `'\uFFFD'`, which stands for a byte that is no text. -/
def replacement : Str := utf8.enc (Char.ofNat 0xFFFD)

/-- A string that goes through `encoding/json`. Of the character that is copied, `n` bytes are left. -/
def jsonBytes : Nat → Str → Str
  | _, [] => []
  | n + 1, b :: s => b :: jsonBytes n s
  | 0, b :: s =>
    match decodeRune (b :: s) with
    | some c => b :: jsonBytes ((utf8.enc c).length - 1) s
    | none => replacement ++ jsonBytes 0 s

/-- What `encoding/json` makes of a string: a byte that belongs to no character is replaced. -/
def jsonString (s : Str) : Str := jsonBytes 0 s

theorem jsonBytes_append (w s : Str) : jsonBytes w.length (w ++ s) = w ++ jsonString s := by
  induction w with
  | nil => rfl
  | cons b w ih => rw [List.cons_append, List.cons_append, List.length_cons, jsonBytes, ih]

/-- A character is copied. -/
theorem jsonString_enc (c : Char) (s : Str) : jsonString (utf8.enc c ++ s) = utf8.enc c ++ jsonString s := by
  obtain ⟨b, w, hw⟩ := List.exists_cons_of_ne_nil (utf8.enc_ne_nil c)
  have hdecode := decodeRune_enc c s
  rw [hw, List.cons_append] at hdecode
  rw [hw, List.cons_append, jsonString, jsonBytes, hdecode, List.cons_append]
  dsimp only
  rw [hw, List.length_cons, Nat.add_sub_cancel, jsonBytes_append]

theorem jsonString_ascii {b : UInt8} (h : b < 128) (s : Str) : jsonString (b :: s) = b :: jsonString s := by
  have henc := jsonString_enc (Char.ofNat b.toNat) s
  rwa [enc_ascii h] at henc

theorem jsonString_invalid {b : UInt8} {s : Str} (h : decodeRune (b :: s) = none) :
    jsonString (b :: s) = replacement ++ jsonString s := by
  rw [jsonString, jsonBytes, h]
  rfl

/-- What comes out is a text. -/
theorem isUtf8_jsonString (s : Str) : IsUtf8 (jsonString s) := by
  induction s using rune_induction with
  | nil => exact isUtf8_nil
  | ascii b s hb ih =>
      rw [jsonString_ascii hb]
      exact IsUtf8.append ⟨[Char.ofNat b.toNat], by rw [Code.flat_singleton, enc_ascii hb]⟩ ih
  | char c s _ ih =>
      rw [jsonString_enc]
      exact IsUtf8.append ⟨[c], Code.flat_singleton utf8 c⟩ ih
  | invalid b s _ hd ih =>
      rw [jsonString_invalid hd]
      exact IsUtf8.append ⟨[Char.ofNat 0xFFFD], Code.flat_singleton utf8 _⟩ ih

/-- **A string comes through unchanged where it is a text.** -/
theorem jsonString_eq_self {s : Str} : jsonString s = s ↔ IsUtf8 s := by
  constructor
  · intro h
    rw [← h]
    exact isUtf8_jsonString s
  · rintro ⟨t, rfl⟩
    induction t with
    | nil => rfl
    | cons c t ih => rw [Code.flat_cons, jsonString_enc, ih]

end Kalm
