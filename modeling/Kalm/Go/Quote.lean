/-
  File:      Kalm/Go/Quote.lean
  Subject:   STRING LITERALS IN JSON: what stands between the quotes when `encoding/json` writes a string, and
             what it reads there.

  * `quote` -- the body of a literal; `quote_ascii`, `quote_char`, `quote_invalid` -- character by character;
  * `unquote` -- what a body stands for;
  * `unquote_quote` -- a string comes back but for the bytes that are no text.
-/
import Kalm.Go.Utf8

namespace Kalm

/-- `'"'`. -/
abbrev quotation : UInt8 := 34
/-- `'\\'`. -/
abbrev backslash : UInt8 := 92

/-! ## 1. Writing -/

/-- `htmlSafeSet`: the ASCII bytes that are copied. -/
def htmlSafe (b : UInt8) : Bool :=
  32 ≤ b && b < 128 && b ≠ quotation && b ≠ backslash && b ≠ 38 && b ≠ 60 && b ≠ 62

/-- The escape of another ASCII byte, behind its backslash. -/
def escapeByte (b : UInt8) : Str :=
  if b = backslash ∨ b = quotation then [b]
  else if b = newline then str "n"
  else if b = 13 then str "r"
  else if b = 9 then str "t"
  else str "u00" ++ [hexDigit (b.toNat / 16), hexDigit (b.toNat % 16)]

/-- An ASCII byte. -/
def quoteByte (b : UInt8) : Str := if htmlSafe b then [b] else backslash :: escapeByte b

/-- Another character: the two that end a line in JavaScript are escaped. -/
def quoteRune (c : Char) : Str :=
  if c.toNat = 0x2028 ∨ c.toNat = 0x2029 then backslash :: str "u202" ++ [hexDigit (c.toNat % 16)]
  else utf8.enc c

/-- The body of a literal. Of the character that was written, `n` bytes are left. -/
def quoteFrom : Nat → Str → Str
  | _, [] => []
  | n + 1, _ :: s => quoteFrom n s
  | 0, b :: s =>
    if b < 128 then quoteByte b ++ quoteFrom 0 s
    else
      match decodeRune (b :: s) with
      | some c => quoteRune c ++ quoteFrom ((utf8.enc c).length - 1) s
      | none => backslash :: str "ufffd" ++ quoteFrom 0 s

/-- `encodeState.string`, between the quotes. -/
def quote (s : Str) : Str := quoteFrom 0 s

/-! ## 2. Reading -/

/-- The value of a hexadecimal digit. -/
def unhex (b : UInt8) : Option Nat :=
  if 48 ≤ b ∧ b ≤ 57 then some (b.toNat - 48)
  else if 97 ≤ b ∧ b ≤ 102 then some (b.toNat - 87)
  else if 65 ≤ b ∧ b ≤ 70 then some (b.toNat - 55)
  else none

/-- The four digits of `getu4`. -/
def hex4 : Str → Option Nat
  | a :: b :: c :: d :: _ =>
    match unhex a, unhex b, unhex c, unhex d with
    | some a, some b, some c, some d => some (((a * 16 + b) * 16 + c) * 16 + d)
    | _, _, _, _ => none
  | _ => none

/-- `getu4`: the code unit of an escape at the front. -/
def getu4 : Str → Option Nat
  | 92 :: 117 :: s => hex4 s
  | _ => none

/-- `utf16.DecodeRune`. -/
def decodeSurrogates (r₁ r₂ : Nat) : Option Nat :=
  if 0xD800 ≤ r₁ ∧ r₁ < 0xDC00 ∧ 0xDC00 ≤ r₂ ∧ r₂ < 0xE000 then
    some ((r₁ - 0xD800) * 0x400 + (r₂ - 0xDC00) + 0x10000)
  else none

/-- An escape behind its backslash: what it stands for, and how many bytes it has. A surrogate that has no
    partner is no character; an escape that the scanner does not let through stands for nothing. -/
def unquoteEscape : Str → Str × Nat
  | [] => ([], 0)
  | c :: s =>
    if c = quotation ∨ c = backslash ∨ c = slash ∨ c = 39 then ([c], 1)
    else if c = 98 then ([8], 1)
    else if c = 102 then ([12], 1)
    else if c = 110 then ([newline], 1)
    else if c = 114 then ([13], 1)
    else if c = 116 then ([9], 1)
    else if c = 117 then
      match hex4 s with
      | none => ([], 1)
      | some r =>
        if 0xD800 ≤ r ∧ r < 0xE000 then
          match (getu4 (s.drop 4)).bind (decodeSurrogates r) with
          | some c => (utf8.enc (Char.ofNat c), 11)
          | none => (replacement, 5)
        else (utf8.enc (Char.ofNat r), 5)
    else ([], 1)

/-- What the body of a literal stands for. Of what was read, `n` bytes are left. -/
def unquoteFrom : Nat → Str → Str
  | _, [] => []
  | n + 1, _ :: s => unquoteFrom n s
  | 0, b :: s =>
    if b = backslash then (unquoteEscape s).1 ++ unquoteFrom (unquoteEscape s).2 s
    else if b < 128 then b :: unquoteFrom 0 s
    else
      match decodeRune (b :: s) with
      | some c => utf8.enc c ++ unquoteFrom ((utf8.enc c).length - 1) s
      | none => replacement ++ unquoteFrom 0 s

/-- `unquoteBytes`, between the quotes. -/
def unquote (s : Str) : Str := unquoteFrom 0 s

/-! ## 3. Character by character -/

theorem quoteFrom_succ (n : Nat) (b : UInt8) (s : Str) : quoteFrom (n + 1) (b :: s) = quoteFrom n s := rfl

theorem quoteFrom_zero (b : UInt8) (s : Str) : quoteFrom 0 (b :: s) =
    if b < 128 then quoteByte b ++ quoteFrom 0 s
    else
      match decodeRune (b :: s) with
      | some c => quoteRune c ++ quoteFrom ((utf8.enc c).length - 1) s
      | none => backslash :: str "ufffd" ++ quoteFrom 0 s := rfl

theorem unquoteFrom_succ (n : Nat) (b : UInt8) (s : Str) : unquoteFrom (n + 1) (b :: s) = unquoteFrom n s := rfl

theorem unquoteFrom_zero (b : UInt8) (s : Str) : unquoteFrom 0 (b :: s) =
    if b = backslash then (unquoteEscape s).1 ++ unquoteFrom (unquoteEscape s).2 s
    else if b < 128 then b :: unquoteFrom 0 s
    else
      match decodeRune (b :: s) with
      | some c => utf8.enc c ++ unquoteFrom ((utf8.enc c).length - 1) s
      | none => replacement ++ unquoteFrom 0 s := rfl

theorem quoteFrom_append (w s : Str) : quoteFrom w.length (w ++ s) = quote s := by
  induction w with
  | nil => rfl
  | cons b w ih => rw [List.cons_append, List.length_cons, quoteFrom_succ, ih]

theorem unquoteFrom_append (w s : Str) : unquoteFrom w.length (w ++ s) = unquote s := by
  induction w with
  | nil => rfl
  | cons b w ih => rw [List.cons_append, List.length_cons, unquoteFrom_succ, ih]

theorem quote_ascii {b : UInt8} (h : b < 128) (s : Str) : quote (b :: s) = quoteByte b ++ quote s := by
  rw [quote, quoteFrom_zero, if_pos h, quote]

theorem quote_char {c : Char} (hc : ∀ b ∈ utf8.enc c, 128 ≤ b) (s : Str) :
    quote (utf8.enc c ++ s) = quoteRune c ++ quote s := by
  obtain ⟨b, w, hw⟩ := List.exists_cons_of_ne_nil (utf8.enc_ne_nil c)
  have hdecode := decodeRune_enc c s
  have hb : ¬ b < 128 := UInt8.not_lt.mpr (hc b (hw ▸ List.mem_cons_self))
  rw [hw, List.cons_append] at hdecode
  rw [hw, List.cons_append, quote, quoteFrom_zero, if_neg hb, hdecode]
  dsimp only
  rw [hw, List.length_cons, Nat.add_sub_cancel, quoteFrom_append]

theorem quote_invalid {b : UInt8} {s : Str} (hb : 128 ≤ b) (hd : decodeRune (b :: s) = none) :
    quote (b :: s) = backslash :: str "ufffd" ++ quote s := by
  rw [quote, quoteFrom_zero, if_neg (UInt8.not_lt.mpr hb), hd, quote]

/-- An escape is read. -/
theorem unquote_escape {e out s : Str} (h : unquoteEscape (e ++ s) = (out, e.length)) :
    unquote (backslash :: e ++ s) = out ++ unquote s := by
  rw [List.cons_append, unquote, unquoteFrom_zero, if_pos rfl, h, unquoteFrom_append]

theorem unquote_ascii {b : UInt8} (hb : b < 128) (hne : b ≠ backslash) (s : Str) :
    unquote (b :: s) = b :: unquote s := by
  rw [unquote, unquoteFrom_zero, if_neg hne, if_pos hb, unquote]

theorem unquote_char {c : Char} (hc : ∀ b ∈ utf8.enc c, 128 ≤ b) (s : Str) :
    unquote (utf8.enc c ++ s) = utf8.enc c ++ unquote s := by
  obtain ⟨b, w, hw⟩ := List.exists_cons_of_ne_nil (utf8.enc_ne_nil c)
  have hdecode := decodeRune_enc c s
  have hlow : 128 ≤ b := hc b (hw ▸ List.mem_cons_self)
  have hne : b ≠ backslash := by
    rintro rfl
    exact absurd hlow (by decide)
  rw [hw, List.cons_append] at hdecode
  rw [hw, List.cons_append, unquote, unquoteFrom_zero, if_neg hne, if_neg (UInt8.not_lt.mpr hlow), hdecode]
  dsimp only
  rw [hw, List.length_cons, Nat.add_sub_cancel, unquoteFrom_append]

/-! ## 4. There and back -/

theorem unhex_hexDigit {n : Nat} (h : n < 16) : unhex (hexDigit n) = some n := by
  have hall : ∀ m : Fin 16, unhex (hexDigit m) = some m.val := by decide
  exact hall ⟨n, h⟩

/-- Four digits that are no surrogate. -/
theorem unquoteEscape_hex {a b c d : UInt8} {r : Nat} {s : Str} (hr : hex4 (a :: b :: c :: d :: s) = some r)
    (hplain : r < 0xD800) :
    unquoteEscape (117 :: a :: b :: c :: d :: s) = (utf8.enc (Char.ofNat r), 5) := by
  have hno : ¬ (0xD800 ≤ r ∧ r < 0xE000) := by omega
  simp [unquoteEscape, hr, hno, quotation, backslash, slash]

theorem unquoteEscape_escapeByte {b : UInt8} (hb : b < 128) (s : Str) :
    unquoteEscape (escapeByte b ++ s) = ([b], (escapeByte b).length) := by
  unfold escapeByte
  split
  · rename_i h
    rcases h with rfl | rfl <;> rfl
  · split
    · rename_i h
      subst h
      rfl
    · split
      · rename_i h
        subst h
        rfl
      · split
        · rename_i h
          subst h
          rfl
        · have hlt := UInt8.lt_iff_toNat_lt.mp hb
          have hbyte : b.toNat < 128 := hlt
          have hhigh : unhex (hexDigit (b.toNat / 16)) = some (b.toNat / 16) := unhex_hexDigit (by omega)
          have hlow : unhex (hexDigit (b.toNat % 16)) = some (b.toNat % 16) := unhex_hexDigit (by omega)
          have hzero : unhex 48 = some 0 := by decide
          have hvalue : ((0 * 16 + 0) * 16 + b.toNat / 16) * 16 + b.toNat % 16 = b.toNat := by omega
          have hex : hex4 (48 :: 48 :: hexDigit (b.toNat / 16) :: hexDigit (b.toNat % 16) :: s) =
              some b.toNat := by
            simp only [hex4, hhigh, hlow, hzero, hvalue]
          have hread := unquoteEscape_hex hex (by omega)
          rw [enc_ascii hb] at hread
          exact hread

/-- An ASCII byte comes back. -/
theorem unquote_quoteByte {b : UInt8} (hb : b < 128) (s : Str) :
    unquote (quoteByte b ++ s) = b :: unquote s := by
  unfold quoteByte
  split
  · rename_i hsafe
    have hne : b ≠ backslash := by
      rintro rfl
      exact absurd hsafe (by decide)
    exact unquote_ascii hb hne s
  · exact unquote_escape (unquoteEscape_escapeByte hb s)

/-- Another character comes back. -/
theorem unquote_quoteRune {c : Char} (hc : ∀ b ∈ utf8.enc c, 128 ≤ b) (s : Str) :
    unquote (quoteRune c ++ s) = utf8.enc c ++ unquote s := by
  unfold quoteRune
  split
  · rename_i h
    have hchar : c = Char.ofNat c.toNat := (Char.ofNat_toNat c).symm
    rcases h with h | h <;> rw [h] at hchar <;> subst hchar <;> exact unquote_escape rfl
  · exact unquote_char hc s

/-- **A string that was written is read again, but for the bytes that are no text.** -/
theorem unquote_quote (s : Str) : unquote (quote s) = jsonString s := by
  induction s using rune_induction with
  | nil => rfl
  | ascii b s hb ih => rw [quote_ascii hb, unquote_quoteByte hb, ih, jsonString_ascii hb]
  | char c s hc ih => rw [quote_char hc, unquote_quoteRune hc, ih, jsonString_enc]
  | invalid b s hb hd ih =>
      have hread : unquote (backslash :: str "ufffd" ++ quote s) = replacement ++ unquote (quote s) :=
        unquote_escape rfl
      rw [quote_invalid hb hd, hread, ih, jsonString_invalid hd]

end Kalm
