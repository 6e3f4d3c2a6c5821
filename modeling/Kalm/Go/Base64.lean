/-
  File:      Kalm/Go/Base64.lean
  Subject:   `encoding/base64`: the two encodings without padding, which differ in their last two digits, and the
             standard one with padding.

  * `rawStdEncoding`, `rawURLEncoding` -- `base64.RawStdEncoding`, `base64.RawURLEncoding`;
  * `stdEncode`, `stdDecode` -- `base64.StdEncoding`; `stdDecode_stdEncode`;
  * `decode_url_iff` -- the standard encoding reads what the URL-safe one has written exactly when neither of
    the URL-safe digits occurs, and refuses it otherwise.
-/
import Kalm.Go.Strings
import Kalm.Lib.Base64

namespace Kalm

/-- `encodeStd`. -/
def encodeStd : Str := str "ABCDEFGHIJKLMNOPQRSTUVWXYZabcdefghijklmnopqrstuvwxyz0123456789+/"

/-- `encodeURL`. -/
def encodeURL : Str := str "ABCDEFGHIJKLMNOPQRSTUVWXYZabcdefghijklmnopqrstuvwxyz0123456789-_"

/-- A decoder passes over the ends of lines. -/
def isLineEnd (b : UInt8) : Bool := b = newline || b = 13

/-- `base64.RawStdEncoding`. -/
def rawStdEncoding : Base64.Alphabet UInt8 := .ofTable encodeStd (by decide) (by decide) isLineEnd

/-- `base64.RawURLEncoding`. -/
def rawURLEncoding : Base64.Alphabet UInt8 := .ofTable encodeURL (by decide) (by decide) isLineEnd

/-- `base64.StdEncoding.EncodeToString`. -/
def stdEncode (bs : List UInt8) : Str :=
  let digits := rawStdEncoding.encode bs
  -- `StdPadding` is '='
  digits ++ List.replicate ((4 - digits.length % 4) % 4) 61

/-- `base64.StdEncoding.DecodeString`: the ends of lines are passed over, and the padding is all that is missing of
    a group of four. -/
def stdDecode (text : Str) : Option (List UInt8) :=
  let code := text.filter fun b => !isLineEnd b
  let digits := code.takeWhile (· ≠ 61)
  let padding := code.drop digits.length
  if code.length % 4 = 0 ∧ padding.length < 4 ∧ padding.all (· = 61) then (rawStdEncoding.decode digits).toOption
  else none

/-- The error text of `base64.CorruptInputError`. -/
def corruptInputError (i : Nat) : Str := str "illegal base64 data at input byte " ++ itoa i

/-- What holds of every symbol of the standard encoding. -/
theorem digit_std_of {P : UInt8 → Bool} (h : encodeStd.all P = true) (d : Fin 64) : P (rawStdEncoding.digit d) = true :=
  List.all_eq_true.mp h _ (Base64.Alphabet.digit_mem_ofTable d)

/-- What holds of every symbol of the URL-safe encoding. -/
theorem digit_url_of {P : UInt8 → Bool} (h : encodeURL.all P = true) (d : Fin 64) : P (rawURLEncoding.digit d) = true :=
  List.all_eq_true.mp h _ (Base64.Alphabet.digit_mem_ofTable d)

/-- The digits of the two encodings. -/
theorem digit_url (d : Fin 64) :
    rawURLEncoding.digit d = rawStdEncoding.digit d ∧ rawURLEncoding.digit d ≠ dash ∧
        rawURLEncoding.digit d ≠ underscore ∨
      rawStdEncoding.value (rawURLEncoding.digit d) = none ∧ isLineEnd (rawURLEncoding.digit d) = false ∧
        (rawURLEncoding.digit d = dash ∨ rawURLEncoding.digit d = underscore) := by
  revert d
  decide +kernel

/-- Where the two URL-safe digits are written. -/
theorem mem_encode_url {bs : List UInt8} :
    (dash ∈ rawURLEncoding.encode bs ↔ 62 ∈ Base64.sextets bs) ∧
      (underscore ∈ rawURLEncoding.encode bs ↔ 63 ∈ Base64.sextets bs) := by
  have hdash : rawURLEncoding.digit 62 = dash := by decide
  have hunder : rawURLEncoding.digit 63 = underscore := by decide
  rw [← hdash, ← hunder]
  exact ⟨rawURLEncoding.digit_mem_encode, rawURLEncoding.digit_mem_encode⟩

/-- **The standard encoding reads what the URL-safe one has written exactly when neither of the URL-safe
    digits occurs.** -/
theorem decode_url_iff {bs : List UInt8} :
    rawStdEncoding.decode (rawURLEncoding.encode bs) = .ok bs ↔
      dash ∉ rawURLEncoding.encode bs ∧ underscore ∉ rawURLEncoding.encode bs := by
  simp only [rawURLEncoding.mem_encode, not_exists, not_and]
  constructor
  · intro h
    have hall : ∀ d ∈ Base64.sextets bs,
        rawURLEncoding.digit d ≠ dash ∧ rawURLEncoding.digit d ≠ underscore := by
      intro d hd
      rcases digit_url d with ⟨_, hdash, hunder⟩ | ⟨hvalue, hblank, _⟩
      · exact ⟨hdash, hunder⟩
      · obtain ⟨i, hi⟩ := rawURLEncoding.decode_encode_drift rawStdEncoding hd hvalue hblank
        rw [hi] at h
        cases h
    exact ⟨fun d hd => (hall d hd).1, fun d hd => (hall d hd).2⟩
  · intro h
    refine rawURLEncoding.decode_encode_agree rawStdEncoding fun d hd => ?_
    rcases digit_url d with ⟨hsame, _⟩ | ⟨_, _, hurl⟩
    · exact hsame
    · rcases hurl with hdash | hunder
      · exact absurd hdash (h.1 d hd)
      · exact absurd hunder (h.2 d hd)

/-- Where it is not read, it is refused. -/
theorem decode_url_error {bs : List UInt8}
    (h : rawStdEncoding.decode (rawURLEncoding.encode bs) ≠ .ok bs) :
    ∃ i, rawStdEncoding.decode (rawURLEncoding.encode bs) = .error i := by
  by_contra hno
  refine h (rawURLEncoding.decode_encode_agree rawStdEncoding fun d hd => ?_)
  rcases digit_url d with ⟨hsame, _⟩ | ⟨hvalue, hblank, _⟩
  · exact hsame
  · exact absurd (rawURLEncoding.decode_encode_drift rawStdEncoding hd hvalue hblank) hno

/-! ## Padding -/

/-- A digit is no padding and no end of a line. -/
theorem digit_std (d : Fin 64) : rawStdEncoding.digit d ≠ 61 ∧ isLineEnd (rawStdEncoding.digit d) = false := by
  have h := digit_std_of (P := fun b => b ≠ 61 && !isLineEnd b) (by decide) d
  rw [Bool.and_eq_true, decide_eq_true_eq, Bool.not_eq_true'] at h
  exact h

/-- Ends of lines behind a code say nothing. -/
theorem stdDecode_append {text ends : Str} (h : ∀ b ∈ ends, isLineEnd b = true) :
    stdDecode (text ++ ends) = stdDecode text := by
  have hends : ends.filter (fun b => !isLineEnd b) = [] := List.filter_eq_nil_iff.mpr fun b hb => by simp [h b hb]
  rw [stdDecode, List.filter_append, hends, List.append_nil]
  rfl

/-- **What is written with padding is read back.** -/
theorem stdDecode_stdEncode (bs : List UInt8) : stdDecode (stdEncode bs) = some bs := by
  have hdigit : ∀ b ∈ rawStdEncoding.encode bs, b ≠ 61 ∧ isLineEnd b = false := by
    intro b hb
    obtain ⟨d, _, rfl⟩ := rawStdEncoding.mem_encode.mp hb
    exact digit_std d
  set digits := rawStdEncoding.encode bs with hdigits
  set padding := List.replicate ((4 - digits.length % 4) % 4) (61 : UInt8) with hpadding
  have hencode : stdEncode bs = digits ++ padding := rfl
  have hlines : (digits ++ padding).filter (fun b => !isLineEnd b) = digits ++ padding := by
    refine List.filter_eq_self.mpr fun b hb => ?_
    rcases List.mem_append.mp hb with hb | hb
    · rw [(hdigit b hb).2]
      rfl
    · rw [(List.mem_replicate.mp hb).2]
      rfl
  have htake : (digits ++ padding).takeWhile (· ≠ 61) = digits := by
    rw [List.takeWhile_append_of_pos fun b hb => decide_eq_true (hdigit b hb).1, hpadding, List.takeWhile_replicate]
    simp
  have hdrop : (digits ++ padding).drop digits.length = padding := List.drop_left
  have hwhole : (digits ++ padding).length % 4 = 0 := by
    rw [List.length_append, hpadding, List.length_replicate]
    omega
  have hshort : padding.length < 4 := by
    rw [hpadding, List.length_replicate]
    omega
  rw [hencode, stdDecode, hlines, htake, hdrop]
  have hequal : padding.all (· = 61) = true :=
    List.all_eq_true.mpr fun b hb => decide_eq_true (List.mem_replicate.mp hb).2
  rw [if_pos ⟨hwhole, hshort, hequal⟩, hdigits, rawStdEncoding.decode_encode]
  rfl

end Kalm
