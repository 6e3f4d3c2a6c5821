/-
  File:      Kalm/Go/Bytes.lean
  Subject:   BYTES: letters in either case, and header names as `net/http` writes them.

  * `forall_byte` -- what is checked for 256 numbers holds of every byte;
  * `canonicalHeaderKey` -- the first letter and each letter behind a dash in upper case, the others in
    lower case; a name with a byte that no header name has is left alone;
  * `toLower_canonicalHeaderKey` -- it is the same name where case does not count.
-/
import Kalm.Go.Strings

namespace Kalm

/-- **What holds of the 256 bytes holds of every byte.** -/
theorem forall_byte {P : UInt8 → Prop} (h : ∀ n : Fin 256, P (UInt8.ofNat n)) (b : UInt8) : P b := by
  have hb := h ⟨b.toNat, b.toNat_lt⟩
  rwa [UInt8.ofNat_toNat] at hb

/-! ## 1. Case -/

/-- A byte in lower case. -/
def toLowerByte (b : UInt8) : UInt8 := if 65 ≤ b ∧ b ≤ 90 then b + 32 else b

/-- A byte in upper case. -/
def toUpperByte (b : UInt8) : UInt8 := if 97 ≤ b ∧ b ≤ 122 then b - 32 else b

/-- A name where case does not count. -/
def toLower (s : Str) : Str := s.map toLowerByte

theorem toLowerByte_toUpperByte (b : UInt8) : toLowerByte (toUpperByte b) = toLowerByte b :=
  forall_byte (P := fun b => toLowerByte (toUpperByte b) = toLowerByte b) (by decide +kernel) b

theorem toLowerByte_toLowerByte (b : UInt8) : toLowerByte (toLowerByte b) = toLowerByte b :=
  forall_byte (P := fun b => toLowerByte (toLowerByte b) = toLowerByte b) (by decide +kernel) b

/-! ## 2. Header names -/

/-- `validHeaderFieldByte`: letters, digits and `!#$%&'*+-.^_|~` and the backquote. -/
def validHeaderFieldByte (b : UInt8) : Bool :=
  (65 ≤ b && b ≤ 90) || (97 ≤ b && b ≤ 122) || (48 ≤ b && b ≤ 57) ||
    b ∈ [33, 35, 36, 37, 38, 39, 42, 43, 45, 46, 94, 95, 96, 124, 126]

/-- The loop of `canonicalMIMEHeaderKey`: `upper` at the front and behind a dash. -/
def canonicalMIMEHeaderKey : Bool → Str → Str
  | _, [] => []
  | upper, b :: s =>
    (if upper then toUpperByte b else toLowerByte b) :: canonicalMIMEHeaderKey (b == dash) s

/-- `http.CanonicalHeaderKey`. -/
def canonicalHeaderKey (s : Str) : Str :=
  if s.all validHeaderFieldByte then canonicalMIMEHeaderKey true s else s

theorem toLower_canonicalMIMEHeaderKey (upper : Bool) (s : Str) :
    toLower (canonicalMIMEHeaderKey upper s) = toLower s := by
  induction s generalizing upper with
  | nil => rfl
  | cons b s ih =>
      have hbyte : toLowerByte (if upper then toUpperByte b else toLowerByte b) = toLowerByte b := by
        cases upper
        · exact toLowerByte_toLowerByte b
        · exact toLowerByte_toUpperByte b
      rw [canonicalMIMEHeaderKey, toLower, List.map_cons, hbyte]
      exact congrArg (toLowerByte b :: ·) (ih (b == dash))

/-- **The canonical name is the same name.** -/
theorem toLower_canonicalHeaderKey (s : Str) : toLower (canonicalHeaderKey s) = toLower s := by
  unfold canonicalHeaderKey
  split
  · exact toLower_canonicalMIMEHeaderKey true s
  · rfl

end Kalm
