/-
  File:      Kalm/Lib/Base64.lean
  Subject:   BASE64: three octets are written as four digits of six bits, by an alphabet of 64 symbols and
             without padding.

  * `sextets`, `octets` -- octets as digits and back; `octets_sextets`;
  * `Alphabet`, `Alphabet.ofTable` -- the symbols of the digits;
  * `encode`, `decode` -- a text that is no code is an error at a place in it;
  * `decode_encode` -- what one alphabet writes it reads back;
  * `decode_encode_drift` -- another alphabet reads it as the same octets where it agrees on every digit
    that is written, and refuses it elsewhere.
-/
import Mathlib.Data.List.Basic
import Mathlib.Data.Fintype.Basic

namespace Base64

/-! ## 1. Octets and digits -/

/-- The digits of some octets. -/
def sextets : List UInt8 → List (Fin 64)
  | [] => []
  | [a] => [Fin.ofNat 64 (a.toNat / 4), Fin.ofNat 64 (a.toNat % 4 * 16)]
  | [a, b] => [Fin.ofNat 64 (a.toNat / 4), Fin.ofNat 64 (a.toNat % 4 * 16 + b.toNat / 16),
      Fin.ofNat 64 (b.toNat % 16 * 4)]
  | a :: b :: c :: rest =>
    Fin.ofNat 64 (a.toNat / 4) :: Fin.ofNat 64 (a.toNat % 4 * 16 + b.toNat / 16) ::
      Fin.ofNat 64 (b.toNat % 16 * 4 + c.toNat / 64) :: Fin.ofNat 64 (c.toNat % 64) :: sextets rest

/-- The first octet of two digits. -/
def octet₁ (p q : Fin 64) : UInt8 := UInt8.ofNat (p * 4 + q / 16)

/-- The octet of the second and the third digit. -/
def octet₂ (q r : Fin 64) : UInt8 := UInt8.ofNat (q % 16 * 16 + r / 4)

/-- The octet of the third and the fourth digit. -/
def octet₃ (r s : Fin 64) : UInt8 := UInt8.ofNat (r % 4 * 64 + s)

/-- The octets of some digits. The bits of the last digit that fill no octet are ignored; one digit alone is
    no octet. -/
def octets : List (Fin 64) → Option (List UInt8)
  | [] => some []
  | [_] => none
  | [p, q] => some [octet₁ p q]
  | [p, q, r] => some [octet₁ p q, octet₂ q r]
  | p :: q :: r :: s :: rest =>
    (octets rest).map fun bs => octet₁ p q :: octet₂ q r :: octet₃ r s :: bs

theorem octet₁_eq (a : UInt8) {n : Nat} (h : n < 16) :
    octet₁ (Fin.ofNat 64 (a.toNat / 4)) (Fin.ofNat 64 (a.toNat % 4 * 16 + n)) = a := by
  apply UInt8.toNat_inj.mp
  have ha := a.toNat_lt
  simp only [octet₁, Fin.ofNat, UInt8.toNat_ofNat']
  omega

theorem octet₂_eq (b : UInt8) {m n : Nat} (h : n < 4) :
    octet₂ (Fin.ofNat 64 (m % 4 * 16 + b.toNat / 16)) (Fin.ofNat 64 (b.toNat % 16 * 4 + n)) = b := by
  apply UInt8.toNat_inj.mp
  have hb := b.toNat_lt
  simp only [octet₂, Fin.ofNat, UInt8.toNat_ofNat']
  omega

theorem octet₃_eq (c : UInt8) {m : Nat} :
    octet₃ (Fin.ofNat 64 (m % 16 * 4 + c.toNat / 64)) (Fin.ofNat 64 (c.toNat % 64)) = c := by
  apply UInt8.toNat_inj.mp
  have hc := c.toNat_lt
  simp only [octet₃, Fin.ofNat, UInt8.toNat_ofNat']
  omega

/-- **The digits of some octets are the digits of these octets alone.** -/
theorem octets_sextets (bs : List UInt8) : octets (sextets bs) = some bs := by
  induction bs using sextets.induct with
  | case1 => rfl
  | case2 a => simpa [sextets, octets] using octet₁_eq a (n := 0) (by omega)
  | case3 a b =>
      have hb := b.toNat_lt
      have h₂ := octet₂_eq b (m := a.toNat) (n := 0) (by omega)
      simp only [sextets, octets, octet₁_eq a (show b.toNat / 16 < 16 by omega)]
      simpa using h₂
  | case4 a b c rest ih =>
      have hb := b.toNat_lt
      have hc := c.toNat_lt
      simp only [sextets, octets, ih, Option.map_some, octet₁_eq a (show b.toNat / 16 < 16 by omega),
        octet₂_eq b (show c.toNat / 64 < 4 by omega), octet₃_eq c]

/-! ## 2. Alphabets -/

/-- The symbols of the digits, and the symbols that stand for nothing. -/
structure Alphabet (υ : Type) where
  digit : Fin 64 → υ
  value : υ → Option (Fin 64)
  value_eq_some : ∀ {u d}, value u = some d ↔ digit d = u
  blank : υ → Bool

variable {υ : Type}

/-- The alphabet of a table of 64 different symbols. -/
def Alphabet.ofTable [DecidableEq υ] (table : List υ) (hlength : table.length = 64) (hnodup : table.Nodup)
    (blank : υ → Bool) : Alphabet υ where
  digit d := table.get (d.cast hlength.symm)
  value u := if h : u ∈ table then some (Fin.cast hlength ⟨table.idxOf u, List.idxOf_lt_length_of_mem h⟩) else none
  value_eq_some := by
    intro u d
    constructor
    · intro h
      split at h
      · rw [← Option.some.inj h]
        exact List.getElem_idxOf _
      · cases h
    · rintro rfl
      rw [dif_pos (List.get_mem _ _)]
      exact congrArg some (Fin.ext (hnodup.idxOf_getElem d.val _))
  blank := blank

/-- The code of some octets. -/
def Alphabet.encode (A : Alphabet υ) (bs : List UInt8) : List υ := (sextets bs).map A.digit

/-- The digits of a text, or the place of a symbol that is none. -/
def Alphabet.digits (A : Alphabet υ) : Nat → List υ → Except Nat (List (Fin 64))
  | _, [] => .ok []
  | i, u :: text =>
    match A.value u with
    | some d => (A.digits (i + 1) text).map fun ds => d :: ds
    | none => if A.blank u then A.digits (i + 1) text else .error i

/-- The octets of a text, or the place where it is no code. -/
def Alphabet.decode (A : Alphabet υ) (text : List υ) : Except Nat (List UInt8) :=
  match A.digits 0 text with
  | .error i => .error i
  | .ok ds =>
    match octets ds with
    | some bs => .ok bs
    | none => .error (text.length - 1)

/-- The symbols are those of the table. -/
theorem Alphabet.digit_mem_ofTable [DecidableEq υ] {table : List υ} {hlength : table.length = 64}
    {hnodup : table.Nodup} {blank : υ → Bool} (d : Fin 64) :
    (Alphabet.ofTable table hlength hnodup blank).digit d ∈ table := List.get_mem _ _

variable (A B : Alphabet υ)

theorem Alphabet.digit_inj {d e : Fin 64} (h : A.digit d = A.digit e) : d = e :=
  Option.some.inj ((A.value_eq_some.mpr rfl).symm.trans (A.value_eq_some.mpr h.symm))

@[simp] theorem Alphabet.value_digit (d : Fin 64) : A.value (A.digit d) = some d := A.value_eq_some.mpr rfl

/-- Every symbol of a code is a digit. -/
theorem Alphabet.mem_encode {bs : List UInt8} {u : υ} :
    u ∈ A.encode bs ↔ ∃ d ∈ sextets bs, A.digit d = u := by
  simp [encode]

/-- A symbol is in a code where its digit is. -/
theorem Alphabet.digit_mem_encode {bs : List UInt8} {d : Fin 64} : A.digit d ∈ A.encode bs ↔ d ∈ sextets bs := by
  rw [A.mem_encode]
  constructor
  · intro h
    obtain ⟨e, he, hde⟩ := h
    rwa [A.digit_inj hde] at he
  · exact fun h => ⟨d, h, rfl⟩

/-- Digits that both alphabets write alike are read back. -/
theorem Alphabet.digits_map {ds : List (Fin 64)} (h : ∀ d ∈ ds, B.value (A.digit d) = some d) (i : Nat) :
    B.digits i (ds.map A.digit) = .ok ds := by
  induction ds generalizing i with
  | nil => rfl
  | cons d ds ih =>
      have hrest := ih (fun e he => h e (List.mem_cons_of_mem d he)) (i + 1)
      simp only [List.map_cons, digits, h d List.mem_cons_self, hrest]
      rfl

/-- A symbol that is neither a digit nor blank is refused. -/
theorem Alphabet.digits_error {text : List υ} {u : υ} (hu : u ∈ text) (hvalue : A.value u = none)
    (hblank : A.blank u = false) (i : Nat) : ∃ j, A.digits i text = .error j := by
  induction text generalizing i with
  | nil => simp at hu
  | cons v text ih =>
      rcases List.mem_cons.mp hu with rfl | hu
      · exact ⟨i, by simp [digits, hvalue, hblank]⟩
      · obtain ⟨j, hj⟩ := ih hu (i + 1)
        cases hv : A.value v with
        | some d => exact ⟨j, by simp [digits, hv, hj, Except.map]⟩
        | none =>
            cases hb : A.blank v with
            | true => exact ⟨j, by simp [digits, hv, hb, hj]⟩
            | false => exact ⟨i, by simp [digits, hv, hb]⟩

/-- **What an alphabet writes it reads back.** -/
theorem Alphabet.decode_encode (bs : List UInt8) : A.decode (A.encode bs) = .ok bs := by
  have hdigits : A.digits 0 ((sextets bs).map A.digit) = .ok (sextets bs) :=
    A.digits_map A (fun d _ => A.value_digit d) 0
  simp [decode, encode, hdigits, octets_sextets]

theorem Alphabet.encode_ne_nil {bs : List UInt8} (h : bs ≠ []) : A.encode bs ≠ [] := by
  intro hnil
  have hdecode := A.decode_encode bs
  rw [hnil] at hdecode
  exact h (Except.ok.inj hdecode).symm

/-- **Where two alphabets agree on every digit that is written, one reads what the other writes.** -/
theorem Alphabet.decode_encode_agree {bs : List UInt8} (h : ∀ d ∈ sextets bs, A.digit d = B.digit d) :
    B.decode (A.encode bs) = .ok bs := by
  have hencode : A.encode bs = B.encode bs := List.map_congr_left h
  rw [hencode, B.decode_encode]

/-- **Where a digit is written that the other alphabet does not know, the code is refused.** -/
theorem Alphabet.decode_encode_drift {bs : List UInt8} {d : Fin 64} (hd : d ∈ sextets bs)
    (hvalue : B.value (A.digit d) = none) (hblank : B.blank (A.digit d) = false) :
    ∃ i, B.decode (A.encode bs) = .error i := by
  have hmem : A.digit d ∈ A.encode bs := A.mem_encode.mpr ⟨d, hd, rfl⟩
  obtain ⟨i, hi⟩ := B.digits_error hmem hvalue hblank 0
  exact ⟨i, by simp [decode, hi]⟩

end Base64
