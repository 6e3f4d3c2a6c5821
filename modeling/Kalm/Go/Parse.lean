/-
  File:      Kalm/Go/Parse.lean
  Subject:   GO PARSERS of numbers and addresses: `strconv.Atoi`, `strconv.ParseUint` with base 0,
             `net.ParseIP`.

  * `atoi` -- an optional sign and decimal digits, in the range of a 64-bit int;
  * `parseUint0` -- the number `ParseUint(s, 0, bitSize)` returns next to its error: zero after a
    syntax error, the largest number after a range error;
  * `parseIP` -- whether the text is an address.
-/
import Mathlib.Algebra.Group.Nat.Defs
import Mathlib.Algebra.Order.Ring.Int
import Kalm.Go.Strings

namespace Kalm

/-! ## 1. `strconv.Atoi` -/

/-- `'0' ≤ c ≤ '9'` -/
def isDigit (b : UInt8) : Bool := 48 ≤ b && b ≤ 57

/-- Decimal digits behind a number already read. -/
def decimalFrom : Nat → Str → Option Nat
  | n, [] => some n
  | n, b :: s => if isDigit b then decimalFrom (10 * n + (b.toNat - 48)) s else none

/-- An unsigned decimal number; the empty text is none. -/
def decimal (s : Str) : Option Nat := if s = [] then none else decimalFrom 0 s

/-- `strconv.Atoi`, `none` for an error. -/
def atoi (s : Str) : Option Int :=
  match s with
  | 45 :: digits => (decimal digits).bind fun n => if n ≤ 2 ^ 63 then some (-(n : Int)) else none
  | 43 :: digits => (decimal digits).bind fun n => if n < 2 ^ 63 then some (n : Int) else none
  | digits => (decimal digits).bind fun n => if n < 2 ^ 63 then some (n : Int) else none

theorem isDigit_of_decimalFrom {n m : Nat} {s : Str} (h : decimalFrom n s = some m) :
    ∀ b ∈ s, isDigit b = true := by
  induction s generalizing n with
  | nil => exact fun b hb => absurd hb List.not_mem_nil
  | cons c s ih =>
      unfold decimalFrom at h
      split at h
      · rename_i hc
        intro b hb
        rcases List.mem_cons.mp hb with rfl | hb
        · exact hc
        · exact ih h b hb
      · cases h

theorem isDigit_of_decimal {m : Nat} {s : Str} (h : decimal s = some m) :
    s ≠ [] ∧ ∀ b ∈ s, isDigit b = true := by
  unfold decimal at h
  split at h
  · cases h
  · exact ⟨‹_›, isDigit_of_decimalFrom h⟩

/-- **A number is digits, with at most a sign in front.** -/
theorem bytes_of_atoi {s : Str} {n : Int} (h : atoi s = some n) :
    s ≠ [] ∧ ∀ b ∈ s, isDigit b = true ∨ b = 43 ∨ b = 45 := by
  unfold atoi at h
  split at h <;> obtain ⟨m, hm, _⟩ := Option.bind_eq_some_iff.mp h <;>
    obtain ⟨hne, hd⟩ := isDigit_of_decimal hm
  · refine ⟨List.cons_ne_nil _ _, fun b hb => ?_⟩
    rcases List.mem_cons.mp hb with rfl | hb
    · exact Or.inr (Or.inr rfl)
    · exact Or.inl (hd b hb)
  · refine ⟨List.cons_ne_nil _ _, fun b hb => ?_⟩
    rcases List.mem_cons.mp hb with rfl | hb
    · exact Or.inr (Or.inl rfl)
    · exact Or.inl (hd b hb)
  · exact ⟨hne, fun b hb => Or.inl (hd b hb)⟩

theorem not_mem_of_atoi {s : Str} {n : Int} (h : atoi s = some n) {c : UInt8}
    (hc : isDigit c = false ∧ c ≠ 43 ∧ c ≠ 45) : c ∉ s := by
  intro hm
  rcases (bytes_of_atoi h).2 c hm with hd | rfl | rfl
  · rw [hc.1] at hd
    cases hd
  · exact hc.2.1 rfl
  · exact hc.2.2 rfl

/-! ## 2. `strconv.ParseUint` -/

/-- `lower` of `strconv`: the letters in lower case, other bytes mapped to bytes that are no lower
    case letters. -/
def lowerByte (b : UInt8) : UInt8 := b ||| 0x20

/-- The value of a digit of any base. -/
def digitValue (b : UInt8) : Option Nat :=
  if isDigit b then some (b.toNat - 48)
  else if 97 ≤ lowerByte b ∧ lowerByte b ≤ 122 then some ((lowerByte b).toNat - 97 + 10)
  else none

/-- The loop of `ParseUint`: underscores are skipped, the first bad byte ends it with zero and the
    first overflow with the largest number. The flag says whether it ran to the end. -/
def parseUintLoop (base maxVal : Nat) : Nat → Str → Nat × Bool
  | n, [] => (n, true)
  | n, b :: s =>
    if b = 95 then parseUintLoop base maxVal n s
    else
      match digitValue b with
      | none => (0, false)
      | some d =>
        if base ≤ d then (0, false)
        else if maxVal < n * base + d then (maxVal, false)
        else parseUintLoop base maxVal (n * base + d) s

theorem parseUintLoop_nil (base maxVal n : Nat) : parseUintLoop base maxVal n [] = (n, true) := rfl

theorem parseUintLoop_cons (base maxVal n : Nat) (b : UInt8) (s : Str) : parseUintLoop base maxVal n (b :: s) =
    if b = 95 then parseUintLoop base maxVal n s
    else
      match digitValue b with
      | none => (0, false)
      | some d =>
        if base ≤ d then (0, false)
        else if maxVal < n * base + d then (maxVal, false)
        else parseUintLoop base maxVal (n * base + d) s := rfl

/-- The loop of `underscoreOK`: `saw` is the class of the last byte, as the source writes it. -/
def underscoreLoop (hex : Bool) : Char → Str → Bool
  | saw, [] => saw != '_'
  | saw, b :: s =>
    if isDigit b || (hex && 97 ≤ lowerByte b && lowerByte b ≤ 102) then underscoreLoop hex '0' s
    else if b = 95 then if saw = '0' then underscoreLoop hex '_' s else false
    else if saw = '_' then false
    else underscoreLoop hex '!' s

/-- `underscoreOK`: underscores stand between digits, a base prefix counting as one. -/
def underscoreOK (s : Str) : Bool :=
  let t := if s.head? = some 45 ∨ s.head? = some 43 then s.drop 1 else s
  match t with
  | 48 :: b :: rest =>
    if lowerByte b = 98 ∨ lowerByte b = 111 ∨ lowerByte b = 120 then
      underscoreLoop (lowerByte b = 120) '0' rest
    else underscoreLoop false '^' t
  | _ => underscoreLoop false '^' t

/-- The base a text announces, and its digits. -/
def basePrefix (s : Str) : Nat × Str :=
  match s with
  | 48 :: b :: c :: rest =>
    if lowerByte b = 98 then (2, c :: rest)
    else if lowerByte b = 111 then (8, c :: rest)
    else if lowerByte b = 120 then (16, c :: rest)
    else (8, b :: c :: rest)
  | 48 :: rest => (8, rest)
  | _ => (10, s)

/-- The number of `strconv.ParseUint(s, 0, bitSize)`, its error dropped. -/
def parseUint0 (s : Str) (bitSize : Nat) : Nat :=
  if s = [] then 0
  else
    let r := parseUintLoop (basePrefix s).1 (2 ^ bitSize - 1) 0 (basePrefix s).2
    if r.2 ∧ 95 ∈ s ∧ underscoreOK s = false then 0 else r.1

/-! ## 3. `net.ParseIP` -/

/-- `dtoi`, `xtoi`: a number of at most `0xFFFFFE` and what follows it. -/
def ipNumber (base : Nat) : Nat → Bool → Str → Option (Nat × Str)
  | n, seen, [] => if seen then some (n, []) else none
  | n, seen, b :: s =>
    match (digitValue b).filter (· < base) with
    | none => if seen then some (n, b :: s) else none
    | some d => if 0xFFFFFF ≤ n * base + d then none else ipNumber base (n * base + d) true s

/-- `parseIPv4`: the octets from the `i`-th on. -/
def parseIPv4From : Nat → Bool → Str → Bool
  | 0, _, s => s = []
  | i + 1, first, s =>
    match (if first then some s else if s.head? = some dot then some (s.drop 1) else none) with
    | none => false
    | some t =>
      match ipNumber 10 0 false t with
      | none => false
      | some (n, rest) => if 0xFF < n then false else parseIPv4From i false rest

/-- `parseIPv4`. -/
def parseIPv4 (s : Str) : Bool := parseIPv4From 4 true s

/-- The loop of `parseIPv6`: bytes written so far, whether there was an ellipsis; `none` where the
    source returns `nil`. -/
def parseIPv6Loop : Nat → Nat → Bool → Str → Option (Nat × Bool × Str)
  | 0, i, ellipsis, s => some (i, ellipsis, s)
  | fuel + 1, i, ellipsis, s =>
    match ipNumber 16 0 false s with
    | none => none
    | some (n, rest) =>
      if 0xFFFF < n then none
      else
        match rest with
        | [] => some (i + 2, ellipsis, [])
        | c :: t =>
          if c = dot then
            if (ellipsis = false ∧ i ≠ 12) ∨ 16 < i + 4 then none
            else if parseIPv4 s then some (i + 4, ellipsis, []) else none
          else if c ≠ colon ∨ t = [] then none
          else if t.head? = some colon then
            if ellipsis then none
            else if t.drop 1 = [] then some (i + 2, true, [])
            else parseIPv6Loop fuel (i + 2) true (t.drop 1)
          else parseIPv6Loop fuel (i + 2) ellipsis t

/-- `parseIPv6`. -/
def parseIPv6 (s : Str) : Bool :=
  let leading := s.take 2 = [colon, colon]
  if leading ∧ s.drop 2 = [] then true
  else
    match parseIPv6Loop 8 0 leading (if leading then s.drop 2 else s) with
    | none => false
    | some (i, ellipsis, rest) => rest = [] ∧ (if i < 16 then ellipsis = true else ellipsis = false)

/-- `net.ParseIP(s) != nil`: the first dot or colon decides. -/
def parseIP (s : Str) : Bool :=
  match s.find? (fun b => b == dot || b == colon) with
  | none => false
  | some b => if b = dot then parseIPv4 s else parseIPv6 s

end Kalm
