/-
  File:      Kalm/K8s/Texts.lean
  Subject:   TEXTS that Kubernetes reads: the documented grammars of the names of environment variables
             (`IsCIdentifier`) and of quantities (`resource.ParseQuantity`).

  * `isCIdentifier` -- the grammar of the names;
  * `isQuantity`, `isQuantitySuffix` -- a signed number, and one of the suffixes or an exponent;
  * `isQuantity_append` -- a number without a sign, and what follows it.
-/
import Kalm.Go.Parse

namespace Kalm

/-! ## 1. Names of variables -/

/-- `[A-Za-z_]` -/
def isIdentifierStart (b : UInt8) : Bool := (65 ≤ b && b ≤ 90) || (97 ≤ b && b ≤ 122) || b == underscore

/-- `IsCIdentifier`: `[A-Za-z_][A-Za-z0-9_]*`. -/
def isCIdentifier (s : Str) : Bool :=
  s.head?.any isIdentifierStart && s.all fun b => isIdentifierStart b || isDigit b

/-! ## 2. Quantities -/

/-- The suffixes of powers of ten and of two. -/
def quantitySuffixes : List Str :=
  [[], str "n", str "u", str "m", str "k", str "M", str "G", str "T", str "P", str "E", str "Ki", str "Mi", str "Gi",
    str "Ti", str "Pi", str "Ei"]

/-- `interpret`: one of the suffixes, or an exponent of 64 bits. -/
def isQuantitySuffix (suffix : Str) : Bool :=
  suffix ∈ quantitySuffixes ||
    ((suffix.head? = some 69 || suffix.head? = some 101) && (atoi (suffix.drop 1)).isSome)

/-- A number without a sign, and what follows it. -/
def takeNumber (s : Str) : Str × Str :=
  let rest := s.dropWhile isDigit
  if rest.head? = some dot then
    (s.takeWhile isDigit ++ (rest.drop 1).takeWhile isDigit, (rest.drop 1).dropWhile isDigit)
  else (s.takeWhile isDigit, rest)

/-- `ParseQuantity`: whether there is no error. -/
def isQuantity (s : Str) : Bool :=
  let unsigned := if s.head? = some 43 ∨ s.head? = some 45 then s.drop 1 else s
  let (digits, suffix) := takeNumber unsigned
  digits ≠ [] && isQuantitySuffix suffix

/-- Digits, with a fraction or without. -/
inductive IsNumber : Str → Prop
  | whole {digits : Str} (hne : digits ≠ []) (hdigits : ∀ b ∈ digits, isDigit b = true) : IsNumber digits
  | fraction {digits places : Str} (hne : digits ≠ []) (hdigits : ∀ b ∈ digits, isDigit b = true) (hsome : places ≠ [])
      (hplaces : ∀ b ∈ places, isDigit b = true) : IsNumber (digits ++ dot :: places)

/-- Nothing that could go on with a number. -/
def EndsNumber (suffix : Str) : Prop := ∀ b ∈ suffix.head?, isDigit b = false ∧ b ≠ dot

theorem takeWhile_append_stop {p : UInt8 → Bool} {s t : Str} (hs : ∀ b ∈ s, p b = true)
    (ht : ∀ b ∈ t.head?, p b = false) :
    (s ++ t).takeWhile p = s ∧ (s ++ t).dropWhile p = t := by
  have hstop : t.takeWhile p = [] ∧ t.dropWhile p = t := by
    cases t with
    | nil => exact ⟨rfl, rfl⟩
    | cons b t =>
        have hb : ¬ p b = true := Bool.not_eq_true _ ▸ ht b rfl
        exact ⟨List.takeWhile_cons_of_neg hb, List.dropWhile_cons_of_neg hb⟩
  rw [List.takeWhile_append_of_pos hs, List.dropWhile_append_of_pos hs, hstop.1, hstop.2, List.append_nil]
  exact ⟨rfl, rfl⟩

/-- **The number is taken off.** -/
theorem takeNumber_append {num suffix : Str} (hnum : IsNumber num) (hsuffix : EndsNumber suffix) :
    (takeNumber (num ++ suffix)).1 ≠ [] ∧ (takeNumber (num ++ suffix)).2 = suffix := by
  have hstop : ∀ b ∈ suffix.head?, isDigit b = false := fun b hb => (hsuffix b hb).1
  cases hnum with
  | whole hne hdigits =>
      have hnodot : ¬ suffix.head? = some dot := fun h => (hsuffix dot h).2 rfl
      obtain ⟨htake, hdrop⟩ := takeWhile_append_stop hdigits hstop
      rw [takeNumber, hdrop, if_neg hnodot, htake]
      exact ⟨hne, rfl⟩
  | @fraction digits places hne hdigits hsome hplaces =>
      rw [List.append_assoc, List.cons_append]
      have hdot : ∀ b ∈ (dot :: (places ++ suffix)).head?, isDigit b = false := by
        intro b hb
        obtain rfl := Option.some.inj hb
        decide
      obtain ⟨htake, hdrop⟩ := takeWhile_append_stop hdigits hdot
      obtain ⟨htake', hdrop'⟩ := takeWhile_append_stop hplaces hstop
      rw [takeNumber, hdrop, if_pos List.head?_cons, htake, List.drop_one, List.tail_cons, htake', hdrop']
      exact ⟨List.append_ne_nil_of_left_ne_nil hne _, rfl⟩

/-- **A number with a suffix is a quantity when the suffix is one.** -/
theorem isQuantity_append {num suffix : Str} (hnum : IsNumber num) (hsuffix : EndsNumber suffix) :
    isQuantity (num ++ suffix) = isQuantitySuffix suffix := by
  have hsign : ¬ ((num ++ suffix).head? = some 43 ∨ (num ++ suffix).head? = some 45) := by
    have hfirst : ∃ b rest, num ++ suffix = b :: rest ∧ isDigit b = true := by
      cases hnum with
      | whole hne hdigits =>
          obtain ⟨b, rest, rfl⟩ := List.exists_cons_of_ne_nil hne
          exact ⟨b, rest ++ suffix, rfl, hdigits b List.mem_cons_self⟩
      | fraction hne hdigits =>
          obtain ⟨b, rest, rfl⟩ := List.exists_cons_of_ne_nil hne
          exact ⟨b, _, rfl, hdigits b List.mem_cons_self⟩
    obtain ⟨b, rest, hs, hb⟩ := hfirst
    rw [hs]
    intro h
    rcases h with h | h
    · rw [Option.some.inj h] at hb
      exact absurd hb (by decide)
    · rw [Option.some.inj h] at hb
      exact absurd hb (by decide)
  obtain ⟨hdigits, hrest⟩ := takeNumber_append hnum hsuffix
  rw [isQuantity, if_neg hsign]
  dsimp only
  rw [hrest, decide_eq_true hdigits, Bool.true_and]

end Kalm
