/-
  File:      Kalm/Frontend/Validator.lean
  Subject:   THE VALIDATORS OF THE FORMS: frontend/src/forms/validator.ts. Every class in their expressions is of ASCII,
             so that a text matches as bytes exactly when it matches as UTF-16.

  * `validatorVolumeSize`, `validatorSchedule`, `validateHost`, `validatorIpAndHosts`, `validatorEnvName`;
  * `validatorSchedule_eq_none`, … -- what each of them lets through, as the shape of a text;
  * `FormName`, `ShortQuad` -- the two kinds of hosts.
-/
import Kalm.Frontend.Login
import Kalm.Go.Bytes
import Kalm.Go.Parse
import Kalm.Go.Url
import Kalm.Go.Utf8
import Kalm.K8s.Texts
import Kalm.Lib.Regex
import Kalm.Sso.Urls

namespace Kalm.Forms

open Regex (oneOf opt many many1 literal words IsWord)
open RegularExpression (char)

/-! ## 1. Classes -/

/-- The bytes of a class. -/
def classOf (p : UInt8 → Bool) : List UInt8 := ((List.range 256).map UInt8.ofNat).filter p

theorem mem_classOf {p : UInt8 → Bool} {b : UInt8} : b ∈ classOf p ↔ p b = true := by
  rw [classOf, List.mem_filter]
  refine ⟨And.right, fun h => ⟨List.mem_map.mpr ⟨b.toNat, List.mem_range.mpr b.toNat_lt, ?_⟩, h⟩⟩
  exact UInt8.ofNat_toNat

/-- `[a-zA-Z]` -/
def isLetter (b : UInt8) : Bool := (65 ≤ b && b ≤ 90) || (97 ≤ b && b ≤ 122)

/-- `\w` -/
def isWordByte (b : UInt8) : Bool := isLetter b || isDigit b || b == underscore

/-- The class of the digits between two. -/
def digitsBetween (low high : Nat) : RegularExpression UInt8 :=
  oneOf ((List.range (high + 1 - low)).map fun i => UInt8.ofNat (48 + low + i))

/-- `[0-9]` -/
def anyDigit : RegularExpression UInt8 := digitsBetween 0 9

/-! ## 2. The validators -/

/-- The length of a text in JavaScript. -/
def jsLength (s : Str) : Nat := (jsString s).length

/-- ``(^\d+(\.\d+)?)([eEinumkKMGTP]*[-+]?[0-9]*)$`` -/
def volumeSizeRegExp : RegularExpression UInt8 :=
  (many1 (oneOf (classOf isDigit)) * opt (char dot * many1 (oneOf (classOf isDigit)))) *
    (many (oneOf (str "eEinumkKMGTP")) * (opt (oneOf [dash, 43]) * many (oneOf (classOf isDigit))))

/-- `ValidatorVolumeSize` -/
def validatorVolumeSize (value : Str) : Option Str :=
  if value = [] then some (str "Required")
  else if value = str "Gi" then some (str "Required")
  else if volumeSizeRegExp.rmatch value = false ∨ value = str "0Gi" then some (str "Invalid Value")
  else none

/-- `\*|((\*\/)?…)` around the numbers of a field. -/
def scheduleField (number : RegularExpression UInt8) : RegularExpression UInt8 :=
  char star + opt (literal (str "*/")) * number

/-- `[1-5]?[0-9]` -/
def upTo59 : RegularExpression UInt8 := opt (digitsBetween 1 5) * anyDigit

/-- `1?[0-9]|2[0-3]` -/
def upTo23 : RegularExpression UInt8 := opt (literal (str "1")) * anyDigit + literal (str "2") * digitsBetween 0 3

/-- `[1-9]|[12][0-9]|3[0-1]` -/
def from1To31 : RegularExpression UInt8 :=
  digitsBetween 1 9 + (digitsBetween 1 2 * anyDigit + literal (str "3") * digitsBetween 0 1)

/-- `[1-9]|1[0-2]` -/
def from1To12 : RegularExpression UInt8 := digitsBetween 1 9 + literal (str "1") * digitsBetween 0 2

/-- The five fields, with a space between them. -/
def scheduleRegExp : RegularExpression UInt8 :=
  scheduleField upTo59 * (char space * (scheduleField upTo59 * (char space * (scheduleField upTo23 *
    (char space * (scheduleField from1To31 * (char space * scheduleField from1To12)))))))

/-- `ValidatorSchedule` -/
def validatorSchedule (value : Str) : Option Str :=
  if value = [] ∨ scheduleRegExp.rmatch value = false then some (str "Invalid Schedule Rule") else none

/-- `25[0-5]|2[0-4][0-9]|[01]?[0-9][0-9]?` -/
def octetRegExp : RegularExpression UInt8 :=
  literal (str "25") * digitsBetween 0 5 + (literal (str "2") * (digitsBetween 0 4 * anyDigit) +
    opt (digitsBetween 0 1) * (anyDigit * opt anyDigit))

/-- `regExpIp` -/
def regExpIp : RegularExpression UInt8 :=
  octetRegExp * (char dot * (octetRegExp * (char dot * (octetRegExp * (char dot * octetRegExp)))))

/-- `regExpWildcardDomain`: `^(\*\.)?([\w]+\.)+[a-zA-Z]+$`. -/
def regExpWildcardDomain : RegularExpression UInt8 :=
  opt (literal (str "*.")) * (many1 (many1 (oneOf (classOf isWordByte)) * char dot) * many1 (oneOf (classOf isLetter)))

/-- The message about a length. -/
def lengthMessage : Str := str "Host length must be between 1 and 511 characters."

/-- `ValidateHost` -/
def validateHost (value : Str) : Option Str :=
  if value = [] then some (str "Required")
  else if jsLength value = 0 ∨ 511 < jsLength value then some lengthMessage
  else if regExpWildcardDomain.rmatch value = false then some (str "Domain is invalid.")
  else none

/-- `validateHostWithWildcardPrefix` -/
def validateHostWithWildcardPrefix (value : Str) : Option Str :=
  if jsLength value = 0 ∨ 511 < jsLength value then some lengthMessage
  else if regExpIp.rmatch value = false ∧ regExpWildcardDomain.rmatch value = false then
    some (str "Host must be a valid IP address or hostname.")
  else none

/-- What a validator of a list returns: one message, or one for each element that is wrong. -/
inductive ListMessage where
  | one (message : Str)
  | each (errors : List (Option Str))
  deriving DecidableEq

/-- `ValidatorIpAndHosts` -/
def validatorIpAndHosts (values : List Str) : Option ListMessage :=
  if values = [] then some (.one (str "Required"))
  else
    let errors := values.map fun host => if host = [star] then none else validateHostWithWildcardPrefix host
    if 0 < (errors.filter fun x => x.isSome).length then some (.each errors) else none

/-- `[-._a-zA-Z]` -/
def isEnvStart (b : UInt8) : Bool := b == dash || b == dot || b == underscore || isLetter b

/-- `^[-._a-zA-Z][-._a-zA-Z0-9]*$` -/
def envNameRegExp : RegularExpression UInt8 :=
  oneOf (classOf isEnvStart) * many (oneOf (classOf fun b => isEnvStart b || isDigit b))

/-- `ValidatorEnvName` -/
def validatorEnvName (value : Str) : Option Str :=
  if envNameRegExp.rmatch value = false then
    some (str "Env name is invalid. regex used for validation is '[-._a-zA-Z][-._a-zA-Z0-9]*'")
  else none

/-! ## 3. Schedules -/

theorem rmatch_eq_false {P : RegularExpression UInt8} {s : Str} : P.rmatch s = false ↔ ¬ s ∈ P.matches' := by
  rw [← RegularExpression.rmatch_iff_matches', Bool.not_eq_true]

/-- A check that leaves one message or none. -/
theorem check_eq_none {p : Prop} [Decidable p] {message : Str} :
    (if p then some message else none) = none ↔ ¬ p := by
  rw [ite_eq_right_iff]
  exact ⟨fun h hp => Option.some_ne_none _ (h hp), fun h hp => absurd hp h⟩

/-- A field of the form: a star, a number, or a step. -/
def FormField (low high : Nat) (s : Str) : Prop :=
  s = [star] ∨ ∃ n, low ≤ n ∧ n ≤ high ∧ (s = itoa n ∨ s = str "*/" ++ itoa n)

/-- The numbers in a range, in digits. -/
def numerals (low high : Nat) : List Str := (List.range' low (high + 1 - low)).map itoa

theorem mem_numerals {low high : Nat} {s : Str} : s ∈ numerals low high ↔ ∃ n, low ≤ n ∧ n ≤ high ∧ s = itoa n := by
  rw [numerals, List.mem_map]
  constructor
  · intro ⟨n, hn, hs⟩
    obtain ⟨hlow, hhigh⟩ := List.mem_range'_1.mp hn
    exact ⟨n, hlow, by omega, hs.symm⟩
  · intro ⟨n, hlow, hhigh, hs⟩
    exact ⟨n, List.mem_range'_1.mpr ⟨hlow, by omega⟩, hs.symm⟩

/-- **A field matches when its numbers are those of the range.** -/
theorem mem_scheduleField {number : RegularExpression UInt8} {low high : Nat}
    (hfree : Regex.starFree number = true) (hsound : ∀ w ∈ words number, w ∈ numerals low high)
    (hcomplete : ∀ w ∈ numerals low high, w ∈ words number) {s : Str} :
    s ∈ (scheduleField number).matches' ↔ FormField low high s := by
  have hnumber {w : Str} : w ∈ number.matches' ↔ ∃ n, low ≤ n ∧ n ≤ high ∧ w = itoa n := by
    rw [Regex.mem_words hfree, ← mem_numerals]
    exact ⟨hsound w, hcomplete w⟩
  rw [scheduleField, Regex.mem_plus, Regex.mem_char, Regex.mem_comp]
  refine or_congr_right ?_
  constructor
  · intro ⟨t, ht, w, hw, hs⟩
    obtain ⟨n, hlow, hhigh, rfl⟩ := hnumber.mp hw
    rcases Regex.mem_opt.mp ht with rfl | ht
    · exact ⟨n, hlow, hhigh, Or.inl hs.symm⟩
    · rw [Regex.mem_literal.mp ht] at hs
      exact ⟨n, hlow, hhigh, Or.inr hs.symm⟩
  · intro ⟨n, hlow, hhigh, hs⟩
    rcases hs with hs | hs
    · exact ⟨[], Regex.mem_opt.mpr (Or.inl rfl), itoa n, hnumber.mpr ⟨n, hlow, hhigh, rfl⟩, hs.symm⟩
    · exact ⟨str "*/", Regex.mem_opt.mpr (Or.inr (Regex.mem_literal.mpr rfl)), itoa n,
        hnumber.mpr ⟨n, hlow, hhigh, rfl⟩, hs.symm⟩

theorem mem_upTo59 {s : Str} : s ∈ (scheduleField upTo59).matches' ↔ FormField 0 59 s :=
  mem_scheduleField (by decide) (by decide) (by decide)

theorem mem_upTo23 {s : Str} : s ∈ (scheduleField upTo23).matches' ↔ FormField 0 23 s :=
  mem_scheduleField (by decide) (by decide) (by decide)

theorem mem_from1To31 {s : Str} : s ∈ (scheduleField from1To31).matches' ↔ FormField 1 31 s :=
  mem_scheduleField (by decide) (by decide) (by decide)

theorem mem_from1To12 {s : Str} : s ∈ (scheduleField from1To12).matches' ↔ FormField 1 12 s :=
  mem_scheduleField (by decide) (by decide) (by decide)

/-- The five fields of a schedule of the form. -/
structure FormSchedule (value minute hour dayOfMonth month dayOfWeek : Str) : Prop where
  text : value = minute ++ space :: (hour ++ space :: (dayOfMonth ++ space :: (month ++ space :: dayOfWeek)))
  minute : FormField 0 59 minute
  hour : FormField 0 59 hour
  dayOfMonth : FormField 0 23 dayOfMonth
  month : FormField 1 31 month
  dayOfWeek : FormField 1 12 dayOfWeek

theorem formField_ne_nil {low high : Nat} {s : Str} (h : FormField low high s) : s ≠ [] := by
  rcases h with rfl | ⟨n, _, _, rfl | rfl⟩
  · exact List.cons_ne_nil _ _
  · intro hnil
    exact Nat.toDigits_ne_nil (utf8.flat_eq_nil.mp hnil)
  · exact List.append_ne_nil_of_left_ne_nil (by decide) _

/-- **What `ValidatorSchedule` accepts.** -/
theorem validatorSchedule_eq_none {value : Str} : validatorSchedule value = none ↔
    ∃ minute hour dayOfMonth month dayOfWeek, FormSchedule value minute hour dayOfMonth month dayOfWeek := by
  have hregexp : value ∈ scheduleRegExp.matches' ↔
      ∃ minute hour dayOfMonth month dayOfWeek, FormSchedule value minute hour dayOfMonth month dayOfWeek := by
    rw [scheduleRegExp, Regex.mem_separated]
    constructor
    · intro ⟨minute, hminute, rest, hrest, hvalue⟩
      obtain ⟨hour, hhour, rest', hrest', rfl⟩ := Regex.mem_separated.mp hrest
      obtain ⟨dayOfMonth, hdom, rest'', hrest'', rfl⟩ := Regex.mem_separated.mp hrest'
      obtain ⟨month, hmonth, dayOfWeek, hdow, rfl⟩ := Regex.mem_separated.mp hrest''
      exact ⟨minute, hour, dayOfMonth, month, dayOfWeek, hvalue, mem_upTo59.mp hminute, mem_upTo59.mp hhour,
        mem_upTo23.mp hdom, mem_from1To31.mp hmonth, mem_from1To12.mp hdow⟩
    · intro ⟨minute, hour, dayOfMonth, month, dayOfWeek, h⟩
      exact ⟨minute, mem_upTo59.mpr h.minute, _, Regex.mem_separated.mpr ⟨hour, mem_upTo59.mpr h.hour, _,
        Regex.mem_separated.mpr ⟨dayOfMonth, mem_upTo23.mpr h.dayOfMonth, _,
          Regex.mem_separated.mpr ⟨month, mem_from1To31.mpr h.month,
          dayOfWeek, mem_from1To12.mpr h.dayOfWeek, rfl⟩, rfl⟩, rfl⟩, h.text⟩
  rw [validatorSchedule, check_eq_none, rmatch_eq_false, not_or, not_not, hregexp, and_iff_right_iff_imp]
  intro ⟨minute, hour, dayOfMonth, month, dayOfWeek, h⟩ hnil
  rw [h.text] at hnil
  exact formField_ne_nil h.minute (List.append_eq_nil_iff.mp hnil).1

/-! ## 4. Names of variables -/

/-- **What `ValidatorEnvName` accepts.** -/
theorem validatorEnvName_eq_none {value : Str} : validatorEnvName value = none ↔
    ∃ b rest, value = b :: rest ∧ isEnvStart b = true ∧ ∀ c ∈ rest, isEnvStart c = true ∨ isDigit c = true := by
  rw [validatorEnvName, check_eq_none, rmatch_eq_false, not_not, envNameRegExp, Regex.mem_comp]
  constructor
  · intro ⟨t, ht, rest, hrest, hvalue⟩
    obtain ⟨b, hb, rfl⟩ := Regex.mem_oneOf.mp ht
    refine ⟨b, rest, hvalue.symm, mem_classOf.mp hb, fun c hc => ?_⟩
    exact Bool.or_eq_true_iff.mp (mem_classOf.mp (Regex.mem_star_oneOf.mp hrest c hc))
  · intro ⟨b, rest, hvalue, hb, hrest⟩
    refine ⟨[b], Regex.mem_oneOf.mpr ⟨b, mem_classOf.mpr hb, rfl⟩, rest, ?_, hvalue.symm⟩
    exact Regex.mem_star_oneOf.mpr fun c hc => mem_classOf.mpr (Bool.or_eq_true_iff.mpr (hrest c hc))

/-! ## 5. Sizes of volumes -/

/-- What may follow a number: letters, a sign and digits, but not digits alone. -/
def FormSuffix (suffix : Str) : Prop :=
  suffix = [] ∨ ∃ letters sign digits, suffix = letters ++ (sign ++ digits) ∧
    (∀ b ∈ letters, b ∈ str "eEinumkKMGTP") ∧ (sign = [] ∨ sign = [dash] ∨ sign = [43]) ∧
    (∀ b ∈ digits, isDigit b = true) ∧ letters ++ sign ≠ []

theorem FormSuffix.ends {suffix : Str} (h : FormSuffix suffix) : EndsNumber suffix := by
  intro b hb
  rcases h with rfl | ⟨letters, sign, digits, rfl, hletters, hsign, hdigits, hne⟩
  · cases hb
  · cases letters with
    | cons c letters =>
        obtain rfl := Option.some.inj hb
        have hall : ∀ b ∈ str "eEinumkKMGTP", isDigit b = false ∧ b ≠ dot := by decide +kernel
        exact hall c (hletters c List.mem_cons_self)
    | nil =>
        rcases hsign with rfl | rfl | rfl
        · exact absurd rfl hne
        · obtain rfl := Option.some.inj hb
          decide
        · obtain rfl := Option.some.inj hb
          decide

/-- Digits behind a number belong to it. -/
theorem isNumber_append {num digits : Str} (hnum : IsNumber num) (hdigits : ∀ b ∈ digits, isDigit b = true) :
    IsNumber (num ++ digits) := by
  cases hnum with
  | whole hne hnum =>
      exact .whole (List.append_ne_nil_of_left_ne_nil hne _) fun b hb =>
        (List.mem_append.mp hb).elim (hnum b) (hdigits b)
  | fraction hne hnum hsome hplaces =>
      rw [List.append_assoc, List.cons_append]
      exact .fraction hne hnum (List.append_ne_nil_of_left_ne_nil hsome _) fun b hb =>
        (List.mem_append.mp hb).elim (hplaces b) (hdigits b)

theorem mem_many1_digits {s : Str} :
    s ∈ (many1 (oneOf (classOf isDigit))).matches' ↔ s ≠ [] ∧ ∀ b ∈ s, isDigit b = true := by
  rw [Regex.mem_many1_oneOf]
  exact and_congr_right fun _ => forall₂_congr fun _ _ => mem_classOf

theorem mem_number {s : Str} : s ∈ (many1 (oneOf (classOf isDigit)) *
    opt (char dot * many1 (oneOf (classOf isDigit)))).matches' ↔ IsNumber s := by
  rw [Regex.mem_comp]
  constructor
  · intro ⟨digits, hdigits, t, ht, hs⟩
    obtain ⟨hne, hdigits⟩ := mem_many1_digits.mp hdigits
    rcases Regex.mem_opt.mp ht with rfl | ht
    · rw [← hs, List.append_nil]
      exact .whole hne hdigits
    · obtain ⟨c, hc, places, hplaces, rfl⟩ := Regex.mem_comp.mp ht
      obtain rfl := Regex.mem_char.mp hc
      obtain ⟨hsome, hplaces⟩ := mem_many1_digits.mp hplaces
      rw [← hs]
      exact .fraction hne hdigits hsome hplaces
  · intro hs
    cases hs with
    | whole hne hdigits =>
        exact ⟨s, mem_many1_digits.mpr ⟨hne, hdigits⟩, [], Regex.mem_opt.mpr (Or.inl rfl), List.append_nil s⟩
    | @fraction digits places hne hdigits hsome hplaces =>
        exact ⟨digits, mem_many1_digits.mpr ⟨hne, hdigits⟩, dot :: places, Regex.mem_opt.mpr (Or.inr
          (Regex.mem_comp.mpr ⟨[dot], rfl, places, mem_many1_digits.mpr ⟨hsome, hplaces⟩, rfl⟩)), rfl⟩

/-- **What `ValidatorVolumeSize` accepts.** -/
theorem validatorVolumeSize_eq_none {value : Str} : validatorVolumeSize value = none ↔
    value ≠ str "0Gi" ∧ ∃ num suffix, IsNumber num ∧ FormSuffix suffix ∧ value = num ++ suffix := by
  have hregexp : value ∈ volumeSizeRegExp.matches' ↔
      ∃ num suffix, IsNumber num ∧ FormSuffix suffix ∧ value = num ++ suffix := by
    rw [volumeSizeRegExp, Regex.mem_comp]
    constructor
    · intro ⟨num, hnum, t, ht, hvalue⟩
      have hnum := mem_number.mp hnum
      obtain ⟨letters, hletters, u, hu, rfl⟩ := Regex.mem_comp.mp ht
      obtain ⟨sign, hsign, digits, hdigits, rfl⟩ := Regex.mem_comp.mp hu
      have hletters := Regex.mem_star_oneOf.mp hletters
      have hdigits : ∀ b ∈ digits, isDigit b = true := fun b hb => mem_classOf.mp (Regex.mem_star_oneOf.mp hdigits b hb)
      by_cases hne : letters ++ sign = []
      · obtain ⟨rfl, rfl⟩ := List.append_eq_nil_iff.mp hne
        exact ⟨num ++ digits, [], isNumber_append hnum hdigits, Or.inl rfl, by rw [← hvalue, List.append_nil]; rfl⟩
      · refine ⟨num, _, hnum, Or.inr ⟨letters, sign, digits, rfl, hletters, ?_, hdigits, hne⟩, hvalue.symm⟩
        rcases Regex.mem_opt.mp hsign with hsign | hsign
        · exact Or.inl hsign
        · obtain ⟨b, hb, rfl⟩ := Regex.mem_oneOf.mp hsign
          rcases List.mem_cons.mp hb with rfl | hb
          · exact Or.inr (Or.inl rfl)
          · exact Or.inr (Or.inr (by rw [List.mem_singleton.mp hb]))
    · intro ⟨num, suffix, hnum, hsuffix, hvalue⟩
      refine ⟨num, mem_number.mpr hnum, suffix, ?_, hvalue.symm⟩
      have hnil : ∀ P : RegularExpression UInt8, [] ∈ (many P).matches' := fun P => Language.nil_mem_kstar _
      rcases hsuffix with rfl | ⟨letters, sign, digits, rfl, hletters, hsign, hdigits, _⟩
      · exact Regex.mem_comp.mpr ⟨[], hnil _, [], Regex.mem_comp.mpr ⟨[], Or.inl rfl, [], hnil _, rfl⟩, rfl⟩
      · refine Regex.mem_comp.mpr ⟨letters, Regex.mem_star_oneOf.mpr hletters, sign ++ digits,
          Regex.mem_comp.mpr ⟨sign, ?_, digits, ?_, rfl⟩, rfl⟩
        · rcases hsign with rfl | rfl | rfl
          · exact Regex.mem_opt.mpr (Or.inl rfl)
          · exact Regex.mem_opt.mpr (Or.inr (Regex.mem_oneOf.mpr ⟨dash, List.mem_cons_self, rfl⟩))
          · exact Regex.mem_opt.mpr (Or.inr (Regex.mem_oneOf.mpr ⟨43, List.mem_cons_of_mem _ List.mem_cons_self, rfl⟩))
        · exact Regex.mem_star_oneOf.mpr fun b hb => mem_classOf.mpr (hdigits b hb)
  have hfirst : (∃ num suffix, IsNumber num ∧ FormSuffix suffix ∧ value = num ++ suffix) →
      ∃ b rest, value = b :: rest ∧ isDigit b = true := by
    intro ⟨num, suffix, hnum, _, hvalue⟩
    cases hnum with
    | whole hne hdigits =>
        obtain ⟨b, rest, rfl⟩ := List.exists_cons_of_ne_nil hne
        exact ⟨b, _, hvalue, hdigits b List.mem_cons_self⟩
    | fraction hne hdigits =>
        obtain ⟨b, rest, rfl⟩ := List.exists_cons_of_ne_nil hne
        exact ⟨b, _, hvalue, hdigits b List.mem_cons_self⟩
  have hcheck : (volumeSizeRegExp.rmatch value = false ∨ value = str "0Gi") ↔
      ¬ (∃ num suffix, IsNumber num ∧ FormSuffix suffix ∧ value = num ++ suffix) ∨ value = str "0Gi" := by
    rw [rmatch_eq_false, hregexp]
  unfold validatorVolumeSize
  constructor
  · intro h
    split at h
    · cases h
    split at h
    · cases h
    split at h
    · cases h
    · rename_i hnot
      rw [hcheck, not_or, not_not] at hnot
      exact ⟨hnot.2, hnot.1⟩
  · intro ⟨hzero, hshape⟩
    obtain ⟨b, rest, hvalue, hb⟩ := hfirst hshape
    have hgi : value ≠ str "Gi" := by
      intro heq
      rw [hvalue] at heq
      rw [(List.cons.inj heq).1] at hb
      exact absurd hb (by decide)
    have hnil : value ≠ [] := hvalue ▸ List.cons_ne_nil b rest
    have hpasses : ¬ (volumeSizeRegExp.rmatch value = false ∨ value = str "0Gi") := by
      rw [hcheck, not_or, not_not]
      exact ⟨hshape, hzero⟩
    rw [if_neg hnil, if_neg hgi, if_neg hpasses]

/-! ## 6. Hosts -/

/-- The units of an ASCII text are its bytes. -/
theorem jsLength_of_ascii {s : Str} (h : ∀ b ∈ s, b < 128) : jsLength s = s.length := by
  have hflat : utf8.flat (s.map fun b => Char.ofNat b.toNat) = s := by
    induction s with
    | nil => rfl
    | cons b s ih =>
        rw [List.map_cons, Code.flat_cons, enc_ascii (h b List.mem_cons_self),
          ih fun c hc => h c (List.mem_cons_of_mem _ hc)]
        rfl
  have hunits : ∀ t : List Char, (∀ c ∈ t, (utf16.enc c).length = 1) → (utf16.flat t).length = t.length := by
    intro t ht
    induction t with
    | nil => rfl
    | cons c t ih =>
        rw [Code.flat_cons, List.length_append, ht c List.mem_cons_self,
          ih fun d hd => ht d (List.mem_cons_of_mem _ hd), List.length_cons, Nat.add_comm]
  have hone : ∀ n : Fin 128, (utf16.enc (Char.ofNat n)).length = 1 := by decide
  have hjs : jsString s = utf16.flat (s.map fun b => Char.ofNat b.toNat) := by
    rw [← jsString_flat, hflat]
  rw [jsLength, hjs, hunits, List.length_map]
  intro c hc
  obtain ⟨b, hb, rfl⟩ := List.mem_map.mp hc
  exact hone ⟨b.toNat, UInt8.lt_iff_toNat_lt.mp (h b hb)⟩

/-- One to three digits of a number up to 255. -/
def IsOctet (w : Str) : Prop := w.length ≤ 3 ∧ ∃ n ∈ decimal w, n ≤ 255

instance : DecidablePred IsOctet := fun w =>
  inferInstanceAs (Decidable (w.length ≤ 3 ∧ ∃ n ∈ decimal w, n ≤ 255))

/-- An address in four parts. -/
def ShortQuad (s : Str) : Prop :=
  ∃ a b c d, IsOctet a ∧ IsOctet b ∧ IsOctet c ∧ IsOctet d ∧ s = a ++ dot :: (b ++ dot :: (c ++ dot :: d))

/-- Labels of word bytes, and a last one of letters. -/
structure DottedName (s : Str) (labels : List Str) (last : Str) : Prop where
  split : s.splitOn dot = labels ++ [last]
  ne_nil : labels ≠ []
  labels : ∀ w ∈ labels, w ≠ [] ∧ ∀ b ∈ w, isWordByte b = true
  last : last ≠ [] ∧ ∀ b ∈ last, isLetter b = true

/-- A name that the form takes for a host, a wildcard in front of it or not. -/
def FormName (s : Str) : Prop :=
  s.length ≤ 511 ∧ ∃ rest labels last, (s = rest ∨ s = star :: dot :: rest) ∧ DottedName rest labels last

theorem digits_of_octet {w : Str} (h : IsOctet w) : w ≠ [] ∧ ∀ b ∈ w, isDigit b = true := by
  obtain ⟨_, n, hn, _⟩ := h
  exact isDigit_of_decimal hn

theorem mem_octetRegExp {w : Str} : w ∈ octetRegExp.matches' ↔ IsOctet w := by
  have hsound : ∀ w ∈ words octetRegExp, IsOctet w := by decide +kernel
  have hcomplete : ∀ w ∈ words (anyDigit * (opt anyDigit * opt anyDigit)), IsOctet w → octetRegExp.rmatch w = true := by
    decide +kernel
  have hdigit {b : UInt8} (hb : isDigit b = true) : [b] ∈ anyDigit.matches' := by
    have hall := forall_byte (P := fun b => isDigit b = true →
      b ∈ (List.range (9 + 1 - 0)).map fun i => UInt8.ofNat (48 + 0 + i)) (by decide +kernel) b hb
    exact Regex.mem_oneOf.mpr ⟨b, hall, rfl⟩
  constructor
  · exact fun h => hsound w ((Regex.mem_words (by decide)).mp h)
  · intro h
    obtain ⟨hne, hdigits⟩ := digits_of_octet h
    refine (RegularExpression.rmatch_iff_matches' _ _).mp (hcomplete w ((Regex.mem_words (by decide)).mp ?_) h)
    have hlength := h.1
    match w, hne, hdigits, hlength with
    | [a], _, hdigits, _ =>
        obtain ⟨ha, _⟩ := List.forall_mem_cons.mp hdigits
        exact Regex.mem_comp.mpr ⟨[a], hdigit ha, [], Regex.mem_comp.mpr ⟨[], Or.inl rfl, [], Or.inl rfl, rfl⟩, rfl⟩
    | [a, b], _, hdigits, _ =>
        obtain ⟨ha, hb, _⟩ := List.forall_mem_cons.mp hdigits |>.imp_right List.forall_mem_cons.mp
        exact Regex.mem_comp.mpr ⟨[a], hdigit ha, [b],
          Regex.mem_comp.mpr ⟨[b], Or.inr (hdigit hb), [], Or.inl rfl, rfl⟩, rfl⟩
    | [a, b, c], _, hdigits, _ =>
        have ha := hdigits a List.mem_cons_self
        have hb := hdigits b (List.mem_cons_of_mem _ List.mem_cons_self)
        have hc := hdigits c (List.mem_cons_of_mem _ (List.mem_cons_of_mem _ List.mem_cons_self))
        exact Regex.mem_comp.mpr ⟨[a], hdigit ha, [b, c],
          Regex.mem_comp.mpr ⟨[b], Or.inr (hdigit hb), [c], Or.inr (hdigit hc), rfl⟩, rfl⟩

theorem mem_regExpIp {s : Str} : s ∈ regExpIp.matches' ↔ ShortQuad s := by
  rw [regExpIp, Regex.mem_separated]
  constructor
  · intro ⟨a, ha, rest, hrest, hs⟩
    obtain ⟨b, hb, rest', hrest', rfl⟩ := Regex.mem_separated.mp hrest
    obtain ⟨c, hc, d, hd, rfl⟩ := Regex.mem_separated.mp hrest'
    exact ⟨a, b, c, d, mem_octetRegExp.mp ha, mem_octetRegExp.mp hb, mem_octetRegExp.mp hc, mem_octetRegExp.mp hd, hs⟩
  · intro ⟨a, b, c, d, ha, hb, hc, hd, hs⟩
    exact ⟨a, mem_octetRegExp.mpr ha, _, Regex.mem_separated.mpr ⟨b, mem_octetRegExp.mpr hb, _,
      Regex.mem_separated.mpr ⟨c, mem_octetRegExp.mpr hc, d, mem_octetRegExp.mpr hd, rfl⟩, rfl⟩, hs⟩

theorem mem_regExpWildcardDomain {s : Str} : s ∈ regExpWildcardDomain.matches' ↔
    ∃ rest labels last, (s = rest ∨ s = star :: dot :: rest) ∧ DottedName rest labels last := by
  have hword : dot ∉ classOf isWordByte := fun h => absurd (mem_classOf.mp h) (by decide)
  have hletter : dot ∉ classOf isLetter := fun h => absurd (mem_classOf.mp h) (by decide)
  have hclass (p : UInt8 → Bool) (w : Str) : IsWord (classOf p) w ↔ w ≠ [] ∧ ∀ b ∈ w, p b = true :=
    and_congr_right fun _ => forall₂_congr fun _ _ => mem_classOf
  rw [regExpWildcardDomain, Regex.mem_comp]
  constructor
  · intro ⟨t, ht, rest, hrest, hs⟩
    obtain ⟨labels, last, hsplit, hne, hlabels, hlast⟩ := (Regex.mem_joined hword hletter).mp hrest
    refine ⟨rest, labels, last, ?_, hsplit, hne, fun w hw => (hclass _ w).mp (hlabels w hw), (hclass _ last).mp hlast⟩
    rcases Regex.mem_opt.mp ht with rfl | ht
    · exact Or.inl hs.symm
    · rw [Regex.mem_literal.mp ht] at hs
      exact Or.inr hs.symm
  · intro ⟨rest, labels, last, hs, hname⟩
    have hrest := (Regex.mem_joined (s := rest) hword hletter).mpr ⟨labels, last, hname.split, hname.ne_nil,
      fun w hw => (hclass _ w).mpr (hname.labels w hw), (hclass _ last).mpr hname.last⟩
    rcases hs with hs | hs
    · exact ⟨[], Regex.mem_opt.mpr (Or.inl rfl), rest, hrest, hs.symm⟩
    · exact ⟨str "*.", Regex.mem_opt.mpr (Or.inr (Regex.mem_literal.mpr rfl)), rest, hrest, hs.symm⟩

/-! ### The lengths -/

theorem lt_of_isWordByte {b : UInt8} (h : isWordByte b = true) : b < 128 := by
  grind [isWordByte, isLetter, isDigit]

theorem isWordByte_of_isLetter {b : UInt8} (h : isLetter b = true) : isWordByte b = true := by
  rw [isWordByte, h]
  rfl

/-- The bytes of a dotted name are those of words, and dots. -/
theorem DottedName.bytes {s last : Str} {labels : List Str} (h : DottedName s labels last) :
    ∀ b ∈ s, isWordByte b = true ∨ b = dot := by
  intro b hb
  by_cases hdot : b = dot
  · exact Or.inr hdot
  · obtain ⟨piece, hpiece, hmem⟩ := Fields.exists_piece_of_mem hb hdot
    rw [h.split] at hpiece
    rcases List.mem_append.mp hpiece with hpiece | hpiece
    · exact Or.inl ((h.labels piece hpiece).2 b hmem)
    · rw [List.mem_singleton.mp hpiece] at hmem
      exact Or.inl (isWordByte_of_isLetter (h.last.2 b hmem))

theorem ascii_of_wildcard {s rest last : Str} {labels : List Str} (hs : s = rest ∨ s = star :: dot :: rest)
    (h : DottedName rest labels last) : ∀ b ∈ s, b < 128 := by
  have hrest : ∀ b ∈ rest, b < 128 := by
    intro b hb
    rcases h.bytes b hb with hword | rfl
    · exact lt_of_isWordByte hword
    · decide
  rcases hs with rfl | rfl
  · exact hrest
  · exact List.forall_mem_cons.mpr ⟨by decide, List.forall_mem_cons.mpr ⟨by decide, hrest⟩⟩

theorem ShortQuad.length_le {s : Str} (h : ShortQuad s) : s.length ≤ 15 := by
  obtain ⟨a, b, c, d, ha, hb, hc, hd, rfl⟩ := h
  have ha := ha.1
  have hb := hb.1
  have hc := hc.1
  have hd := hd.1
  simp only [List.length_append, List.length_cons]
  omega

/-- The bytes of an address are digits and dots. -/
theorem ShortQuad.bytes {s : Str} (h : ShortQuad s) : ∀ b ∈ s, isDigit b = true ∨ b = dot := by
  obtain ⟨a, b, c, d, ha, hb, hc, hd, rfl⟩ := h
  intro x hx
  simp only [List.mem_append, List.mem_cons] at hx
  rcases hx with hx | hx | hx | hx | hx | hx | hx
  · exact Or.inl ((digits_of_octet ha).2 x hx)
  · exact Or.inr hx
  · exact Or.inl ((digits_of_octet hb).2 x hx)
  · exact Or.inr hx
  · exact Or.inl ((digits_of_octet hc).2 x hx)
  · exact Or.inr hx
  · exact Or.inl ((digits_of_octet hd).2 x hx)

theorem ShortQuad.ascii {s : Str} (h : ShortQuad s) : ∀ b ∈ s, b < 128 := by
  intro b hb
  rcases h.bytes b hb with hdigit | rfl
  · grind [isDigit]
  · decide

theorem ShortQuad.ne_nil {s : Str} (h : ShortQuad s) : s ≠ [] := by
  obtain ⟨a, b, c, d, _, _, _, _, rfl⟩ := h
  exact List.append_ne_nil_of_right_ne_nil _ (List.cons_ne_nil _ _)

theorem FormName.ne_nil {s : Str} (h : FormName s) : s ≠ [] := by
  obtain ⟨_, rest, labels, last, hs, hname⟩ := h
  rcases hs with rfl | rfl
  · intro hnil
    have hsplit := hname.split
    rw [hnil, List.splitOn_nil] at hsplit
    have hlength := congrArg List.length hsplit
    rw [List.length_append] at hlength
    have hpos := List.length_pos_iff.mpr hname.ne_nil
    simp only [List.length_singleton] at hlength
    omega
  · exact List.cons_ne_nil _ _

theorem wildcard_iff {s : Str} : (jsLength s ≤ 511 ∧ s ∈ regExpWildcardDomain.matches') ↔ FormName s := by
  rw [mem_regExpWildcardDomain]
  constructor
  · intro ⟨hlength, rest, labels, last, hs, hname⟩
    rw [jsLength_of_ascii (ascii_of_wildcard hs hname)] at hlength
    exact ⟨hlength, rest, labels, last, hs, hname⟩
  · intro ⟨hlength, rest, labels, last, hs, hname⟩
    rw [jsLength_of_ascii (ascii_of_wildcard hs hname)]
    exact ⟨hlength, rest, labels, last, hs, hname⟩

theorem FormName.ascii {s : Str} (h : FormName s) : ∀ b ∈ s, b < 128 := by
  obtain ⟨_, rest, labels, last, hs, hname⟩ := h
  exact ascii_of_wildcard hs hname

/-- A text of ASCII with at most 511 bytes has a length that is taken. -/
theorem length_passes {s : Str} (hascii : ∀ b ∈ s, b < 128) (hne : s ≠ []) (hlength : s.length ≤ 511) :
    ¬ (jsLength s = 0 ∨ 511 < jsLength s) := by
  have hpos := List.length_pos_iff.mpr hne
  rw [jsLength_of_ascii hascii]
  omega

theorem rmatch_eq_true {P : RegularExpression UInt8} {s : Str} (h : ¬ P.rmatch s = false) : s ∈ P.matches' :=
  not_not.mp (mt rmatch_eq_false.mpr h)

/-- **What `ValidateHost` accepts.** -/
theorem validateHost_eq_none {s : Str} : validateHost s = none ↔ FormName s := by
  unfold validateHost
  constructor
  · intro h
    split at h
    · cases h
    split at h
    · cases h
    split at h
    · cases h
    · rename_i hlength hmatch
      exact wildcard_iff.mp ⟨Nat.le_of_not_lt (not_or.mp hlength).2, rmatch_eq_true hmatch⟩
  · intro h
    have hmatch : ¬ regExpWildcardDomain.rmatch s = false :=
      fun hfalse => rmatch_eq_false.mp hfalse (wildcard_iff.mpr h).2
    rw [if_neg h.ne_nil, if_neg (length_passes h.ascii h.ne_nil h.1), if_neg hmatch]

/-- **What the check of one host accepts.** -/
theorem validateHostWithWildcardPrefix_eq_none {s : Str} :
    validateHostWithWildcardPrefix s = none ↔ ShortQuad s ∨ FormName s := by
  unfold validateHostWithWildcardPrefix
  constructor
  · intro h
    split at h
    · cases h
    split at h
    · cases h
    · rename_i hlength hmatch
      by_cases hip : regExpIp.rmatch s = false
      · have hname := rmatch_eq_true fun hfalse => hmatch ⟨hip, hfalse⟩
        exact Or.inr (wildcard_iff.mp ⟨Nat.le_of_not_lt (not_or.mp hlength).2, hname⟩)
      · exact Or.inl (mem_regExpIp.mp (rmatch_eq_true hip))
  · intro h
    rcases h with h | h
    · have hmatch : ¬ (regExpIp.rmatch s = false ∧ regExpWildcardDomain.rmatch s = false) :=
        fun hfalse => rmatch_eq_false.mp hfalse.1 (mem_regExpIp.mpr h)
      rw [if_neg (length_passes h.ascii h.ne_nil (h.length_le.trans (by decide))), if_neg hmatch]
    · have hmatch : ¬ (regExpIp.rmatch s = false ∧ regExpWildcardDomain.rmatch s = false) :=
        fun hfalse => rmatch_eq_false.mp hfalse.2 (wildcard_iff.mpr h).2
      rw [if_neg (length_passes h.ascii h.ne_nil h.1), if_neg hmatch]

/-- A host of the form. -/
def FormHost (s : Str) : Prop := s = [star] ∨ ShortQuad s ∨ FormName s

/-- **What `ValidatorIpAndHosts` accepts.** -/
theorem validatorIpAndHosts_eq_none {values : List Str} :
    validatorIpAndHosts values = none ↔ values ≠ [] ∧ ∀ host ∈ values, FormHost host := by
  have hcheck (host : Str) : (if host = [star] then none else validateHostWithWildcardPrefix host) = none ↔
      FormHost host := by
    rw [FormHost]
    by_cases hstar : host = [star]
    · rw [if_pos hstar]
      exact ⟨fun _ => Or.inl hstar, fun _ => rfl⟩
    · rw [if_neg hstar, validateHostWithWildcardPrefix_eq_none, or_iff_right hstar]
  have herrors : ¬ 0 < ((values.map fun host => if host = [star] then none else
      validateHostWithWildcardPrefix host).filter fun x => x.isSome).length ↔ ∀ host ∈ values, FormHost host := by
    rw [Nat.not_lt, Nat.le_zero, List.length_eq_zero_iff, List.filter_eq_nil_iff, List.forall_mem_map]
    refine forall₂_congr fun host _ => ?_
    rw [Bool.not_eq_true, Option.isSome_eq_false_iff, Option.isNone_iff_eq_none]
    exact hcheck host
  unfold validatorIpAndHosts
  by_cases hnil : values = []
  · rw [if_pos hnil]
    exact ⟨nofun, fun h => absurd hnil h.1⟩
  · rw [if_neg hnil]
    dsimp only
    rw [ite_eq_right_iff]
    refine Iff.trans ⟨fun h hpos => ?_, fun h hpos => absurd hpos h⟩ (herrors.trans (and_iff_right hnil).symm)
    cases h hpos

end Kalm.Forms
