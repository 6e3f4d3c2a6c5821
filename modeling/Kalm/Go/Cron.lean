/-
  File:      Kalm/Go/Cron.lean
  Subject:   SCHEDULES: the five-field grammar that `ParseStandard` of the cron package reads. Descriptors such as
             `@daily` are no fields and are left out.

  * `Bounds`, `getRange`, `getField` -- numbers, names, ranges and steps, and lists of them;
  * `parseStandard` -- whether a text is a schedule;
  * `parseStandard_intercalate` -- five fields with a blank between them.
-/
import Kalm.Go.Bytes
import Kalm.Go.Parse

namespace Kalm.Cron

/-! ## 1. Fields -/

/-- `bounds` -/
structure Bounds where
  min : Nat
  max : Nat
  names : List (Str × Nat)
  deriving DecidableEq

/-- The five fields, in their order. -/
def minutes : Bounds := ⟨0, 59, []⟩

@[inherit_doc minutes] def hours : Bounds := ⟨0, 23, []⟩

@[inherit_doc minutes] def dom : Bounds := ⟨1, 31, []⟩

@[inherit_doc minutes] def months : Bounds where
  min := 1
  max := 12
  names :=
    [(str "jan", 1), (str "feb", 2), (str "mar", 3), (str "apr", 4), (str "may", 5), (str "jun", 6), (str "jul", 7),
      (str "aug", 8), (str "sep", 9), (str "oct", 10), (str "nov", 11), (str "dec", 12)]

@[inherit_doc minutes] def dow : Bounds where
  min := 0
  max := 6
  names :=
    [(str "sun", 0), (str "mon", 1), (str "tue", 2), (str "wed", 3), (str "thu", 4), (str "fri", 5), (str "sat", 6)]

/-- `mustParseInt` -/
def mustParseInt (expr : Str) : Option Nat :=
  match atoi expr with
  | some (.ofNat num) => some num
  | _ => none

/-- `parseIntOrName` -/
def parseIntOrName (expr : Str) (names : List (Str × Nat)) : Option Nat :=
  match names.lookup (toLower expr) with
  | some num => some num
  | none => mustParseInt expr

/-- The ends of a range. -/
def rangeEnds (lowAndHigh : List Str) (r : Bounds) : Option (Nat × Nat) :=
  if lowAndHigh.head? = some [star] ∨ lowAndHigh.head? = some (str "?") then some (r.min, r.max)
  else
    match lowAndHigh with
    | [low] => (parseIntOrName low r.names).map fun start => (start, start)
    | [low, high] =>
      (parseIntOrName low r.names).bind fun start => (parseIntOrName high r.names).map fun stop => (start, stop)
    | _ => none

/-- `getRange`: whether there is no error. -/
def getRange (expr : Str) (r : Bounds) : Bool :=
  let rangeAndStep := expr.splitOn slash
  let lowAndHigh := (rangeAndStep.headD []).splitOn dash
  match rangeEnds lowAndHigh r, rangeAndStep with
  | some (start, stop), [_] => r.min ≤ start && stop ≤ r.max && start ≤ stop
  | some (start, stop), [_, step] =>
    match mustParseInt step with
    | none => false
    | some step =>
      -- "N/step" means "N-max/step"
      let stop := if lowAndHigh.length = 1 then r.max else stop
      r.min ≤ start && stop ≤ r.max && start ≤ stop && step ≠ 0
  | _, _ => false

/-- `strings.FieldsFunc` -/
def fieldsFunc (f : UInt8 → Bool) (s : Str) : List Str := (s.splitOnP f).filter fun piece => piece ≠ []

/-- `getField`: whether there is no error. -/
def getField (field : Str) (r : Bounds) : Bool := (fieldsFunc (· == comma) field).all fun expr => getRange expr r

/-! ## 2. Schedules -/

/-- White space. -/
def isBlank (b : UInt8) : Bool := b ∈ [9, 10, 11, 12, 13, space]

/-- `ParseStandard`: whether there is no error. -/
def parseStandard (spec : Str) : Bool :=
  match fieldsFunc isBlank spec with
  | [minute, hour, dayOfMonth, month, dayOfWeek] =>
    getField minute minutes && getField hour hours && getField dayOfMonth dom && getField month months &&
      getField dayOfWeek dow
  | _ => false

/-- A field is neither empty nor interrupted. -/
def IsField (f : UInt8 → Bool) (s : Str) : Prop := s ≠ [] ∧ ∀ b ∈ s, f b = false

theorem fieldsFunc_self {f : UInt8 → Bool} {s : Str} (h : IsField f s) : fieldsFunc f s = [s] := by
  rw [fieldsFunc, List.splitOnP_eq_singleton h.2]
  exact List.filter_cons_of_pos (decide_eq_true h.1)

theorem fieldsFunc_append {f : UInt8 → Bool} {s : Str} (h : IsField f s) {sep : UInt8} (hsep : f sep = true)
    (rest : Str) : fieldsFunc f (s ++ sep :: rest) = s :: fieldsFunc f rest := by
  rw [fieldsFunc, List.splitOnP_append_cons _ _ hsep, List.splitOnP_eq_singleton h.2, List.singleton_append]
  exact List.filter_cons_of_pos (decide_eq_true h.1)

/-- **Five fields with a blank between them are read one by one.** -/
theorem parseStandard_intercalate {minute hour dayOfMonth month dayOfWeek : Str} (hminute : IsField isBlank minute)
    (hhour : IsField isBlank hour) (hdom : IsField isBlank dayOfMonth) (hmonth : IsField isBlank month)
    (hdow : IsField isBlank dayOfWeek) :
    parseStandard (minute ++ space :: (hour ++ space :: (dayOfMonth ++ space :: (month ++ space :: dayOfWeek)))) =
      (getField minute minutes && getField hour hours && getField dayOfMonth dom && getField month months &&
        getField dayOfWeek dow) := by
  have hspace : isBlank space = true := by decide
  rw [parseStandard, fieldsFunc_append hminute hspace, fieldsFunc_append hhour hspace, fieldsFunc_append hdom hspace,
    fieldsFunc_append hmonth hspace, fieldsFunc_self hdow]

end Kalm.Cron
