/-
  File:      Kalm/Go/Json.lean
  Subject:   `encoding/json`: the scanner, byte by byte, with the values it has passed, and how a value is
             stored into a Go struct.

  * `Scanner.next`, `parseJson` -- the steps of scanner.go and the value of a text, or its syntax error;
  * `JsonField`, `JsonStruct.unmarshal` -- the fields of a struct with their names, and `json.Unmarshal`: a value that
    does not fit its field is reported, and the rest is still stored;
  * `JsonStruct.jsonFieldOf_eq_some_iff` -- the field of a key; `JsonStruct.foldl_storeMember_eq_none_iff` -- when
    every value fits;
  * `passed_quote`, `parseJson_marshalStrings` -- what is written for a struct of strings is read again,
    whatever the strings hold.
-/
import Mathlib.Data.List.Nodup
import Kalm.Go.Bytes
import Kalm.Go.Parse
import Kalm.Go.Quote

namespace Kalm

/-! ## 1. Values and errors -/

/-- A JSON value. A number is its literal. -/
inductive JsonValue where
  | null
  | bool (b : Bool)
  | number (literal : Str)
  | string (s : Str)
  | array (items : List JsonValue)
  | object (members : List (Str × JsonValue))

/-- `json.SyntaxError`: a byte that must not stand there, and what the scanner was doing; or the end. -/
inductive JsonSyntaxError where
  | invalid (c : UInt8) (context : Str)
  | unexpectedEnd
  deriving DecidableEq

/-- `quoteChar`, for a byte read as a character. -/
def quoteChar (c : UInt8) : Str :=
  if c = 39 then str "'\\''"
  else if c = quotation then str "'\"'"
  else if c = backslash then str "'\\\\'"
  else if c = 7 then str "'\\a'"
  else if c = 8 then str "'\\b'"
  else if c = 12 then str "'\\f'"
  else if c = newline then str "'\\n'"
  else if c = 13 then str "'\\r'"
  else if c = 9 then str "'\\t'"
  else if c = 11 then str "'\\v'"
  else if c < 32 ∨ c = 127 then str "'\\x" ++ [hexDigit (c.toNat / 16), hexDigit (c.toNat % 16)] ++ str "'"
  else if c < 127 then [39, c, 39]
  else if c < 161 ∨ c = 173 then
    str "'\\u00" ++ [hexDigit (c.toNat / 16), hexDigit (c.toNat % 16)] ++ str "'"
  else str "'" ++ utf8.enc (Char.ofNat c.toNat) ++ str "'"

/-- The text of a syntax error. -/
def JsonSyntaxError.text : JsonSyntaxError → Str
  | .invalid c context => str "invalid character " ++ quoteChar c ++ str " " ++ context
  | .unexpectedEnd => str "unexpected end of JSON input"

/-! ## 2. The scanner -/

/-- `isSpace`. -/
def isJsonSpace (c : UInt8) : Bool := c = space || c = 9 || c = 13 || c = newline

/-- The array or the object the scanner is in, with what it has passed of it. -/
inductive Frame where
  | items (items : List JsonValue)
  | member (members : List (Str × JsonValue)) (key : Str)

/-- Where a string stands: it is a value, or the key of a member behind these. -/
inductive StringPlace where
  | value
  | key (members : List (Str × JsonValue))

/-- The step function of the scanner, with what it has read of a literal. -/
inductive ScanStep where
  | beginValue
  | beginValueOrEmpty
  | beginString (members : List (Str × JsonValue))
  | beginStringOrEmpty
  | inString (place : StringPlace) (literal : Str)
  | inStringEsc (place : StringPlace) (literal : Str)
  | inStringEscU (place : StringPlace) (literal : Str) (more : Nat)
  | neg (literal : Str)
  | zero (literal : Str)
  | digits (literal : Str)
  | point (literal : Str)
  | fraction (literal : Str)
  | exponent (literal : Str)
  | sign (literal : Str)
  | power (literal : Str)
  | word (name more : Str) (v : JsonValue)
  | endKey (members : List (Str × JsonValue)) (key : Str)
  | endValue (v : JsonValue)

/-- `scanner`: what is open around the value, and the step. -/
structure Scanner where
  stack : List Frame
  step : ScanStep

/-- What a step comes to. -/
abbrev Scanned := Except JsonSyntaxError Scanner

/-- `scanner.error`. -/
def scanError (c : UInt8) (context : String) : Scanned := .error (.invalid c (str context))

/-- `stateEndValue`, `stateEndTop`. -/
def endValue (stack : List Frame) (v : JsonValue) (c : UInt8) : Scanned :=
  if isJsonSpace c then .ok ⟨stack, .endValue v⟩
  else
    match stack with
    | [] => scanError c "after top-level value"
    | .member members key :: stack =>
      if c = comma then .ok ⟨stack, .beginString (members ++ [(key, v)])⟩
      else if c = 125 then .ok ⟨stack, .endValue (.object (members ++ [(key, v)]))⟩
      else scanError c "after object key:value pair"
    | .items items :: stack =>
      if c = comma then .ok ⟨.items (items ++ [v]) :: stack, .beginValue⟩
      else if c = 93 then .ok ⟨stack, .endValue (.array (items ++ [v]))⟩
      else scanError c "after array element"

/-- `stateBeginValue`. -/
def beginValue (stack : List Frame) (c : UInt8) : Scanned :=
  if isJsonSpace c then .ok ⟨stack, .beginValue⟩
  else if c = 123 then .ok ⟨stack, .beginStringOrEmpty⟩
  else if c = 91 then .ok ⟨stack, .beginValueOrEmpty⟩
  else if c = quotation then .ok ⟨stack, .inString .value []⟩
  else if c = dash then .ok ⟨stack, .neg [c]⟩
  else if c = 48 then .ok ⟨stack, .zero [c]⟩
  else if c = 116 then .ok ⟨stack, .word (str "true") (str "rue") (.bool true)⟩
  else if c = 102 then .ok ⟨stack, .word (str "false") (str "alse") (.bool false)⟩
  else if c = 110 then .ok ⟨stack, .word (str "null") (str "ull") .null⟩
  else if 49 ≤ c ∧ c ≤ 57 then .ok ⟨stack, .digits [c]⟩
  else scanError c "looking for beginning of value"

/-- `stateBeginString`. -/
def beginString (stack : List Frame) (members : List (Str × JsonValue)) (c : UInt8) : Scanned :=
  if isJsonSpace c then .ok ⟨stack, .beginString members⟩
  else if c = quotation then .ok ⟨stack, .inString (.key members) []⟩
  else scanError c "looking for beginning of object key string"

/-- The end of a string. -/
def endString (stack : List Frame) (literal : Str) : StringPlace → Scanned
  | .value => .ok ⟨stack, .endValue (.string (unquote literal))⟩
  | .key members => .ok ⟨stack, .endKey members (unquote literal)⟩

/-- `stateInString`. -/
def inString (stack : List Frame) (place : StringPlace) (literal : Str) (c : UInt8) : Scanned :=
  if c = quotation then endString stack literal place
  else if c = backslash then .ok ⟨stack, .inStringEsc place (literal ++ [c])⟩
  else if c < 32 then scanError c "in string literal"
  else .ok ⟨stack, .inString place (literal ++ [c])⟩

/-- `state0`: a number goes on behind its digits, or ends. -/
def afterDigits (stack : List Frame) (literal : Str) (c : UInt8) : Scanned :=
  if c = dot then .ok ⟨stack, .point (literal ++ [c])⟩
  else if c = 101 ∨ c = 69 then .ok ⟨stack, .exponent (literal ++ [c])⟩
  else endValue stack (.number literal) c

/-- `stateESign`. -/
def afterSign (stack : List Frame) (literal : Str) (c : UInt8) : Scanned :=
  if isDigit c then .ok ⟨stack, .power (literal ++ [c])⟩ else scanError c "in exponent of numeric literal"

/-- `scanner.step`. -/
def Scanner.next (s : Scanner) (c : UInt8) : Scanned :=
  match s.step with
  | .beginValue => beginValue s.stack c
  | .beginValueOrEmpty =>
    if isJsonSpace c then .ok s
    else if c = 93 then .ok ⟨s.stack, .endValue (.array [])⟩
    else beginValue (.items [] :: s.stack) c
  | .beginString members => beginString s.stack members c
  | .beginStringOrEmpty =>
    if isJsonSpace c then .ok s
    else if c = 125 then .ok ⟨s.stack, .endValue (.object [])⟩
    else beginString s.stack [] c
  | .inString place literal => inString s.stack place literal c
  | .inStringEsc place literal =>
    if c = 117 then .ok ⟨s.stack, .inStringEscU place (literal ++ [c]) 3⟩
    else if c ∈ str "bfnrt\\/\"" then .ok ⟨s.stack, .inString place (literal ++ [c])⟩
    else scanError c "in string escape code"
  | .inStringEscU place literal more =>
    if unhex c = none then scanError c "in \\u hexadecimal character escape"
    else
      match more with
      | 0 => .ok ⟨s.stack, .inString place (literal ++ [c])⟩
      | more + 1 => .ok ⟨s.stack, .inStringEscU place (literal ++ [c]) more⟩
  | .neg literal =>
    if c = 48 then .ok ⟨s.stack, .zero (literal ++ [c])⟩
    else if 49 ≤ c ∧ c ≤ 57 then .ok ⟨s.stack, .digits (literal ++ [c])⟩
    else scanError c "in numeric literal"
  | .zero literal => afterDigits s.stack literal c
  | .digits literal =>
    if isDigit c then .ok ⟨s.stack, .digits (literal ++ [c])⟩ else afterDigits s.stack literal c
  | .point literal =>
    if isDigit c then .ok ⟨s.stack, .fraction (literal ++ [c])⟩
    else scanError c "after decimal point in numeric literal"
  | .fraction literal =>
    if isDigit c then .ok ⟨s.stack, .fraction (literal ++ [c])⟩
    else if c = 101 ∨ c = 69 then .ok ⟨s.stack, .exponent (literal ++ [c])⟩
    else endValue s.stack (.number literal) c
  | .exponent literal =>
    if c = 43 ∨ c = dash then .ok ⟨s.stack, .sign (literal ++ [c])⟩ else afterSign s.stack literal c
  | .sign literal => afterSign s.stack literal c
  | .power literal =>
    if isDigit c then .ok ⟨s.stack, .power (literal ++ [c])⟩ else endValue s.stack (.number literal) c
  | .word name more v =>
    match more with
    | [] => endValue s.stack v c
    | x :: more =>
      if c = x then .ok ⟨s.stack, if more = [] then .endValue v else .word name more v⟩
      else .error (.invalid c (str "in literal " ++ name ++ str " (expecting '" ++ [x] ++ str "')"))
  | .endKey members key =>
    if isJsonSpace c then .ok s
    else if c = colon then .ok ⟨.member members key :: s.stack, .beginValue⟩
    else scanError c "after object key"
  | .endValue v => endValue s.stack v c

/-- `scanner.eof`: the end is read as a blank. -/
def Scanner.eof (s : Scanner) : Except JsonSyntaxError JsonValue :=
  match s.next space with
  | .error e => .error e
  | .ok ⟨[], .endValue v⟩ => .ok v
  | .ok _ => .error .unexpectedEnd

/-- The bytes of a text, one after the other. -/
def Scanner.run (s : Scanner) (data : Str) : Scanned := data.foldlM Scanner.next s

/-- `checkValid`, and the value. -/
def parseJson (data : Str) : Except JsonSyntaxError JsonValue :=
  (Scanner.run ⟨[], .beginValue⟩ data).bind Scanner.eof

/-! ## 3. Structs -/

/-- What a value is called in an error. -/
def JsonValue.kind : JsonValue → Str
  | .null => str "null"
  | .bool _ => str "bool"
  | .number _ => str "number"
  | .string _ => str "string"
  | .array _ => str "array"
  | .object _ => str "object"

/-- `json.UnmarshalTypeError`. Outside a struct, `struct` and `field` are empty. -/
structure UnmarshalTypeError where
  value : Str
  struct : Str
  field : Str
  type : Str
  deriving DecidableEq

/-- An error of `json.Unmarshal`. -/
inductive JsonError where
  | syntaxError (e : JsonSyntaxError)
  | typeError (e : UnmarshalTypeError)
  deriving DecidableEq

/-- The text of an error. -/
def JsonError.text : JsonError → Str
  | .syntaxError e => e.text
  | .typeError e =>
    if e.struct ≠ [] ∨ e.field ≠ [] then
      str "json: cannot unmarshal " ++ e.value ++ str " into Go struct field " ++ e.struct ++ str "." ++ e.field ++
        str " of type " ++ e.type
    else str "json: cannot unmarshal " ++ e.value ++ str " into Go value of type " ++ e.type

/-- What a value that does not fit is, and the Go type it does not fit. -/
abbrev Misfit := Option (Str × Str)

/-- A value into a `string`: `null` leaves it as it is. -/
def storeString (v : JsonValue) (old : Str) : Str × Misfit :=
  match v with
  | .string s => (s, none)
  | .null => (old, none)
  | v => (old, some (v.kind, str "string"))

/-- A value into a `bool`. -/
def storeBool (v : JsonValue) (old : Bool) : Bool × Misfit :=
  match v with
  | .bool b => (b, none)
  | .null => (old, none)
  | v => (old, some (v.kind, str "bool"))

/-- A `[]string` variable: nil, or its elements; and what its array still holds behind them. -/
structure StringSlice where
  elements : Option (List Str)
  spare : List Str
  deriving DecidableEq

/-- The items of an array over the elements that were there. Behind these an element is empty. -/
def storeItems : List JsonValue → List Str → List Str × Misfit
  | [], _ => ([], none)
  | v :: items, old =>
    let (s, misfit) := storeString v (old.headD [])
    let (rest, misfits) := storeItems items old.tail
    (s :: rest, misfit.or misfits)

/-- A value into a `[]string`: the array is used again, except for an empty one. -/
def storeStrings (v : JsonValue) (old : StringSlice) : StringSlice × Misfit :=
  match v with
  | .array [] => (⟨some [], []⟩, none)
  | .array items =>
    let held := old.elements.getD [] ++ old.spare
    let (elements, misfit) := storeItems items held
    (⟨some elements, held.drop items.length⟩, misfit)
  | .null => (⟨none, []⟩, none)
  | v => (old, some (v.kind, str "[]string"))

/-- A text, or none. -/
def JsonValue.isText : JsonValue → Bool
  | .string _ | .null => true
  | _ => false

/-- A list of texts, or none. -/
def JsonValue.isTexts : JsonValue → Bool
  | .array items => items.all JsonValue.isText
  | .null => true
  | _ => false

/-- A truth value, or none. -/
def JsonValue.isTruth : JsonValue → Bool
  | .bool _ | .null => true
  | _ => false

theorem storeString_eq_none_iff {v : JsonValue} {old : Str} : (storeString v old).2 = none ↔ v.isText = true := by
  cases v <;> simp [storeString, JsonValue.isText]

theorem storeBool_eq_none_iff {v : JsonValue} {old : Bool} : (storeBool v old).2 = none ↔ v.isTruth = true := by
  cases v <;> simp [storeBool, JsonValue.isTruth]

theorem storeItems_eq_none_iff (items : List JsonValue) (old : List Str) :
    (storeItems items old).2 = none ↔ items.all JsonValue.isText = true := by
  induction items generalizing old with
  | nil => simp [storeItems]
  | cons v items ih =>
      simp only [storeItems, Option.or_eq_none_iff, storeString_eq_none_iff, ih, List.all_cons, Bool.and_eq_true]

theorem storeStrings_eq_none_iff {v : JsonValue} {old : StringSlice} :
    (storeStrings v old).2 = none ↔ v.isTexts = true := by
  cases v with
  | array items =>
      cases items with
      | nil => simp [storeStrings, JsonValue.isTexts]
      | cons v items =>
          rw [JsonValue.isTexts, ← storeItems_eq_none_iff _ (old.elements.getD [] ++ old.spare)]
          rfl
  | null | bool | number | string | object => simp [storeStrings, JsonValue.isTexts]

/-- A field of a struct: its name in JSON, and how a value is stored. -/
structure JsonField (σ : Type) where
  name : Str
  store : JsonValue → σ → σ × Misfit

variable {σ τ : Type}

/-- The field a value of its type is stored in. -/
def JsonField.of (name : Str) (store : JsonValue → τ → τ × Misfit) (get : σ → τ) (set : σ → τ → σ) :
    JsonField σ where
  name := name
  store v x := (set x (store v (get x)).1, (store v (get x)).2)

/-- The bytes of `'\u017F'`, which folds to `s`. -/
def longS : Str := utf8.enc (Char.ofNat 0x17F)

/-- The bytes of `'\u212A'`, which folds to `k`. -/
def kelvin : Str := utf8.enc (Char.ofNat 0x212A)

/-- `foldFunc`: an ASCII name and a key are the same but for the case of letters. -/
def equalFold : Str → Str → Bool
  | [], key => key = []
  | _ :: _, [] => false
  | b :: name, c :: key =>
    if c < 128 then toLowerByte b = toLowerByte c && equalFold name key
    else if toLowerByte b = 115 && longS.isPrefixOf (c :: key) then equalFold name (key.drop 1)
    else if toLowerByte b = 107 && kelvin.isPrefixOf (c :: key) then equalFold name (key.drop 2)
    else false

/-- The field of a key: the one with its name, or else the first one with its name in another case. -/
def jsonFieldOf (fields : List (JsonField σ)) (key : Str) : Option (JsonField σ) :=
  match fields.find? fun f => f.name = key with
  | some f => some f
  | none => fields.find? fun f => equalFold f.name key

/-- A Go struct: what its type is called, with its package and without, and its fields. Their names are ASCII,
    and differ also without regard to case. -/
structure JsonStruct (σ : Type) where
  package : Str
  name : Str
  fields : List (JsonField σ)
  distinct : (fields.map fun f => toLower f.name).Nodup := by decide
  ascii : ∀ f ∈ fields, isAscii f.name = true := by decide

/-- A member of an object: the first value that does not fit is kept. -/
def JsonStruct.storeMember (S : JsonStruct σ) (x : σ × Option UnmarshalTypeError) (m : Str × JsonValue) :
    σ × Option UnmarshalTypeError :=
  match jsonFieldOf S.fields m.1 with
  | none => x
  | some f =>
    let (y, misfit) := f.store m.2 x.1
    (y, x.2.or (misfit.map fun (value, type) => ⟨value, S.name, f.name, type⟩))

/-- A value into a struct. -/
def JsonStruct.store (S : JsonStruct σ) (v : JsonValue) (x : σ) : σ × Option UnmarshalTypeError :=
  match v with
  | .object members => members.foldl S.storeMember (x, none)
  | .null => (x, none)
  | v => (x, some ⟨v.kind, [], [], S.package ++ str "." ++ S.name⟩)

/-- `json.Unmarshal`: what the struct holds then, and the error. -/
def JsonStruct.unmarshal (S : JsonStruct σ) (data : Str) (x : σ) : σ × Option JsonError :=
  match parseJson data with
  | .error e => (x, some (.syntaxError e))
  | .ok v => ((S.store v x).1, (S.store v x).2.map .typeError)

/-! ## 4. The field of a key -/

theorem equalFold_self {name : Str} (h : ∀ b ∈ name, b < 128) : equalFold name name = true := by
  induction name with
  | nil => rfl
  | cons b name ih =>
      have hb : b < 128 := h b List.mem_cons_self
      have hrest := ih fun c hc => h c (List.mem_cons_of_mem _ hc)
      simp [equalFold, hb, hrest]

/-- The first byte of a name and the character that stands for it. -/
theorem of_equalFold_cons {x c : UInt8} {a key : Str} (h : equalFold (x :: a) (c :: key) = true) :
    c < 128 ∧ toLowerByte x = toLowerByte c ∧ equalFold a key = true ∨
      c = 0xC5 ∧ toLowerByte x = 115 ∧ equalFold a (key.drop 1) = true ∨
      c = 0xE2 ∧ toLowerByte x = 107 ∧ equalFold a (key.drop 2) = true := by
  unfold equalFold at h
  split at h
  · rename_i hc
    simp only [Bool.and_eq_true, decide_eq_true_eq] at h
    exact .inl ⟨hc, h.1, h.2⟩
  · split at h
    · rename_i hs
      simp only [Bool.and_eq_true, decide_eq_true_eq] at hs
      obtain ⟨w, hw⟩ := List.isPrefixOf_iff_prefix.mp hs.2
      exact .inr (.inl ⟨(List.cons.inj hw).1.symm, hs.1, h⟩)
    · split at h
      · rename_i hk
        simp only [Bool.and_eq_true, decide_eq_true_eq] at hk
        obtain ⟨w, hw⟩ := List.isPrefixOf_iff_prefix.mp hk.2
        exact .inr (.inr ⟨(List.cons.inj hw).1.symm, hk.1, h⟩)
      · cases h

/-- Two names that a key stands for are the same but for case. -/
theorem toLower_eq_of_equalFold {a b key : Str} (ha : equalFold a key = true) (hb : equalFold b key = true) :
    toLower a = toLower b := by
  induction a generalizing b key with
  | nil =>
      have hkey : key = [] := by simpa [equalFold] using ha
      subst hkey
      cases b with
      | nil => rfl
      | cons y b => simp [equalFold] at hb
  | cons x a ih =>
      cases key with
      | nil => simp [equalFold] at ha
      | cons c key =>
          cases b with
          | nil => simp [equalFold] at hb
          | cons y b =>
              obtain ⟨rest, hx, hrest, hb⟩ : ∃ rest, toLowerByte x = toLowerByte y ∧
                  equalFold a rest = true ∧ equalFold b rest = true := by
                rcases of_equalFold_cons ha with ⟨hc, hx, ha⟩ | ⟨rfl, hx, ha⟩ | ⟨rfl, hx, ha⟩ <;>
                  rcases of_equalFold_cons hb with ⟨hc', hy, hb⟩ | ⟨hc', hy, hb⟩ | ⟨hc', hy, hb⟩
                · exact ⟨key, hx.trans hy.symm, ha, hb⟩
                · exact absurd (hc' ▸ hc) (by decide)
                · exact absurd (hc' ▸ hc) (by decide)
                · exact absurd hc' (by decide)
                · exact ⟨key.drop 1, hx.trans hy.symm, ha, hb⟩
                · exact absurd hc' (by decide)
                · exact absurd hc' (by decide)
                · exact absurd hc' (by decide)
                · exact ⟨key.drop 2, hx.trans hy.symm, ha, hb⟩
              exact congrArg₂ List.cons hx (ih hrest hb)

/-- **The field of a key is the one whose name the key is, in any case of its letters.** -/
theorem JsonStruct.jsonFieldOf_eq_some_iff (S : JsonStruct σ) {key : Str} {f : JsonField σ} :
    jsonFieldOf S.fields key = some f ↔ f ∈ S.fields ∧ equalFold f.name key = true := by
  have hsame : ∀ {g}, g ∈ S.fields → f ∈ S.fields → equalFold g.name key = true →
      equalFold f.name key = true → g = f := fun hg hf hgkey hfkey =>
    List.inj_on_of_nodup_map S.distinct hg hf (toLower_eq_of_equalFold hgkey hfkey)
  unfold jsonFieldOf
  cases hexact : S.fields.find? (fun f => decide (f.name = key)) with
  | some g =>
      have hg : g ∈ S.fields := List.mem_of_find?_eq_some hexact
      have hname : g.name = key := by simpa using List.find?_some hexact
      have hfold : equalFold g.name key = true := hname ▸ equalFold_self (isAscii_iff.mp (S.ascii g hg))
      simp only [Option.some.injEq]
      exact ⟨fun h => h ▸ ⟨hg, hfold⟩, fun h => hsame hg h.1 hfold h.2⟩
  | none =>
      dsimp only
      constructor
      · intro h
        have hfold : equalFold f.name key = true :=
          List.find?_some (p := fun f : JsonField σ => equalFold f.name key) h
        exact ⟨List.mem_of_find?_eq_some h, hfold⟩
      · intro h
        cases hfold : S.fields.find? (fun f => equalFold f.name key) with
        | none => exact absurd h.2 (List.find?_eq_none.mp hfold f h.1)
        | some g =>
            have hg : equalFold g.name key = true :=
              List.find?_some (p := fun f : JsonField σ => equalFold f.name key) hfold
            exact congrArg some (hsame (List.mem_of_find?_eq_some hfold) h.1 hg h.2)

/-- With fewer fields, a key has its field where that is kept. -/
theorem JsonStruct.jsonFieldOf_sub {S T : JsonStruct σ} (hsub : ∀ f ∈ T.fields, f ∈ S.fields) {key : Str}
    {f : JsonField σ} :
    jsonFieldOf T.fields key = some f ↔ jsonFieldOf S.fields key = some f ∧ f ∈ T.fields := by
  rw [T.jsonFieldOf_eq_some_iff, S.jsonFieldOf_eq_some_iff]
  exact ⟨fun h => ⟨⟨hsub f h.1, h.2⟩, h.1⟩, fun h => ⟨h.2, h.1.2⟩⟩

/-- **Every value fits its field exactly when no error is kept.** -/
theorem JsonStruct.foldl_storeMember_eq_none_iff {S : JsonStruct σ} {fits : JsonField σ → JsonValue → Prop}
    (hfits : ∀ f ∈ S.fields, ∀ v x, (f.store v x).2 = none ↔ fits f v) (members : List (Str × JsonValue))
    (x : σ × Option UnmarshalTypeError) :
    (members.foldl S.storeMember x).2 = none ↔
      x.2 = none ∧ ∀ m ∈ members, ∀ f, jsonFieldOf S.fields m.1 = some f → fits f m.2 := by
  induction members generalizing x with
  | nil => simp
  | cons m members ih =>
      have hstep : (S.storeMember x m).2 = none ↔
          x.2 = none ∧ ∀ f, jsonFieldOf S.fields m.1 = some f → fits f m.2 := by
        unfold JsonStruct.storeMember
        cases hf : jsonFieldOf S.fields m.1 with
        | none => simp
        | some f =>
            have hmem := (S.jsonFieldOf_eq_some_iff.mp hf).1
            simp [Option.or_eq_none_iff, hfits f hmem]
      rw [List.foldl_cons, ih, hstep, List.forall_mem_cons, and_assoc]

/-! ## 5. What is written -/

/-- A string literal. -/
def stringLiteral (s : Str) : Str := quotation :: quote s ++ [quotation]

/-- The members of a struct of strings. -/
def marshalMembers : List (Str × Str) → Str
  | [] => []
  | [m] => stringLiteral m.1 ++ colon :: stringLiteral m.2
  | m :: members => stringLiteral m.1 ++ colon :: stringLiteral m.2 ++ comma :: marshalMembers members

/-- `json.Marshal` of a struct of strings, its names and its values. -/
def marshalStrings (members : List (Str × Str)) : Str := 123 :: marshalMembers members ++ [125]

theorem Scanner.run_append (s : Scanner) (a b : Str) :
    s.run (a ++ b) = (s.run a).bind fun s' => s'.run b := List.foldlM_append

theorem Scanner.run_cons (s : Scanner) (c : UInt8) (data : Str) :
    s.run (c :: data) = (s.next c).bind fun s' => s'.run data := List.foldlM_cons

@[simp] theorem Scanner.run_nil (s : Scanner) : s.run [] = .ok s := rfl

variable {stack : List Frame} {place : StringPlace} {literal : Str}

/-- Bytes that are copied are passed. -/
theorem scan_plain {w : Str} (h : ∀ b ∈ w, 32 ≤ b ∧ b ≠ quotation ∧ b ≠ backslash) :
    Scanner.run ⟨stack, .inString place literal⟩ w = .ok ⟨stack, .inString place (literal ++ w)⟩ := by
  induction w generalizing literal with
  | nil => rw [List.append_nil, Scanner.run_nil]
  | cons b w ih =>
      obtain ⟨hlow, hquote, hback⟩ := h b List.mem_cons_self
      have hnext : Scanner.next ⟨stack, .inString place literal⟩ b =
          .ok ⟨stack, .inString place (literal ++ [b])⟩ := by
        simp only [Scanner.next, inString, if_neg hquote, if_neg hback, if_neg (UInt8.not_lt.mpr hlow)]
      rw [Scanner.run_cons, hnext]
      refine (ih fun x hx => h x (List.mem_cons_of_mem _ hx)).trans ?_
      rw [List.append_assoc, List.singleton_append]

/-- A backslash. -/
theorem scan_backslash (e : Str) :
    Scanner.run ⟨stack, .inString place literal⟩ (backslash :: e) =
      Scanner.run ⟨stack, .inStringEsc place (literal ++ [backslash])⟩ e := rfl

/-- An escape of one letter. -/
theorem scan_letter {c : UInt8} (hc : c ∈ str "bfnrt\\/\"") :
    Scanner.run ⟨stack, .inString place literal⟩ [backslash, c] =
      .ok ⟨stack, .inString place (literal ++ [backslash, c])⟩ := by
  have hu : c ≠ 117 := by
    rintro rfl
    exact absurd hc (by decide)
  rw [scan_backslash, Scanner.run_cons]
  simp only [Scanner.next, if_neg hu, if_pos hc, List.append_assoc, List.singleton_append]
  rfl

/-- An escape of four digits. -/
theorem scan_hex {a b c d : UInt8} (ha : unhex a ≠ none) (hb : unhex b ≠ none) (hc : unhex c ≠ none)
    (hd : unhex d ≠ none) :
    Scanner.run ⟨stack, .inString place literal⟩ [backslash, 117, a, b, c, d] =
      .ok ⟨stack, .inString place (literal ++ [backslash, 117, a, b, c, d])⟩ := by
  have hnext : ∀ (l : Str) (x : UInt8) (n : Nat), unhex x ≠ none →
      Scanner.next ⟨stack, .inStringEscU place l (n + 1)⟩ x =
        .ok ⟨stack, .inStringEscU place (l ++ [x]) n⟩ := by
    intro l x n hx
    simp only [Scanner.next, if_neg hx]
  have hlast : ∀ (l : Str) (x : UInt8), unhex x ≠ none →
      Scanner.next ⟨stack, .inStringEscU place l 0⟩ x = .ok ⟨stack, .inString place (l ++ [x])⟩ := by
    intro l x hx
    simp only [Scanner.next, if_neg hx]
  have hu : ∀ l : Str, Scanner.next ⟨stack, .inStringEsc place l⟩ 117 =
      .ok ⟨stack, .inStringEscU place (l ++ [117]) 3⟩ := fun _ => rfl
  rw [scan_backslash, Scanner.run_cons, hu]
  simp only [Except.bind, Scanner.run_cons, hnext _ _ _ ha, hnext _ _ _ hb, hnext _ _ _ hc, hlast _ _ hd,
    Scanner.run_nil, List.append_assoc, List.cons_append, List.nil_append]

/-- A piece of a literal is passed: inside a string the scanner reads on. -/
def Passed (w : Str) : Prop :=
  ∀ stack place literal, Scanner.run ⟨stack, .inString place literal⟩ w =
    .ok ⟨stack, .inString place (literal ++ w)⟩

theorem Passed.append {v w : Str} (hv : Passed v) (hw : Passed w) : Passed (v ++ w) := by
  intro stack place literal
  rw [Scanner.run_append, hv, Except.bind, hw, List.append_assoc]

theorem unhex_hexDigit_ne {n : Nat} (h : n < 16) : unhex (hexDigit n) ≠ none := by
  rw [unhex_hexDigit h]
  exact Option.some_ne_none n

theorem passed_quoteByte {b : UInt8} (hb : b < 128) : Passed (quoteByte b) := by
  have hlt : b.toNat < 128 := UInt8.lt_iff_toNat_lt.mp hb
  intro stack place literal
  unfold quoteByte
  split
  · rename_i hsafe
    simp only [htmlSafe, Bool.and_eq_true, decide_eq_true_eq] at hsafe
    refine scan_plain fun x hx => ?_
    rw [List.mem_singleton.mp hx]
    exact ⟨hsafe.1.1.1.1.1.1, hsafe.1.1.1.1.2, hsafe.1.1.1.2⟩
  · unfold escapeByte
    split
    · rename_i h
      rcases h with rfl | rfl <;> exact scan_letter (by decide)
    · split
      · exact scan_letter (by decide)
      · split
        · exact scan_letter (by decide)
        · split
          · exact scan_letter (by decide)
          · exact scan_hex (by decide) (by decide) (unhex_hexDigit_ne (by omega)) (unhex_hexDigit_ne (by omega))

theorem passed_quoteRune {c : Char} (hc : ∀ b ∈ utf8.enc c, 128 ≤ b) : Passed (quoteRune c) := by
  intro stack place literal
  unfold quoteRune
  split
  · exact scan_hex (by decide) (by decide) (by decide) (unhex_hexDigit_ne (by omega))
  · refine scan_plain fun b hb => ⟨?_, ?_, ?_⟩
    · exact UInt8.le_trans (by decide) (hc b hb)
    · rintro rfl
      exact absurd (hc _ hb) (by decide)
    · rintro rfl
      exact absurd (hc _ hb) (by decide)

/-- **What is written between the quotes is passed, whatever the string holds.** -/
theorem passed_quote (s : Str) : Passed (quote s) := by
  induction s using rune_induction with
  | nil => exact fun stack place literal => by rw [show quote [] = [] from rfl, List.append_nil]; rfl
  | ascii b s hb ih =>
      rw [quote_ascii hb]
      exact (passed_quoteByte hb).append ih
  | char c s hc ih =>
      rw [quote_char hc]
      exact (passed_quoteRune hc).append ih
  | invalid b s hb hd ih =>
      have hescape : Passed (backslash :: str "ufffd") := fun stack place literal =>
        scan_hex (by decide) (by decide) (by decide) (by decide)
      rw [quote_invalid hb hd]
      exact hescape.append ih

/-- The literal of a string is scanned up to its end, where the string is what comes back of it. -/
theorem scan_literal (s rest : Str) :
    Scanner.run ⟨stack, .inString place []⟩ (quote s ++ quotation :: rest) =
      (endString stack (quote s) place).bind fun s' => s'.run rest := by
  rw [Scanner.run_append, passed_quote s, Except.bind, List.nil_append, Scanner.run_cons]
  rfl

/-- The members of an object, each with what comes back of its strings. -/
def stringMembers (members : List (Str × Str)) : List (Str × JsonValue) :=
  members.map fun m => (jsonString m.1, .string (jsonString m.2))

/-- A member as it is written. -/
theorem marshalMembers_cons (m n : Str × Str) (members : List (Str × Str)) :
    marshalMembers (m :: n :: members) =
      stringLiteral m.1 ++ colon :: stringLiteral m.2 ++ comma :: marshalMembers (n :: members) := rfl

/-- A member is scanned up to the end of its value. -/
theorem scan_member (done : List (Str × JsonValue)) (m : Str × Str) (rest : Str) :
    Scanner.run ⟨stack, .beginString done⟩ (stringLiteral m.1 ++ colon :: stringLiteral m.2 ++ rest) =
      Scanner.run ⟨.member done (jsonString m.1) :: stack, .endValue (.string (jsonString m.2))⟩ rest := by
  have hkey : Scanner.run ⟨stack, .inString (.key done) []⟩
      (quote m.1 ++ quotation :: colon :: quotation :: (quote m.2 ++ quotation :: rest)) =
        Scanner.run ⟨.member done (jsonString m.1) :: stack, .inString .value []⟩
          (quote m.2 ++ quotation :: rest) := by
    rw [scan_literal, endString, unquote_quote]
    rfl
  have hvalue : Scanner.run ⟨.member done (jsonString m.1) :: stack, .inString .value []⟩
      (quote m.2 ++ quotation :: rest) =
        Scanner.run ⟨.member done (jsonString m.1) :: stack, .endValue (.string (jsonString m.2))⟩ rest := by
    rw [scan_literal, endString, unquote_quote]
    rfl
  have hwritten : stringLiteral m.1 ++ colon :: stringLiteral m.2 ++ rest =
      quotation :: (quote m.1 ++ quotation :: colon :: quotation :: (quote m.2 ++ quotation :: rest)) := by
    simp [stringLiteral]
  rw [hwritten]
  exact hkey.trans hvalue

/-- The members are scanned up to the end of the object. -/
theorem scan_members (stack : List Frame) (done : List (Str × JsonValue)) (m : Str × Str)
    (members : List (Str × Str)) :
    Scanner.run ⟨stack, .beginString done⟩ (marshalMembers (m :: members) ++ [125]) =
      .ok ⟨stack, .endValue (.object (done ++ stringMembers (m :: members)))⟩ := by
  induction members generalizing done m with
  | nil => exact scan_member done m [125]
  | cons n members ih =>
      have hrest := ih (done ++ [(jsonString m.1, .string (jsonString m.2))]) n
      rw [List.append_assoc] at hrest
      rw [marshalMembers_cons, List.append_assoc, scan_member]
      exact hrest

/-- **A struct of strings that was written is read again**, also with blanks behind it. -/
theorem parseJson_marshalStrings (members : List (Str × Str)) {blanks : Str}
    (hblanks : ∀ c ∈ blanks, isJsonSpace c = true) :
    parseJson (marshalStrings members ++ blanks) = .ok (.object (stringMembers members)) := by
  have hobject : Scanner.run ⟨[], .beginValue⟩ (marshalStrings members) =
      .ok ⟨[], .endValue (.object (stringMembers members))⟩ := by
    cases members with
    | nil => rfl
    | cons m members =>
        obtain ⟨w, hw⟩ : ∃ w, marshalMembers (m :: members) = quotation :: w := by
          cases members <;> exact ⟨_, rfl⟩
        have hscan := scan_members [] [] m members
        rw [hw] at hscan
        rw [marshalStrings, hw]
        exact hscan
  have htail : ∀ v, Scanner.run ⟨[], .endValue v⟩ blanks = .ok ⟨[], .endValue v⟩ := by
    intro v
    induction blanks with
    | nil => rfl
    | cons c blanks ih =>
        have hc : Scanner.next ⟨[], .endValue v⟩ c = .ok ⟨[], .endValue v⟩ :=
          if_pos (hblanks c List.mem_cons_self)
        rw [Scanner.run_cons, hc]
        exact ih fun x hx => hblanks x (List.mem_cons_of_mem _ hx)
  rw [parseJson, Scanner.run_append, hobject, Except.bind, htail]
  rfl

end Kalm
