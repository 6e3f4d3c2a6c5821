/-
  File:      Kalm/Go/Plain.lean
  Subject:   `json.Encoder` WITHOUT HTML ESCAPES: after `SetEscapeHTML(false)` the bytes `<`, `>` and `&` are copied.
             `base64.StdEncoding`, which pads what it writes.

  * `plainQuote` -- the body of a literal; `Stands`, `stands_plainQuote` -- the scanner passes it, and it stands for
    the string but for the bytes that are no text;
  * `scan_key`, `scan_value` -- a literal is scanned as a key or as a value;
  * `JsonValue.member`, `JsonValue.at` -- what a value holds under a path of keys;
  * `isUtf8_stdEncode` -- a text in base64.
-/
import Kalm.Go.Base64
import Kalm.Go.Json

namespace Kalm

/-! ## 1. Writing -/

/-- `safeSet`: the ASCII bytes that are copied. -/
def safe (b : UInt8) : Bool := 32 ≤ b && b < 128 && b ≠ quotation && b ≠ backslash

/-- An ASCII byte. -/
def plainByte (b : UInt8) : Str := if safe b then [b] else backslash :: escapeByte b

/-- The body of a literal. Of the character that was written, `n` bytes are left. -/
def plainFrom : Nat → Str → Str
  | _, [] => []
  | n + 1, _ :: s => plainFrom n s
  | 0, b :: s =>
    if b < 128 then plainByte b ++ plainFrom 0 s
    else
      match decodeRune (b :: s) with
      | some c => quoteRune c ++ plainFrom ((utf8.enc c).length - 1) s
      | none => backslash :: str "ufffd" ++ plainFrom 0 s

/-- `encodeState.string` without HTML escapes, between the quotes. -/
def plainQuote (s : Str) : Str := plainFrom 0 s

/-- A string literal. -/
def plainLiteral (s : Str) : Str := quotation :: plainQuote s ++ [quotation]

theorem plainFrom_succ (n : Nat) (b : UInt8) (s : Str) : plainFrom (n + 1) (b :: s) = plainFrom n s := rfl

theorem plainFrom_zero (b : UInt8) (s : Str) : plainFrom 0 (b :: s) =
    if b < 128 then plainByte b ++ plainFrom 0 s
    else
      match decodeRune (b :: s) with
      | some c => quoteRune c ++ plainFrom ((utf8.enc c).length - 1) s
      | none => backslash :: str "ufffd" ++ plainFrom 0 s := rfl

theorem plainFrom_append (w s : Str) : plainFrom w.length (w ++ s) = plainQuote s := by
  induction w with
  | nil => rfl
  | cons b w ih => rw [List.cons_append, List.length_cons, plainFrom_succ, ih]

theorem plainQuote_ascii {b : UInt8} (h : b < 128) (s : Str) :
    plainQuote (b :: s) = plainByte b ++ plainQuote s := by
  rw [plainQuote, plainFrom_zero, if_pos h, plainQuote]

theorem plainQuote_char {c : Char} (hc : ∀ b ∈ utf8.enc c, 128 ≤ b) (s : Str) :
    plainQuote (utf8.enc c ++ s) = quoteRune c ++ plainQuote s := by
  obtain ⟨b, w, hw⟩ := List.exists_cons_of_ne_nil (utf8.enc_ne_nil c)
  have hdecode := decodeRune_enc c s
  have hb : ¬ b < 128 := UInt8.not_lt.mpr (hc b (hw ▸ List.mem_cons_self))
  rw [hw, List.cons_append] at hdecode
  rw [hw, List.cons_append, plainQuote, plainFrom_zero, if_neg hb, hdecode]
  dsimp only
  rw [hw, List.length_cons, Nat.add_sub_cancel, plainFrom_append]

theorem plainQuote_invalid {b : UInt8} {s : Str} (hb : 128 ≤ b) (hd : decodeRune (b :: s) = none) :
    plainQuote (b :: s) = backslash :: str "ufffd" ++ plainQuote s := by
  rw [plainQuote, plainFrom_zero, if_neg (UInt8.not_lt.mpr hb), hd, plainQuote]

/-! ## 2. Reading -/

/-- A piece of a literal is passed by the scanner, and stands for `out`. -/
structure Stands (w out : Str) : Prop where
  passed : Passed w
  read : ∀ s, unquote (w ++ s) = out ++ unquote s

theorem Stands.append {v w a b : Str} (hv : Stands v a) (hw : Stands w b) : Stands (v ++ w) (a ++ b) := by
  refine ⟨hv.passed.append hw.passed, fun s => ?_⟩
  rw [List.append_assoc, hv.read, hw.read, List.append_assoc]

theorem stands_nil : Stands [] [] := by
  refine ⟨fun stack place literal => ?_, fun _ => rfl⟩
  rw [List.append_nil]
  rfl

theorem stands_plainByte {b : UInt8} (hb : b < 128) : Stands (plainByte b) [b] := by
  unfold plainByte
  split
  · rename_i hsafe
    simp only [safe, Bool.and_eq_true, decide_eq_true_eq] at hsafe
    refine ⟨fun stack place literal => scan_plain fun x hx => ?_, fun s => unquote_ascii hb hsafe.2 s⟩
    rw [List.mem_singleton.mp hx]
    exact ⟨hsafe.1.1.1, hsafe.1.2, hsafe.2⟩
  · rename_i hsafe
    -- a byte that is not copied here is not copied by `quoteByte` either
    have hquote : quoteByte b = backslash :: escapeByte b := by
      have hhtml : ¬ htmlSafe b = true := by
        intro h
        simp only [htmlSafe, Bool.and_eq_true, decide_eq_true_eq] at h
        refine hsafe ?_
        simp only [safe, Bool.and_eq_true, decide_eq_true_eq]
        exact h.1.1.1
      rw [quoteByte, if_neg hhtml]
    rw [← hquote]
    exact ⟨passed_quoteByte hb, unquote_quoteByte hb⟩

/-- **What is written stands for the string**, but for the bytes that are no text. -/
theorem stands_plainQuote (s : Str) : Stands (plainQuote s) (jsonString s) := by
  induction s using rune_induction with
  | nil => exact stands_nil
  | ascii b s hb ih =>
      rw [plainQuote_ascii hb, jsonString_ascii hb]
      exact (stands_plainByte hb).append ih
  | char c s hc ih =>
      have hrune : Stands (quoteRune c) (utf8.enc c) := ⟨passed_quoteRune hc, unquote_quoteRune hc⟩
      rw [plainQuote_char hc, jsonString_enc]
      exact hrune.append ih
  | invalid b s hb hd ih =>
      have hescape : Stands (backslash :: str "ufffd") replacement :=
        ⟨fun stack place literal => scan_hex (by decide) (by decide) (by decide) (by decide),
          fun s => unquote_escape rfl⟩
      rw [plainQuote_invalid hb hd, jsonString_invalid hd]
      exact hescape.append ih

theorem unquote_plainQuote (s : Str) : unquote (plainQuote s) = jsonString s := by
  have h := (stands_plainQuote s).read []
  rwa [List.append_nil, show unquote [] = [] from rfl, List.append_nil] at h

variable {stack : List Frame} {members : List (Str × JsonValue)}

/-- A literal is scanned as a value. -/
theorem scan_value (s rest : Str) :
    Scanner.run ⟨stack, .beginValue⟩ (plainLiteral s ++ rest) =
      Scanner.run ⟨stack, .endValue (.string (jsonString s))⟩ rest := by
  have hpassed := (stands_plainQuote s).passed stack .value []
  have hscan : Scanner.run ⟨stack, .inString .value []⟩ (plainQuote s ++ quotation :: rest) =
      Scanner.run ⟨stack, .endValue (.string (jsonString s))⟩ rest := by
    rw [Scanner.run_append, hpassed, Except.bind, List.nil_append, Scanner.run_cons, ← unquote_plainQuote s]
    rfl
  have hwritten : plainLiteral s ++ rest = quotation :: (plainQuote s ++ quotation :: rest) := by
    simp [plainLiteral]
  rw [hwritten]
  exact hscan

/-- A literal is scanned as a key, with the colon behind it. -/
theorem scan_key (s rest : Str) :
    Scanner.run ⟨stack, .beginString members⟩ (plainLiteral s ++ colon :: rest) =
      Scanner.run ⟨.member members (jsonString s) :: stack, .beginValue⟩ rest := by
  have hpassed := (stands_plainQuote s).passed stack (.key members) []
  have hscan : Scanner.run ⟨stack, .inString (.key members) []⟩ (plainQuote s ++ quotation :: colon :: rest) =
      Scanner.run ⟨.member members (jsonString s) :: stack, .beginValue⟩ rest := by
    rw [Scanner.run_append, hpassed, Except.bind, List.nil_append, Scanner.run_cons, ← unquote_plainQuote s]
    rfl
  have hwritten : plainLiteral s ++ colon :: rest = quotation :: (plainQuote s ++ quotation :: colon :: rest) := by
    simp [plainLiteral]
  rw [hwritten]
  exact hscan

/-- The same at the beginning of an object. -/
theorem scan_firstKey (s rest : Str) :
    Scanner.run ⟨stack, .beginStringOrEmpty⟩ (plainLiteral s ++ colon :: rest) =
      Scanner.run ⟨.member [] (jsonString s) :: stack, .beginValue⟩ rest := scan_key s rest

/-! ## 3. Values under a path -/

/-- The value of a key; the last one counts. -/
def JsonValue.member (key : Str) : JsonValue → Option JsonValue
  | .object members => (members.filter fun m => m.1 = key).getLast?.map Prod.snd
  | _ => none

/-- What is under a path of keys. -/
def JsonValue.at : JsonValue → List Str → Option JsonValue
  | v, [] => some v
  | v, key :: path => (v.member key).bind fun w => w.at path

/-! ## 4. Base64 -/

/-- A text in base64 is a text. -/
theorem isUtf8_stdEncode (bs : List UInt8) : IsUtf8 (stdEncode bs) := by
  have hdigit : ∀ d : Fin 64, rawStdEncoding.digit d < 128 := fun d =>
    of_decide_eq_true (digit_std_of (P := fun b => b < 128) (by decide +kernel) d)
  refine isUtf8_of_ascii fun b hb => ?_
  rcases List.mem_append.mp hb with hb | hb
  · obtain ⟨d, _, rfl⟩ := List.mem_map.mp hb
    exact hdigit d
  · rw [(List.mem_replicate.mp hb).2]
    decide

end Kalm
