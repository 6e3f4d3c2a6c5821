/-
  File:      Kalm/Go/Strings.lean
  Subject:   GO STRINGS: a Go string is a list of bytes; the functions of the packages `strings`,
             `strconv`, `fmt` and `encoding/hex` that the modelled code calls.

  * `str` -- a string literal of the source, as its UTF-8 bytes;
  * `trimSpace` -- `strings.TrimSpace`: the code points `unicode.IsSpace` accepts are removed at
    both ends, each as the byte sequence UTF-8 writes for it (Fields.lean, Codes.lean);
  * `CleanField` -- what a field must be to come through a line split on commas and trimmed.
-/
import Kalm.Lib.Codes

namespace Kalm

/-! ## 1. Bytes and literals -/

/-- A Go string. -/
abbrev Str := List UInt8

/-- One name for the proof, so that a search for a string means the same in every module. -/
instance : LawfulBEq Str := inferInstance

/-- The bytes of a literal. -/
def str (s : String) : Str := utf8.flat s.toList

/-- `','`. -/
abbrev comma : UInt8 := 44
/-- `'\n'`. -/
abbrev newline : UInt8 := 10
/-- `'#'`. -/
abbrev hash : UInt8 := 35
/-- `' '`. -/
abbrev space : UInt8 := 32
/-- `'*'`. -/
abbrev star : UInt8 := 42
/-- `'.'`. -/
abbrev dot : UInt8 := 46
/-- `':'`. -/
abbrev colon : UInt8 := 58
/-- `'-'`. -/
abbrev dash : UInt8 := 45
/-- `'/'`. -/
abbrev slash : UInt8 := 47
/-- `'_'`. -/
abbrev underscore : UInt8 := 95

/-- `strings.Index` for a one-byte substring: the first position, if any. -/
def indexByte (s : Str) (c : UInt8) : Option Nat := s.findIdx? (· == c)

/-- `strings.LastIndexByte`. -/
def lastIndexByte (s : Str) (c : UInt8) : Option Nat :=
  (indexByte s.reverse c).map (fun i => s.length - 1 - i)

/-- `strings.ToUpper` on ASCII text (the modelled code only applies it to the first byte of a
    role name). -/
def toUpper (s : Str) : Str := s.map (fun b => if 97 ≤ b ∧ b ≤ 122 then b - 32 else b)

/-- `%d` of a non-negative number. -/
def itoa (n : Nat) : Str := utf8.flat (Nat.toDigits 10 n)

/-- One digit of `hex.EncodeToString`. -/
def hexDigit (n : Nat) : UInt8 := if n < 10 then UInt8.ofNat (48 + n) else UInt8.ofNat (87 + n)

/-- `hex.EncodeToString`. -/
def hexEncode (bs : List UInt8) : Str :=
  bs.flatMap (fun b => [hexDigit (b.toNat / 16), hexDigit (b.toNat % 16)])

theorem hexDigit_range {n : Nat} (h : n < 16) :
    (48 ≤ hexDigit n ∧ hexDigit n ≤ 57) ∨ (97 ≤ hexDigit n ∧ hexDigit n ≤ 102) := by
  have hall : ∀ m : Fin 16,
      (48 ≤ hexDigit m ∧ hexDigit m ≤ 57) ∨ (97 ≤ hexDigit m ∧ hexDigit m ≤ 102) := by decide
  exact hall ⟨n, h⟩

theorem hexEncode_range {bs : List UInt8} {b : UInt8} (h : b ∈ hexEncode bs) :
    (48 ≤ b ∧ b ≤ 57) ∨ (97 ≤ b ∧ b ≤ 102) := by
  obtain ⟨c, _, hb⟩ := List.mem_flatMap.mp h
  have hc := c.toNat_lt
  rcases List.mem_cons.mp hb with rfl | hb
  · exact hexDigit_range (by omega)
  · rw [List.mem_singleton.mp hb]
    exact hexDigit_range (Nat.mod_lt _ (by decide))

theorem length_hexEncode (bs : List UInt8) : (hexEncode bs).length = 2 * bs.length := by
  induction bs with
  | nil => rfl
  | cons b bs ih =>
      have hcons : hexEncode (b :: bs) = [hexDigit (b.toNat / 16), hexDigit (b.toNat % 16)] ++ hexEncode bs := rfl
      rw [hcons, List.length_append, ih, List.length_cons, List.length_cons, List.length_cons, List.length_nil]
      omega

theorem hexDigit_inj {m n : Nat} (hm : m < 16) (hn : n < 16) (h : hexDigit m = hexDigit n) : m = n := by
  have hall : ∀ a b : Fin 16, hexDigit a = hexDigit b → a = b := by decide
  exact congrArg Fin.val (hall ⟨m, hm⟩ ⟨n, hn⟩ h)

/-- **A hash is read from its digits.** -/
theorem hexEncode_inj {as bs : List UInt8} (h : hexEncode as = hexEncode bs) : as = bs := by
  induction as generalizing bs with
  | nil =>
      cases bs with
      | nil => rfl
      | cons b bs => cases h
  | cons a as ih =>
      cases bs with
      | nil => cases h
      | cons b bs =>
          have hfront : hexDigit (a.toNat / 16) :: hexDigit (a.toNat % 16) :: hexEncode as =
              hexDigit (b.toNat / 16) :: hexDigit (b.toNat % 16) :: hexEncode bs := h
          obtain ⟨hhigh, hrest⟩ := List.cons.inj hfront
          obtain ⟨hlow, hrest⟩ := List.cons.inj hrest
          have ha := a.toNat_lt
          have hb := b.toNat_lt
          have hdiv := hexDigit_inj (by omega) (by omega) hhigh
          have hmod := hexDigit_inj (by omega) (by omega) hlow
          have hbyte : a = b := UInt8.toNat_inj.mp (by omega)
          rw [hbyte, ih hrest]

/-! ## 2. `strings.TrimSpace` -/

/-- The code points `unicode.IsSpace` accepts. -/
def isSpaceTable : List Char :=
  [0x09, 0x0A, 0x0B, 0x0C, 0x0D, 0x20, 0x85, 0xA0, 0x1680, 0x2000, 0x2001, 0x2002, 0x2003, 0x2004,
    0x2005, 0x2006, 0x2007, 0x2008, 0x2009, 0x200A, 0x2028, 0x2029, 0x202F, 0x205F, 0x3000].map
    Char.ofNat

/-- The same, as the byte sequences UTF-8 writes for them. -/
def spaceBytes : List Str := (isSpaceTable.map (fun c => [c])).map utf8.flat

/-- `strings.TrimSpace`. -/
def trimSpace (s : Str) : Str := Fields.trim spaceBytes s

theorem nil_not_mem_spaceBytes : [] ∉ spaceBytes := by decide

theorem trimSpace_trimSpace (s : Str) : trimSpace (trimSpace s) = trimSpace s :=
  Fields.trim_trim nil_not_mem_spaceBytes s

theorem trimSpace_eq_self_iff {s : Str} : trimSpace s = s ↔ Fields.Trimmed spaceBytes s :=
  Fields.trim_eq_self_iff nil_not_mem_spaceBytes

theorem mem_of_mem_trimSpace {s : Str} {b : UInt8} (h : b ∈ trimSpace s) : b ∈ s :=
  Fields.mem_of_mem_trim h

/-- A leading space byte is removed. -/
theorem trimSpace_cons_space (s : Str) : trimSpace (space :: s) = trimSpace s :=
  Fields.trim_cons_blank (by decide) (by decide) nil_not_mem_spaceBytes s

/-- Printable ASCII other than the space. -/
def Graphic (s : Str) : Prop := ∀ b ∈ s, 0x21 ≤ b ∧ b ≤ 0x7E

instance (s : Str) : Decidable (Graphic s) :=
  List.decidableBAll (fun b => 0x21 ≤ b ∧ b ≤ 0x7E) s

/-- No byte of a blank is printable ASCII. -/
theorem spaceBytes_not_graphic : ∀ b ∈ spaceBytes, ∀ x ∈ b, ¬ (0x21 ≤ x ∧ x ≤ 0x7E) := by
  have hall : (spaceBytes.all fun b => b.all fun x => !(decide (0x21 ≤ x) && decide (x ≤ 0x7E))) = true := by
    decide +kernel
  intro b hb x hx hgraphic
  have hx' := List.all_eq_true.mp (List.all_eq_true.mp hall b hb) x hx
  simp [hgraphic.1, hgraphic.2] at hx'

theorem spaceBytes_ne_nil {b : Str} (h : b ∈ spaceBytes) : b ≠ [] :=
  fun e => nil_not_mem_spaceBytes (e ▸ h)

/-- A blank in front of a text that starts with a graphic byte is impossible. -/
theorem not_blank_head {b : Str} (hb : b ∈ spaceBytes) {c : UInt8} (hc : 0x21 ≤ c ∧ c ≤ 0x7E)
    (s : Str) : ¬ b <+: c :: s := by
  intro hp
  cases b with
  | nil => exact nil_not_mem_spaceBytes hb
  | cons x b =>
      obtain ⟨rfl, _⟩ := List.cons_prefix_cons.mp hp
      exact spaceBytes_not_graphic _ hb x List.mem_cons_self hc

/-- A blank at the end of a text that ends with a graphic byte is impossible. -/
theorem not_blank_suffix {b : Str} (hb : b ∈ spaceBytes) {c : UInt8} (hc : 0x21 ≤ c ∧ c ≤ 0x7E)
    (s : Str) : ¬ b <:+ s ++ [c] := by
  intro hp
  rcases List.eq_nil_or_concat b with rfl | ⟨b', x, rfl⟩
  · exact nil_not_mem_spaceBytes hb
  · rw [List.concat_eq_append] at hp hb
    obtain ⟨r, e⟩ := hp
    rw [← List.append_assoc] at e
    have hx : x = c := by simpa using (List.append_inj' e rfl).2
    subst hx
    exact spaceBytes_not_graphic _ hb x (by simp) hc

/-- Graphic text is trimmed. -/
theorem trimSpace_of_graphic {s : Str} (h : Graphic s) : trimSpace s = s := by
  refine trimSpace_eq_self_iff.mpr fun b hb => ?_
  have hx := List.head_mem (spaceBytes_ne_nil hb)
  have hn := spaceBytes_not_graphic b hb _ hx
  exact ⟨fun hp => hn (h _ (hp.subset hx)), fun hp => hn (h _ (hp.subset hx))⟩

/-- Text that starts with a graphic byte keeps it. -/
theorem trimSpace_cons_graphic {c : UInt8} (hc : 0x21 ≤ c ∧ c ≤ 0x7E) (s : Str) :
    ∃ t, trimSpace (c :: s) = c :: t := by
  have hmem : c ∈ trimSpace (c :: s) :=
    Fields.mem_trim (fun b hb hx => spaceBytes_not_graphic b hb c hx hc) List.mem_cons_self
  have hpre : trimSpace (c :: s) <+: c :: s := by
    rw [trimSpace, Fields.trim, Fields.trimLeft_of_clean fun b hb => not_blank_head hb hc s]
    exact Fields.trimRight_isPre spaceBytes _
  cases ht : trimSpace (c :: s) with
  | nil =>
      rw [ht] at hmem
      exact absurd hmem List.not_mem_nil
  | cons x t =>
      rw [ht] at hpre
      exact ⟨t, by rw [(List.cons_prefix_cons.mp hpre).1]⟩

theorem Graphic.append {s t : Str} (hs : Graphic s) (ht : Graphic t) : Graphic (s ++ t) := by
  intro b hb
  rcases List.mem_append.mp hb with hb | hb
  · exact hs b hb
  · exact ht b hb

theorem graphic_cons {c : UInt8} {s : Str} :
    Graphic (c :: s) ↔ (0x21 ≤ c ∧ c ≤ 0x7E) ∧ Graphic s := by
  simp [Graphic]

/-! ## 3. Fields of a comma separated line -/

/-- A field that comes through: no separator of its own, no line break, nothing to trim. -/
structure CleanField (f : Str) : Prop where
  noComma : comma ∉ f
  noNewline : newline ∉ f
  trimmed : trimSpace f = f

instance (f : Str) : Decidable (CleanField f) :=
  decidable_of_iff (comma ∉ f ∧ newline ∉ f ∧ trimSpace f = f)
    ⟨fun ⟨h1, h2, h3⟩ => ⟨h1, h2, h3⟩, fun ⟨h1, h2, h3⟩ => ⟨h1, h2, h3⟩⟩

/-- Graphic text without a comma is a clean field (a line break is not graphic). -/
theorem cleanField_of_graphic {f : Str} (h : Graphic f) (hc : comma ∉ f) : CleanField f where
  noComma := hc
  noNewline hn := absurd (h _ hn) (by decide)
  trimmed := trimSpace_of_graphic h

/-- In front of graphic text a clean field only has to watch its start. -/
theorem cleanField_append_graphic {k t : Str} (ht : Graphic t) (hc : comma ∉ t) (hne : t ≠ []) :
    CleanField (k ++ t) ↔ comma ∉ k ∧ newline ∉ k ∧ ∀ b ∈ spaceBytes, ¬ b <+: k := by
  have hct := cleanField_of_graphic ht hc
  constructor
  · intro h
    refine ⟨fun hk => h.noComma (List.mem_append_left t hk),
      fun hk => h.noNewline (List.mem_append_left t hk), fun b hb hp => ?_⟩
    exact (trimSpace_eq_self_iff.mp h.trimmed b hb).1 (hp.trans (List.prefix_append k t))
  · rintro ⟨h1, h2, h3⟩
    refine ⟨?_, ?_, trimSpace_eq_self_iff.mpr fun b hb => ⟨fun hp => ?_, fun hs => ?_⟩⟩
    · rw [List.mem_append, not_or]
      exact ⟨h1, hc⟩
    · rw [List.mem_append, not_or]
      exact ⟨h2, hct.noNewline⟩
    · -- a blank that reaches beyond `k` holds a byte of `t`
      rcases List.prefix_or_prefix_of_prefix hp (List.prefix_append k t) with hbk | ⟨r, rfl⟩
      · exact h3 b hb hbk
      · cases r with
        | nil => exact h3 _ hb (by simp)
        | cons x r =>
            have hx : x ∈ t := ((List.prefix_append_right_inj k).mp hp).subset List.mem_cons_self
            exact spaceBytes_not_graphic _ hb x (by simp) (ht x hx)
    · rcases List.eq_nil_or_concat t with rfl | ⟨t', c, rfl⟩
      · exact hne rfl
      · rw [List.concat_eq_append, ← List.append_assoc] at hs
        exact not_blank_suffix hb (ht c (by simp)) _ hs

/-- After graphic text a clean field only has to watch its end. -/
theorem cleanField_graphic_append {t k : Str} (ht : Graphic t) (hc : comma ∉ t) (hne : t ≠ []) :
    CleanField (t ++ k) ↔ comma ∉ k ∧ newline ∉ k ∧ ∀ b ∈ spaceBytes, ¬ b <:+ k := by
  have hct := cleanField_of_graphic ht hc
  constructor
  · intro h
    refine ⟨fun hk => h.noComma (List.mem_append_right t hk),
      fun hk => h.noNewline (List.mem_append_right t hk), fun b hb hp => ?_⟩
    exact (trimSpace_eq_self_iff.mp h.trimmed b hb).2 (hp.trans (List.suffix_append t k))
  · rintro ⟨h1, h2, h3⟩
    refine ⟨?_, ?_, trimSpace_eq_self_iff.mpr fun b hb => ⟨fun hp => ?_, fun hs => ?_⟩⟩
    · rw [List.mem_append, not_or]
      exact ⟨hc, h1⟩
    · rw [List.mem_append, not_or]
      exact ⟨hct.noNewline, h2⟩
    · cases t with
      | nil => exact hne rfl
      | cons c t => exact not_blank_head hb (ht c List.mem_cons_self) _ hp
    · -- a blank that reaches back beyond `k` holds a byte of `t`
      rcases List.suffix_or_suffix_of_suffix hs (List.suffix_append t k) with hbk | ⟨r, rfl⟩
      · exact h3 b hb hbk
      · rcases List.eq_nil_or_concat r with rfl | ⟨r', x, rfl⟩
        · exact h3 _ hb (by simp)
        · have hx : x ∈ t := ((List.suffix_append_inj_of_length_eq rfl).mp hs).1.subset (by simp)
          exact spaceBytes_not_graphic _ hb x (by simp) (ht x hx)

/-- `Sprintf("k, %s, %s, …", fields…)`: the fields joined by a comma and a space. -/
def sprintfRow (key : Str) (fields : List Str) : Str :=
  [comma].intercalate (key :: fields.map (fun f => space :: f))

/-- Split on the comma, trim each piece. -/
def splitRow (line : Str) : List Str := (line.splitOn comma).map trimSpace

/-- **A row of fields without commas reads back as its fields, each trimmed.** -/
theorem splitRow_sprintfRow {key : Str} {fields : List Str} (hk : comma ∉ key)
    (hf : ∀ f ∈ fields, comma ∉ f) :
    splitRow (sprintfRow key fields) = trimSpace key :: fields.map trimSpace := by
  have hsep : ∀ l ∈ key :: fields.map (fun f => space :: f), comma ∉ l := by
    intro l hl
    rcases List.mem_cons.mp hl with rfl | hl
    · exact hk
    · obtain ⟨f, hf', rfl⟩ := List.mem_map.mp hl
      rw [List.mem_cons, not_or]
      exact ⟨by decide, hf f hf'⟩
  rw [splitRow, sprintfRow, List.splitOn_intercalate comma hsep (List.cons_ne_nil _ _),
    List.map_cons, List.map_map]
  exact congrArg (trimSpace key :: ·) (List.map_congr_left fun f _ => trimSpace_cons_space f)

/-- Clean fields read back as they were printed. -/
theorem map_trimSpace_of_clean {fields : List Str} (h : ∀ f ∈ fields, CleanField f) :
    fields.map trimSpace = fields :=
  (List.map_congr_left fun f hf => (h f hf).trimmed).trans (List.map_id fields)

/-- Every piece of a row is a clean field, when the row is one line. -/
theorem cleanField_of_mem_splitRow {line f : Str} (hl : newline ∉ line) (h : f ∈ splitRow line) :
    CleanField f := by
  obtain ⟨piece, hp, rfl⟩ := List.mem_map.mp h
  exact ⟨fun hc => Fields.not_mem_of_mem_splitOn hp (mem_of_mem_trimSpace hc),
    fun hn => hl (Fields.mem_of_mem_splitOn hp (mem_of_mem_trimSpace hn)),
    trimSpace_trimSpace piece⟩

theorem newline_not_mem_sprintfRow {key : Str} {fields : List Str} (hk : newline ∉ key)
    (hf : ∀ f ∈ fields, newline ∉ f) : newline ∉ sprintfRow key fields := by
  induction fields generalizing key with
  | nil => simpa [sprintfRow] using hk
  | cons f fields ih =>
      have e : sprintfRow key (f :: fields) = key ++ comma :: sprintfRow (space :: f) fields := by
        simp [sprintfRow, List.intercalate_cons_cons]
      have hrest : newline ∉ sprintfRow (space :: f) fields := by
        refine ih ?_ fun g hg => hf g (List.mem_cons_of_mem _ hg)
        rw [List.mem_cons, not_or]
        exact ⟨by decide, hf f List.mem_cons_self⟩
      rw [e, List.mem_append, List.mem_cons, not_or, not_or]
      exact ⟨hk, by decide, hrest⟩

end Kalm
