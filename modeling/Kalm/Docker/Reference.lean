/-
  File:      Kalm/Docker/Reference.lean
  Subject:   REFERENCES OF IMAGES: the grammar of `github.com/docker/distribution/reference`, and `Parse`.

  * `isDomain`, `isPath`, `isTag`, `isDigest` -- the parts of `[host[:port]/]path[:tag][@digest]`;
  * `parse` -- the name, the tag and the digest of a text;
  * `parse_eq_some` -- a text is a reference exactly when it is what the reference is written as.
-/
import Kalm.Lib.Cuts
import Kalm.Lib.Regex
import Kalm.Go.Url
import Kalm.K8s.Names

namespace Kalm.Images

open Cuts (cut cutLast cut_eq_none cut_eq_some cutLast_eq_none cutLast_eq_some)
open RegularExpression (char)
open Regex (oneOf literal many many1)

/-! ## 1. The parts -/

/-- `@` -/
def atSign : UInt8 := 64

/-- `[a-z0-9]+` -/
def alphaNumericRegexp : RegularExpression UInt8 := many1 (oneOf (str "abcdefghijklmnopqrstuvwxyz0123456789"))

/-- `(?:[._]|__|[-]*)` -/
def separatorRegexp : RegularExpression UInt8 := oneOf (str "._") + (literal (str "__") + many (char dash))

/-- `nameComponentRegexp` -/
def nameComponentRegexp : RegularExpression UInt8 := alphaNumericRegexp * many (separatorRegexp * alphaNumericRegexp)

/-- The components of a path, with slashes between them. -/
def isPath (s : Str) : Bool := (s.splitOn slash).all nameComponentRegexp.rmatch

/-- `domainComponentRegexp`: letters, digits and dashes, no dash at an end. -/
def isDomainComponent (w : Str) : Bool :=
  w.head?.any isAlphanumeric && w.getLast?.any isAlphanumeric && w.all fun b => b == dash || isAlphanumeric b

/-- `DomainRegexp`: components with dots between them, and a port. -/
def isDomain (s : Str) : Bool :=
  match cut colon s with
  | none => (s.splitOn dot).all isDomainComponent
  | some (host, port) => (host.splitOn dot).all isDomainComponent && port ≠ [] && port.all isDigit

/-- `\w` -/
def isWord (b : UInt8) : Bool := isAlphanumeric b || b == underscore

/-- `TagRegexp`: `[\w][\w.-]{0,127}`. -/
def isTag (t : Str) : Bool :=
  t.head?.any isWord && t.all (fun b => isWord b || b == dot || b == dash) && t.length ≤ 128

/-- The algorithms of digests, with the number of digits. -/
def algorithms : List (Str × Nat) := [(str "sha256", 64), (str "sha384", 96), (str "sha512", 128)]

/-- `digest.Parse` finds nothing wrong. -/
def isDigest (d : Str) : Bool :=
  match cut colon d with
  | none => false
  | some (algorithm, encoded) =>
    (algorithm, encoded.length) ∈ algorithms && encoded.all fun b => (97 ≤ b && b ≤ 102) || isDigit b

/-! ## 2. `Parse` -/

/-- A reference: `domain` with its port, or empty. -/
structure Reference where
  domain : Str
  path : Str
  tag : Option Str
  digest : Option Str
  deriving DecidableEq

/-- `NameTotalLengthMax` -/
def nameTotalLengthMax : Nat := 255

/-- A name is a domain and a path, where both are of the grammar, or a path. -/
def parseName (name : Str) : Option (Str × Str) :=
  match cut slash name with
  | none => if isPath name then some ([], name) else none
  | some (first, rest) =>
    if isDomain first && isPath rest then some (first, rest) else if isPath name then some ([], name) else none

/-- The digest behind an at sign is taken off. -/
def cutDigest (s : Str) : Str × Option Str :=
  match cut atSign s with
  | none => (s, none)
  | some (front, digest) => (front, some digest)

/-- The tag behind the last colon is taken off, when it is none of a port. -/
def cutTag (s : Str) : Str × Option Str :=
  match cutLast colon s with
  | none => (s, none)
  | some (name, tag) => if slash ∈ tag then (s, none) else (name, some tag)

/-- `Parse` -/
def parse (s : Str) : Option Reference :=
  let (front, digest) := cutDigest s
  let (name, tag) := cutTag front
  match parseName name with
  | none => none
  | some (domain, path) =>
    if tag.all isTag && digest.all isDigest && name.length ≤ nameTotalLengthMax then some ⟨domain, path, tag, digest⟩
    else none

/-! ## 3. What a reference is written as -/

/-- `Name` -/
def Reference.name (r : Reference) : Str := if r.domain = [] then r.path else r.domain ++ slash :: r.path

/-- The tag, with its colon. -/
def tagText : Option Str → Str
  | none => []
  | some tag => colon :: tag

/-- The digest, with its at sign. -/
def digestText : Option Str → Str
  | none => []
  | some digest => atSign :: digest

/-- `String` -/
def Reference.text (r : Reference) : Str := r.name ++ tagText r.tag ++ digestText r.digest

/-- The parts are of the grammar. -/
structure Reference.Formed (r : Reference) : Prop where
  name : parseName r.name = some (r.domain, r.path)
  tag : ∀ tag ∈ r.tag, isTag tag = true
  digest : ∀ digest ∈ r.digest, isDigest digest = true

/-- And the name is not too long. -/
structure Reference.Valid (r : Reference) : Prop extends r.Formed where
  length : r.name.length ≤ nameTotalLengthMax

variable {s t name : Str} {r : Reference}

/-! ## 4. Bytes -/

/-- The bytes of a path. -/
theorem isPath_bytes (h : isPath s = true) {b : UInt8} (hb : b ∈ s) :
    b = slash ∨ b ∈ Regex.symbols nameComponentRegexp := by
  by_cases hslash : b = slash
  · exact Or.inl hslash
  · obtain ⟨piece, hpiece, hmem⟩ := Fields.exists_piece_of_mem hb hslash
    have hmatch := List.all_eq_true.mp h piece hpiece
    rw [RegularExpression.rmatch_iff_matches'] at hmatch
    exact Or.inr (Regex.mem_symbols hmatch b hmem)

theorem colon_not_mem_path (h : isPath s = true) : colon ∉ s := by
  intro hmem
  rcases isPath_bytes h hmem with heq | hsymbol
  · exact absurd heq (by decide)
  · exact absurd hsymbol (by decide +kernel)

theorem atSign_not_mem_path (h : isPath s = true) : atSign ∉ s := by
  intro hmem
  rcases isPath_bytes h hmem with heq | hsymbol
  · exact absurd heq (by decide)
  · exact absurd hsymbol (by decide +kernel)

/-- The bytes of a domain. -/
theorem isDomain_bytes (h : isDomain s = true) {b : UInt8} (hb : b ∈ s) :
    b = dash ∨ b = dot ∨ b = colon ∨ isAlphanumeric b = true := by
  have hhost {host : Str} (hhost : (host.splitOn dot).all isDomainComponent = true) (hb : b ∈ host) :
      b = dash ∨ b = dot ∨ b = colon ∨ isAlphanumeric b = true := by
    by_cases hdot : b = dot
    · exact Or.inr (Or.inl hdot)
    · obtain ⟨piece, hpiece, hmem⟩ := Fields.exists_piece_of_mem hb hdot
      have hcomponent := List.all_eq_true.mp hhost piece hpiece
      have hall := List.all_eq_true.mp (Bool.and_eq_true_iff.mp hcomponent).2 b hmem
      rw [Bool.or_eq_true, beq_iff_eq] at hall
      exact hall.imp_right fun h => Or.inr (Or.inr h)
  unfold isDomain at h
  split at h
  · exact hhost h hb
  · rename_i host port hcut
    obtain ⟨_, rfl⟩ := cut_eq_some.mp hcut
    rw [Bool.and_eq_true, Bool.and_eq_true] at h
    rcases List.mem_append.mp hb with hb | hb
    · exact hhost h.1.1 hb
    · rcases List.mem_cons.mp hb with heq | hb
      · exact Or.inr (Or.inr (Or.inl heq))
      · have hdigit := List.all_eq_true.mp h.2 b hb
        exact Or.inr (Or.inr (Or.inr (by grind [isDigit, isAlphanumeric])))

theorem isTag_bytes (h : isTag t = true) : ∀ b ∈ t, isWord b = true ∨ b = dot ∨ b = dash := by
  intro b hb
  have hall := List.all_eq_true.mp (Bool.and_eq_true_iff.mp (Bool.and_eq_true_iff.mp h).1).2 b hb
  rw [Bool.or_eq_true, Bool.or_eq_true, beq_iff_eq, beq_iff_eq, or_assoc] at hall
  exact hall

/-- A tag has no separator of references. -/
theorem not_mem_tag (h : isTag t = true) : colon ∉ t ∧ slash ∉ t ∧ atSign ∉ t := by
  have hnot {b : UInt8} (hb : ¬ (isWord b = true ∨ b = dot ∨ b = dash)) : b ∉ t := fun hmem => hb (isTag_bytes h b hmem)
  exact ⟨hnot (by decide), hnot (by decide), hnot (by decide)⟩

/-! ## 5. Names -/

theorem isDomain_ne_nil (h : isDomain s = true) : s ≠ [] := by
  intro hnil
  rw [hnil] at h
  cases h

/-- **What is read from a name** is written as the name. -/
theorem parseName_eq_some {domain path : Str} (h : parseName name = some (domain, path)) :
    (domain = [] ∧ name = path ∧ isPath path = true) ∨
      (name = domain ++ slash :: path ∧ isDomain domain = true ∧ isPath path = true) := by
  have hwhole (h : (if isPath name then some (([] : Str), name) else none) = some (domain, path)) :
      domain = [] ∧ name = path ∧ isPath path = true := by
    obtain ⟨hpath, heq⟩ := Option.ite_none_right_eq_some.mp h
    obtain ⟨rfl, rfl⟩ := Prod.mk.inj (Option.some.inj heq)
    exact ⟨rfl, rfl, hpath⟩
  unfold parseName at h
  split at h
  · exact Or.inl (hwhole h)
  · rename_i first rest hcut
    split at h
    · rename_i hboth
      obtain ⟨rfl, rfl⟩ := Prod.mk.inj (Option.some.inj h)
      rw [Bool.and_eq_true] at hboth
      exact Or.inr ⟨(cut_eq_some.mp hcut).2, hboth⟩
    · exact Or.inl (hwhole h)

theorem name_of_parseName (h : parseName name = some (r.domain, r.path)) : r.name = name := by
  unfold Reference.name
  rcases parseName_eq_some h with ⟨hdomain, hname, _⟩ | ⟨hname, hdomain, _⟩
  · rw [if_pos hdomain, hname]
  · rw [if_neg (isDomain_ne_nil hdomain), hname]

/-- The name has no at sign. -/
theorem Reference.Formed.atSign_not_mem (h : r.Formed) : atSign ∉ r.name := by
  rcases parseName_eq_some h.name with ⟨_, hname, hpath⟩ | ⟨hname, hdomain, hpath⟩
  · rw [hname]
    exact atSign_not_mem_path hpath
  · rw [hname]
    intro hmem
    rcases List.mem_append.mp hmem with hmem | hmem
    · exact absurd (isDomain_bytes hdomain hmem) (by decide)
    · rcases List.mem_cons.mp hmem with heq | hmem
      · exact absurd heq (by decide)
      · exact atSign_not_mem_path hpath hmem

/-- The colon of a name is that of a port. -/
theorem Reference.Formed.slash_of_colon (h : r.Formed) {front back : Str} (hname : r.name = front ++ colon :: back) :
    slash ∈ back := by
  by_contra hslash
  rcases parseName_eq_some h.name with ⟨_, hwhole, hpath⟩ | ⟨hwhole, _, hpath⟩
  · rw [hname] at hwhole
    exact colon_not_mem_path hpath (hwhole ▸ List.mem_append_right _ List.mem_cons_self)
  · rw [hname] at hwhole
    rcases List.append_eq_append_iff.mp hwhole with ⟨middle, _, hback⟩ | ⟨middle, _, hback⟩
    · have hmem : slash ∈ colon :: back := hback ▸ List.mem_append_right _ List.mem_cons_self
      rcases List.mem_cons.mp hmem with heq | hmem
      · exact absurd heq (by decide)
      · exact hslash hmem
    · have hmem : colon ∈ slash :: r.path := hback ▸ List.mem_append_right _ List.mem_cons_self
      rcases List.mem_cons.mp hmem with heq | hmem
      · exact absurd heq (by decide)
      · exact colon_not_mem_path hpath hmem

/-! ## 6. References -/

theorem cutDigest_text (h : atSign ∉ s) (digest : Option Str) : cutDigest (s ++ digestText digest) = (s, digest) := by
  unfold cutDigest
  cases digest with
  | none => rw [digestText, List.append_nil, cut_eq_none.mpr h]
  | some digest => rw [digestText, cut_eq_some.mpr ⟨h, rfl⟩]

theorem cutTag_text (h : r.Formed) : cutTag (r.name ++ tagText r.tag) = (r.name, r.tag) := by
  unfold cutTag
  cases htag : r.tag with
  | none =>
      rw [tagText, List.append_nil]
      cases hcut : cutLast colon r.name with
      | none => rfl
      | some halves =>
          obtain ⟨front, back⟩ := halves
          dsimp only
          rw [if_pos (h.slash_of_colon (cutLast_eq_some.mp hcut).2)]
  | some tag =>
      obtain ⟨hcolon, hslash, _⟩ := not_mem_tag (h.tag tag htag)
      rw [tagText, cutLast_eq_some.mpr ⟨hcolon, rfl⟩]
      dsimp only
      rw [if_neg hslash]

theorem atSign_not_mem_front (h : r.Formed) : atSign ∉ r.name ++ tagText r.tag := by
  intro hmem
  rcases List.mem_append.mp hmem with hmem | hmem
  · exact h.atSign_not_mem hmem
  · cases htag : r.tag with
    | none =>
        rw [htag] at hmem
        exact absurd hmem List.not_mem_nil
    | some tag =>
        rw [htag] at hmem
        rcases List.mem_cons.mp hmem with heq | hmem
        · exact absurd heq (by decide)
        · exact (not_mem_tag (h.tag tag htag)).2.2 hmem

/-- **What is written is read back**, when the name is not too long. -/
theorem Reference.Formed.parse_text (h : r.Formed) :
    parse r.text = if r.name.length ≤ nameTotalLengthMax then some r else none := by
  have htag : r.tag.all isTag = true := by
    rw [Option.all_eq_true]
    exact h.tag
  have hdigest : r.digest.all isDigest = true := by
    rw [Option.all_eq_true]
    exact h.digest
  unfold parse Reference.text
  rw [cutDigest_text (atSign_not_mem_front h)]
  dsimp only
  rw [cutTag_text h]
  dsimp only
  rw [h.name]
  dsimp only
  rw [htag, hdigest, Bool.true_and, Bool.true_and]
  by_cases hlength : r.name.length ≤ nameTotalLengthMax
  · rw [decide_eq_true hlength, if_pos rfl, if_pos hlength]
  · rw [decide_eq_false hlength, if_neg hlength]
    rfl

theorem Reference.Valid.parse_text (h : r.Valid) : parse r.text = some r := by
  rw [h.toFormed.parse_text, if_pos h.length]

/-- **What is read is written back.** -/
theorem parse_eq_some : parse s = some r ↔ r.Valid ∧ s = r.text := by
  constructor
  · intro h
    unfold parse at h
    have hdigest : s = (cutDigest s).1 ++ digestText (cutDigest s).2 := by
      unfold cutDigest
      split
      · exact (List.append_nil _).symm
      · rename_i hcut
        exact (cut_eq_some.mp hcut).2
    have htag (s : Str) : s = (cutTag s).1 ++ tagText (cutTag s).2 := by
      unfold cutTag
      split
      · exact (List.append_nil _).symm
      · rename_i hcut
        split
        · exact (List.append_nil _).symm
        · exact (cutLast_eq_some.mp hcut).2
    dsimp only at h
    split at h
    · cases h
    · rename_i domain path hname
      obtain ⟨hall, heq⟩ := Option.ite_none_right_eq_some.mp h
      obtain rfl := Option.some.inj heq
      rw [Bool.and_eq_true, Bool.and_eq_true, decide_eq_true_iff, Option.all_eq_true, Option.all_eq_true] at hall
      have hname' := name_of_parseName (r := ⟨domain, path, (cutTag (cutDigest s).1).2, (cutDigest s).2⟩) hname
      refine ⟨⟨⟨hname'.symm ▸ hname, hall.1.1, hall.1.2⟩, hname'.symm ▸ hall.2⟩, ?_⟩
      rw [Reference.text, hname', ← htag, ← hdigest]
  · intro ⟨hvalid, hs⟩
    rw [hs, hvalid.parse_text]

end Kalm.Images
