/-
  File:      Kalm/Frontend/Agreement.lean
  Subject:   DASHBOARD AND API SERVER: one policy in two encodings.

  Both programs work on units -- bytes here, 16-bit units there -- and split, trim and compare. UTF-8
  and UTF-16 being self-synchronising (Codes.lean), each does to the units what it would do to the
  code points, so both are compared through the texts (lists of code points) they stand for.

  * `TextLine`, `textPolicy` -- the lines of the partial policy as texts;
  * `jsLoadPolicy_text` -- the dashboard loads the lines' fields, where its `trim` leaves them alone;
  * `jsEnforce_text` -- on such rules both enforcers decide alike.
-/
import Kalm.Frontend.Login

namespace Kalm

/-! ## 1. The lines as texts -/

/-- A text: Unicode code points. -/
abbrev Text := List Char

/-- A line of the partial policy. -/
inductive TextLine where
  | p (fields : List Text)
  | g (fields : List Text)

/-- The fields of a line. -/
def TextLine.fields : TextLine → List Text
  | .p fields => fields
  | .g fields => fields

/-- The key of a line. -/
def TextLine.key : TextLine → Text
  | .p _ => ['p']
  | .g _ => ['g']

/-- The line as the server builds it. -/
def TextLine.toLine : TextLine → PolicyLine
  | .p fields => .p (fields.map utf8.flat)
  | .g fields => .g (fields.map utf8.flat)

/-- The line as a text. -/
def TextLine.text (l : TextLine) : Text :=
  [','].intercalate (l.key :: l.fields.map (fun f => ' ' :: f))

/-- The text of the lines. -/
def textPolicy (lines : List TextLine) : Text := ['\n'].intercalate (lines.map TextLine.text)

/-- The lines' rules in the dashboard. -/
def jsRules (lines : List TextLine) : JsPolicy where
  p := lines.filterMap fun l => match l with
    | .p fields => some (fields.map utf16.flat)
    | .g _ => none
  g := lines.filterMap fun l => match l with
    | .g fields => some (fields.map utf16.flat)
    | .p _ => none

theorem utf8_comma : utf8.enc ',' = [comma] := by decide

theorem utf8_newline : utf8.enc '\n' = [newline] := by decide

theorem utf8_star : utf8.enc '*' = [star] := by decide

theorem utf16_comma : utf16.enc ',' = [44] := by decide

theorem utf16_newline : utf16.enc '\n' = [10] := by decide

theorem utf16_star : utf16.enc '*' = [42] := by decide

theorem utf8_text (l : TextLine) : utf8.flat l.text = l.toLine.render := by
  have hrow : ∀ (key : Text) (fields : List Text),
      utf8.flat ([','].intercalate (key :: fields.map (fun f => ' ' :: f))) =
        sprintfRow (utf8.flat key) (fields.map utf8.flat) := by
    intro key fields
    rw [Code.flat_intercalate, Code.flat_singleton, utf8_comma, sprintfRow, List.map_cons,
      List.map_map, List.map_map]
    congr 2
  cases l with
  | p fields => exact hrow ['p'] fields
  | g fields => exact hrow ['g'] fields

theorem utf8_textPolicy (lines : List TextLine) : utf8.flat (textPolicy lines) =
    [newline].intercalate ((lines.map TextLine.toLine).map PolicyLine.render) := by
  rw [textPolicy, Code.flat_intercalate, Code.flat_singleton, utf8_newline, List.map_map, List.map_map]
  congr 1
  exact List.map_congr_left fun l _ => utf8_text l

/-! ## 2. What the dashboard reads -/

/-- A field both sides read as it is: no separator, and nothing either side trims. -/
structure ReadAlike (f : Text) : Prop where
  noComma : ',' ∉ f
  noNewline : '\n' ∉ f
  trimmed : Fields.Trimmed jsBlanks f

theorem nil_not_mem_jsBlanks : [] ∉ jsBlanks := by decide

/-- `String.prototype.trim` works code point by code point. -/
theorem jsTrim_flat (t : Text) : jsTrim (utf16.flat t) = utf16.flat (Fields.trim jsBlanks t) :=
  utf16.flat_trim nil_not_mem_jsBlanks t

theorem trim_space_cons {f : Text} (h : Fields.Trimmed jsBlanks f) :
    Fields.trim jsBlanks (' ' :: f) = f := by
  rw [Fields.trim_cons_blank (by decide) (by decide) nil_not_mem_jsBlanks,
    Fields.trim_of_trimmed h]

theorem splitOn_text {l : TextLine} (h : ∀ f ∈ l.fields, ReadAlike f) :
    l.text.splitOn ',' = l.key :: l.fields.map (fun f => ' ' :: f) := by
  refine List.splitOn_intercalate ',' ?_ (List.cons_ne_nil _ _)
  intro t ht
  rcases List.mem_cons.mp ht with rfl | ht
  · cases l with
    | p fields => exact (by decide : ',' ∉ ['p'])
    | g fields => exact (by decide : ',' ∉ ['g'])
  · obtain ⟨f, hf, rfl⟩ := List.mem_map.mp ht
    rw [List.mem_cons, not_or]
    exact ⟨by decide, (h f hf).noComma⟩

theorem newline_not_mem_text {l : TextLine} (h : ∀ f ∈ l.fields, ReadAlike f) : '\n' ∉ l.text := by
  intro hn
  have hmem : newline ∈ utf8.flat l.text := (utf8.mem_flat_iff utf8_newline).mpr hn
  rw [utf8_text] at hmem
  have hfields : ∀ f ∈ l.fields.map utf8.flat, newline ∉ f := by
    intro f hf
    obtain ⟨t, ht, rfl⟩ := List.mem_map.mp hf
    exact fun hm => (h t ht).noNewline ((utf8.mem_flat_iff utf8_newline).mp hm)
  cases l with
  | p fields => exact newline_not_mem_sprintfRow (by decide) hfields hmem
  | g fields => exact newline_not_mem_sprintfRow (by decide) hfields hmem

/-- **The dashboard reads a line's fields.** -/
theorem loadPolicyLine_text {l : TextLine} (h : ∀ f ∈ l.fields, ReadAlike f) :
    loadPolicyLine (utf16.flat l.text) = match l with
      | .p fields => .p (fields.map utf16.flat)
      | .g fields => .g (fields.map utf16.flat) := by
  have htokens : ((utf16.flat l.text).splitOn 44).map jsTrim =
      utf16.flat l.key :: l.fields.map utf16.flat := by
    rw [utf16.flat_splitOn utf16_comma, splitOn_text h, List.map_map, List.map_cons, List.map_map]
    congr 1
    · rw [Function.comp, jsTrim_flat]
      cases l <;> rfl
    · refine List.map_congr_left fun f hf => ?_
      rw [Function.comp, Function.comp, jsTrim_flat, trim_space_cons (h f hf).trimmed]
  have hhead : ∃ c t, l.text = c :: t ∧ (c = 'p' ∨ c = 'g') := by
    unfold TextLine.text
    cases l with
    | p fields => cases fields <;> exact ⟨_, _, rfl, Or.inl rfl⟩
    | g fields => cases fields <;> exact ⟨_, _, rfl, Or.inr rfl⟩
  obtain ⟨c, t, htext, hc⟩ := hhead
  have hline : ¬ (jsTrim (utf16.flat l.text) = [] ∨ (utf16.flat l.text).head? = some 35) := by
    rw [not_or]
    constructor
    · intro e
      rw [jsTrim_flat] at e
      have hmem : c ∈ Fields.trim jsBlanks l.text := by
        refine Fields.mem_trim ?_ (by rw [htext]; exact List.mem_cons_self)
        rcases hc with rfl | rfl <;> decide
      rw [utf16.flat_eq_nil.mp e] at hmem
      exact absurd hmem List.not_mem_nil
    · rw [htext, Code.flat_cons]
      rcases hc with rfl | rfl <;> exact fun e => absurd (Option.some.inj e) (by decide)
  unfold loadPolicyLine
  rw [if_neg hline, htokens]
  cases l with
  | p fields =>
      have hk : utf16.flat (TextLine.p fields).key = jstr "p" := rfl
      simp only [hk, if_true, TextLine.fields]
  | g fields =>
      have hk : utf16.flat (TextLine.g fields).key = jstr "g" := rfl
      have hne : jstr "g" ≠ jstr "p" := by decide
      simp only [hk, hne, if_true, if_false, TextLine.fields]

/-- **The dashboard loads the lines' rules.** -/
theorem jsLoadPolicy_text {lines : List TextLine} (h : ∀ l ∈ lines, ∀ f ∈ l.fields, ReadAlike f) :
    jsLoadPolicy (utf16.flat (textPolicy lines)) = jsRules lines := by
  cases lines with
  | nil => decide
  | cons l lines =>
      have hsplit : (utf16.flat (textPolicy (l :: lines))).splitOn 10 =
          (l :: lines).map (fun l => utf16.flat l.text) := by
        rw [utf16.flat_splitOn utf16_newline, textPolicy, List.splitOn_intercalate '\n' ?_ (by simp),
          List.map_map]
        · rfl
        · intro t ht
          obtain ⟨k, hk, rfl⟩ := List.mem_map.mp ht
          exact newline_not_mem_text (h k hk)
      unfold jsLoadPolicy jsRules
      rw [hsplit, List.filterMap_map, List.filterMap_map]
      congr 1
      · refine List.filterMap_congr fun k hk => ?_
        rw [Function.comp, loadPolicyLine_text (h k hk)]
        cases k <;> rfl
      · refine List.filterMap_congr fun k hk => ?_
        rw [Function.comp, loadPolicyLine_text (h k hk)]
        cases k <;> rfl

/-! ## 3. The same decisions -/

/-- The lines' rules in the server. -/
def byteRules (lines : List TextLine) : PolicySet := ruleSet (lines.map TextLine.toLine)

/-- The p-rules of the lines, as texts. -/
def textP (lines : List TextLine) : List (List Text) :=
  lines.filterMap fun l => match l with
    | .p fields => some fields
    | .g _ => none

theorem byteRules_p (lines : List TextLine) :
    (byteRules lines).p = (textP lines).map (fun fields => fields.map utf8.flat) := by
  unfold byteRules ruleSet textP
  rw [List.filterMap_map, List.map_filterMap]
  refine List.filterMap_congr fun l _ => ?_
  cases l <;> rfl

theorem jsRules_p (lines : List TextLine) :
    (jsRules lines).p = (textP lines).map (fun fields => fields.map utf16.flat) := by
  unfold jsRules textP
  rw [List.map_filterMap]
  refine List.filterMap_congr fun l _ => ?_
  cases l <;> rfl

/-- A g-line links two texts. -/
def TextLink (lines : List TextLine) (x y : Text) : Prop := ∃ rest, TextLine.g (x :: y :: rest) ∈ lines

theorem mem_byteRules_links {lines : List TextLine} {a b : Str} :
    (a, b) ∈ (byteRules lines).links ↔
      ∃ x y, TextLink lines x y ∧ a = utf8.flat x ∧ b = utf8.flat y := by
  rw [mem_links]
  simp only [byteRules, mem_ruleSet_g, List.mem_map]
  constructor
  · intro h
    obtain ⟨rest, l, hl, e⟩ := h
    rcases l with psub | (_ | ⟨x, _ | ⟨y, fields⟩⟩)
    · cases e
    · cases e
    · cases e
    · simp only [TextLine.toLine, List.map_cons, PolicyLine.g.injEq, List.cons.injEq] at e
      exact ⟨x, y, ⟨fields, hl⟩, e.1.symm, e.2.1.symm⟩
  · intro h
    obtain ⟨x, y, ⟨fields, hl⟩, rfl, rfl⟩ := h
    exact ⟨fields.map utf8.flat, _, hl, rfl⟩

theorem mem_jsRules_links {lines : List TextLine} {a b : JsStr} :
    (a, b) ∈ (jsRules lines).links ↔
      ∃ x y, TextLink lines x y ∧ a = utf16.flat x ∧ b = utf16.flat y := by
  rw [mem_jsLinks]
  simp only [jsRules, List.mem_filterMap]
  constructor
  · rintro ⟨rest, l, hl, e⟩
    match l, hl, e with
    | .g (x :: y :: fields), hl, e =>
        simp only [List.map_cons, Option.some.injEq, List.cons.injEq] at e
        exact ⟨x, y, ⟨fields, hl⟩, e.1.symm, e.2.1.symm⟩
  · rintro ⟨x, y, ⟨fields, hl⟩, rfl, rfl⟩
    exact ⟨fields.map utf16.flat, _, hl, rfl⟩

/-- Every name a subject inherits is one link away. -/
def Flattened (P : PolicySet) (s : Str) : Prop :=
  ∀ y ∈ Reach.reach P.links s, y = s ∨ (s, y) ∈ P.links

/-- **Where the links are flat, ten levels are enough**: the dashboard finds the names the links lead to. -/
theorem hasLink_text {lines : List TextLine} {s : Text}
    (hflat : Flattened (byteRules lines) (utf8.flat s)) (y : Text) :
    hasLink (jsRules lines).links (utf16.flat s) (utf16.flat y) =
      (byteRules lines).hasLink (byteRules lines).links.length (utf8.flat s) (utf8.flat y) := by
  refine Bool.eq_iff_iff.mpr ?_
  rw [PolicySet.hasLink, List.contains_iff_mem]
  constructor
  · intro h
    have hin : ∃ z, utf16.flat y = utf16.flat z ∧
        utf8.flat z ∈ Reach.reach (byteRules lines).links (utf8.flat s) := by
      refine hasLink_closed (S := fun v => ∃ z, v = utf16.flat z ∧
        utf8.flat z ∈ Reach.reach (byteRules lines).links (utf8.flat s)) ?_
        ⟨s, rfl, Reach.self_mem_reach _ _⟩ h
      rintro a b ⟨z, rfl, hz⟩ hl
      obtain ⟨x, w, hxw, ex, rfl⟩ := mem_jsRules_links.mp hl
      rw [utf16.flat_inj] at ex
      subst ex
      refine ⟨w, rfl, Reach.mem_reach_trans hz (Reach.mem_reach_of_link ?_)⟩
      exact mem_byteRules_links.mpr ⟨_, w, hxw, rfl, rfl⟩
    obtain ⟨z, e, hz⟩ := hin
    rw [utf16.flat_inj] at e
    rwa [e]
  · intro h
    rcases hflat _ h with e | hl
    · rw [utf8.flat_inj] at e
      rw [e]
      exact hasLink_self _ _
    · obtain ⟨x, w, hxw, ex, ew⟩ := mem_byteRules_links.mp hl
      rw [utf8.flat_inj] at ex ew
      subst ex ew
      exact hasLink_of_link (mem_jsRules_links.mpr ⟨s, y, hxw, rfl, rfl⟩)

theorem beq_text (a b : Text) :
    (utf16.flat a == utf16.flat b) = (utf8.flat a == utf8.flat b) := by
  refine Bool.eq_iff_iff.mpr ?_
  rw [beq_iff_eq, beq_iff_eq, utf16.flat_inj, utf8.flat_inj]

/-- **Prefix patterns over units of either kind match alike.** -/
theorem objMatch_text (a b : Text) :
    jsObjMatch (utf16.flat a) (utf16.flat b) = objMatch (utf8.flat a) (utf8.flat b) := by
  refine Bool.eq_iff_iff.mpr ?_
  rw [jsObjMatch, Wildcard.prefixMatch_iff, utf16.flat_matches utf16_star, objMatch_iff,
    utf8.flat_matches utf8_star]

/-- One rule of four fields is matched alike. -/
theorem matcher_text {lines : List TextLine} {s : Text}
    (hflat : Flattened (byteRules lines) (utf8.flat s)) (act scope obj psub pact pscope pobj : Text) :
    jsMatcher (jsRules lines).links (utf16.flat s) (utf16.flat act) (utf16.flat scope)
        (utf16.flat obj) ([psub, pact, pscope, pobj].map utf16.flat) =
      (byteRules lines).matcher (byteRules lines).links.length (utf8.flat s) (utf8.flat act) (utf8.flat scope)
        (utf8.flat obj) ([psub, pact, pscope, pobj].map utf8.flat) := by
  have hstar : (utf16.flat pscope == [42]) = (utf8.flat pscope == [star]) := by
    have h := beq_text pscope ['*']
    rwa [Code.flat_singleton, Code.flat_singleton, utf16_star, utf8_star] at h
  simp only [List.map_cons, List.map_nil, jsMatcher, PolicySet.matcher, List.headD_cons,
    hasLink_text hflat, beq_text, hstar, objMatch_text]

/-- **On well-formed rules with flat links both enforcers decide alike.** -/
theorem jsEnforce_text {lines : List TextLine} (hw : (byteRules lines).WellFormed) {s : Text}
    (hflat : Flattened (byteRules lines) (utf8.flat s)) (act scope obj : Text) :
    jsEnforce (jsRules lines) (utf16.flat s) (utf16.flat act) (utf16.flat scope) (utf16.flat obj) =
      enforceClosure (byteRules lines) (utf8.flat s) (utf8.flat act) (utf8.flat scope) (utf8.flat obj) := by
  have hmatch : ∀ fields ∈ textP lines,
      jsMatcher (jsRules lines).links (utf16.flat s) (utf16.flat act) (utf16.flat scope)
          (utf16.flat obj) (fields.map utf16.flat) =
        (byteRules lines).matcher (byteRules lines).links.length (utf8.flat s) (utf8.flat act) (utf8.flat scope)
          (utf8.flat obj) (fields.map utf8.flat) := by
    intro fields hf
    have hlen : (fields.map utf8.flat).length = 4 := by
      refine hw _ ?_
      rw [byteRules_p]
      exact List.mem_map_of_mem hf
    rw [List.length_map] at hlen
    match fields, hlen with
    | [psub, pact, pscope, pobj], _ => exact matcher_text hflat act scope obj psub pact pscope pobj
  have hnil : (jsRules lines).p = [] ↔ (byteRules lines).p = [] := by
    rw [jsRules_p, byteRules_p, List.map_eq_nil_iff, List.map_eq_nil_iff]
  unfold jsEnforce enforceClosure enforceWithin casbinEnforce PolicySet.evaluated
  rw [if_pos hw, Option.getD_some]
  by_cases hp : (byteRules lines).p = []
  · rw [if_pos hp, if_pos (hnil.mpr hp), List.any_cons, List.any_nil, Bool.or_false]
    exact matcher_text hflat act scope obj [] [] [] []
  · rw [if_neg hp, if_neg fun h => hp (hnil.mp h), byteRules_p, jsRules_p, List.any_map, List.any_map]
    refine Bool.eq_iff_iff.mpr ?_
    rw [List.any_eq_true, List.any_eq_true]
    refine exists_congr fun fields => and_congr_right fun hf => ?_
    rw [Function.comp, Function.comp, hmatch fields hf]

end Kalm
