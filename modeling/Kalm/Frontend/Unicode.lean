/-
  File:      Kalm/Frontend/Unicode.lean
  Subject:   UNICODE STRINGS: the strings of API objects are Unicode texts, and so is every field of the
             rules loaded for them.

  * `IsUtf8` (Utf8.lean) is kept by splitting and trimming;
  * `UnicodeObjects` -- objects whose free strings are texts;
  * `unicodeRules_of_loadPolicy` -- the fields of the loaded rules are texts.
-/
import Kalm.Frontend.Agreement
import Kalm.Go.Utf8

namespace Kalm

/-! ## 1. Bytes of a text -/

/-- ASCII bytes are texts. -/
theorem isUtf8_of_graphic {s : Str} (h : Graphic s) : IsUtf8 s :=
  isUtf8_of_ascii fun b hb => UInt8.lt_of_le_of_lt (h b hb).2 (by decide)

/-- A piece of a text is a text. -/
theorem isUtf8_of_mem_splitOn {c : Char} {u : UInt8} (hc : utf8.enc c = [u]) {s piece : Str}
    (hs : IsUtf8 s) (h : piece ∈ s.splitOn u) : IsUtf8 piece := by
  obtain ⟨t, rfl⟩ := hs
  rw [utf8.flat_splitOn hc] at h
  obtain ⟨p, _, rfl⟩ := List.mem_map.mp h
  exact isUtf8_flat p

/-- A trimmed text is a text. -/
theorem isUtf8_trimSpace {s : Str} (hs : IsUtf8 s) : IsUtf8 (trimSpace s) := by
  obtain ⟨t, rfl⟩ := hs
  have hne : [] ∉ isSpaceTable.map (fun c => [c]) := by decide
  exact ⟨_, (utf8.flat_trim hne t).symm⟩

theorem isUtf8_sprintfRow {key : Str} {fields : List Str} (hk : IsUtf8 key)
    (hf : ∀ f ∈ fields, IsUtf8 f) : IsUtf8 (sprintfRow key fields) := by
  obtain ⟨k, rfl⟩ := hk
  obtain ⟨ts, rfl⟩ := utf8.exists_map_flat hf
  refine ⟨[','].intercalate (k :: ts.map (fun f => ' ' :: f)), ?_⟩
  rw [Code.flat_intercalate, Code.flat_singleton, utf8_comma, sprintfRow, List.map_cons,
    List.map_map, List.map_map]
  rfl

/-- Every string of a line is a text. -/
def PolicyLine.Unicode : PolicyLine → Prop
  | .blank => True
  | .comment text => IsUtf8 text
  | .p fields => ∀ f ∈ fields, IsUtf8 f
  | .g fields => ∀ f ∈ fields, IsUtf8 f

theorem isUtf8_renderLines {lines : List PolicyLine} (h : ∀ l ∈ lines, l.Unicode) :
    IsUtf8 (renderLines lines) := by
  induction lines with
  | nil => exact isUtf8_nil
  | cons l lines ih =>
      have hl : IsUtf8 l.render := by
        have hu := h l List.mem_cons_self
        cases l with
        | blank => exact isUtf8_nil
        | comment text => exact IsUtf8.append (s := [hash]) (isUtf8_str "#") hu
        | p fields => exact isUtf8_sprintfRow (isUtf8_str "p") hu
        | g fields => exact isUtf8_sprintfRow (isUtf8_str "g") hu
      rw [renderLines, List.map_cons, Fields.unlines_cons]
      refine hl.append (IsUtf8.append (s := [newline]) (isUtf8_str "\n") ?_)
      exact ih fun k hk => h k (List.mem_cons_of_mem _ hk)

/-! ## 2. Loaded rules -/

/-- Every field of the rules is a text. -/
def UnicodeRules (P : PolicySet) : Prop :=
  (∀ rule ∈ P.p, ∀ f ∈ rule, IsUtf8 f) ∧ ∀ rule ∈ P.g, ∀ f ∈ rule, IsUtf8 f

/-- **The fields of the rules loaded from a text are texts.** -/
theorem unicodeRules_of_loadPolicy {text : Str} (ht : IsUtf8 text) {P : PolicySet}
    (h : loadPolicy text = some P) : UnicodeRules P := by
  obtain ⟨hp, hg⟩ := mem_parseLines (loadPolicy_eq_some.mp h).1
  have key : ∀ line ∈ text.splitOn newline, ∀ rule,
      (parseLine line = some (.p rule) ∨ parseLine line = some (.g rule)) →
      ∀ f ∈ rule, IsUtf8 f := by
    intro line hl rule hr f hf
    obtain ⟨k, hk⟩ := fields_of_parseLine hr
    have hmem : f ∈ splitRow line := by
      rw [hk]
      exact List.mem_cons_of_mem _ hf
    obtain ⟨piece, hpiece, rfl⟩ := List.mem_map.mp hmem
    have hline := isUtf8_of_mem_splitOn utf8_newline ht hl
    exact isUtf8_trimSpace (isUtf8_of_mem_splitOn utf8_comma hline hpiece)
  refine ⟨fun rule hr => ?_, fun rule hr => ?_⟩
  · obtain ⟨line, hl, he⟩ := (hp rule).mp hr
    exact key line hl rule (Or.inl he)
  · obtain ⟨line, hl, he⟩ := (hg rule).mp hr
    exact key line hl rule (Or.inr he)

/-! ## 3. Objects -/

/-- Objects whose free strings are Unicode texts, as those of every API object are. -/
structure UnicodeObjects extends ManagerObjects where
  tokenName : ∀ t ∈ accessTokens, IsUtf8 t.name
  tokenRule : ∀ t ∈ accessTokens, ∀ rule ∈ t.spec.rules,
    IsUtf8 rule.ns ∧ IsUtf8 rule.kind ∧ IsUtf8 rule.name
  subject : ∀ b ∈ roleBindings, IsUtf8 b.spec.subject

theorem isUtf8_safeSubject {sub : Str} (h : IsUtf8 sub) (t : SubjectType) :
    IsUtf8 (safeSubject sub t) := by
  cases t with
  | user => exact (isUtf8_str "user-").append h
  | group => exact (isUtf8_str "group-").append h

theorem isUtf8_namespaceRole {name : Str} (h : IsUtf8 name) (suffix : String) :
    IsUtf8 (namespaceRole name (str suffix)) :=
  (isUtf8_str "role_").append (h.append (isUtf8_str suffix))

theorem isUtf8_roleValue (role : Role) (ns : DnsLabel) :
    IsUtf8 (roleValueToPolicyValue role ns.val) := by
  have hn := isUtf8_of_graphic (isLabelText_graphic ns.text)
  cases role with
  | viewer => exact isUtf8_namespaceRole hn "Viewer"
  | editor => exact isUtf8_namespaceRole hn "Editor"
  | owner => exact isUtf8_namespaceRole hn "Owner"
  | clusterViewer => exact isUtf8_str "role_clusterViewer"
  | clusterEditor => exact isUtf8_str "role_clusterEditor"
  | clusterOwner => exact isUtf8_str "role_clusterOwner"

theorem isUtf8_star : IsUtf8 [star] := isUtf8_str "*"

theorem buildClusterRolePolicies_unicode : ∀ l ∈ buildClusterRolePolicies, l.Unicode := by
  intro l hl
  simp only [buildClusterRolePolicies, List.mem_cons, List.not_mem_nil, or_false] at hl
  rcases hl with rfl | rfl | rfl | rfl | rfl | rfl | rfl <;>
    simp [PolicyLine.Unicode, isUtf8_str, isUtf8_star]

theorem namespaceRoleLines_unicode (n : DnsLabel) : ∀ l ∈ namespaceRoleLines n.val, l.Unicode := by
  have hn := isUtf8_of_graphic (isLabelText_graphic n.text)
  intro l hl
  simp only [namespaceRoleLines, List.mem_cons, List.not_mem_nil, or_false] at hl
  rcases hl with rfl | rfl | rfl | rfl | rfl | rfl | rfl | rfl | rfl
  all_goals simp [PolicyLine.Unicode, isUtf8_str, isUtf8_star, isUtf8_namespaceRole hn, hn]
  exact IsUtf8.append (s := [space]) (isUtf8_str " ") (hn.append (isUtf8_str _))

theorem isUtf8_obj {rule : AccessTokenRule} (hk : IsUtf8 rule.kind) (hn : IsUtf8 rule.name) :
    IsUtf8 rule.obj := by
  unfold AccessTokenRule.obj
  split
  · exact isUtf8_star
  · exact hk.append (IsUtf8.append (s := [slash]) (isUtf8_str "/") hn)

theorem isUtf8_verb (v : AccessTokenVerb) : IsUtf8 v.value := by
  cases v <;> exact isUtf8_str _

/-- **The lines written for Unicode objects are Unicode.** -/
theorem UnicodeObjects.policyLines_unicode (m : UnicodeObjects) {now : Int} :
    ∀ l ∈ policyLines now m.toManagerObjects, l.Unicode := by
  intro l hl
  rcases mem_policyLines.mp hl with h | ⟨a, _, _, h⟩ | ⟨t, ht, h⟩ | ⟨b, hb, h⟩
  · exact buildClusterRolePolicies_unicode l h
  · rw [buildRolePoliciesForNamespace_label] at h
    exact namespaceRoleLines_unicode a.name l h
  · rcases (mem_accessToken_policyLines.mp h).2 with rfl | ⟨fields, hf, rfl⟩
    · exact (isUtf8_str _).append (m.tokenName t ht)
    · obtain ⟨rule, hr, rfl⟩ := List.mem_map.mp hf
      obtain ⟨h1, h2, h3⟩ := m.tokenRule t ht rule hr
      simp [PolicyLine.Unicode, AccessTokenRule.policy, isUtf8_safeSubject (m.tokenName t ht),
        isUtf8_verb, h1, isUtf8_obj h2 h3]
  · rcases (mem_roleBinding_policyLines.mp h).2 with rfl | rfl
    · exact (isUtf8_str _).append (isUtf8_of_graphic b.name.graphic)
    · simp [PolicyLine.Unicode, RoleBinding.policy, isUtf8_safeSubject (m.subject b hb),
        isUtf8_roleValue]

/-- **The rules loaded for Unicode objects are Unicode.** -/
theorem UnicodeObjects.unicodeRules (m : UnicodeObjects) {now : Int} {P : PolicySet}
    (h : updatePolicies now m.toManagerObjects = some P) : UnicodeRules P :=
  unicodeRules_of_loadPolicy (isUtf8_renderLines m.policyLines_unicode) h

end Kalm
