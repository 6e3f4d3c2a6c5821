/-
  File:      Kalm/Frontend/Dashboard.lean
  Subject:   DASHBOARD AND API SERVER AGREE: when the closures of the dashboard answer what
             `BaseClientManager.Can` answers, for one client and every request.

  * `UnicodeClient` -- a client whose strings are texts, on both sides of the wire;
  * `NoBom` -- nothing that is printed for the client begins or ends with U+FEFF, the one code point
    the dashboard trims and the server does not;
  * `TenLinksSuffice` -- the server's role manager stops at ten links; the dashboard's policy is flat;
  * `dashboard_agrees_iff` -- then they agree if and only if the middleware gets through (the groups
    are not `null`, or the client is impersonated), the partial policy is safe (Partial.lean) and ten
    links suffice.
-/
import Kalm.Frontend.Unicode

namespace Kalm

/-! ## 1. Clients -/

/-- A client with Unicode strings. -/
structure UnicodeClient where
  email : Text
  groups : Option (List Text)
  impersonation : Text
  impersonationType : Text

/-- The client as the server has it. -/
def UnicodeClient.info (c : UnicodeClient) : ClientInfo where
  email := utf8.flat c.email
  groups := c.groups.map fun groups => groups.map utf8.flat
  impersonation := utf8.flat c.impersonation
  impersonationType := utf8.flat c.impersonationType

/-- `ToSafeSubject` on texts. -/
def textSafeSubject (sub type : Text) : Option Text :=
  if type = "user".toList then some ("user-".toList ++ sub)
  else if type = "group".toList then some ("group-".toList ++ sub)
  else none

/-- The subjects of a client, as texts. -/
def UnicodeClient.subjects (c : UnicodeClient) : Option (List Text) :=
  if c.impersonation ≠ [] then (textSafeSubject c.impersonation c.impersonationType).map fun s => [s]
  else some (("user-".toList ++ c.email) ::
    (c.groups.getD []).map fun group => "group-".toList ++ group)

/-- The middleware gets to `SET_AUTH_METHODS`: it maps over the groups unless it has a subject from
    the impersonation. -/
def UnicodeClient.HasSubjects (c : UnicodeClient) : Prop := c.groups ≠ none ∨ c.impersonation ≠ []

/-- A literal of the server's source, as a text. -/
theorem str_eq_flat (s : String) : str s = utf8.flat s.toList := rfl

/-- A literal of the dashboard's source, as a text. -/
theorem jstr_eq_flat (s : String) : jstr s = utf16.flat s.toList := rfl

theorem toSafeSubject_text (sub type : Text) : toSafeSubject (utf8.flat sub) (utf8.flat type) =
    (textSafeSubject sub type).map utf8.flat := by
  unfold toSafeSubject textSafeSubject
  simp only [str_eq_flat, utf8.flat_inj, ← Code.flat_append]
  split
  · rfl
  · split <;> rfl

theorem jsToSafeSubject_text (sub type : Text) :
    jsToSafeSubject (utf16.flat sub) (utf16.flat type) =
      (textSafeSubject sub type).map utf16.flat := by
  unfold jsToSafeSubject textSafeSubject
  simp only [jstr_eq_flat, utf16.flat_inj, ← Code.flat_append]
  split
  · rfl
  · split <;> rfl

theorem UnicodeClient.subjects_info (c : UnicodeClient) :
    c.info.subjects = c.subjects.map fun subjects => subjects.map utf8.flat := by
  unfold ClientInfo.subjects UnicodeClient.subjects info
  simp only [ne_eq, utf8.flat_eq_nil]
  split
  · rw [toSafeSubject_text, Option.map_map, Option.map_map]
    rfl
  · simp only [safeSubject, str_eq_flat, ← Code.flat_append]
    cases c.groups with
    | none => rfl
    | some groups =>
        simp only [Option.map_some, Option.getD_some, List.map_cons, List.map_map]
        rfl

/-- **The middleware has the server's subjects**, when it has any. -/
theorem jsSubjects_text (c : UnicodeClient) (hc : c.HasSubjects) (policies : Str) :
    jsSubjects (LoginStatus.toJs
      { email := c.info.email
        groups := c.info.groups
        impersonation := c.info.impersonation
        impersonationType := if c.info.impersonation ≠ [] then c.info.impersonationType else []
        policies := policies }) =
      c.subjects.map fun subjects => subjects.map utf16.flat := by
  unfold jsSubjects LoginStatus.toJs UnicodeClient.subjects UnicodeClient.info
  simp only [ne_eq, utf8.flat_eq_nil, jsString_flat, utf16.flat_eq_nil]
  by_cases hi : c.impersonation = []
  · simp only [hi, not_true_eq_false, if_false, Option.map_some, Option.map_map]
    have hg : c.groups ≠ none := hc.resolve_right (not_not.mpr hi)
    cases hgr : c.groups with
    | none => exact absurd hgr hg
    | some groups =>
        have hg' : groups.map ((fun group => utf16.flat "group-".toList ++ group) ∘ jsString ∘
            utf8.flat) = groups.map (utf16.flat ∘ fun group => "group-".toList ++ group) :=
          List.map_congr_left fun g _ => by
            simp only [Function.comp, jsString_flat, Code.flat_append]
        simp only [Function.comp_apply, Option.map_some, Option.getD_some, List.map_cons,
          List.map_map, jstr_eq_flat, Code.flat_append, hg']
  · simp only [hi, not_false_eq_true, if_true, jsString_flat]
    rw [jsToSafeSubject_text, Option.map_map, Option.map_map]
    rfl

theorem jsSubjects_null (c : UnicodeClient) (hc : ¬ c.HasSubjects) (policies : Str) :
    jsSubjects (LoginStatus.toJs
      { email := c.info.email
        groups := c.info.groups
        impersonation := c.info.impersonation
        impersonationType := if c.info.impersonation ≠ [] then c.info.impersonationType else []
        policies := policies }) = none := by
  unfold UnicodeClient.HasSubjects at hc
  rw [not_or, not_not, not_not] at hc
  unfold jsSubjects LoginStatus.toJs UnicodeClient.info
  simp [hc.1, hc.2, jsString, decodeRunes]

/-! ## 2. What is printed for a client -/

/-- The byte order mark U+FEFF. -/
def bom : Str := utf8.flat [Char.ofNat 0xFEFF]

/-- A field that neither begins nor ends with the byte order mark. -/
def BomFree (f : Str) : Prop := ¬ bom <+: f ∧ ¬ bom <:+ f

/-- Nothing that is printed for the subjects begins or ends with it. -/
def NoBom (P : PolicySet) (subjects : List Str) : Prop :=
  ∀ s ∈ subjects,
    (∀ rule ∈ P.getImplicitPermissionsForUser s, ∀ f ∈ rule.take 4, BomFree f) ∧
      ∀ role ∈ P.getImplicitRolesForUser s, BomFree s ∧ BomFree role

/-- What the dashboard trims, the server trims as well, or it is U+FEFF. -/
theorem jsBlanks_cases : ∀ b ∈ jsBlanks, utf8.flat b ∈ spaceBytes ∨ b = [Char.ofNat 0xFEFF] := by
  decide

/-- **A clean field without a byte order mark at its ends is read alike.** -/
theorem readAlike_of_clean {f : Text} (hc : CleanField (utf8.flat f)) (hb : BomFree (utf8.flat f)) :
    ReadAlike f where
  noComma h := hc.noComma ((utf8.mem_flat_iff utf8_comma).mpr h)
  noNewline h := hc.noNewline ((utf8.mem_flat_iff utf8_newline).mpr h)
  trimmed b hmem := by
    have ht := trimSpace_eq_self_iff.mp hc.trimmed
    rcases jsBlanks_cases b hmem with h | rfl
    · exact ⟨fun hp => (ht _ h).1 (utf8.flat_prefix_iff.mpr hp),
        fun hs => (ht _ h).2 (utf8.flat_suffix_iff.mpr hs)⟩
    · exact ⟨fun hp => hb.1 (utf8.flat_prefix_iff.mpr hp),
        fun hs => hb.2 (utf8.flat_suffix_iff.mpr hs)⟩

section Printed

variable {P : PolicySet} {subjects : List Str}

/-- The printed lines are lines of texts that are read alike. -/
theorem exists_textLines (hc : CleanRules P) (hu : UnicodeRules P)
    (hs : ∀ s ∈ subjects, IsUtf8 s) (hb : NoBom P subjects) :
    ∃ lines : List TextLine, lines.map TextLine.toLine = P.completeLines subjects ∧
      ∀ l ∈ lines, ∀ f ∈ l.fields, ReadAlike f := by
  have hrole : ∀ s ∈ subjects, ∀ role ∈ P.getImplicitRolesForUser s, IsUtf8 role := by
    intro s hmem role hr
    exact Reach.reach_subset_of_closed (S := IsUtf8)
      (fun x y _ hl => by
        obtain ⟨rest, hg⟩ := mem_links.mp hl
        exact hu.2 _ hg y (by simp))
      (hs s hmem) (mem_getImplicitRolesForUser.mp hr).1
  have hline : ∀ l ∈ P.completeLines subjects, ∃ tl : TextLine, tl.toLine = l ∧
      ∀ f ∈ tl.fields, ReadAlike f := by
    intro l hl
    simp only [PolicySet.completeLines, List.mem_flatMap, List.mem_append, List.mem_map] at hl
    obtain ⟨s, hmem, ⟨rule, hr, rfl⟩ | ⟨role, hr, rfl⟩⟩ := hl
    · have hin := (mem_getImplicitPermissionsForUser.mp hr).1
      obtain ⟨ts, e⟩ := utf8.exists_map_flat
        (fun f hf => hu.1 rule hin f (List.mem_of_mem_take (i := 4) hf))
      refine ⟨.p ts, by rw [TextLine.toLine, e], fun f hf => readAlike_of_clean ?_ ?_⟩
      · have hin' : utf8.flat f ∈ rule.take 4 := e ▸ List.mem_map_of_mem hf
        exact hc.1 rule hin _ (List.mem_of_mem_take hin')
      · exact (hb s hmem).1 rule hr _ (e ▸ List.mem_map_of_mem hf)
    · obtain ⟨ts, rfl⟩ := hs s hmem
      obtain ⟨tr, rfl⟩ := hrole _ hmem role hr
      obtain ⟨hc1, hc2⟩ := cleanField_of_role hc hr
      obtain ⟨hb1, hb2⟩ := (hb _ hmem).2 _ hr
      refine ⟨.g [ts, tr], rfl, fun f hf => ?_⟩
      rcases List.mem_cons.mp hf with rfl | hf
      · exact readAlike_of_clean hc1 hb1
      · rw [List.mem_singleton.mp hf]
        exact readAlike_of_clean hc2 hb2
  have hrange : P.completeLines subjects ∈
      Set.range (List.map (fun tl : {tl : TextLine // ∀ f ∈ tl.fields, ReadAlike f} => tl.1.toLine)) := by
    rw [Set.range_list_map]
    intro l hl
    obtain ⟨tl, e, h⟩ := hline l hl
    exact ⟨⟨tl, h⟩, e⟩
  obtain ⟨lines, e⟩ := hrange
  refine ⟨lines.map (·.1), by rw [List.map_map]; exact e, fun l hl => ?_⟩
  obtain ⟨tl, _, rfl⟩ := List.mem_map.mp hl
  exact tl.2

/-- The partial policy links every subject to all it inherits. -/
theorem flattened_partialRules {s : Str} (hs : s ∈ subjects) :
    Flattened (P.partialRules subjects) s := by
  intro y hy
  by_cases e : y = s
  · exact Or.inl e
  · exact Or.inr (mem_partialRules_links.mpr
      ⟨hs, mem_getImplicitRolesForUser.mpr ⟨(reach_partialRules hs).mp hy, e⟩⟩)

end Printed

/-! ## 3. Ten links -/

/-- Every rule the subjects inherit is covered by one that a subject inherits within ten links: of the same
    action, in its scope or in every one, for its objects and maybe others. -/
def PolicySet.TenLinksSuffice (P : PolicySet) (subjects : List Str) : Prop :=
  ∀ s ∈ subjects, ∀ psub act scope obj, [psub, act, scope, obj] ∈ P.p → psub ∈ Reach.reach P.links s →
    ∃ t ∈ subjects, ∃ psub' scope' obj', [psub', act, scope', obj'] ∈ P.p ∧
      psub' ∈ Reach.grow P.links maxHierarchyLevel [t] ∧ (scope = scope' ∨ scope' = [star]) ∧
        objMatch obj obj' = true

section Links

variable {P : PolicySet} {subjects : List Str}

/-- **Then ten links allow what the closure allows.** -/
theorem enforce_of_tenLinks (hne : P.p ≠ []) (hten : P.TenLinksSuffice subjects) {s : Str} (hs : s ∈ subjects)
    {act scope obj : Str} (h : enforceClosure P s act scope obj = true) :
    ∃ t ∈ subjects, enforce P t act scope obj = true := by
  obtain ⟨hw, psub, pact, pscope, pobj, hrule, hal⟩ := enforceClosure_iff.mp h
  rw [PolicySet.evaluated_of_ne_nil hne] at hrule
  obtain ⟨t, ht, psub', scope', obj', hrule', hlink, hscope, hobj⟩ := hten s hs psub pact pscope pobj hrule hal.link
  refine ⟨t, ht, enforce_iff.mpr ⟨hw, psub', pact, scope', obj', ?_, hlink, ?_, objMatch_trans hal.obj hobj, hal.act⟩⟩
  · rwa [PolicySet.evaluated_of_ne_nil hne]
  · rcases hscope with rfl | hstar
    · exact hal.scope
    · exact Or.inr hstar

/-- **And only then**: a rule that is inherited allows its own act, scope and object. -/
theorem tenLinks_of_enforce (hw : P.WellFormed) (hu : UnicodeRules P)
    (h : ∀ act scope obj : Text, ∀ s ∈ subjects,
      enforceClosure P s (utf8.flat act) (utf8.flat scope) (utf8.flat obj) = true →
        ∃ t ∈ subjects, enforce P t (utf8.flat act) (utf8.flat scope) (utf8.flat obj) = true) :
    P.TenLinksSuffice subjects := by
  intro s hs psub act scope obj hrule hlink
  obtain ⟨a, rfl⟩ := hu.1 _ hrule act (by simp)
  obtain ⟨sc, rfl⟩ := hu.1 _ hrule scope (by simp)
  obtain ⟨o, rfl⟩ := hu.1 _ hrule obj (by simp)
  have hev : P.evaluated = P.p := PolicySet.evaluated_of_ne_nil (List.ne_nil_of_mem hrule)
  obtain ⟨t, ht, hal⟩ := h a sc o s hs (enforceClosure_iff.mpr
    ⟨hw, psub, _, _, _, hev ▸ hrule, hlink, Or.inl rfl, objMatch_self _, rfl⟩)
  obtain ⟨_, psub', act', scope', obj', hrule', hal'⟩ := enforce_iff.mp hal
  rw [hev, ← hal'.act] at hrule'
  exact ⟨t, ht, psub', scope', obj', hrule', hal'.link, hal'.scope, hal'.obj⟩

end Links

/-! ## 4. The answers -/

/-- The dashboard, opened for the client, answers every request as the server does. -/
def Agrees (P : PolicySet) (c : UnicodeClient) : Prop :=
  ∀ action scope resource : Text,
    (openDashboard P c.info).map
        (fun d => d.can (utf16.flat action) (utf16.flat scope) (utf16.flat resource)) =
      can P c.info (utf8.flat action) (utf8.flat scope) (utf8.flat resource)

/-- Agreement covers the closures `canView`, `canEdit` and `canManage`. -/
theorem Agrees.closures {P : PolicySet} {c : UnicodeClient} (h : Agrees P c) (scope resource : Text) :
    (openDashboard P c.info).map (fun d => d.canView (utf16.flat scope) (utf16.flat resource)) =
        canView P c.info (utf8.flat scope) (utf8.flat resource) ∧
      (openDashboard P c.info).map (fun d => d.canEdit (utf16.flat scope) (utf16.flat resource)) =
        canEdit P c.info (utf8.flat scope) (utf8.flat resource) ∧
      (openDashboard P c.info).map (fun d => d.canManage (utf16.flat scope) (utf16.flat resource)) =
        canManage P c.info (utf8.flat scope) (utf8.flat resource) :=
  ⟨h "view".toList scope resource, h "edit".toList scope resource, h "manage".toList scope resource⟩

section Answers

variable {P : PolicySet} {c : UnicodeClient} {texts : List Text}

theorem openDashboard_eq {text : Str} (hs : c.subjects = some texts)
    (ht : P.getCompletePoliciesFor (texts.map utf8.flat) = some text) (hc : c.HasSubjects) :
    openDashboard P c.info = some ⟨jsLoadPolicy (jsString text), texts.map utf16.flat⟩ := by
  have hinfo : c.info.subjects = some (texts.map utf8.flat) := by
    rw [c.subjects_info, hs, Option.map_some]
  unfold openDashboard handleLoginStatus
  simp only [hinfo, ht, Option.map_some, jsSubjects_text c hc, hs]
  rfl

theorem openDashboard_null (hc : ¬ c.HasSubjects) : openDashboard P c.info = none := by
  unfold openDashboard handleLoginStatus
  cases c.info.subjects with
  | none => rfl
  | some subjects =>
      cases ht : P.getCompletePoliciesFor subjects with
      | none => simp only [ht, Option.map_none]
      | some text => simp only [ht, Option.map_some, jsSubjects_null c hc, Option.map_none]

/-- **The dashboard answers what the partial policy decides.** -/
theorem openDashboard_can (hclean : CleanRules P) (hu : UnicodeRules P)
    (hs : c.subjects = some texts) (hc : c.HasSubjects) (hbom : NoBom P (texts.map utf8.flat))
    (hlen : ∀ s ∈ texts.map utf8.flat, ∀ permission ∈ P.getImplicitPermissionsForUser s,
      4 ≤ permission.length)
    (action scope resource : Text) :
    (openDashboard P c.info).map
        (fun d => d.can (utf16.flat action) (utf16.flat scope) (utf16.flat resource)) =
      some ((texts.map utf8.flat).any fun s => enforceClosure (P.partialRules (texts.map utf8.flat)) s
        (utf8.flat action) (utf8.flat scope) (utf8.flat resource)) := by
  have hutf : ∀ s ∈ texts.map utf8.flat, IsUtf8 s := by
    intro s hmem
    obtain ⟨t, _, rfl⟩ := List.mem_map.mp hmem
    exact isUtf8_flat t
  obtain ⟨lines, hlines, halike⟩ := exists_textLines hclean hu hutf hbom
  have htext : P.getCompletePoliciesFor (texts.map utf8.flat) =
      some (utf8.flat (textPolicy lines)) := by
    rw [PolicySet.getCompletePoliciesFor, if_pos hlen, utf8_textPolicy, hlines]
  have hrules : byteRules lines = P.partialRules (texts.map utf8.flat) := by
    rw [byteRules, hlines, PolicySet.partialRules]
  rw [openDashboard_eq hs htext hc, jsString_flat, jsLoadPolicy_text halike, Option.map_some,
    Dashboard.can, List.any_map, List.any_map]
  refine congrArg some (Bool.eq_iff_iff.mpr ?_)
  rw [List.any_eq_true, List.any_eq_true]
  refine exists_congr fun t => and_congr_right fun ht => ?_
  have hflat : Flattened (byteRules lines) (utf8.flat t) :=
    hrules ▸ flattened_partialRules (List.mem_map_of_mem ht)
  have hw : (byteRules lines).WellFormed := hrules ▸ partialRules_wellFormed hlen
  rw [Function.comp, Function.comp, jsEnforce_text hw hflat, hrules]

/-- The server's answer. -/
theorem can_info (hs : c.subjects = some texts) (action scope obj : Str) :
    can P c.info action scope obj =
      some ((texts.map utf8.flat).any fun s => enforce P s action scope obj) := by
  rw [can, wrapper, c.subjects_info, hs]
  rfl

/-- A client with subjects and a safe partial policy, whose roles are near. -/
theorem agrees_of_safe (hclean : CleanRules P) (hne : P.p ≠ []) (hu : UnicodeRules P)
    (hs : c.subjects = some texts) (hc : c.HasSubjects) (hbom : NoBom P (texts.map utf8.flat))
    (hsafe : P.PartialSafe (texts.map utf8.flat)) (hten : P.TenLinksSuffice (texts.map utf8.flat)) :
    Agrees P c := by
  have hlen : ∀ s ∈ texts.map utf8.flat, ∀ permission ∈ P.getImplicitPermissionsForUser s,
      4 ≤ permission.length := by
    intro s hmem r hr
    rcases hsafe with ⟨hw, _⟩ | hnone
    · exact Nat.le_of_eq (hw r (mem_getImplicitPermissionsForUser.mp hr).1).symm
    · rw [(hnone s hmem).1] at hr
      exact absurd hr List.not_mem_nil
  have hsame : ∀ s ∈ texts.map utf8.flat, ∀ act scope obj,
      enforceClosure (P.partialRules (texts.map utf8.flat)) s act scope obj =
        enforceClosure P s act scope obj := by
    intro s hmem act scope obj
    rcases hsafe with ⟨hw, s₀, hs₀, hne₀⟩ | hnone
    · exact enforce_partial hw hs₀ hne₀ hmem act scope obj
    · have hnil := (enforce_partial_nil (fun t ht => (hnone t ht).1) hmem).mpr (hnone s hmem).2
      rw [hnil, enforce_of_no_permission hne (hnone s hmem).1]
  intro action scope resource
  rw [openDashboard_can hclean hu hs hc hbom hlen, can_info hs]
  refine congrArg some (Bool.eq_iff_iff.mpr ?_)
  rw [List.any_eq_true, List.any_eq_true]
  constructor
  · rintro ⟨s, hmem, hal⟩
    rw [hsame s hmem] at hal
    exact enforce_of_tenLinks hne hten hmem hal
  · rintro ⟨s, hmem, hal⟩
    refine ⟨s, hmem, ?_⟩
    rw [hsame s hmem]
    exact enforceClosure_of_enforce hal

/-- **A dashboard that agrees has its subjects, a safe partial policy and near roles.** -/
theorem safe_of_agrees (hclean : CleanRules P) (hu : UnicodeRules P) (hne : P.p ≠ [])
    (hs : c.subjects = some texts) (hbom : NoBom P (texts.map utf8.flat)) (h : Agrees P c) :
    c.HasSubjects ∧ P.PartialSafe (texts.map utf8.flat) ∧ P.TenLinksSuffice (texts.map utf8.flat) := by
  have hc : c.HasSubjects := by
    by_contra hc
    have hnil := h [] [] []
    rw [openDashboard_null hc, can_info hs] at hnil
    cases hnil
  have hlen : ∀ s ∈ texts.map utf8.flat, ∀ permission ∈ P.getImplicitPermissionsForUser s,
      4 ≤ permission.length := by
    by_contra hlen
    have hinfo : c.info.subjects = some (texts.map utf8.flat) := by
      rw [c.subjects_info, hs, Option.map_some]
    have hnone : openDashboard P c.info = none := by
      unfold openDashboard handleLoginStatus
      simp only [hinfo, PolicySet.getCompletePoliciesFor, if_neg hlen, Option.map_none]
    have hnil := h [] [] []
    rw [hnone, can_info hs] at hnil
    cases hnil
  have hsame := fun action scope resource : Text => Option.some.inj
    ((openDashboard_can hclean hu hs hc hbom hlen action scope resource).symm.trans
      ((h action scope resource).trans (can_info hs _ _ _)))
  refine ⟨hc, ?_⟩
  by_cases hany : ∃ s ∈ texts.map utf8.flat, P.getImplicitPermissionsForUser s ≠ []
  · have hw : P.WellFormed := by
      by_contra hw
      obtain ⟨s, hmem, hsne⟩ := hany
      obtain ⟨rule, hr⟩ := List.exists_mem_of_ne_nil _ hsne
      obtain ⟨act, ha, scope, hsc, obj, ho, hal⟩ := enforce_printed hlen hmem hr
      have hin := (mem_getImplicitPermissionsForUser.mp hr).1
      obtain ⟨a, rfl⟩ := hu.1 rule hin act ha
      obtain ⟨sc, rfl⟩ := hu.1 rule hin scope hsc
      obtain ⟨o, rfl⟩ := hu.1 rule hin obj ho
      have hfull := (hsame a sc o).symm.trans (List.any_eq_true.mpr ⟨s, hmem, hal⟩)
      obtain ⟨t, _, ht⟩ := List.any_eq_true.mp hfull
      rw [enforce, enforceWithin_malformed hw] at ht
      cases ht
    refine ⟨Or.inl ⟨hw, hany⟩, tenLinks_of_enforce hw hu fun act scope obj s hmem hal => ?_⟩
    obtain ⟨s₀, hs₀, hne₀⟩ := hany
    rw [← enforce_partial hw hs₀ hne₀ hmem] at hal
    exact List.any_eq_true.mp ((hsame act scope obj).symm.trans (List.any_eq_true.mpr ⟨s, hmem, hal⟩))
  · have hnone : ∀ s ∈ texts.map utf8.flat, P.getImplicitPermissionsForUser s = [] := by
      intro s hmem
      by_contra hsne
      exact hany ⟨s, hmem, hsne⟩
    refine ⟨Or.inr fun s hmem => ⟨hnone s hmem, fun hlink => ?_⟩, fun s hmem psub act scope obj hrule hlink => ?_⟩
    · have hal := enforce_empty_request hnone hmem hlink
      have hfull := (hsame [] [] []).symm.trans (List.any_eq_true.mpr ⟨s, hmem, hal⟩)
      obtain ⟨t, ht, hal'⟩ := List.any_eq_true.mp hfull
      have hclosure := enforceClosure_of_enforce hal'
      rw [enforce_of_no_permission hne (hnone t ht)] at hclosure
      cases hclosure
    · -- there is no rule to cover
      have hin := mem_permissions hrule hlink
      rw [hnone s hmem] at hin
      exact absurd hin List.not_mem_nil

end Answers

/-- The cluster owner ann. -/
def annObjects : UnicodeObjects where
  applications := []
  accessTokens := []
  roleBindings := [⟨⟨kalmSystemNamespace, by decide⟩, ⟨str "ann", by decide⟩,
    ⟨str "ann", .user, .clusterOwner, str "admin", none⟩⟩]
  tokenName _ ht := absurd ht List.not_mem_nil
  tokenRule _ ht := absurd ht List.not_mem_nil
  subject b hb := by
    rw [List.mem_singleton.mp hb]
    exact isUtf8_str "ann"

/-- The rules loaded for it. -/
def annRules : PolicySet :=
  ⟨clusterRules.p, clusterRules.g ++ [[str "user-ann", str "role_clusterOwner"]]⟩

theorem annRules_loaded : updatePolicies 0 annObjects.toManagerObjects = some annRules := by
  decide

instance (f : Str) : Decidable (BomFree f) := inferInstanceAs (Decidable (_ ∧ _))

instance (P : PolicySet) (subjects : List Str) : Decidable (NoBom P subjects) :=
  inferInstanceAs (Decidable (∀ s ∈ subjects, _ ∧ _))

/-- No chain of links is longer than the number of all links. -/
theorem tenLinks_of_short {P : PolicySet} (h : P.links.length ≤ maxHierarchyLevel) (subjects : List Str) :
    P.TenLinksSuffice subjects := by
  intro s hs psub act scope obj hrule hlink
  exact ⟨s, hs, psub, scope, obj, hrule, Reach.grow_mono h [s] hlink, Or.inl rfl, objMatch_self obj⟩

end Kalm
