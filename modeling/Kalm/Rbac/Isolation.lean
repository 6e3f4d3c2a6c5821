/-
  File:      Kalm/Rbac/Isolation.lean
  Subject:   NAMESPACE ISOLATION of role bindings: what a subject can do that is bound in
             namespaces only.

  * `Level`, `roleName` -- viewer, editor, owner, and the one flat name `role_<ns><Level>` that
    the cluster roles share with the roles of a namespace called `cluster`;
  * `reach_subject` -- the roles a subject inherits: those of its bindings and the levels below;
  * `Permitted` -- what namespaced bindings are there to allow;
  * `Harmless`, `isolated_iff` -- a subject stays inside if and only if every binding that is
    loaded for it is a namespaced one outside of `cluster`, and one that the loader takes for the
    subject by trimming white space adds nothing to the subject's own.
-/
import Kalm.Rbac.Injection

namespace Kalm

/-! ## 1. Levels and role names -/

/-- The three levels of a role. -/
inductive Level where
  | viewer
  | editor
  | owner
  deriving DecidableEq

/-- The order of inheritance. -/
def Level.rank : Level → Nat
  | .viewer => 0
  | .editor => 1
  | .owner => 2

/-- The action a level adds. -/
def Level.action : Level → Str
  | .viewer => str "view"
  | .editor => str "edit"
  | .owner => str "manage"

/-- The level in a role's name. -/
def Level.suffix : Level → Str
  | .viewer => str "Viewer"
  | .editor => str "Editor"
  | .owner => str "Owner"

/-- The level of a role. -/
def Role.level : Role → Level
  | .viewer | .clusterViewer => .viewer
  | .editor | .clusterEditor => .editor
  | .owner | .clusterOwner => .owner

/-- The name of a role. -/
def roleName (name : Str) (l : Level) : Str := namespaceRole name l.suffix

/-- What stands between `role_` and the level. -/
def RoleBinding.roleNamespace (b : RoleBinding) : Str :=
  if b.spec.role.isCluster then str "cluster" else b.ns.val

/-- The subject a binding is written for. -/
def RoleBinding.safeSubject (b : RoleBinding) : Str :=
  Kalm.safeSubject b.spec.subject b.spec.subjectType

/-- A cluster role and a role of a namespace `cluster` have the same name. -/
theorem roleValue_eq (b : RoleBinding) :
    roleValueToPolicyValue b.spec.role b.ns.val = roleName b.roleNamespace b.spec.role.level := by
  unfold RoleBinding.roleNamespace
  cases b.spec.role <;> rfl

theorem Level.suffix_head (l : Level) : ∃ c s, l.suffix = c :: s ∧ isLabelByte c = false := by
  cases l <;> exact ⟨_, _, rfl, by decide⟩

theorem Level.suffix_inj {l l' : Level} (h : l.suffix = l'.suffix) : l = l' := by
  cases l <;> cases l' <;> first | rfl | exact absurd h (by decide)

/-- **Of two label texts the name keeps both parts**: the level starts where the label ends. -/
theorem roleName_inj {n n' : Str} (hn : ∀ b ∈ n, isLabelByte b = true)
    (hn' : ∀ b ∈ n', isLabelByte b = true) {l l' : Level} (h : roleName n l = roleName n' l') :
    n = n' ∧ l = l' := by
  have h1 : n ++ l.suffix = n' ++ l'.suffix := List.append_cancel_left h
  have key : ∀ (k : Str) (j : Level), (∀ b ∈ k, isLabelByte b = true) →
      (k ++ j.suffix).takeWhile isLabelByte = k := by
    intro k j hk
    obtain ⟨c, s, e, hc⟩ := j.suffix_head
    rw [List.takeWhile_append_of_pos hk, e, List.takeWhile_cons_of_neg (by simp [hc]), List.append_nil]
  have h2 : n = n' := by rw [← key n l hn, h1, key n' l' hn']
  subst h2
  exact ⟨rfl, Level.suffix_inj (List.append_cancel_left h1)⟩

theorem trimSpace_roleName {n : Str} (hn : ∀ b ∈ n, isLabelByte b = true) (l : Level) :
    trimSpace (roleName n l) = roleName n l := by
  refine trimSpace_of_graphic (Graphic.append (by decide) (Graphic.append ?_ ?_))
  · exact fun b hb => isLabelByte_graphic (hn b hb)
  · cases l <;> decide

theorem label_cluster : ∀ b ∈ str "cluster", isLabelByte b = true :=
  List.all_eq_true.mp (by decide)

theorem RoleBinding.roleNamespace_label (b : RoleBinding) :
    ∀ c ∈ b.roleNamespace, isLabelByte c = true := by
  unfold roleNamespace
  split
  · exact label_cluster
  · exact b.ns.label

/-! ## 2. The rules of the roles -/

theorem mem_clusterRules_p {rule : List Str} : rule ∈ clusterRules.p ↔
    ∃ l : Level, rule = [roleName (str "cluster") l, l.action, [star], [star]] := by
  have e : clusterRules.p = [.viewer, .editor, .owner].map
      (fun l : Level => [roleName (str "cluster") l, l.action, [star], [star]]) := by decide
  rw [e, List.mem_map]
  constructor
  · rintro ⟨l, _, rfl⟩
    exact ⟨l, rfl⟩
  · rintro ⟨l, rfl⟩
    exact ⟨l, by cases l <;> simp, rfl⟩

theorem mem_namespaceRules_p {name : Str} {rule : List Str} : rule ∈ (namespaceRules name).p ↔
    (∃ l : Level, rule = [roleName name l, l.action, name, [star]]) ∨
      rule = [roleName name .viewer, str "view", [star], str "storageClasses"] ∨
      rule = [roleName name .editor, str "view", [star], str "registries"] := by
  simp only [namespaceRules, mem_ruleSet_p, namespaceRoleLines, List.mem_cons, List.not_mem_nil,
    reduceCtorEq, PolicyLine.p.injEq, false_or, or_false]
  constructor
  · rintro (h | h | h | h | h)
    · exact Or.inl ⟨.viewer, h⟩
    · exact Or.inr (Or.inl h)
    · exact Or.inl ⟨.editor, h⟩
    · exact Or.inr (Or.inr h)
    · exact Or.inl ⟨.owner, h⟩
  · rintro (⟨l, h⟩ | h | h)
    · cases l with
      | viewer => exact Or.inl h
      | editor => exact Or.inr (Or.inr (Or.inl h))
      | owner => exact Or.inr (Or.inr (Or.inr (Or.inr h)))
    · exact Or.inr (Or.inl h)
    · exact Or.inr (Or.inr (Or.inr (Or.inl h)))

/-- The links between the levels of one role family. -/
def levelLinks (name : Str) : List (List Str) :=
  [[roleName name .editor, roleName name .viewer], [roleName name .owner, roleName name .editor]]

theorem clusterRules_g : clusterRules.g = levelLinks (str "cluster") := by decide

/-- A link goes from a level to the next lower one. -/
theorem mem_levelLinks {name : Str} {rule : List Str} (h : rule ∈ levelLinks name) :
    ∃ l l' : Level, l'.rank < l.rank ∧ rule = [roleName name l, roleName name l'] := by
  simp only [levelLinks, List.mem_cons, List.not_mem_nil, or_false] at h
  rcases h with rfl | rfl
  · exact ⟨.editor, .viewer, by decide, rfl⟩
  · exact ⟨.owner, .editor, by decide, rfl⟩

/-! ## 3. The loaded rules -/

/-- Text without the separators of the policy format. -/
structure PlainText (s : Str) : Prop where
  noComma : comma ∉ s
  noNewline : newline ∉ s

/-- Objects with valid names whose free texts hold no separator. -/
structure PlainObjects extends ManagerObjects where
  tokenName : ∀ t ∈ accessTokens, isDNS1123Subdomain t.name = true
  tokenRule : ∀ t ∈ accessTokens, ∀ rule ∈ t.spec.rules,
    PlainText rule.ns ∧ PlainText rule.kind ∧ PlainText rule.name
  subject : ∀ b ∈ roleBindings, PlainText b.spec.subject

theorem PlainText.append {s t : Str} (hs : PlainText s) (ht : PlainText t) : PlainText (s ++ t) where
  noComma h := (List.mem_append.mp h).elim hs.noComma ht.noComma
  noNewline h := (List.mem_append.mp h).elim hs.noNewline ht.noNewline

theorem CleanField.plainText {s : Str} (h : CleanField s) : PlainText s := ⟨h.noComma, h.noNewline⟩

theorem plainText_name {name : Str} (h : isDNS1123Subdomain name = true) : PlainText name := by
  have hb := DnsSubdomain.bytes ⟨name, h⟩
  refine ⟨fun hc => ?_, newline_not_mem_of_graphic (DnsSubdomain.graphic ⟨name, h⟩)⟩
  rcases hb comma hc with h | h
  · exact isLabelByte_ne_comma h rfl
  · exact absurd h (by decide)

theorem plainText_safeSubject {sub : Str} (h : PlainText sub) (t : SubjectType) :
    PlainText (safeSubject sub t) := by
  cases t with
  | user => exact PlainText.append ⟨by decide, by decide⟩ h
  | group => exact PlainText.append ⟨by decide, by decide⟩ h

theorem plainText_obj {rule : AccessTokenRule} (hk : PlainText rule.kind)
    (hn : PlainText rule.name) : PlainText rule.obj := by
  unfold AccessTokenRule.obj
  split
  · exact ⟨by decide, by decide⟩
  · exact hk.append (PlainText.append (s := [slash]) ⟨by decide, by decide⟩ hn)

section Loaded

variable {now : Int}

theorem PlainObjects.separated (m : PlainObjects) :
    ∀ l ∈ policyLines now m.toManagerObjects, l.Separated := by
  intro l hl
  have fixed : ∀ lines : List PolicyLine, (∀ k ∈ lines, k.Shaped) → CleanRules (ruleSet lines) →
      l ∈ lines → l.Separated := fun lines hs hc => PolicyLine.separated_of_clean hs hc l
  rcases mem_policyLines.mp hl with h | ⟨a, _, _, h⟩ | ⟨t, ht, h⟩ | ⟨b, hb, h⟩
  · exact fixed _ buildClusterRolePolicies_shaped cleanRules_clusterRules h
  · rw [buildRolePoliciesForNamespace_label] at h
    exact fixed _ (namespaceRoleLines_shaped a.name) (cleanRules_namespaceRules a.name) h
  · have hname := plainText_name (m.tokenName t ht)
    rcases (mem_accessToken_policyLines.mp h).2 with rfl | ⟨fields, hf, rfl⟩
    · exact (PlainText.append ⟨by decide, by decide⟩ hname).noNewline
    · obtain ⟨rule, hr, rfl⟩ := List.mem_map.mp hf
      obtain ⟨h1, h2, h3⟩ := m.tokenRule t ht rule hr
      have hs := plainText_safeSubject hname .user
      have hv := (cleanField_verb rule.verb).plainText
      have ho := plainText_obj h2 h3
      intro f hf'
      simp only [AccessTokenRule.policy, List.mem_cons, List.not_mem_nil, or_false] at hf'
      rcases hf' with rfl | rfl | rfl | rfl
      · exact ⟨hs.noComma, hs.noNewline⟩
      · exact ⟨hv.noComma, hv.noNewline⟩
      · exact ⟨h1.noComma, h1.noNewline⟩
      · exact ⟨ho.noComma, ho.noNewline⟩
  · rcases (mem_roleBinding_policyLines.mp h).2 with rfl | rfl
    · exact newline_not_mem_append_right (by decide) b.name.graphic
    · have hs := plainText_safeSubject (m.subject b hb) b.spec.subjectType
      have hv := (cleanField_roleValue b.spec.role b.ns).plainText
      refine ⟨Nat.le_refl 2, fun f hf => ?_⟩
      simp only [RoleBinding.policy, List.mem_cons, List.not_mem_nil, or_false] at hf
      rcases hf with rfl | rfl
      · exact ⟨hs.noComma, hs.noNewline⟩
      · exact ⟨hv.noComma, hv.noNewline⟩

/-- The rules the enforcer holds. -/
def PlainObjects.rules (m : PlainObjects) (now : Int) : PolicySet :=
  (ruleSet (policyLines now m.toManagerObjects)).trimFields

theorem PlainObjects.updatePolicies_eq (m : PlainObjects) :
    updatePolicies now m.toManagerObjects = some (m.rules now) :=
  loadPolicy_render m.separated

theorem mem_rules_p {m : PlainObjects} {rule : List Str} : rule ∈ (m.rules now).p ↔
    rule ∈ clusterRules.p ∨ (∃ a ∈ m.enabled, rule ∈ (namespaceRules a.name.val).p) ∨
      ∃ t ∈ m.liveTokens now, ∃ r ∈ t.spec.rules, rule = (r.policy t.name).map trimSpace := by
  have hmem : rule ∈ (m.rules now).p ↔
      ∃ fields ∈ (intendedRules now m.toManagerObjects).p, fields.map trimSpace = rule := by
    rw [PlainObjects.rules, PolicySet.trimFields, List.mem_map]
    exact exists_congr fun f => and_congr_left fun _ => (sameRules_intended now _).p f
  rw [hmem]
  constructor
  · rintro ⟨fields, hf, rfl⟩
    rcases List.mem_append.mp hf with hf | hf
    · rcases List.mem_append.mp hf with hf | hf
      · left
        rwa [map_trimSpace_of_clean (cleanRules_clusterRules.1 _ hf)]
      · obtain ⟨a, ha, hf⟩ := List.mem_flatMap.mp hf
        refine Or.inr (Or.inl ⟨a, ha, ?_⟩)
        rwa [map_trimSpace_of_clean ((cleanRules_namespaceRules a.name).1 _ hf)]
    · obtain ⟨t, ht, hf⟩ := List.mem_flatMap.mp hf
      obtain ⟨r, hr, rfl⟩ := List.mem_map.mp hf
      exact Or.inr (Or.inr ⟨t, ht, r, hr, rfl⟩)
  · rintro (h | ⟨a, ha, h⟩ | ⟨t, ht, r, hr, rfl⟩)
    · refine ⟨rule, List.mem_append_left _ (List.mem_append_left _ h), ?_⟩
      exact map_trimSpace_of_clean (cleanRules_clusterRules.1 _ h)
    · refine ⟨rule, List.mem_append_left _ (List.mem_append_right _ ?_), ?_⟩
      · exact List.mem_flatMap.mpr ⟨a, ha, h⟩
      · exact map_trimSpace_of_clean ((cleanRules_namespaceRules a.name).1 _ h)
    · refine ⟨_, List.mem_append_right _ (List.mem_flatMap.mpr ⟨t, ht, ?_⟩), rfl⟩
      exact List.mem_map_of_mem hr

theorem mem_rules_g {m : PlainObjects} {rule : List Str} : rule ∈ (m.rules now).g ↔
    rule ∈ levelLinks (str "cluster") ∨ (∃ a ∈ m.enabled, rule ∈ levelLinks a.name.val) ∨
      ∃ b ∈ m.liveBindings now, rule =
        [trimSpace b.safeSubject, roleName b.roleNamespace b.spec.role.level] := by
  have hmem : rule ∈ (m.rules now).g ↔
      ∃ fields ∈ (intendedRules now m.toManagerObjects).g, fields.map trimSpace = rule := by
    rw [PlainObjects.rules, PolicySet.trimFields, List.mem_map]
    exact exists_congr fun f => and_congr_left fun _ => (sameRules_intended now _).g f
  have hlink : ∀ b : RoleBinding, b.policy.map trimSpace =
      [trimSpace b.safeSubject, roleName b.roleNamespace b.spec.role.level] := by
    intro b
    have h := (cleanField_roleValue b.spec.role b.ns).trimmed
    rw [roleValue_eq] at h
    simp only [RoleBinding.policy, List.map_cons, List.map_nil, roleValue_eq, h,
      RoleBinding.safeSubject]
  rw [hmem, ← clusterRules_g]
  constructor
  · rintro ⟨fields, hf, rfl⟩
    rcases List.mem_append.mp hf with hf | hf
    · rcases List.mem_append.mp hf with hf | hf
      · left
        rwa [map_trimSpace_of_clean (cleanRules_clusterRules.2 _ hf)]
      · obtain ⟨a, ha, hf⟩ := List.mem_flatMap.mp hf
        refine Or.inr (Or.inl ⟨a, ha, ?_⟩)
        rwa [map_trimSpace_of_clean ((cleanRules_namespaceRules a.name).2 _ hf)]
    · obtain ⟨b, hb, rfl⟩ := List.mem_map.mp hf
      exact Or.inr (Or.inr ⟨b, hb, hlink b⟩)
  · rintro (h | ⟨a, ha, h⟩ | ⟨b, hb, rfl⟩)
    · refine ⟨rule, List.mem_append_left _ (List.mem_append_left _ h), ?_⟩
      exact map_trimSpace_of_clean (cleanRules_clusterRules.2 _ h)
    · refine ⟨rule, List.mem_append_left _ (List.mem_append_right _ ?_), ?_⟩
      · exact List.mem_flatMap.mpr ⟨a, ha, h⟩
      · exact map_trimSpace_of_clean ((cleanRules_namespaceRules a.name).2 _ h)
    · exact ⟨b.policy, List.mem_append_right _ (List.mem_map_of_mem hb), hlink b⟩

/-- Every loaded p-rule has its four fields. -/
theorem PlainObjects.wellFormed (m : PlainObjects) : (m.rules now).WellFormed := by
  intro rule hr
  rcases mem_rules_p.mp hr with h | ⟨a, _, h⟩ | ⟨t, _, r, _, rfl⟩
  · obtain ⟨l, rfl⟩ := mem_clusterRules_p.mp h
    rfl
  · rcases mem_namespaceRules_p.mp h with ⟨l, rfl⟩ | rfl | rfl <;> rfl
  · rfl

theorem PlainObjects.rules_p_ne_nil (m : PlainObjects) : (m.rules now).p ≠ [] := by
  have h : [roleName (str "cluster") .viewer, Level.viewer.action, [star], [star]] ∈
      (m.rules now).p := mem_rules_p.mpr (Or.inl (mem_clusterRules_p.mpr ⟨.viewer, rfl⟩))
  exact List.ne_nil_of_mem h

/-! ## 4. What a subject inherits -/

/-- A subject is not a role: roles start with `role_`, subjects with `user-` or `group-`. -/
theorem trimSpace_safeSubject_ne_roleName (sub : Str) (t : SubjectType) (n : Str) (l : Level) :
    trimSpace (safeSubject sub t) ≠ roleName n l := by
  have hu := trimSpace_cons_graphic (c := 117) (by decide) (str "ser-" ++ sub)
  have hg := trimSpace_cons_graphic (c := 103) (by decide) (str "roup-" ++ sub)
  have hr : ∃ r, roleName n l = 114 :: r := ⟨_, rfl⟩
  obtain ⟨r, hr⟩ := hr
  intro h
  rw [hr] at h
  cases t with
  | user =>
      obtain ⟨u, hu⟩ := hu
      have e : trimSpace (safeSubject sub .user) = 117 :: u := hu
      rw [e, List.cons.injEq] at h
      exact absurd h.1 (by decide)
  | group =>
      obtain ⟨u, hu⟩ := hg
      have e : trimSpace (safeSubject sub .group) = 103 :: u := hu
      rw [e, List.cons.injEq] at h
      exact absurd h.1 (by decide)

/-- The links of the loaded rules: one level down in a family, or from a subject to its role. -/
theorem mem_rules_links {m : PlainObjects} {x y : Str} (h : (x, y) ∈ (m.rules now).links) :
    (∃ n, (∀ b ∈ n, isLabelByte b = true) ∧
      ∃ l l' : Level, l'.rank < l.rank ∧ x = roleName n l ∧ y = roleName n l') ∨
    ∃ b ∈ m.liveBindings now, x = trimSpace b.safeSubject ∧
      y = roleName b.roleNamespace b.spec.role.level := by
  obtain ⟨rest, hg⟩ := mem_links.mp h
  have level : ∀ n, (∀ b ∈ n, isLabelByte b = true) → x :: y :: rest ∈ levelLinks n →
      ∃ n, (∀ b ∈ n, isLabelByte b = true) ∧
        ∃ l l' : Level, l'.rank < l.rank ∧ x = roleName n l ∧ y = roleName n l' := by
    intro n hn hm
    obtain ⟨l, l', hlt, e⟩ := mem_levelLinks hm
    simp only [List.cons.injEq] at e
    exact ⟨n, hn, l, l', hlt, e.1, e.2.1⟩
  rcases mem_rules_g.mp hg with h | ⟨a, _, h⟩ | ⟨b, hb, e⟩
  · exact Or.inl (level _ label_cluster h)
  · exact Or.inl (level _ a.name.label h)
  · simp only [List.cons.injEq] at e
    exact Or.inr ⟨b, hb, e.1, e.2.1⟩

/-- A role of one of the subject's bindings, or a lower one. -/
def InheritedRole (m : PlainObjects) (now : Int) (S y : Str) : Prop :=
  ∃ b ∈ m.liveBindings now, trimSpace b.safeSubject = S ∧
    ∃ l : Level, l.rank ≤ b.spec.role.level.rank ∧ y = roleName b.roleNamespace l

/-- **What a subject inherits**: itself, the roles of the bindings loaded for it, and the lower
    levels of these. -/
theorem reach_subject {m : PlainObjects} {sub : Str} {t : SubjectType} {y : Str}
    (h : y ∈ Reach.reach (m.rules now).links (safeSubject sub t)) :
    y = safeSubject sub t ∨ InheritedRole m now (safeSubject sub t) y := by
  by_cases hS : trimSpace (safeSubject sub t) = safeSubject sub t
  · refine Reach.reach_subset_of_closed (S := fun y => y = safeSubject sub t ∨
      InheritedRole m now (safeSubject sub t) y) ?_ (Or.inl rfl) h
    rintro x y hx hl
    rcases mem_rules_links hl with ⟨n, hn, l, l', hlt, rfl, rfl⟩ | ⟨b, hb, rfl, rfl⟩
    · rcases hx with hx | ⟨b, hb, hbS, k, hk, e⟩
      · exact absurd (hS.trans hx.symm) (trimSpace_safeSubject_ne_roleName _ _ _ _)
      · obtain ⟨rfl, rfl⟩ := roleName_inj hn b.roleNamespace_label e
        exact Or.inr ⟨b, hb, hbS, l', by omega, rfl⟩
    · rcases hx with hx | ⟨b', _, _, k, _, e⟩
      · exact Or.inr ⟨b, hb, hx, b.spec.role.level, Nat.le_refl _, rfl⟩
      · exact absurd e (trimSpace_safeSubject_ne_roleName _ _ _ _)
  · -- the loader never writes an untrimmed name, so such a subject has no link at all
    refine Or.inl (Reach.reach_subset_of_closed (S := fun y => y = safeSubject sub t) ?_ rfl h)
    rintro x y rfl hl
    rcases mem_rules_links hl with ⟨n, _, l, _, _, e, _⟩ | ⟨b, _, e, _⟩
    · exact absurd (by rw [e]; exact (trimSpace_roleName ‹_› l)) hS
    · exact absurd (by rw [e, trimSpace_trimSpace]) hS

/-! ## 5. Isolation -/

/-- What a level allows in its own namespace. -/
def Level.allows (l : Level) (act : Str) : Prop :=
  act = str "view" ∨ (act = str "edit" ∧ l ≠ .viewer) ∨ (act = str "manage" ∧ l = .owner)

theorem Level.allows_action {l l' : Level} : l'.allows l.action ↔ l.rank ≤ l'.rank := by
  unfold allows
  cases l <;> cases l' <;> decide

/-- **What namespaced bindings are there to allow**: the level's actions in the binding's own
    namespace, and the two grants outside of it. -/
inductive Permitted (m : PlainObjects) (now : Int) (S act scope obj : Str) : Prop where
  | inNamespace (b : RoleBinding) (live : b ∈ m.liveBindings now) (mine : b.safeSubject = S)
      (inside : scope = b.ns.val) (action : b.spec.role.level.allows act)
  | storageClasses (b : RoleBinding) (live : b ∈ m.liveBindings now) (mine : b.safeSubject = S)
      (action : act = str "view") (object : obj = str "storageClasses")
  | registries (b : RoleBinding) (live : b ∈ m.liveBindings now) (mine : b.safeSubject = S)
      (level : b.spec.role.level ≠ .viewer)
      (action : act = str "view") (object : obj = str "registries")

/-- The enforcer lets the subject do nothing else. -/
def Isolated (m : PlainObjects) (now : Int) (S : Str) : Prop :=
  ∃ P, updatePolicies now m.toManagerObjects = some P ∧
    ∀ act scope obj, enforce P S act scope obj = true → Permitted m now S act scope obj

/-- A binding that is loaded for the subject and gives it nothing of its own: namespaced, not in
    a namespace called `cluster`, and where its namespace is enabled the subject has a binding
    under its exact name that reaches as high. -/
structure Harmless (m : PlainObjects) (now : Int) (S : Str) (b : RoleBinding) : Prop where
  namespaced : b.spec.role.isCluster = false
  outside : b.ns.val ≠ str "cluster"
  covered : (∃ a ∈ m.enabled, a.name.val = b.ns.val) →
    ∃ b' ∈ m.liveBindings now, b'.safeSubject = S ∧ b'.ns.val = b.ns.val ∧
      b.spec.role.level.rank ≤ b'.spec.role.level.rank

theorem RoleBinding.roleNamespace_of_namespaced {b : RoleBinding} (h : b.spec.role.isCluster = false) :
    b.roleNamespace = b.ns.val := by
  simp [roleNamespace, h]

theorem objMatch_literal {obj pat : Str} (h : objMatch obj pat = true) (hp : star ∉ pat) :
    obj = pat :=
  (objMatch_of_no_star hp).mp h

/-- Harmless bindings allow what is permitted and nothing else. -/
theorem permitted_of_enforce {m : PlainObjects} {sub : Str} {t : SubjectType}
    (hT : ∀ tok ∈ m.liveTokens now, safeSubject tok.name .user ≠ safeSubject sub t)
    (hH : ∀ b ∈ m.liveBindings now, trimSpace b.safeSubject = safeSubject sub t →
      Harmless m now (safeSubject sub t) b)
    {act scope obj : Str} (h : enforce (m.rules now) (safeSubject sub t) act scope obj = true) :
    Permitted m now (safeSubject sub t) act scope obj := by
  obtain ⟨_, psub, pact, pscope, pobj, hrule, hal⟩ := enforce_iff.mp h
  rw [PolicySet.evaluated_of_ne_nil m.rules_p_ne_nil] at hrule
  have hreach := reach_subject (Reach.mem_reach_of_mem_grow hal.link)
  rcases mem_rules_p.mp hrule with hr | ⟨a, ha, hr⟩ | ⟨tok, htok, r, _, hr⟩
  · -- a cluster role is inherited from a binding outside of the condition only
    exfalso
    obtain ⟨l, e⟩ := mem_clusterRules_p.mp hr
    simp only [List.cons.injEq, and_true] at e
    obtain ⟨rfl, -, -, -⟩ := e
    rcases hreach with e | ⟨b, hb, hbS, k, _, e⟩
    · refine trimSpace_safeSubject_ne_roleName sub t (str "cluster") l ?_
      rw [← e, trimSpace_roleName label_cluster]
    · obtain ⟨e, -⟩ := roleName_inj label_cluster b.roleNamespace_label e
      have hh := hH b hb hbS
      rw [RoleBinding.roleNamespace_of_namespaced hh.namespaced] at e
      exact hh.outside e.symm
  · -- a role of an enabled namespace: the subject has a binding there that reaches as high
    have key : ∀ l : Level, psub = roleName a.name.val l →
        ∃ b ∈ m.liveBindings now, b.safeSubject = safeSubject sub t ∧ b.ns.val = a.name.val ∧
          l.rank ≤ b.spec.role.level.rank := by
      rintro l rfl
      rcases hreach with e | ⟨b, hb, hbS, k, hk, e⟩
      · exfalso
        refine trimSpace_safeSubject_ne_roleName sub t a.name.val l ?_
        rw [← e, trimSpace_roleName a.name.label]
      · obtain ⟨en, rfl⟩ := roleName_inj a.name.label b.roleNamespace_label e
        have hh := hH b hb hbS
        rw [RoleBinding.roleNamespace_of_namespaced hh.namespaced] at en
        obtain ⟨b', hb', hS', hns, hle⟩ := hh.covered ⟨a, ha, en⟩
        exact ⟨b', hb', hS', hns.trans en.symm, hk.trans hle⟩
    rcases mem_namespaceRules_p.mp hr with ⟨l, e⟩ | e | e
    all_goals simp only [List.cons.injEq, and_true] at e
    · obtain ⟨rfl, rfl, rfl, rfl⟩ := e
      obtain ⟨b, hb, hbS, hns, hle⟩ := key l rfl
      have hscope : scope = a.name.val := by
        rcases hal.scope with h | h
        · exact h
        · exact absurd a.name.text (by rw [h]; decide)
      refine .inNamespace b hb hbS (hscope.trans hns.symm) ?_
      rw [hal.act]
      exact Level.allows_action.mpr hle
    · obtain ⟨rfl, rfl, rfl, rfl⟩ := e
      obtain ⟨b, hb, hbS, _, _⟩ := key .viewer rfl
      exact .storageClasses b hb hbS hal.act (objMatch_literal hal.obj (by decide))
    · obtain ⟨rfl, rfl, rfl, rfl⟩ := e
      obtain ⟨b, hb, hbS, _, hle⟩ := key .editor rfl
      refine .registries b hb hbS ?_ hal.act (objMatch_literal hal.obj (by decide))
      intro hv
      rw [hv] at hle
      exact absurd hle (by decide)
  · -- the tuples of a token have the token for their subject
    exfalso
    have hname : trimSpace (safeSubject tok.name .user) = safeSubject tok.name .user := by
      refine trimSpace_of_graphic (Graphic.append (by decide) ?_)
      exact DnsSubdomain.graphic ⟨tok.name, m.tokenName tok (mem_liveTokens.mp htok).1⟩
    simp only [AccessTokenRule.policy, List.map_cons, List.map_nil, List.cons.injEq, and_true] at hr
    rw [hr.1, hname] at hreach
    rcases hreach with e | ⟨b, _, _, k, _, e⟩
    · exact hT tok htok e
    · refine trimSpace_safeSubject_ne_roleName tok.name .user b.roleNamespace k ?_
      rw [hname, e]

/-- The role of a binding is inherited by the subject it is loaded for. -/
theorem reach_roleName {m : PlainObjects} {b : RoleBinding} (hb : b ∈ m.liveBindings now) :
    roleName b.roleNamespace b.spec.role.level ∈
      Reach.grow (m.rules now).links maxHierarchyLevel [trimSpace b.safeSubject] :=
  Reach.mem_grow_of_link (by decide) (mem_links.mpr ⟨[], mem_rules_g.mpr (Or.inr (Or.inr ⟨b, hb, rfl⟩))⟩)

/-- The level's action on everything is allowed by a role that has the rule for it. -/
theorem enforce_level {m : PlainObjects} {b : RoleBinding} (hb : b ∈ m.liveBindings now)
    (scope : Str) {pscope : Str} (hscope : scope = pscope ∨ pscope = [star])
    (hr : [roleName b.roleNamespace b.spec.role.level, b.spec.role.level.action, pscope, [star]] ∈
      (m.rules now).p) :
    enforce (m.rules now) (trimSpace b.safeSubject) b.spec.role.level.action scope [star] = true := by
  have hev := hr
  rw [← PolicySet.evaluated_of_ne_nil m.rules_p_ne_nil] at hev
  exact enforce_iff.mpr ⟨m.wellFormed, _, _, _, _, hev,
    ⟨reach_roleName hb, hscope, objMatch_star [star], rfl⟩⟩

/-- A request about everything is permitted by a binding in the scope only. -/
theorem Permitted.binding {m : PlainObjects} {S act scope : Str}
    (h : Permitted m now S act scope [star]) :
    ∃ b ∈ m.liveBindings now, b.safeSubject = S ∧ scope = b.ns.val ∧ b.spec.role.level.allows act := by
  cases h with
  | inNamespace b live mine inside action => exact ⟨b, live, mine, inside, action⟩
  | storageClasses b live mine action object => exact absurd object (by decide)
  | registries b live mine level action object => exact absurd object (by decide)

/-- A subject that stays inside has only harmless bindings loaded for it. -/
theorem harmless_of_isolated {m : PlainObjects} {S : Str}
    (h : ∀ act scope obj, enforce (m.rules now) S act scope obj = true →
      Permitted m now S act scope obj)
    {b : RoleBinding} (hb : b ∈ m.liveBindings now) (hS : trimSpace b.safeSubject = S) :
    Harmless m now S b := by
  subst hS
  have hcluster : b.roleNamespace ≠ str "cluster" := by
    intro e
    have hr := mem_clusterRules_p.mpr ⟨b.spec.role.level, rfl⟩
    rw [← e] at hr
    have hal := enforce_level hb [star] (Or.inl rfl) (mem_rules_p.mpr (Or.inl hr))
    obtain ⟨b', _, _, hscope, _⟩ := (h _ _ _ hal).binding
    exact absurd b'.ns.text (by rw [← hscope]; decide)
  have hns : b.spec.role.isCluster = false := by
    cases hc : b.spec.role.isCluster with
    | false => rfl
    | true => exact absurd (by simp [RoleBinding.roleNamespace, hc]) hcluster
  have e := RoleBinding.roleNamespace_of_namespaced hns
  refine ⟨hns, fun hn => hcluster (e.trans hn), ?_⟩
  rintro ⟨a, ha, hab⟩
  have hr := mem_namespaceRules_p.mpr (Or.inl ⟨b.spec.role.level, rfl⟩ :
    _ ∨ _ = [roleName a.name.val .viewer, str "view", [star], str "storageClasses"] ∨
      _ = [roleName a.name.val .editor, str "view", [star], str "registries"])
  rw [hab] at hr
  have hal := enforce_level hb b.ns.val (Or.inl rfl)
    (mem_rules_p.mpr (Or.inr (Or.inl ⟨a, ha, by rw [e, hab]; exact hr⟩)))
  obtain ⟨b', hb', hS', hscope, hact⟩ := (h _ _ _ hal).binding
  exact ⟨b', hb', hS', hscope.symm, Level.allows_action.mp hact⟩

/-- **A subject bound in namespaces only stays inside them if and only if every binding that is
    loaded for it is harmless.** -/
theorem isolated_iff (m : PlainObjects) (now : Int) (sub : Str) (t : SubjectType)
    (hT : ∀ tok ∈ m.liveTokens now, safeSubject tok.name .user ≠ safeSubject sub t) :
    Isolated m now (safeSubject sub t) ↔
      ∀ b ∈ m.liveBindings now, trimSpace b.safeSubject = safeSubject sub t →
        Harmless m now (safeSubject sub t) b := by
  constructor
  · rintro ⟨P, hP, h⟩ b hb hS
    obtain rfl : m.rules now = P := Option.some.inj (m.updatePolicies_eq.symm.trans hP)
    exact harmless_of_isolated h hb hS
  · intro hH
    exact ⟨m.rules now, m.updatePolicies_eq, fun _ _ _ h => permitted_of_enforce hT hH h⟩

end Loaded

/-- One enabled namespace and one editor in it. -/
def oneEditor (ns : DnsLabel) : PlainObjects where
  applications := [⟨ns, [(kalmEnableLabelName, kalmEnableLabelValue)]⟩]
  accessTokens := []
  roleBindings :=
    [{ ns := ns
       name := ⟨str "eve", isDNS1123Subdomain_eve⟩
       spec := ⟨str "eve", .user, .editor, str "admin", none⟩ }]
  tokenName := by decide
  tokenRule := fun _ h => absurd h List.not_mem_nil
  subject := by
    intro b hb
    rw [List.mem_singleton.mp hb]
    exact ⟨(by decide : comma ∉ str "eve"), (by decide : newline ∉ str "eve")⟩

/-- The editor of an ordinary namespace stays inside. -/
theorem isolated_shop :
    Isolated (oneEditor ⟨str "shop", by decide⟩) 0 (safeSubject (str "eve") .user) := by
  refine (isolated_iff _ 0 (str "eve") .user (by decide)).mpr fun b hb _ => ?_
  obtain rfl := List.mem_singleton.mp (mem_liveBindings.mp hb).1
  exact ⟨rfl, by decide, fun _ => ⟨_, hb, by decide, rfl, Nat.le_refl _⟩⟩

/-- An editor of a namespace called `cluster` can edit everything. -/
theorem isolated_fails :
    ¬ ∀ (m : PlainObjects) (now : Int) (sub : Str) (t : SubjectType),
      (∀ tok ∈ m.liveTokens now, safeSubject tok.name .user ≠ safeSubject sub t) →
      (∀ b ∈ m.liveBindings now, b.safeSubject = safeSubject sub t →
        b.spec.role.isCluster = false) →
      Isolated m now (safeSubject sub t) := by
  intro h
  obtain ⟨P, hP, hin⟩ := h (oneEditor ⟨str "cluster", by decide⟩) 0 (str "eve") .user
    (by decide) (by decide)
  obtain rfl := Option.some.inj ((PlainObjects.updatePolicies_eq _).symm.trans hP)
  have hal : enforce ((oneEditor ⟨str "cluster", by decide⟩).rules 0)
      (safeSubject (str "eve") .user) (str "edit") [star] [star] = true := by decide +kernel
  obtain ⟨b, _, _, hscope, _⟩ := (hin _ _ _ hal).binding
  exact absurd b.ns.text (by rw [← hscope]; decide)

end Kalm
