/-
  File:      Kalm/Rbac/Injection.lean
  Subject:   WHAT THE OBJECTS MEAN AND WHAT THE ENFORCER LOADS: the rules the objects are there to
             grant, and when the text written for them loads as exactly these.

  * `intendedRules` -- the meaning of the objects: the cluster roles, the roles of each enabled
    namespace, the tuples of each unexpired token, one link for each unexpired binding;
  * `sameRules_intended` -- these are the rows `UpdatePolicies` prints;
  * `policyLines_shaped` -- names of accepted objects never break a comment line;
  * `freeText_iff` -- of all fields of accepted objects only two are free text: the kind of a rule
    and the subject of a binding.
-/
import Kalm.Rbac.Policies

namespace Kalm

/-! ## 1. The meaning of the objects -/

/-- The rules of the cluster roles. -/
def clusterRules : PolicySet := ruleSet buildClusterRolePolicies

/-- The rules of one namespace. -/
def namespaceRules (name : Str) : PolicySet := ruleSet (namespaceRoleLines name)

/-- The enabled namespaces. -/
def ManagerObjects.enabled (m : ManagerObjects) : List Namespace :=
  m.applications.filter (·.kalmEnabled)

/-- The tokens that have not expired. -/
def ManagerObjects.liveTokens (now : Int) (m : ManagerObjects) : List AccessToken :=
  m.accessTokens.filter (fun t => !expired t.spec.expiredAt now)

/-- The bindings that have not expired. -/
def ManagerObjects.liveBindings (now : Int) (m : ManagerObjects) : List RoleBinding :=
  m.roleBindings.filter (fun b => !expired b.spec.expiredAt now)

/-- The rules the objects are there to grant. -/
def intendedRules (now : Int) (m : ManagerObjects) : PolicySet where
  p := clusterRules.p ++ m.enabled.flatMap (fun a => (namespaceRules a.name.val).p) ++
    (m.liveTokens now).flatMap getPoliciesFromAccessToken
  g := clusterRules.g ++ m.enabled.flatMap (fun a => (namespaceRules a.name.val).g) ++
    (m.liveBindings now).map RoleBinding.policy

theorem mem_liveTokens {now : Int} {m : ManagerObjects} {t : AccessToken} :
    t ∈ m.liveTokens now ↔ t ∈ m.accessTokens ∧ expired t.spec.expiredAt now = false := by
  simp [ManagerObjects.liveTokens]

theorem mem_liveBindings {now : Int} {m : ManagerObjects} {b : RoleBinding} :
    b ∈ m.liveBindings now ↔ b ∈ m.roleBindings ∧ expired b.spec.expiredAt now = false := by
  simp [ManagerObjects.liveBindings]

theorem mem_enabled {m : ManagerObjects} {a : Namespace} :
    a ∈ m.enabled ↔ a ∈ m.applications ∧ a.kalmEnabled = true := by
  simp [ManagerObjects.enabled]

theorem htmlReplacement_of_label {b : UInt8} (h : isLabelByte b = true) :
    htmlReplacement b = [b] := by
  have hne : ∀ c, isLabelByte c = false → b ≠ c := by
    rintro c hc rfl
    exact absurd (h.symm.trans hc) (by decide)
  simp [htmlReplacement, hne 0 (by decide), hne 34 (by decide), hne 38 (by decide),
    hne 39 (by decide), hne 43 (by decide), hne 60 (by decide), hne 62 (by decide)]

/-- The template leaves label text as it is. -/
theorem htmlEscape_of_label {s : Str} (h : ∀ b ∈ s, isLabelByte b = true) : htmlEscape s = s := by
  induction s with
  | nil => rfl
  | cons b s ih =>
      have ih' := ih fun c hc => h c (List.mem_cons_of_mem _ hc)
      rw [htmlEscape, List.flatMap_cons, htmlReplacement_of_label (h b List.mem_cons_self)]
      exact congrArg (b :: ·) ih'

theorem buildRolePoliciesForNamespace_label (n : DnsLabel) :
    buildRolePoliciesForNamespace n.val = namespaceRoleLines n.val := by
  rw [buildRolePoliciesForNamespace, htmlEscape_of_label n.label]

/-- The lines of a token are a comment and its tuples. -/
theorem mem_accessToken_policyLines {now : Int} {t : AccessToken} {l : PolicyLine} :
    l ∈ t.policyLines now ↔ expired t.spec.expiredAt now = false ∧
      (l = .comment (str " policies for access token " ++ t.name) ∨
        ∃ fields ∈ getPoliciesFromAccessToken t, l = .p fields) := by
  unfold AccessToken.policyLines
  cases expired t.spec.expiredAt now <;> simp [eq_comm]

/-- The lines of a binding are a comment and its link. -/
theorem mem_roleBinding_policyLines {now : Int} {b : RoleBinding} {l : PolicyLine} :
    l ∈ b.policyLines now ↔ expired b.spec.expiredAt now = false ∧
      (l = .comment (str " policies for rolebinding " ++ b.name.val) ∨ l = .g b.policy) := by
  unfold RoleBinding.policyLines
  cases expired b.spec.expiredAt now <;> simp

/-- **The rows `UpdatePolicies` prints are the rules the objects mean.** -/
theorem sameRules_intended (now : Int) (m : ManagerObjects) :
    (ruleSet (policyLines now m)).SameRules (intendedRules now m) := by
  constructor
  · intro rule
    rw [mem_ruleSet_p, mem_policyLines]
    simp only [intendedRules, clusterRules, namespaceRules, List.mem_append, List.mem_flatMap,
      mem_ruleSet_p, mem_enabled, mem_liveTokens, mem_accessToken_policyLines,
      mem_roleBinding_policyLines, buildRolePoliciesForNamespace_label, PolicyLine.p.injEq,
      reduceCtorEq, false_or, or_false, and_false, exists_eq_right', exists_false, or_assoc, and_assoc]
  · intro rule
    rw [mem_ruleSet_g, mem_policyLines]
    simp only [intendedRules, clusterRules, namespaceRules, List.mem_append, List.mem_flatMap,
      List.mem_map, mem_ruleSet_g, mem_enabled, mem_liveBindings, mem_accessToken_policyLines,
      mem_roleBinding_policyLines, buildRolePoliciesForNamespace_label, PolicyLine.g.injEq,
      reduceCtorEq, false_or, or_false, and_false, exists_false, or_assoc, and_assoc,
      eq_comm (a := rule)]

/-! ## 2. Accepted objects -/

/-- The objects of a cluster, each of them accepted. -/
structure AcceptedObjects (sum256 : Str → List UInt8) where
  applications : List Namespace
  accessTokens : List (AcceptedAccessToken sum256)
  roleBindings : List AcceptedRoleBinding

/-- The objects without their proofs. -/
def AcceptedObjects.objects {sum256 : Str → List UInt8} (m : AcceptedObjects sum256) :
    ManagerObjects where
  applications := m.applications
  accessTokens := m.accessTokens.map (·.toAccessToken)
  roleBindings := m.roleBindings.map (·.toRoleBinding)

section Accepted

variable {sum256 : Str → List UInt8} {now : Int}

theorem graphic_of_hexEncode (bs : List UInt8) : Graphic (hexEncode bs) := by
  intro b hb
  rcases hexEncode_range hb with ⟨h1, h2⟩ | ⟨h1, h2⟩ <;>
    · simp only [UInt8.le_iff_toNat_le, UInt8.reduceToNat] at h1 h2 ⊢
      omega

theorem comma_not_mem_hexEncode (bs : List UInt8) : comma ∉ hexEncode bs :=
  fun h => absurd (hexEncode_range h) (by decide)

theorem newline_not_mem_of_graphic {s : Str} (h : Graphic s) : newline ∉ s :=
  fun hn => absurd (h _ hn) (by decide)

theorem AcceptedAccessToken.name_eq (t : AcceptedAccessToken sum256) :
    t.name = hexEncode (sum256 t.spec.token) :=
  ((AccessToken.validate_eq_nil sum256).mp t.valid).1

theorem AcceptedAccessToken.graphic_name (t : AcceptedAccessToken sum256) : Graphic t.name := by
  rw [t.name_eq]
  exact graphic_of_hexEncode _

theorem AcceptedAccessToken.rule_ok (t : AcceptedAccessToken sum256) {rule : AccessTokenRule}
    (h : rule ∈ t.spec.rules) : rule.NamespaceOk ∧ rule.NameOk :=
  ((AccessToken.validate_eq_nil sum256).mp t.valid).2 rule h

theorem newline_not_mem_append_right {s t : Str} (hs : newline ∉ s) (ht : Graphic t) :
    newline ∉ s ++ t := by
  rw [List.mem_append, not_or]
  exact ⟨hs, newline_not_mem_of_graphic ht⟩

theorem buildClusterRolePolicies_shaped : ∀ l ∈ buildClusterRolePolicies, l.Shaped := by
  intro l hl
  simp only [buildClusterRolePolicies, List.mem_cons, List.not_mem_nil, or_false] at hl
  rcases hl with rfl | rfl | rfl | rfl | rfl | rfl | rfl
  all_goals simp only [PolicyLine.Shaped, List.length_cons, List.length_nil, le_refl]
  decide

theorem namespaceRoleLines_shaped (n : DnsLabel) : ∀ l ∈ namespaceRoleLines n.val, l.Shaped := by
  intro l hl
  simp only [namespaceRoleLines, List.mem_cons, List.not_mem_nil, or_false] at hl
  rcases hl with rfl | rfl | rfl | rfl | rfl | rfl | rfl | rfl | rfl
  all_goals simp only [PolicyLine.Shaped, List.length_cons, List.length_nil, le_refl]
  rw [List.mem_cons, List.mem_append, not_or, not_or]
  exact ⟨by decide, newline_not_mem_of_graphic (isLabelText_graphic n.text), by decide⟩

/-- **No name of an accepted object breaks a line of its own.** -/
theorem policyLines_shaped (m : AcceptedObjects sum256) :
    ∀ l ∈ policyLines now m.objects, l.Shaped := by
  intro l hl
  rcases mem_policyLines.mp hl with h | ⟨a, _, _, h⟩ | ⟨t, ht, h⟩ | ⟨b, _, h⟩
  · exact buildClusterRolePolicies_shaped l h
  · rw [buildRolePoliciesForNamespace_label] at h
    exact namespaceRoleLines_shaped a.name l h
  · obtain ⟨t', _, rfl⟩ := List.mem_map.mp ht
    rcases (mem_accessToken_policyLines.mp h).2 with rfl | ⟨fields, _, rfl⟩
    · exact newline_not_mem_append_right (by decide) t'.graphic_name
    · trivial
  · rcases (mem_roleBinding_policyLines.mp h).2 with rfl | rfl
    · exact newline_not_mem_append_right (by decide) b.name.graphic
    · exact Nat.le_refl 2

/-! ## 3. The two free texts -/

/-- A kind that stays in its field: no separator, and no white space where the field begins. -/
structure KindStays (kind : Str) : Prop where
  noComma : comma ∉ kind
  noNewline : newline ∉ kind
  noLeadingSpace : ∀ b ∈ spaceBytes, ¬ b <+: kind

/-- A subject that stays in its field: no separator, and no white space where the field ends. -/
structure SubjectStays (subject : Str) : Prop where
  noComma : comma ∉ subject
  noNewline : newline ∉ subject
  noTrailingSpace : ∀ b ∈ spaceBytes, ¬ b <:+ subject

/-- Every free text of the unexpired objects stays in its field. A rule for everything (`*`, `*`)
    does not print its kind. -/
structure FreeTextStays (now : Int) (m : ManagerObjects) : Prop where
  kind : ∀ t ∈ m.liveTokens now, ∀ rule ∈ t.spec.rules,
    ¬ (rule.ns = [star] ∧ rule.name = [star]) → KindStays rule.kind
  subject : ∀ b ∈ m.liveBindings now, SubjectStays b.spec.subject

theorem cleanField_obj_iff {rule : AccessTokenRule} (hn : rule.NameOk)
    (hs : ¬ (rule.ns = [star] ∧ rule.name = [star])) :
    CleanField rule.obj ↔ KindStays rule.kind := by
  have hname : Graphic rule.name ∧ comma ∉ rule.name := by
    rcases hn with h | h
    · rw [h]
      exact ⟨by decide, by decide⟩
    · have ht := isDNS1035Label_text h
      exact ⟨isLabelText_graphic ht, (isLabelText_cleanField ht).noComma⟩
  have hg : Graphic (slash :: rule.name) := graphic_cons.mpr ⟨by decide, hname.1⟩
  have hc : comma ∉ slash :: rule.name := by
    rw [List.mem_cons, not_or]
    exact ⟨by decide, hname.2⟩
  rw [AccessTokenRule.obj, if_neg hs, cleanField_append_graphic hg hc (List.cons_ne_nil _ _)]
  exact ⟨fun ⟨h1, h2, h3⟩ => ⟨h1, h2, h3⟩, fun ⟨h1, h2, h3⟩ => ⟨h1, h2, h3⟩⟩

theorem cleanField_safeSubject_iff {subject : Str} {t : SubjectType} :
    CleanField (safeSubject subject t) ↔ SubjectStays subject := by
  have key : ∀ pre : Str, Graphic pre → comma ∉ pre → pre ≠ [] →
      (CleanField (pre ++ subject) ↔ SubjectStays subject) := fun pre h1 h2 h3 =>
    (cleanField_graphic_append h1 h2 h3).trans
      ⟨fun ⟨h1, h2, h3⟩ => ⟨h1, h2, h3⟩, fun ⟨h1, h2, h3⟩ => ⟨h1, h2, h3⟩⟩
  cases t with
  | user => exact key (str "user-") (by decide) (by decide) (by decide)
  | group => exact key (str "group-") (by decide) (by decide) (by decide)

theorem cleanField_namespaceRole {name suffix : Str} (hn : isLabelText name = true)
    (hs : Graphic suffix) (hc : comma ∉ suffix) : CleanField (namespaceRole name suffix) := by
  refine cleanField_of_graphic ?_ ?_
  · exact Graphic.append (by decide) (Graphic.append (isLabelText_graphic hn) hs)
  · rw [namespaceRole, List.mem_append, List.mem_append, not_or, not_or]
    exact ⟨by decide, (isLabelText_cleanField hn).noComma, hc⟩

theorem cleanField_roleValue (role : Role) (ns : DnsLabel) :
    CleanField (roleValueToPolicyValue role ns.val) := by
  cases role with
  | viewer => exact cleanField_namespaceRole ns.text (by decide) (by decide)
  | editor => exact cleanField_namespaceRole ns.text (by decide) (by decide)
  | owner => exact cleanField_namespaceRole ns.text (by decide) (by decide)
  | clusterViewer => exact (by decide : CleanField (str "role_clusterViewer"))
  | clusterEditor => exact (by decide : CleanField (str "role_clusterEditor"))
  | clusterOwner => exact (by decide : CleanField (str "role_clusterOwner"))

theorem cleanRules_clusterRules : CleanRules clusterRules := by
  unfold CleanRules clusterRules
  decide

theorem cleanRules_namespaceRules (n : DnsLabel) : CleanRules (namespaceRules n.val) := by
  have hn := isLabelText_cleanField n.text
  have hV : CleanField (namespaceRole n.val (str "Viewer")) :=
    cleanField_namespaceRole n.text (by decide) (by decide)
  have hE : CleanField (namespaceRole n.val (str "Editor")) :=
    cleanField_namespaceRole n.text (by decide) (by decide)
  have hO : CleanField (namespaceRole n.val (str "Owner")) :=
    cleanField_namespaceRole n.text (by decide) (by decide)
  have hview : CleanField (str "view") := by decide
  have hedit : CleanField (str "edit") := by decide
  have hmanage : CleanField (str "manage") := by decide
  have hstar : CleanField [star] := by decide
  have hsc : CleanField (str "storageClasses") := by decide
  have hreg : CleanField (str "registries") := by decide
  constructor <;> intro rule hr <;>
    simp only [namespaceRules, mem_ruleSet_p, mem_ruleSet_g, namespaceRoleLines, List.mem_cons,
      List.not_mem_nil, reduceCtorEq, PolicyLine.p.injEq, PolicyLine.g.injEq, false_or,
      or_false] at hr
  · rcases hr with rfl | rfl | rfl | rfl | rfl <;> simp [*]
  · rcases hr with rfl | rfl <;> simp [*]

theorem cleanField_verb (v : AccessTokenVerb) : CleanField v.value := by
  cases v <;> decide

theorem cleanField_ruleNamespace {rule : AccessTokenRule} (h : rule.NamespaceOk) :
    CleanField rule.ns := by
  rcases h with h | h
  · rw [h]
    decide
  · exact isLabelText_cleanField (isDNS1123Label_text h)

/-- A tuple of a token is clean as far as its object is. -/
theorem clean_policy_iff (t : AcceptedAccessToken sum256) {rule : AccessTokenRule}
    (hr : rule ∈ t.spec.rules) :
    (∀ f ∈ rule.policy t.name, CleanField f) ↔ CleanField rule.obj := by
  have hsub : CleanField (safeSubject t.name .user) := by
    refine cleanField_of_graphic (Graphic.append (by decide) t.graphic_name) ?_
    rw [safeSubject, List.mem_append, not_or]
    refine ⟨by decide, ?_⟩
    rw [t.name_eq]
    exact comma_not_mem_hexEncode _
  have hns := cleanField_ruleNamespace (t.rule_ok hr).1
  simp [AccessTokenRule.policy, hsub, hns, cleanField_verb rule.verb]

/-- **Two free texts.** The rules of accepted objects are clean if and only if the kinds and the
    subjects stay in their fields. -/
theorem freeText_iff {m : AcceptedObjects sum256} :
    CleanRules (intendedRules now m.objects) ↔ FreeTextStays now m.objects := by
  constructor
  · rintro ⟨hp, hg⟩
    refine ⟨fun t ht rule hr hs => ?_, fun b hb => ?_⟩
    · obtain ⟨t', _, rfl⟩ := List.mem_map.mp (mem_liveTokens.mp ht).1
      have hin : rule.policy t'.name ∈ (intendedRules now m.objects).p :=
        List.mem_append_right _ (List.mem_flatMap.mpr ⟨_, ht, List.mem_map_of_mem hr⟩)
      have hobj := (clean_policy_iff t' hr).mp (hp _ hin)
      exact (cleanField_obj_iff (t'.rule_ok hr).2 hs).mp hobj
    · have hin : b.policy ∈ (intendedRules now m.objects).g :=
        List.mem_append_right _ (List.mem_map_of_mem hb)
      exact cleanField_safeSubject_iff.mp (hg _ hin _ List.mem_cons_self)
  · rintro ⟨hk, hs⟩
    refine ⟨fun rule hr => ?_, fun rule hr => ?_⟩
    · rcases List.mem_append.mp hr with hr | hr
      · rcases List.mem_append.mp hr with hr | hr
        · exact cleanRules_clusterRules.1 rule hr
        · obtain ⟨a, _, ha⟩ := List.mem_flatMap.mp hr
          exact (cleanRules_namespaceRules a.name).1 rule ha
      · obtain ⟨t, ht, hrt⟩ := List.mem_flatMap.mp hr
        obtain ⟨r, hr', rfl⟩ := List.mem_map.mp hrt
        obtain ⟨t', _, rfl⟩ := List.mem_map.mp (mem_liveTokens.mp ht).1
        refine (clean_policy_iff t' hr').mpr ?_
        by_cases hall : r.ns = [star] ∧ r.name = [star]
        · rw [AccessTokenRule.obj, if_pos hall]
          decide
        · exact (cleanField_obj_iff (t'.rule_ok hr').2 hall).mpr (hk _ ht r hr' hall)
    · rcases List.mem_append.mp hr with hr | hr
      · rcases List.mem_append.mp hr with hr | hr
        · exact cleanRules_clusterRules.2 rule hr
        · obtain ⟨a, _, ha⟩ := List.mem_flatMap.mp hr
          exact (cleanRules_namespaceRules a.name).2 rule ha
      · obtain ⟨b, hb, rfl⟩ := List.mem_map.mp hr
        intro f hf
        simp only [RoleBinding.policy, List.mem_cons, List.not_mem_nil, or_false] at hf
        rcases hf with rfl | rfl
        · exact cleanField_safeSubject_iff.mpr (hs b hb)
        · exact cleanField_roleValue _ _

/-! ## 4. No rule more and no rule less -/

theorem PolicySet.SameRules.symm {P Q : PolicySet} (h : P.SameRules Q) : Q.SameRules P :=
  ⟨fun r => (h.p r).symm, fun r => (h.g r).symm⟩

theorem PolicySet.SameRules.trans {P Q R : PolicySet} (h : P.SameRules Q) (h' : Q.SameRules R) :
    P.SameRules R :=
  ⟨fun r => (h.p r).trans (h'.p r), fun r => (h.g r).trans (h'.g r)⟩

theorem PolicySet.SameRules.cleanRules {P Q : PolicySet} (h : P.SameRules Q) (hP : CleanRules P) :
    CleanRules Q :=
  ⟨fun r hr => hP.1 r ((h.p r).mpr hr), fun r hr => hP.2 r ((h.g r).mpr hr)⟩

/-- The enforcer holds exactly the rules the objects mean. -/
def LoadsIntended (now : Int) (m : ManagerObjects) : Prop :=
  ∃ P, updatePolicies now m = some P ∧ P.SameRules (intendedRules now m)

/-- Rules that come out of the loader as they went in are clean. -/
theorem LoadsIntended.clean {m : ManagerObjects} (h : LoadsIntended now m) :
    CleanRules (intendedRules now m) := by
  obtain ⟨P, hP, same⟩ := h
  exact same.cleanRules (cleanRules_of_loadPolicy hP)

/-- **Exactly the intended rules are loaded if and only if the kinds and the subjects of the
    unexpired objects stay in their fields.** -/
theorem loadsIntended_iff (m : AcceptedObjects sum256) :
    LoadsIntended now m.objects ↔ FreeTextStays now m.objects := by
  rw [← freeText_iff]
  constructor
  · exact LoadsIntended.clean
  · intro h
    have same := sameRules_intended now m.objects
    obtain ⟨P, hP, hsame⟩ :=
      (loads_ruleSet_iff (policyLines_shaped m)).mpr (same.symm.cleanRules h)
    exact ⟨P, hP, hsame.trans same⟩

end Accepted

/-- A binding of an ordinary namespace role whose subject goes on to name another role. -/
def evilBinding : AcceptedRoleBinding where
  ns := ⟨str "shop", isDNS1123Label_shop⟩
  name := ⟨str "eve", isDNS1123Subdomain_eve⟩
  spec :=
    { subject := str "eve, role_clusterOwner"
      subjectType := .user
      role := .viewer
      creator := str "admin"
      expiredAt := none }
  markers := ⟨by decide, by decide⟩
  valid := by decide

/-- An accepted binding is not loaded as the link it means. -/
theorem loadsIntended_fails :
    ¬ ∀ (sum256 : Str → List UInt8) (now : Int) (m : AcceptedObjects sum256),
      LoadsIntended now m.objects := by
  intro h
  have hfree := freeText_iff.mp (h (fun _ => []) 0 ⟨[], [], [evilBinding]⟩).clean
  have hs := hfree.subject evilBinding.toRoleBinding (mem_liveBindings.mpr ⟨by decide, rfl⟩)
  exact absurd hs.noComma (by decide)

end Kalm
