/-
  File:      Kalm/Rbac/Policies.lean
  Subject:   THE POLICY TEXT: api/client/standard_manager.go from the objects to the loaded rules.

  * `PolicyLine`, `renderLines` -- what `UpdatePolicies` writes, line by line: blank lines, comments,
    p- and g-rows, each closed by a newline;
  * `ruleSet` -- the rules a list of lines is meant to say;
  * `loadPolicy_render` -- lines whose fields hold no separator load as these rules, each field
    trimmed; `loads_ruleSet_iff` -- the text loads as exactly these rules if and only if every
    field is clean;
  * `policyLines`, `updatePolicies` -- the lines of the manager's objects, in the order in which
    `range` happens to visit the maps.
-/
import Kalm.Rbac.Model
import Kalm.Rbac.Objects

namespace Kalm

/-! ## 1. Lines of a policy text -/

/-- A line of a policy text. -/
inductive PolicyLine where
  | blank
  | comment (text : Str)
  | p (fields : List Str)
  | g (fields : List Str)
  deriving DecidableEq

/-- A line as it is written. -/
def PolicyLine.render : PolicyLine → Str
  | .blank => []
  | .comment text => hash :: text
  | .p fields => sprintfRow (str "p") fields
  | .g fields => sprintfRow (str "g") fields

/-- The text of the lines. -/
def renderLines (lines : List PolicyLine) : Str :=
  Fields.unlines newline (lines.map PolicyLine.render)

/-- The rules the lines say. -/
def ruleSet (lines : List PolicyLine) : PolicySet where
  p := lines.filterMap fun | .p fields => some fields | _ => none
  g := lines.filterMap fun | .g fields => some fields | _ => none

/-- Every field trimmed. -/
def PolicySet.trimFields (P : PolicySet) : PolicySet where
  p := P.p.map (·.map trimSpace)
  g := P.g.map (·.map trimSpace)

@[simp] theorem mem_ruleSet_p {lines : List PolicyLine} {fields : List Str} :
    fields ∈ (ruleSet lines).p ↔ PolicyLine.p fields ∈ lines := by
  unfold ruleSet
  rw [List.mem_filterMap]
  constructor
  · rintro ⟨l, hl, e⟩
    cases l <;> simp_all
  · exact fun h => ⟨_, h, rfl⟩

@[simp] theorem mem_ruleSet_g {lines : List PolicyLine} {fields : List Str} :
    fields ∈ (ruleSet lines).g ↔ PolicyLine.g fields ∈ lines := by
  unfold ruleSet
  rw [List.mem_filterMap]
  constructor
  · rintro ⟨l, hl, e⟩
    cases l <;> simp_all
  · exact fun h => ⟨_, h, rfl⟩

/-- A line that is one line and whose fields are separated where it says. -/
def PolicyLine.Separated : PolicyLine → Prop
  | .blank => True
  | .comment text => newline ∉ text
  | .p fields => ∀ f ∈ fields, comma ∉ f ∧ newline ∉ f
  | .g fields => 2 ≤ fields.length ∧ ∀ f ∈ fields, comma ∉ f ∧ newline ∉ f

theorem PolicyLine.Separated.newline_not_mem {l : PolicyLine} (h : l.Separated) :
    newline ∉ l.render := by
  cases l with
  | blank => exact List.not_mem_nil
  | comment text =>
      rw [render, List.mem_cons, not_or]
      exact ⟨by decide, h⟩
  | p fields => exact newline_not_mem_sprintfRow (by decide) fun f hf => (h f hf).2
  | g fields => exact newline_not_mem_sprintfRow (by decide) fun f hf => (h.2 f hf).2

/-- What a separated line adds. -/
theorem parseLine_render {l : PolicyLine} (h : l.Separated) :
    parseLine l.render = some (match l with
      | .blank => .skip
      | .comment _ => .skip
      | .p fields => .p (fields.map trimSpace)
      | .g fields => .g (fields.map trimSpace)) := by
  cases l with
  | blank => rfl
  | comment text => exact parseLine_comment text
  | p fields => exact parseLine_pRow fun f hf => (h f hf).1
  | g fields => exact parseLine_gRow fun f hf => (h.2 f hf).1

/-- The separated lines, one by one. -/
theorem parseLines_render {lines : List PolicyLine} (h : ∀ l ∈ lines, l.Separated) :
    parseLines (lines.map PolicyLine.render ++ [[]]) = some (ruleSet lines).trimFields := by
  induction lines with
  | nil => rfl
  | cons l lines ih =>
      have ih' := ih fun k hk => h k (List.mem_cons_of_mem _ hk)
      rw [List.map_cons, List.cons_append, parseLines, parseLine_render (h l List.mem_cons_self), ih']
      cases l <;> rfl

/-- The pieces `LoadPolicy` reads of a list of lines. -/
theorem mem_pieces {lines : List PolicyLine} {piece : Str} :
    piece ∈ (renderLines lines).splitOn newline ↔
      (∃ l ∈ lines, piece ∈ l.render.splitOn newline) ∨ piece = [] := by
  rw [renderLines, Fields.splitOn_unlines, List.mem_append, List.mem_flatMap, List.mem_singleton]
  simp only [List.mem_map, exists_exists_and_eq_and]

theorem splitOn_renderLines {lines : List PolicyLine} (h : ∀ l ∈ lines, l.Separated) :
    (renderLines lines).splitOn newline = lines.map PolicyLine.render ++ [[]] := by
  rw [renderLines, Fields.splitOn_unlines]
  congr 1
  induction lines with
  | nil => rfl
  | cons l lines ih =>
      rw [List.map_cons, List.flatMap_cons, ih fun k hk => h k (List.mem_cons_of_mem _ hk),
        List.splitOn_eq_singleton (h l List.mem_cons_self).newline_not_mem, List.singleton_append]

/-- **Separated lines load as the rules they say, each field trimmed.** -/
theorem loadPolicy_render {lines : List PolicyLine} (h : ∀ l ∈ lines, l.Separated) :
    loadPolicy (renderLines lines) = some (ruleSet lines).trimFields := by
  refine loadPolicy_eq_some.mpr ⟨by rw [splitOn_renderLines h, parseLines_render h], ?_⟩
  intro rule hr
  obtain ⟨fields, hf, rfl⟩ := List.mem_map.mp hr
  rw [List.length_map]
  exact (h _ (mem_ruleSet_g.mp hf)).1

/-! ## 2. Loading exactly the rules -/

/-- The same rules, in any order and number. -/
structure PolicySet.SameRules (P Q : PolicySet) : Prop where
  p : ∀ rule, rule ∈ P.p ↔ rule ∈ Q.p
  g : ∀ rule, rule ∈ P.g ↔ rule ∈ Q.g

theorem PolicySet.trimFields_of_clean {P : PolicySet} (h : CleanRules P) : P.trimFields = P := by
  have hp : P.p.map (·.map trimSpace) = P.p :=
    (List.map_congr_left fun r hr => map_trimSpace_of_clean (h.1 r hr)).trans (List.map_id _)
  have hg : P.g.map (·.map trimSpace) = P.g :=
    (List.map_congr_left fun r hr => map_trimSpace_of_clean (h.2 r hr)).trans (List.map_id _)
  rw [trimFields, hp, hg]

/-- What the writer of the lines controls: comments are one line, g-rows have their two names. -/
def PolicyLine.Shaped : PolicyLine → Prop
  | .comment text => newline ∉ text
  | .g fields => 2 ≤ fields.length
  | _ => True

theorem PolicyLine.separated_of_clean {lines : List PolicyLine} (hs : ∀ l ∈ lines, l.Shaped)
    (h : CleanRules (ruleSet lines)) : ∀ l ∈ lines, l.Separated := by
  intro l hl
  cases l with
  | blank => trivial
  | comment text => exact hs _ hl
  | p fields => exact fun f hf =>
      have hc := h.1 fields (mem_ruleSet_p.mpr hl) f hf
      ⟨hc.noComma, hc.noNewline⟩
  | g fields => exact ⟨hs _ hl, fun f hf =>
      have hc := h.2 fields (mem_ruleSet_g.mpr hl) f hf
      ⟨hc.noComma, hc.noNewline⟩⟩

/-- **A text loads as exactly the rules its lines say if and only if every field is clean**: a
    loaded field is always clean, and clean fields come through. -/
theorem loads_ruleSet_iff {lines : List PolicyLine} (hs : ∀ l ∈ lines, l.Shaped) :
    (∃ P, loadPolicy (renderLines lines) = some P ∧ P.SameRules (ruleSet lines)) ↔
      CleanRules (ruleSet lines) := by
  constructor
  · rintro ⟨P, hP, same⟩
    obtain ⟨hp, hg⟩ := cleanRules_of_loadPolicy hP
    exact ⟨fun r hr => hp r ((same.p r).mpr hr), fun r hr => hg r ((same.g r).mpr hr)⟩
  · intro h
    refine ⟨ruleSet lines, ?_, ⟨fun _ => Iff.rfl, fun _ => Iff.rfl⟩⟩
    rw [loadPolicy_render (PolicyLine.separated_of_clean hs h), PolicySet.trimFields_of_clean h]

/-! ## 3. Subjects and roles -/

/-- `ToSafeSubject`: an unknown type panics. -/
def toSafeSubject (sub subType : Str) : Option Str :=
  if subType = str "user" then some (str "user-" ++ sub)
  else if subType = str "group" then some (str "group-" ++ sub)
  else none

/-- `ToSafeSubject` for a type of the enum. -/
def safeSubject (sub : Str) : SubjectType → Str
  | .user => str "user-" ++ sub
  | .group => str "group-" ++ sub

/-- `roleValueToPolicyValue`. -/
def roleValueToPolicyValue (role : Role) (ns : Str) : Str :=
  match role with
  | .clusterViewer | .clusterEditor | .clusterOwner => str "role_" ++ role.value
  | .viewer | .editor | .owner =>
    str "role_" ++ (ns ++ (toUpper (role.value.take 1) ++ role.value.drop 1))

/-! ## 4. The lines of one object -/

/-- `BuildClusterRolePolicies`. -/
def buildClusterRolePolicies : List PolicyLine :=
  [.blank,
   .comment (str " cluster role policies"),
   .p [str "role_clusterViewer", str "view", [star], [star]],
   .p [str "role_clusterEditor", str "edit", [star], [star]],
   .p [str "role_clusterOwner", str "manage", [star], [star]],
   .g [str "role_clusterEditor", str "role_clusterViewer"],
   .g [str "role_clusterOwner", str "role_clusterEditor"]]

/-- The replacements of html/template in HTML text. -/
def htmlReplacement (b : UInt8) : Str :=
  if b = 0 then str "\uFFFD"
  else if b = 34 then str "&#34;"
  else if b = 38 then str "&amp;"
  else if b = 39 then str "&#39;"
  else if b = 43 then str "&#43;"
  else if b = 60 then str "&lt;"
  else if b = 62 then str "&gt;"
  else [b]

/-- What the template puts for `{{ .name }}`. -/
def htmlEscape (s : Str) : Str := s.flatMap htmlReplacement

/-- `role_{{ .name }}Viewer`, `…Editor`, `…Owner`. -/
def namespaceRole (name : Str) (suffix : Str) : Str := str "role_" ++ (name ++ suffix)

/-- The rows of `BuildRolePoliciesForNamespace` for a name as the template prints it. -/
def namespaceRoleLines (name : Str) : List PolicyLine :=
  [.blank,
   .comment (space :: (name ++ str " application role policies")),
   .p [namespaceRole name (str "Viewer"), str "view", name, [star]],
   .p [namespaceRole name (str "Viewer"), str "view", [star], str "storageClasses"],
   .p [namespaceRole name (str "Editor"), str "edit", name, [star]],
   .p [namespaceRole name (str "Editor"), str "view", [star], str "registries"],
   .p [namespaceRole name (str "Owner"), str "manage", name, [star]],
   .g [namespaceRole name (str "Editor"), namespaceRole name (str "Viewer")],
   .g [namespaceRole name (str "Owner"), namespaceRole name (str "Editor")]]

/-- `BuildRolePoliciesForNamespace`. -/
def buildRolePoliciesForNamespace (name : Str) : List PolicyLine :=
  namespaceRoleLines (htmlEscape name)

/-- The object a rule names. -/
def AccessTokenRule.obj (rule : AccessTokenRule) : Str :=
  if rule.ns = [star] ∧ rule.name = [star] then [star] else rule.kind ++ slash :: rule.name

/-- The tuple of a rule. -/
def AccessTokenRule.policy (name : Str) (rule : AccessTokenRule) : List Str :=
  [safeSubject name .user, rule.verb.value, rule.ns, rule.obj]

/-- `GetPoliciesFromAccessToken`. -/
def getPoliciesFromAccessToken (accessToken : AccessToken) : List (List Str) :=
  accessToken.spec.rules.map (AccessTokenRule.policy accessToken.name)

/-- The lines of an access token. -/
def AccessToken.policyLines (now : Int) (accessToken : AccessToken) : List PolicyLine :=
  if expired accessToken.spec.expiredAt now then []
  else
    .comment (str " policies for access token " ++ accessToken.name) ::
      (getPoliciesFromAccessToken accessToken).map .p

/-- The link of a role binding. -/
def RoleBinding.policy (roleBinding : RoleBinding) : List Str :=
  [safeSubject roleBinding.spec.subject roleBinding.spec.subjectType,
   roleValueToPolicyValue roleBinding.spec.role roleBinding.ns.val]

/-- The lines of a role binding. -/
def RoleBinding.policyLines (now : Int) (roleBinding : RoleBinding) : List PolicyLine :=
  if expired roleBinding.spec.expiredAt now then []
  else [.comment (str " policies for rolebinding " ++ roleBinding.name.val), .g roleBinding.policy]

/-- The lines of a namespace. -/
def Namespace.policyLines (application : Namespace) : List PolicyLine :=
  if application.kalmEnabled then buildRolePoliciesForNamespace application.name.val else []

/-! ## 5. `UpdatePolicies` -/

/-- The values of the manager's three maps, in the order of a `range` over each. -/
structure ManagerObjects where
  applications : List Namespace
  accessTokens : List AccessToken
  roleBindings : List RoleBinding

/-- The lines `UpdatePolicies` writes. -/
def policyLines (now : Int) (m : ManagerObjects) : List PolicyLine :=
  buildClusterRolePolicies ++ m.applications.flatMap Namespace.policyLines ++
    m.accessTokens.flatMap (AccessToken.policyLines now) ++
    m.roleBindings.flatMap (RoleBinding.policyLines now)

/-- `UpdatePolicies`: the rules it leaves in the enforcer; a load that fails panics. -/
def updatePolicies (now : Int) (m : ManagerObjects) : Option PolicySet :=
  loadPolicy (renderLines (policyLines now m))

theorem mem_policyLines {now : Int} {m : ManagerObjects} {l : PolicyLine} :
    l ∈ policyLines now m ↔ l ∈ buildClusterRolePolicies ∨
      (∃ a ∈ m.applications, a.kalmEnabled = true ∧ l ∈ buildRolePoliciesForNamespace a.name.val) ∨
      (∃ t ∈ m.accessTokens, l ∈ t.policyLines now) ∨
      (∃ b ∈ m.roleBindings, l ∈ b.policyLines now) := by
  simp only [policyLines, Namespace.policyLines, List.mem_append, List.mem_flatMap,
    List.mem_ite_nil_right, or_assoc]

/-- The cluster roles' p-rules are always loaded. -/
theorem updatePolicies_p_ne_nil {now : Int} {m : ManagerObjects} {P : PolicySet}
    (h : updatePolicies now m = some P) : P.p ≠ [] := by
  have hp := (mem_parseLines (loadPolicy_eq_some.mp h).1).1
  have hline : PolicyLine.p [str "role_clusterViewer", str "view", [star], [star]] ∈
      policyLines now m := mem_policyLines.mpr (Or.inl (by decide))
  have hparse : parseLine (str "p, role_clusterViewer, view, *, *") =
      some (.p [str "role_clusterViewer", str "view", [star], [star]]) := by decide +kernel
  refine List.ne_nil_of_mem ((hp _).mpr ⟨_, mem_pieces.mpr (Or.inl ⟨_, hline, ?_⟩), hparse⟩)
  decide +kernel

end Kalm
