/-
  File:      Kalm/Rbac/Client.lean
  Subject:   THE CLIENT and its permissions: api/client/base.go.

  * `ClientInfo.subjects` -- the names a client acts under: the impersonated subject alone, or the
    e-mail and every group; `none` where `ToSafeSubject` panics;
  * `wrapper`, `can`, `canEditNamespace`, … -- a client can what one of its subjects can;
  * `permissionsGreaterThanOrEqualAccessToken` -- the check before a token is created, which asks
    about each rule's PATTERN as if it were an object;
  * `no_escalation` -- it is enough: what the token's tuples allow, the client can.

  The containment rests on `objMatch_trans` (Wildcard.lean: matching composes) and on the star
  scope, which no other scope contains.
-/
import Kalm.Rbac.Policies

namespace Kalm

/-! ## 1. Clients -/

/-- `ClientInfo`: what authorization reads of it. `groups` is `none` for a nil slice. -/
structure ClientInfo where
  email : Str
  groups : Option (List Str)
  impersonation : Str
  impersonationType : Str
  deriving DecidableEq

/-- The names `wrapper` asks the enforcer about, in its order. -/
def ClientInfo.subjects (client : ClientInfo) : Option (List Str) :=
  if client.impersonation ≠ [] then
    (toSafeSubject client.impersonation client.impersonationType).map fun s => [s]
  else
    some (safeSubject client.email .user ::
      (client.groups.getD []).map fun g => safeSubject g .group)

/-- `BaseClientManager.wrapper`. -/
def wrapper (client : ClientInfo) (authFunc : Str → Bool) : Option Bool :=
  client.subjects.map fun subjects => subjects.any authFunc

theorem wrapper_eq_true {client : ClientInfo} {authFunc : Str → Bool} :
    wrapper client authFunc = some true ↔
      ∃ subjects, client.subjects = some subjects ∧ ∃ s ∈ subjects, authFunc s = true := by
  simp [wrapper, Option.map_eq_some_iff, List.any_eq_true]

/-- A client can more when each of its subjects can more. -/
theorem wrapper_mono {client : ClientInfo} {f g : Str → Bool} (h : ∀ s, f s = true → g s = true)
    (hf : wrapper client f = some true) : wrapper client g = some true := by
  obtain ⟨subjects, hs, s, hmem, hfs⟩ := wrapper_eq_true.mp hf
  exact wrapper_eq_true.mpr ⟨subjects, hs, s, hmem, h s hfs⟩

/-- Whether the wrapper panics does not depend on the question. -/
theorem wrapper_isSome {client : ClientInfo} (f g : Str → Bool) :
    (wrapper client f).isSome = (wrapper client g).isSome := by
  simp [wrapper]

section Permissions

variable (P : PolicySet) (client : ClientInfo)

/-- `Can`. -/
def can (action scope obj : Str) : Option Bool :=
  wrapper client fun s => enforce P s action scope obj

/-- `CanView`. -/
def canView (scope obj : Str) : Option Bool := can P client (str "view") scope obj

/-- `CanEdit`. -/
def canEdit (scope obj : Str) : Option Bool := can P client (str "edit") scope obj

/-- `CanManage`. -/
def canManage (scope obj : Str) : Option Bool := can P client (str "manage") scope obj

/-- `CanViewNamespace`. -/
def canViewNamespace (scope : Str) : Option Bool := canView P client scope [star]

/-- `CanEditNamespace`. -/
def canEditNamespace (scope : Str) : Option Bool := canEdit P client scope [star]

/-- `CanManageNamespace`. -/
def canManageNamespace (scope : Str) : Option Bool := canManage P client scope [star]

/-- `CanViewCluster`. -/
def canViewCluster : Option Bool := canView P client [star] [star]

/-- `CanEditCluster`. -/
def canEditCluster : Option Bool := canEdit P client [star] [star]

/-- `CanManageCluster`. -/
def canManageCluster : Option Bool := canManage P client [star] [star]

/-- `CanManageRoleBinding`: a cluster role is the cluster's, any other text the namespace's. -/
def canManageRoleBinding (role ns : Str) : Option Bool :=
  if role = str "clusterViewer" ∨ role = str "clusterEditor" ∨ role = str "clusterOwner" then
    canManageCluster P client
  else canManageNamespace P client ns

/-- The loop of `PermissionsGreaterThanOrEqualAccessToken` over the tuples. -/
def coversPolicies : List (List Str) → Option Bool
  | [] => some true
  | policy :: policies =>
    match policy with
    | _ :: act :: scope :: obj :: _ =>
      match can P client act scope obj with
      | some true => coversPolicies policies
      | answer => answer
    | _ => none

/-- `PermissionsGreaterThanOrEqualAccessToken`. -/
def permissionsGreaterThanOrEqualAccessToken (accessToken : AccessToken) : Option Bool :=
  coversPolicies P client (getPoliciesFromAccessToken accessToken)

end Permissions

/-! ## 2. No escalation through access tokens -/

/-- The loop answers true when the client can every tuple. -/
theorem coversPolicies_eq_true {P : PolicySet} {client : ClientInfo} {policies : List (List Str)}
    (h : coversPolicies P client policies = some true) {sub act scope obj : Str}
    (hp : [sub, act, scope, obj] ∈ policies) : can P client act scope obj = some true := by
  induction policies with
  | nil => exact absurd hp List.not_mem_nil
  | cons policy policies ih =>
      unfold coversPolicies at h
      split at h
      · split at h
        · rename_i hcan
          rcases List.mem_cons.mp hp with e | hp
          · simp only [List.cons.injEq] at e
            obtain ⟨-, rfl, rfl, rfl, -⟩ := e
            exact hcan
          · exact ih h hp
        · rename_i hne
          exact absurd h hne
      · cases h

/-- **A rule that allows a pattern allows what the pattern covers**: the pattern as an object, the
    pattern's scope as a scope. -/
theorem enforce_pattern {P : PolicySet} {s act scope obj pscope pobj : Str}
    (h : enforce P s act pscope pobj = true) (hscope : scope = pscope ∨ pscope = [star])
    (hobj : objMatch obj pobj = true) : enforce P s act scope obj = true := by
  obtain ⟨hw, qsub, qact, qscope, qobj, hrule, hal⟩ := enforce_iff.mp h
  refine enforce_iff.mpr ⟨hw, qsub, qact, qscope, qobj, hrule, hal.link, ?_,
    objMatch_trans hobj hal.obj, hal.act⟩
  rcases hal.scope with rfl | hq
  · exact hscope
  · exact Or.inr hq

/-- A rule of a request: the verb is any text. -/
structure AccessTokenRuleBody where
  verb : Str
  ns : Str
  kind : Str
  name : Str

/-- The object of a rule of a request. -/
def AccessTokenRuleBody.obj (rule : AccessTokenRuleBody) : Str :=
  if rule.ns = [star] ∧ rule.name = [star] then [star] else rule.kind ++ slash :: rule.name

/-- The tuple of a rule of a request. -/
def AccessTokenRuleBody.policy (name : Str) (rule : AccessTokenRuleBody) : List Str :=
  [safeSubject name .user, rule.verb, rule.ns, rule.obj]

/-- What the tuples of some rules allow to their subject, one of them allows. -/
theorem tuple_of_enforce {name : Str} {rules : List AccessTokenRuleBody} {act scope obj : Str}
    (h : enforce ⟨rules.map (AccessTokenRuleBody.policy name), []⟩ (safeSubject name .user) act scope obj = true) :
    ∃ rule ∈ rules, act = rule.verb ∧ (scope = rule.ns ∨ rule.ns = [star]) ∧ objMatch obj rule.obj = true := by
  obtain ⟨_, psub, pact, pscope, pobj, hrule, hal⟩ := enforce_iff.mp h
  have hself : psub = safeSubject name .user :=
    Reach.reach_subset_of_closed (S := fun y => y = safeSubject name .user)
      (fun _ _ _ hl => absurd hl List.not_mem_nil) rfl (Reach.mem_reach_of_mem_grow hal.link)
  unfold PolicySet.evaluated at hrule
  split at hrule
  · -- without a tuple only the empty name is asked about
    simp only [List.mem_singleton, List.cons.injEq] at hrule
    rw [hrule.1] at hself
    exact absurd hself (List.cons_ne_nil _ _).symm
  · obtain ⟨rule, hr, e⟩ := List.mem_map.mp hrule
    simp only [AccessTokenRuleBody.policy, List.cons.injEq, and_true] at e
    obtain ⟨-, rfl, rfl, rfl⟩ := e
    exact ⟨rule, hr, hal.act, hal.scope, hal.obj⟩

/-- A client that passes the check of some rules can do everything they allow. -/
theorem can_of_covers {P : PolicySet} {client : ClientInfo} {name : Str} {rules : List AccessTokenRuleBody}
    (h : coversPolicies P client (rules.map (AccessTokenRuleBody.policy name)) = some true) {act scope obj : Str}
    (hal : enforce ⟨rules.map (AccessTokenRuleBody.policy name), []⟩ (safeSubject name .user) act scope obj = true) :
    can P client act scope obj = some true := by
  obtain ⟨rule, hr, rfl, hscope, hobj⟩ := tuple_of_enforce hal
  have hcan : can P client rule.verb rule.ns rule.obj = some true := coversPolicies_eq_true h (List.mem_map_of_mem hr)
  exact wrapper_mono (fun s hs => enforce_pattern hs hscope hobj) hcan

/-- The tuples of a token, as the rules of an enforcer that holds nothing else. -/
def tokenRules (accessToken : AccessToken) : PolicySet := ⟨getPoliciesFromAccessToken accessToken, []⟩

/-- The rules of a token are those of a request. -/
theorem getPoliciesFromAccessToken_eq (accessToken : AccessToken) : getPoliciesFromAccessToken accessToken =
    (accessToken.spec.rules.map fun rule => ⟨rule.verb.value, rule.ns, rule.kind, rule.name⟩).map
      (AccessTokenRuleBody.policy accessToken.name) := by
  rw [List.map_map]
  rfl

/-- **No privilege escalation through access tokens**: a client that passes the check can do everything the token can,
    and everything that the rules of a request allow, whatever texts their verbs are. -/
theorem no_escalation (P : PolicySet) (client : ClientInfo) :
    (∀ accessToken, permissionsGreaterThanOrEqualAccessToken P client accessToken = some true → ∀ act scope obj,
      enforce (tokenRules accessToken) (safeSubject accessToken.name .user) act scope obj = true →
        can P client act scope obj = some true) ∧
    ∀ name (rules : List AccessTokenRuleBody),
      coversPolicies P client (rules.map (AccessTokenRuleBody.policy name)) = some true → ∀ act scope obj,
        enforce ⟨rules.map (AccessTokenRuleBody.policy name), []⟩ (safeSubject name .user) act scope obj = true →
          can P client act scope obj = some true := by
  refine ⟨fun accessToken h act scope obj hal => ?_, fun name rules h act scope obj hal => can_of_covers h hal⟩
  rw [permissionsGreaterThanOrEqualAccessToken, getPoliciesFromAccessToken_eq] at h
  rw [tokenRules, getPoliciesFromAccessToken_eq] at hal
  exact can_of_covers h hal

/-- An editor of everything hands out a token for all components of one namespace. -/
theorem no_escalation_editor :
    can ⟨[[str "user-ann", str "edit", [star], [star]]], []⟩ ⟨str "ann", some [], [], []⟩
      (str "edit") (str "shop") (str "components/web") = some true :=
  (no_escalation _ _).1 ⟨str "t", [], [⟨.edit, str "shop", str "components", [star]⟩], [], none⟩ (by decide +kernel) _ _
    _ (by decide +kernel)

end Kalm
