/-
  File:      Kalm/Rbac/Objects.lean
  Subject:   THE OBJECTS the policies are built from: namespaces, access tokens, role bindings
             (controller/api/v1alpha1), and what the API server lets into the cluster.

  * `AccessToken.validate`, `RoleBinding.validate` -- the validating webhooks, with the texts and
    paths of their errors;
  * `AccessToken.Markers`, `RoleBinding.Markers` -- the kubebuilder markers of the CRDs (the enums
    are the inductive types below);
  * `Accepted…` -- an object that carries both proofs: an object admission refuses cannot be built.

  SHA-256 is a parameter: only that a token's name is the hexadecimal form of a digest is used.
-/
import Kalm.K8s.Names

namespace Kalm

/-! ## 1. What the webhooks answer -/

/-- `KalmValidateError`. -/
structure KalmValidateError where
  err : Str
  path : Str
  deriving DecidableEq

/-- `rst = append(rst, e)` under a condition. -/
def reportIf (c : Prop) [Decidable c] (e : KalmValidateError) : List KalmValidateError :=
  if c then [e] else []

@[simp] theorem reportIf_eq_nil {c : Prop} [Decidable c] {e : KalmValidateError} :
    reportIf c e = [] ↔ ¬ c := by
  by_cases h : c <;> simp [reportIf, h]

/-- `isValidResourceName`. -/
def isValidResourceName (resName : Str) : Bool := isDNS1035Label resName

/-- The number of code points of a text: the bytes that do not continue one. -/
def runeCount (s : Str) : Nat := s.countP (fun b => b &&& 0xC0 != 0x80)

/-- `ExpiredAt != nil && ExpiredAt.Time.Before(time.Now())`, times in nanoseconds. -/
def expired (expiredAt : Option Int) (now : Int) : Bool := expiredAt.any (fun t => t < now)

/-! ## 2. Namespaces -/

/-- `coreV1.Namespace`: what the policies read of it. -/
structure Namespace where
  name : DnsLabel
  labels : List (Str × Str)
  deriving DecidableEq

/-- `KalmEnableLabelName`. -/
def kalmEnableLabelName : Str := str "kalm-enabled"

/-- `KalmEnableLabelValue`. -/
def kalmEnableLabelValue : Str := str "true"

/-- The label check of `UpdatePolicies` (a nil map has no key). -/
def Namespace.kalmEnabled (application : Namespace) : Bool :=
  application.labels.lookup kalmEnableLabelName == some kalmEnableLabelValue

/-! ## 3. Access tokens -/

/-- `AccessTokenVerb`. -/
inductive AccessTokenVerb where
  | view
  | edit
  | manage
  deriving DecidableEq

/-- The string of a verb. -/
def AccessTokenVerb.value : AccessTokenVerb → Str
  | .view => str "view"
  | .edit => str "edit"
  | .manage => str "manage"

/-- `AccessTokenRule`. -/
structure AccessTokenRule where
  verb : AccessTokenVerb
  ns : Str
  kind : Str
  name : Str
  deriving DecidableEq

/-- `AccessTokenSpec`. -/
structure AccessTokenSpec where
  token : Str
  rules : List AccessTokenRule
  creator : Str
  expiredAt : Option Int
  deriving DecidableEq

/-- `AccessToken`, the cluster object and the API's resource alike. -/
structure AccessToken where
  name : Str
  spec : AccessTokenSpec
  deriving DecidableEq

section Sha256

variable (sum256 : Str → List UInt8)

/-- `GetAccessTokenNameFromToken`. -/
def getAccessTokenNameFromToken (token : Str) : Str := hexEncode (sum256 token)

/-- The errors of rule `i`. -/
def AccessTokenRule.validate (i : Nat) (rule : AccessTokenRule) : List KalmValidateError :=
  reportIf (rule.ns ≠ [star] ∧ validNamespaceName rule.ns = false)
    { err := str "invalid namespace: " ++ rule.ns
      path := str "spec.rules[" ++ itoa i ++ str "].namespace" } ++
  reportIf (rule.name ≠ [star] ∧ isValidResourceName rule.name = false)
    { err := str "invalid resource instance name: " ++ rule.name
      path := str "spec.rules[" ++ itoa i ++ str "].name" }

/-- `AccessToken.validate`. -/
def AccessToken.validate (r : AccessToken) : List KalmValidateError :=
  let expectedName := getAccessTokenNameFromToken sum256 r.spec.token
  reportIf (expectedName ≠ r.name)
    { err := str "name and token hash are not matched. Expect name: " ++ expectedName ++
        str ", but got " ++ r.name
      path := str "spec.token" } ++
  r.spec.rules.zipIdx.flatMap (fun ri => ri.1.validate ri.2)

/-- The markers of `AccessTokenRule`. -/
structure AccessTokenRule.Markers (rule : AccessTokenRule) : Prop where
  ns : rule.ns ≠ []
  kind : rule.kind ≠ []
  name : rule.name ≠ []

/-- The markers of `AccessTokenSpec`. -/
structure AccessToken.Markers (r : AccessToken) : Prop where
  token : 64 ≤ runeCount r.spec.token
  rules : r.spec.rules ≠ []
  creator : r.spec.creator ≠ []
  rule : ∀ rule ∈ r.spec.rules, rule.Markers

/-- An access token that was let into the cluster. -/
structure AcceptedAccessToken extends AccessToken where
  markers : toAccessToken.Markers
  valid : toAccessToken.validate sum256 = []

/-- A namespace field the webhook accepts. -/
def AccessTokenRule.NamespaceOk (rule : AccessTokenRule) : Prop :=
  rule.ns = [star] ∨ isDNS1123Label rule.ns = true

/-- A name field the webhook accepts. -/
def AccessTokenRule.NameOk (rule : AccessTokenRule) : Prop :=
  rule.name = [star] ∨ isDNS1035Label rule.name = true

theorem AccessTokenRule.validate_eq_nil {i : Nat} {rule : AccessTokenRule} :
    rule.validate i = [] ↔ rule.NamespaceOk ∧ rule.NameOk := by
  unfold validate
  rw [List.append_eq_nil_iff, reportIf_eq_nil, reportIf_eq_nil, not_and, not_and, Bool.not_eq_false,
    Bool.not_eq_false]
  exact and_congr or_iff_not_imp_left.symm or_iff_not_imp_left.symm

/-- **What the webhook lets through**: the name is the token's hash, and every rule names a
    namespace and an instance, or a star. Nothing is said about the kind. -/
theorem AccessToken.validate_eq_nil {r : AccessToken} :
    r.validate sum256 = [] ↔ r.name = hexEncode (sum256 r.spec.token) ∧
      ∀ rule ∈ r.spec.rules, rule.NamespaceOk ∧ rule.NameOk := by
  unfold validate
  simp only [List.append_eq_nil_iff, List.flatMap_eq_nil_iff, AccessTokenRule.validate_eq_nil]
  rw [reportIf_eq_nil, not_not]
  refine and_congr eq_comm ⟨fun h rule hr => ?_, fun h ri hri => ?_⟩
  · obtain ⟨i, hi, e⟩ := List.mem_iff_getElem.mp hr
    exact h (rule, i) (List.mem_zipIdx_iff_getElem?.mpr (by simp [hi, e]))
  · exact h ri.1 (List.fst_mem_of_mem_zipIdx hri)

end Sha256

/-! ## 4. Role bindings -/

/-- The roles of the CRD's enum. -/
inductive Role where
  | viewer
  | editor
  | owner
  | clusterViewer
  | clusterEditor
  | clusterOwner
  deriving DecidableEq

/-- The string of a role. -/
def Role.value : Role → Str
  | .viewer => str "viewer"
  | .editor => str "editor"
  | .owner => str "owner"
  | .clusterViewer => str "clusterViewer"
  | .clusterEditor => str "clusterEditor"
  | .clusterOwner => str "clusterOwner"

/-- `case ClusterRoleViewer, ClusterRoleEditor, ClusterRoleOwner`. -/
def Role.isCluster : Role → Bool
  | .clusterViewer | .clusterEditor | .clusterOwner => true
  | .viewer | .editor | .owner => false

/-- The subject types of the CRD's enum. -/
inductive SubjectType where
  | user
  | group
  deriving DecidableEq

/-- The string of a subject type. -/
def SubjectType.value : SubjectType → Str
  | .user => str "user"
  | .group => str "group"

/-- `RoleBindingSpec`. -/
structure RoleBindingSpec where
  subject : Str
  subjectType : SubjectType
  role : Role
  creator : Str
  expiredAt : Option Int
  deriving DecidableEq

/-- `RoleBinding`. -/
structure RoleBinding where
  ns : DnsLabel
  name : DnsSubdomain
  spec : RoleBindingSpec
  deriving DecidableEq

/-- `KalmSystemNamespace`. -/
def kalmSystemNamespace : Str := str "kalm-system"

/-- `RoleBinding.validate`. -/
def RoleBinding.validate (r : RoleBinding) : List KalmValidateError :=
  match r.spec.role with
  | .clusterEditor | .clusterOwner | .clusterViewer =>
    reportIf (r.ns.val ≠ kalmSystemNamespace)
      { err := str "cluster role binding mush be created in kalm-system namespace"
        path := str ".spec.role" }
  | .viewer | .editor | .owner => []

/-- The markers of `RoleBindingSpec`. -/
structure RoleBinding.Markers (r : RoleBinding) : Prop where
  subject : r.spec.subject ≠ []
  creator : r.spec.creator ≠ []

/-- A role binding that was let into the cluster. -/
structure AcceptedRoleBinding extends RoleBinding where
  markers : toRoleBinding.Markers
  valid : toRoleBinding.validate = []

end Kalm
