/-
  File:      Kalm/Proxy/Groups.lean
  Subject:   THE GRANTED GROUPS OF A PROTECTED ENDPOINT: `BuildEnvoyFilterListenerPatches` of
             controller/controllers/protectedendpoint_controller.go, which joins them into a header, and
             `inGrantedGroups` of api/cmd/auth-proxy/main.go, which splits them again.

  * `getOIDCProviderInfo` -- the URLs of the SSO config;
  * `buildEnvoyFilterListenerPatches` -- one patch for each port, or one without a port;
  * `GroupsFaithful`, `groupsFaithful_iff` -- the users that are let in are those that share a group, for
    every list of the user's groups, exactly when no group has a bar and the empty group is not alone.
-/
import Kalm.Api.Objects
import Kalm.Component.Handlers
import Kalm.Route.Envoy
import Kalm.Route.Matches

namespace Kalm

/-! ## 1. The endpoint -/

/-- `ProtectedEndpoint.validate`. -/
def ProtectedEndpointObject.validate (r : ProtectedEndpointObject) : List KalmValidateError :=
  reportIf (isValidLabelValue r.endpointName = false)
    { err := str "invalid endpointName"
      path := str "spec.endpointName" } ++
  r.ports.zipIdx.flatMap fun (port, i) =>
    reportIf (port = 0)
      { err := str "port should not be 0"
        path := str "spec.ports[" ++ itoa i ++ str "]" }

/-- An endpoint the webhook accepts. -/
structure AcceptedProtectedEndpoint extends ProtectedEndpointObject where
  valid : toProtectedEndpointObject.validate = []

/-! ## 2. The SSO config -/

/-- `OIDCProviderInfo`. -/
structure OIDCProviderInfo where
  issuer : Str
  jwksURI : Str
  authProxyInternalUrl : Str
  authProxyExternalUrl : Str
  authProxyInternalEnvoyClusterName : Str

/-- `strconv.Itoa` -/
def formatInt (n : Int) : Str := if n < 0 then dash :: itoa n.natAbs else itoa n.natAbs

/-- The scheme of the URLs: it is set only without an issuer. -/
def SingleSignOnConfigSpec.scheme (spec : SingleSignOnConfigSpec) : Str :=
  if spec.issuer ≠ [] then [] else if spec.useHttp then str "http" else str "https"

/-- The port of the URLs: it is set only without an issuer. -/
def SingleSignOnConfigSpec.portText (spec : SingleSignOnConfigSpec) : Str :=
  if spec.issuer ≠ [] then [] else
    match spec.port with
    | none => []
    | some port => colon :: formatInt port

/-- `GetOIDCProviderInfo`. -/
def getOIDCProviderInfo (spec : SingleSignOnConfigSpec) : OIDCProviderInfo :=
  let issuer := if spec.issuer ≠ [] then spec.issuer
    else spec.scheme ++ str "://" ++ spec.domain ++ spec.portText ++ str "/dex"
  let jwksURI := if spec.issuer ≠ [] then spec.jwksUri else issuer ++ str "/keys"
  match spec.externalEnvoyExtAuthz with
  | some ext =>
    let url := ext.scheme ++ str "://" ++ ext.host ++ str ":" ++ formatInt ext.port
    { issuer := issuer
      jwksURI := jwksURI
      authProxyInternalUrl := url
      authProxyExternalUrl := url
      authProxyInternalEnvoyClusterName := str "outbound|" ++ formatInt ext.port ++ str "||" ++ ext.host }
  | none =>
    { issuer := issuer
      jwksURI := jwksURI
      authProxyInternalUrl := str "http://auth-proxy.kalm-system.svc.cluster.local"
      authProxyExternalUrl := spec.scheme ++ str "://" ++ spec.domain ++ spec.portText
      authProxyInternalEnvoyClusterName := str "outbound|80||auth-proxy.kalm-system.svc.cluster.local" }

/-! ## 3. The patches -/

/-- `KALM_SSO_GRANTED_GROUPS_HEADER`. -/
def grantedGroupsHeader : Str := str "kalm-sso-granted-groups"

/-- `grantedGroups`: the groups joined with a bar. -/
def grantedGroups (groups : List Str) : Str :=
  if groups ≠ [] then [pipe].intercalate groups else []

/-- A header of a list of headers. -/
def headerValue (key value : Str) : ProtoValue :=
  protoMap [(str "key", .string key), (str "value", .string value)]

/-- A pattern of a list of header patterns. -/
def exactPattern (name : Str) : ProtoValue := protoMap [(str "exact", .string name)]

/-- The value of the patch. -/
def extAuthzValue (endpoint : ProtectedEndpointObject) (info : OIDCProviderInfo) : ProtoFields :=
  golangMapToProtoStruct [
    (str "name", .string (str "envoy.ext_authz")),
    (str "config", protoMap [
      (str "httpService", protoMap [
        (str "serverUri", protoMap [
          (str "uri", .string (info.authProxyInternalUrl ++ str "/ext_authz")),
          (str "cluster", .string info.authProxyInternalEnvoyClusterName),
          (str "timeout", .string (str "5s"))]),
        (str "path_prefix", .string (str "/ext_authz")),
        (str "authorizationRequest", protoMap [
          (str "allowedHeaders", protoMap [
            (str "patterns", protoList [
              exactPattern (str "cookie"),
              exactPattern (str "x-envoy-original-path")])]),
          (str "headersToAdd", protoList [
            headerValue grantedGroupsHeader (grantedGroups endpoint.groups),
            headerValue (str "allow-to-pass-if-has-bearer-token")
              (if endpoint.allowToPassIfHasBearerToken then str "true" else str "false")])]),
        (str "authorizationResponse", protoMap [
          (str "allowedUpstreamHeaders", protoMap [
            (str "patterns", protoList [
              exactPattern (str "kalm-set-cookie"),
              exactPattern (str "kalm-sso-userinfo")])])])])])]

/-- A patch of the listener on a port; zero is no port. -/
def listenerPatch (value : ProtoFields) (port : Nat) : EnvoyConfigObjectPatch where
  applyTo := .httpFilter
  context := .sidecarInbound
  objectTypes := .listener port (str "envoy.http_connection_manager") (str "envoy.router")
  operation := .insertBefore
  value := value

/-- `BuildEnvoyFilterListenerPatches`. -/
def buildEnvoyFilterListenerPatches (endpoint : ProtectedEndpointObject) (sso : SingleSignOnConfigSpec) :
    List EnvoyConfigObjectPatch :=
  let value := extAuthzValue endpoint (getOIDCProviderInfo sso)
  if endpoint.ports ≠ [] then endpoint.ports.map (listenerPatch value) else [listenerPatch value 0]

/-- The text of a string value. -/
def ProtoValue.text : ProtoValue → Option Str
  | .string s => some s
  | _ => none

/-- A header that Envoy adds to its request to the proxy. -/
def EnvoyConfigObjectPatch.headerToAdd (p : EnvoyConfigObjectPatch) (name : Str) : Option Str := do
  let config ← p.value.get (str "config")
  let httpService ← config.get (str "httpService")
  let authorizationRequest ← httpService.get (str "authorizationRequest")
  let headersToAdd ← authorizationRequest.get (str "headersToAdd")
  let header ← headersToAdd.elements.find? fun header => header.get (str "key") = some (.string name)
  let value ← header.get (str "value")
  value.text

/-! ## 4. The proxy -/

/-- `inGrantedGroups`, for a value of the header and the groups of the claims. -/
def inGrantedGroups (header : Str) (claimGroups : List Str) : Bool :=
  if header = [] then true
  else claimGroups.any fun g => g ∈ header.splitOn pipe

/-- Every patch of the endpoint adds the header, and the proxy lets in, for any groups of the user, exactly
    those who share a group when there are groups. -/
def GroupsFaithful (endpoint : ProtectedEndpointObject) (sso : SingleSignOnConfigSpec) : Prop :=
  ∀ patch ∈ buildEnvoyFilterListenerPatches endpoint sso,
    ∃ header, patch.headerToAdd grantedGroupsHeader = some header ∧
      ∀ claimGroups, inGrantedGroups header claimGroups = true ↔
        endpoint.groups = [] ∨ ∃ g ∈ endpoint.groups, g ∈ claimGroups

/-! ## 5. What is faithful -/

section Faithful

variable {endpoint : ProtectedEndpointObject} {sso : SingleSignOnConfigSpec}

theorem buildEnvoyFilterListenerPatches_ne_nil (endpoint : ProtectedEndpointObject)
    (sso : SingleSignOnConfigSpec) : buildEnvoyFilterListenerPatches endpoint sso ≠ [] := by
  unfold buildEnvoyFilterListenerPatches
  simp only
  split
  · rename_i hports
    exact fun h => hports (List.map_eq_nil_iff.mp h)
  · exact List.cons_ne_nil _ _

/-- **Every patch adds the joined groups.** -/
theorem headerToAdd_grantedGroups {patch : EnvoyConfigObjectPatch}
    (h : patch ∈ buildEnvoyFilterListenerPatches endpoint sso) :
    patch.headerToAdd grantedGroupsHeader = some (grantedGroups endpoint.groups) := by
  have hvalue : patch.value = extAuthzValue endpoint (getOIDCProviderInfo sso) := by
    unfold buildEnvoyFilterListenerPatches at h
    simp only at h
    split at h
    · obtain ⟨port, _, rfl⟩ := List.mem_map.mp h
      rfl
    · rw [List.mem_singleton.mp h]
      rfl
  unfold EnvoyConfigObjectPatch.headerToAdd
  rw [hvalue]
  rfl

/-- The joined groups are empty when there is no group, or only the empty one. -/
theorem grantedGroups_eq_nil {groups : List Str} : grantedGroups groups = [] ↔ groups = [] ∨ groups = [[]] := by
  unfold grantedGroups
  rcases groups with _ | ⟨g, _ | ⟨g', rest⟩⟩
  · simp
  · simp
  · simp [List.intercalate]

/-- Groups without a bar are split as they were. -/
theorem splitOn_grantedGroups {groups : List Str} (hne : groups ≠ []) (h : ∀ g ∈ groups, pipe ∉ g) :
    (grantedGroups groups).splitOn pipe = groups := by
  rw [grantedGroups, if_pos hne]
  exact List.splitOn_intercalate pipe h hne

theorem groupsFaithful_iff_forall :
    GroupsFaithful endpoint sso ↔ ∀ claimGroups,
      inGrantedGroups (grantedGroups endpoint.groups) claimGroups = true ↔
        endpoint.groups = [] ∨ ∃ g ∈ endpoint.groups, g ∈ claimGroups := by
  constructor
  · intro h
    obtain ⟨patch, hpatch⟩ := List.exists_mem_of_ne_nil _ (buildEnvoyFilterListenerPatches_ne_nil endpoint sso)
    obtain ⟨header, hheader, hall⟩ := h patch hpatch
    rw [headerToAdd_grantedGroups hpatch, Option.some_inj] at hheader
    rw [hheader]
    exact hall
  · exact fun h patch hpatch => ⟨_, headerToAdd_grantedGroups hpatch, h⟩

end Faithful

/-- **The groups are faithful exactly when none has a bar and the empty group is not alone.** -/
theorem groupsFaithful_iff (endpoint : AcceptedProtectedEndpoint) (sso : SingleSignOnConfigSpec) :
    GroupsFaithful endpoint.toProtectedEndpointObject sso ↔
      (∀ g ∈ endpoint.groups, pipe ∉ g) ∧ endpoint.groups ≠ [[]] := by
  rw [groupsFaithful_iff_forall]
  constructor
  · intro h
    refine ⟨fun g hg hpipe => ?_, fun hempty => ?_⟩
    · -- a user of this group alone is not let in: no piece has a bar
      have hin := (h [g]).mpr (Or.inr ⟨g, hg, List.mem_singleton.mpr rfl⟩)
      have hne : grantedGroups endpoint.groups ≠ [] := by
        intro hnil
        rcases grantedGroups_eq_nil.mp hnil with hnil | hnil
        · rw [hnil] at hg
          exact absurd hg List.not_mem_nil
        · rw [hnil, List.mem_singleton] at hg
          rw [hg] at hpipe
          exact absurd hpipe List.not_mem_nil
      rw [inGrantedGroups, if_neg hne, List.any_cons, List.any_nil, Bool.or_false, decide_eq_true_eq] at hin
      exact Fields.not_mem_of_mem_splitOn hin hpipe
    · -- a user without groups is let in
      have hin := (h []).mp (by rw [hempty]; rfl)
      rcases hin with hnil | ⟨g, _, hmem⟩
      · rw [hnil] at hempty
        cases hempty
      · exact absurd hmem List.not_mem_nil
  · rintro ⟨hpipe, hempty⟩ claimGroups
    by_cases hnil : endpoint.groups = []
    · rw [hnil]
      exact iff_of_true rfl (Or.inl rfl)
    · have hne : grantedGroups endpoint.groups ≠ [] := fun h =>
        (grantedGroups_eq_nil.mp h).elim hnil hempty
      rw [inGrantedGroups, if_neg hne, splitOn_grantedGroups hnil hpipe, or_iff_right hnil, List.any_eq_true]
      simp only [decide_eq_true_eq, and_comm]

/-- An endpoint of one group. -/
def oneGroup (group : Str) : AcceptedProtectedEndpoint where
  ns := str "shop"
  name := str "component-web"
  endpointName := str "web"
  ports := [8080]
  groups := [group]
  allowToPassIfHasBearerToken := false
  valid := rfl

/-- **The bar opens the endpoint to the groups beside it**, and closes it to the group itself. -/
theorem groupsFaithful_fails :
    ¬ ∀ (endpoint : AcceptedProtectedEndpoint) (sso : SingleSignOnConfigSpec),
      GroupsFaithful endpoint.toProtectedEndpointObject sso := by
  intro h
  have hall := groupsFaithful_iff_forall.mp (h (oneGroup (str "a|b"))
    { issuer := [], jwksUri := [], domain := str "sso.shop.io", useHttp := false, port := none,
      showApproveScreen := false, alwaysShowLoginScreen := false, connectors := [], temporaryUser := none,
      externalEnvoyExtAuthz := none, idTokenExpirySeconds := none })
  exact absurd (hall [str "a"]) (by decide)

end Kalm
