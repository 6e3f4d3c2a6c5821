/-
  File:      Kalm/Proxy/Userinfo.lean
  Subject:   THE IDENTITY BETWEEN THE PROXY AND THE API SERVER: the header that `handleExtAuthz` sets, and
             `GetClientInfoFromContext` of api/client/standard_manager.go, which reads it.

  * `SsoClaims`, `clientInfoJson` -- `ClientInfo` as `json.Unmarshal` fills it;
  * `getClientInfoFromContext` -- `none` where it panics;
  * `IDToken.identity` -- the e-mail, the name and the groups that go-oidc reads of the claims;
  * `identity_survives_iff` -- they arrive exactly when the payload is written without the two digits of the
    URL-safe alphabet and every claim has the type of its field.
-/
import Kalm.Pods.Socket
import Kalm.Proxy.Untrusted

namespace Kalm

/-! ## 1. The API server -/

/-- `ClientInfo` without `Cfg`, as `json.Unmarshal` fills it. -/
structure SsoClaims where
  name : Str
  preferredUsername : Str
  email : Str
  emailVerified : Bool
  groups : StringSlice
  impersonation : Str
  impersonationType : Str
  deriving DecidableEq

/-- A new `ClientInfo`. -/
def SsoClaims.new : SsoClaims := ⟨[], [], [], false, ⟨none, []⟩, [], []⟩

/-- `json:"name"`. -/
def nameField : JsonField SsoClaims :=
  .of (str "name") storeString SsoClaims.name fun c s => { c with name := s }

/-- `json:"preferred_username"`. -/
def preferredUsernameField : JsonField SsoClaims :=
  .of (str "preferred_username") storeString SsoClaims.preferredUsername fun c s => { c with preferredUsername := s }

/-- `json:"email"`. -/
def emailField : JsonField SsoClaims :=
  .of (str "email") storeString SsoClaims.email fun c s => { c with email := s }

/-- `json:"email_verified"`. -/
def emailVerifiedField : JsonField SsoClaims :=
  .of (str "email_verified") storeBool SsoClaims.emailVerified fun c b => { c with emailVerified := b }

/-- `json:"groups"`. -/
def groupsField : JsonField SsoClaims :=
  .of (str "groups") storeStrings SsoClaims.groups fun c groups => { c with groups := groups }

/-- `json:"impersonation"`. -/
def impersonationField : JsonField SsoClaims :=
  .of (str "impersonation") storeString SsoClaims.impersonation fun c s => { c with impersonation := s }

/-- `json:"impersonationType"`. -/
def impersonationTypeField : JsonField SsoClaims :=
  .of (str "impersonationType") storeString SsoClaims.impersonationType fun c s => { c with impersonationType := s }

/-- `ClientInfo` in JSON. -/
def clientInfoJson : JsonStruct SsoClaims where
  package := str "client"
  name := str "ClientInfo"
  fields := [nameField, preferredUsernameField, emailField, emailVerifiedField, groupsField, impersonationField,
    impersonationTypeField]

/-- `ClientInfo` without `Cfg`. -/
structure NamedClientInfo extends ClientInfo where
  name : Str
  preferredUsername : Str
  emailVerified : Bool
  deriving DecidableEq

/-- A `ClientInfo` that was read; its impersonation is forgotten. -/
def SsoClaims.clientInfo (c : SsoClaims) : NamedClientInfo where
  email := c.email
  groups := c.groups.elements
  impersonation := []
  impersonationType := c.impersonationType
  name := c.name
  preferredUsername := c.preferredUsername
  emailVerified := c.emailVerified

/-- `StandardClientManager` at one moment: the policies of its enforcer, and `GetClientInfoFromToken`. -/
structure SsoManager where
  policies : PolicySet
  getClientInfoFromToken : Str → Except Str NamedClientInfo

/-- `ExtractTokenFromHeader`. -/
def extractTokenFromHeader (header : Str) : Str :=
  if bearerStart.isPrefixOf header then header.drop bearerStart.length else []

/-- `SetImpersonation` from the header of a request. -/
def SsoManager.impersonated (m : SsoManager) (headers : List (Str × Str)) (clientInfo : NamedClientInfo) :
    Option (Except Str NamedClientInfo) :=
  (setImpersonation m.policies clientInfo.toClientInfo (getHeader headers (str "Kalm-Impersonation"))).map
    fun impersonated => .ok { clientInfo with toClientInfo := impersonated }

/-- `GetClientInfoFromContext`. -/
def SsoManager.getClientInfoFromContext (m : SsoManager) (headers : List (Str × Str)) :
    Option (Except Str NamedClientInfo) :=
  let token := extractTokenFromHeader (getHeader headers (str "Authorization"))
  if token ≠ [] then
    match m.getClientInfoFromToken token with
    | .error err => some (.error err)
    | .ok clientInfo => m.impersonated headers clientInfo
  else if getHeader headers (str "Kalm-Sso-Userinfo") ≠ [] then
    match rawStdEncoding.decode (getHeader headers (str "Kalm-Sso-Userinfo")) with
    | .error i => some (.error (corruptInputError i))
    | .ok claimsBytes =>
      match clientInfoJson.unmarshal claimsBytes .new with
      | (_, some err) => some (.error err.text)
      | (claims, none) => m.impersonated headers claims.clientInfo
  else some (.error (str "not authorized"))

/-! ## 2. The property -/

/-- The claims an application asks for, in JSON. -/
def identityJson : JsonStruct SsoClaims where
  package := str "main"
  name := str "Identity"
  fields := [nameField, emailField, groupsField]

/-- The name, the e-mail and the groups `idToken.Claims` reads. -/
def IDToken.identity (idToken : IDToken) : SsoClaims := (identityJson.unmarshal idToken.claims .new).1

/-- The value of the header, if the answer has it. -/
def ProxyAnswer.userinfo (answer : ProxyAnswer) : Option Str :=
  answer.headers.findSome? fun h =>
    match h with
    | (name, .text value) => if name = str "kalm-sso-userinfo" then some value else none
    | (_, .cookie _) => none

/-- The API server reads the identity out of a request with the header. -/
def IdentityArrives (m : SsoManager) (headers : List (Str × Str)) (userinfo : Str) (idToken : IDToken) : Prop :=
  ∃ info, m.getClientInfoFromContext ((str "kalm-sso-userinfo", userinfo) :: headers) = some (.ok info) ∧
    info.name = idToken.identity.name ∧ info.email = idToken.identity.email ∧
    info.groups = idToken.identity.groups.elements

/-- A JWT with these claims. -/
def jwt (header claims signature : Str) : Str :=
  header ++ dot :: rawURLEncoding.encode claims ++ dot :: signature

/-- The type of the claim that goes into a field of `ClientInfo`. -/
def claimFits (f : JsonField SsoClaims) (v : JsonValue) : Bool :=
  if f.name = str "groups" then v.isTexts
  else if f.name = str "email_verified" then v.isTruth
  else v.isText

/-- Every claim has the type of its field. -/
def ClaimsFit (members : List (Str × JsonValue)) : Prop :=
  ∀ m ∈ members, ∀ f, jsonFieldOf clientInfoJson.fields m.1 = some f → claimFits f m.2 = true

/-! ## 3. The claims -/

theorem mem_clientInfoJson {f : JsonField SsoClaims} :
    f ∈ clientInfoJson.fields ↔ f = nameField ∨ f = preferredUsernameField ∨ f = emailField ∨
      f = emailVerifiedField ∨ f = groupsField ∨ f = impersonationField ∨ f = impersonationTypeField := by
  simp [clientInfoJson]

theorem mem_identityJson {f : JsonField SsoClaims} :
    f ∈ identityJson.fields ↔ f = nameField ∨ f = emailField ∨ f = groupsField := by
  simp [identityJson]

theorem store_eq_none_iff {f : JsonField SsoClaims} (hf : f ∈ clientInfoJson.fields) (v : JsonValue)
    (x : SsoClaims) : (f.store v x).2 = none ↔ claimFits f v = true := by
  rcases mem_clientInfoJson.mp hf with rfl | rfl | rfl | rfl | rfl | rfl | rfl
  · exact storeString_eq_none_iff
  · exact storeString_eq_none_iff
  · exact storeString_eq_none_iff
  · exact storeBool_eq_none_iff
  · exact storeStrings_eq_none_iff
  · exact storeString_eq_none_iff
  · exact storeString_eq_none_iff

/-- The claims are read without an error exactly when they fit. -/
theorem unmarshal_eq_none_iff {claims : Str} {members : List (Str × JsonValue)}
    (hobject : parseJson claims = .ok (.object members)) :
    (clientInfoJson.unmarshal claims .new).2 = none ↔ ClaimsFit members := by
  have hfold := JsonStruct.foldl_storeMember_eq_none_iff (S := clientInfoJson)
    (fun _ hf v x => store_eq_none_iff hf v x) members (.new, none)
  rw [JsonStruct.unmarshal, hobject]
  simp only [JsonStruct.store, Option.map_eq_none_iff]
  rw [hfold]
  exact and_iff_right rfl

/-- The name, the e-mail and the groups are the same. -/
def SameIdentity (x y : SsoClaims) : Prop := x.name = y.name ∧ x.email = y.email ∧ x.groups = y.groups

/-- A member does the same to the name, the e-mail and the groups of both structs. -/
theorem sameIdentity_storeMember {x y : SsoClaims × Option UnmarshalTypeError} (h : SameIdentity x.1 y.1)
    (m : Str × JsonValue) :
    SameIdentity (clientInfoJson.storeMember x m).1 (identityJson.storeMember y m).1 := by
  have hsub : ∀ {f}, jsonFieldOf identityJson.fields m.1 = some f ↔
      jsonFieldOf clientInfoJson.fields m.1 = some f ∧ f ∈ identityJson.fields :=
    JsonStruct.jsonFieldOf_sub fun f hf => mem_clientInfoJson.mpr (by
      rcases mem_identityJson.mp hf with rfl | rfl | rfl <;> simp)
  unfold JsonStruct.storeMember
  cases hf : jsonFieldOf clientInfoJson.fields m.1 with
  | none =>
      have hnone : jsonFieldOf identityJson.fields m.1 = none := by
        rw [Option.eq_none_iff_forall_ne_some]
        intro f hsome
        rw [hsub, hf] at hsome
        cases hsome.1
      rw [hnone]
      exact h
  | some f =>
      have hkept : f ∈ identityJson.fields → jsonFieldOf identityJson.fields m.1 = some f := fun hmem =>
        hsub.mpr ⟨hf, hmem⟩
      have hother : f.name ≠ str "name" → f.name ≠ str "email" → f.name ≠ str "groups" →
          jsonFieldOf identityJson.fields m.1 = none := by
        intro hname hemail hgroups
        rw [Option.eq_none_iff_forall_ne_some]
        intro g hsome
        obtain ⟨hg, hmem⟩ := hsub.mp hsome
        rw [hf, Option.some.injEq] at hg
        rcases mem_identityJson.mp hmem with hg' | hg' | hg' <;> subst hg <;> subst hg'
        · exact hname rfl
        · exact hemail rfl
        · exact hgroups rfl
      obtain ⟨hname, hemail, hgroups⟩ := h
      rcases mem_clientInfoJson.mp (clientInfoJson.jsonFieldOf_eq_some_iff.mp hf).1 with
        rfl | rfl | rfl | rfl | rfl | rfl | rfl
      · rw [hkept (mem_identityJson.mpr (.inl rfl))]
        exact ⟨congrArg (fun old => (storeString m.2 old).1) hname, hemail, hgroups⟩
      · rw [hother (by decide) (by decide) (by decide)]
        exact ⟨hname, hemail, hgroups⟩
      · rw [hkept (mem_identityJson.mpr (.inr (.inl rfl)))]
        exact ⟨hname, congrArg (fun old => (storeString m.2 old).1) hemail, hgroups⟩
      · rw [hother (by decide) (by decide) (by decide)]
        exact ⟨hname, hemail, hgroups⟩
      · rw [hkept (mem_identityJson.mpr (.inr (.inr rfl)))]
        exact ⟨hname, hemail, congrArg (fun old => (storeStrings m.2 old).1) hgroups⟩
      · rw [hother (by decide) (by decide) (by decide)]
        exact ⟨hname, hemail, hgroups⟩
      · rw [hother (by decide) (by decide) (by decide)]
        exact ⟨hname, hemail, hgroups⟩

/-- **`ClientInfo` holds the identity of the claims.** -/
theorem sameIdentity_unmarshal {claims : Str} {members : List (Str × JsonValue)}
    (hobject : parseJson claims = .ok (.object members)) :
    SameIdentity (clientInfoJson.unmarshal claims .new).1 (IDToken.identity ⟨claims⟩) := by
  have hfold := List.foldl_rel (l := members) (f := clientInfoJson.storeMember) (g := identityJson.storeMember)
    (r := fun x y => SameIdentity x.1 y.1) (a := (SsoClaims.new, none)) (b := (SsoClaims.new, none))
    ⟨rfl, rfl, rfl⟩ fun m _ x y h => sameIdentity_storeMember h m
  rw [IDToken.identity, JsonStruct.unmarshal, JsonStruct.unmarshal, hobject]
  exact hfold

/-! ## 4. The way of the header -/

theorem digit_url_ne_dot (d : Fin 64) : rawURLEncoding.digit d ≠ dot :=
  of_decide_eq_true (digit_url_of (P := fun b => b ≠ dot) (by decide) d)

/-- The claims stand between the first two dots. -/
theorem splitOn_jwt {header claims signature : Str} (hheader : dot ∉ header) :
    ((jwt header claims signature).splitOn dot)[1]? = some (rawURLEncoding.encode claims) := by
  have hclaims : dot ∉ rawURLEncoding.encode claims := by
    intro h
    obtain ⟨d, _, hd⟩ := rawURLEncoding.mem_encode.mp h
    exact digit_url_ne_dot d hd
  have hjwt : jwt header claims signature =
      header ++ dot :: (rawURLEncoding.encode claims ++ dot :: signature) := by simp [jwt]
  rw [hjwt, List.splitOn_append_cons_self_of_not_mem hheader, List.splitOn_append_cons_self_of_not_mem hclaims]
  rfl

/-- The claims that were verified are those of the JWT. -/
theorem OidcVerifier.claims_jwt (v : OidcVerifier) {header claims signature : Str} (hheader : dot ∉ header)
    {idToken : IDToken} (h : v.verify (jwt header claims signature) = .ok idToken) : idToken = ⟨claims⟩ := by
  obtain ⟨part, hpart, hdecode⟩ := v.verified_claims h
  rw [splitOn_jwt hheader, Option.some.injEq] at hpart
  rw [← hpart, rawURLEncoding.decode_encode, Except.ok.injEq] at hdecode
  rw [hdecode]

/-- The header that is set holds the claims as they are written. -/
theorem userinfo_of_authorize {p : AuthProxy} {req : ProxyRequest} {header claims signature refreshToken : Str}
    (hheader : dot ∉ header) {idToken : IDToken}
    (hverify : p.oidcVerifier.verify (jwt header claims signature) = .ok idToken) {call : CallState IDToken}
    {answer : ProxyAnswer}
    (hanswer : p.authorize call req ⟨refreshToken, jwt header claims signature⟩ = .answered answer) {userinfo : Str}
    (huserinfo : answer.userinfo = some userinfo) : userinfo = rawURLEncoding.encode claims := by
  have hsome : ¬ (some idToken = none ∧ req.header grantedGroupsHeader ≠ []) :=
    fun h => absurd h.1 (Option.some_ne_none idToken)
  simp only [AuthProxy.authorize, hverify, passVerified, if_neg hsome, splitOn_jwt hheader,
    List.nil_append] at hanswer
  split at hanswer
  · have hrefused := Handled.answered.inj hanswer
    subst hrefused
    cases huserinfo
  · have hpassed := Handled.answered.inj hanswer
    subst hpassed
    exact (Option.some.inj huserinfo).symm

theorem getHeader_userinfo (userinfo : Str) (headers : List (Str × Str)) :
    getHeader ((str "kalm-sso-userinfo", userinfo) :: headers) (str "Kalm-Sso-Userinfo") = userinfo := by
  have hname : canonicalHeaderKey (str "kalm-sso-userinfo") = canonicalHeaderKey (str "Kalm-Sso-Userinfo") := by
    decide
  rw [getHeader, List.find?_cons_of_pos (by simpa using hname)]
  rfl

theorem getHeader_authorization (userinfo : Str) (headers : List (Str × Str)) :
    getHeader ((str "kalm-sso-userinfo", userinfo) :: headers) (str "Authorization") =
      getHeader headers (str "Authorization") := by
  have hname : canonicalHeaderKey (str "kalm-sso-userinfo") ≠ canonicalHeaderKey (str "Authorization") := by
    decide
  rw [getHeader, List.find?_cons_of_neg (by simpa using hname)]
  rfl

/-- A client that acts for nobody else can be asked, and keeps its identity. -/
theorem impersonated_eq_some (m : SsoManager) (headers : List (Str × Str)) (clientInfo : NamedClientInfo)
    (himpersonation : clientInfo.impersonation = []) :
    ∃ info, m.impersonated headers clientInfo = some (.ok info) ∧ info.name = clientInfo.name ∧
      info.email = clientInfo.email ∧ info.groups = clientInfo.groups := by
  obtain ⟨impersonated, himpersonated, hemail, hgroups⟩ : ∃ impersonated,
      setImpersonation m.policies clientInfo.toClientInfo (getHeader headers (str "Kalm-Impersonation")) =
        some impersonated ∧ impersonated.email = clientInfo.email ∧ impersonated.groups = clientInfo.groups := by
    unfold setImpersonation
    split
    · exact ⟨_, rfl, rfl, rfl⟩
    · obtain ⟨can, hcan⟩ : ∃ can, canManageCluster m.policies clientInfo.toClientInfo = some can := by
        simp [canManageCluster, canManage, Kalm.can, wrapper, ClientInfo.subjects, himpersonation]
      rw [hcan]
      cases can with
      | false => exact ⟨_, rfl, rfl, rfl⟩
      | true =>
          dsimp only
          split
          · exact ⟨_, rfl, rfl, rfl⟩
          · exact ⟨_, rfl, rfl, rfl⟩
  exact ⟨{ clientInfo with toClientInfo := impersonated }, by rw [SsoManager.impersonated, himpersonated]; rfl,
    rfl, hemail, hgroups⟩

/-! ## 5. The identity arrives -/

/-- What the API server makes of claims in the header. -/
theorem getClientInfoFromContext_eq (m : SsoManager) {headers : List (Str × Str)} {userinfo : Str}
    (hbearer : extractTokenFromHeader (getHeader headers (str "Authorization")) = []) (hne : userinfo ≠ []) :
    m.getClientInfoFromContext ((str "kalm-sso-userinfo", userinfo) :: headers) =
      match rawStdEncoding.decode userinfo with
      | .error i => some (.error (corruptInputError i))
      | .ok claimsBytes =>
        match clientInfoJson.unmarshal claimsBytes .new with
        | (_, some err) => some (.error err.text)
        | (claims, none) => m.impersonated ((str "kalm-sso-userinfo", userinfo) :: headers) claims.clientInfo := by
  rw [SsoManager.getClientInfoFromContext, getHeader_authorization, getHeader_userinfo, hbearer, if_neg (by simp),
    if_pos hne]

/-- Only a request with a token gets the header. -/
theorem authorize_of_userinfo {p : AuthProxy} {call : CallState IDToken} {req : ProxyRequest} {now : Str}
    {token : ThinToken} (htoken : p.getTokenFromRequest req = some (.ok token)) {answer : ProxyAnswer}
    (hanswer : p.handleExtAuthz call req now = .answered answer) {userinfo : Str}
    (huserinfo : answer.userinfo = some userinfo) : p.authorize call req token = .answered answer := by
  unfold AuthProxy.handleExtAuthz at hanswer
  split at hanswer
  · have h := Handled.answered.inj hanswer
    subst h
    cases huserinfo
  · split at hanswer
    · unfold AuthProxy.setIDToken at hanswer
      split at hanswer
      · cases hanswer
      · have h := Handled.answered.inj hanswer
        subst h
        cases huserinfo
      · split at hanswer
        · have h := Handled.answered.inj hanswer
          subst h
          cases huserinfo
        · have h := Handled.answered.inj hanswer
          subst h
          unfold handleSetIDToken at huserinfo
          split at huserinfo <;> cases huserinfo
    · split at hanswer
      · have h := Handled.answered.inj hanswer
        subst h
        cases huserinfo
      · rwa [htoken] at hanswer

/-- **The identity arrives exactly when the payload is written without the two digits of the URL-safe alphabet
    and every claim has the type of its field.** -/
theorem identity_survives_iff {p : AuthProxy} {m : SsoManager} {call : CallState IDToken} {req : ProxyRequest}
    {now : Str}
    {header claims signature refreshToken : Str} (hheader : dot ∉ header) {idToken : IDToken}
    (hverify : p.oidcVerifier.verify (jwt header claims signature) = .ok idToken)
    (htoken : p.getTokenFromRequest req = some (.ok ⟨refreshToken, jwt header claims signature⟩))
    {answer : ProxyAnswer} (hanswer : p.handleExtAuthz call req now = .answered answer) {userinfo : Str}
    (huserinfo : answer.userinfo = some userinfo) {members : List (Str × JsonValue)}
    (hobject : parseJson claims = .ok (.object members)) {headers : List (Str × Str)}
    (hbearer : extractTokenFromHeader (getHeader headers (str "Authorization")) = []) :
    IdentityArrives m headers userinfo idToken ↔
      (dash ∉ rawURLEncoding.encode claims ∧ underscore ∉ rawURLEncoding.encode claims) ∧ ClaimsFit members := by
  have hne : claims ≠ [] := by
    rintro rfl
    cases hobject
  have hidToken := p.oidcVerifier.claims_jwt hheader hverify
  have hwritten := userinfo_of_authorize hheader hverify (authorize_of_userinfo htoken hanswer huserinfo) huserinfo
  subst hidToken hwritten
  rw [← decode_url_iff, ← unmarshal_eq_none_iff hobject, IdentityArrives,
    getClientInfoFromContext_eq m hbearer (rawURLEncoding.encode_ne_nil hne)]
  by_cases hdecode : rawStdEncoding.decode (rawURLEncoding.encode claims) = .ok claims
  · obtain ⟨hname, hemail, hgroups⟩ := sameIdentity_unmarshal hobject
    rw [hdecode]
    dsimp only
    cases hread : clientInfoJson.unmarshal claims .new with
    | mk read err =>
        rw [hread] at hname hemail hgroups
        cases err with
        | some err =>
            constructor
            · intro ⟨info, hinfo, _⟩
              cases hinfo
            · intro h
              cases h.2
        | none =>
            obtain ⟨info, hinfo, hname', hemail', hgroups'⟩ := impersonated_eq_some m
              ((str "kalm-sso-userinfo", rawURLEncoding.encode claims) :: headers) read.clientInfo rfl
            constructor
            · intro _
              exact ⟨rfl, rfl⟩
            · intro _
              exact ⟨info, hinfo, hname'.trans hname, hemail'.trans hemail,
                hgroups'.trans (congrArg StringSlice.elements hgroups)⟩
  · obtain ⟨i, hi⟩ := decode_url_error hdecode
    rw [hi]
    constructor
    · intro ⟨info, hinfo, _⟩
      cases hinfo
    · intro h
      cases h.1

/-! ## 6. A JWT -/

/-- `{"alg":"RS256"}`, as it is written. -/
def shopHeader : Str := str "eyJhbGciOiJSUzI1NiJ9"

/-- A JWT of the shop. -/
def shopJwt (claims : Str) : Str := jwt shopHeader claims (str "c2ln")

theorem dot_not_mem_shopHeader : dot ∉ shopHeader := by decide

/-- A verifier that has verified the JWT of some claims. -/
def jwtVerifier (claims : Str) : OidcVerifier where
  verify raw := if raw = shopJwt claims then .ok ⟨claims⟩ else .error (str "failed to verify signature")
  verified_claims {raw idToken} h := by
    split at h
    · rename_i hraw
      cases h
      exact ⟨rawURLEncoding.encode claims, by rw [hraw, shopJwt, splitOn_jwt dot_not_mem_shopHeader],
        rawURLEncoding.decode_encode claims⟩
    · cases h

/-- A proxy with it. -/
def jwtProxy (claims : Str) : AuthProxy := { expiredProxy with oidcVerifier := jwtVerifier claims }

theorem verify_shopJwt (claims : Str) :
    (jwtProxy claims).oidcVerifier.verify (shopJwt claims) = .ok ⟨claims⟩ :=
  if_pos rfl

/-- A token of the proxy. -/
def jwtToken (claims : Str) : ThinToken := ⟨str "refresh-token", shopJwt claims⟩

/-- A request with the token in its cookie. -/
def jwtRequest (claims : Str) : ProxyRequest where
  scheme := str "https"
  host := str "shop.com"
  requestURI := str "/ext_authz"
  query := []
  headers := []
  cookie := some ((jwtProxy claims).encodedToken (jwtToken claims))

/-- A manager without policies. -/
def noPolicies : SsoManager where
  policies := ⟨[], []⟩
  getClientInfoFromToken _ := .error (str "access token not exist")

theorem isUtf8_shopJwt (claims : Str) : IsUtf8 (shopJwt claims) := by
  have hdigit : ∀ d, rawURLEncoding.digit d < 128 := fun d =>
    of_decide_eq_true (digit_url_of (P := fun b => b < 128) (by decide) d)
  have hheader : ∀ b ∈ shopHeader, b < 128 := isAscii_iff.mp (by decide)
  have hsignature : ∀ b ∈ str "c2ln", b < 128 := isAscii_iff.mp (by decide)
  refine isUtf8_of_ascii fun b hb => ?_
  simp only [shopJwt, jwt, List.append_assoc, List.cons_append, List.mem_append, List.mem_cons] at hb
  rcases hb with hb | rfl | hb | rfl | hb
  · exact hheader b hb
  · decide
  · obtain ⟨d, _, rfl⟩ := rawURLEncoding.mem_encode.mp hb
    exact hdigit d
  · decide
  · exact hsignature b hb

/-- The proxy reads its token. -/
theorem getTokenFromRequest_jwtRequest (claims : Str) :
    (jwtProxy claims).getTokenFromRequest (jwtRequest claims) = some (.ok (jwtToken claims)) := by
  have hdecode := (jwtProxy claims).decode_encodedToken (jwtToken claims)
  have hrefresh : jsonString (jwtToken claims).refreshToken = (jwtToken claims).refreshToken :=
    jsonString_eq_self.mpr (isUtf8_str _)
  have hid : jsonString (jwtToken claims).idTokenString = (jwtToken claims).idTokenString :=
    jsonString_eq_self.mpr (isUtf8_shopJwt claims)
  have hread : (jwtRequest claims).tokenString =
      if (jwtProxy claims).encodedToken (jwtToken claims) = [] then .error (str "Auth token in cookie empty")
      else .ok ((jwtProxy claims).encodedToken (jwtToken claims)) := rfl
  have htoken : (jwtRequest claims).tokenString = .ok ((jwtProxy claims).encodedToken (jwtToken claims)) :=
    hread.trans (if_neg ((jwtProxy claims).encodedToken_ne_nil (jwtToken claims)))
  rw [AuthProxy.getTokenFromRequest, htoken]
  dsimp only
  rw [hdecode, hrefresh, hid]

/-- It sets the header. -/
theorem handleExtAuthz_jwtRequest (claims now : Str) :
    (jwtProxy claims).handleExtAuthz .fresh (jwtRequest claims) now =
      .answered (noContent [(str "kalm-sso-userinfo", .text (rawURLEncoding.encode claims))]) := by
  have hverify : (jwtProxy claims).oidcVerifier.verify (jwtToken claims).idTokenString = .ok ⟨claims⟩ :=
    verify_shopJwt claims
  have hauthorize : (jwtProxy claims).authorize .fresh (jwtRequest claims) (jwtToken claims) =
      .answered (noContent [(str "kalm-sso-userinfo", .text (rawURLEncoding.encode claims))]) := by
    have hsplit : ((jwtToken claims).idTokenString.splitOn dot)[1]? = some (rawURLEncoding.encode claims) :=
      splitOn_jwt dot_not_mem_shopHeader
    have hsome : ¬ (some (IDToken.mk claims) = none ∧ (jwtRequest claims).header grantedGroupsHeader ≠ []) :=
      fun h => absurd h.1 (Option.some_ne_none _)
    have hgroups : ¬ inGrantedGroups ((jwtRequest claims).header grantedGroupsHeader)
        (((some (IDToken.mk claims)).map IDToken.groups).getD []) = false := Bool.not_eq_false _ ▸ rfl
    rw [AuthProxy.authorize, hverify]
    dsimp only
    rw [passVerified, if_neg hsome, if_neg hgroups, hsplit]
    rfl
  rw [AuthProxy.handleExtAuthz, if_neg (show ¬ (jwtProxy claims).configured = false from Bool.noConfusion),
    if_neg (show ¬ (jwtRequest claims).queryParam kalmTokenKeyName ≠ [] from not_not.mpr rfl),
    if_neg (show ¬ shouldLetPass (jwtRequest claims) = true from Bool.false_ne_true), getTokenFromRequest_jwtRequest]
  exact hauthorize

/-- The claims of a user with groups. -/
def anaClaims : Str := str "\x7b\"name\":\"Ana\",\"email\":\"ana@shop.com\",\"groups\":[\"dev\"]\x7d"

/-- What they are in JSON. -/
def anaMembers : List (Str × JsonValue) :=
  [(str "name", .string (str "Ana")), (str "email", .string (str "ana@shop.com")),
    (str "groups", .array [.string (str "dev")])]

theorem parseJson_anaClaims : parseJson anaClaims = .ok (.object anaMembers) := by rfl

/-- A request without headers has no bearer token. -/
theorem extractTokenFromHeader_nil : extractTokenFromHeader (getHeader [] (str "Authorization")) = [] := rfl

theorem claimsFit_ana : ClaimsFit anaMembers := by
  intro m hm f hf
  simp only [anaMembers, List.mem_cons, List.not_mem_nil, or_false] at hm
  rcases hm with rfl | rfl | rfl
  · have hname : jsonFieldOf clientInfoJson.fields (str "name") = some nameField := by rfl
    cases Option.some.inj (hname.symm.trans hf)
    rfl
  · have hemail : jsonFieldOf clientInfoJson.fields (str "email") = some emailField := by rfl
    cases Option.some.inj (hemail.symm.trans hf)
    rfl
  · have hgroups : jsonFieldOf clientInfoJson.fields (str "groups") = some groupsField := by rfl
    cases Option.some.inj (hgroups.symm.trans hf)
    rfl

/-- Her identity arrives. -/
theorem identity_survives_ana :
    IdentityArrives noPolicies [] (rawURLEncoding.encode anaClaims) ⟨anaClaims⟩ := by
  have hverify : (jwtProxy anaClaims).oidcVerifier.verify (shopJwt anaClaims) = .ok ⟨anaClaims⟩ :=
    verify_shopJwt anaClaims
  have htoken : (jwtProxy anaClaims).getTokenFromRequest (jwtRequest anaClaims) =
      some (.ok ⟨str "refresh-token", shopJwt anaClaims⟩) :=
    getTokenFromRequest_jwtRequest anaClaims
  have huserinfo : (noContent [(str "kalm-sso-userinfo", .text (rawURLEncoding.encode anaClaims))]).userinfo =
      some (rawURLEncoding.encode anaClaims) := rfl
  have hdash : dash ∉ rawURLEncoding.encode anaClaims := fun h => absurd (mem_encode_url.1.mp h) (by decide)
  have hunder : underscore ∉ rawURLEncoding.encode anaClaims := fun h =>
    absurd (mem_encode_url.2.mp h) (by decide)
  exact (identity_survives_iff dot_not_mem_shopHeader hverify htoken (handleExtAuthz_jwtRequest anaClaims [])
    huserinfo parseJson_anaClaims extractTokenFromHeader_nil).mpr ⟨⟨hdash, hunder⟩, claimsFit_ana⟩

/-- The identity survives at this proxy and this API server. -/
def IdentitySurvives (p : AuthProxy) (m : SsoManager) : Prop :=
  ∀ {call : CallState IDToken} {req : ProxyRequest} {now header claims signature refreshToken : Str}, dot ∉ header →
    ∀ {idToken : IDToken}, p.oidcVerifier.verify (jwt header claims signature) = .ok idToken →
    p.getTokenFromRequest req = some (.ok ⟨refreshToken, jwt header claims signature⟩) →
    ∀ {answer : ProxyAnswer}, p.handleExtAuthz call req now = .answered answer →
    ∀ {userinfo : Str}, answer.userinfo = some userinfo →
    ∀ {members : List (Str × JsonValue)}, parseJson claims = .ok (.object members) →
    ∀ {headers : List (Str × Str)}, extractTokenFromHeader (getHeader headers (str "Authorization")) = [] →
    IdentityArrives m headers userinfo idToken

/-- The claims of a user with a `~` in the e-mail. -/
def tildeClaims : Str := str "\x7b\"name\":\"Ana\",\"email\":\"ana~qa@shop.com\"\x7d"

/-- **The identity gets lost**: her claims are written with a `-`, which `RawStdEncoding` does not know. -/
theorem identity_survives_fails : ¬ IdentitySurvives (jwtProxy tildeClaims) noPolicies := by
  intro h
  have hobject : parseJson tildeClaims =
      .ok (.object [(str "name", .string (str "Ana")), (str "email", .string (str "ana~qa@shop.com"))]) := by rfl
  obtain ⟨info, hinfo, _⟩ := h dot_not_mem_shopHeader (if_pos rfl) (getTokenFromRequest_jwtRequest tildeClaims)
    (handleExtAuthz_jwtRequest tildeClaims []) rfl hobject extractTokenFromHeader_nil
  have hlost : noPolicies.getClientInfoFromContext
      [(str "kalm-sso-userinfo", rawURLEncoding.encode tildeClaims)] =
        some (.error (corruptInputError 35)) := by rfl
  rw [hinfo] at hlost
  cases hlost

end Kalm
