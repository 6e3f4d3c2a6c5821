/-
  File:      Kalm/Proxy/ExtAuthz.lean
  Subject:   THE AUTH PROXY BEHIND ENVOY: `handleExtAuthz` of api/cmd/auth-proxy/main.go with the functions it
             calls. Its call of `refreshIDToken` is one of those in Refresh.lean.

  * `AuthProxy`, `OidcVerifier` -- the configuration, and go-oidc: what it has verified has a dot, and claims;
  * `AuthProxy.exchange` -- what `doRefresh` makes of the answer of the provider;
  * `ProxyRequest`, `ProxyAnswer` -- what a handler reads and what it answers;
  * `getOriginalURL`, `redirectToAuthProxyUrl` -- the way to the login;
  * `handleSetIDToken` -- the way back from it;
  * `AuthProxy.authorize`, `AuthProxy.handleExtAuthz` -- a request with a token, and any request.
-/
import Kalm.Go.Url
import Kalm.Proxy.Groups
import Kalm.Proxy.Refresh
import Kalm.Proxy.ThinToken

namespace Kalm

/-! ## 1. The configuration -/

/-- `oidc.IDToken`: the claims it was verified with. -/
structure IDToken where
  claims : Str
  deriving DecidableEq

/-- `oidc.IDTokenVerifier`: a text it has verified is a JWT, and the claims are what stands between its first
    two dots. -/
structure OidcVerifier where
  verify : Str → Except Str IDToken
  verified_claims : ∀ {raw idToken}, verify raw = .ok idToken →
    ∃ part, (raw.splitOn dot)[1]? = some part ∧ rawURLEncoding.decode part = .ok idToken.claims

/-- The auth proxy: `getOauth2Config`, the verifier, the block cipher and the hash. -/
structure AuthProxy where
  configured : Bool
  authProxyURL : Str
  clientSecret : Str
  cipher : BlockCipher
  sha256 : Str → { sum : Str // sum.length = 32 }
  oidcVerifier : OidcVerifier

/-- `InitEncrypteKey`. -/
def AuthProxy.stateEncryptKey (p : AuthProxy) : StateEncryptKey := p.sha256 p.clientSecret

/-- `getStringSignature`. -/
def AuthProxy.getStringSignature (p : AuthProxy) (data : Str) : Str :=
  rawStdEncoding.encode (p.sha256 (data ++ p.clientSecret)).val

/-- What the token source of the provider answers. -/
inductive TokenResponse where
  | failed (err : Str)
  | noIDToken
  | answered (rawIDToken refreshToken : Str)

/-- What `doRefresh` makes of it: the ID token is verified. -/
def AuthProxy.exchange (p : AuthProxy) : TokenResponse → Exchange IDToken
  | .failed err => .failed err
  | .noIDToken => .noIDToken
  | .answered rawIDToken refreshToken =>
    match p.oidcVerifier.verify rawIDToken with
    | .ok idToken => .refreshed ⟨idToken, rawIDToken, refreshToken⟩
    | .error _ => .notVerified

/-! ## 2. Requests and answers -/

/-- `KALM_TOKEN_KEY_NAME`. -/
def kalmTokenKeyName : Str := str "kalm-sso"

/-- `"/" + ENVOY_EXT_AUTH_PATH_PREFIX`. -/
def extAuthPath : Str := str "/ext_authz"

/-- A request, as a handler reads it: `query` are the parameters of its URL, `cookie` the value of the cookie
    with the name of the token. -/
structure ProxyRequest where
  scheme : Str
  host : Str
  requestURI : Str
  query : List (Str × Str)
  headers : List (Str × Str)
  cookie : Option Str

/-- `Header.Get`. -/
def getHeader (headers : List (Str × Str)) (name : Str) : Str :=
  ((headers.find? fun h => canonicalHeaderKey h.1 = canonicalHeaderKey name).map Prod.snd).getD []

/-- `c.QueryParam`. -/
def ProxyRequest.queryParam (req : ProxyRequest) (name : Str) : Str := getValue req.query name

/-- `c.Request().Header.Get`. -/
def ProxyRequest.header (req : ProxyRequest) (name : Str) : Str := getHeader req.headers name

/-- When a cookie expires: at the start of time, or in seven days. -/
inductive CookieExpiry where
  | cleared
  | week
  deriving DecidableEq

/-- A cookie of the proxy, with the path of the whole site, for HTTP only. -/
structure TokenCookie where
  value : Str
  expires : CookieExpiry
  deriving DecidableEq

/-- `newTokenCookie`. -/
def newTokenCookie (token : Str) : TokenCookie := ⟨token, .week⟩

/-- The value of a header: a text, or a cookie. -/
inductive HeaderValue where
  | text (s : Str)
  | cookie (c : TokenCookie)
  deriving DecidableEq

/-- An answer. -/
structure ProxyAnswer where
  status : Nat
  headers : List (Str × HeaderValue)
  body : Str
  deriving DecidableEq

/-- `c.SetCookie`. -/
def setCookie (c : TokenCookie) : Str × HeaderValue := (str "Set-Cookie", .cookie c)

/-- `c.String`. -/
def stringAnswer (status : Nat) (s : Str) : ProxyAnswer := ⟨status, [], s⟩

/-- `c.NoContent(200)`. -/
def noContent (headers : List (Str × HeaderValue)) : ProxyAnswer := ⟨200, headers, []⟩

/-- `c.JSON` of a text. -/
def jsonAnswer (status : Nat) (headers : List (Str × HeaderValue)) (s : Str) : ProxyAnswer :=
  ⟨status, headers, stringLiteral s ++ [newline]⟩

/-- `c.Redirect(302, url)`. -/
def redirectAnswer (headers : List (Str × HeaderValue)) (url : Str) : ProxyAnswer :=
  ⟨302, headers ++ [(str "Location", .text url)], []⟩

/-- An error that is returned; its text, in the body, is left out. -/
def failedAnswer (headers : List (Str × HeaderValue)) : ProxyAnswer := ⟨500, headers, []⟩

/-- `clearTokenInCookie`, and an answer without permission. -/
def refusedAnswer (headers : List (Str × HeaderValue)) (s : Str) : ProxyAnswer :=
  jsonAnswer 401 (headers ++ [setCookie ⟨[], .cleared⟩]) s

/-! ## 3. To the login and back -/

/-- `removeExtAuthPathPrefix`. -/
def removeExtAuthPathPrefix (path : Str) : Str :=
  if extAuthPath.isPrefixOf path then path.drop extAuthPath.length else path

/-- The request URI without the path of the proxy; a route that was rewritten tells the one in front of it. -/
def ProxyRequest.originalURI (req : ProxyRequest) : Str :=
  if req.header (str "X-Envoy-Original-Path") ≠ [] then req.header (str "X-Envoy-Original-Path")
  else removeExtAuthPathPrefix req.requestURI

/-- `getOriginalURL`. -/
def getOriginalURL (req : ProxyRequest) : Str :=
  req.scheme ++ str "://" ++ req.host ++ if req.originalURI = [] then [slash] else req.originalURI

/-- `redirectToAuthProxyUrl`. -/
def AuthProxy.redirectToAuthProxyUrl (p : AuthProxy) (req : ProxyRequest) (now : Str) : ProxyAnswer :=
  match URL.parse (p.authProxyURL ++ str "/oidc/login") with
  | none => failedAnswer []
  | some uri =>
    let originalURL := getOriginalURL req
    let params := addValue (addValue (addValue (parseQuery uri.rawQuery)
      (str "original_url") originalURL) (str "now") now) (str "sign") (p.getStringSignature (originalURL ++ now))
    redirectAnswer [] { uri with rawQuery := encodeQuery params }.text

/-- The URL `handleSetIDToken` redirects to. -/
def setIDTokenLocation (requestURI : Str) : Option Str :=
  (URL.parse requestURI).map fun uri =>
    { uri with
      rawQuery := encodeQuery (delValues (parseQuery uri.rawQuery) kalmTokenKeyName)
      path := if uri.path = [] then [slash] else uri.path }.text

/-- `handleSetIDToken`. -/
def handleSetIDToken (req : ProxyRequest) : ProxyAnswer :=
  let cookie := [setCookie (newTokenCookie (req.queryParam kalmTokenKeyName))]
  match setIDTokenLocation req.originalURI with
  | none => failedAnswer cookie
  | some location => redirectAnswer cookie location

/-! ## 4. Requests with a token -/

/-- A text in lower case begins with this one; `'İ'` becomes an `'i'`. -/
def lowerStartsWith : Str → Str → Bool
  | [], _ => true
  | _ :: _, [] => false
  | a :: pattern, c :: s =>
    if toLowerByte c = a then lowerStartsWith pattern s
    else if a = 105 && (utf8.enc (Char.ofNat 0x130)).isPrefixOf (c :: s) then lowerStartsWith pattern (s.drop 1)
    else false

/-- `strings.Contains(strings.ToLower(err), "expire")`. -/
def saysExpire (err : Str) : Bool := err.tails.any fun s => lowerStartsWith (str "expire") s

/-- `ClaimsWithGroups`. -/
structure ClaimsWithGroups where
  groups : StringSlice

/-- `ClaimsWithGroups` in JSON. -/
def claimsWithGroupsJson : JsonStruct ClaimsWithGroups where
  package := str "main"
  name := str "ClaimsWithGroups"
  fields := [.of (str "groups") storeStrings ClaimsWithGroups.groups fun _ groups => ⟨groups⟩]

/-- The groups `inGrantedGroups` reads of the claims: an error is ignored. -/
def IDToken.groups (idToken : IDToken) : List Str :=
  (claimsWithGroupsJson.unmarshal idToken.claims ⟨none, []⟩).1.groups.elements.getD []

/-- What a handler comes to: it panics, it is in its call of `refreshIDToken`, it answers. -/
inductive Handled where
  | panicked
  | refreshing
  | answered (answer : ProxyAnswer)
  deriving DecidableEq

/-- The end of `handleExtAuthz`: the groups, and the claims in a header. A token that is nil has no claims to ask
    for. -/
def passVerified (req : ProxyRequest) (headers : List (Str × HeaderValue)) (idToken : Option IDToken)
    (token : ThinToken) : Handled :=
  if idToken = none ∧ req.header grantedGroupsHeader ≠ [] then .panicked
  else if inGrantedGroups (req.header grantedGroupsHeader) ((idToken.map IDToken.groups).getD []) = false then
    .answered (refusedAnswer headers (str "You don't in any granted groups. Contact you admin please."))
  else
    match (token.idTokenString.splitOn dot)[1]? with
    | none => .panicked
    | some part => .answered (noContent (headers ++ [(str "kalm-sso-userinfo", .text part)]))

/-- A token as it is written; an error is ignored. -/
def AuthProxy.encodedToken (p : AuthProxy) (token : ThinToken) : Str :=
  match token.encode p.cipher p.stateEncryptKey with
  | some (.ok encodedToken) => encodedToken
  | _ => []

/-- `handleExtAuthz` behind its call of `refreshIDToken`, by where the call stands. -/
def AuthProxy.afterRefresh (p : AuthProxy) (req : ProxyRequest) : CallState IDToken → Handled
  | .panicked => .panicked
  | .returned _ (.error _) => .answered (refusedAnswer []
      (str "The jwt token is invalid, expired, revoked, or was issued to another client. (After refresh)"))
  | .returned _ (.ok (idToken, idTokenString, refreshToken)) =>
    passVerified req [(str "kalm-set-cookie",
      .cookie (newTokenCookie (p.encodedToken ⟨refreshToken, idTokenString⟩)))] idToken ⟨refreshToken, idTokenString⟩
  | .fresh | .producing _ _ | .consuming _ _ | .reading _ _ => .refreshing

/-- `handleExtAuthz` behind `getTokenFromRequest`. -/
def AuthProxy.authorize (p : AuthProxy) (call : CallState IDToken) (req : ProxyRequest) (token : ThinToken) :
    Handled :=
  match p.oidcVerifier.verify token.idTokenString with
  | .ok idToken => passVerified req [] (some idToken) token
  | .error err =>
    if saysExpire err then p.afterRefresh req call
    else .answered (refusedAnswer []
      (str "The jwt token is invalid, expired, revoked, or was issued to another client."))

/-! ## 5. Any request -/

/-- `"Bearer "`. -/
def bearerStart : Str := str "Bearer "

/-- `shouldLetPass`. -/
def shouldLetPass (req : ProxyRequest) : Bool :=
  req.header (str "allow-to-pass-if-has-bearer-token") = str "true" &&
    bearerStart.isPrefixOf (req.header (str "Authorization"))

/-- The text of the token in `getTokenFromRequest`: of the header, or else of the cookie. -/
def ProxyRequest.tokenString (req : ProxyRequest) : Except Str Str :=
  let authorization := req.header (str "Authorization")
  if bearerStart.isPrefixOf authorization ∧ authorization.drop bearerStart.length ≠ [] then
    .ok (authorization.drop bearerStart.length)
  else
    match req.cookie with
    | none => .error (str "No auth token in cookie")
    | some value => if value = [] then .error (str "Auth token in cookie empty") else .ok value

/-- `getTokenFromRequest`. -/
def AuthProxy.getTokenFromRequest (p : AuthProxy) (req : ProxyRequest) : Option (Except Str ThinToken) :=
  match req.tokenString with
  | .error err => some (.error err)
  | .ok tokenString => ThinToken.decode p.cipher p.stateEncryptKey tokenString

/-- `handleExtAuthz` with a token in the query. -/
def AuthProxy.setIDToken (p : AuthProxy) (req : ProxyRequest) : Handled :=
  match ThinToken.decode p.cipher p.stateEncryptKey (req.queryParam kalmTokenKeyName) with
  | none => .panicked
  | some (.error err) => .answered (stringAnswer 401 err)
  | some (.ok thinToken) =>
    match p.oidcVerifier.verify thinToken.idTokenString with
    | .error err => .answered (stringAnswer 401 err)
    | .ok _ => .answered (handleSetIDToken req)

/-- `handleExtAuthz`, at the time `now`. -/
def AuthProxy.handleExtAuthz (p : AuthProxy) (call : CallState IDToken) (req : ProxyRequest) (now : Str) :
    Handled :=
  if p.configured = false then .answered (stringAnswer 503 (str "Please configure KALM OIDC environments."))
  else if req.queryParam kalmTokenKeyName ≠ [] then p.setIDToken req
  else if shouldLetPass req then .answered (noContent [])
  else
    match p.getTokenFromRequest req with
    | none => .panicked
    | some (.error _) => .answered (p.redirectToAuthProxyUrl req now)
    | some (.ok token) => p.authorize call req token

/-! ## 6. Tokens of the proxy -/

/-- What the proxy wrote for a token it reads again. -/
theorem AuthProxy.decode_encodedToken (p : AuthProxy) (token : ThinToken) :
    ThinToken.decode p.cipher p.stateEncryptKey (p.encodedToken token) =
      some (.ok ⟨jsonString token.refreshToken, jsonString token.idTokenString⟩) := by
  obtain ⟨data, hdata⟩ := encode_isSome p.cipher p.stateEncryptKey token
  have hencoded : p.encodedToken token = data := by rw [AuthProxy.encodedToken, hdata]
  rw [hencoded]
  exact decode_encode p.cipher p.stateEncryptKey hdata

theorem AuthProxy.encodedToken_ne_nil (p : AuthProxy) (token : ThinToken) : p.encodedToken token ≠ [] := by
  intro hnil
  have hdecode := p.decode_encodedToken token
  obtain ⟨err, herr⟩ := decode_nil p.cipher p.stateEncryptKey
  rw [hnil, herr] at hdecode
  cases hdecode

end Kalm
