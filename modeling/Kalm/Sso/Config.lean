/-
  File:      Kalm/Sso/Config.lean
  Subject:   SINGLE SIGN-ON: `SingleSignOnConfigReconcilerTask` of controllers/singlesignonconfig_controller.go has
             dex, the auth-proxy and their routes for the one config there is.

  * `Managed` -- the six objects it loads, by the modes of a config that want them;
  * `dexComponentSpec`, `authProxyComponentSpec`, `serviceEntrySpec` and the routes -- what it writes;
  * `loadResources`, `reconcileAuthProxy`, `reconcileResources`, `deleteResources`, `run` -- the reconcile.
-/
import Kalm.Component.Spec
import Kalm.Lib.Objects
import Kalm.Proxy.Groups

namespace Kalm.Sso

open Components (ComponentSpec EnvVar)
open MergePatch (Json)
open Objects (Schema State Task Versioned find)

/-! ## 1. Objects -/

deriving instance DecidableEq for TemporaryDexUser
deriving instance DecidableEq for DexConnector
deriving instance DecidableEq for ExtAuthzEndpoint
deriving instance DecidableEq for SingleSignOnConfigSpec
deriving instance DecidableEq for ProtectedEndpointObject

/-- `SingleSignOnConfig`. -/
structure Config where
  ns : Str
  name : Str
  spec : SingleSignOnConfigSpec
  deriving DecidableEq

/-- The spec of a `ServiceEntry` with one host and one port; its location is `MESH_EXTERNAL`, its resolution `DNS`. -/
structure ServiceEntrySpec where
  host : Str
  number : Nat
  name : Str
  protocol : Str
  deriving DecidableEq

/-- `HttpsCertSpec`, with the fields that are written here. -/
structure HttpsCertSpec where
  httpsCertIssuer : Str
  domains : List Str
  deriving DecidableEq

/-- The types of the objects that are written. -/
inductive Resource where
  | secret
  | component
  | route
  | serviceEntry
  | cert
  deriving DecidableEq

/-- What stands in an object: its data, or its spec. -/
@[reducible] def Resource.Spec : Resource → Type
  | secret => List (Str × Str)
  | component => ComponentSpec
  | route => HttpRouteSpec
  | serviceEntry => ServiceEntrySpec
  | cert => HttpsCertSpec

instance : (r : Resource) → DecidableEq r.Spec
  | .secret => inferInstanceAs (DecidableEq (List (Str × Str)))
  | .component => inferInstanceAs (DecidableEq ComponentSpec)
  | .route => inferInstanceAs (DecidableEq HttpRouteSpec)
  | .serviceEntry => inferInstanceAs (DecidableEq ServiceEntrySpec)
  | .cert => inferInstanceAs (DecidableEq HttpsCertSpec)

/-- An object of the namespace `kalm-system`; `owner` is the config that is its controller. -/
structure Owned (r : Resource) where
  name : Str
  owner : Option Str
  spec : r.Spec
  deriving DecidableEq

/-- The spec of an `EnvoyFilter`. -/
structure FilterSpec where
  workloadSelector : ObjectLabels
  configPatches : List EnvoyConfigObjectPatch
  deriving DecidableEq

/-- `EnvoyFilter`; `owner` is the endpoint that is its controller. -/
structure Filter where
  ns : Str
  name : Str
  owner : Option Str
  spec : FilterSpec
  deriving DecidableEq

/-- An object of which only the name is read. -/
structure Named where
  ns : Str
  name : Str
  deriving DecidableEq

/-- The kinds of objects. -/
inductive Kind where
  | config
  | owned (r : Resource)
  | endpoint
  | filter
  | authorizationPolicy
  | requestAuthentication
  deriving DecidableEq

/-- `KALM_DEX_NAMESPACE`. -/
def kalmDexNamespace : Str := str "kalm-system"

namespace Kind

/-- The objects of a kind. -/
@[reducible] def Obj : Kind → Type
  | config => Config
  | owned r => Owned r
  | endpoint => ProtectedEndpointObject
  | filter => Filter
  | authorizationPolicy => Named
  | requestAuthentication => Named

/-- Namespace and name. -/
def key : (k : Kind) → k.Obj → Str × Str
  | config, v => (v.ns, v.name)
  | owned _, v => (kalmDexNamespace, v.name)
  | endpoint, v => (v.ns, v.name)
  | filter, v => (v.ns, v.name)
  | authorizationPolicy, v => (v.ns, v.name)
  | requestAuthentication, v => (v.ns, v.name)

instance : (k : Kind) → DecidableEq k.Obj
  | config => inferInstanceAs (DecidableEq Config)
  | owned r => inferInstanceAs (DecidableEq (Owned r))
  | endpoint => inferInstanceAs (DecidableEq ProtectedEndpointObject)
  | filter => inferInstanceAs (DecidableEq Filter)
  | authorizationPolicy => inferInstanceAs (DecidableEq Named)
  | requestAuthentication => inferInstanceAs (DecidableEq Named)

end Kind

/-- The API server; its admission is part of the calls below. -/
@[reducible] def schema : Schema where
  Kind := Kind
  Key := Str × Str
  Obj := Kind.Obj
  key := fun {k} obj => k.key obj
  valid := fun _ => true

/-- What is stored. -/
abbrev Cluster := State schema

/-- A program of the controllers. -/
abbrev ControllerTask := Task schema

/-- The objects that are loaded before a reconcile. -/
inductive Managed where
  | dexSecret
  | dexComponent
  | dexRoute
  | authProxyComponent
  | authProxyRoute
  | externalEnvoyExtAuthz
  deriving DecidableEq

namespace Managed

/-- The type of the object. -/
@[reducible] def resource : Managed → Resource
  | dexSecret => .secret
  | dexComponent => .component
  | dexRoute => .route
  | authProxyComponent => .component
  | authProxyRoute => .route
  | externalEnvoyExtAuthz => .serviceEntry

/-- `KALM_DEX_SECRET_NAME`, `KALM_DEX_NAME`, `KALM_AUTH_PROXY_NAME`, `KALM_EXTERNAL_ENVOY_EXT_AUTHZ_SERVER_NAME`. -/
def name : Managed → Str
  | dexSecret => str "dex-secret"
  | dexComponent => str "dex"
  | dexRoute => str "dex"
  | authProxyComponent => str "auth-proxy"
  | authProxyRoute => str "auth-proxy"
  | externalEnvoyExtAuthz => str "external-envoy-ext-authz-server"

/-- Its kind. -/
@[reducible] def kind (m : Managed) : Kind := .owned m.resource

/-- Its key. -/
def key (m : Managed) : Str × Str := (kalmDexNamespace, m.name)

end Managed

/-- What is stored under the key of one of them. -/
abbrev StoredManaged (m : Managed) := Versioned schema m.kind

/-- What is stored of one of them. -/
abbrev getManaged (s : Cluster) (m : Managed) : Option (StoredManaged m) := s.get m.kind m.key

/-- It is there. -/
def Has (s : Cluster) (m : Managed) : Prop := (getManaged s m).isSome

/-! ## 2. Desired objects -/

/-- A connector in the config of dex. -/
structure RawConnector where
  id : Str
  type : Str
  name : Str
  config : Option Doc

/-- A static client in the config of dex. -/
structure StaticClient where
  id : Str
  name : Str
  secret : Str
  redirectURIs : List Str

/-- The config of dex. -/
structure DexConfig where
  issuer : Str
  storageType : Str
  inCluster : Bool
  webHttp : Str
  idTokens : Str
  frontendIssuer : Str
  frontendTheme : Str
  skipApprovalScreen : Bool
  staticClients : List StaticClient
  connectors : List RawConnector
  staticPasswords : List TemporaryDexUser

/-- What is taken from outside: `strings.ToLower` and `strings.TrimSpace`, `yaml.Marshal`, the random text of
    `utils.RandString`, `KALM_VERSION`, the name a volume without one is given, and the answers of the webhooks. -/
structure Surroundings where
  lower : Str → Str
  trimSpace : Str → Str
  yaml : DexConfig → Str
  randString : Str
  kalmVersion : Str
  genPVCName : Str
  admits : (r : Resource) → r.Spec → Bool

/-- `r.secret.Data`: a missing key is the empty text. -/
def dataAt (data : List (Str × Str)) (key : Str) : Str := (data.lookup key).getD []

/-- The config of a connector with the redirect of dex; `none` where it is no object. -/
def withRedirectURI (issuer : Str) : Doc → Option Doc
  | .leaf _ => none
  | .obj keys vals => some (Json.ofFields (insert (str "redirectURI") keys) fun k =>
      if k = str "redirectURI" then some (Doc.text (issuer ++ str "/callback")) else (Json.obj keys vals).field k)

/-- A connector, as it stands in the config of dex. -/
def rawConnector (issuer : Str) (connector : DexConnector) : Option RawConnector :=
  match connector.config with
  | none => some ⟨connector.id, connector.type, connector.name, none⟩
  | some config => (withRedirectURI issuer config).map fun config =>
      ⟨connector.id, connector.type, connector.name, some config⟩

/-- `BuildDexConfigYaml`; `none` where a connector has a config that is no object. -/
def buildDexConfig (spec : SingleSignOnConfigSpec) (data : List (Str × Str)) : Option DexConfig :=
  let info := getOIDCProviderInfo spec
  (spec.connectors.mapM (rawConnector info.issuer)).map fun connectors =>
    { issuer := info.issuer
      storageType := str "kubernetes"
      inCluster := true
      webHttp := str "0.0.0.0:5556"
      idTokens := itoa (spec.idTokenExpirySeconds.getD 300) ++ str "s"
      frontendIssuer := str "kalm"
      frontendTheme := str "tectonic"
      skipApprovalScreen := true
      staticClients :=
        [{ id := dataAt data (str "client_id")
           name := dataAt data (str "client_name")
           secret := dataAt data (str "client_secret")
           redirectURIs := [info.authProxyExternalUrl ++ str "/oidc/callback"] }]
      connectors := connectors
      staticPasswords := spec.temporaryUser.toList }

/-- The data of a new secret. -/
def newSecretData (randString : Str) : List (Str × Str) :=
  [(str "client_id", str "kalm-sso"), (str "client_name", str "Kalm SSO"), (str "client_secret", randString)]

/-- The spec of dex. -/
def dexComponentSpec (configFileContent : Str) : ComponentSpec where
  annotations := [(str "sidecar.istio.io/inject", str "false")]
  image := str "quay.io/dexidp/dex:v2.24.0"
  workloadType := some .server
  replicas := none
  command := str "/usr/local/bin/dex serve /etc/dex/cfg/config.yaml"
  ports := [⟨5556, 0, str "http"⟩]
  env := []
  readinessProbe := none
  livenessProbe := none
  preInjectedFiles := [⟨str "/etc/dex/cfg/config.yaml", configFileContent, false⟩]
  volumes := []
  runnerPermission := some ⟨str "clusterRole",
    [⟨[str "*"], [str "dex.coreos.com"], [str "*"], [], []⟩,
      ⟨[str "create"], [str "apiextensions.k8s.io"], [str "customresourcedefinitions"], [], []⟩]⟩
  terminationGracePeriodSeconds := none
  rest := []

/-- A static variable. -/
def staticEnv (name value : Str) : EnvVar := ⟨name, value, str "static"⟩

/-- The variable with the issuer. -/
def providerUrlEnv : Str := str "KALM_OIDC_PROVIDER_URL"

/-- The variable with the external URL. -/
def authProxyUrlEnv : Str := str "KALM_OIDC_AUTH_PROXY_URL"

/-- The spec of the auth-proxy. -/
def authProxyComponentSpec (kalmVersion : Str) (spec : SingleSignOnConfigSpec) (data : List (Str × Str)) :
    ComponentSpec where
  annotations := []
  image := str "kalmhq/kalm:" ++ (if kalmVersion ≠ [] then kalmVersion else str "latest")
  workloadType := some .server
  replicas := none
  command := str "./auth-proxy"
  ports := [⟨3002, 80, str "http2"⟩]
  env :=
    [staticEnv (str "KALM_OIDC_CLIENT_ID") (dataAt data (str "client_id")),
      staticEnv (str "KALM_OIDC_CLIENT_SECRET") (dataAt data (str "client_secret")),
      staticEnv providerUrlEnv (getOIDCProviderInfo spec).issuer,
      staticEnv authProxyUrlEnv (getOIDCProviderInfo spec).authProxyExternalUrl]
  readinessProbe := none
  livenessProbe := none
  preInjectedFiles := []
  volumes := []
  runnerPermission := none
  terminationGracePeriodSeconds := none
  rest := []

/-- The route of a component, on the domain of the config. -/
def routeSpec (spec : SingleSignOnConfigSpec) (methods : List HttpRouteMethod) (paths : List Str) (host : Str) :
    HttpRouteSpec where
  hosts := [spec.domain]
  paths := paths
  methods := methods
  schemes := [.http, .https]
  stripPath := false
  conditions := []
  destinations := [⟨host, 1⟩]
  httpRedirectToHttps := !spec.useHttp
  timeout := some 5
  retries := some ⟨3, 2, [str "gateway-error", str "connect-failure", str "refused-stream"]⟩
  mirror := none
  fault := none
  delay := none
  cors := none

/-- The spec of the route of dex. -/
def dexRouteSpec (spec : SingleSignOnConfigSpec) : HttpRouteSpec :=
  routeSpec spec [.get, .post, .put, .patch, .delete, .head, .options, .connect, .trace] [str "/dex"]
    (str "dex.kalm-system.svc.cluster.local:5556")

/-- The spec of the route of the auth-proxy. -/
def authProxyRouteSpec (spec : SingleSignOnConfigSpec) : HttpRouteSpec :=
  routeSpec spec [.get] [str "/oidc/login", str "/oidc/callback"] (str "auth-proxy.kalm-system.svc.cluster.local")

/-- The spec of the service entry; the port is 32 bits wide. -/
def serviceEntrySpec (ext : ExtAuthzEndpoint) : ServiceEntrySpec where
  host := ext.host
  number := (ext.port % 4294967296).toNat
  name := if ext.scheme = str "http" then str "http" else str "https"
  protocol := if ext.scheme = str "http" then str "HTTP" else str "HTTPS"

/-- The name of the certificate of the domain. -/
def certName (lower : Str → Str) (domain : Str) : Str :=
  str "sso-domain-" ++ (lower domain).map fun c => if c = dot then dash else c

/-- `DefaultHTTP01IssuerName`, and the domain, as the webhook of certificates leaves it. -/
def certSpec (trimSpace : Str → Str) (domain : Str) : HttpsCertSpec where
  httpsCertIssuer := str "default-http01-issuer"
  domains := [trimSpace domain].filter (· ≠ [])

/-! ## 3. The reconcile -/

/-- The fields of the task: what has been loaded. -/
structure Loaded where
  secret : Option (StoredManaged .dexSecret)
  dexComponent : Option (StoredManaged .dexComponent)
  authProxyComponent : Option (StoredManaged .authProxyComponent)
  dexRoute : Option (StoredManaged .dexRoute)
  authProxyRoute : Option (StoredManaged .authProxyRoute)
  externalEnvoyExtAuthz : Option (StoredManaged .externalEnvoyExtAuthz)

/-- One of the objects, if it is found. -/
abbrev findManaged (m : Managed) : ControllerTask (Option (StoredManaged m)) := find (S := schema) m.kind m.key

/-- One of the objects is deleted, if it was loaded. -/
abbrev deleteManaged (m : Managed) (loaded : Option (StoredManaged m)) : ControllerTask Unit :=
  Objects.deleteLoaded (S := schema) m.kind loaded

/-- `LoadResources`. -/
def loadResources : ControllerTask Loaded := do
  let dexComponent ← findManaged .dexComponent
  let authProxyComponent ← findManaged .authProxyComponent
  let dexRoute ← findManaged .dexRoute
  let authProxyRoute ← findManaged .authProxyRoute
  let externalEnvoyExtAuthz ← findManaged .externalEnvoyExtAuthz
  let secret ← findManaged .dexSecret
  pure ⟨secret, dexComponent, authProxyComponent, dexRoute, authProxyRoute, externalEnvoyExtAuthz⟩

/-- `DeleteResources`. -/
def deleteResources (loaded : Loaded) : ControllerTask Unit := do
  deleteManaged .dexSecret loaded.secret
  deleteManaged .dexComponent loaded.dexComponent
  deleteManaged .dexRoute loaded.dexRoute
  deleteManaged .externalEnvoyExtAuthz loaded.externalEnvoyExtAuthz

section Reconcile

variable (env : Surroundings) (sso : Config)

/-- `SetControllerReference`: the config is in the namespace of the object, and no other one is its controller. -/
def Config.mayOwn (owner : Option Str) : Bool :=
  sso.ns = kalmDexNamespace && (owner = none || owner = some sso.name)

/-- The controller of an object that was loaded. -/
def ownerOf {m : Managed} (loaded : Option (StoredManaged m)) : Option Str :=
  loaded.bind fun v => Owned.owner (r := m.resource) v.obj

/-- An object with another spec, and the config as its controller. -/
def Config.adopted {r : Resource} (spec : r.Spec) (old : Owned r) : Owned r :=
  { old with owner := some sso.name, spec := spec }

/-- An object is created, or the spec of the one that was loaded is patched. -/
def saveManaged (m : Managed) (spec : m.resource.Spec) (loaded : Option (StoredManaged m)) : ControllerTask Unit :=
  if sso.mayOwn (ownerOf loaded) && env.admits m.resource spec then
    Objects.save (S := schema) m.kind loaded ⟨m.name, some sso.name, spec⟩ (sso.adopted spec)
  else .fail .invalid

/-- `ReconcileSecret`; it returns the data of the secret. -/
def reconcileSecret (loaded : Loaded) : ControllerTask (List (Str × Str)) :=
  match loaded.secret with
  | some v => pure (Owned.spec (r := .secret) v.obj)
  | none => do
    saveManaged env sso .dexSecret (newSecretData env.randString) none
    pure (newSecretData env.randString)

/-- `ReconcileDexComponent`. -/
def reconcileDexComponent (loaded : Loaded) (data : List (Str × Str)) : ControllerTask Unit :=
  match buildDexConfig sso.spec data with
  | none => .fail .invalid
  | some config => saveManaged env sso .dexComponent
      ((dexComponentSpec (env.yaml config)).default env.genPVCName) loaded.dexComponent

/-- `ReconcileDexRoute`. -/
def reconcileDexRoute (loaded : Loaded) : ControllerTask Unit :=
  saveManaged env sso .dexRoute (dexRouteSpec sso.spec) loaded.dexRoute

/-- `ReconcileExternalAuthProxyServiceEntry`. -/
def reconcileExternalAuthProxyServiceEntry (ext : ExtAuthzEndpoint) (loaded : Loaded) : ControllerTask Unit :=
  saveManaged env sso .externalEnvoyExtAuthz (serviceEntrySpec ext) loaded.externalEnvoyExtAuthz

/-- `ReconcileInternalAuthProxyComponent`: it dereferences the secret. -/
def reconcileInternalAuthProxyComponent (loaded : Loaded) (secret : Option (List (Str × Str))) :
    ControllerTask Unit :=
  match secret with
  | none => .crash
  | some data => saveManaged env sso .authProxyComponent
      ((authProxyComponentSpec env.kalmVersion sso.spec data).default env.genPVCName) loaded.authProxyComponent

/-- `ReconcileInternalAuthProxyRoute`. -/
def reconcileInternalAuthProxyRoute (loaded : Loaded) : ControllerTask Unit :=
  saveManaged env sso .authProxyRoute (authProxyRouteSpec sso.spec) loaded.authProxyRoute

/-- `ReconcileAuthProxy`. -/
def reconcileAuthProxy (loaded : Loaded) (secret : Option (List (Str × Str))) : ControllerTask Unit :=
  match sso.spec.externalEnvoyExtAuthz with
  | some ext => do
    deleteManaged .authProxyComponent loaded.authProxyComponent
    deleteManaged .authProxyRoute loaded.authProxyRoute
    reconcileExternalAuthProxyServiceEntry env sso ext loaded
  | none => do
    deleteManaged .externalEnvoyExtAuthz loaded.externalEnvoyExtAuthz
    reconcileInternalAuthProxyComponent env sso loaded secret
    reconcileInternalAuthProxyRoute env sso loaded

/-- A certificate, if it is found. -/
abbrev findCert (name : Str) : ControllerTask (Option (Versioned schema (.owned .cert))) :=
  find (S := schema) (.owned .cert) (kalmDexNamespace, name)

/-- A certificate is created; it has no controller. -/
abbrev createCert (name : Str) (spec : HttpsCertSpec) : ControllerTask Unit :=
  Objects.invoke (Objects.Call.create (S := schema) (.owned .cert) ⟨name, none, spec⟩)

/-- `ReconcileDexRouteCert`. -/
def reconcileDexRouteCert : ControllerTask Unit :=
  if sso.spec.useHttp then pure ()
  else if sso.spec.domain = [] then pure ()
  else do
    match ← findCert (certName env.lower sso.spec.domain) with
    | some _ => pure ()
    | none =>
      if env.admits .cert (certSpec env.trimSpace sso.spec.domain) then
        createCert (certName env.lower sso.spec.domain) (certSpec env.trimSpace sso.spec.domain)
      else .fail .invalid

/-- The secret, dex and its route, where there is no other issuer; the secret as it is behind it. -/
def reconcileDex (loaded : Loaded) : ControllerTask (Option (List (Str × Str))) :=
  if sso.spec.issuer = [] then do
    let data ← reconcileSecret env sso loaded
    reconcileDexComponent env sso loaded data
    reconcileDexRoute env sso loaded
    pure (some data)
  else pure (loaded.secret.map fun v => Owned.spec (r := .secret) v.obj)

/-- `ReconcileResources`. -/
def reconcileResources (loaded : Loaded) : ControllerTask Unit := do
  let secret ← reconcileDex env sso loaded
  reconcileAuthProxy env sso loaded secret
  reconcileDexRouteCert env sso

end Reconcile

/-- `Run`: where there is no config nothing has been loaded. -/
def run (env : Surroundings) : ControllerTask Unit := do
  match ← Objects.invoke (Objects.Call.list (S := schema) .config) with
  | [] => deleteResources ⟨none, none, none, none, none, none⟩
  | [v] => do
    let loaded ← loadResources
    reconcileResources env v.obj loaded
  | _ :: _ :: _ => pure ()

end Kalm.Sso
