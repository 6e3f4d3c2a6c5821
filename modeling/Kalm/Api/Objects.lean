/-
  File:      Kalm/Api/Objects.lean
  Subject:   WHAT THE CLUSTER HOLDS and what the API makes of it: the objects that the handlers of
             api/handler and the builders of api/ws read, and the resources of api/resources they answer.

  * the objects, each with the fields that are read; a stored object satisfies the markers of its CRD
    (`StoredAccessToken`: at least one rule, `StoredHttpRoute`: at least one destination);
  * `ApiState` -- the objects by kind, no two of a kind with one key;
  * `build…` -- the resources, with what they leave out: a registry's password, an issuer's token;
  * `Observed` -- what is computed from metrics, pods and events, as a parameter.
-/
import Kalm.Lib.Store
import Kalm.Component.Handlers
import Kalm.Metrics.Traffic
import Kalm.Route.Authorize

namespace Kalm

open MergePatch (Json)
open Keyed (Store)

/-! ## 1. Objects -/

/-- `metadata.labels`. -/
abbrev Labels := List (Str × Str)

/-- A label; a missing one reads as the empty text. -/
def labelValue (labels : Labels) (key : Str) : Str := (labels.lookup key).getD []

/-- `coreV1.Namespace`. -/
structure NamespaceObject extends Namespace where
  phase : Str

/-- `v1alpha1.Component`. -/
structure ComponentObject where
  ns : Str
  name : Str
  spec : Doc

/-- `coreV1.ServicePort`. -/
structure ServiceObjectPort where
  name : Str
  protocol : Str
  port : Int
  targetPort : Int
  nodePort : Int

/-- `coreV1.Service`. -/
structure ServiceObject where
  ns : Str
  name : Str
  labels : Labels
  ports : List ServiceObjectPort

/-- `coreV1.Pod`: the claims it mounts; `rest` is what its status is made from. -/
structure PodObject where
  ns : Str
  name : Str
  labels : Labels
  claimNames : List Str
  rest : Doc

/-- `coreV1.Node`. -/
structure NodeObject where
  name : Str
  rest : Doc

/-- `HttpsCertCondition`. -/
structure HttpsCertCondition where
  type : Str
  status : Str
  message : Str

/-- `v1alpha1.HttpsCert`. -/
structure HttpsCertObject where
  name : Str
  isSelfManaged : Bool
  httpsCertIssuer : Str
  domains : List Str
  conditions : List HttpsCertCondition
  expireTimestamp : Int
  isSignedByPublicTrustedCA : Bool
  wildcardCertDNSChallengeDomainMap : List (Str × Str)

/-- `ACMECloudFlareIssuer` -/
structure ACMECloudFlareIssuer where
  email : Str
  apiTokenSecretName : Str
  deriving DecidableEq

/-- `HttpsCertIssuerSpec`; an HTTP01 issuer is its e-mail. -/
structure HttpsCertIssuerSpec where
  caForTest : Option Unit
  acmeCloudFlare : Option ACMECloudFlareIssuer
  http01 : Option Str
  dns01 : Option Doc

/-- `v1alpha1.HttpsCertIssuer`. -/
structure HttpsCertIssuerObject where
  name : Str
  spec : HttpsCertIssuerSpec

/-- `DockerRegistrySpec` -/
structure DockerRegistrySpec where
  host : Str
  poolingIntervalSeconds : Option Int
  deriving DecidableEq

/-- `DockerRegistryStatus` -/
structure DockerRegistryStatus where
  authenticationVerified : Bool
  repositories : List Doc

/-- `v1alpha1.DockerRegistry`. -/
structure DockerRegistryObject where
  name : Str
  spec : DockerRegistrySpec
  status : DockerRegistryStatus

/-- `coreV1.Secret`. -/
structure Secret where
  ns : Str
  name : Str
  labels : Labels
  data : Str → Option Str

/-- `string(secret.Data[key])`: a missing key reads as the empty text. -/
def Secret.text (secret : Secret) (key : Str) : Str := (secret.data key).getD []

/-- `coreV1.ServiceAccount`: the names of its secrets. -/
structure ServiceAccount where
  ns : Str
  name : Str
  secrets : List Str

/-- `coreV1.PersistentVolumeClaim`: the quantities as they are written. -/
structure PersistentVolumeClaim where
  ns : Str
  name : Str
  labels : Labels
  requested : Option Str
  allocated : Option Str

/-- `DexConnector` -/
structure DexConnector where
  type : Str
  id : Str
  name : Str
  config : Option Doc

/-- `TemporaryDexUser` -/
structure TemporaryDexUser where
  username : Str
  passwordHash : Str
  userId : Str
  email : Str

/-- `ExtAuthzEndpoint` -/
structure ExtAuthzEndpoint where
  host : Str
  port : Int
  scheme : Str

/-- `SingleSignOnConfigSpec` -/
structure SingleSignOnConfigSpec where
  issuer : Str
  jwksUri : Str
  domain : Str
  useHttp : Bool
  port : Option Int
  showApproveScreen : Bool
  alwaysShowLoginScreen : Bool
  connectors : List DexConnector
  temporaryUser : Option TemporaryDexUser
  externalEnvoyExtAuthz : Option ExtAuthzEndpoint
  idTokenExpirySeconds : Option Nat

/-- `v1alpha1.SingleSignOnConfig`: its mutating webhook fills in the expiry. -/
structure SingleSignOnConfig where
  ns : Str
  name : Str
  spec : SingleSignOnConfigSpec
  defaulted : spec.idTokenExpirySeconds ≠ none

/-- `v1alpha1.ProtectedEndpoint`. -/
structure ProtectedEndpointObject where
  ns : Str
  name : Str
  endpointName : Str
  ports : List Nat
  groups : List Str
  allowToPassIfHasBearerToken : Bool

/-- An access token of the cluster, with its labels. -/
structure StoredAccessToken (sum256 : Str → List UInt8) extends AcceptedAccessToken sum256 where
  labels : Labels

/-- A route of the cluster: the marker of its CRD asks for a destination. -/
structure StoredHttpRoute extends AcceptedHttpRoute where
  destinations_ne : toHttpRoute.spec.destinations ≠ []

/-- The objects of a cluster, by kind; `rest` is everything no handler here reads. -/
structure ApiState (sum256 : Str → List UInt8) where
  namespaces : Store NamespaceObject (fun n => n.name.val)
  components : Store ComponentObject (fun c => (c.ns, c.name))
  services : Store ServiceObject (fun s => (s.ns, s.name))
  pods : Store PodObject (fun p => (p.ns, p.name))
  nodes : Store NodeObject (fun n => n.name)
  httpRoutes : Store StoredHttpRoute (fun r => (r.ns.val, r.name.val))
  httpsCerts : Store HttpsCertObject (fun c => c.name)
  httpsCertIssuers : Store HttpsCertIssuerObject (fun i => i.name)
  dockerRegistries : Store DockerRegistryObject (fun r => r.name)
  secrets : Store Secret (fun s => (s.ns, s.name))
  claims : Store PersistentVolumeClaim (fun c => (c.ns, c.name))
  ssoConfigs : Store SingleSignOnConfig (fun c => (c.ns, c.name))
  protectedEndpoints : Store ProtectedEndpointObject (fun e => (e.ns, e.name))
  accessTokens : Store (StoredAccessToken sum256) (fun t => t.name)
  roleBindings : Store AcceptedRoleBinding (fun b => (b.ns.val, b.name.val))
  serviceAccounts : Store ServiceAccount (fun a => (a.ns, a.name))
  rest : Doc

/-- An empty cluster. -/
def ApiState.empty (sum256 : Str → List UInt8) : ApiState sum256 where
  namespaces := .empty
  components := .empty
  services := .empty
  pods := .empty
  nodes := .empty
  httpRoutes := .empty
  httpsCerts := .empty
  httpsCertIssuers := .empty
  dockerRegistries := .empty
  secrets := .empty
  claims := .empty
  ssoConfigs := .empty
  protectedEndpoints := .empty
  accessTokens := .empty
  roleBindings := .empty
  serviceAccounts := .empty
  rest := emptyDoc

/-! ## 2. Resources -/

/-- `ApplicationDetails`. -/
structure ApplicationDetails where
  name : Str
  metrics : Doc
  istioMetricHistories : Doc
  status : Str

/-- `ComponentDetails`: the name, the traffic, and what is built beside them. -/
structure ComponentDetails where
  name : Str
  istioMetricHistories : Traffic.IstioMetricHistories Doc
  rest : Doc

/-- `resources.ServicePort`. -/
structure ServicePort where
  appProtocol : Str
  protocol : Str
  port : Int
  targetPort : Int
  nodePort : Int

/-- `resources.Service`. -/
structure Service where
  name : Str
  ns : Str
  ports : List ServicePort

/-- `resources.Node`: the name, and what is built beside it. -/
structure Node where
  name : Str
  rest : Doc

/-- `HttpsCertResp`. -/
structure HttpsCertResp where
  name : Str
  isSelfManaged : Bool
  httpsCertIssuer : Str
  domains : List Str
  ready : Str
  reason : Str
  isSignedByPublicTrustedCA : Bool
  expireTimestamp : Int
  wildcardCertDNSChallengeDomainMap : List (Str × Str)

/-- `resources.DockerRegistry`; the spec is a pointer in a request. -/
structure DockerRegistry where
  spec : Option DockerRegistrySpec
  status : Option DockerRegistryStatus
  name : Str
  username : Str
  password : Str

/-- `resources.Volume`. -/
structure VolumeResource where
  name : Str
  isInUse : Bool
  componentNamespace : Str
  componentName : Str
  capacity : Option Str
  requestedCapacity : Option Str
  allocatedCapacity : Option Str
  stsVolClaimTemplate : Str

/-- `resources.ProtectedEndpoint`. -/
structure ProtectedEndpoint where
  name : Str
  ns : Str
  endpointName : Str
  ports : List Nat
  groups : List Str
  allowToPassIfHasBearerToken : Bool

/-- `resources.RoleBinding`; the spec is a pointer in a request. -/
structure RoleBindingResource where
  spec : Option RoleBindingSpec
  name : Str
  ns : Str

/-- `resources.RoleBinding` of a request: role and subject type are any texts. -/
structure RoleBindingBody where
  -- subject, subject type and role
  spec : Option (Str × Str × Str)
  name : Str
  ns : Str

/-- `resources.AccessToken` of a request: token and creator are set by the handler. -/
structure AccessTokenBody where
  name : Str
  -- rules and expiry
  spec : Option (List AccessTokenRuleBody × Option Int)

/-- `AccountAndSecret`. -/
structure AccountAndSecret where
  account : Str
  secret : Str
  deriving DecidableEq

/-- `resources.HttpsCertIssuer`. -/
structure HttpsCertIssuer where
  name : Str
  caForTest : Option Unit
  acmeCloudFlare : Option AccountAndSecret
  http01 : Option Str
  deriving DecidableEq

/-- The order in which a call walks the map of histories, for each component anew. -/
structure WalkOrder where
  walk : Str × Str → List (Str × Traffic.IstioMetricHistories Doc) → List (Str × Traffic.IstioMetricHistories Doc)
  perm : ∀ key entries, (walk key entries).Perm entries

/-- What is computed from metrics, pods, events and bindings. -/
structure Observed (sum256 : Str → List UInt8) where
  metrics : Str → Doc
  istioMetricHistories : Str → Doc
  -- the histories of the services of a namespace, by host
  istioMetrics : Str → List (Str × Traffic.IstioMetricHistories Doc)
  order : WalkOrder
  componentDetails : ApiState sum256 → ComponentObject → Doc
  nodeDetails : ApiState sum256 → NodeObject → Doc

/-- `SSO_NAME` -/
def ssoName : Str := str "sso"

/-- `KalmLabelManaged` -/
def kalmManaged : Str := str "kalm-managed"

/-- `GetRegistryAuthenticationName` -/
def getRegistryAuthenticationName (registryName : Str) : Str := registryName ++ str "-authentication"

/-- `getAppProtocolFromServiceName` -/
def getAppProtocolFromServiceName (name : Str) : Str :=
  if (str "grpc-web").isPrefixOf name then str "grpc-web"
  else
    let first := ((name.splitOn dash).head?).getD []
    if [str "http", str "http2", str "https", str "grpc", str "tcp", str "udp"].any
        fun protocol => first = protocol then first
    else str "grpc-web"

/-- `BuildServiceResponse` -/
def buildServiceResponse (svc : ServiceObject) : Service where
  name := svc.name
  ns := svc.ns
  ports := svc.ports.map fun port =>
    ⟨getAppProtocolFromServiceName port.name, port.protocol, port.port, port.targetPort, port.nodePort⟩

/-- `BuildHttpsCertResponse` -/
def buildHttpsCertResponse (cert : HttpsCertObject) : HttpsCertResp :=
  let readyCond := cert.conditions.find? fun cond => cond.type = str "Ready"
  let trusted := readyCond.any fun cond => cond.status = str "True"
  { name := cert.name
    isSelfManaged := cert.isSelfManaged
    httpsCertIssuer := if cert.isSelfManaged then [] else cert.httpsCertIssuer
    domains := cert.domains
    ready := match readyCond with
      | none => str "Unknown"
      | some cond => cond.status
    reason := match readyCond with
      | none => str "no feedback on cert status yet"
      | some cond => cond.message
    isSignedByPublicTrustedCA := trusted && cert.isSignedByPublicTrustedCA
    expireTimestamp := if trusted then cert.expireTimestamp else 0
    wildcardCertDNSChallengeDomainMap := cert.wildcardCertDNSChallengeDomainMap }

/-- `buildDockerRegistryFromResource`: the password is left out. -/
def buildDockerRegistryFromResource (registry : DockerRegistryObject) (secret : Option Secret) :
    DockerRegistry where
  spec := some registry.spec
  status := some registry.status
  name := registry.name
  username := (secret.map fun s => s.text (str "username")).getD []
  password := []

/-- `ProtectedEndpointCRDToProtectedEndpoint` -/
def protectedEndpointCRDToProtectedEndpoint (endpoint : ProtectedEndpointObject) : ProtectedEndpoint where
  name := endpoint.name
  ns := endpoint.ns
  endpointName := endpoint.endpointName
  ports := endpoint.ports
  groups := endpoint.groups
  allowToPassIfHasBearerToken := endpoint.allowToPassIfHasBearerToken

/-- The resource of a role binding. -/
def buildRoleBinding (b : RoleBinding) : RoleBindingResource where
  spec := some b.spec
  name := b.name.val
  ns := b.ns.val

/-- An issuer of `GetHttpsCertIssuerList`: the token is masked. -/
def buildHttpsCertIssuer (issuer : HttpsCertIssuerObject) : HttpsCertIssuer where
  name := issuer.name
  caForTest := issuer.spec.caForTest
  acmeCloudFlare := issuer.spec.acmeCloudFlare.map fun acme => ⟨acme.email, str "***"⟩
  http01 := issuer.spec.http01

/-- A registry that was not read. -/
def zeroRegistry : DockerRegistryObject := ⟨[], ⟨[], none⟩, ⟨false, []⟩⟩

section State

variable {sum256 : Str → List UInt8} (o : Observed sum256) (s : ApiState sum256)

/-- `BuildApplicationDetails` -/
def buildApplicationDetails (ns : NamespaceObject) : ApplicationDetails where
  name := ns.name.val
  metrics := o.metrics ns.name.val
  istioMetricHistories := o.istioMetricHistories ns.name.val
  status := ns.phase

/-- The traffic of a component is asked for by its name and namespace. -/
def ComponentObject.traffic (c : ComponentObject) : Traffic.Component := ⟨c.ns, c.name, false⟩

/-- `BuildComponentDetails`: of the histories the first one is taken that is of the component. -/
def buildComponentDetails (c : ComponentObject) : ComponentDetails where
  name := c.name
  istioMetricHistories :=
    Traffic.componentTraffic c.traffic (o.order.walk (c.ns, c.name) (o.istioMetrics c.ns))
  rest := o.componentDetails s c

/-- `BuildNodeResponse` -/
def buildNodeResponse (n : NodeObject) : Node where
  name := n.name
  rest := o.nodeDetails s n

/-- `IsPVCInUse`: a pod of the claim's namespace mounts it. -/
def isPVCInUse (pvc : PersistentVolumeClaim) : Bool :=
  s.pods.items.any fun pod =>
    decide (pod.ns = pvc.ns) && pod.claimNames.any fun claimName => claimName = pvc.name

/-- `BuildVolumeResponse` -/
def buildVolumeResponse (pvc : PersistentVolumeClaim) : VolumeResource where
  name := pvc.name
  isInUse := isPVCInUse s pvc
  componentNamespace := pvc.ns
  componentName := labelValue pvc.labels kalmComponent
  capacity := pvc.requested
  requestedCapacity := pvc.requested
  allocatedCapacity := pvc.allocated
  stsVolClaimTemplate := labelValue pvc.labels (str "kalm-vol-claim-template-name")

/-- `GetSSOConfig`: no config is no error. -/
def getSSOConfig : Option SingleSignOnConfigSpec :=
  (s.ssoConfigs.find (kalmSystemNamespace, ssoName)).map fun c => c.spec

/-- `GetDockerRegistry`: two goroutines read the registry and its secret and write the same error
    variable. The error that counts is that of the one that writes last; what the other did not find
    is left zero. -/
def getDockerRegistry (secretLast : Bool) (name : Str) : Option DockerRegistry :=
  let registry := s.dockerRegistries.find name
  let secret := s.secrets.find (kalmSystemNamespace, getRegistryAuthenticationName name)
  if (if secretLast then secret.isSome else registry.isSome) then
    some (buildDockerRegistryFromResource (registry.getD zeroRegistry) secret)
  else none

/-- `GetDockerRegistries`: the secrets are those with the controller's label. -/
def getDockerRegistries : List DockerRegistry :=
  s.dockerRegistries.items.map fun registry =>
    buildDockerRegistryFromResource registry
      ((s.secrets.find (kalmSystemNamespace, getRegistryAuthenticationName registry.name)).filter
        fun secret => labelValue secret.labels (str "kalm-docker-registry-authentication") = str "true")

end State

end Kalm
