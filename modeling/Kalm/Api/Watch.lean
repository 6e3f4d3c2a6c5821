/-
  File:      Kalm/Api/Watch.lean
  Subject:   THE WATCH CHANNEL: the builders of api/ws/watcher.go, which make a message of an object that
             the informer has seen added, updated or deleted.

  * `Watched` -- an object with the builder that is registered for it (a service has two);
  * `Emission` -- what a builder answers: a message, the empty message, nothing, or an error;
  * `buildResMessage` -- the builder of each registration. Some read the cluster again, so what they
    answer depends on the objects of that moment;
  * `sendWatchResMessage` -- what reaches the client.
-/
import Kalm.Api.Handlers

namespace Kalm

/-! ## 1. Messages -/

/-- `Add`, `Update`, `Delete`. -/
inductive WatchAction where
  | add
  | update
  | delete
  deriving DecidableEq

/-- The kinds of the messages. -/
inductive ResKind where
  | application
  | component
  | service
  | httpRoute
  | node
  | httpsCert
  | registry
  | volume
  | singleSignOnConfig
  | protectedEndpoint
  | deployAccessToken
  | roleBinding
  deriving DecidableEq

/-- `ResMessage`; a nil pointer as data is `none`. -/
structure ResMessage where
  ns : Str
  kind : ResKind
  action : WatchAction
  data : Option Item

/-- What a builder answers. The empty message has no action. -/
inductive Emission where
  | panicked
  | failed
  | nothing
  | blank
  | message (m : ResMessage)

/-- An object of a registration of `StartWatching`. -/
inductive Watched (sum256 : Str → List UInt8) where
  | application (n : NamespaceObject)
  | component (component : ComponentObject)
  | componentCausedByService (service : ServiceObject)
  | service (service : ServiceObject)
  | pod (pod : PodObject)
  | httpRoute (route : StoredHttpRoute)
  | node (node : NodeObject)
  | httpsCert (httpsCert : HttpsCertObject)
  | registry (registry : DockerRegistryObject)
  | volume (pvc : PersistentVolumeClaim)
  | ssoConfig (ssoConfig : SingleSignOnConfig)
  | protectedEndpoint (endpoint : ProtectedEndpointObject)
  | accessToken (accessToken : StoredAccessToken sum256)
  | roleBinding (roleBinding : AcceptedRoleBinding)

/-! ## 2. The builders -/

variable {sum256 : Str → List UInt8}

/-- A check in front of a message. -/
def permitted (allowed : Option Bool) (e : Emission) : Emission :=
  match allowed with
  | none => .panicked
  | some false => .nothing
  | some true => e

section Builders

variable (env : Environment sum256) (c : Caller) (s : ApiState sum256) (action : WatchAction)

/-- `buildNamespaceResMessage` -/
def buildNamespaceResMessage (n : NamespaceObject) : Emission :=
  if n.name.val = kalmSystemNamespace then .nothing
  else if (n.labels.lookup kalmEnableLabelName).isNone then .nothing
  else
    permitted (canViewNamespace c.policies c.client n.name.val) <|
    .message ⟨[], .application, action, some (.application (buildApplicationDetails env.observed n))⟩

/-- `componentToResMessage` -/
def componentToResMessage (component : ComponentObject) : Emission :=
  .message ⟨component.ns, .component, action,
    some (.component component.ns (buildComponentDetails env.observed s component))⟩

/-- `buildComponentResMessage` -/
def buildComponentResMessage (component : ComponentObject) : Emission :=
  permitted (canViewNamespace c.policies c.client component.ns) <|
  componentToResMessage env s action component

/-- The component of a service or a pod: it is updated, whatever happens to its part. -/
def causedByPart (ns componentName : Str) : Emission :=
  permitted (canViewNamespace c.policies c.client ns) <|
  match s.components.find (ns, componentName) with
  | none => .failed
  | some component => componentToResMessage env s .update component

/-- `buildComponentResMessageCausedByService` -/
def buildComponentResMessageCausedByService (service : ServiceObject) : Emission :=
  let componentName := labelValue service.labels kalmComponent
  if componentName = [] then .nothing else causedByPart env c s service.ns componentName

/-- `buildServiceResMessage` -/
def buildServiceResMessage (service : ServiceObject) : Emission :=
  permitted (canViewNamespace c.policies c.client service.ns) <|
  .message ⟨[], .service, action, some (.service (buildServiceResponse service))⟩

/-- `buildPodResMessage` -/
def buildPodResMessage (pod : PodObject) : Emission :=
  let componentName := labelValue pod.labels kalmComponent
  if componentName = [] then .blank else causedByPart env c s pod.ns componentName

/-- `buildHttpRouteResMessage` -/
def buildHttpRouteResMessage (route : StoredHttpRoute) : Emission :=
  permitted (canOperateHttpRoute c.policies c.client (str "view")
      (buildHttpRouteFromResource route.toHttpRoute)) <|
  .message ⟨route.ns.val, .httpRoute, action,
    some (.httpRoute (buildHttpRouteFromResource route.toHttpRoute))⟩

/-- `buildNodeResMessage` -/
def buildNodeResMessage (node : NodeObject) : Emission :=
  permitted (canViewCluster c.policies c.client) <|
  .message ⟨[], .node, action, some (.node (buildNodeResponse env.observed s node))⟩

/-- `buildHttpsCertResMessage` -/
def buildHttpsCertResMessage (httpsCert : HttpsCertObject) : Emission :=
  permitted (canViewCluster c.policies c.client) <|
  .message ⟨[], .httpsCert, action, some (.httpsCert (buildHttpsCertResponse httpsCert))⟩

/-- `buildRegistryResMessage`: the registry is read again. -/
def buildRegistryResMessage (registry : DockerRegistryObject) : Emission :=
  permitted (canViewCluster c.policies c.client) <|
  match getDockerRegistry s env.secretLast registry.name with
  | none => .failed
  | some registryRes => .message ⟨[], .registry, action, some (.registry registryRes)⟩

/-- `buildVolumeResMessage` -/
def buildVolumeResMessage (pvc : PersistentVolumeClaim) : Emission :=
  if labelValue pvc.labels kalmManaged ≠ str "true" then .blank
  else
    permitted (canViewCluster c.policies c.client) <|
    .message ⟨[], .volume, action, some (.volume (buildVolumeResponse s pvc))⟩

/-- `buildSSOConfigResMessage`: the config is read again, from one namespace. -/
def buildSSOConfigResMessage (ssoConfig : SingleSignOnConfig) : Emission :=
  if ssoConfig.name ≠ ssoName then .nothing
  else
    permitted (canViewCluster c.policies c.client) <|
    .message ⟨[], .singleSignOnConfig, action, (getSSOConfig s).map .ssoConfig⟩

/-- `buildProtectEndpointResMessage` -/
def buildProtectEndpointResMessage (endpoint : ProtectedEndpointObject) : Emission :=
  permitted (canViewNamespace c.policies c.client endpoint.ns) <|
  .message ⟨[], .protectedEndpoint, action,
    some (.protectedEndpoint (protectedEndpointCRDToProtectedEndpoint endpoint))⟩

/-- `buildAccessTokenResMessage`: deploy access tokens only. -/
def buildAccessTokenResMessage (accessToken : StoredAccessToken sum256) : Emission :=
  if accessToken.isDeploy then
    permitted (permissionsGreaterThanOrEqualAccessToken c.policies c.client accessToken.toAccessToken) <|
    .message ⟨[], .deployAccessToken, action, some (.accessToken accessToken.toAccessToken)⟩
  else .nothing

/-- `buildRoleBindingResMessage` -/
def buildRoleBindingResMessage (roleBinding : AcceptedRoleBinding) : Emission :=
  permitted (canManageRoleBinding c.policies c.client roleBinding.spec.role.value roleBinding.ns.val) <|
  .message ⟨[], .roleBinding, action, some (.roleBinding (buildRoleBinding roleBinding.toRoleBinding))⟩

/-- The builders of `StartWatching`. -/
def buildResMessage : Watched sum256 → Emission
  | .application n => buildNamespaceResMessage env c action n
  | .component component => buildComponentResMessage env c s action component
  | .componentCausedByService service => buildComponentResMessageCausedByService env c s service
  | .service service => buildServiceResMessage c action service
  | .pod pod => buildPodResMessage env c s pod
  | .httpRoute route => buildHttpRouteResMessage c action route
  | .node node => buildNodeResMessage env c s action node
  | .httpsCert httpsCert => buildHttpsCertResMessage c action httpsCert
  | .registry registry => buildRegistryResMessage env c s action registry
  | .volume pvc => buildVolumeResMessage c s action pvc
  | .ssoConfig ssoConfig => buildSSOConfigResMessage c s action ssoConfig
  | .protectedEndpoint endpoint => buildProtectEndpointResMessage c action endpoint
  | .accessToken accessToken => buildAccessTokenResMessage c action accessToken
  | .roleBinding roleBinding => buildRoleBindingResMessage c action roleBinding

end Builders

/-- The handlers of `registerWatchHandler` and `sendWatchResMessage`: an error is logged, an empty message
    is not sent. -/
def sendWatchResMessage : Emission → Option ResMessage
  | .message m => some m
  | .panicked | .failed | .nothing | .blank => none

end Kalm
