/-
  File:      Kalm/Frontend/Reducers.lean
  Subject:   THE STORE OF THE DASHBOARD: the reducers of frontend/src/reducers for the messages of the
             watch channel, and the lists that hoc/withData.tsx loads at the start.

  * `addOrUpdateInArray`, `removeInArray`, `isInArray` -- arrays of named things (utils.ts): the first
    one with the name counts;
  * the reducers' branches for `WATCHED_RESOURCE_CHANGE`, one for each slice;
  * `RootState.onMessage` -- what a message of the socket does to the store;
  * `loadData` -- the store after every list has been loaded over REST.

  An array that is `null` (no component of an application, no certificate) is the empty list.
-/
import Kalm.Api.Watch

namespace Kalm

/-! ## 1. Arrays of named things -/

section Arrays

variable {T : Type} (name : T → Str)

/-- `arr.findIndex((x) => x.name === data.name)` -/
def findIndexByName (arr : List T) (n : Str) : Option Nat := arr.findIdx? fun x => decide (name x = n)

/-- `addOrUpdateInArray` -/
def addOrUpdateInArray (arr : List T) (data : T) (updateExisted : Bool) : List T :=
  match findIndexByName name arr (name data) with
  | none => arr ++ [data]
  | some index => if updateExisted then arr.set index data else arr

/-- `removeInArray` -/
def removeInArray (arr : List T) (data : T) : List T :=
  match findIndexByName name arr (name data) with
  | none => arr
  | some index => arr.eraseIdx index

/-- `isInArray` -/
def isInArray (arr : List T) (data : T) : Bool := (findIndexByName name arr (name data)).isSome

/-- The branch of a reducer that adds and updates alike. -/
def putOrRemove (arr : List T) (action : WatchAction) (data : T) : List T :=
  match action with
  | .add | .update => addOrUpdateInArray name arr data true
  | .delete => removeInArray name arr data

/-- The branch of a reducer that adds what has no name in the array yet. -/
def guardedPutOrRemove (arr : List T) (action : WatchAction) (data : T) : List T :=
  match action with
  | .add => if isInArray name arr data then arr else addOrUpdateInArray name arr data true
  | .update => addOrUpdateInArray name arr data true
  | .delete => removeInArray name arr data

end Arrays

/-! ## 2. Slices -/

/-- application.ts -/
def applicationReducer (applications : List ApplicationDetails) (action : WatchAction)
    (data : ApplicationDetails) : List ApplicationDetails :=
  match action with
  | .add =>
    if data.status = str "Active" ∧ isInArray ApplicationDetails.name applications data = false then
      addOrUpdateInArray ApplicationDetails.name applications data false
    else applications
  | .delete => removeInArray ApplicationDetails.name applications data
  | .update =>
    if data.status = str "Terminating" then removeInArray ApplicationDetails.name applications data
    else addOrUpdateInArray ApplicationDetails.name applications data true

/-- The components of the store, by application. -/
abbrev ComponentsState := Str → Option (List ComponentDetails)

/-- `isComponentInState` -/
def isComponentInState (state : ComponentsState) (applicationName : Str)
    (component : ComponentDetails) : Bool :=
  match state applicationName with
  | none => false
  | some components => isInArray ComponentDetails.name components component

/-- `putComponentIntoState` -/
def putComponentIntoState (state : ComponentsState) (applicationName : Str)
    (component : ComponentDetails) (isCreate : Bool) : ComponentsState :=
  let components := (state applicationName).getD []
  Function.update state applicationName <| some <|
    match findIndexByName ComponentDetails.name components component.name with
    | none => if isCreate then components ++ [component] else components
    | some componentIndex => components.set componentIndex component

/-- `deleteComponentFromState` -/
def deleteComponentFromState (state : ComponentsState) (applicationName componentName : Str) :
    ComponentsState :=
  match state applicationName with
  | none => state
  | some components =>
    match findIndexByName ComponentDetails.name components componentName with
    | none => state
    | some componentIndex =>
      Function.update state applicationName (some (components.eraseIdx componentIndex))

/-- component.ts -/
def componentReducer (state : ComponentsState) (action : WatchAction) (applicationName : Str)
    (data : ComponentDetails) : ComponentsState :=
  match action with
  | .add =>
    if isComponentInState state applicationName data then state
    else putComponentIntoState state applicationName data true
  | .delete => deleteComponentFromState state applicationName data.name
  | .update => putComponentIntoState state applicationName data false

/-- route.ts: an Add does not update. -/
def routeReducer (httpRoutes : List HttpRouteResource) (action : WatchAction)
    (data : HttpRouteResource) : List HttpRouteResource :=
  match action with
  | .add => addOrUpdateInArray HttpRouteResource.name httpRoutes data false
  | .delete => removeInArray HttpRouteResource.name httpRoutes data
  | .update => addOrUpdateInArray HttpRouteResource.name httpRoutes data true

/-- service.ts -/
def serviceReducer : List Service → WatchAction → Service → List Service := putOrRemove Service.name

/-- node.ts -/
def nodeReducer : List Node → WatchAction → Node → List Node := guardedPutOrRemove Node.name

/-- certificate.ts -/
def certificateReducer : List HttpsCertResp → WatchAction → HttpsCertResp → List HttpsCertResp :=
  guardedPutOrRemove HttpsCertResp.name

/-- registry.ts -/
def registryReducer : List DockerRegistry → WatchAction → DockerRegistry → List DockerRegistry :=
  guardedPutOrRemove DockerRegistry.name

/-- persistentVolume.ts -/
def persistentVolumeReducer :
    List VolumeResource → WatchAction → VolumeResource → List VolumeResource :=
  putOrRemove VolumeResource.name

/-- roleBinding.ts -/
def roleBindingReducer :
    List RoleBindingResource → WatchAction → RoleBindingResource → List RoleBindingResource :=
  putOrRemove RoleBindingResource.name

/-- sso.ts, the config. -/
def ssoConfigReducer (action : WatchAction) (data : Option SingleSignOnConfigSpec) :
    Option SingleSignOnConfigSpec :=
  match action with
  | .add | .update => data
  | .delete => none

/-- sso.ts, the protected endpoints: the namespace counts too, and a new one is put in front. -/
def protectedEndpointReducer (protectedEndpoints : List ProtectedEndpoint) (action : WatchAction)
    (endpoint : ProtectedEndpoint) : List ProtectedEndpoint :=
  let index := protectedEndpoints.findIdx? fun x =>
    decide (x.name = endpoint.name) && decide (x.ns = endpoint.ns)
  match action, index with
  | .add, none | .update, none => endpoint :: protectedEndpoints
  | .add, some index | .update, some index => protectedEndpoints.set index endpoint
  | .delete, none => protectedEndpoints
  | .delete, some index => protectedEndpoints.eraseIdx index

/-- `DeployAccessToken` -/
structure DeployAccessToken where
  name : Str
  scope : Str
  resources : List Str
  token : Str
  creator : Str

/-- `AccessTokenToDeployAccessToken` -/
def accessTokenToDeployAccessToken (at_ : AccessToken) : DeployAccessToken :=
  let (scope, resources) : Str × List Str :=
    match at_.spec.rules with
    | [] => ([], [])
    | rule :: rules =>
      if rules = [] ∧ rule.ns = [star] ∧ rule.name = [star] then (str "cluster", [])
      else if rule.name = [star] then
        (str "namespace", (rule :: rules).map fun rule => rule.ns)
      else (str "component", (rule :: rules).map fun rule => rule.ns ++ slash :: rule.name)
  ⟨at_.name, scope, resources, at_.spec.token, at_.spec.creator⟩

/-- deployAccessToken.ts -/
def deployAccessTokenReducer :
    List DeployAccessToken → WatchAction → DeployAccessToken → List DeployAccessToken :=
  putOrRemove DeployAccessToken.name

/-! ## 3. The store -/

/-- `RootState`: the slices of the watched kinds. -/
structure RootState where
  applications : List ApplicationDetails
  components : ComponentsState
  services : List Service
  httpRoutes : List HttpRouteResource
  nodes : List Node
  certificates : List HttpsCertResp
  registries : List DockerRegistry
  persistentVolumes : List VolumeResource
  config : Option SingleSignOnConfigSpec
  protectedEndpoints : List ProtectedEndpoint
  deployAccessTokens : List DeployAccessToken
  roleBindings : List RoleBindingResource

/-- `rws.onmessage` and the reducers. No builder makes a message of one kind with the data of another. -/
def RootState.onMessage (r : RootState) (m : ResMessage) : RootState :=
  match m.kind, m.data with
  | .application, some (.application data) =>
    { r with applications := applicationReducer r.applications m.action data }
  | .component, some (.component _ data) =>
    { r with components := componentReducer r.components m.action m.ns data }
  | .service, some (.service data) => { r with services := serviceReducer r.services m.action data }
  | .httpRoute, some (.httpRoute data) =>
    { r with httpRoutes := routeReducer r.httpRoutes m.action data }
  | .node, some (.node data) => { r with nodes := nodeReducer r.nodes m.action data }
  | .httpsCert, some (.httpsCert data) =>
    { r with certificates := certificateReducer r.certificates m.action data }
  | .registry, some (.registry data) =>
    { r with registries := registryReducer r.registries m.action data }
  | .volume, some (.volume data) =>
    { r with persistentVolumes := persistentVolumeReducer r.persistentVolumes m.action data }
  | .singleSignOnConfig, some (.ssoConfig data) =>
    { r with config := ssoConfigReducer m.action (some data) }
  | .singleSignOnConfig, none => { r with config := ssoConfigReducer m.action none }
  | .protectedEndpoint, some (.protectedEndpoint data) =>
    { r with protectedEndpoints := protectedEndpointReducer r.protectedEndpoints m.action data }
  | .deployAccessToken, some (.accessToken data) =>
    { r with
      deployAccessTokens :=
        deployAccessTokenReducer r.deployAccessTokens m.action (accessTokenToDeployAccessToken data) }
  | .roleBinding, some (.roleBinding data) =>
    { r with roleBindings := roleBindingReducer r.roleBindings m.action data }
  | _, _ => r

/-! ## 4. Loading -/

/-- The objects of an answer that are of one kind. -/
def Reply.list {T : Type} (reply : Reply) (f : Item → Option T) : List T :=
  match reply with
  | .ok (.items l) => l.filterMap f
  | _ => []

section Load

variable {sum256 : Str → List UInt8} (env : Environment sum256) (c : Caller) (s : ApiState sum256)

/-- `api.getApplicationList` -/
def getApplicationList : List ApplicationDetails :=
  (serveRequest env c .getApplications s).1.list fun
    | .application a => some a
    | _ => none

/-- `api.getApplicationComponentList` -/
def getApplicationComponentList (applicationName : Str) : List ComponentDetails :=
  (serveRequest env c (.listComponents applicationName) s).1.list fun
    | .component _ d => some d
    | _ => none

/-- `api.loadServices` -/
def loadServices : List Service :=
  (serveRequest env c .listClusterServices s).1.list fun
    | .service x => some x
    | _ => none

/-- `api.getPersistentVolumes` -/
def getPersistentVolumes : List VolumeResource :=
  (serveRequest env c .listVolumes s).1.list fun
    | .volume v => some v
    | _ => none

/-- The store after `loadData` (and the role bindings of the members page), for a client that may view
    the cluster. The components are those of the active applications. -/
def loadData : RootState where
  applications := getApplicationList env c s
  components := fun ns =>
    if (getApplicationList env c s).any fun app =>
        decide (app.status = str "Active") && decide (app.name = ns) then
      some (getApplicationComponentList env c s ns)
    else none
  services := loadServices env c s
  httpRoutes := (serveRequest env c .listAllRoutes s).1.list fun
    | .httpRoute x => some x
    | _ => none
  nodes := (serveRequest env c .listNodes s).1.list fun
    | .node n => some n
    | _ => none
  certificates := (serveRequest env c .getHttpsCerts s).1.list fun
    | .httpsCert x => some x
    | _ => none
  registries := (serveRequest env c .listRegistries s).1.list fun
    | .registry x => some x
    | _ => none
  persistentVolumes := getPersistentVolumes env c s
  config := ((serveRequest env c .listSSOConfig s).1.list fun
    | .ssoConfig x => some x
    | _ => none).head?
  protectedEndpoints := (serveRequest env c .listProtectedEndpoints s).1.list fun
    | .protectedEndpoint e => some e
    | _ => none
  deployAccessTokens := ((serveRequest env c .listDeployAccessTokens s).1.list fun
    | .accessToken t => some t
    | _ => none).map accessTokenToDeployAccessToken
  roleBindings := (serveRequest env c .listRoleBindings s).1.list fun
    | .roleBinding b => some b
    | _ => none

end Load

end Kalm
