/-
  File:      Kalm/Frontend/Watching.lean
  Subject:   A CLUSTER AND A DASHBOARD THAT WATCHES IT: histories of the watched objects, with what the
             builders (Api/Watch.lean) send of each event and what the reducers (Reducers.lean) make of it.

  * `WatchedObject`, `registrations` -- the objects and the builders they go through;
  * `stepHistory` -- an object is created, updated or deleted, and its messages are delivered. The informers
    are new and tell every object that is there as an Add. Besides, what is not watched changes, and the
    dashboard loads volumes and services again;
  * `Latest` -- the data that the API made of an object at its last event, where it depends on more than the
    object;
  * `Mirrors` -- the store holds the objects that exist, each once and with its latest data;
  * `Viewed`, `Unconfused` -- the client may view the object; its event is told by a message, and no other
    object of its kind is taken for it; `Retellable` -- the same of an object that is told again.
-/
import Kalm.Frontend.Reducers
import Kalm.Lib.Listed
import Kalm.Lib.Runs

namespace Kalm

open Keyed (Store)
open Listed (Lists)

variable {sum256 : Str → List UInt8}

/-! ## 1. Events -/

/-- An object of a kind that is watched. -/
inductive WatchedObject (sum256 : Str → List UInt8) where
  | application (n : NamespaceObject)
  | component (component : ComponentObject)
  | service (service : ServiceObject)
  | pod (pod : PodObject)
  | httpRoute (route : StoredHttpRoute)
  | node (node : NodeObject)
  | httpsCert (httpsCert : HttpsCertObject)
  | registry (registry : DockerRegistryObject)
  | volume (pvc : PersistentVolumeClaim)
  | ssoConfig (ssoConfig : SingleSignOnConfig)
  | protectedEndpoint (endpoint : ProtectedEndpointObject)
  | accessToken (accessToken : StoredAccessToken sum256)
  | roleBinding (roleBinding : AcceptedRoleBinding)

/-- The registrations of an object, in their order: a service has two. -/
def WatchedObject.registrations : WatchedObject sum256 → List (Watched sum256)
  | .application n => [.application n]
  | .component comp => [.component comp]
  | .service svc => [.componentCausedByService svc, .service svc]
  | .pod p => [.pod p]
  | .httpRoute r => [.httpRoute r]
  | .node n => [.node n]
  | .httpsCert cert => [.httpsCert cert]
  | .registry r => [.registry r]
  | .volume pvc => [.volume pvc]
  | .ssoConfig cfg => [.ssoConfig cfg]
  | .protectedEndpoint e => [.protectedEndpoint e]
  | .accessToken t => [.accessToken t]
  | .roleBinding b => [.roleBinding b]

/-- A free key is taken, an object that is there is replaced or removed; with the object of the event, which
    is the last one of the key where it is removed. -/
def changeStore {K V : Type} [DecidableEq K] {key : V → K} (store : Store V key) (action : WatchAction)
    (v : V) : Option (Store V key × V) :=
  match action, store.find (key v) with
  | .add, none => some (store.insert v, v)
  | .update, some _ => some (store.replace v, v)
  | .delete, some old => some (store.erase (key v), old)
  | _, _ => none

/-- An object is created, updated or deleted. -/
def ApiState.change (s : ApiState sum256) (action : WatchAction) :
    WatchedObject sum256 → Option (ApiState sum256 × WatchedObject sum256)
  | .application n => (changeStore s.namespaces action n).map fun (store, n) =>
      ({ s with namespaces := store }, .application n)
  | .component component => (changeStore s.components action component).map fun (store, component) =>
      ({ s with components := store }, .component component)
  | .service service => (changeStore s.services action service).map fun (store, service) =>
      ({ s with services := store }, .service service)
  | .pod pod => (changeStore s.pods action pod).map fun (store, pod) =>
      ({ s with pods := store }, .pod pod)
  | .httpRoute route => (changeStore s.httpRoutes action route).map fun (store, route) =>
      ({ s with httpRoutes := store }, .httpRoute route)
  | .node node => (changeStore s.nodes action node).map fun (store, node) =>
      ({ s with nodes := store }, .node node)
  | .httpsCert httpsCert => (changeStore s.httpsCerts action httpsCert).map fun (store, httpsCert) =>
      ({ s with httpsCerts := store }, .httpsCert httpsCert)
  | .registry registry => (changeStore s.dockerRegistries action registry).map fun (store, registry) =>
      ({ s with dockerRegistries := store }, .registry registry)
  | .volume pvc => (changeStore s.claims action pvc).map fun (store, pvc) =>
      ({ s with claims := store }, .volume pvc)
  | .ssoConfig ssoConfig => (changeStore s.ssoConfigs action ssoConfig).map fun (store, ssoConfig) =>
      ({ s with ssoConfigs := store }, .ssoConfig ssoConfig)
  | .protectedEndpoint endpoint =>
      (changeStore s.protectedEndpoints action endpoint).map fun (store, endpoint) =>
        ({ s with protectedEndpoints := store }, .protectedEndpoint endpoint)
  | .accessToken accessToken =>
      (changeStore s.accessTokens action accessToken).map fun (store, accessToken) =>
        ({ s with accessTokens := store }, .accessToken accessToken)
  | .roleBinding roleBinding =>
      (changeStore s.roleBindings action roleBinding).map fun (store, roleBinding) =>
        ({ s with roleBindings := store }, .roleBinding roleBinding)

/-- The object of the same key that is there. -/
def ApiState.stored (s : ApiState sum256) : WatchedObject sum256 → Option (WatchedObject sum256)
  | .application n => (s.namespaces.find n.name.val).map .application
  | .component component => (s.components.find (component.ns, component.name)).map .component
  | .service service => (s.services.find (service.ns, service.name)).map .service
  | .pod pod => (s.pods.find (pod.ns, pod.name)).map .pod
  | .httpRoute route => (s.httpRoutes.find (route.ns.val, route.name.val)).map .httpRoute
  | .node node => (s.nodes.find node.name).map .node
  | .httpsCert httpsCert => (s.httpsCerts.find httpsCert.name).map .httpsCert
  | .registry registry => (s.dockerRegistries.find registry.name).map .registry
  | .volume pvc => (s.claims.find (pvc.ns, pvc.name)).map .volume
  | .ssoConfig ssoConfig => (s.ssoConfigs.find (ssoConfig.ns, ssoConfig.name)).map .ssoConfig
  | .protectedEndpoint endpoint =>
      (s.protectedEndpoints.find (endpoint.ns, endpoint.name)).map .protectedEndpoint
  | .accessToken accessToken => (s.accessTokens.find accessToken.name).map .accessToken
  | .roleBinding roleBinding =>
      (s.roleBindings.find (roleBinding.ns.val, roleBinding.name.val)).map .roleBinding

/-! ## 2. Histories -/

/-- The data of an object that does not come from the object alone, as of the last time it was told. -/
structure Latest where
  applications : Str → ApplicationDetails
  components : Str × Str → ComponentDetails
  nodes : Str → Node
  registries : Str → DockerRegistry
  persistentVolumes : Str × Str → VolumeResource

/-- The data that the lists of the API show. -/
def Latest.loaded (env : Environment sum256) (s : ApiState sum256) : Latest where
  applications k := ((s.namespaces.find k).map (buildApplicationDetails env.observed)).getD
    ⟨k, emptyDoc, emptyDoc, []⟩
  components k := ((s.components.find k).map (buildComponentDetails env.observed s)).getD ⟨k.2, .empty, emptyDoc⟩
  nodes k := ((s.nodes.find k).map (buildNodeResponse env.observed s)).getD ⟨k, emptyDoc⟩
  registries k := ((getDockerRegistries s).find? fun r => decide (r.name = k)).getD
    ⟨none, none, k, [], []⟩
  persistentVolumes k := ((s.claims.find k).map (buildVolumeResponse s)).getD
    ⟨k.2, false, k.1, [], none, none, none, []⟩

/-- A component shows the services and pods that carry its label. -/
def Latest.afterPart (latest : Latest) (env : Environment sum256) (s : ApiState sum256)
    (ns componentName : Str) : Latest :=
  if componentName = [] then latest
  else
    match s.components.find (ns, componentName) with
    | none => latest
    | some component =>
      { latest with
        components := Function.update latest.components (component.ns, component.name)
          (buildComponentDetails env.observed s component) }

/-- An event of the object, and what the cluster holds after it. -/
def Latest.after (latest : Latest) (env : Environment sum256) (s : ApiState sum256) :
    WatchedObject sum256 → Latest
  | .application n =>
    { latest with
      applications := Function.update latest.applications n.name.val
        (buildApplicationDetails env.observed n) }
  | .component component =>
    { latest with
      components := Function.update latest.components (component.ns, component.name)
        (buildComponentDetails env.observed s component) }
  | .service service => latest.afterPart env s service.ns (labelValue service.labels kalmComponent)
  | .pod pod => latest.afterPart env s pod.ns (labelValue pod.labels kalmComponent)
  | .node node =>
    { latest with nodes := Function.update latest.nodes node.name (buildNodeResponse env.observed s node) }
  | .registry registry =>
    { latest with
      registries := Function.update latest.registries registry.name
        (buildDockerRegistryFromResource registry
          (s.secrets.find (kalmSystemNamespace, getRegistryAuthenticationName registry.name))) }
  | .volume pvc =>
    { latest with
      persistentVolumes := Function.update latest.persistentVolumes (pvc.ns, pvc.name)
        (buildVolumeResponse s pvc) }
  | _ => latest

/-- The cluster, the latest data and the store of a dashboard. -/
structure History (sum256 : Str → List UInt8) where
  server : ApiState sum256
  latest : Latest
  store : RootState

/-- A step: an event; an informer tells an object that it has listed; a change of what is not watched; volumes and
    services are loaded again. -/
inductive HistoryStep (sum256 : Str → List UInt8) where
  | event (env : Environment sum256) (action : WatchAction) (object : WatchedObject sum256)
  | listed (env : Environment sum256) (object : WatchedObject sum256)
  | unwatched (secrets : Store Secret (fun s => (s.ns, s.name)))
      (httpsCertIssuers : Store HttpsCertIssuerObject (fun i => i.name))
      (serviceAccounts : Store ServiceAccount (fun a => (a.ns, a.name))) (rest : Doc)
  | reload (env : Environment sum256)

/-- The messages of an event. -/
def watchMessages (env : Environment sum256) (c : Caller) (s : ApiState sum256) (action : WatchAction)
    (object : WatchedObject sum256) : List ResMessage :=
  object.registrations.filterMap fun w => sendWatchResMessage (buildResMessage env c s action w)

/-- The event of an object, when the cluster holds `server` after it. -/
def History.next (h : History sum256) (env : Environment sum256) (c : Caller) (action : WatchAction)
    (server : ApiState sum256) (object : WatchedObject sum256) : History sum256 where
  server := server
  latest := h.latest.after env server object
  store := (watchMessages env c server action object).foldl RootState.onMessage h.store

/-- An object that is there is told as an Add: `StartWatching` makes new informers, and an informer calls its
    handlers for everything that it lists. -/
def History.told (h : History sum256) (env : Environment sum256) (c : Caller) (object : WatchedObject sum256) :
    History sum256 where
  server := h.server
  latest := if (watchMessages env c h.server .add object).isEmpty then h.latest
    else h.latest.after env h.server object
  store := (watchMessages env c h.server .add object).foldl RootState.onMessage h.store

/-- One step, if it is possible. -/
def stepHistory (c : Caller) (h : History sum256) : HistoryStep sum256 → Option (History sum256)
  | .event env action object =>
    (h.server.change action object).map fun (server, object) => h.next env c action server object
  | .listed env object => (h.server.stored object).map fun object => h.told env c object
  | .unwatched secrets httpsCertIssuers serviceAccounts rest =>
    some { h with
      server := { h.server with
        secrets := secrets
        httpsCertIssuers := httpsCertIssuers
        serviceAccounts := serviceAccounts
        rest := rest } }
  | .reload env =>
    some { h with
      latest := { h.latest with persistentVolumes := (Latest.loaded env h.server).persistentVolumes }
      store := { h.store with
        services := loadServices env c h.server
        persistentVolumes := getPersistentVolumes env c h.server } }

/-- The history after the first load. -/
def History.loaded (env : Environment sum256) (c : Caller) (s : ApiState sum256) : History sum256 :=
  ⟨s, Latest.loaded env s, loadData env c s⟩

/-! ## 3. The property -/

/-- The objects of a kind that exist and are shown, by key, with their data. -/
def present {K V W : Type} [DecidableEq K] {key : V → K} (store : Store V key) (shown : V → Bool)
    (data : K → V → W) (k : K) : Option W :=
  (store.find k).bind fun v => if shown v then some (data k v) else none

/-- Every object of the kind is shown. -/
def always {V : Type} (_ : V) : Bool := true

/-- A namespace with the label. -/
def NamespaceObject.isEnabled (n : NamespaceObject) : Bool := (n.labels.lookup kalmEnableLabelName).isSome

/-- An application: a namespace with the label that is not being deleted. -/
def NamespaceObject.isApplication (n : NamespaceObject) : Bool :=
  n.isEnabled && decide (n.phase = str "Active")

/-- A claim that Kalm manages. -/
def PersistentVolumeClaim.isManaged (pvc : PersistentVolumeClaim) : Bool :=
  decide (labelValue pvc.labels kalmManaged = str "true")

/-- **The store mirrors the cluster**: of each kind, exactly the objects that exist, each once and with its
    latest data. Of the single sign-on, apart from the configs of the connectors, which REST leaves out. -/
structure Mirrors (h : History sum256) : Prop where
  applications : Lists ApplicationDetails.name h.store.applications
    (present h.server.namespaces NamespaceObject.isApplication fun k _ => h.latest.applications k)
  components : ∀ ns, Lists ComponentDetails.name ((h.store.components ns).getD []) fun name =>
    present h.server.components always (fun k _ => h.latest.components k) (ns, name)
  services : Lists (fun x => (x.ns, x.name)) h.store.services
    (present h.server.services always fun _ svc => buildServiceResponse svc)
  httpRoutes : Lists (fun x => (x.ns, x.name)) h.store.httpRoutes
    (present h.server.httpRoutes always fun _ r => buildHttpRouteFromResource r.toHttpRoute)
  nodes : Lists Node.name h.store.nodes (present h.server.nodes always fun k _ => h.latest.nodes k)
  certificates : Lists HttpsCertResp.name h.store.certificates
    (present h.server.httpsCerts always fun _ cert => buildHttpsCertResponse cert)
  registries : Lists DockerRegistry.name h.store.registries
    (present h.server.dockerRegistries always fun k _ => h.latest.registries k)
  persistentVolumes : Lists (fun x => (x.componentNamespace, x.name)) h.store.persistentVolumes
    (present h.server.claims PersistentVolumeClaim.isManaged fun k _ => h.latest.persistentVolumes k)
  config : h.store.config.map hideConnectors = (getSSOConfig h.server).map hideConnectors
  protectedEndpoints : Lists (fun x => (x.ns, x.name)) h.store.protectedEndpoints
    (present h.server.protectedEndpoints always fun _ e => protectedEndpointCRDToProtectedEndpoint e)
  deployAccessTokens : Lists DeployAccessToken.name h.store.deployAccessTokens
    (present h.server.accessTokens StoredAccessToken.isDeploy fun _ t =>
      accessTokenToDeployAccessToken t.toAccessToken)
  roleBindings : Lists (fun x => (x.ns, x.name)) h.store.roleBindings
    (present h.server.roleBindings always fun _ b => buildRoleBinding b.toRoleBinding)

/-! ## 4. Conditions -/

/-- The client may view the object. -/
def Viewed (c : Caller) : WatchedObject sum256 → Prop
  | .application n => canViewNamespace c.policies c.client n.name.val = some true
  | .component component => canViewNamespace c.policies c.client component.ns = some true
  | .service service => canViewNamespace c.policies c.client service.ns = some true
  | .pod pod => canViewNamespace c.policies c.client pod.ns = some true
  | .httpRoute route => canOperateHttpRoute c.policies c.client (str "view")
      (buildHttpRouteFromResource route.toHttpRoute) = some true
  | .node _ | .httpsCert _ | .registry _ | .ssoConfig _ => canViewCluster c.policies c.client = some true
  | .volume pvc => canViewCluster c.policies c.client = some true ∧
      canViewNamespace c.policies c.client pvc.ns = some true
  | .protectedEndpoint endpoint => canViewNamespace c.policies c.client endpoint.ns = some true
  | .accessToken accessToken =>
      permissionsGreaterThanOrEqualAccessToken c.policies c.client accessToken.toAccessToken = some true
  | .roleBinding roleBinding =>
      canManageRoleBinding c.policies c.client roleBinding.spec.role.value roleBinding.ns.val = some true

/-- The client may view what there is. -/
structure Sees (c : Caller) (s : ApiState sum256) : Prop where
  cluster : canViewCluster c.policies c.client = some true
  namespaces : ∀ n ∈ s.namespaces.items, Viewed c (.application n : WatchedObject sum256)
  components : ∀ component ∈ s.components.items, Viewed c (.component component : WatchedObject sum256)
  httpRoutes : ∀ route ∈ s.httpRoutes.items, Viewed c (.httpRoute route : WatchedObject sum256)
  claims : ∀ pvc ∈ s.claims.items, Viewed c (.volume pvc : WatchedObject sum256)
  protectedEndpoints : ∀ e ∈ s.protectedEndpoints.items,
    Viewed c (.protectedEndpoint e : WatchedObject sum256)
  accessTokens : ∀ t ∈ s.accessTokens.items, Viewed c (.accessToken t)
  roleBindings : ∀ b ∈ s.roleBindings.items, Viewed c (.roleBinding b : WatchedObject sum256)

/-- A step whose object the client may view; when it loads again, it may view the claims. -/
def Visible (c : Caller) (h : History sum256) : HistoryStep sum256 → Prop
  | .event _ action object => ∀ server object', h.server.change action object = some (server, object') →
      Viewed c object'
  | .listed _ object => ∀ object', h.server.stored object = some object' → Viewed c object'
  | .unwatched .. => True
  | .reload _ => canViewCluster c.policies c.client = some true ∧
      ∀ pvc ∈ h.server.claims.items, Viewed c (.volume pvc : WatchedObject sum256)

/-- No other object that is shown has the name. -/
def Alone {V : Type} {key : V → Str × Str} (store : Store V key) (shown : V → Bool) (k : Str × Str) :
    Prop :=
  ∀ v ∈ store.items, shown v = true → (key v).2 = k.2 → key v = k

/-- An object that is shown before an update is told after it. -/
def StaysTold {K V : Type} [DecidableEq K] {key : V → K} (store : Store V key) (action : WatchAction)
    (shown told : V → Bool) (v : V) : Prop :=
  action = .update → ∀ old, store.find (key v) = some old → shown old = true → told v = true

/-- The event of an object is told, and no other object is taken for it. -/
def Unconfused (env : Environment sum256) (s s' : ApiState sum256) (action : WatchAction) :
    WatchedObject sum256 → Prop
  | .application n => n.name.val ≠ kalmSystemNamespace ∧
      (n.phase = str "Active" ∨ n.phase = str "Terminating") ∧
      StaysTold s.namespaces action NamespaceObject.isApplication NamespaceObject.isEnabled n
  | .service service => Alone s.services always (service.ns, service.name)
  | .httpRoute route => Alone s.httpRoutes always (route.ns.val, route.name.val)
  | .registry registry => action ≠ .delete ∧ (env.secretLast = true →
      (s'.secrets.find (kalmSystemNamespace, getRegistryAuthenticationName registry.name)).isSome)
  | .volume pvc => Alone s.claims PersistentVolumeClaim.isManaged (pvc.ns, pvc.name) ∧
      StaysTold s.claims action PersistentVolumeClaim.isManaged PersistentVolumeClaim.isManaged pvc
  | .ssoConfig ssoConfig => ssoConfig.name = ssoName → action = .delete →
      ssoConfig.ns = kalmSystemNamespace ∨ getSSOConfig s = none
  | .accessToken accessToken => StaysTold s.accessTokens action StoredAccessToken.isDeploy
      StoredAccessToken.isDeploy accessToken
  | .roleBinding roleBinding => Alone s.roleBindings always (roleBinding.ns.val, roleBinding.name.val)
  | .component _ | .pod _ | .node _ | .httpsCert _ | .protectedEndpoint _ => True

/-- An object that is told again: no other object is taken for it, and where the dashboard ignores the Add of what it
    has, the API makes of the object what it made before. -/
def Retellable (env : Environment sum256) (h : History sum256) : WatchedObject sum256 → Prop
  | .application n => n.isApplication = true → n.name.val ≠ kalmSystemNamespace →
      buildApplicationDetails env.observed n = h.latest.applications n.name.val
  | .component component => buildComponentDetails env.observed h.server component =
      h.latest.components (component.ns, component.name)
  | .node node => buildNodeResponse env.observed h.server node = h.latest.nodes node.name
  | .registry registry => buildDockerRegistryFromResource registry
      (h.server.secrets.find (kalmSystemNamespace, getRegistryAuthenticationName registry.name)) =
        h.latest.registries registry.name
  | .service service => Alone h.server.services always (service.ns, service.name)
  | .volume pvc => pvc.isManaged = true →
      Alone h.server.claims PersistentVolumeClaim.isManaged (pvc.ns, pvc.name)
  | .roleBinding roleBinding =>
      Alone h.server.roleBindings always (roleBinding.ns.val, roleBinding.name.val)
  | .pod _ | .httpRoute _ | .httpsCert _ | .ssoConfig _ | .protectedEndpoint _ | .accessToken _ => True

/-- The steps that meet the condition. -/
def Followed (c : Caller) (h : History sum256) (step : HistoryStep sum256) : Prop :=
  Visible c h step ∧
    match step with
    | .event env action object => ∀ server object',
        h.server.change action object = some (server, object') →
          Unconfused env h.server server action object'
    | .listed env object => ∀ object', h.server.stored object = some object' → Retellable env h object'
    | _ => True

/-- A dashboard that has loaded the lists. -/
def Started (c : Caller) (h : History sum256) : Prop :=
  ∃ env s, Sees c s ∧ h = .loaded env c s

/-- The cluster at the start: no application is being deleted, every component is in one. -/
structure Orderly (s : ApiState sum256) : Prop where
  applications : ∀ n ∈ s.namespaces.items, n.isEnabled = true → n.isApplication = true
  components : ∀ component ∈ s.components.items,
    ∃ n ∈ s.namespaces.items, n.isApplication = true ∧ n.name.val = component.ns

end Kalm
