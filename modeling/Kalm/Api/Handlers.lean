/-
  File:      Kalm/Api/Handlers.lean
  Subject:   THE ROUTES behind GetCurrentUserMiddleware and RequireUserMiddleware
             (`InstallMainRoutes` of api/handler/handler.go) and their handlers.

  * `HttpRequest` -- a route with what its handler reads of the request; a body is `none` where `Bind`
    fails;
  * `requires` -- a check in front of the rest of a handler;
  * `serveRequest` -- the handler of each route. What a handler lists or gets is written out; what it does
    behind a check beside that is a parameter (`Environment.behind`);
  * `Reply` -- the answer; a handler that panics answers nothing.
-/
import Kalm.Api.Objects
import Kalm.Frontend.Login
import Kalm.Route.Requests

namespace Kalm

open MergePatch (Json)
open Keyed (Store filterInPlace)

/-! ## 1. Requests and answers -/

/-- A request: the route, the parameters of its path, its query and its body. -/
inductive HttpRequest where
  | policies
  | loginStatus
  | getPVs
  | initializeCluster (body : Option Str)
  | resetCluster
  | clusterInfo
  | getApplications
  | createApplication (body : Option Str)
  | getApplicationDetails (name : Str)
  | deleteApplication (name : Str)
  | listClusterServices
  | listComponentPlugins
  | listComponents (applicationName : Str)
  | getComponent (applicationName name : Str)
  | updateComponent (applicationName name : Str) (body : Option ResourcesComponent)
  | deleteComponent (applicationName name : Str)
  | createComponent (applicationName : Str) (body : Option ResourcesComponent)
  | listRegistries
  | getRegistry (name : Str)
  | updateRegistry (body : Option DockerRegistry)
  | createRegistry (body : Option DockerRegistry)
  | deleteRegistry (name : Str)
  | deletePod (ns name : Str)
  | listRoleBindings
  | createRoleBinding (body : Option RoleBindingBody)
  | updateRoleBinding (body : Option RoleBindingBody)
  | deleteRoleBinding (ns name : Str)
  | getServiceAccount (name : Str)
  | listNodes
  | cordonNode (name : Str)
  | uncordonNode (name : Str)
  | listAllRoutes
  | listRoutes (ns : Str)
  | createRoute (body : Option HttpRouteResource)
  | updateRoute (body : Option HttpRouteResource)
  | deleteRoute (ns name : Str)
  | getHttpsCertIssuer
  | createHttpsCertIssuer (body : Option HttpsCertIssuer)
  | updateHttpsCertIssuer (body : Option HttpsCertIssuer)
  | deleteHttpsCertIssuer (name : Str)
  | getHttpsCerts
  | createHttpsCert (body : Option Doc)
  | uploadHttpsCert (body : Option Doc)
  | updateHttpsCert (body : Option Doc)
  | deleteHttpsCert (name : Str)
  | listStorageClasses
  | listVolumes
  | deletePVC (ns name : Str)
  | availableVolsForSimpleWorkload (ns currentNamespace : Str)
  | availableVolsForSts (ns : Str)
  | listAccessTokens
  | createAccessToken (body : Option AccessTokenBody)
  | deleteAccessToken (body : Option AccessTokenBody)
  | listDeployAccessTokens
  | createDeployAccessToken (body : Option AccessTokenBody)
  | listSSOConfig
  | deleteSSOConfig
  | updateSSOConfig (body : Option (Option SingleSignOnConfigSpec))
  | createSSOConfig (body : Option (Option SingleSignOnConfigSpec))
  | listProtectedEndpoints
  | deleteProtectedEndpoints (body : Option ProtectedEndpoint)
  | createProtectedEndpoints (body : Option ProtectedEndpoint)
  | updateProtectedEndpoints (body : Option ProtectedEndpoint)
  | createACMEServer (body : Option Doc)
  | getACMEServer
  | updateACMEServer (body : Option Doc)
  | deleteACMEServer
  | listSettings

/-- The errors of the handlers. -/
inductive HandlerError where
  | insufficientPermissions
  | noClusterViewerRole
  | noClusterEditorRole
  | noClusterOwnerRole
  | noNamespaceViewerRole (scope : Str)
  | noNamespaceEditorRole (scope : Str)
  | noRegistriesViewPermission
  | noStorageClassesViewPermission
  | badRequest (text : Str)
  | bind
  | notFound
  | refused
  deriving DecidableEq

/-- The texts of api/resources/errors.go; the other errors are echo's and the API server's. -/
def HandlerError.text : HandlerError → Str
  | .insufficientPermissions =>
    str "You don't have enough permissions to create/modify/delete this resource"
  | .noClusterViewerRole => str "Require viewer role in cluster level"
  | .noClusterEditorRole => str "Require editor role in cluster level"
  | .noClusterOwnerRole => str "Require owner role in cluster level"
  | .noNamespaceViewerRole scope => str "Require viewer role. [application " ++ scope ++ str "]"
  | .noNamespaceEditorRole scope => str "Require editor role. [application " ++ scope ++ str "]"
  | .noRegistriesViewPermission => str "Require editor role in any application or cluster reader role"
  | .noStorageClassesViewPermission => str "Require view role in any application or cluster"
  | .badRequest text => text
  | .bind | .notFound | .refused => []

/-- One object of an answer. -/
inductive Item where
  | application (a : ApplicationDetails)
  | component (ns : Str) (c : ComponentDetails)
  | service (s : Service)
  | httpRoute (r : HttpRouteResource)
  | node (n : Node)
  | httpsCert (c : HttpsCertResp)
  | httpsCertIssuer (i : HttpsCertIssuer)
  | registry (r : DockerRegistry)
  | volume (v : VolumeResource)
  | ssoConfig (c : SingleSignOnConfigSpec)
  | protectedEndpoint (e : ProtectedEndpoint)
  | accessToken (t : AccessToken)
  | roleBinding (b : RoleBindingResource)
  | serviceAccount (token crt : Str)
  | other (json : Doc)

/-- The body of an answer: nothing, objects, or what the client is told about itself (`none` is the
    zero `LoginStatusResponse`). -/
inductive Body where
  | empty
  | items (l : List Item)
  | loginStatus (r : Option LoginStatus)

/-- What a handler answers. -/
inductive Reply where
  | panicked
  | error (e : HandlerError)
  | ok (body : Body)

/-- The caller: the policies of the moment, the client and its name. -/
structure Caller where
  policies : PolicySet
  client : ClientInfo
  name : Str

variable {sum256 : Str → List UInt8}

/-- A handler, for the objects that are there. -/
abbrev Handler (sum256 : Str → List UInt8) := ApiState sum256 → Reply × ApiState sum256

/-- What does not come from the request and the objects: what is computed from metrics, the handlers'
    work behind their checks beside listing and getting, what else the API server asks of a route
    (the enumerations of its CRD among it), which of two reading goroutines is the last, whether the
    cluster tells its version, and the random token. -/
structure Environment (sum256 : Str → List UInt8) where
  observed : Observed sum256
  behind : HttpRequest → Caller → Handler sum256
  answers : HttpRoute → Bool
  secretLast : Bool
  serverVersion : Bool
  token : Str

/-! ## 2. The pieces of a handler -/

/-- An answer that leaves the objects as they are. -/
def answerWith (r : Reply) : Handler sum256 := fun s => (r, s)

/-- An error. -/
def failWith (e : HandlerError) : Handler sum256 := answerWith (.error e)

/-- A check in front of the rest. -/
def requires (allowed : Option Bool) (e : HandlerError) (next : Handler sum256) : Handler sum256 :=
  match allowed with
  | none => answerWith .panicked
  | some false => failWith e
  | some true => next

/-- `c.Bind` in front of the rest. -/
def bindBody {β : Type} (body : Option β) (next : β → Handler sum256) : Handler sum256 :=
  match body with
  | none => failWith .bind
  | some b => next b

/-- A pointer of the body that is dereferenced. -/
def deref {β : Type} (p : Option β) (next : β → Handler sum256) : Handler sum256 :=
  match p with
  | none => answerWith .panicked
  | some b => next b

/-- A `Get` in front of the rest. -/
def getting {β : Type} (o : Option β) (next : β → Handler sum256) : Handler sum256 :=
  match o with
  | none => failWith .notFound
  | some b => next b

/-- The accepted objects of a list. -/
def listFiltered {β : Type} (keep : β → Option Bool) (item : β → Item) (l : List β) :
    Handler sum256 :=
  match filterInPlace keep l with
  | none => answerWith .panicked
  | some l => answerWith (.ok (.items (l.map item)))

/-! ## 3. Access tokens -/

/-- `PermissionsGreaterThanOrEqualAccessToken` on the rules of a request. -/
def coversRules (c : Caller) (name : Str) (rules : List AccessTokenRuleBody) : Option Bool :=
  coversPolicies c.policies c.client (rules.map (AccessTokenRuleBody.policy name))

/-- The verb of a text. -/
def parseVerb (verb : Str) : Option AccessTokenVerb :=
  if verb = str "view" then some .view
  else if verb = str "edit" then some .edit
  else if verb = str "manage" then some .manage
  else none

/-- The rules of a request, if every verb is of the CRD's enumeration. -/
def typedRules : List AccessTokenRuleBody → Option (List AccessTokenRule)
  | [] => some []
  | rule :: rules =>
    match parseVerb rule.verb, typedRules rules with
    | some verb, some typed => some (⟨verb, rule.ns, rule.kind, rule.name⟩ :: typed)
    | _, _ => none

instance (r : AccessToken) : Decidable r.Markers :=
  decidable_of_iff (64 ≤ runeCount r.spec.token ∧ r.spec.rules ≠ [] ∧ r.spec.creator ≠ [] ∧
      ∀ rule ∈ r.spec.rules, rule.ns ≠ [] ∧ rule.kind ≠ [] ∧ rule.name ≠ [])
    ⟨fun h => ⟨h.1, h.2.1, h.2.2.1, fun rule hr =>
        ⟨(h.2.2.2 rule hr).1, (h.2.2.2 rule hr).2.1, (h.2.2.2 rule hr).2.2⟩⟩,
      fun h => ⟨h.token, h.rules, h.creator, fun rule hr =>
        ⟨(h.rule rule hr).ns, (h.rule rule hr).kind, (h.rule rule hr).name⟩⟩⟩

/-- `Create` of an access token: the API server asks for the verbs, the markers, the webhook and a free
    name. -/
def createToken (labels : Labels) (creator token : Str)
    (spec : List AccessTokenRuleBody × Option Int) : Handler sum256 := fun s =>
  match typedRules spec.1 with
  | none => (.error .refused, s)
  | some rules =>
    let r : AccessToken :=
      ⟨getAccessTokenNameFromToken sum256 token, ⟨token, rules, creator, spec.2⟩⟩
    if h : r.Markers ∧ r.validate sum256 = [] then
      if (s.accessTokens.find r.name).isSome then (.error .refused, s)
      else
        (.ok (.items [.accessToken r]),
          { s with accessTokens := s.accessTokens.insert ⟨⟨r, h.1, h.2⟩, labels⟩ })
    else (.error .refused, s)

/-- `deployAccessTokenLabels` -/
def deployAccessTokenLabels : Labels := [(str "tokenType", str "deployAccessToken")]

/-- A deploy access token. -/
def StoredAccessToken.isDeploy (t : StoredAccessToken sum256) : Bool :=
  labelValue t.labels (str "tokenType") = str "deployAccessToken"

section Handlers

variable (env : Environment sum256) (c : Caller)

/-- `filterAuthorizedAccessTokens`. -/
def listTokens (tokens : List (StoredAccessToken sum256)) : Handler sum256 :=
  listFiltered
    (fun t => permissionsGreaterThanOrEqualAccessToken c.policies c.client t.toAccessToken)
    (fun t => .accessToken t.toAccessToken) tokens

/-- `handleListAccessTokens` -/
def handleListAccessTokens : Handler sum256 := fun s => listTokens c s.accessTokens.items s

/-- `handleListDeployAccessTokens` -/
def handleListDeployAccessTokens : Handler sum256 := fun s =>
  listTokens c (s.accessTokens.items.filter StoredAccessToken.isDeploy) s

/-- The two creations: the rules are dereferenced by the check. -/
def createTokenWith (labels : Labels) (check : List AccessTokenRuleBody → Option HandlerError)
    (body : Option AccessTokenBody) : Handler sum256 :=
  bindBody body fun body =>
  deref body.spec fun spec =>
  requires (coversRules c body.name spec.1) .insufficientPermissions <|
  match check spec.1 with
  | some e => failWith e
  | none => createToken labels c.name env.token spec

/-- `handleCreateAccessToken` -/
def handleCreateAccessToken : Option AccessTokenBody → Handler sum256 :=
  createTokenWith env c [] fun _ => none

/-- The loop of `handleCreateDeployAccessToken` over the rules. -/
def checkDeployRules : List AccessTokenRuleBody → Option HandlerError
  | [] => none
  | rule :: rules =>
    if rule.verb ≠ str "edit" then
      some (.badRequest (str "Only edit verb is allowed for deploy access tokens"))
    else if rule.kind ≠ str "components" then
      some (.badRequest (str "Only 'components' Kind is allowed for deploy access tokens"))
    else checkDeployRules rules

/-- `handleCreateDeployAccessToken` -/
def handleCreateDeployAccessToken : Option AccessTokenBody → Handler sum256 :=
  createTokenWith env c deployAccessTokenLabels checkDeployRules

/-- `handleDeleteAccessToken` -/
def handleDeleteAccessToken (body : Option AccessTokenBody) : Handler sum256 :=
  bindBody body fun body s =>
  getting (s.accessTokens.find body.name) (fun fetched =>
    requires (permissionsGreaterThanOrEqualAccessToken c.policies c.client fetched.toAccessToken)
      .insufficientPermissions
      fun s => (.ok .empty, { s with accessTokens := s.accessTokens.erase body.name })) s

/-! ## 4. Role bindings, routes and endpoints -/

/-- `filterAuthorizedRoleBindings`, `handleListRoleBindings` -/
def handleListRoleBindings : Handler sum256 := fun s =>
  listFiltered
    (fun b => canManageRoleBinding c.policies c.client b.spec.role.value b.ns.val)
    (fun b => .roleBinding (buildRoleBinding b.toRoleBinding)) s.roleBindings.items s

/-- `handleCreateRoleBinding`, `handleUpdateRoleBinding`: the spec is dereferenced before the check. -/
def writeRoleBinding (write : Handler sum256) (body : Option RoleBindingBody) : Handler sum256 :=
  bindBody body fun body =>
  deref body.spec fun (_, _, role) =>
  requires (canManageRoleBinding c.policies c.client role body.ns) .insufficientPermissions write

/-- `handleDeleteRoleBinding` -/
def handleDeleteRoleBinding (ns name : Str) : Handler sum256 := fun s =>
  getting (s.roleBindings.find (ns, name)) (fun fetched =>
    requires (canManageRoleBinding c.policies c.client fetched.spec.role.value fetched.ns.val)
      .insufficientPermissions
      fun s => (.ok .empty, { s with roleBindings := s.roleBindings.erase (ns, name) })) s

/-- `GetServiceAccountSecrets`, `handleGetServiceAccount`: the first secret is indexed. -/
def handleGetServiceAccount (name : Str) : Handler sum256 := fun s =>
  getting (s.serviceAccounts.find (kalmSystemNamespace, name)) (fun account =>
    deref account.secrets.head? fun secretName =>
    getting (s.secrets.find (kalmSystemNamespace, secretName)) fun secret =>
    answerWith (.ok (.items [.serviceAccount (secret.text (str "token"))
      (secret.text (str "ca.crt"))]))) s

/-- `filterAuthorizedHttpRoutes` -/
def listHttpRoutes (routes : List StoredHttpRoute) : Handler sum256 :=
  listFiltered
    (fun r => canOperateHttpRoute c.policies c.client (str "view")
      (buildHttpRouteFromResource r.toHttpRoute))
    (fun r => .httpRoute (buildHttpRouteFromResource r.toHttpRoute)) routes

/-- `handleListAllRoutes` -/
def handleListAllRoutes : Handler sum256 := fun s => listHttpRoutes c s.httpRoutes.items s

/-- `handleListRoutes`: the empty namespace is every namespace. -/
def handleListRoutes (ns : Str) : Handler sum256 := fun s =>
  listHttpRoutes c (s.httpRoutes.items.filter fun r => ns = [] ∨ r.ns.val = ns) s

/-- `Create` or `Update` of a route: the API server asks for the webhook and the markers of the CRD. -/
def storeRoute (present : Bool) (route : HttpRouteResource) : Handler sum256 := fun s =>
  match objectKey route.ns route.name, route.spec with
  | some key, some spec =>
    let r := routeAt key spec
    if present = true ∧ (s.httpRoutes.find (key.1.val, key.2.val)).isNone then (.error .notFound, s)
    else if h : r.validate = [] ∧ r.spec.destinations ≠ [] then
      if env.answers r = false then (.error .refused, s)
      else if present then
        (.ok (.items [.httpRoute route]),
          { s with httpRoutes := s.httpRoutes.replace ⟨⟨r, h.1⟩, h.2⟩ })
      else if (s.httpRoutes.find (key.1.val, key.2.val)).isSome then (.error .refused, s)
      else
        (.ok (.items [.httpRoute route]),
          { s with httpRoutes := s.httpRoutes.insert ⟨⟨r, h.1⟩, h.2⟩ })
    else (.error .refused, s)
  | _, _ => (.error .refused, s)

/-- `handleCreateRoute`, `handleUpdateRoute` -/
def writeRoute (present : Bool) (body : Option HttpRouteResource) : Handler sum256 :=
  bindBody body fun route =>
  requires (canOperateHttpRoute c.policies c.client (str "edit") route) .insufficientPermissions
    (storeRoute env present route)

/-- `handleDeleteRoute`: a route that cannot be read is deleted without an error. -/
def handleDeleteRoute (ns name : Str) : Handler sum256 := fun s =>
  match s.httpRoutes.find (ns, name) with
  | none => (.ok .empty, s)
  | some route =>
    requires (canOperateHttpRoute c.policies c.client (str "edit")
        (buildHttpRouteFromResource route.toHttpRoute)) .insufficientPermissions
      (fun s => (.ok .empty, { s with httpRoutes := s.httpRoutes.erase (ns, name) })) s

/-- `handleListProtectedEndpoints` -/
def handleListProtectedEndpoints : Handler sum256 := fun s =>
  listFiltered (fun e => canViewNamespace c.policies c.client e.ns)
    (fun e => .protectedEndpoint (protectedEndpointCRDToProtectedEndpoint e))
    s.protectedEndpoints.items s

/-- The three writes of endpoints check the namespace of the body. -/
def writeProtectedEndpoint (write : Handler sum256) (body : Option ProtectedEndpoint) :
    Handler sum256 :=
  bindBody body fun e =>
  requires (canEditNamespace c.policies c.client e.ns) (.noNamespaceEditorRole e.ns) write

/-! ## 5. Applications, components, services, volumes -/

/-- `handleGetApplications`: the namespaces the client may view, if they have the label. -/
def handleGetApplications : Handler sum256 := fun s =>
  match filterInPlace (fun n => canViewNamespace c.policies c.client n.name.val)
      s.namespaces.items with
  | none => (.panicked, s)
  | some l =>
    (.ok (.items ((l.filter fun n => (n.labels.lookup kalmEnableLabelName).isSome).map fun n =>
      .application (buildApplicationDetails env.observed n))), s)

/-- `handleGetApplicationDetails`: any namespace the client may view. -/
def handleGetApplicationDetails (name : Str) : Handler sum256 :=
  requires (canViewNamespace c.policies c.client name) (.noNamespaceViewerRole name) fun s =>
  getting (s.namespaces.find name) (fun n =>
    answerWith (.ok (.items [.application (buildApplicationDetails env.observed n)]))) s

/-- `handleListComponents` -/
def handleListComponents (ns : Str) : Handler sum256 :=
  requires (canViewNamespace c.policies c.client ns) (.noNamespaceViewerRole ns) fun s =>
  (.ok (.items ((s.components.items.filter fun comp => comp.ns = ns).map fun comp =>
    .component comp.ns (buildComponentDetails env.observed s comp))), s)

/-- `handleGetComponent` -/
def handleGetComponent (ns name : Str) : Handler sum256 :=
  requires (canViewNamespace c.policies c.client ns) (.noNamespaceViewerRole ns) fun s =>
  getting (s.components.find (ns, name)) (fun comp =>
    answerWith (.ok (.items [.component comp.ns (buildComponentDetails env.observed s comp)]))) s

/-- `handleListClusterServices`: its route has no parameter, so the namespace is empty. -/
def handleListClusterServices : Handler sum256 :=
  requires (canViewCluster c.policies c.client) .noClusterViewerRole fun s =>
  (.ok (.items (s.services.items.map fun svc => .service (buildServiceResponse svc))), s)

/-- `handleListVolumes`: the managed claims of the namespaces the client may view. The loop skips the
    others; sorting is left out. -/
def listVolumes (s : ApiState sum256) : List PersistentVolumeClaim → Option (List Item)
  | [] => some []
  | pvc :: claims =>
    match canViewNamespace c.policies c.client pvc.ns with
    | none => none
    | some false => listVolumes s claims
    | some true => (listVolumes s claims).map (.volume (buildVolumeResponse s pvc) :: ·)

/-- `handleListVolumes` -/
def handleListVolumes : Handler sum256 := fun s =>
  match listVolumes c s (s.claims.items.filter fun pvc => labelValue pvc.labels kalmManaged = str "true")
    with
  | none => (.panicked, s)
  | some l => (.ok (.items l), s)

/-! ## 6. Nodes, certificates, issuers, registries, the SSO config -/

/-- `handleListNodes` -/
def handleListNodes : Handler sum256 :=
  requires (canViewCluster c.policies c.client) .noClusterViewerRole fun s =>
  (.ok (.items (s.nodes.items.map fun n => .node (buildNodeResponse env.observed s n))), s)

/-- `handleGetHttpsCerts` -/
def handleGetHttpsCerts : Handler sum256 :=
  requires (canViewCluster c.policies c.client) .noClusterViewerRole fun s =>
  (.ok (.items (s.httpsCerts.items.map fun cert => .httpsCert (buildHttpsCertResponse cert))), s)

/-- `handleGetHttpsCertIssuer` -/
def handleGetHttpsCertIssuer : Handler sum256 :=
  requires (canViewCluster c.policies c.client) .noClusterViewerRole fun s =>
  (.ok (.items (s.httpsCertIssuers.items.map fun issuer =>
    .httpsCertIssuer (buildHttpsCertIssuer issuer))), s)

/-- The check of the two readers of registries. -/
def canViewRegistries : Option Bool := canView c.policies c.client [star] (str "registries")

/-- `handleListRegistries` -/
def handleListRegistries : Handler sum256 :=
  requires (canViewRegistries c) .noRegistriesViewPermission fun s =>
  (.ok (.items ((getDockerRegistries s).map .registry)), s)

/-- `handleGetRegistry` -/
def handleGetRegistry (name : Str) : Handler sum256 :=
  requires (canViewRegistries c) .noRegistriesViewPermission fun s =>
  getting (getDockerRegistry s env.secretLast name) (fun r => answerWith (.ok (.items [.registry r]))) s

/-- The connectors without their configs. -/
def hideConnectors (spec : SingleSignOnConfigSpec) : SingleSignOnConfigSpec :=
  { spec with connectors := spec.connectors.map fun conn => { conn with config := none } }

/-- `handleListSSOConfig`: the configs of the connectors are hidden; without a config the answer is
    null. -/
def handleListSSOConfig : Handler sum256 :=
  requires (canViewCluster c.policies c.client) .noClusterViewerRole fun s =>
  (.ok (.items ((getSSOConfig s).toList.map fun spec => .ssoConfig (hideConnectors spec))), s)

/-! ## 7. The routes -/

/-- The route of `handleLoginStatus`: what the client is told about itself, if the cluster tells its
    version. -/
def serveLoginStatus : Handler sum256 :=
  if env.serverVersion = false then answerWith (.ok (.loginStatus none))
  else
    deref (handleLoginStatus c.policies c.client) fun res => answerWith (.ok (.loginStatus (some res)))

/-- The check of the namespace in front of the available volumes. -/
def availableVols (ns : Str) (rest : Handler sum256) : Handler sum256 :=
  if ns = [] then failWith (.badRequest (str "must provide namespace in query"))
  else requires (canViewNamespace c.policies c.client ns) (.noNamespaceViewerRole ns) rest

/-- `updateComponent` up to its check: the spec is dereferenced before it. -/
def handleUpdateComponent (ns : Str) (body : Option ResourcesComponent) (rest : Handler sum256) :
    Handler sum256 :=
  bindBody body fun component =>
  deref component.componentSpec fun _ =>
  requires (canEditNamespace c.policies c.client ns) (.noNamespaceEditorRole ns) rest

/-- The handler of a route. -/
def serveRequest (req : HttpRequest) : Handler sum256 :=
  let P := c.policies
  let client := c.client
  let rest := env.behind req c
  match req with
  | .policies => requires (canEditCluster P client) .insufficientPermissions rest
  | .loginStatus => serveLoginStatus env c
  | .getPVs | .clusterInfo | .getACMEServer =>
    requires (canViewCluster P client) .noClusterViewerRole rest
  | .initializeCluster _ | .resetCluster =>
    requires (canManageCluster P client) .noClusterOwnerRole rest
  | .getApplications => handleGetApplications env c
  | .createApplication _ | .deleteApplication _ | .createRegistry _ | .updateRegistry _
  | .deleteRegistry _ | .cordonNode _ | .uncordonNode _ | .createHttpsCertIssuer _
  | .updateHttpsCertIssuer _ | .deleteHttpsCertIssuer _ | .createHttpsCert _ | .uploadHttpsCert _
  | .updateHttpsCert _ | .deleteHttpsCert _ | .deleteSSOConfig | .updateSSOConfig _
  | .createSSOConfig _ | .createACMEServer _ | .updateACMEServer _ | .deleteACMEServer =>
    requires (canEditCluster P client) .noClusterEditorRole rest
  | .getApplicationDetails name => handleGetApplicationDetails env c name
  | .listClusterServices => handleListClusterServices c
  | .listComponentPlugins => rest
  | .listComponents ns => handleListComponents env c ns
  | .getComponent ns name => handleGetComponent env c ns name
  | .updateComponent ns _ body => handleUpdateComponent c ns body rest
  | .deleteComponent ns _ | .createComponent ns _ | .deletePod ns _ | .deletePVC ns _ =>
    requires (canEditNamespace P client ns) (.noNamespaceEditorRole ns) rest
  | .listRegistries => handleListRegistries c
  | .getRegistry name => handleGetRegistry env c name
  | .listRoleBindings => handleListRoleBindings c
  | .createRoleBinding body | .updateRoleBinding body => writeRoleBinding c rest body
  | .deleteRoleBinding ns name => handleDeleteRoleBinding c ns name
  | .getServiceAccount name => handleGetServiceAccount name
  | .listNodes => handleListNodes env c
  | .listAllRoutes => handleListAllRoutes c
  | .listRoutes ns => handleListRoutes c ns
  | .createRoute body => writeRoute env c false body
  | .updateRoute body => writeRoute env c true body
  | .deleteRoute ns name => handleDeleteRoute c ns name
  | .getHttpsCertIssuer => handleGetHttpsCertIssuer c
  | .getHttpsCerts => handleGetHttpsCerts c
  | .listStorageClasses =>
    requires (canView P client [star] (str "storageClasses")) .noStorageClassesViewPermission rest
  | .listVolumes => handleListVolumes c
  | .availableVolsForSimpleWorkload ns currentNamespace =>
    availableVols c (if ns = [] then currentNamespace else ns) rest
  | .availableVolsForSts ns => availableVols c ns rest
  | .listAccessTokens => handleListAccessTokens c
  | .createAccessToken body => handleCreateAccessToken env c body
  | .deleteAccessToken body => handleDeleteAccessToken c body
  | .listDeployAccessTokens => handleListDeployAccessTokens c
  | .createDeployAccessToken body => handleCreateDeployAccessToken env c body
  | .listSSOConfig => handleListSSOConfig c
  | .listProtectedEndpoints => handleListProtectedEndpoints c
  | .deleteProtectedEndpoints body | .createProtectedEndpoints body
  | .updateProtectedEndpoints body => writeProtectedEndpoint c rest body
  | .listSettings => answerWith (.ok .empty)

end Handlers

/-- An API whose handlers answer nothing behind their checks. -/
def plainEnvironment : Environment (fun _ => []) where
  observed :=
    { metrics := fun _ => emptyDoc
      istioMetricHistories := fun _ => emptyDoc
      istioMetrics := fun _ => []
      order := ⟨fun _ entries => entries, fun _ _ => .refl _⟩
      componentDetails := fun _ _ => emptyDoc
      nodeDetails := fun _ _ => emptyDoc }
  behind := fun _ _ => answerWith (.ok .empty)
  answers := fun _ => true
  secretLast := true
  serverVersion := true
  token := str "t"

end Kalm
