/-
  File:      Kalm/Route/Run.lean
  Subject:   THE RECONCILER OF THE ROUTES: `HttpRouteReconcilerTask.Run` and `SaveVirtualService` of
             controller/controllers/http_route_controller.go, over a server that stores routes, virtual
             services and Envoy filters.

  * `saveVirtualService` -- looks a virtual service up by the name made of the host, in the listing that was
    taken first, and creates or updates it;
  * `HttpRouteReconcilerTask.run` -- saves a virtual service for each host, creates the missing redirect filters,
    deletes those that are left over and the virtual services of hosts that are not listed any more;
  * `RouteReachable` -- what the runs of the reconciler make of a cluster whose routes change.
-/
import Kalm.Lib.Objects
import Kalm.Route.Envoy
import Kalm.Route.Specific

namespace Kalm

open Objects (Schema State Versioned Task invoke)
open Sorting (Procedure)
open Calls (Action Fault)

/-! ## 1. What is stored -/

/-- `v1beta1.VirtualService`. -/
structure VirtualService where
  ns : Str
  name : Str
  labels : ObjectLabels
  hosts : List Str
  http : List HTTPRouteRule
  exportTo : List Str
  gateways : List Str
  deriving DecidableEq

/-- The kinds of objects of the reconciler. -/
inductive RouteKind where
  | httpRoute
  | virtualService
  | envoyFilter
  deriving DecidableEq

namespace RouteKind

/-- The objects of a kind. -/
@[reducible] def Obj : RouteKind → Type
  | httpRoute => HttpRoute
  | virtualService => VirtualService
  | envoyFilter => EnvoyFilter

/-- Namespace and name. -/
def key : (k : RouteKind) → k.Obj → Str × Str
  | httpRoute, route => (route.ns.val, route.name.val)
  | virtualService, vs => (vs.ns, vs.name)
  | envoyFilter, filter => (filter.ns, filter.name)

/-- The names the API server takes. -/
def valid (k : RouteKind) (obj : k.Obj) : Bool := isDNS1123Subdomain (k.key obj).2

instance : (k : RouteKind) → DecidableEq k.Obj
  | httpRoute => inferInstanceAs (DecidableEq HttpRoute)
  | virtualService => inferInstanceAs (DecidableEq VirtualService)
  | envoyFilter => inferInstanceAs (DecidableEq EnvoyFilter)

end RouteKind

/-- The API server of the reconciler. -/
@[reducible] def routeSchema : Schema where
  Kind := RouteKind
  Key := Str × Str
  Obj := RouteKind.Obj
  key := fun {k} obj => k.key obj
  valid := fun {k} obj => k.valid obj

/-- The cluster of the reconciler. -/
abbrev RouteCluster := State routeSchema

/-- A program of the reconciler. -/
abbrev RouteTask := Task routeSchema

/-- A virtual service as it is stored. -/
abbrev StoredVirtualService := Versioned routeSchema .virtualService

/-- An Envoy filter as it is stored. -/
abbrev StoredEnvoyFilter := Versioned routeSchema .envoyFilter

/-- A call of the reconciler. -/
abbrev routeCall (c : Objects.Call routeSchema) : RouteTask c.Reply := invoke c

/-- The routes of the cluster. -/
def routesOf (s : RouteCluster) : List HttpRoute := (s.list .httpRoute).map fun v => v.obj

/-! ## 2. `SaveVirtualService` -/

/-- `strings.ReplaceAll(strings.ReplaceAll(host, "*", "wildcard"), ".", "-")` -/
def hostText (host : Str) : Str :=
  host.flatMap fun b => if b = star then str "wildcard" else if b = dot then [dash] else [b]

/-- `virtualServiceName`. -/
def virtualServiceName (host : Str) : Str := str "vs-" ++ hostText host

/-- The key of the virtual service of a host. -/
def virtualServiceKey (host : Str) : Str × Str := (kalmSystemNamespace, virtualServiceName host)

/-- The fields that `SaveVirtualService` sets. -/
def VirtualService.save (vs : VirtualService) (host : Str) (routes : List HTTPRouteRule) :
    VirtualService where
  ns := kalmSystemNamespace
  name := virtualServiceName host
  labels := vs.labels.insert kalmRouteLabel (str "true")
  hosts := [host]
  http := routes
  exportTo := [str "*"]
  gateways := [HttpRouteScheme.http.gateway, HttpRouteScheme.https.gateway]

/-- `var virtualService v1beta1.VirtualService` -/
def VirtualService.zero : VirtualService where
  ns := []
  name := []
  labels := ∅
  hosts := []
  http := []
  exportTo := []
  gateways := []

/-- The virtual service of a host in the listing. -/
def findVirtualService (virtualServices : List StoredVirtualService) (host : Str) :
    Option StoredVirtualService :=
  virtualServices.find? fun vs => routeSchema.key vs.obj = virtualServiceKey host

/-- `SaveVirtualService`. -/
def saveVirtualService (virtualServices : List StoredVirtualService) (host : Str)
    (routes : List HTTPRouteRule) : RouteTask Unit :=
  match findVirtualService virtualServices host with
  | none => routeCall (.create .virtualService (VirtualService.zero.save host routes))
  | some vs => routeCall (.update .virtualService ⟨VirtualService.save vs.obj host routes, vs.version⟩)

/-! ## 3. `Run` -/

/-- The order in which a loop runs over the keys of a map. -/
structure MapOrder where
  order : List Str → List Str
  perm : ∀ l, (order l).Perm l

/-- The hosts of the routes: the keys of `hostVirtualService`. -/
def listedHosts (routes : List HttpRoute) : List Str := (routes.flatMap fun route => route.spec.hosts).dedup

/-- `sort.Slice` with `sortRoutes`; `none` where a comparison panics. -/
def sortSlice (sort : Procedure) (rules : List HTTPRouteRule) : Option (List HTTPRouteRule) :=
  if rules.all fun a => rules.all fun b => (sortRoutes a b).isSome then
    some (sort.sort (fun a b => sortRoutes a b = some true) rules)
  else none

/-- The loop over `hostVirtualService`. -/
def saveVirtualServices (sort : Procedure) (virtualServices : List StoredVirtualService)
    (routes : List HttpRoute) : List Str → RouteTask Unit
  | [] => pure ()
  | host :: hosts =>
    match sortSlice sort (hostRules routes host) with
    | none => .crash
    | some rules => do
      saveVirtualService virtualServices host rules
      saveVirtualServices sort virtualServices routes hosts

/-- `httpsRedirectFilterMap`. -/
abbrev FilterMap := Mirror.Table Str StoredEnvoyFilter

/-- `httpsRedirectFilterMap[filter.Name] = &filter`, for each filter. -/
def filterMap (filters : List StoredEnvoyFilter) : FilterMap :=
  filters.foldl (fun m filter => m.insert (routeSchema.key filter.obj).2 filter) ∅

/-- The loop over the routes that creates the missing filters, and takes those that stay out of the map. -/
def createRedirectFilters : List HttpRoute → FilterMap → RouteTask FilterMap
  | [], m => pure m
  | route :: routes, m =>
    if route.spec.httpRedirectToHttps then
      if (m.lookup (getHttpsRedirectEnvoyFilterName route)).isNone then do
        routeCall (.create .envoyFilter (buildHttpsRedirectEnvoyFilter route))
        createRedirectFilters routes m
      else createRedirectFilters routes (m.erase (getHttpsRedirectEnvoyFilterName route))
    else createRedirectFilters routes m

/-- The loop over the filters that are left in the map. -/
def deleteFilters (m : FilterMap) (names : List Str) : RouteTask Unit :=
  Objects.deleteAll .envoyFilter
    ((names.filterMap fun name => m.lookup name).map fun filter => routeSchema.key filter.obj)

/-- The loop over the virtual services of the listing: those of other hosts are deleted. -/
def deleteVirtualServices (hosts : List Str) : List StoredVirtualService → RouteTask Unit
  | [] => pure ()
  | vs :: rest =>
    match (VirtualService.hosts vs.obj).head? with
    | none => .crash
    | some host =>
      if host ∈ hosts then deleteVirtualServices hosts rest
      else do
        routeCall (.delete .virtualService (routeSchema.key vs.obj))
        deleteVirtualServices hosts rest

/-- The virtual services with the label. -/
def labelledServices (all : List StoredVirtualService) : List StoredVirtualService :=
  all.filter fun vs => hasRouteLabel (VirtualService.labels vs.obj)

/-- The filters with the label. -/
def labelledFilters (all : List StoredEnvoyFilter) : List StoredEnvoyFilter :=
  all.filter fun filter => hasRouteLabel (EnvoyFilter.labels filter.obj)

/-- `Run` behind its listings. -/
def runListed (sort : Procedure) (hostOrder filterOrder : MapOrder) (routes : List HttpRoute)
    (virtualServices : List StoredVirtualService) (filters : List StoredEnvoyFilter) : RouteTask Unit := do
  saveVirtualServices sort virtualServices routes (hostOrder.order (listedHosts routes))
  let unused ← createRedirectFilters routes (filterMap filters)
  deleteFilters unused (filterOrder.order unused.keys)
  deleteVirtualServices (listedHosts routes) virtualServices

/-- `HttpRouteReconcilerTask.Run`. -/
def HttpRouteReconcilerTask.run (sort : Procedure) (hostOrder filterOrder : MapOrder) : RouteTask Unit := do
  let routes ← routeCall (.list .httpRoute)
  let virtualServices ← routeCall (.list .virtualService)
  let filters ← routeCall (.list .envoyFilter)
  runListed sort hostOrder filterOrder (routes.map fun v => v.obj) (labelledServices virtualServices)
    (labelledFilters filters)

/-! ## 4. Histories -/

/-- A key that the reconciler gives to a virtual service. -/
def IsServiceKey (key : Str × Str) : Prop := ∃ host, key = virtualServiceKey host

/-- A key that the reconciler gives to a filter. -/
def IsFilterKey (key : Str × Str) : Prop :=
  ∃ route : HttpRoute, key = (istioNamespace, getHttpsRedirectEnvoyFilterName route)

/-- A cluster in which the reconciler has not run: nothing has its label, and its keys are free. -/
structure Unreconciled (s : RouteCluster) : Prop where
  services : ∀ vs ∈ s.list .virtualService,
    hasRouteLabel (VirtualService.labels vs.obj) = false ∧ ¬ IsServiceKey vs.key
  filters : ∀ filter ∈ s.list .envoyFilter,
    hasRouteLabel (EnvoyFilter.labels filter.obj) = false ∧ ¬ IsFilterKey filter.key
  versions : s.Fresh .virtualService

/-- **What becomes of a cluster**: its routes change in any way, and the reconciler runs, whatever fails. -/
inductive RouteReachable (sort : Procedure) : RouteCluster → Prop where
  | start {s : RouteCluster} : Unreconciled s → RouteReachable sort s
  | routes {s s' : RouteCluster} : RouteReachable sort s →
      (∀ k, k ≠ .httpRoute → s'.objects k = s.objects k) → s.revision ≤ s'.revision → RouteReachable sort s'
  | run {s : RouteCluster} : RouteReachable sort s → ∀ hostOrder filterOrder (faults : List Fault),
      RouteReachable sort
        (Calls.run Objects.serve .unavailable (HttpRouteReconcilerTask.run sort hostOrder filterOrder) faults s).2

end Kalm
