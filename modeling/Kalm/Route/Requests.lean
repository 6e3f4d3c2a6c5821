/-
  File:      Kalm/Route/Requests.lean
  Subject:   ROUTE REQUESTS: handleCreateRoute, handleUpdateRoute, handleDeleteRoute (api/handler/
             routes.go) over the stored routes (api/resources/route.go).

  Create and update are authorized for the BODY, delete for the stored route. What is written is
  picked by namespace and name only.

  * `serve` -- one request; the API server's part (schema, webhooks, whether it answers at all) is
    any predicate that comes with the request;
  * `serve_cases` -- what a request can do to the stored routes;
  * `entitled_iff` -- along every run, whoever changes a stored route was entitled to it if and only
    if whoever overwrites one was.
-/
import Kalm.Lib.Runs
import Kalm.Route.Authorize

namespace Kalm

open Runs (Always)

/-! ## 1. The stored routes -/

/-- Namespace and name of an object. -/
abbrev ObjectKey := DnsLabel × DnsSubdomain

/-- The stored routes. -/
abbrev HttpRoutes := ObjectKey → Option HttpRouteSpec

/-- The stored object. -/
def routeAt (key : ObjectKey) (spec : HttpRouteSpec) : HttpRoute := ⟨key.1, key.2, spec⟩

/-- The key of an object with this namespace and name, when there can be one. -/
def objectKey (ns name : Str) : Option ObjectKey :=
  if h : isDNS1123Label ns = true ∧ isDNS1123Subdomain name = true then
    some (⟨ns, h.1⟩, ⟨name, h.2⟩)
  else none

theorem objectKey_eq_some {ns name : Str} {key : ObjectKey} :
    objectKey ns name = some key ↔ key.1.val = ns ∧ key.2.val = name := by
  unfold objectKey
  constructor
  · intro h
    split at h
    · cases h
      exact ⟨rfl, rfl⟩
    · cases h
  · rintro ⟨rfl, rfl⟩
    rw [dif_pos ⟨key.1.ok, key.2.ok⟩]

/-- What the API server answers a write with: it may refuse it, for whatever reason. -/
abbrev Answers := HttpRoute → Bool

/-- A write of a route that has to be `present` or absent. -/
def storeHttpRoute (present : Bool) (answers : Answers) (routes : HttpRoutes)
    (route : HttpRouteResource) : Option HttpRoutes :=
  match objectKey route.ns route.name, route.spec with
  | some key, some spec =>
    if (routes key).isSome = present ∧ answers (routeAt key spec) = true then
      some (Function.update routes key (some spec))
    else none
  | _, _ => none

/-- `CreateHttpRoute`: the API server refuses a route that exists. -/
def createHttpRoute : Answers → HttpRoutes → HttpRouteResource → Option HttpRoutes :=
  storeHttpRoute false

/-- `UpdateHttpRoute`: gets the route, sets its spec and updates it. -/
def updateHttpRoute : Answers → HttpRoutes → HttpRouteResource → Option HttpRoutes :=
  storeHttpRoute true

/-- `GetHttpRoute`. -/
def getHttpRoute (routes : HttpRoutes) (ns name : Str) : Option HttpRoute :=
  (objectKey ns name).bind fun key => (routes key).map (routeAt key)

/-- `DeleteHttpRoute`. -/
def deleteHttpRoute (answers : Answers) (routes : HttpRoutes) (route : HttpRoute) :
    Option HttpRoutes :=
  if answers route then some (Function.update routes (route.ns, route.name) none) else none

/-! ## 2. The handlers -/

/-- A request: the body bound to the route, or the parameters of the path. -/
inductive RouteOp where
  | create (route : HttpRouteResource)
  | update (route : HttpRouteResource)
  | delete (ns name : Str)

/-- A request by a client, under the policies and with the answers of its moment. -/
structure RouteRequest where
  policies : PolicySet
  client : ClientInfo
  answers : Answers
  op : RouteOp

/-- What a handler answers. -/
inductive RouteReply where
  | panicked
  | insufficientPermissions
  | failed
  | ok
  deriving DecidableEq

/-- The check in front of a write, and the write. -/
def authorized (allowed : Option Bool) (routes : HttpRoutes) (write : Option HttpRoutes) :
    HttpRoutes × RouteReply :=
  match allowed with
  | none => (routes, .panicked)
  | some false => (routes, .insufficientPermissions)
  | some true =>
    match write with
    | none => (routes, .failed)
    | some routes' => (routes', .ok)

/-- The permission a request is checked for. -/
def RouteRequest.canEdit (req : RouteRequest) (route : HttpRouteResource) : Option Bool :=
  canOperateHttpRoute req.policies req.client (str "edit") route

/-- `handleCreateRoute`, `handleUpdateRoute`, `handleDeleteRoute`. A route that is not found is
    deleted without an error. -/
def serveRoute (routes : HttpRoutes) (req : RouteRequest) : HttpRoutes × RouteReply :=
  match req.op with
  | .create route => authorized (req.canEdit route) routes (createHttpRoute req.answers routes route)
  | .update route => authorized (req.canEdit route) routes (updateHttpRoute req.answers routes route)
  | .delete ns name =>
    match getHttpRoute routes ns name with
    | none => (routes, .ok)
    | some route =>
      authorized (req.canEdit (buildHttpRouteFromResource route)) routes
        (deleteHttpRoute req.answers routes route)

/-- The stored routes after a request. -/
def serve (routes : HttpRoutes) (req : RouteRequest) : HttpRoutes := (serveRoute routes req).1

/-! ## 3. What a request can do -/

/-- The client has the permission on a stored route. -/
def Operates (req : RouteRequest) (key : ObjectKey) (spec : HttpRouteSpec) : Prop :=
  req.canEdit (buildHttpRouteFromResource (routeAt key spec)) = some true

/-- Whatever a request changes, its client has the permission on the route before and after. -/
def Entitled (routes : HttpRoutes) (req : RouteRequest) : Prop :=
  ∀ key, serve routes req key ≠ routes key →
    (∀ spec, routes key = some spec → Operates req key spec) ∧
      ∀ spec, serve routes req key = some spec → Operates req key spec

/-- The update that overwrites `old` with `spec` goes through. -/
structure Overwrites (routes : HttpRoutes) (req : RouteRequest) (key : ObjectKey)
    (old spec : HttpRouteSpec) : Prop where
  stored : routes key = some old
  op : req.op = .update (buildHttpRouteFromResource (routeAt key spec))
  permitted : Operates req key spec
  answered : req.answers (routeAt key spec) = true
  differs : spec ≠ old

/-- The client of an update that overwrites a stored route has the permission on that route. -/
def OwnsOverwritten (routes : HttpRoutes) (req : RouteRequest) : Prop :=
  ∀ key old spec, Overwrites routes req key old spec → Operates req key old

theorem authorized_fst (allowed : Option Bool) (routes : HttpRoutes) (write : Option HttpRoutes) :
    (authorized allowed routes write).1 = routes ∨
      allowed = some true ∧ write = some (authorized allowed routes write).1 := by
  unfold authorized
  split
  · exact Or.inl rfl
  · exact Or.inl rfl
  · split
    · exact Or.inl rfl
    · exact Or.inr ⟨rfl, rfl⟩

theorem storeHttpRoute_eq_some {present : Bool} {answers : Answers} {routes routes' : HttpRoutes}
    {route : HttpRouteResource} :
    storeHttpRoute present answers routes route = some routes' ↔
      ∃ key spec, route = buildHttpRouteFromResource (routeAt key spec) ∧
        (routes key).isSome = present ∧ answers (routeAt key spec) = true ∧
        routes' = Function.update routes key (some spec) := by
  unfold storeHttpRoute
  constructor
  · intro h
    split at h
    · rename_i key spec hk hs
      split at h
      · rename_i hc
        obtain ⟨hns, hname⟩ := objectKey_eq_some.mp hk
        refine ⟨key, spec, ?_, hc.1, hc.2, (Option.some.inj h).symm⟩
        obtain ⟨_, _, _⟩ := route
        simp only at hs hns hname
        rw [buildHttpRouteFromResource, routeAt, hs, hns, hname]
      · cases h
    · cases h
  · rintro ⟨key, spec, rfl, hp, ha, rfl⟩
    have hk : objectKey key.1.val key.2.val = some key := objectKey_eq_some.mpr ⟨rfl, rfl⟩
    simp only [buildHttpRouteFromResource, routeAt, hk]
    exact if_pos ⟨hp, ha⟩

theorem deleteHttpRoute_eq_some {answers : Answers} {routes routes' : HttpRoutes}
    {route : HttpRoute} :
    deleteHttpRoute answers routes route = some routes' ↔
      answers route = true ∧ routes' = Function.update routes (route.ns, route.name) none := by
  unfold deleteHttpRoute
  rw [Option.ite_none_right_eq_some, Option.some.injEq, eq_comm (a := routes')]

/-- **What a request can do to the stored routes.** -/
theorem serve_cases (routes : HttpRoutes) (req : RouteRequest) :
    serve routes req = routes ∨
    (∃ key spec, Operates req key spec ∧ routes key = none ∧
      serve routes req = Function.update routes key (some spec)) ∨
    (∃ key old spec, Operates req key spec ∧ routes key = some old ∧
      req.op = .update (buildHttpRouteFromResource (routeAt key spec)) ∧
      req.answers (routeAt key spec) = true ∧
      serve routes req = Function.update routes key (some spec)) ∨
    ∃ key old, Operates req key old ∧ routes key = some old ∧
      serve routes req = Function.update routes key none := by
  unfold serve serveRoute
  cases hop : req.op with
  | create route =>
      rcases authorized_fst (req.canEdit route) routes
        (createHttpRoute req.answers routes route) with h | ⟨hcan, hw⟩
      · exact Or.inl h
      · obtain ⟨key, spec, rfl, hp, _, hs⟩ := storeHttpRoute_eq_some.mp hw
        exact Or.inr (Or.inl ⟨key, spec, hcan, Option.isNone_iff_eq_none.mp (by simpa using hp), hs⟩)
  | update route =>
      rcases authorized_fst (req.canEdit route) routes
        (updateHttpRoute req.answers routes route) with h | ⟨hcan, hw⟩
      · exact Or.inl h
      · obtain ⟨key, spec, rfl, hp, ha, hs⟩ := storeHttpRoute_eq_some.mp hw
        obtain ⟨old, ho⟩ := Option.isSome_iff_exists.mp hp
        exact Or.inr (Or.inr (Or.inl ⟨key, old, spec, hcan, ho, rfl, ha, hs⟩))
  | delete ns name =>
      simp only
      cases hg : getHttpRoute routes ns name with
      | none => exact Or.inl rfl
      | some route =>
          obtain ⟨key, _, hr⟩ := Option.bind_eq_some_iff.mp hg
          obtain ⟨old, ho, rfl⟩ := Option.map_eq_some_iff.mp hr
          simp only
          rcases authorized_fst
            (req.canEdit (buildHttpRouteFromResource (routeAt key old))) routes
            (deleteHttpRoute req.answers routes (routeAt key old)) with h | ⟨hcan, hw⟩
          · exact Or.inl h
          · obtain ⟨_, hs⟩ := deleteHttpRoute_eq_some.mp hw
            exact Or.inr (Or.inr (Or.inr ⟨key, old, hcan, ho, hs⟩))

/-- An update that overwrites a route stores the new spec. -/
theorem Overwrites.serve_eq {routes : HttpRoutes} {req : RouteRequest} {key : ObjectKey}
    {old spec : HttpRouteSpec} (h : Overwrites routes req key old spec) :
    serve routes req = Function.update routes key (some spec) := by
  have hw : updateHttpRoute req.answers routes (buildHttpRouteFromResource (routeAt key spec)) =
      some (Function.update routes key (some spec)) :=
    storeHttpRoute_eq_some.mpr ⟨key, spec, rfl, by rw [h.stored]; rfl, h.answered, rfl⟩
  unfold serve serveRoute
  rw [h.op]
  have hcan : req.canEdit (buildHttpRouteFromResource (routeAt key spec)) = some true := h.permitted
  simp only [hcan, hw, authorized]

/-- **One request.** -/
theorem entitled_step_iff (routes : HttpRoutes) (req : RouteRequest) :
    Entitled routes req ↔ OwnsOverwritten routes req := by
  constructor
  · intro h key old spec ho
    have hserve : serve routes req key = some spec := by
      rw [ho.serve_eq, Function.update_self]
    refine (h key ?_).1 old ho.stored
    rw [hserve, ho.stored]
    exact fun e => ho.differs (Option.some.inj e)
  · intro h key hne
    rcases serve_cases routes req with hs | ⟨k, spec, hcan, ho, hs⟩ |
      ⟨k, old, spec, hcan, ho, hop, ha, hs⟩ | ⟨k, old, hcan, ho, hs⟩
    · exact absurd (congrFun hs key) hne
    all_goals
      have hk : key = k := by
        by_contra hk
        exact hne (by rw [hs, Function.update_of_ne hk])
      subst hk
      rw [hs, Function.update_self, ho] at hne
      rw [hs, Function.update_self, ho]
    · -- created
      refine ⟨fun _ e => absurd e.symm (Option.some_ne_none _), fun spec' e => ?_⟩
      rw [← Option.some.inj e]
      exact hcan
    · -- overwritten
      have hdiff : spec ≠ old := fun e => hne (by rw [e])
      refine ⟨fun spec' e => ?_, fun spec' e => ?_⟩
      · rw [← Option.some.inj e]
        exact h key old spec ⟨ho, hop, hcan, ha, hdiff⟩
      · rw [← Option.some.inj e]
        exact hcan
    · -- deleted
      refine ⟨fun spec' e => ?_, fun _ e => absurd e.symm (Option.some_ne_none _)⟩
      rw [← Option.some.inj e]
      exact hcan

/-- **Along every run, each change of a stored route is by a client entitled to the route before and
    after it, if and only if each update that overwrites a route is by a client entitled to that
    route.** -/
theorem entitled_iff (routes : HttpRoutes) (requests : List RouteRequest) :
    Always serve Entitled routes requests ↔ Always serve OwnsOverwritten routes requests :=
  Runs.always_congr entitled_step_iff routes requests

/-- The route of the namespace `bank` that sends its traffic to `bank`. -/
def bankSpec : HttpRouteSpec :=
  { mirrorRoute.spec with destinations := [⟨str "ledger", 1⟩], mirror := none }

/-- The same route with its traffic sent to `shop`. -/
def hijackSpec : HttpRouteSpec := { bankSpec with destinations := [⟨str "web.shop", 1⟩] }

/-- The route `bank/web`. -/
def bankKey : ObjectKey := (⟨str "bank", isDNS1123Label_bank⟩, ⟨str "web", isDNS1123Subdomain_web⟩)

/-- The editor of `shop` sends the traffic of a route of `bank` to `shop`. -/
def hijack : RouteRequest where
  policies := ⟨[[str "role_shopEditor", str "edit", str "shop", [star]]],
    [[str "user-eve", str "role_shopEditor"]]⟩
  client := ⟨str "eve", some [], [], []⟩
  answers route := route.validate = []
  op := .update (buildHttpRouteFromResource (routeAt bankKey hijackSpec))

theorem entitled_fails :
    ¬ ∀ (routes : HttpRoutes) (requests : List RouteRequest), Always serve Entitled routes requests := by
  intro h
  have hstep := (h (Function.update (fun _ => none) bankKey (some bankSpec)) [hijack]).1
  have hover : Overwrites (Function.update (fun _ => none) bankKey (some bankSpec)) hijack bankKey
      bankSpec hijackSpec :=
    ⟨Function.update_self .., rfl, by unfold Operates; decide +kernel, by decide +kernel, by decide⟩
  have hcan := (entitled_step_iff _ _).mp hstep bankKey bankSpec hijackSpec hover
  exact absurd hcan (by unfold Operates; decide +kernel)

end Kalm
