/-
  File:      Kalm/Route/Authorize.lean
  Subject:   WHO MAY OPERATE A ROUTE: `CanOperateHttpRoute` of api/client/base.go against the
             namespaces the route really sends traffic to (Istio.lean).

  The check splits a host at its dots with the port still on it, and looks at the weighted
  destinations alone. So for a host `svc.ns:port` it asks about the scope `ns:port`, and it never
  asks about the mirror.

  * `canOperateHttpRoute` -- the check; `none` where it panics;
  * `authorizedNamespace_host` -- the scope it asks about, for every accepted host;
  * `routeAuthorized_iff` -- when the check answers what it should.
-/
import Kalm.Route.Istio
import Kalm.Rbac.Client

namespace Kalm

/-! ## 1. The check -/

/-- The scope a destination is authorized for; `none` is the refusal of an empty list of parts. -/
def authorizedNamespace (ns host : Str) : Option Str :=
  match host.splitOn dot with
  | [] => none
  | [_] => some ns
  | _ :: second :: _ => some second

section Check

variable (P : PolicySet) (client : ClientInfo)

/-- The permission an action needs in a scope; other actions need none. -/
def canOperateScope (action scope : Str) : Option Bool :=
  if action = str "view" then canViewNamespace P client scope
  else if action = str "edit" then canEditNamespace P client scope
  else some true

/-- The loop of `CanOperateHttpRoute` over the destinations. -/
def canOperateDestinations (action ns : Str) : List HttpRouteDestination → Option Bool
  | [] => some true
  | dest :: destinations =>
    match authorizedNamespace ns dest.host with
    | none => some false
    | some scope =>
      match canOperateScope P client action scope with
      | some true => canOperateDestinations action ns destinations
      | answer => answer

/-- `CanOperateHttpRoute`: a route without a spec is a nil dereference. -/
def canOperateHttpRoute (action : Str) (route : HttpRouteResource) : Option Bool :=
  match route.spec with
  | none => none
  | some spec => canOperateDestinations P client action route.ns spec.destinations

/-- The client may edit a namespace. -/
def EditsNamespace (ns : Str) : Prop := canEditNamespace P client ns = some true

/-- The client may edit the namespace of every host the Istio route sends traffic to. -/
def CanEditBackends (route : HttpRoute) : Prop :=
  ∀ host ∈ (buildIstioHttpRoute route).backends,
    ∃ ns, serviceNamespace host = some ns ∧ EditsNamespace P client ns

/-- The check says yes exactly when the client may edit every backend. -/
def RouteAuthorized (route : HttpRoute) : Prop :=
  canOperateHttpRoute P client (str "edit") (buildHttpRouteFromResource route) = some true ↔
    CanEditBackends P client route

end Check

/-! ## 2. The scope it asks about -/

/-- A host of two labels and a port, `svc.ns:port`. -/
def TwoLabelsWithPort (host : Str) : Prop := (host.splitOn dot).length = 2 ∧ colon ∈ host

instance (host : Str) : Decidable (TwoLabelsWithPort host) := inferInstanceAs (Decidable (_ ∧ _))

/-- From its colon on, a host is its port. -/
theorem dropWhile_host {name port : Str} (h : colon ∉ name) :
    (name ++ colon :: port).dropWhile (· ≠ colon) = colon :: port := by
  rw [List.dropWhile_append_of_pos]
  · simp
  · intro x hx
    simpa using fun e : x = colon => h (e ▸ hx)

/-- **The scope the check asks about**: the namespace the host stands for, with the port still on
    it when the host has two labels. -/
theorem authorizedNamespace_host {host : Str} (h : isValidDestinationHost host = true) (ns : Str) :
    authorizedNamespace ns host = some (if TwoLabelsWithPort host then
      backendNamespace ns host ++ host.dropWhile (· ≠ colon) else backendNamespace ns host) := by
  rcases host_cases h with ⟨e, hc⟩ | ⟨port, hp, e⟩
  · rw [if_neg fun h : TwoLabelsWithPort host => hc h.2, authorizedNamespace, backendNamespace, e]
    rcases hs : host.splitOn dot with _ | ⟨first, _ | ⟨second, rest⟩⟩
    · exact absurd hs (List.splitOn_ne_nil _ _)
    · rfl
    · rfl
  · have hcolon := colon_not_mem_subdomain (s := stripIfHasPort host) h
    have hmem : colon ∈ host := by
      rw [e]
      simp
    have hw : dot ∉ colon :: port := by
      rw [List.mem_cons, not_or]
      exact ⟨by decide, hp.not_mem.1⟩
    have hport : host.dropWhile (· ≠ colon) = colon :: port :=
      (congrArg (List.dropWhile (· ≠ colon)) e).trans (dropWhile_host hcolon)
    obtain ⟨init, last, e1, e2⟩ := Fields.splitOn_append_last hw (stripIfHasPort host)
    rw [← e] at e2
    rw [authorizedNamespace, backendNamespace, hport, e1, e2]
    rcases init with _ | ⟨first, _ | ⟨second, rest⟩⟩
    · rw [if_neg fun h : TwoLabelsWithPort host => absurd (e2 ▸ h.1) (by simp)]
      rfl
    · rw [if_pos (show TwoLabelsWithPort host from ⟨by rw [e2]; rfl, hmem⟩)]
      rfl
    · rw [if_neg fun h : TwoLabelsWithPort host => absurd (e2 ▸ h.1) (by simp)]
      rfl

/-! ## 3. When it is right -/

section Right

variable {P : PolicySet} {client : ClientInfo}

theorem canOperateDestinations_edit {ns : Str} {destinations : List HttpRouteDestination} :
    canOperateDestinations P client (str "edit") ns destinations = some true ↔
      ∀ dest ∈ destinations,
        ∃ scope, authorizedNamespace ns dest.host = some scope ∧ EditsNamespace P client scope := by
  induction destinations with
  | nil => exact iff_of_true rfl fun dest hd => absurd hd List.not_mem_nil
  | cons dest destinations ih =>
      rw [canOperateDestinations, List.forall_mem_cons]
      cases hs : authorizedNamespace ns dest.host with
      | none =>
          refine iff_of_false (fun h => absurd (Option.some.inj h) Bool.false_ne_true) ?_
          rintro ⟨⟨scope, h, _⟩, _⟩
          cases h
      | some scope =>
          have hedit : canOperateScope P client (str "edit") scope = canEditNamespace P client scope := by
            rw [canOperateScope, if_neg (by decide), if_pos rfl]
          simp only [hedit, Option.some.injEq, exists_eq_left', EditsNamespace]
          rcases hc : canEditNamespace P client scope with _ | _ | _
          · exact iff_of_false (fun h => by cases h) fun h => by cases h.1
          · exact iff_of_false (fun h => by cases h) fun h => by cases h.1
          · exact ih.trans (iff_and_self.mpr fun _ => rfl)

/-- The backends of an accepted route that a client may edit, by the hosts of the spec. -/
theorem canEditBackends_iff (r : AcceptedHttpRoute) :
    CanEditBackends P client r.toHttpRoute ↔
      (∀ dest ∈ r.spec.destinations, EditsNamespace P client (backendNamespace r.ns.val dest.host)) ∧
        ∀ mirror ∈ r.spec.mirror,
          EditsNamespace P client (backendNamespace r.ns.val mirror.destination.host) := by
  have hmap : CanEditBackends P client r.toHttpRoute ↔
      ∀ o ∈ (buildIstioHttpRoute r.toHttpRoute).backends.map serviceNamespace,
        ∃ ns, o = some ns ∧ EditsNamespace P client ns := by
    rw [List.forall_mem_map]
    rfl
  rw [hmap, backends_namespaces, List.forall_mem_append, List.forall_mem_map]
  refine and_congr (forall₂_congr fun dest _ => by simp) ?_
  cases r.spec.mirror <;> simp

/-- The ports do not matter and the mirror is covered: given the destinations whose scope is the
    namespace they stand for, being allowed the scopes `ns:port` is the same as being allowed the
    namespaces of these destinations and of the mirror. -/
def PortsAndMirrorCovered (P : PolicySet) (client : ClientInfo) (r : HttpRoute) : Prop :=
  (∀ dest ∈ r.spec.destinations, ¬ TwoLabelsWithPort dest.host →
      EditsNamespace P client (backendNamespace r.ns.val dest.host)) →
    ((∀ dest ∈ r.spec.destinations, TwoLabelsWithPort dest.host →
        EditsNamespace P client
          (backendNamespace r.ns.val dest.host ++ dest.host.dropWhile (· ≠ colon))) ↔
      (∀ dest ∈ r.spec.destinations, TwoLabelsWithPort dest.host →
        EditsNamespace P client (backendNamespace r.ns.val dest.host)) ∧
      ∀ mirror ∈ r.spec.mirror,
        EditsNamespace P client (backendNamespace r.ns.val mirror.destination.host))

/-- **The check on an accepted route, by the hosts of the spec.** -/
theorem canOperateHttpRoute_iff (r : AcceptedHttpRoute) :
    canOperateHttpRoute P client (str "edit") (buildHttpRouteFromResource r.toHttpRoute) = some true ↔
      (∀ dest ∈ r.spec.destinations, ¬ TwoLabelsWithPort dest.host →
        EditsNamespace P client (backendNamespace r.ns.val dest.host)) ∧
      ∀ dest ∈ r.spec.destinations, TwoLabelsWithPort dest.host →
        EditsNamespace P client
          (backendNamespace r.ns.val dest.host ++ dest.host.dropWhile (· ≠ colon)) := by
  obtain ⟨-, -, hdest, -, -⟩ := HttpRoute.validate_eq_nil.mp r.valid
  have hcheck : canOperateHttpRoute P client (str "edit") (buildHttpRouteFromResource r.toHttpRoute) =
      canOperateDestinations P client (str "edit") r.ns.val r.spec.destinations := rfl
  rw [hcheck, canOperateDestinations_edit, ← forall₂_and]
  refine forall₂_congr fun dest hd => ?_
  rw [authorizedNamespace_host (hdest dest hd)]
  simp only [Option.some.injEq, exists_eq_left']
  by_cases ht : TwoLabelsWithPort dest.host <;> simp [ht]

/-- **Route authorization is right if and only if ports and mirror are covered.** -/
theorem routeAuthorized_iff (r : AcceptedHttpRoute) :
    RouteAuthorized P client r.toHttpRoute ↔ PortsAndMirrorCovered P client r.toHttpRoute := by
  have hsplit : (∀ dest ∈ r.spec.destinations,
      EditsNamespace P client (backendNamespace r.ns.val dest.host)) ↔
      (∀ dest ∈ r.spec.destinations, ¬ TwoLabelsWithPort dest.host →
        EditsNamespace P client (backendNamespace r.ns.val dest.host)) ∧
      ∀ dest ∈ r.spec.destinations, TwoLabelsWithPort dest.host →
        EditsNamespace P client (backendNamespace r.ns.val dest.host) := by
    rw [← forall₂_and]
    refine forall₂_congr fun dest _ => ?_
    by_cases ht : TwoLabelsWithPort dest.host <;> simp [ht]
  rw [RouteAuthorized, canOperateHttpRoute_iff, canEditBackends_iff, hsplit, and_assoc,
    PortsAndMirrorCovered, and_congr_right_iff]

/-! ## 4. Without ports in the rules -/

end Right

/-- A route in the namespace `shop` that mirrors its traffic to the namespace `bank`. -/
def mirrorRoute : AcceptedHttpRoute where
  ns := ⟨str "shop", isDNS1123Label_shop⟩
  name := ⟨str "web", isDNS1123Subdomain_web⟩
  spec :=
    { hosts := [str "shop.example.com"]
      paths := [str "/"]
      methods := [.get]
      schemes := [.https]
      stripPath := false
      conditions := []
      destinations := [⟨str "web", 1⟩]
      httpRedirectToHttps := false
      timeout := none
      retries := none
      mirror := some ⟨100, ⟨str "ledger.bank", 1⟩⟩
      fault := none
      delay := none
      cors := none }
  valid := by decide

/-- The editor of `shop` may store it, and may not edit `bank`. -/
theorem routeAuthorized_fails :
    ¬ ∀ (P : PolicySet) (client : ClientInfo) (r : AcceptedHttpRoute),
      RouteAuthorized P client r.toHttpRoute := by
  intro h
  have hboth := h ⟨[[str "role_shopEditor", str "edit", str "shop", [star]]],
    [[str "user-eve", str "role_shopEditor"]]⟩ ⟨str "eve", some [], [], []⟩ mirrorRoute
  have hyes := hboth.mp (by decide)
  have hmirror := ((canEditBackends_iff mirrorRoute).mp hyes).2 ⟨100, ⟨str "ledger.bank", 1⟩⟩ rfl
  exact absurd hmirror (by unfold EditsNamespace; decide)

end Kalm
