/-
  File:      Kalm/Route/Hosts.lean
  Subject:   EACH HOST HAS ONE VIRTUAL SERVICE behind a run of the route reconciler, and when not.

  * `OneServiceEach` -- for every listed host one labelled virtual service, with the rules of its routes, and
    none for other hosts;
  * `EachHostServed` -- a run returns with that, whatever the orders, and the next one changes nothing;
  * `HostsClear`, `eachHostServed_iff` -- exactly when: the name made of a host loses the difference of a dot
    and a dash, the listing is older than the updates, and a host that is named twice gets its rules twice.
-/
import Kalm.Route.Ready

namespace Kalm

open Objects (State Versioned Returns)
open Sorting (Procedure)
open Keyed (Store)

/-! ## 1. The statement -/

/-- The rules built for the routes of a host. -/
def builtRules (routes : List HttpRoute) (host : Str) : List HTTPRouteRule :=
  (routes.filter fun route => host ∈ route.spec.hosts).flatMap buildIstioHttpRoutes

/-- Every listed host has one labelled virtual service, with the rules built for its routes, and no other
    host has one. -/
structure OneServiceEach (routes : List HttpRoute) (t : RouteCluster) : Prop where
  each : ∀ host ∈ listedHosts routes, ∃ vs ∈ servicesOf t, VirtualService.hosts vs.obj = [host] ∧
    (VirtualService.http vs.obj).Perm (builtRules routes host) ∧
      ∀ ws ∈ servicesOf t, VirtualService.hosts ws.obj = [host] → ws = vs
  only : ∀ vs ∈ servicesOf t, ∃ host ∈ listedHosts routes, VirtualService.hosts vs.obj = [host]

/-- A run returns with one virtual service for each host, and running again changes nothing. -/
def EachHostServed (sort : Procedure) (s : RouteCluster) : Prop :=
  ∀ hostOrder filterOrder,
    Returns (HttpRouteReconcilerTask.run sort hostOrder filterOrder) s fun _ t =>
      OneServiceEach (routesOf s) t ∧ ∀ hostOrder' filterOrder',
        Returns (HttpRouteReconcilerTask.run sort hostOrder' filterOrder') t fun _ t' => t' = t

/-- No virtual service is listed under the name of a listed host with another host. -/
def NoneRenamed (s : RouteCluster) : Prop :=
  ∀ host ∈ listedHosts (routesOf s), ∀ vs ∈ servicesOf s, vs.key = virtualServiceKey host →
    VirtualService.hosts vs.obj = [host]

/-- When each host is served: names are valid and different, no name is taken over from a host that is not
    listed any more, and no route with a path names a host twice. -/
structure HostsClear (s : RouteCluster) : Prop where
  ready : Ready (routesOf s)
  noneRenamed : NoneRenamed s
  namedOnce : ∀ route ∈ routesOf s, route.spec.paths ≠ [] → route.spec.hosts.Nodup

/-! ## 2. The rules of a host -/

section Rules

variable {routes : List HttpRoute} {host : Str}

theorem mem_listedHosts : host ∈ listedHosts routes ↔ ∃ route ∈ routes, host ∈ route.spec.hosts := by
  rw [listedHosts, List.mem_dedup, List.mem_flatMap]

theorem length_flatMap_le {α β : Type} {f g : α → List β} {l : List α}
    (hle : ∀ a ∈ l, (f a).length ≤ (g a).length) : (l.flatMap f).length ≤ (l.flatMap g).length := by
  induction l with
  | nil => exact Nat.le_refl _
  | cons b l ih =>
      rw [List.forall_mem_cons] at hle
      rw [List.flatMap_cons, List.flatMap_cons, List.length_append, List.length_append]
      exact Nat.add_le_add hle.1 (ih hle.2)

/-- Lists that are shorter piece by piece are as long together only if they are so piece by piece. -/
theorem length_eq_of_flatMap {α β : Type} {f g : α → List β} {l : List α}
    (hle : ∀ a ∈ l, (f a).length ≤ (g a).length)
    (heq : (l.flatMap f).length = (l.flatMap g).length) : ∀ a ∈ l, (f a).length = (g a).length := by
  induction l with
  | nil => exact fun a ha => absurd ha List.not_mem_nil
  | cons b l ih =>
      rw [List.forall_mem_cons] at hle ⊢
      rw [List.flatMap_cons, List.flatMap_cons, List.length_append, List.length_append] at heq
      have hrest := length_flatMap_le hle.2
      exact ⟨by omega, ih hle.2 (by omega)⟩

/-- The rules a route gives a host: once for every time it names the host. -/
def namedRules (route : HttpRoute) (host : Str) : List HTTPRouteRule :=
  (route.spec.hosts.filter fun h => h = host).flatMap fun _ => buildIstioHttpRoutes route

theorem builtRules_eq (routes : List HttpRoute) (host : Str) :
    builtRules routes host =
      routes.flatMap fun route => if host ∈ route.spec.hosts then buildIstioHttpRoutes route else [] := by
  induction routes with
  | nil => rfl
  | cons route routes ih =>
      rw [builtRules] at ih
      rw [builtRules, List.flatMap_cons, List.filter_cons, ← ih]
      by_cases h : host ∈ route.spec.hosts
      · rw [if_pos (decide_eq_true h), if_pos h, List.flatMap_cons]
      · rw [if_neg h, if_neg fun e => h (of_decide_eq_true e), List.nil_append]

theorem length_namedRules (route : HttpRoute) (host : Str) :
    (namedRules route host).length =
      route.spec.hosts.count host * (buildIstioHttpRoutes route).length := by
  have hcount : route.spec.hosts.count host = (route.spec.hosts.filter fun h => h = host).length := by
    rw [List.count, List.countP_eq_length_filter]
    exact congrArg List.length (List.filter_congr fun h _ => beq_eq_decide h host)
  rw [hcount, namedRules, List.length_flatMap, List.map_const', List.sum_replicate]
  rfl

theorem buildIstioHttpRoutes_eq_nil {route : HttpRoute} :
    buildIstioHttpRoutes route = [] ↔ route.spec.paths = [] := by
  unfold buildIstioHttpRoutes buildMatches
  rw [List.map_eq_nil_iff, List.flatMap_eq_nil_iff]
  exact ⟨fun h => List.eq_nil_iff_forall_not_mem.mpr fun path hpath => List.cons_ne_nil _ _ (h path hpath),
    fun h path hpath => absurd (h ▸ hpath) List.not_mem_nil⟩

theorem namedRules_of_once {route : HttpRoute} (h : route.spec.paths ≠ [] → route.spec.hosts.Nodup)
    (host : Str) :
    namedRules route host = if host ∈ route.spec.hosts then buildIstioHttpRoutes route else [] := by
  by_cases hpaths : route.spec.paths = []
  · have hnil := buildIstioHttpRoutes_eq_nil.mpr hpaths
    rw [namedRules, hnil, ite_self, List.flatMap_eq_nil_iff]
    exact fun _ _ => rfl
  · have hfilter : (route.spec.hosts.filter fun h => h = host) =
        if host ∈ route.spec.hosts then [host] else [] := by
      have hreplicate : (route.spec.hosts.filter fun h => h = host) =
          List.replicate (route.spec.hosts.count host) host := by
        rw [← List.filter_beq]
        exact List.filter_congr fun h _ => (beq_eq_decide h host).symm
      rw [hreplicate]
      split
      · rw [List.count_eq_one_of_mem (h hpaths) ‹_›]
        rfl
      · rw [List.count_eq_zero_of_not_mem ‹_›]
        rfl
    rw [namedRules, hfilter]
    split
    · rw [List.flatMap_cons, List.flatMap_nil, List.append_nil]
    · rfl

/-- **A host's rules are those of its routes exactly when no route with a path names a host twice.** -/
theorem perm_builtRules_iff :
    (∀ host ∈ listedHosts routes, (hostRules routes host).Perm (builtRules routes host)) ↔
      ∀ route ∈ routes, route.spec.paths ≠ [] → route.spec.hosts.Nodup := by
  constructor
  · intro h route hroute hpaths
    refine List.nodup_iff_count_le_one.mpr fun host => ?_
    by_cases hmem : host ∈ route.spec.hosts
    · have hlength := (h host (mem_listedHosts.mpr ⟨route, hroute, hmem⟩)).length_eq
      rw [builtRules_eq] at hlength
      have hone := length_eq_of_flatMap (fun r _ => ?_) hlength.symm route hroute
      · have hpos : 0 < (buildIstioHttpRoutes route).length :=
          List.length_pos_iff.mpr fun e => hpaths (buildIstioHttpRoutes_eq_nil.mp e)
        rw [if_pos hmem] at hone
        have hmul := hone.trans (length_namedRules route host)
        exact (Nat.eq_of_mul_eq_mul_right hpos ((Nat.one_mul _).trans hmul)).ge
      · show _ ≤ (namedRules r host).length
        rw [length_namedRules]
        split
        · exact Nat.le_mul_of_pos_left _ (List.count_pos_iff.mpr ‹_›)
        · exact Nat.zero_le _
    · exact (List.count_eq_zero_of_not_mem hmem).trans_le (Nat.zero_le _)
  · intro h host _
    rw [builtRules_eq]
    have hsame : hostRules routes host =
        routes.flatMap fun route => if host ∈ route.spec.hosts then buildIstioHttpRoutes route else [] :=
      List.flatMap_congr fun route hroute => namedRules_of_once (h route hroute) host
    rw [hsame]

end Rules

/-! ## 3. When each host is served -/

section Served

variable {sort : Procedure} {s t : RouteCluster}

/-- Nothing is taken over exactly when no virtual service of a listed host is deleted. -/
theorem noneRenamed_iff (hkept : Kept s) (hready : Ready (routesOf s)) :
    NoneRenamed s ↔ ∀ host ∈ listedHosts (routesOf s), virtualServiceKey host ∉ staleOf s := by
  constructor
  · intro h host hhost hstale
    obtain ⟨host', hhost', _, vs, hget, hhosts⟩ := (mem_staleKeys hkept).mp hstale
    obtain ⟨hmem, hkey⟩ := State.get_eq_some.mp hget
    obtain ⟨_, _, _, hlabel, _⟩ := hkept.all .virtualService vs hmem (Or.inr ⟨host, hkey⟩)
    rw [h host hhost vs (List.mem_filter.mpr ⟨hmem, hlabel⟩) hkey] at hhosts
    have hsame : host = host' := List.head_eq_of_cons_eq hhosts
    exact hhost' (hsame ▸ hhost)
  · intro h host hhost vs hvs hkey
    obtain ⟨host', hhosts, hkey'⟩ := hosts_of_labelled hkept hvs
    by_cases hlisted : host' ∈ listedHosts (routesOf s)
    · have hname : virtualServiceName host = virtualServiceName host' :=
        congrArg Prod.snd (hkey.symm.trans hkey')
      rw [hready.servicesDiffer host hhost host' hlisted hname]
      exact hhosts
    · refine absurd ((mem_staleKeys hkept).mpr ⟨host', hlisted, hkey.symm.trans hkey', vs, ?_, hhosts⟩)
        (h host hhost)
      rw [← hkey]
      exact State.get_self (List.mem_filter.mp hvs).1

/-- The rules that are written for a host. -/
theorem http_perm {host : Str} :
    (savedService sort (servicesOf s) (routesOf s) host).http.Perm (hostRules (routesOf s) host) := by
  obtain ⟨vs, hvs⟩ := savedService_fields sort (servicesOf s) (routesOf s) host
  rw [hvs]
  exact sort.perm _ _

/-- **Behind a run in a clear cluster each host has its virtual service.** -/
theorem Ran.oneServiceEach (hran : Ran sort s t) (hkept : Kept s) (hkept' : Kept t) (h : HostsClear s) :
    OneServiceEach (routesOf s) t where
  each host hhost := by
    have hstale := (noneRenamed_iff hkept h.ready).mp h.noneRenamed
    obtain ⟨v, hv, hobj⟩ := hran.saved host hhost (hstale host hhost)
    obtain ⟨w, hw⟩ := savedService_fields sort (servicesOf s) (routesOf s) host
    obtain ⟨hmem, _⟩ := State.get_eq_some.mp hv
    have hlabel : hasRouteLabel (VirtualService.labels v.obj) = true := by
      rw [hobj, hw]
      exact hasRouteLabel_save w host _
    refine ⟨v, List.mem_filter.mpr ⟨hmem, hlabel⟩, ?_, ?_, fun ws hws hhosts => ?_⟩
    · rw [hobj, hw]
      rfl
    · rw [hobj]
      exact http_perm.trans (perm_builtRules_iff.mpr h.namedOnce host hhost)
    · obtain ⟨host', hhosts', hkey⟩ := hosts_of_labelled hkept' hws
      have hsame : host = host' := List.head_eq_of_cons_eq (hhosts.symm.trans hhosts')
      have hws' := State.get_self (List.mem_filter.mp hws).1
      rw [hkey, ← hsame, hv, Option.some_inj] at hws'
      exact hws'.symm
  only vs hvs := by
    obtain ⟨host, hhosts, hkey⟩ := hosts_of_labelled hkept' hvs
    refine ⟨host, ?_, hhosts⟩
    by_contra hhost
    have hnone := hran.noneStale hkept hkept' ((noneRenamed_iff hkept h.ready).mp h.noneRenamed)
    have hstale : vs.key ∈ staleOf t := by
      refine (mem_staleKeys hkept').mpr ⟨host, ?_, hkey, vs, State.get_self (List.mem_filter.mp hvs).1, hhosts⟩
      rwa [hran.routes]
    rw [hnone] at hstale
    exact absurd hstale List.not_mem_nil

theorem HostsClear.served (hkept : Kept s) (h : HostsClear s) : EachHostServed sort s := by
  intro hostOrder filterOrder
  refine ((returns_run hkept h.ready).keeps (keeps_run sort hostOrder filterOrder) hkept).mono
    fun _ t ht => ⟨ht.1.oneServiceEach hkept ht.2 h, fun hostOrder' filterOrder' => ?_⟩
  have hsteady := ht.1.steady hkept ht.2 h.ready ((noneRenamed_iff hkept h.ready).mp h.noneRenamed)
  exact (quiet_run ht.2 hsteady).returns

/-- **Each host is served only in a clear cluster.** -/
theorem EachHostServed.clear (hkept : Kept s) (h : EachHostServed sort s) : HostsClear s := by
  have hready : Ready (routesOf s) :=
    ready_of_returns hkept fun hostOrder filterOrder => (h hostOrder filterOrder).mono fun _ _ _ => trivial
  have hruns := ((h MapOrder.same MapOrder.same).and (returns_run hkept hready)).keeps
    (keeps_run sort MapOrder.same MapOrder.same) hkept
  obtain ⟨_, t, _, ⟨⟨hone, _⟩, hran⟩, hkept'⟩ := hruns
  have hserved : ∀ host ∈ listedHosts (routesOf s), ∃ vs,
      t.get .virtualService (virtualServiceKey host) = some vs ∧
        (VirtualService.http vs.obj).Perm (builtRules (routesOf s) host) := by
    intro host hhost
    obtain ⟨vs, hvs, hhosts, hperm, _⟩ := hone.each host hhost
    obtain ⟨host', hhosts', hkey⟩ := hosts_of_labelled hkept' hvs
    have hsame : host = host' := List.head_eq_of_cons_eq (hhosts.symm.trans hhosts')
    refine ⟨vs, ?_, hperm⟩
    rw [hsame, ← hkey]
    exact State.get_self (List.mem_filter.mp hvs).1
  have hstale : ∀ host ∈ listedHosts (routesOf s), virtualServiceKey host ∉ staleOf s := by
    intro host hhost hstale
    obtain ⟨vs, hvs, _⟩ := hserved host hhost
    rw [hran.deleted _ hstale] at hvs
    cases hvs
  refine ⟨hready, (noneRenamed_iff hkept hready).mpr hstale, perm_builtRules_iff.mp fun host hhost => ?_⟩
  obtain ⟨vs, hvs, hperm⟩ := hserved host hhost
  obtain ⟨v, hv, hobj⟩ := hran.saved host hhost (hstale host hhost)
  rw [hvs, Option.some_inj] at hv
  rw [hv, hobj] at hperm
  exact http_perm.symm.trans hperm

end Served

/-- **Each host is served exactly in a clear cluster**, after any history and whatever the routes are. -/
theorem eachHostServed_iff {sort : Procedure} {s : RouteCluster} (h : RouteReachable sort s) :
    EachHostServed sort s ↔ HostsClear s :=
  ⟨EachHostServed.clear (kept_of_reachable h), HostsClear.served (kept_of_reachable h)⟩

/-! ## 4. Two hosts of one name -/

/-- A cluster with routes, in which the reconciler has not run. -/
def clusterWith (routes : List HttpRoute) (h : (routes.map (RouteKind.key .httpRoute)).Nodup) :
    RouteCluster where
  objects
    | .httpRoute => ⟨routes.map fun route => ⟨route, 1⟩, by rw [List.map_map]; exact h⟩
    | .virtualService => Store.empty
    | .envoyFilter => Store.empty
  revision := 1

theorem routesOf_clusterWith {routes : List HttpRoute} {h : (routes.map (RouteKind.key .httpRoute)).Nodup} :
    routesOf (clusterWith routes h) = routes := by
  show (routes.map fun route => _).map _ = routes
  rw [List.map_map]
  exact List.map_id routes

theorem reachable_clusterWith (sort : Procedure) (routes : List HttpRoute)
    (h : (routes.map (RouteKind.key .httpRoute)).Nodup) : RouteReachable sort (clusterWith routes h) :=
  .start ⟨fun _ hv => absurd hv List.not_mem_nil, fun _ hv => absurd hv List.not_mem_nil,
    fun _ hv => absurd hv List.not_mem_nil⟩

/-- A route with hosts. -/
def hostsRoute (hosts : List Str) : HttpRoute where
  ns := ⟨str "shop", isDNS1123Label_shop⟩
  name := ⟨str "web", isDNS1123Subdomain_web⟩
  spec := plainSpec hosts [str "/"] [] false false

theorem nodup_hostsRoute (hosts : List Str) :
    ([hostsRoute hosts].map (RouteKind.key .httpRoute)).Nodup := List.nodup_singleton _

/-- A host is served. -/
theorem eachHostServed_shop :
    EachHostServed Sorting.insertion (clusterWith [hostsRoute [str "shop.io"]] (nodup_hostsRoute _)) := by
  refine (eachHostServed_iff (reachable_clusterWith _ _ _)).mpr ⟨?_, fun _ _ vs hvs _ => ?_, ?_⟩
  · rw [routesOf_clusterWith]
    exact ⟨by decide, by decide, by decide, by decide⟩
  · exact absurd hvs List.not_mem_nil
  · rw [routesOf_clusterWith]
    decide

/-- **The hosts `shop.io` and `shop-io` have one name.** -/
theorem eachHostServed_fails :
    ¬ ∀ (sort : Procedure) (s : RouteCluster), RouteReachable sort s →
      (∀ route ∈ routesOf s, route.validate = []) → EachHostServed sort s := by
  intro h
  have hreach := reachable_clusterWith Sorting.insertion [hostsRoute [str "shop.io", str "shop-io"]]
    (nodup_hostsRoute _)
  have hserved := h _ _ hreach (by
    rw [routesOf_clusterWith]
    exact List.forall_mem_singleton.mpr (plainSpec_valid (by decide) (by decide)))
  have hclear := hserved.clear (kept_of_reachable hreach)
  have hready := hclear.ready
  rw [routesOf_clusterWith] at hready
  exact absurd (hready.servicesDiffer (str "shop.io") (by decide) (str "shop-io") (by decide) (by decide))
    (by decide)

end Kalm
