/-
  File:      Kalm/Route/Redirects.lean
  Subject:   REDIRECTS TO HTTPS FOLLOW THE ROUTES behind a run of the route reconciler, and when not.

  * `Redirected` -- a labelled filter redirects the Istio route of a route on port 80;
  * `RedirectsFollow` -- a run returns with the redirecting routes redirected and no others, and the next one
    neither creates nor deletes;
  * `RedirectsClear`, `redirectsFollow_iff` -- exactly when: filters and Istio routes are named by the name of
    the route only, without its namespace.
-/
import Kalm.Route.Hosts

namespace Kalm

open Objects (State Versioned Returns Quiet)
open Sorting (Procedure)

/-! ## 1. The statement -/

/-- Some filter with the label redirects the requests of the route on port 80. -/
def Redirected (t : RouteCluster) (route : HttpRoute) : Prop :=
  ∃ f ∈ filtersOf t, EnvoyFilter.redirects f.obj (getIstioHttpRouteName route) = true

/-- A run returns with exactly the routes redirected that ask for it, and the next run returns without a
    create or a delete. -/
def RedirectsFollow (sort : Procedure) (s : RouteCluster) : Prop :=
  ∀ hostOrder filterOrder,
    Returns (HttpRouteReconcilerTask.run sort hostOrder filterOrder) s fun _ t =>
      (∀ route ∈ routesOf s, Redirected t route ↔ route.spec.httpRedirectToHttps = true) ∧
        ∀ hostOrder' filterOrder',
          Quiet (HttpRouteReconcilerTask.run sort hostOrder' filterOrder') t fun _ _ => True

/-- When redirects follow the routes: names are valid and different, no virtual service is taken over from a
    host that is not listed any more, and a route with the name of a redirecting one redirects too. -/
structure RedirectsClear (s : RouteCluster) : Prop where
  ready : Ready (routesOf s)
  noneRenamed : NoneRenamed s
  agree : ∀ a ∈ routesOf s, ∀ b ∈ routesOf s, a.name = b.name → a.spec.httpRedirectToHttps = true →
    b.spec.httpRedirectToHttps = true

/-! ## 2. When redirects follow the routes -/

section Follow

variable {sort : Procedure} {s t : RouteCluster}

theorem name_val_eq_iff {a b : DnsSubdomain} : a.val = b.val ↔ a = b := by
  refine ⟨fun h => ?_, congrArg _⟩
  cases a
  cases b
  simpa using h

/-- **Behind a run a route is redirected if one of its name asks for it.** -/
theorem Ran.redirected_iff (hran : Ran sort s t) (hkept' : Kept t) (route : HttpRoute) :
    Redirected t route ↔
      ∃ r ∈ routesOf s, r.name = route.name ∧ r.spec.httpRedirectToHttps = true := by
  constructor
  · rintro ⟨f, hf, hredirects⟩
    obtain ⟨r, hr, hred, hobj⟩ := hran.filter_of_labelled hkept' hf
    rw [hobj, redirects_iff] at hredirects
    exact ⟨r, hr, name_val_eq_iff.mp hredirects, hred⟩
  · rintro ⟨r, hr, hname, hred⟩
    obtain ⟨f, hf, hobj⟩ := hran.filters r hr hred
    refine ⟨f, List.mem_filter.mpr ⟨(State.get_eq_some.mp hf).1, ?_⟩, ?_⟩
    · rw [hobj]
      exact hasRouteLabel_redirectFilter r
    · rw [hobj, redirects_iff, hname]

theorem RedirectsClear.follow (hkept : Kept s) (h : RedirectsClear s) : RedirectsFollow sort s := by
  intro hostOrder filterOrder
  refine ((returns_run hkept h.ready).keeps (keeps_run sort hostOrder filterOrder) hkept).mono
    fun _ t ht => ⟨fun route hroute => ?_, fun hostOrder' filterOrder' => ?_⟩
  · rw [ht.1.redirected_iff ht.2]
    exact ⟨fun ⟨r, hr, hname, hred⟩ => h.agree r hr route hroute hname hred,
      fun hred => ⟨route, hroute, rfl, hred⟩⟩
  · have hsteady := ht.1.steady hkept ht.2 h.ready ((noneRenamed_iff hkept h.ready).mp h.noneRenamed)
    exact (quiet_run ht.2 hsteady).mono fun _ _ _ => trivial

/-- A run that creates nothing finds the virtual service of the first host. -/
theorem get_isSome_of_quiet (hkept : Kept s) {host : Str} (hhost : host ∈ listedHosts (routesOf s))
    {Q : Unit → RouteCluster → Prop}
    (h : Quiet (HttpRouteReconcilerTask.run sort (MapOrder.first host) MapOrder.same) s Q) :
    (s.get .virtualService (virtualServiceKey host)).isSome := by
  cases hget : s.get .virtualService (virtualServiceKey host) with
  | some v => rfl
  | none =>
      have hfind : findVirtualService (servicesOf s) host = none :=
        (findVirtualService_eq hkept host).trans hget
      unfold HttpRouteReconcilerTask.run at h
      rw [Objects.quiet_bind, Objects.quiet_list, Objects.quiet_bind, Objects.quiet_list,
        Objects.quiet_bind, Objects.quiet_list] at h
      have hrun : Quiet (runListed sort (MapOrder.first host) MapOrder.same (routesOf s) (servicesOf s)
        (filtersOf s)) s Q := h
      rw [runListed, MapOrder.order_first hhost, saveVirtualServices, sortSlice_hostRules] at hrun
      have hfirst := Objects.quiet_bind.mp (Objects.quiet_bind.mp hrun)
      rw [saveVirtualService, hfind] at hfirst
      exact absurd hfirst Objects.not_quiet_create

/-- **Redirects follow the routes only in a clear cluster.** -/
theorem RedirectsFollow.clear (hkept : Kept s) (h : RedirectsFollow sort s) : RedirectsClear s := by
  have hready : Ready (routesOf s) :=
    ready_of_returns hkept fun hostOrder filterOrder => (h hostOrder filterOrder).mono fun _ _ _ => trivial
  have hruns := ((h MapOrder.same MapOrder.same).and (returns_run hkept hready)).keeps
    (keeps_run sort MapOrder.same MapOrder.same) hkept
  obtain ⟨_, t, _, ⟨⟨hfollow, hquiet⟩, hran⟩, hkept'⟩ := hruns
  refine ⟨hready, (noneRenamed_iff hkept hready).mpr fun host hhost hstale => ?_, fun a ha b hb hname hred => ?_⟩
  · -- the next run creates what this one has deleted
    have hhost' : host ∈ listedHosts (routesOf t) := by rwa [hran.routes]
    have hsome := get_isSome_of_quiet hkept' hhost' (hquiet (MapOrder.first host) MapOrder.same)
    rw [hran.deleted _ hstale] at hsome
    cases hsome
  · exact (hfollow b hb).mp ((hran.redirected_iff hkept' b).mpr ⟨a, ha, hname, hred⟩)

end Follow

/-- **Redirects follow the routes exactly in a clear cluster**, after any history and whatever the routes
    are. -/
theorem redirectsFollow_iff {sort : Procedure} {s : RouteCluster} (h : RouteReachable sort s) :
    RedirectsFollow sort s ↔ RedirectsClear s :=
  ⟨RedirectsFollow.clear (kept_of_reachable h), RedirectsClear.follow (kept_of_reachable h)⟩

/-! ## 3. Two routes of one name -/

/-- A route of a namespace, with or without redirect. -/
def redirectRoute (ns : DnsLabel) (host : Str) (redirect : Bool) : HttpRoute where
  ns := ns
  name := ⟨str "web", isDNS1123Subdomain_web⟩
  spec := plainSpec [host] [str "/"] [] false redirect

/-- The route of the namespace `shop` redirects. -/
def shopRedirect : HttpRoute := redirectRoute ⟨str "shop", isDNS1123Label_shop⟩ (str "shop.io") true

/-- The route of the namespace `bank` has the same name and does not redirect. -/
def bankPlain : HttpRoute := redirectRoute ⟨str "bank", isDNS1123Label_bank⟩ (str "bank.io") false

/-- Alone a route is redirected. -/
theorem redirectsFollow_shop :
    RedirectsFollow Sorting.insertion (clusterWith [shopRedirect] (List.nodup_singleton _)) := by
  refine (redirectsFollow_iff (reachable_clusterWith _ _ _)).mpr ⟨?_, fun _ _ vs hvs _ => ?_, ?_⟩
  · rw [routesOf_clusterWith]
    exact ⟨by decide, by decide, by decide, by decide⟩
  · exact absurd hvs List.not_mem_nil
  · rw [routesOf_clusterWith]
    decide

/-- **A route is redirected with one of its name in another namespace.** -/
theorem redirectsFollow_fails :
    ¬ ∀ (sort : Procedure) (s : RouteCluster), RouteReachable sort s → RedirectsFollow sort s := by
  intro h
  have hreach := reachable_clusterWith Sorting.insertion [shopRedirect, bankPlain] (by decide)
  have hclear := (h _ _ hreach).clear (kept_of_reachable hreach)
  have hagree := hclear.agree
  rw [routesOf_clusterWith] at hagree
  exact absurd (hagree shopRedirect (by decide) bankPlain (by decide) rfl rfl) (by decide)

end Kalm
