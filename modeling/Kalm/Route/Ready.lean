/-
  File:      Kalm/Route/Ready.lean
  Subject:   WHEN A RUN OF THE ROUTE RECONCILER RETURNS, whatever the order of the hosts, and in which
             cluster.

  * `staleKeys` -- the virtual services that are deleted at the end, chosen in the listing of the beginning;
  * `Ready` -- the names the run makes are valid and different;
  * `returns_run` -- then it returns; `Ran` says in which cluster;
  * `ready_of_returns` -- and only then it returns for all orders: of two hosts with one name the second
    finds the key taken, or a version the listing does not have;
  * `Steady`, `quiet_run` -- a run with nothing to do.
-/
import Kalm.Route.Reconciled

namespace Kalm

open Objects (State Versioned Returns Quiet Call)
open Sorting (Procedure)
open Calls (Action)

/-! ## 1. The filters of the listing -/

section Filters

variable {s : RouteCluster} {name : Str}

theorem lookup_foldl_filterMap (filters : List StoredEnvoyFilter) (m : FilterMap) {f : StoredEnvoyFilter}
    (h : (filters.foldl (fun m filter => m.insert (routeSchema.key filter.obj).2 filter) m).lookup name =
      some f) :
    f ∈ filters ∧ (routeSchema.key f.obj).2 = name ∨ m.lookup name = some f := by
  induction filters generalizing m with
  | nil => exact Or.inr h
  | cons g filters ih =>
      rw [List.foldl_cons] at h
      rcases ih _ h with ⟨hf, hname⟩ | hm
      · exact Or.inl ⟨List.mem_cons_of_mem _ hf, hname⟩
      · by_cases hname : name = (routeSchema.key g.obj).2
        · rw [hname, AList.lookup_insert, Option.some_inj] at hm
          rw [← hm]
          exact Or.inl ⟨List.mem_cons_self, hname.symm⟩
        · rw [AList.lookup_insert_ne hname] at hm
          exact Or.inr hm

theorem isSome_foldl_filterMap (filters : List StoredEnvoyFilter) (m : FilterMap)
    (h : (m.lookup name).isSome ∨ ∃ f ∈ filters, (routeSchema.key f.obj).2 = name) :
    ((filters.foldl (fun m filter => m.insert (routeSchema.key filter.obj).2 filter) m).lookup name).isSome := by
  induction filters generalizing m with
  | nil =>
      rcases h with h | ⟨f, hf, _⟩
      · exact h
      · exact absurd hf List.not_mem_nil
  | cons g filters ih =>
      rw [List.foldl_cons]
      refine ih _ ?_
      by_cases hname : name = (routeSchema.key g.obj).2
      · rw [hname, AList.lookup_insert]
        exact Or.inl rfl
      · rw [AList.lookup_insert_ne hname]
        rcases h with h | ⟨f, hf, hfname⟩
        · exact Or.inl h
        · rcases List.mem_cons.mp hf with rfl | hf
          · exact absurd hfname.symm hname
          · exact Or.inr ⟨f, hf, hfname⟩

/-- A labelled filter is one of a route, and has its key. -/
theorem key_of_labelled (h : Kept s) {f : StoredEnvoyFilter}
    (hf : f ∈ labelledFilters (s.list .envoyFilter)) :
    (∃ route, f.obj = buildHttpsRedirectEnvoyFilter route) ∧
      routeSchema.key f.obj = filterKey (routeSchema.key f.obj).2 := by
  obtain ⟨hmem, hlabel⟩ := List.mem_filter.mp hf
  obtain ⟨route, hroute, _⟩ := h.all .envoyFilter f hmem (Or.inl hlabel)
  refine ⟨⟨route, hroute⟩, ?_⟩
  rw [hroute]
  rfl

/-- **The map holds what is stored under the keys of the reconciler.** -/
theorem lookup_filterMap (h : Kept s) {f : StoredEnvoyFilter} :
    (filterMap (labelledFilters (s.list .envoyFilter))).lookup name = some f ↔
      f ∈ labelledFilters (s.list .envoyFilter) ∧ routeSchema.key f.obj = filterKey name := by
  have hsound : ∀ g : StoredEnvoyFilter,
      (filterMap (labelledFilters (s.list .envoyFilter))).lookup name = some g →
        g ∈ labelledFilters (s.list .envoyFilter) ∧ routeSchema.key g.obj = filterKey name := by
    intro g hg
    rcases lookup_foldl_filterMap _ ∅ hg with ⟨hmem, hname⟩ | hempty
    · exact ⟨hmem, hname ▸ (key_of_labelled h hmem).2⟩
    · cases hempty
  refine ⟨hsound f, fun ⟨hf, hkey⟩ => ?_⟩
  have hsome : ((filterMap (labelledFilters (s.list .envoyFilter))).lookup name).isSome :=
    isSome_foldl_filterMap _ ∅ (Or.inr ⟨f, hf, congrArg Prod.snd hkey⟩)
  obtain ⟨g, hg⟩ := Option.isSome_iff_exists.mp hsome
  obtain ⟨hgmem, hgkey⟩ := hsound g hg
  -- a key is stored once
  have hfget := State.get_self (List.mem_filter.mp hf).1
  have hgget := State.get_self (List.mem_filter.mp hgmem).1
  rw [Versioned.key, hkey] at hfget
  rw [Versioned.key, hgkey, hfget, Option.some_inj] at hgget
  rw [hgget]
  exact hg

theorem get_of_lookup (h : Kept s)
    (hsome : ((filterMap (labelledFilters (s.list .envoyFilter))).lookup name).isSome) :
    (s.get .envoyFilter (filterKey name)).isSome := by
  obtain ⟨f, hf⟩ := Option.isSome_iff_exists.mp hsome
  obtain ⟨hmem, hkey⟩ := (lookup_filterMap h).mp hf
  have hget := State.get_self (List.mem_filter.mp hmem).1
  rw [Versioned.key, hkey] at hget
  rw [hget]
  rfl

/-- What is stored under the key of a filter is in the map. -/
theorem lookup_of_get (h : Kept s) {route : HttpRoute} (hname : getHttpsRedirectEnvoyFilterName route = name)
    {f : StoredEnvoyFilter} (hf : s.get .envoyFilter (filterKey name) = some f) :
    (filterMap (labelledFilters (s.list .envoyFilter))).lookup name = some f := by
  obtain ⟨hmem, hkey⟩ := State.get_eq_some.mp hf
  obtain ⟨r, hr, _⟩ := h.all .envoyFilter f hmem (Or.inr ⟨route, by rw [hname]; exact hkey⟩)
  refine (lookup_filterMap h).mpr ⟨List.mem_filter.mpr ⟨hmem, ?_⟩, hkey⟩
  have hlabel := hasRouteLabel_redirectFilter r
  rw [← hr] at hlabel
  exact hlabel

/-- A name that is not in the map is free. -/
theorem get_eq_none (h : Kept s) {route : HttpRoute} (hname : getHttpsRedirectEnvoyFilterName route = name)
    (hnone : (filterMap (labelledFilters (s.list .envoyFilter))).lookup name = none) :
    s.get .envoyFilter (filterKey name) = none := by
  cases hget : s.get .envoyFilter (filterKey name) with
  | none => rfl
  | some f =>
      rw [lookup_of_get h hname hget] at hnone
      cases hnone

/-- Filters of one name are the same. -/
theorem buildHttpsRedirectEnvoyFilter_congr {a b : HttpRoute}
    (h : getHttpsRedirectEnvoyFilterName a = getHttpsRedirectEnvoyFilterName b) :
    buildHttpsRedirectEnvoyFilter a = buildHttpsRedirectEnvoyFilter b := by
  have hname := getHttpsRedirectEnvoyFilterName_inj.mp h
  unfold buildHttpsRedirectEnvoyFilter
  rw [h, getIstioHttpRouteName_inj.mpr hname]

/-- The keys that `deleteFilters` deletes. -/
theorem deleteFilters_eq {m : FilterMap} {names : List Str}
    (hkeys : ∀ name f, m.lookup name = some f → routeSchema.key f.obj = filterKey name) :
    deleteFilters m names =
      Objects.deleteAll (S := routeSchema) .envoyFilter
        ((names.filter fun name => (m.lookup name).isSome).map filterKey) := by
  unfold deleteFilters
  refine congrArg _ ?_
  induction names with
  | nil => rfl
  | cons name names ih =>
      cases hlookup : m.lookup name with
      | none =>
          rw [List.filterMap_cons, hlookup, List.filter_cons, hlookup]
          exact ih
      | some f =>
          rw [List.filterMap_cons, hlookup, List.filter_cons, hlookup, List.map_cons]
          exact congrArg₂ List.cons (hkeys name f hlookup) ih

end Filters

/-! ## 2. The virtual services of the listing that are deleted -/

section Stale

variable {s : RouteCluster} {hosts : List Str} {listing : List StoredVirtualService}

/-- The first host of the virtual service is not listed any more. -/
def isStale (hosts : List Str) (vs : StoredVirtualService) : Bool :=
  (VirtualService.hosts vs.obj).head?.all fun host => host ∉ hosts

/-- The keys of the virtual services that are deleted at the end. -/
def staleKeys (hosts : List Str) (listing : List StoredVirtualService) : List (Str × Str) :=
  (listing.filter (isStale hosts)).map fun vs => routeSchema.key vs.obj

/-- A virtual service without hosts would crash the loop. -/
theorem deleteVirtualServices_eq (h : ∀ vs ∈ listing, (VirtualService.hosts vs.obj).head? ≠ none) :
    deleteVirtualServices hosts listing =
      Objects.deleteAll (S := routeSchema) .virtualService (staleKeys hosts listing) := by
  induction listing with
  | nil => rfl
  | cons vs listing ih =>
      rw [List.forall_mem_cons] at h
      unfold deleteVirtualServices
      rw [ih h.2]
      cases hhead : (VirtualService.hosts vs.obj).head? with
      | none => exact absurd hhead h.1
      | some host =>
          have hstale : isStale hosts vs = decide (host ∉ hosts) := by
            rw [isStale, hhead]
            rfl
          by_cases hmem : host ∈ hosts
          · have hkeep : staleKeys hosts (vs :: listing) = staleKeys hosts listing := by
              rw [staleKeys, List.filter_cons_of_neg]
              · rfl
              · rw [hstale, decide_eq_true_eq]
                exact not_not.mpr hmem
            rw [hkeep]
            exact if_pos hmem
          · have hdelete : staleKeys hosts (vs :: listing) =
                routeSchema.key vs.obj :: staleKeys hosts listing := by
              rw [staleKeys, List.filter_cons_of_pos]
              · rfl
              · rw [hstale]
                exact decide_eq_true hmem
            rw [hdelete]
            exact if_neg hmem

/-- The hosts of a labelled virtual service. -/
theorem hosts_of_labelled (h : Kept s) {vs : StoredVirtualService}
    (hvs : vs ∈ labelledServices (s.list .virtualService)) :
    ∃ host, VirtualService.hosts vs.obj = [host] ∧ vs.key = virtualServiceKey host := by
  obtain ⟨hmem, hlabel⟩ := List.mem_filter.mp hvs
  obtain ⟨host, hhosts, hkey, _⟩ := h.all .virtualService vs hmem (Or.inl hlabel)
  exact ⟨host, hhosts, hkey⟩

theorem head?_of_labelled (h : Kept s) :
    ∀ vs ∈ labelledServices (s.list .virtualService), (VirtualService.hosts vs.obj).head? ≠ none := by
  intro vs hvs
  obtain ⟨host, hhosts, _⟩ := hosts_of_labelled h hvs
  rw [hhosts]
  exact Option.some_ne_none _

theorem mem_staleKeys (h : Kept s) {key : Str × Str} :
    key ∈ staleKeys hosts (labelledServices (s.list .virtualService)) ↔
      ∃ host, host ∉ hosts ∧ key = virtualServiceKey host ∧
        ∃ vs, s.get .virtualService key = some vs ∧ VirtualService.hosts vs.obj = [host] := by
  constructor
  · intro hkey
    obtain ⟨vs, hvs, rfl⟩ := List.mem_map.mp hkey
    obtain ⟨hvs, hstale⟩ := List.mem_filter.mp hvs
    obtain ⟨host, hhosts, hk⟩ := hosts_of_labelled h hvs
    rw [isStale, hhosts] at hstale
    exact ⟨host, of_decide_eq_true hstale, hk, vs, State.get_self (List.mem_filter.mp hvs).1, hhosts⟩
  · rintro ⟨host, hhost, hkey, vs, hget, hhosts⟩
    obtain ⟨hmem, hvskey⟩ := State.get_eq_some.mp hget
    obtain ⟨_, _, _, hlabel, _⟩ := h.all .virtualService vs hmem (Or.inr ⟨host, hvskey.trans hkey⟩)
    refine List.mem_map.mpr ⟨vs, List.mem_filter.mpr ⟨List.mem_filter.mpr ⟨hmem, hlabel⟩, ?_⟩, hvskey⟩
    rw [isStale, hhosts]
    exact decide_eq_true hhost

/-- A key is stored once. -/
theorem nodup_staleKeys (s : RouteCluster) (hosts : List Str) :
    (staleKeys hosts (labelledServices (s.list .virtualService))).Nodup := by
  have hnodup : ((s.list .virtualService).map Versioned.key).Nodup := (s.objects .virtualService).distinct
  exact hnodup.sublist ((List.filter_sublist.trans List.filter_sublist).map _)

end Stale

/-! ## 3. A run that returns -/

/-- The virtual services that `Run` lists. -/
def servicesOf (s : RouteCluster) : List StoredVirtualService := labelledServices (s.list .virtualService)

/-- The filters that `Run` lists. -/
def filtersOf (s : RouteCluster) : List StoredEnvoyFilter := labelledFilters (s.list .envoyFilter)

/-- The keys of the virtual services that `Run` deletes. -/
def staleOf (s : RouteCluster) : List (Str × Str) := staleKeys (listedHosts (routesOf s)) (servicesOf s)

/-- The names that a run makes are valid and different. -/
structure Ready (routes : List HttpRoute) : Prop where
  serviceNames : ∀ host ∈ listedHosts routes, isDNS1123Subdomain (virtualServiceName host) = true
  servicesDiffer : ∀ a ∈ listedHosts routes, ∀ b ∈ listedHosts routes,
    virtualServiceName a = virtualServiceName b → a = b
  filterNames : ∀ name ∈ redirectNames routes, isDNS1123Subdomain name = true
  filtersDiffer : (redirectNames routes).Nodup

/-- What a run that returns makes of a cluster. -/
structure Ran (sort : Procedure) (s t : RouteCluster) : Prop where
  routes : routesOf t = routesOf s
  saved : ∀ host ∈ listedHosts (routesOf s), virtualServiceKey host ∉ staleOf s →
    ∃ v, t.get .virtualService (virtualServiceKey host) = some v ∧
      v.obj = savedService sort (servicesOf s) (routesOf s) host
  deleted : ∀ key ∈ staleOf s, t.get .virtualService key = none
  frame : ∀ key, key ∉ (listedHosts (routesOf s)).map virtualServiceKey → key ∉ staleOf s →
    t.get .virtualService key = s.get .virtualService key
  filters : ∀ route ∈ routesOf s, route.spec.httpRedirectToHttps = true →
    ∃ f, t.get .envoyFilter (filterKey (getHttpsRedirectEnvoyFilterName route)) = some f ∧
      f.obj = buildHttpsRedirectEnvoyFilter route
  noOthers : ∀ route, getHttpsRedirectEnvoyFilterName route ∉ redirectNames (routesOf s) →
    t.get .envoyFilter (filterKey (getHttpsRedirectEnvoyFilterName route)) = none

section Run

variable {sort : Procedure} {hostOrder filterOrder : MapOrder} {s t t₁ t₂ : RouteCluster}
  {Q : Unit → RouteCluster → Prop}

theorem returns_run_iff :
    Returns (HttpRouteReconcilerTask.run sort hostOrder filterOrder) s Q ↔
      Returns (runListed sort hostOrder filterOrder (routesOf s) (servicesOf s) (filtersOf s)) s Q := by
  unfold HttpRouteReconcilerTask.run
  rw [Objects.returns_bind, Objects.returns_list, Objects.returns_bind, Objects.returns_list,
    Objects.returns_bind, Objects.returns_list]
  rfl

theorem mem_order (o : MapOrder) {l : List Str} {x : Str} : x ∈ o.order l ↔ x ∈ l := (o.perm l).mem_iff

theorem Ready.nodup_keys (h : Ready (routesOf s)) (o : MapOrder) :
    ((o.order (listedHosts (routesOf s))).map virtualServiceKey).Nodup := by
  refine List.Nodup.map_on (fun a ha b hb hkey => ?_) ((o.perm _).nodup_iff.mpr (List.nodup_dedup _))
  exact h.servicesDiffer a ((mem_order o).mp ha) b ((mem_order o).mp hb) (congrArg Prod.snd hkey)

theorem canCreate (hkept : Kept s) (hready : Ready (routesOf s))
    (hsame : t.objects .envoyFilter = s.objects .envoyFilter) :
    CanCreate (routesOf s) (filterMap (filtersOf s)) t := by
  intro name hname hnone
  refine ⟨hready.filterNames name hname, ?_⟩
  obtain ⟨route, _, _, hroute⟩ := mem_redirectNames.mp hname
  rw [State.get, hsame]
  exact get_eq_none hkept hroute hnone

/-- The filters that are left in the map. -/
def unusedKeys (m : FilterMap) (names : List Str) : List (Str × Str) :=
  (names.filter fun name => (m.lookup name).isSome).map filterKey

theorem mem_unusedKeys {m : FilterMap} {name : Str} :
    filterKey name ∈ unusedKeys m (filterOrder.order m.keys) ↔ (m.lookup name).isSome := by
  rw [unusedKeys, List.mem_map]
  constructor
  · rintro ⟨n, hn, hkey⟩
    rw [← filterKey_injective hkey]
    exact (List.mem_filter.mp hn).2
  · intro h
    refine ⟨name, List.mem_filter.mpr ⟨(mem_order filterOrder).mpr ?_, h⟩, rfl⟩
    exact AList.mem_keys.mp (AList.lookup_isSome.mp h)

/-- The parts of a run put together. -/
theorem ran_of_parts (hkept : Kept s)
    (hsaved : ServicesSaved sort (servicesOf s) (routesOf s) (hostOrder.order (listedHosts (routesOf s))) s t₁)
    (hcreated : FiltersCreated (routesOf s) (filterMap (filtersOf s)) t₁ t₂) {unused : FilterMap}
    (hunused : ∀ name, unused.lookup name =
      if name ∈ redirectNames (routesOf s) then none else (filterMap (filtersOf s)).lookup name) :
    Ran sort s ((t₂.removeAll .envoyFilter (unusedKeys unused (filterOrder.order unused.keys))).removeAll
      .virtualService (staleOf s)) := by
  -- the virtual services are those behind the first loop
  have hservices : ∀ key, ((t₂.removeAll .envoyFilter
      (unusedKeys unused (filterOrder.order unused.keys))).removeAll .virtualService (staleOf s)).get
        .virtualService key = if key ∈ staleOf s then none else t₁.get .virtualService key := by
    intro key
    rw [State.get_removeAll]
    simp only [State.get]
    rw [State.objects_removeAll_of_ne (by decide), hcreated.others .virtualService (by decide)]
    by_cases hkey : key ∈ staleOf s
    · rw [if_pos hkey, if_pos hkey]
    · rw [if_neg hkey, if_neg hkey]
  have hfilters : ∀ name, ((t₂.removeAll .envoyFilter
      (unusedKeys unused (filterOrder.order unused.keys))).removeAll .virtualService (staleOf s)).get
        .envoyFilter (filterKey name) =
          if (unused.lookup name).isSome then none else t₂.get .envoyFilter (filterKey name) := by
    intro name
    rw [State.get, State.objects_removeAll_of_ne (by decide), ← State.get, State.get_removeAll]
    simp only [mem_unusedKeys]
  refine ⟨?_, fun host hhost hstale => ?_, fun key hkey => ?_, fun key hkey hstale => ?_,
    fun route hroute hred => ?_, fun route hroute => ?_⟩
  · simp only [routesOf, State.list]
    rw [State.objects_removeAll_of_ne (by decide), State.objects_removeAll_of_ne (by decide),
      hcreated.others .httpRoute (by decide), hsaved.others .httpRoute (by decide)]
  · rw [hservices, if_neg hstale]
    exact hsaved.saved host ((mem_order hostOrder).mpr hhost)
  · rw [hservices, if_pos hkey]
  · rw [hservices, if_neg hstale, hsaved.frame key]
    intro hmem
    obtain ⟨host, hhost, rfl⟩ := List.mem_map.mp hmem
    exact hkey (List.mem_map_of_mem ((mem_order hostOrder).mp hhost))
  · have hname : getHttpsRedirectEnvoyFilterName route ∈ redirectNames (routesOf s) :=
      mem_redirectNames.mpr ⟨route, hroute, hred, rfl⟩
    rw [hfilters, hunused, if_pos hname, Option.isSome_none, if_neg Bool.false_ne_true]
    cases hlookup : (filterMap (filtersOf s)).lookup (getHttpsRedirectEnvoyFilterName route) with
    | none => exact hcreated.created route hroute hred hlookup
    | some f =>
        -- the filter was there
        obtain ⟨hf, hkey⟩ := (lookup_filterMap hkept).mp hlookup
        obtain ⟨r, hr⟩ := (key_of_labelled hkept hf).1
        have hget := State.get_self (List.mem_filter.mp hf).1
        rw [Versioned.key, hkey] at hget
        refine ⟨f, ?_, hr.trans (buildHttpsRedirectEnvoyFilter_congr ?_)⟩
        · rw [hcreated.frame, State.get, hsaved.others .envoyFilter (by decide)]
          · exact hget
          · intro name hname' hnone e
            rw [← filterKey_injective e, hlookup] at hnone
            cases hnone
        · rw [hr] at hkey
          exact filterKey_injective hkey
  · rw [hfilters, hunused, if_neg hroute]
    cases hlookup : (filterMap (filtersOf s)).lookup (getHttpsRedirectEnvoyFilterName route) with
    | some f => rfl
    | none =>
        rw [Option.isSome_none, if_neg Bool.false_ne_true, hcreated.frame, State.get,
          hsaved.others .envoyFilter (by decide)]
        · exact get_eq_none hkept rfl hlookup
        · intro name hname _ e
          rw [← filterKey_injective e] at hname
          exact hroute hname

/-- **A run whose names are valid and different returns**, whatever the orders. -/
theorem returns_run (hkept : Kept s) (hready : Ready (routesOf s)) :
    Returns (HttpRouteReconcilerTask.run sort hostOrder filterOrder) s fun _ t => Ran sort s t := by
  rw [returns_run_iff, runListed, Objects.returns_bind]
  refine (returns_saveVirtualServices (hready.nodup_keys hostOrder)
    (fun host hhost => hready.serviceNames host ((mem_order hostOrder).mp hhost))
    fun host _ => findVirtualService_eq hkept host).mono fun _ t₁ hsaved => ?_
  rw [Objects.returns_bind]
  refine (returns_createRedirectFilters hready.filtersDiffer
    (canCreate hkept hready (hsaved.others .envoyFilter (by decide)))).mono fun unused t₂ hcreated => ?_
  obtain ⟨hcreated, hunused⟩ := hcreated
  have hlookup : ∀ name f, unused.lookup name = some f →
      name ∉ redirectNames (routesOf s) ∧ (filterMap (filtersOf s)).lookup name = some f := by
    intro name f hf
    rw [hunused] at hf
    split at hf
    · cases hf
    · exact ⟨‹_›, hf⟩
  rw [Objects.returns_bind,
    deleteFilters_eq fun name f hf => ((lookup_filterMap hkept).mp (hlookup name f hf).2).2]
  refine Objects.returns_deleteAll.mpr ⟨?_, fun key hkey => ?_, ?_⟩
  · refine List.Nodup.map filterKey_injective (List.Nodup.filter _ ?_)
    exact (filterOrder.perm _).nodup_iff.mpr unused.keys_nodup
  · -- a filter that is left over is still stored
    obtain ⟨name, hname, rfl⟩ := List.mem_map.mp hkey
    obtain ⟨f, hf⟩ := Option.isSome_iff_exists.mp (List.mem_filter.mp hname).2
    obtain ⟨hno, hf⟩ := hlookup name f hf
    rw [hcreated.frame, State.get, hsaved.others .envoyFilter (by decide)]
    · exact get_of_lookup hkept (by rw [← filtersOf, hf]; rfl)
    · intro n hn _ e
      rw [← filterKey_injective e] at hn
      exact hno hn
  · have hhead : ∀ vs ∈ servicesOf s, (VirtualService.hosts vs.obj).head? ≠ none := head?_of_labelled hkept
    rw [deleteVirtualServices_eq hhead]
    refine Objects.returns_deleteAll.mpr ⟨nodup_staleKeys s _, fun key hkey => ?_,
      ran_of_parts hkept hsaved hcreated hunused⟩
    rw [State.get, State.objects_removeAll_of_ne (by decide), hcreated.others .virtualService (by decide),
      ← State.get]
    by_cases hmem : key ∈ (hostOrder.order (listedHosts (routesOf s))).map virtualServiceKey
    · obtain ⟨host, hhost, rfl⟩ := List.mem_map.mp hmem
      obtain ⟨v, hv, _⟩ := hsaved.saved host hhost
      rw [hv]
      rfl
    · obtain ⟨_, _, _, vs, hvs, _⟩ := (mem_staleKeys hkept).mp hkey
      rw [hsaved.frame key hmem, hvs]
      rfl

end Run

/-! ## 4. Only then it returns -/

/-- The order with a host in front. -/
def MapOrder.first (x : Str) : MapOrder where
  order l := if x ∈ l then x :: l.erase x else l
  perm l := by
    split
    · exact (List.perm_cons_erase ‹_›).symm
    · exact List.Perm.refl l

/-- One order behind another one. -/
def MapOrder.after (o o' : MapOrder) : MapOrder where
  order l := o'.order (o.order l)
  perm l := (o'.perm _).trans (o.perm l)

/-- The order of the list. -/
def MapOrder.same : MapOrder := ⟨fun l => l, List.Perm.refl⟩

theorem MapOrder.order_first {x : Str} {l : List Str} (h : x ∈ l) : (first x).order l = x :: l.erase x :=
  if_pos h

theorem MapOrder.order_two {x y : Str} {l : List Str} (hx : x ∈ l) (hy : y ∈ l) (hne : x ≠ y) :
    ((first y).after (first x)).order l = x :: y :: (l.erase y).erase x := by
  have hsplit : ((first y).after (first x)).order l = (first x).order ((first y).order l) := rfl
  rw [hsplit, order_first hy, order_first (List.mem_cons_of_mem _ ((List.mem_erase_of_ne hne).mpr hx)),
    List.erase_cons_tail]
  rw [beq_iff_eq]
  exact hne.symm

section Needs

variable {sort : Procedure} {s t : RouteCluster} {listing : List StoredVirtualService}
  {routes : List HttpRoute} {Q : Unit → RouteCluster → Prop}

theorem returns_saveVirtualServices_cons {host : Str} {hosts : List Str} :
    Returns (saveVirtualServices sort listing routes (host :: hosts)) t Q ↔
      Returns (saveVirtualService listing host (sortedRules sort routes host)) t fun _ t' =>
        Returns (saveVirtualServices sort listing routes hosts) t' Q := by
  rw [saveVirtualServices, sortSlice_hostRules]
  exact Objects.returns_bind

/-- **Two hosts of one name.** The listing has the object of the name or not; unless saving the first host
    changes nothing, the second one finds another version, or the name taken. -/
theorem not_returns_of_clash (hkept : Kept s) {a b : Str} {rest : List Str}
    (hkey : virtualServiceKey a = virtualServiceKey b)
    (hfirst : ∀ v, findVirtualService (servicesOf s) a = some v →
      v.obj ≠ VirtualService.save v.obj a (sortedRules sort routes a)) :
    ¬ Returns (saveVirtualServices sort (servicesOf s) routes (a :: b :: rest)) s Q := by
  intro h
  rw [returns_saveVirtualServices_cons] at h
  have hsame : findVirtualService (servicesOf s) b = findVirtualService (servicesOf s) a := by
    rw [findVirtualService, ← hkey]
    rfl
  have hget : ∀ vs, (s.put .virtualService (VirtualService.save vs a (sortedRules sort routes a))).get
      .virtualService (virtualServiceKey b) =
        some ⟨VirtualService.save vs a (sortedRules sort routes a), s.revision + 1⟩ :=
    fun vs => (State.get_put _).trans (if_pos hkey.symm)
  unfold saveVirtualService at h
  cases hfind : findVirtualService (servicesOf s) a with
  | none =>
      rw [hfind] at h
      obtain ⟨_, _, h⟩ := Objects.returns_create.mp h
      rw [returns_saveVirtualServices_cons, saveVirtualService, hsame, hfind] at h
      obtain ⟨_, hfree, _⟩ := Objects.returns_create.mp h
      have htaken := hget VirtualService.zero
      have hfree' := htaken.symm.trans hfree
      cases hfree'
  | some v =>
      rw [hfind] at h
      obtain ⟨current, hcurrent, _, h⟩ := Objects.returns_update.mp h
      have hv : s.get .virtualService (virtualServiceKey a) = some v :=
        (findVirtualService_eq hkept a).symm.trans hfind
      have hcv : current = v := Option.some.inj (hcurrent.symm.trans hv)
      rw [hcv, if_neg (hfirst v hfind), returns_saveVirtualServices_cons, saveVirtualService, hsame,
        hfind] at h
      obtain ⟨current', hcurrent', hversion, _⟩ := Objects.returns_update.mp h
      have hwritten := (hget v.obj).symm.trans hcurrent'
      have hle := hkept.fresh v (State.get_eq_some.mp hv).1
      rw [← Option.some.inj hwritten] at hversion
      have hversion' : s.revision + 1 = v.version := hversion
      omega

/-- **A run that returns for all orders of the hosts** has valid and different names for them. -/
theorem names_of_returns (hkept : Kept s)
    (h : ∀ hostOrder : MapOrder, Returns (saveVirtualServices sort (servicesOf s) (routesOf s)
      (hostOrder.order (listedHosts (routesOf s)))) s fun _ _ => True) :
    (∀ host ∈ listedHosts (routesOf s), isDNS1123Subdomain (virtualServiceName host) = true) ∧
      ∀ a ∈ listedHosts (routesOf s), ∀ b ∈ listedHosts (routesOf s),
        virtualServiceName a = virtualServiceName b → a = b := by
  refine ⟨fun host hhost => ?_, fun a ha b hb hname => ?_⟩
  · have hrun := h (MapOrder.first host)
    rw [MapOrder.order_first hhost, returns_saveVirtualServices_cons, saveVirtualService] at hrun
    have hfind : findVirtualService (servicesOf s) host = _ := findVirtualService_eq hkept host
    cases hget : s.get .virtualService (virtualServiceKey host) with
    | none =>
        rw [hfind, hget] at hrun
        exact (Objects.returns_create.mp hrun).1
    | some v =>
        obtain ⟨hv, hkey⟩ := State.get_eq_some.mp hget
        obtain ⟨_, _, _, _, hvalid⟩ := hkept.all .virtualService v hv (Or.inr ⟨host, hkey⟩)
        have hvname : VirtualService.name v.obj = virtualServiceName host := congrArg Prod.snd hkey
        rw [← hvname]
        exact hvalid
  · by_contra hne
    have hkey : virtualServiceKey a = virtualServiceKey b := congrArg (kalmSystemNamespace, ·) hname
    have hab := h ((MapOrder.first b).after (MapOrder.first a))
    have hba := h ((MapOrder.first a).after (MapOrder.first b))
    rw [MapOrder.order_two ha hb hne] at hab
    rw [MapOrder.order_two hb ha (Ne.symm hne)] at hba
    -- saving `a` changes what is stored, or saving `b` does
    by_cases hchange : ∀ v, findVirtualService (servicesOf s) a = some v →
        v.obj ≠ VirtualService.save v.obj a (sortedRules sort (routesOf s) a)
    · exact not_returns_of_clash hkept hkey hchange hab
    · simp only [not_forall, not_not] at hchange
      obtain ⟨v, hv, hsame⟩ := hchange
      refine not_returns_of_clash hkept hkey.symm (fun w hw hsame' => hne ?_) hba
      have hwv : w = v := by
        rw [findVirtualService, ← hkey, ← findVirtualService, hv] at hw
        exact (Option.some.inj hw).symm
      have ha' : VirtualService.hosts v.obj = [a] := congrArg VirtualService.hosts hsame
      have hb' : VirtualService.hosts w.obj = [b] := congrArg VirtualService.hosts hsame'
      rw [hwv, ha'] at hb'
      exact List.head_eq_of_cons_eq hb'

/-- **A run returns for all orders only if it is ready.** -/
theorem ready_of_returns (hkept : Kept s) (h : ∀ hostOrder filterOrder,
    Returns (HttpRouteReconcilerTask.run sort hostOrder filterOrder) s fun _ _ => True) :
    Ready (routesOf s) := by
  have hparts : ∀ hostOrder : MapOrder, Returns (saveVirtualServices sort (servicesOf s) (routesOf s)
      (hostOrder.order (listedHosts (routesOf s)))) s fun _ t =>
        Returns (createRedirectFilters (routesOf s) (filterMap (filtersOf s))) t fun _ _ => True := by
    intro hostOrder
    have hrun := h hostOrder MapOrder.same
    rw [returns_run_iff, runListed, Objects.returns_bind] at hrun
    refine hrun.mono fun _ t ht => ?_
    rw [Objects.returns_bind] at ht
    exact ht.mono fun _ _ _ => trivial
  obtain ⟨hvalid, hdiffer⟩ := names_of_returns hkept fun o => (hparts o).mono fun _ _ _ => trivial
  have hkeys : ((MapOrder.same.order (listedHosts (routesOf s))).map virtualServiceKey).Nodup := by
    refine List.Nodup.map_on (fun a ha b hb hkey => ?_) (List.nodup_dedup _)
    exact hdiffer a ha b hb (congrArg Prod.snd hkey)
  have hsaved : Returns (saveVirtualServices sort (servicesOf s) (routesOf s)
      (MapOrder.same.order (listedHosts (routesOf s)))) s fun _ t =>
        ServicesSaved sort (servicesOf s) (routesOf s) (MapOrder.same.order (listedHosts (routesOf s))) s t :=
    returns_saveVirtualServices hkeys hvalid fun host _ => findVirtualService_eq hkept host
  obtain ⟨_, t, _, hcreate, hsaved⟩ := (hparts MapOrder.same).and hsaved
  obtain ⟨hnodup, hcan⟩ := createRedirectFilters_needs (fun name hsome => by
    rw [State.get, hsaved.others .envoyFilter (by decide)]
    exact get_of_lookup hkept hsome) hcreate
  refine ⟨hvalid, hdiffer, fun name hname => ?_, hnodup⟩
  cases hlookup : (filterMap (filtersOf s)).lookup name with
  | none => exact (hcan name hname hlookup).1
  | some f =>
      obtain ⟨hf, hkey⟩ := (lookup_filterMap hkept).mp hlookup
      obtain ⟨hmem, hlabel⟩ := List.mem_filter.mp hf
      obtain ⟨_, _, hfname⟩ := hkept.all .envoyFilter f hmem (Or.inl hlabel)
      have hfname' : EnvoyFilter.name f.obj = name := congrArg Prod.snd hkey
      rw [← hfname']
      exact hfname

end Needs

/-! ## 5. A run with nothing to do -/

/-- A cluster in which the run finds everything as it would make it. -/
structure Steady (sort : Procedure) (s : RouteCluster) : Prop where
  saved : ∀ host ∈ listedHosts (routesOf s), ∃ v, s.get .virtualService (virtualServiceKey host) = some v ∧
    VirtualService.save v.obj host (sortedRules sort (routesOf s) host) = v.obj
  noneStale : staleOf s = []
  filters : ∀ name ∈ redirectNames (routesOf s), ((filterMap (filtersOf s)).lookup name).isSome
  noneUnused : ∀ name f, (filterMap (filtersOf s)).lookup name = some f → name ∈ redirectNames (routesOf s)
  differ : (redirectNames (routesOf s)).Nodup

section Quiet

variable {sort : Procedure} {hostOrder filterOrder : MapOrder} {s t : RouteCluster}
  {routes : List HttpRoute}

theorem quiet_saveVirtualServices (hkept : Kept s) {hosts : List Str}
    (h : ∀ host ∈ hosts, ∃ v, s.get .virtualService (virtualServiceKey host) = some v ∧
      VirtualService.save v.obj host (sortedRules sort routes host) = v.obj) :
    Quiet (saveVirtualServices sort (servicesOf s) routes hosts) s fun _ t => t = s := by
  induction hosts with
  | nil => exact rfl
  | cons host hosts ih =>
      rw [List.forall_mem_cons] at h
      obtain ⟨⟨v, hv, hsame⟩, hrest⟩ := h
      have hfind : findVirtualService (servicesOf s) host = some v :=
        (findVirtualService_eq hkept host).trans hv
      unfold saveVirtualServices saveVirtualService
      rw [sortSlice_hostRules, hfind]
      refine Objects.quiet_bind.mpr ?_
      have hupdate : (⟨VirtualService.save v.obj host (sortedRules sort routes host), v.version⟩ :
          StoredVirtualService) = v := congrArg (Versioned.mk · v.version) hsame
      show Quiet (routeCall (.update .virtualService
        ⟨VirtualService.save v.obj host (sortedRules sort routes host), v.version⟩)) s _
      rw [hupdate]
      refine Objects.quiet_update ?_ (ih hrest)
      rw [Versioned.key, ← Versioned.key, (State.get_eq_some.mp hv).2]
      exact hv

/-- No filter is missing. -/
theorem quiet_createRedirectFilters {m : FilterMap} (hdiffer : (redirectNames routes).Nodup)
    (h : ∀ name ∈ redirectNames routes, (m.lookup name).isSome) :
    Quiet (createRedirectFilters routes m) s fun m' t => t = s ∧
      ∀ name f, m'.lookup name = some f → name ∉ redirectNames routes ∧ m.lookup name = some f := by
  induction routes generalizing m with
  | nil => exact ⟨rfl, fun name f hf => ⟨List.not_mem_nil, hf⟩⟩
  | cons route routes ih =>
      unfold createRedirectFilters
      cases hredirect : route.spec.httpRedirectToHttps with
      | false =>
          rw [redirectNames_cons_of_false hredirect] at h hdiffer ⊢
          rw [if_neg Bool.false_ne_true]
          exact ih hdiffer h
      | true =>
          rw [redirectNames_cons_of_true hredirect] at h hdiffer ⊢
          rw [List.nodup_cons] at hdiffer
          rw [List.forall_mem_cons] at h
          have hthere : ¬ (m.lookup (getHttpsRedirectEnvoyFilterName route)).isNone = true := by
            rw [Option.isNone_iff_eq_none, ← Option.not_isSome_iff_eq_none, not_not]
            exact h.1
          rw [if_pos rfl, if_neg hthere]
          refine (ih hdiffer.2 fun name hname => ?_).mono fun m' t' h' => ⟨h'.1, fun name f hf => ?_⟩
          · rw [AList.lookup_erase_ne]
            · exact h.2 name hname
            · rintro rfl
              exact hdiffer.1 hname
          · obtain ⟨hno, hlookup⟩ := h'.2 name f hf
            have hne : name ≠ getHttpsRedirectEnvoyFilterName route := by
              rintro rfl
              rw [AList.lookup_erase] at hlookup
              cases hlookup
            rw [AList.lookup_erase_ne hne] at hlookup
            exact ⟨List.not_mem_cons_of_ne_of_not_mem hne hno, hlookup⟩

/-- **A run with nothing to do** creates and deletes nothing, and changes nothing. -/
theorem quiet_run (hkept : Kept s) (h : Steady sort s) :
    Quiet (HttpRouteReconcilerTask.run sort hostOrder filterOrder) s fun _ t => t = s := by
  unfold HttpRouteReconcilerTask.run
  rw [Objects.quiet_bind, Objects.quiet_list, Objects.quiet_bind, Objects.quiet_list, Objects.quiet_bind,
    Objects.quiet_list]
  show Quiet (runListed sort hostOrder filterOrder (routesOf s) (servicesOf s) (filtersOf s)) s _
  rw [runListed, Objects.quiet_bind]
  refine (quiet_saveVirtualServices hkept fun host hhost =>
    h.saved host ((mem_order hostOrder).mp hhost)).mono fun _ t ht => ?_
  subst ht
  rw [Objects.quiet_bind]
  refine (quiet_createRedirectFilters h.differ h.filters).mono fun unused t ht => ?_
  obtain ⟨rfl, hunused⟩ := ht
  -- every filter is one of a redirecting route
  have hnone : ∀ name, unused.lookup name = none := by
    intro name
    cases hlookup : unused.lookup name with
    | none => rfl
    | some f =>
        obtain ⟨hno, hf⟩ := hunused name f hlookup
        exact absurd (h.noneUnused name f hf) hno
  have hdelete : deleteFilters unused (filterOrder.order unused.keys) = pure () := by
    have hnil : (filterOrder.order unused.keys).filterMap (fun name => unused.lookup name) = [] := by
      rw [List.filterMap_eq_nil_iff]
      exact fun name _ => hnone name
    rw [deleteFilters, hnil]
    rfl
  have hhead : ∀ vs ∈ servicesOf t, (VirtualService.hosts vs.obj).head? ≠ none := head?_of_labelled hkept
  have hstale : staleKeys (listedHosts (routesOf t)) (servicesOf t) = [] := h.noneStale
  rw [hdelete, deleteVirtualServices_eq hhead, hstale]
  exact rfl

theorem save_save (vs : VirtualService) (host : Str) (rules : List HTTPRouteRule) :
    (vs.save host rules).save host rules = vs.save host rules := by
  unfold VirtualService.save
  rw [Finmap.insert_insert]

/-- A labelled filter behind a run is that of a redirecting route. -/
theorem Ran.filter_of_labelled (hran : Ran sort s t) (hkept : Kept t) {f : StoredEnvoyFilter}
    (hf : f ∈ filtersOf t) : ∃ route ∈ routesOf s, route.spec.httpRedirectToHttps = true ∧
      f.obj = buildHttpsRedirectEnvoyFilter route := by
  obtain ⟨⟨r, hr⟩, hkey⟩ := key_of_labelled hkept hf
  have hget := State.get_self (List.mem_filter.mp hf).1
  rw [Versioned.key, hr] at hget
  by_cases hname : getHttpsRedirectEnvoyFilterName r ∈ redirectNames (routesOf s)
  · obtain ⟨route, hroute, hred, hsame⟩ := mem_redirectNames.mp hname
    exact ⟨route, hroute, hred, hr.trans (buildHttpsRedirectEnvoyFilter_congr hsame.symm)⟩
  · have hnone := (hran.noOthers r hname).symm.trans hget
    cases hnone

/-- Nothing is stale behind a run. -/
theorem Ran.noneStale (hran : Ran sort s t) (hkept : Kept s) (hkept' : Kept t)
    (h : ∀ host ∈ listedHosts (routesOf s), virtualServiceKey host ∉ staleOf s) : staleOf t = [] := by
  refine List.eq_nil_iff_forall_not_mem.mpr fun key hkey => ?_
  rw [staleOf, hran.routes] at hkey
  obtain ⟨host, hhost, rfl, vs, hvs, hhosts⟩ := (mem_staleKeys hkept').mp hkey
  by_cases hstale : virtualServiceKey host ∈ staleOf s
  · rw [hran.deleted _ hstale] at hvs
    cases hvs
  by_cases hlisted : virtualServiceKey host ∈ (listedHosts (routesOf s)).map virtualServiceKey
  · obtain ⟨host', hhost', hkey'⟩ := List.mem_map.mp hlisted
    obtain ⟨v, hv, hobj⟩ := hran.saved host' hhost' (h host' hhost')
    rw [hkey', hvs, Option.some_inj] at hv
    obtain ⟨w, hw⟩ := savedService_fields sort (servicesOf s) (routesOf s) host'
    rw [hv, hobj, hw] at hhosts
    have hsame : host' = host := List.head_eq_of_cons_eq hhosts
    exact hhost (hsame ▸ hhost')
  · rw [hran.frame _ hlisted hstale] at hvs
    exact hstale ((mem_staleKeys hkept).mpr ⟨host, hhost, rfl, vs, hvs, hhosts⟩)

/-- **Behind a run there is nothing to do**, unless it has deleted the virtual service of a listed host. -/
theorem Ran.steady (hran : Ran sort s t) (hkept : Kept s) (hkept' : Kept t) (hready : Ready (routesOf s))
    (h : ∀ host ∈ listedHosts (routesOf s), virtualServiceKey host ∉ staleOf s) : Steady sort t where
  saved host hhost := by
    rw [hran.routes] at hhost ⊢
    obtain ⟨v, hv, hobj⟩ := hran.saved host hhost (h host hhost)
    obtain ⟨w, hw⟩ := savedService_fields sort (servicesOf s) (routesOf s) host
    refine ⟨v, hv, ?_⟩
    rw [hobj, hw, save_save]
  noneStale := hran.noneStale hkept hkept' h
  filters name hname := by
    rw [hran.routes] at hname
    obtain ⟨route, hroute, hred, rfl⟩ := mem_redirectNames.mp hname
    obtain ⟨f, hf, _⟩ := hran.filters route hroute hred
    rw [filtersOf, lookup_of_get hkept' rfl hf]
    rfl
  noneUnused name f hf := by
    obtain ⟨hmem, hkey⟩ := (lookup_filterMap hkept').mp hf
    obtain ⟨route, hroute, hred, hobj⟩ := hran.filter_of_labelled hkept' hmem
    rw [hran.routes]
    rw [hobj] at hkey
    exact mem_redirectNames.mpr ⟨route, hroute, hred, filterKey_injective hkey⟩
  differ := by
    rw [hran.routes]
    exact hready.filtersDiffer

end Quiet

end Kalm
