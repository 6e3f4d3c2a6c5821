/-
  File:      Kalm/Route/Reconciled.lean
  Subject:   WHAT A RUN OF THE ROUTE RECONCILER DOES: the invariant of the objects with its label, and for
             each loop of `Run` when it returns and in which cluster.

  * `Kept`, `kept_of_reachable` -- after any history a labelled object is one the reconciler made;
  * `returns_saveVirtualServices` -- with different names of the hosts each gets its virtual service;
  * `returns_createRedirectFilters`, `createRedirectFilters_needs` -- with different names of the redirecting
    routes, and only then, the missing filters are created.
-/
import Kalm.Route.Run

namespace Kalm

open Objects (State Versioned Returns Quiet Call)
open Sorting (Procedure)
open Calls (Action)

/-! ## 1. The objects with the label -/

/-- What the reconciler finds with its label, or under a key of its own, is an object it has made. -/
def Ours : (k : RouteKind) → k.Obj → Prop
  | .httpRoute, _ => True
  | .virtualService, vs =>
    hasRouteLabel vs.labels = true ∨ IsServiceKey (vs.ns, vs.name) →
      ∃ host, vs.hosts = [host] ∧ (vs.ns, vs.name) = virtualServiceKey host ∧
        hasRouteLabel vs.labels = true ∧ isDNS1123Subdomain vs.name = true
  | .envoyFilter, filter =>
    hasRouteLabel filter.labels = true ∨ IsFilterKey (filter.ns, filter.name) →
      ∃ route, filter = buildHttpsRedirectEnvoyFilter route ∧ isDNS1123Subdomain filter.name = true

/-- The invariant of all histories. -/
structure Kept (s : RouteCluster) : Prop where
  all : s.All Ours
  fresh : s.Fresh .virtualService

theorem hasRouteLabel_save (vs : VirtualService) (host : Str) (rules : List HTTPRouteRule) :
    hasRouteLabel (vs.save host rules).labels = true :=
  decide_eq_true (Finmap.lookup_insert _)

theorem ours_save {vs : VirtualService} {host : Str} {rules : List HTTPRouteRule}
    (h : isDNS1123Subdomain (virtualServiceName host) = true) : Ours .virtualService (vs.save host rules) :=
  fun _ => ⟨host, rfl, rfl, hasRouteLabel_save vs host rules, h⟩

theorem ours_redirectFilter {route : HttpRoute}
    (h : isDNS1123Subdomain (getHttpsRedirectEnvoyFilterName route) = true) :
    Ours .envoyFilter (buildHttpsRedirectEnvoyFilter route) := fun _ => ⟨route, rfl, h⟩

/-! ### What the loops write -/

theorem uses_saveVirtualService (listing : List StoredVirtualService) (host : Str)
    (rules : List HTTPRouteRule) :
    Calls.Uses (fun c : Call routeSchema => c.Writes Ours) (saveVirtualService listing host rules) := by
  unfold saveVirtualService
  split
  · exact Calls.uses_invoke fun hvalid => ours_save hvalid
  · refine Calls.uses_invoke fun old hold hkey => ours_save ?_
    -- the object in whose place it is put has the same name
    have hold' := hold (Or.inr ⟨host, hkey⟩)
    obtain ⟨_, _, _, _, hvalid⟩ := hold'
    have hname : VirtualService.name old = virtualServiceName host := congrArg Prod.snd hkey
    rw [← hname]
    exact hvalid

theorem uses_saveVirtualServices (sort : Procedure) (listing : List StoredVirtualService)
    (routes : List HttpRoute) (hosts : List Str) :
    Calls.Uses (fun c : Call routeSchema => c.Writes Ours)
      (saveVirtualServices sort listing routes hosts) := by
  induction hosts with
  | nil => trivial
  | cons host hosts ih =>
      unfold saveVirtualServices
      split
      · trivial
      · exact Calls.uses_bind (uses_saveVirtualService _ _ _) fun _ => ih

theorem uses_createRedirectFilters (routes : List HttpRoute) (m : FilterMap) :
    Calls.Uses (fun c : Call routeSchema => c.Writes Ours) (createRedirectFilters routes m) := by
  induction routes generalizing m with
  | nil => trivial
  | cons route routes ih =>
      unfold createRedirectFilters
      split
      · split
        · exact Calls.uses_bind (Calls.uses_invoke fun hvalid => ours_redirectFilter hvalid) fun _ => ih _
        · exact ih _
      · exact ih _

theorem uses_deleteAll (k : RouteKind) (keys : List (Str × Str)) :
    Calls.Uses (fun c : Call routeSchema => c.Writes Ours) (Objects.deleteAll (S := routeSchema) k keys) := by
  induction keys with
  | nil => trivial
  | cons key keys ih => exact Calls.uses_bind (Calls.uses_invoke trivial) fun _ => ih

theorem uses_deleteVirtualServices (hosts : List Str) (listing : List StoredVirtualService) :
    Calls.Uses (fun c : Call routeSchema => c.Writes Ours) (deleteVirtualServices hosts listing) := by
  induction listing with
  | nil => trivial
  | cons vs listing ih =>
      unfold deleteVirtualServices
      split
      · trivial
      · split
        · exact ih
        · exact Calls.uses_bind (Calls.uses_invoke trivial) fun _ => ih

theorem uses_run (sort : Procedure) (hostOrder filterOrder : MapOrder) :
    Calls.Uses (fun c : Call routeSchema => c.Writes Ours)
      (HttpRouteReconcilerTask.run sort hostOrder filterOrder) := by
  refine Calls.uses_bind (Calls.uses_invoke trivial) fun routes => ?_
  refine Calls.uses_bind (Calls.uses_invoke trivial) fun services => ?_
  refine Calls.uses_bind (Calls.uses_invoke trivial) fun filters => ?_
  refine Calls.uses_bind (uses_saveVirtualServices _ _ _ _) fun _ => ?_
  refine Calls.uses_bind (uses_createRedirectFilters _ _) fun _ => ?_
  exact Calls.uses_bind (uses_deleteAll _ _) fun _ => uses_deleteVirtualServices _ _

/-- A run keeps the invariant, whatever fails. -/
theorem keeps_run (sort : Procedure) (hostOrder filterOrder : MapOrder) :
    Calls.Keeps Objects.serve Objects.Error.unavailable Kept
      (HttpRouteReconcilerTask.run sort hostOrder filterOrder) :=
  Calls.keeps_of_uses (fun c hc s hs => ⟨Objects.all_serve c hc s hs.all, Objects.fresh_serve c s hs.fresh⟩)
    (uses_run sort hostOrder filterOrder)

theorem Unreconciled.kept {s : RouteCluster} (h : Unreconciled s) : Kept s where
  all k v hv := by
    cases k with
    | httpRoute => trivial
    | virtualService =>
        obtain ⟨hlabel, hkey⟩ := h.services v hv
        rintro (hl | hk)
        · exact absurd hl (Bool.eq_false_iff.mp hlabel)
        · exact absurd hk hkey
    | envoyFilter =>
        obtain ⟨hlabel, hkey⟩ := h.filters v hv
        rintro (hl | ⟨route, hk⟩)
        · exact absurd hl (Bool.eq_false_iff.mp hlabel)
        · exact absurd ⟨route, hk⟩ hkey
  fresh := h.versions

/-- **After any history a labelled object is one the reconciler has made.** -/
theorem kept_of_reachable {sort : Procedure} {s : RouteCluster} (h : RouteReachable sort s) : Kept s := by
  induction h with
  | start h => exact h.kept
  | @routes s s' _ hsame hrevision ih =>
      refine ⟨fun k v hv => ?_, fun v hv => ?_⟩
      · by_cases hk : k = .httpRoute
        · subst hk
          trivial
        · refine ih.all k v ?_
          rwa [State.list, ← hsame k hk]
      · rw [State.list, hsame .virtualService (by decide)] at hv
        exact Nat.le_trans (ih.fresh v hv) hrevision
  | run _ hostOrder filterOrder faults ih => exact keeps_run sort hostOrder filterOrder _ ih faults

/-! ## 2. The virtual service of a host in the listing -/

/-- **The listing holds what is stored under the keys of the reconciler.** -/
theorem findVirtualService_eq {s : RouteCluster} (h : Kept s) (host : Str) :
    findVirtualService (labelledServices (s.list .virtualService)) host =
      s.get .virtualService (virtualServiceKey host) := by
  cases hget : s.get .virtualService (virtualServiceKey host) with
  | none =>
      refine List.find?_eq_none.mpr fun vs hvs hkey => ?_
      rw [decide_eq_true_eq] at hkey
      have hself := State.get_self (List.mem_filter.mp hvs).1
      rw [Versioned.key, hkey, hget] at hself
      cases hself
  | some v =>
      obtain ⟨hv, hkey⟩ := State.get_eq_some.mp hget
      obtain ⟨_, _, _, hlabel, _⟩ := h.all .virtualService v hv (Or.inr ⟨host, hkey⟩)
      have hmem : v ∈ labelledServices (s.list .virtualService) := List.mem_filter.mpr ⟨hv, hlabel⟩
      cases hfind : findVirtualService (labelledServices (s.list .virtualService)) host with
      | none =>
          have hno := List.find?_eq_none.mp hfind v hmem
          exact absurd (decide_eq_true hkey) hno
      | some w =>
          have hw := (List.mem_filter.mp (List.mem_of_find?_eq_some hfind)).1
          have hwkey : w.key = virtualServiceKey host := of_decide_eq_true (List.find?_some hfind :)
          have hwget := State.get_self hw
          rw [hwkey, hget] at hwget
          exact hwget.symm

/-! ## 3. The loop over the hosts -/

section Saves

variable {sort : Procedure} {listing : List StoredVirtualService} {routes : List HttpRoute} {host : Str}
  {hosts : List Str} {t t' t'' : RouteCluster}

/-- The rules of an Istio route are about prefixes. -/
theorem uri_of_mem_built {route : HttpRoute} {rule : HTTPRouteRule} (h : rule ∈ buildIstioHttpRoutes route) :
    rule.matchRequest.uri = none ∨ ∃ path, rule.matchRequest.uri = some (.prefixOf path) := by
  unfold buildIstioHttpRoutes buildMatches at h
  obtain ⟨m, hm, rfl⟩ := List.mem_map.mp h
  obtain ⟨path, _, hm⟩ := List.mem_flatMap.mp hm
  rcases List.mem_cons.mp hm with rfl | hm
  · show (pathMatch route.spec path).uri = none ∨ _
    rw [pathMatch_uri]
    split
    · exact Or.inr ⟨path, rfl⟩
    · exact Or.inl rfl
  · split at hm
    · rw [List.mem_singleton.mp hm]
      exact Or.inr ⟨_, rfl⟩
    · exact absurd hm List.not_mem_nil

/-- No comparison of the rules of a host panics. -/
theorem sortSlice_hostRules (sort : Procedure) (routes : List HttpRoute) (host : Str) :
    sortSlice sort (hostRules routes host) =
      some (sort.sort (fun a b => sortRoutes a b = some true) (hostRules routes host)) := by
  have huri : ∀ rule ∈ hostRules routes host,
      rule.matchRequest.uri = none ∨ ∃ path, rule.matchRequest.uri = some (.prefixOf path) := by
    intro rule hrule
    obtain ⟨route, _, hrule⟩ := List.mem_flatMap.mp hrule
    obtain ⟨_, _, hrule⟩ := List.mem_flatMap.mp hrule
    exact uri_of_mem_built hrule
  refine if_pos (List.all_eq_true.mpr fun a ha => List.all_eq_true.mpr fun b hb => ?_)
  unfold sortRoutes
  rcases huri a ha with ha | ⟨p, ha⟩ <;> rcases huri b hb with hb | ⟨q, hb⟩ <;> rw [ha, hb] <;> rfl

/-- The sorted rules of a host. -/
def sortedRules (sort : Procedure) (routes : List HttpRoute) (host : Str) : List HTTPRouteRule :=
  sort.sort (fun a b => sortRoutes a b = some true) (hostRules routes host)

/-- The virtual service that is written for a host. -/
def savedService (sort : Procedure) (listing : List StoredVirtualService) (routes : List HttpRoute)
    (host : Str) : VirtualService :=
  match findVirtualService listing host with
  | none => VirtualService.zero.save host (sortedRules sort routes host)
  | some vs => VirtualService.save vs.obj host (sortedRules sort routes host)

theorem savedService_fields (sort : Procedure) (listing : List StoredVirtualService)
    (routes : List HttpRoute) (host : Str) :
    ∃ vs, savedService sort listing routes host = VirtualService.save vs host (sortedRules sort routes host) := by
  unfold savedService
  split <;> exact ⟨_, rfl⟩

/-- What saving the virtual services of some hosts makes of a cluster. -/
structure ServicesSaved (sort : Procedure) (listing : List StoredVirtualService) (routes : List HttpRoute)
    (hosts : List Str) (t t' : RouteCluster) : Prop where
  others : ∀ k, k ≠ .virtualService → t'.objects k = t.objects k
  frame : ∀ key, key ∉ hosts.map virtualServiceKey →
    t'.get .virtualService key = t.get .virtualService key
  saved : ∀ host ∈ hosts, ∃ v, t'.get .virtualService (virtualServiceKey host) = some v ∧
    v.obj = savedService sort listing routes host

/-- One host after the others. -/
theorem ServicesSaved.cons (h : ServicesSaved sort listing routes [host] t t')
    (h' : ServicesSaved sort listing routes hosts t' t'')
    (hnew : virtualServiceKey host ∉ hosts.map virtualServiceKey) :
    ServicesSaved sort listing routes (host :: hosts) t t'' where
  others k hk := (h'.others k hk).trans (h.others k hk)
  frame key hkey := by
    rw [List.map_cons, List.mem_cons, not_or] at hkey
    refine (h'.frame key hkey.2).trans (h.frame key ?_)
    rw [List.map_singleton, List.mem_singleton]
    exact hkey.1
  saved host' hhost' := by
    rcases List.mem_cons.mp hhost' with rfl | hhost'
    · obtain ⟨v, hv, hobj⟩ := h.saved host' (List.mem_singleton.mpr rfl)
      exact ⟨v, (h'.frame _ hnew).trans hv, hobj⟩
    · exact h'.saved host' hhost'

theorem servicesSaved_put {vs : VirtualService} (hvs : vs = savedService sort listing routes host) :
    ServicesSaved sort listing routes [host] t (t.put .virtualService vs) := by
  have hkey : routeSchema.key (k := .virtualService) vs = virtualServiceKey host := by
    obtain ⟨w, hw⟩ := savedService_fields sort listing routes host
    rw [hvs, hw]
    rfl
  refine ⟨fun k hk => State.objects_put_of_ne hk, fun key hne => ?_, fun host' hhost' => ?_⟩
  · rw [List.map_singleton, List.mem_singleton] at hne
    rw [State.get_put, if_neg fun e => hne (e.trans hkey)]
  · rw [List.mem_singleton] at hhost'
    subst hhost'
    exact ⟨_, by rw [State.get_put, if_pos hkey.symm], hvs⟩

/-- **`SaveVirtualService` with a listing that is still true of the host.** -/
theorem returns_saveVirtualService
    (hcurrent : findVirtualService listing host = t.get .virtualService (virtualServiceKey host))
    (hvalid : isDNS1123Subdomain (virtualServiceName host) = true) :
    Returns (saveVirtualService listing host (sortedRules sort routes host)) t fun _ t' =>
      ServicesSaved sort listing routes [host] t t' := by
  unfold saveVirtualService
  cases hfind : findVirtualService listing host with
  | none =>
      have hsaved : VirtualService.zero.save host (sortedRules sort routes host) =
          savedService sort listing routes host := by
        rw [savedService, hfind]
      rw [hfind] at hcurrent
      exact Objects.returns_create.mpr ⟨hvalid, hcurrent.symm, servicesSaved_put hsaved⟩
  | some v =>
      have hsaved : VirtualService.save v.obj host (sortedRules sort routes host) =
          savedService sort listing routes host := by
        rw [savedService, hfind]
      rw [hfind] at hcurrent
      refine Objects.returns_update.mpr ⟨v, hcurrent.symm, rfl, ?_⟩
      split
      · rename_i hsame
        refine ⟨fun _ _ => rfl, fun _ _ => rfl, fun host' hhost' => ?_⟩
        rw [List.mem_singleton] at hhost'
        subst hhost'
        exact ⟨v, hcurrent.symm, hsame.trans hsaved⟩
      · exact servicesSaved_put hsaved

/-- **With different names each host gets its virtual service.** The listing is still true of the hosts that
    are not saved yet. -/
theorem returns_saveVirtualServices (hkeys : (hosts.map virtualServiceKey).Nodup)
    (hvalid : ∀ host ∈ hosts, isDNS1123Subdomain (virtualServiceName host) = true)
    (hcurrent : ∀ host ∈ hosts,
      findVirtualService listing host = t.get .virtualService (virtualServiceKey host)) :
    Returns (saveVirtualServices sort listing routes hosts) t fun _ t' =>
      ServicesSaved sort listing routes hosts t t' := by
  induction hosts generalizing t with
  | nil =>
      refine Calls.returns_done.mpr ⟨fun _ _ => rfl, fun _ _ => rfl, fun _ h => ?_⟩
      exact absurd h List.not_mem_nil
  | cons host hosts ih =>
      rw [List.map_cons, List.nodup_cons] at hkeys
      rw [List.forall_mem_cons] at hvalid hcurrent
      unfold saveVirtualServices
      rw [sortSlice_hostRules]
      refine Objects.returns_bind.mpr ((returns_saveVirtualService hcurrent.1 hvalid.1).mono fun _ t' hsaved => ?_)
      refine (ih hkeys.2 hvalid.2 fun host' hhost' => ?_).mono fun _ t'' hrest => hsaved.cons hrest hkeys.1
      rw [hcurrent.2 host' hhost', hsaved.frame]
      rw [List.map_singleton, List.mem_singleton]
      exact fun e => hkeys.1 (e ▸ List.mem_map_of_mem hhost')

end Saves

/-! ## 4. The loop over the redirects -/

section Redirects

variable {routes : List HttpRoute} {m : FilterMap} {t : RouteCluster}

/-- The key of a filter of the reconciler. -/
def filterKey (name : Str) : Str × Str := (istioNamespace, name)

theorem filterKey_injective : Function.Injective filterKey := fun _ _ h => congrArg Prod.snd h

/-- The names of the filters of the redirecting routes. -/
def redirectNames (routes : List HttpRoute) : List Str :=
  (routes.filter fun route => route.spec.httpRedirectToHttps).map getHttpsRedirectEnvoyFilterName

theorem mem_redirectNames {name : Str} :
    name ∈ redirectNames routes ↔
      ∃ route ∈ routes, route.spec.httpRedirectToHttps = true ∧ getHttpsRedirectEnvoyFilterName route = name := by
  simp only [redirectNames, List.mem_map, List.mem_filter, and_assoc]

theorem redirectNames_cons_of_false {route : HttpRoute} (h : route.spec.httpRedirectToHttps = false) :
    redirectNames (route :: routes) = redirectNames routes := by
  rw [redirectNames, List.filter_cons, h]
  rfl

theorem redirectNames_cons_of_true {route : HttpRoute} (h : route.spec.httpRedirectToHttps = true) :
    redirectNames (route :: routes) = getHttpsRedirectEnvoyFilterName route :: redirectNames routes := by
  rw [redirectNames, List.filter_cons, h]
  rfl

/-- The filter of a route is stored under its name. -/
theorem get_put_filter (t : RouteCluster) (route : HttpRoute) (key : Str × Str) :
    (t.put .envoyFilter (buildHttpsRedirectEnvoyFilter route)).get .envoyFilter key =
      if key = filterKey (getHttpsRedirectEnvoyFilterName route) then
        some ⟨buildHttpsRedirectEnvoyFilter route, t.revision + 1⟩
      else t.get .envoyFilter key :=
  State.get_put (S := routeSchema) (k := .envoyFilter) key

/-- A filter that is missing can be created. -/
def CanCreate (routes : List HttpRoute) (m : FilterMap) (t : RouteCluster) : Prop :=
  ∀ name ∈ redirectNames routes, m.lookup name = none →
    isDNS1123Subdomain name = true ∧ t.get .envoyFilter (filterKey name) = none

/-- What creating the missing filters makes of a cluster. -/
structure FiltersCreated (routes : List HttpRoute) (m : FilterMap) (t t' : RouteCluster) : Prop where
  others : ∀ k, k ≠ .envoyFilter → t'.objects k = t.objects k
  frame : ∀ key, (∀ name ∈ redirectNames routes, m.lookup name = none → key ≠ filterKey name) →
    t'.get .envoyFilter key = t.get .envoyFilter key
  created : ∀ route ∈ routes, route.spec.httpRedirectToHttps = true →
    m.lookup (getHttpsRedirectEnvoyFilterName route) = none →
      ∃ v, t'.get .envoyFilter (filterKey (getHttpsRedirectEnvoyFilterName route)) = some v ∧
        v.obj = buildHttpsRedirectEnvoyFilter route

/-- **With different names the missing filters are created**, and the others leave the map. -/
theorem returns_createRedirectFilters (hnames : (redirectNames routes).Nodup) (hcan : CanCreate routes m t) :
    Returns (createRedirectFilters routes m) t fun m' t' =>
      FiltersCreated routes m t t' ∧
        ∀ name, m'.lookup name = if name ∈ redirectNames routes then none else m.lookup name := by
  induction routes generalizing m t with
  | nil =>
      refine Calls.returns_done.mpr ⟨⟨fun _ _ => rfl, fun _ _ => rfl, fun _ h => ?_⟩, fun _ => rfl⟩
      exact absurd h List.not_mem_nil
  | cons route routes ih =>
      unfold createRedirectFilters
      cases hredirect : route.spec.httpRedirectToHttps with
      | false =>
          have hsame := @redirectNames_cons_of_false routes route hredirect
          rw [if_neg Bool.false_ne_true, hsame]
          rw [hsame] at hnames
          rw [CanCreate, hsame] at hcan
          refine (ih hnames hcan).mono fun m' t' h => ⟨⟨h.1.others, ?_, ?_⟩, h.2⟩
          · rw [hsame]
            exact h.1.frame
          · intro r hr hred
            rcases List.mem_cons.mp hr with rfl | hr
            · rw [hredirect] at hred
              cases hred
            · exact h.1.created r hr hred
      | true =>
          have hsame := @redirectNames_cons_of_true routes route hredirect
          rw [if_pos rfl, hsame]
          rw [hsame, List.nodup_cons] at hnames
          rw [CanCreate, hsame, List.forall_mem_cons] at hcan
          obtain ⟨hnew, hnames⟩ := hnames
          have hne : ∀ name ∈ redirectNames routes, name ≠ getHttpsRedirectEnvoyFilterName route :=
            fun name hname e => hnew (e ▸ hname)
          have hmem : ∀ r ∈ routes, r.spec.httpRedirectToHttps = true →
              getHttpsRedirectEnvoyFilterName r ≠ getHttpsRedirectEnvoyFilterName route :=
            fun r hr hred => hne _ (mem_redirectNames.mpr ⟨r, hr, hred, rfl⟩)
          cases hlookup : m.lookup (getHttpsRedirectEnvoyFilterName route) with
          | none =>
              rw [Option.isNone_none, if_pos rfl]
              obtain ⟨hvalid, hfree⟩ := hcan.1 hlookup
              refine Objects.returns_bind.mpr (Objects.returns_create.mpr ⟨hvalid, hfree, ?_⟩)
              -- the names behind it are other names, and stay free
              have hput : ∀ name, name ≠ getHttpsRedirectEnvoyFilterName route →
                  (t.put .envoyFilter (buildHttpsRedirectEnvoyFilter route)).get .envoyFilter (filterKey name) =
                    t.get .envoyFilter (filterKey name) :=
                fun name h => (get_put_filter t route _).trans (if_neg fun e => h (filterKey_injective e))
              have hcan' : CanCreate routes m (t.put .envoyFilter (buildHttpsRedirectEnvoyFilter route)) := by
                intro name hname hnone
                rw [hput name (hne name hname)]
                exact hcan.2 name hname hnone
              refine (ih hnames hcan').mono fun m' t' h => ⟨⟨fun k hk => ?_, fun key hkey => ?_, ?_⟩, ?_⟩
              · exact (h.1.others k hk).trans (State.objects_put_of_ne hk)
              · rw [hsame, List.forall_mem_cons] at hkey
                rw [h.1.frame key hkey.2, get_put_filter, if_neg (hkey.1 hlookup)]
              · intro r hr hred hnone
                rcases List.mem_cons.mp hr with rfl | hr
                · rw [h.1.frame _ fun name hname _ e => hne name hname (filterKey_injective e).symm,
                    get_put_filter]
                  exact ⟨_, if_pos rfl, rfl⟩
                · exact h.1.created r hr hred hnone
              · intro name
                rw [h.2 name]
                by_cases hname : name = getHttpsRedirectEnvoyFilterName route
                · rw [if_neg (hname ▸ hnew), if_pos (List.mem_cons.mpr (Or.inl hname)), hname, hlookup]
                · simp only [List.mem_cons, hname, false_or]
          | some f =>
              rw [Option.isNone_some, if_neg Bool.false_ne_true]
              have herase : ∀ name, name ≠ getHttpsRedirectEnvoyFilterName route →
                  (m.erase (getHttpsRedirectEnvoyFilterName route)).lookup name = m.lookup name :=
                fun name h => AList.lookup_erase_ne h
              have hcan' : CanCreate routes (m.erase (getHttpsRedirectEnvoyFilterName route)) t := by
                intro name hname hnone
                rw [herase name (hne name hname)] at hnone
                exact hcan.2 name hname hnone
              refine (ih hnames hcan').mono fun m' t' h => ⟨⟨h.1.others, fun key hkey => ?_, ?_⟩, ?_⟩
              · rw [hsame, List.forall_mem_cons] at hkey
                refine h.1.frame key fun name hname hnone => hkey.2 name hname ?_
                rwa [herase name (hne name hname)] at hnone
              · intro r hr hred hnone
                rcases List.mem_cons.mp hr with rfl | hr
                · rw [hlookup] at hnone
                  cases hnone
                · refine h.1.created r hr hred ?_
                  rwa [herase _ (hmem r hr hred)]
              · intro name
                rw [h.2 name]
                by_cases hname : name = getHttpsRedirectEnvoyFilterName route
                · rw [if_neg (hname ▸ hnew), if_pos (List.mem_cons.mpr (Or.inl hname)), hname,
                    AList.lookup_erase]
                · simp only [List.mem_cons, hname, false_or]
                  rw [herase name hname]

/-- **Only with different names**: a filter that was created or kept is created again for the next route of
    its name. -/
theorem createRedirectFilters_needs {Q : FilterMap → RouteCluster → Prop}
    (hm : ∀ name, (m.lookup name).isSome → (t.get .envoyFilter (filterKey name)).isSome)
    (h : Returns (createRedirectFilters routes m) t Q) :
    (redirectNames routes).Nodup ∧ CanCreate routes m t := by
  induction routes generalizing m t with
  | nil => exact ⟨List.nodup_nil, fun name hname => absurd hname List.not_mem_nil⟩
  | cons route routes ih =>
      unfold createRedirectFilters at h
      cases hredirect : route.spec.httpRedirectToHttps with
      | false =>
          have hsame := @redirectNames_cons_of_false routes route hredirect
          rw [hredirect, if_neg Bool.false_ne_true] at h
          rw [CanCreate, hsame]
          exact ih hm h
      | true =>
          have hsame := @redirectNames_cons_of_true routes route hredirect
          rw [hredirect, if_pos rfl] at h
          rw [CanCreate, hsame, List.nodup_cons, List.forall_mem_cons]
          cases hlookup : m.lookup (getHttpsRedirectEnvoyFilterName route) with
          | none =>
              rw [hlookup, Option.isNone_none, if_pos rfl] at h
              obtain ⟨hvalid, hfree, h⟩ := Objects.returns_create.mp (Objects.returns_bind.mp h)
              have hget : ∀ name, (t.put .envoyFilter (buildHttpsRedirectEnvoyFilter route)).get .envoyFilter
                  (filterKey name) = if name = getHttpsRedirectEnvoyFilterName route then
                    some ⟨buildHttpsRedirectEnvoyFilter route, t.revision + 1⟩
                  else t.get .envoyFilter (filterKey name) := by
                intro name
                simp only [get_put_filter, filterKey_injective.eq_iff]
              obtain ⟨hnames, hcan⟩ := ih (fun name hsome => by
                rw [hget]
                split
                · rfl
                · exact hm name hsome) h
              refine ⟨⟨fun hmem => ?_, hnames⟩, fun _ => ⟨hvalid, hfree⟩, fun name hname hnone => ?_⟩
              · have hagain := (hcan _ hmem hlookup).2
                rw [hget, if_pos rfl] at hagain
                cases hagain
              · obtain ⟨hok, hnone'⟩ := hcan name hname hnone
                rw [hget] at hnone'
                split at hnone'
                · cases hnone'
                · exact ⟨hok, hnone'⟩
          | some f =>
              rw [hlookup, Option.isNone_some, if_neg Bool.false_ne_true] at h
              obtain ⟨hnames, hcan⟩ := ih (fun name hsome => by
                by_cases hname : name = getHttpsRedirectEnvoyFilterName route
                · rw [hname, AList.lookup_erase] at hsome
                  cases hsome
                · rw [AList.lookup_erase_ne hname] at hsome
                  exact hm name hsome) h
              have hstored := hm (getHttpsRedirectEnvoyFilterName route) (by rw [hlookup]; rfl)
              have hnew : getHttpsRedirectEnvoyFilterName route ∉ redirectNames routes := by
                intro hmem
                have hagain := (hcan _ hmem (AList.lookup_erase _ _)).2
                rw [hagain] at hstored
                cases hstored
              refine ⟨⟨hnew, hnames⟩, fun hnone => ?_, fun name hname hnone => hcan name hname ?_⟩
              · cases hnone
              · rw [AList.lookup_erase_ne]
                · exact hnone
                · rintro rfl
                  exact hnew hname

end Redirects

end Kalm
