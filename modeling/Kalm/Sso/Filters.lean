/-
  File:      Kalm/Sso/Filters.lean
  Subject:   PROTECTED ENDPOINTS: `ProtectedEndpointReconcilerTask` of controllers/protectedendpoint_controller.go has
             an Envoy filter for every endpoint, while there is one config for single sign-on.

  * `buildEnvoyFilter` -- the filter of an endpoint, from the config;
  * `loadResources`, `reconcileResources`, `deleteResources`, `run` -- the reconcile;
  * `Reconciled`, `reconciled_of_run` -- what a reconcile that returns has done, whatever failed in it;
  * `Event`, `step` -- endpoints and configs are saved and deleted, and what is affected is reconciled;
  * `Protected`, `protected_iff` -- the filters are those that are wanted in every state reached, exactly where the
    one config does not go, and no second one comes, while there are endpoints.
-/
import Kalm.Lib.Runs
import Kalm.Lib.Served
import Kalm.Sso.Modes

namespace Kalm.Sso.Endpoints

open Calls (Fault Holds Strict Uses)
open Objects (Returns State Versioned find LeavesKind)
open Runs (Always)

/-! ## 1. Filters -/

/-- The kinds of the objects that are loaded. -/
abbrev StoredFilter := Versioned schema Kind.filter

/-- The name of what belongs to an endpoint. -/
def filterName (name : Str) : Str := str "kalm-sso-" ++ name

/-- Its key. -/
def filterKey (req : Str × Str) : Str × Str := (req.1, filterName req.2)

/-- `BuildEnvoyFilterHttpRoutePatches`: the cookie that the proxy asks for is set. -/
def buildEnvoyFilterHttpRoutePatches : List EnvoyConfigObjectPatch :=
  [{ applyTo := .httpRoute
     context := .sidecarInbound
     objectTypes := .routeConfiguration 0 none
     operation := .merge
     value := golangMapToProtoStruct [
       (str "response_headers_to_add", protoList [
         protoMap [(str "header", headerValue (str "set-cookie") (str "%REQ(kalm-set-cookie)%"))]])] }]

/-- The spec of `BuildEnvoyFilter`. -/
def buildEnvoyFilter (endpoint : ProtectedEndpointObject) (sso : SingleSignOnConfigSpec) : FilterSpec where
  workloadSelector := Finmap.singleton (str "kalm-component") endpoint.endpointName
  configPatches := buildEnvoyFilterListenerPatches endpoint sso ++ buildEnvoyFilterHttpRoutePatches

/-! ## 2. The reconcile -/

/-- The fields of the task: what has been loaded. -/
structure Loaded where
  authorizationPolicy : Option (Versioned schema Kind.authorizationPolicy)
  envoyFilter : Option StoredFilter
  requestAuthentication : Option (Versioned schema Kind.requestAuthentication)

/-- `LoadResources`. -/
def loadResources (req : Str × Str) : ControllerTask Loaded := do
  let authorizationPolicy ← find (S := schema) Kind.authorizationPolicy (filterKey req)
  let envoyFilter ← find (S := schema) Kind.filter (filterKey req)
  let requestAuthentication ← find (S := schema) Kind.requestAuthentication (filterKey req)
  pure ⟨authorizationPolicy, envoyFilter, requestAuthentication⟩

/-- `DeleteResources`. -/
def deleteResources (loaded : Loaded) : ControllerTask Unit := do
  Objects.deleteLoaded (S := schema) Kind.filter loaded.envoyFilter
  Objects.deleteLoaded (S := schema) Kind.authorizationPolicy loaded.authorizationPolicy
  Objects.deleteLoaded (S := schema) Kind.requestAuthentication loaded.requestAuthentication

/-- `SetControllerReference`: no other endpoint is the controller. -/
def mayOwn (endpoint : ProtectedEndpointObject) (loaded : Option StoredFilter) : Bool :=
  loaded.all fun v => (Filter.owner v.obj).all fun owner => owner = endpoint.name

/-- The filter is created, or the spec of the one that was loaded is patched. -/
def saveFilter (req : Str × Str) (endpoint : ProtectedEndpointObject) (sso : SingleSignOnConfigSpec)
    (loaded : Option StoredFilter) : ControllerTask Unit :=
  if mayOwn endpoint loaded then
    Objects.save (S := schema) Kind.filter loaded
      ⟨req.1, filterName req.2, some endpoint.name, buildEnvoyFilter endpoint sso⟩
      fun old => { (old : Filter) with owner := some endpoint.name, spec := buildEnvoyFilter endpoint sso }
  else .fail .invalid

/-- An object that was loaded is deleted, and the answer is ignored. -/
def deleteIgnored (k : Kind) (loaded : Option (Versioned schema k)) : ControllerTask Unit :=
  match loaded with
  | none => pure ()
  | some v => do
    let _ ← Calls.Action.tryCall (Objects.Call.delete (S := schema) k v.key)
    pure ()

/-- `ReconcileResources`. -/
def reconcileResources (req : Str × Str) (endpoint : ProtectedEndpointObject) (sso : SingleSignOnConfigSpec)
    (loaded : Loaded) : ControllerTask Unit := do
  saveFilter req endpoint sso loaded.envoyFilter
  deleteIgnored .requestAuthentication loaded.requestAuthentication
  deleteIgnored .authorizationPolicy loaded.authorizationPolicy

/-- `Run`: where there is no config nothing has been loaded. -/
def run (req : Str × Str) : ControllerTask Unit := do
  match ← find (S := schema) Kind.endpoint req with
  | none => pure ()
  | some endpoint =>
    match ← Objects.invoke (Objects.Call.list (S := schema) Kind.config) with
    | [] => deleteResources ⟨none, none, none⟩
    | [sso] => do
      let loaded ← loadResources req
      reconcileResources req endpoint.obj (Config.spec sso.obj) loaded
    | _ :: _ :: _ => pure ()

/-! ## 3. What is wanted -/

/-- **The filter that is wanted** for an endpoint: there is one while the endpoint is there, and one config. -/
def wantedFilter (s : Cluster) (req : Str × Str) : Option FilterSpec :=
  match s.get Kind.endpoint req, s.list Kind.config with
  | some endpoint, [sso] => some (buildEnvoyFilter endpoint.obj (Config.spec sso.obj))
  | _, _ => none

/-- The filter that is there. -/
def filterOf (s : Cluster) (req : Str × Str) : Option FilterSpec :=
  (s.get Kind.filter (filterKey req)).map fun w => Filter.spec w.obj

/-- **Every endpoint has the filter that is wanted**, and nothing else has one. -/
def Protected (s : Cluster) : Prop := ∀ req, filterOf s req = wantedFilter s req

/-- The filter of an endpoint has it as its controller. -/
def OwnedByEndpoints (s : Cluster) : Prop :=
  ∀ req w, s.get Kind.filter (filterKey req) = some w → Filter.owner w.obj = some req.2

/-- What a reconcile that returns has done. -/
structure Reconciled (req : Str × Str) (s t : Cluster) : Prop where
  endpoints : t.objects Kind.endpoint = s.objects Kind.endpoint
  configs : t.objects Kind.config = s.objects Kind.config
  others : ∀ key, key ≠ filterKey req → t.get Kind.filter key = s.get Kind.filter key
  unwanted : wantedFilter s req = none → t.get Kind.filter (filterKey req) = s.get Kind.filter (filterKey req)
  wanted : ∀ spec, wantedFilter s req = some spec →
    ∃ w, t.get Kind.filter (filterKey req) = some w ∧ Filter.spec w.obj = spec ∧ Filter.owner w.obj = some req.2

/-! ## 4. One reconcile -/

variable {s t : Cluster} {req : Str × Str}

theorem uses_deleteIgnored {A : Objects.Call schema → Prop} {k : Kind} (loaded : Option (Versioned schema k))
    (h : ∀ key, A (.delete k key)) : Uses A (deleteIgnored k loaded) := by
  unfold deleteIgnored
  cases loaded with
  | none => trivial
  | some v => exact Calls.uses_tryCall (h _) fun _ => trivial

/-- The rest of a reconcile, behind the filter. -/
theorem uses_cleanup {A : Objects.Call schema → Prop} (loaded : Loaded)
    (hauthentication : ∀ key, A (.delete Kind.requestAuthentication key))
    (hpolicy : ∀ key, A (.delete Kind.authorizationPolicy key)) :
    Uses A (do
      deleteIgnored .requestAuthentication loaded.requestAuthentication
      deleteIgnored .authorizationPolicy loaded.authorizationPolicy : ControllerTask Unit) :=
  Calls.uses_bind (uses_deleteIgnored _ hauthentication) fun _ => uses_deleteIgnored _ hpolicy

theorem returns_loadResources {Q : Loaded → Cluster → Prop} :
    Returns (loadResources req) s Q ↔
      Q ⟨s.get Kind.authorizationPolicy (filterKey req), s.get Kind.filter (filterKey req),
        s.get Kind.requestAuthentication (filterKey req)⟩ s := by
  unfold loadResources
  rw [Objects.returns_bind, Objects.returns_find, Objects.returns_bind, Objects.returns_find, Objects.returns_bind,
    Objects.returns_find]
  exact Calls.returns_done

theorem strict_loadResources : Strict .unavailable (loadResources req) :=
  Calls.strict_bind (Objects.strict_find ..) fun _ =>
  Calls.strict_bind (Objects.strict_find ..) fun _ =>
  Calls.strict_bind (Objects.strict_find ..) fun _ => trivial

/-- A reconcile writes neither endpoints nor configs. -/
theorem uses_run (req : Str × Str) {k : Kind} (hfilter : k ≠ .filter) (hpolicy : k ≠ .authorizationPolicy)
    (hauthentication : k ≠ .requestAuthentication) : Uses (LeavesKind (S := schema) k) (run req) := by
  have hdelete {l : Kind} (hl : k ≠ l) (key : Str × Str) : LeavesKind (S := schema) k (.delete l key) := by
    refine ⟨fun _ => (by rintro ⟨⟩), fun _ => (by rintro ⟨⟩), fun _ h => ?_⟩
    cases h
    exact hl rfl
  have hread (l : Kind) (key : Str × Str) : LeavesKind (S := schema) k (.get l key) :=
    ⟨fun _ => (by rintro ⟨⟩), fun _ => (by rintro ⟨⟩), fun _ => (by rintro ⟨⟩)⟩
  have hlist (l : Kind) : LeavesKind (S := schema) k (.list l) :=
    ⟨fun _ => (by rintro ⟨⟩), fun _ => (by rintro ⟨⟩), fun _ => (by rintro ⟨⟩)⟩
  unfold run
  refine Calls.uses_bind (Objects.uses_find (hread _ _)) fun found => ?_
  split
  · trivial
  refine Calls.uses_bind (Calls.uses_invoke (hlist _)) fun configs => ?_
  split
  · trivial
  · refine Calls.uses_bind ?_ fun loaded => Calls.uses_bind ?_ fun _ =>
      uses_cleanup loaded (hdelete hauthentication) (hdelete hpolicy)
    · exact Calls.uses_bind (Objects.uses_find (hread _ _)) fun _ =>
        Calls.uses_bind (Objects.uses_find (hread _ _)) fun _ =>
        Calls.uses_bind (Objects.uses_find (hread _ _)) fun _ => trivial
    · unfold saveFilter
      split
      · unfold Objects.save
        split
        · refine Calls.uses_invoke ⟨fun _ h => ?_, fun _ => (by rintro ⟨⟩), fun _ => (by rintro ⟨⟩)⟩
          cases h
          exact hfilter rfl
        · refine Calls.uses_invoke ⟨fun _ => (by rintro ⟨⟩), fun _ h => ?_, fun _ => (by rintro ⟨⟩)⟩
          cases h
          exact hfilter rfl
      · trivial
  · trivial

/-- **The filter is saved**, with the endpoint as its controller. -/
theorem returns_saveFilter {endpoint : ProtectedEndpointObject} {sso : SingleSignOnConfigSpec}
    {Q : Unit → Cluster → Prop}
    (h : Returns (saveFilter req endpoint sso (s.get Kind.filter (filterKey req))) s Q) :
    ∃ t, Q () t ∧ Objects.SameBut (S := schema) Kind.filter (filterKey req) s t ∧
      ∃ w, t.get Kind.filter (filterKey req) = some w ∧ Filter.spec w.obj = buildEnvoyFilter endpoint sso ∧
        Filter.owner w.obj = some endpoint.name := by
  unfold saveFilter at h
  split at h
  · have hupdated : ∀ old : schema.Obj Kind.filter, schema.key (k := Kind.filter) old = filterKey req →
        schema.key (k := Kind.filter) ({ (old : Filter) with owner := some endpoint.name
                                                             spec := buildEnvoyFilter endpoint sso } : Filter) =
          filterKey req := fun _ hold => hold
    have hnew : schema.key (k := Kind.filter)
        (⟨req.1, filterName req.2, some endpoint.name, buildEnvoyFilter endpoint sso⟩ : Filter) = filterKey req := rfl
    obtain ⟨_, hQ⟩ := (Objects.returns_save hnew hupdated).mp h
    refine ⟨_, hQ, Objects.sameBut_saved hnew hupdated, ?_⟩
    obtain ⟨w, hw, hobj⟩ := Objects.get_saved (s := s) hnew hupdated
    refine ⟨w, hw, ?_⟩
    rcases hobj with hobj | ⟨v, _, hobj⟩
    · rw [hobj]
      exact ⟨rfl, rfl⟩
    · rw [hobj]
      exact ⟨rfl, rfl⟩
  · exact absurd h Calls.not_returns_fail

/-- What a reconcile that returns has done to the filters, whatever failed in it. -/
theorem holds_run (req : Str × Str) (s : Cluster) :
    Holds Objects.serve .unavailable (run req) s fun o t => ∀ a, o = .returned a →
      (∀ key, key ≠ filterKey req → t.get Kind.filter key = s.get Kind.filter key) ∧
      (wantedFilter s req = none → t.get Kind.filter (filterKey req) = s.get Kind.filter (filterKey req)) ∧
      ∀ spec, wantedFilter s req = some spec → ∃ w, t.get Kind.filter (filterKey req) = some w ∧
        Filter.spec w.obj = spec ∧ Filter.owner w.obj = some req.2 := by
  have hfind : Returns (find (S := schema) Kind.endpoint req) s
      fun found t => found = s.get Kind.endpoint req ∧ t = s := Objects.returns_find.mpr ⟨rfl, rfl⟩
  have hlist : Returns (Objects.invoke (Objects.Call.list (S := schema) Kind.config)) s
      fun configs t => configs = s.list Kind.config ∧ t = s := Objects.returns_list.mpr ⟨rfl, rfl⟩
  have hload : Returns (loadResources req) s
      fun loaded t => loaded = ⟨s.get Kind.authorizationPolicy (filterKey req), s.get Kind.filter (filterKey req),
        s.get Kind.requestAuthentication (filterKey req)⟩ ∧ t = s := returns_loadResources.mpr ⟨rfl, rfl⟩
  unfold run
  refine (Objects.strict_find _ _).holds_bind hfind (fun e t a h => by cases h) ?_
  rintro found t ⟨rfl, rfl⟩
  cases hendpoint : t.get Kind.endpoint req with
  | none =>
      have hnone : wantedFilter t req = none := by
        rw [wantedFilter, hendpoint]
      refine Calls.holds_done.mpr fun _ _ => ⟨fun _ _ => rfl, fun _ => rfl, fun spec h => ?_⟩
      rw [hnone] at h
      cases h
  | some endpoint =>
      refine (Calls.strict_invoke _).holds_bind hlist (fun e t a h => by cases h) ?_
      rintro configs t ⟨rfl, rfl⟩
      rcases hconfigs : t.list Kind.config with _ | ⟨sso, _ | ⟨other, rest⟩⟩
      · have hnone : wantedFilter t req = none := by
          rw [wantedFilter, hendpoint, hconfigs]
        refine Calls.holds_done.mpr fun _ _ => ⟨fun _ _ => rfl, fun _ => rfl, fun spec h => ?_⟩
        rw [hnone] at h
        cases h
      · have hsome : wantedFilter t req = some (buildEnvoyFilter endpoint.obj (Config.spec sso.obj)) := by
          rw [wantedFilter, hendpoint, hconfigs]
        refine strict_loadResources.holds_bind hload (fun e t a h => by cases h) ?_
        rintro loaded t ⟨rfl, rfl⟩
        have hstrict : Strict .unavailable
            (saveFilter req endpoint.obj (Config.spec sso.obj) (t.get Kind.filter (filterKey req))) := by
          unfold saveFilter
          split
          · exact Objects.strict_save ..
          · trivial
        refine hstrict.holds_bind_of_returned (fun e t a h => by cases h) (fun t a h => by cases h) ?_
        intro _ u hsave
        obtain ⟨u, ⟨_, rfl⟩, hbut, w, hw, hspec, howner⟩ := returns_saveFilter hsave
        -- what is deleted behind the filter is of other kinds
        intro faults a _
        have hrest (key : Str × Str) := Objects.get_eq_of_uses (k := Kind.filter) (uses_cleanup
          (A := LeavesKind (S := schema) Kind.filter)
          ⟨t.get Kind.authorizationPolicy (filterKey req), t.get Kind.filter (filterKey req),
            t.get Kind.requestAuthentication (filterKey req)⟩
          (fun _ => ⟨fun _ => (by rintro ⟨⟩), fun _ => (by rintro ⟨⟩), fun _ => (by rintro ⟨⟩)⟩)
          (fun _ => ⟨fun _ => (by rintro ⟨⟩), fun _ => (by rintro ⟨⟩), fun _ => (by rintro ⟨⟩)⟩)) key faults u
        refine ⟨fun key hkey => ?_, fun hnone => ?_, fun spec h => ⟨w, ?_, ?_, ?_⟩⟩
        · exact (hrest key).trans (hbut Kind.filter key fun e => hkey e.2)
        · rw [hsome] at hnone
          cases hnone
        · exact (hrest (filterKey req)).trans hw
        · rw [hspec]
          exact Option.some.inj (hsome.symm.trans h)
        · rw [howner]
          exact congrArg (fun key : Str × Str => some key.2) (State.get_eq_some.mp hendpoint).2
      · have hnone : wantedFilter t req = none := by
          rw [wantedFilter, hendpoint, hconfigs]
        refine Calls.holds_done.mpr fun _ _ => ⟨fun _ _ => rfl, fun _ => rfl, fun spec h => ?_⟩
        rw [hnone] at h
        cases h

/-- **A reconcile that returns.** -/
theorem reconciled_of_run {faults : List Fault}
    (h : Calls.run Objects.serve .unavailable (run req) faults s = (.returned (), t)) : Reconciled req s t := by
  have hfilters := holds_run req s faults
  rw [h] at hfilters
  obtain ⟨hothers, hunwanted, hwanted⟩ := hfilters () rfl
  have hendpoints := Objects.objects_eq_of_uses (uses_run req (k := Kind.endpoint) (by decide) (by decide)
    (by decide)) faults s
  have hconfigs := Objects.objects_eq_of_uses (uses_run req (k := Kind.config) (by decide) (by decide)
    (by decide)) faults s
  rw [h] at hendpoints hconfigs
  exact ⟨hendpoints, hconfigs, hothers, hunwanted, hwanted⟩

/-! ## 5. Several reconciles -/

/-- An endpoint is asked for, and its calls meet these faults. -/
abbrev Attempt := (Str × Str) × List Fault

/-- The state behind a reconcile. -/
def reconcile (s : Cluster) (a : Attempt) : Cluster := (Calls.run Objects.serve .unavailable (run a.1) a.2 s).2

/-- Every reconcile returns. -/
def AllReturn (s : Cluster) (attempts : List Attempt) : Prop :=
  Always reconcile (fun s a => (Calls.run Objects.serve .unavailable (run a.1) a.2 s).1 = .returned ()) s attempts

theorem filterKey_injective {req req' : Str × Str} (h : filterKey req = filterKey req') : req = req' := by
  obtain ⟨hns, hname⟩ := Prod.mk.inj h
  exact Prod.ext hns (List.append_cancel_left hname)

theorem wantedFilter_congr (hendpoints : t.objects Kind.endpoint = s.objects Kind.endpoint)
    (hconfigs : t.objects Kind.config = s.objects Kind.config) (req : Str × Str) :
    wantedFilter t req = wantedFilter s req := by
  rw [wantedFilter, State.get, State.list, hendpoints, hconfigs]
  rfl

/-- The filter of the endpoint is the wanted one, if there is one; otherwise it stays. -/
theorem Reconciled.filterOf_eq (h : Reconciled req s t) (req' : Str × Str) :
    filterOf t req' = if req' = req then (wantedFilter s req).or (filterOf s req) else filterOf s req' := by
  by_cases hreq : req' = req
  · subst hreq
    rw [if_pos rfl]
    cases hwanted : wantedFilter s req' with
    | none => rw [Option.none_or, filterOf, h.unwanted hwanted, filterOf]
    | some spec =>
        obtain ⟨w, hw, hspec, _⟩ := h.wanted spec hwanted
        rw [Option.some_or, filterOf, hw, Option.map_some, hspec]
  · rw [if_neg hreq, filterOf, h.others _ fun e => hreq (filterKey_injective e), filterOf]

theorem Reconciled.owned (h : Reconciled req s t) (hs : OwnedByEndpoints s) : OwnedByEndpoints t := by
  intro req' w hw
  by_cases hreq : req' = req
  · subst hreq
    cases hwanted : wantedFilter s req' with
    | none =>
        rw [h.unwanted hwanted] at hw
        exact hs req' w hw
    | some spec =>
        obtain ⟨w', hw', _, howner⟩ := h.wanted spec hwanted
        rw [← Option.some.inj (hw'.symm.trans hw)]
        exact howner
  · rw [h.others _ fun e => hreq (filterKey_injective e)] at hw
    exact hs req' w hw

/-- **Several reconciles**: every endpoint that was asked for has the filter that is wanted, if there is one. -/
theorem reconcileAll_spec {attempts : List Attempt} (h : AllReturn s attempts) :
    (attempts.foldl reconcile s).objects Kind.endpoint = s.objects Kind.endpoint ∧
      (attempts.foldl reconcile s).objects Kind.config = s.objects Kind.config ∧
      (∀ req, filterOf (attempts.foldl reconcile s) req =
        if req ∈ attempts.map Prod.fst then (wantedFilter s req).or (filterOf s req) else filterOf s req) ∧
      (OwnedByEndpoints s → OwnedByEndpoints (attempts.foldl reconcile s)) := by
  induction attempts generalizing s with
  | nil => exact ⟨rfl, rfl, fun _ => rfl, id⟩
  | cons a attempts ih =>
      have hfirst : Reconciled a.1 s (reconcile s a) := reconciled_of_run (Prod.ext h.1 rfl)
      obtain ⟨hendpoints, hconfigs, hfilters, howned⟩ := ih h.2
      have hwanted := wantedFilter_congr hfirst.endpoints hfirst.configs
      refine ⟨hendpoints.trans hfirst.endpoints, hconfigs.trans hfirst.configs, fun req => ?_,
        fun hs => howned (hfirst.owned hs)⟩
      rw [List.foldl_cons, hfilters, hwanted, hfirst.filterOf_eq, List.map_cons]
      by_cases hreq : req = a.1
      · rw [if_pos hreq, if_pos (List.mem_cons.mpr (Or.inl hreq)), ← hreq]
        split
        · cases wantedFilter s req <;> rfl
        · rfl
      · rw [if_neg hreq]
        by_cases hmem : req ∈ attempts.map Prod.fst
        · rw [if_pos hmem, if_pos (List.mem_cons_of_mem _ hmem)]
        · rw [if_neg hmem, if_neg fun hcons => (List.mem_cons.mp hcons).elim hreq hmem]

/-! ## 6. Events -/

/-- What happens to endpoints and configs. -/
inductive Event where
  | saveEndpoint (e : ProtectedEndpointObject)
  | deleteEndpoint (key : Str × Str)
  | saveConfig (c : Config)
  | deleteConfig (key : Str × Str)

/-- The keys of the filters that an endpoint controls. -/
def ownedKeys (s : Cluster) (key : Str × Str) : List (Str × Str) :=
  ((s.list Kind.filter).filter fun v =>
    Filter.ns v.obj = key.1 && Filter.owner v.obj = some key.2).map Versioned.key

/-- The state behind an event; with an endpoint, what it controls is collected. -/
def Event.apply : Event → Cluster → Cluster
  | saveEndpoint e, s => State.put (S := schema) s Kind.endpoint e
  | deleteEndpoint key, s => (s.remove Kind.endpoint key).removeAll Kind.filter (ownedKeys s key)
  | saveConfig c, s => State.put (S := schema) s Kind.config c
  | deleteConfig key, s => s.remove Kind.config key

/-- The endpoints that are affected: with a config, all that are there. -/
def Event.Affects (s : Cluster) (req : Str × Str) : Event → Prop
  | saveEndpoint e => req = (e.ns, e.name)
  | deleteEndpoint key => req = key
  | saveConfig _ => (s.get Kind.endpoint req).isSome
  | deleteConfig _ => (s.get Kind.endpoint req).isSome

/-- An event, and the reconciles behind it. -/
structure Step where
  event : Event
  attempts : List Attempt

/-- The state behind them. -/
def step (s : Cluster) (i : Step) : Cluster := i.attempts.foldl reconcile (i.event.apply s)

/-- **Every affected endpoint is reconciled**, and every reconcile returns. -/
structure Successful (s : Cluster) (i : Step) : Prop where
  affected : ∀ req, i.event.Affects (i.event.apply s) req → req ∈ i.attempts.map Prod.fst
  returns : AllReturn (i.event.apply s) i.attempts

/-- There is one config. -/
def Single (s : Cluster) : Prop := ∃ sso, s.list Kind.config = [sso]

/-- **The condition of a step**: the one config does not go, and no second one comes, while there are endpoints. -/
def Meets (s : Cluster) (i : Step) : Prop :=
  Single s → ¬ Single (i.event.apply s) → ∀ req, (i.event.apply s).get Kind.endpoint req = none

/-- The filters are those that are wanted, and the endpoints are their controllers. -/
structure Settled (s : Cluster) : Prop where
  isProtected : Protected s
  owned : OwnedByEndpoints s

/-! ## 7. One event -/

theorem wantedFilter_eq_none_iff : wantedFilter s req = none ↔ ¬ Single s ∨ s.get Kind.endpoint req = none := by
  unfold wantedFilter Single
  cases s.get Kind.endpoint req with
  | none => exact iff_of_true rfl (Or.inr rfl)
  | some endpoint =>
      rcases s.list Kind.config with _ | ⟨sso, _ | ⟨other, rest⟩⟩
      · exact iff_of_true rfl (Or.inl fun ⟨_, h⟩ => by cases h)
      · refine iff_of_false (fun h => by cases h) ?_
        rintro (h | h)
        · exact h ⟨sso, rfl⟩
        · cases h
      · exact iff_of_true rfl (Or.inl fun ⟨_, h⟩ => by cases h)

/-- What an endpoint controls is collected with it, and nothing else. -/
theorem mem_ownedKeys (hs : OwnedByEndpoints s) {key : Str × Str} (hsome : (filterOf s req).isSome) :
    filterKey req ∈ ownedKeys s key ↔ req = key := by
  rw [filterOf, Option.isSome_map] at hsome
  obtain ⟨w, hw⟩ := Option.isSome_iff_exists.mp hsome
  have howner := hs req w hw
  obtain ⟨hmem, hkey⟩ := State.get_eq_some.mp hw
  have hns : Filter.ns w.obj = req.1 := congrArg Prod.fst hkey
  have hfound (v : StoredFilter) (hv : v ∈ s.list Kind.filter) (hvkey : v.key = filterKey req) : v = w :=
    Option.some.inj ((State.get_eq_some.mpr ⟨hv, hvkey⟩).symm.trans hw)
  unfold ownedKeys
  rw [List.mem_map]
  constructor
  · rintro ⟨v, hv, hvkey⟩
    obtain ⟨hv, hcontrols⟩ := List.mem_filter.mp hv
    obtain rfl := hfound v hv hvkey
    rw [Bool.and_eq_true, decide_eq_true_eq, decide_eq_true_eq, hns, howner] at hcontrols
    exact Prod.ext hcontrols.1 (Option.some.inj hcontrols.2)
  · rintro rfl
    refine ⟨w, List.mem_filter.mpr ⟨hmem, ?_⟩, hkey⟩
    rw [Bool.and_eq_true, decide_eq_true_eq, decide_eq_true_eq]
    exact ⟨hns, howner⟩

/-- **Filters go with their endpoints**, and nothing else happens to them. -/
theorem filterOf_apply (hs : OwnedByEndpoints s) (e : Event) (req : Str × Str) :
    filterOf (e.apply s) req = none ∧ e = .deleteEndpoint req ∨
      filterOf (e.apply s) req = filterOf s req ∧ e ≠ .deleteEndpoint req := by
  cases e with
  | saveEndpoint e =>
      refine Or.inr ⟨?_, fun h => by cases h⟩
      rw [filterOf, Event.apply, State.get_put_of_ne (S := schema) (by decide), filterOf]
  | deleteEndpoint key =>
      have hget : filterOf ((Event.deleteEndpoint key).apply s) req =
          if filterKey req ∈ ownedKeys s key then none else filterOf s req := by
        rw [filterOf, Event.apply, State.get_removeAll, State.get_remove_of_ne (S := schema) (by decide)]
        split
        · rfl
        · rfl
      rw [hget]
      by_cases hreq : req = key
      · refine Or.inl ⟨?_, by rw [hreq]⟩
        cases hfilter : filterOf s req with
        | none => exact ite_self _
        | some spec => exact if_pos ((mem_ownedKeys hs (by rw [hfilter]; rfl)).mpr hreq)
      · refine Or.inr ⟨?_, fun h => hreq (Event.deleteEndpoint.inj h).symm⟩
        cases hfilter : filterOf s req with
        | none => exact ite_self _
        | some spec => exact if_neg fun hmem => hreq ((mem_ownedKeys hs (by rw [hfilter]; rfl)).mp hmem)
  | saveConfig c =>
      refine Or.inr ⟨?_, fun h => by cases h⟩
      rw [filterOf, Event.apply, State.get_put_of_ne (S := schema) (by decide), filterOf]
  | deleteConfig key =>
      refine Or.inr ⟨?_, fun h => by cases h⟩
      rw [filterOf, Event.apply, State.get_remove_of_ne (S := schema) (by decide), filterOf]

/-- The endpoints keep what they control. -/
theorem owned_apply (hs : OwnedByEndpoints s) (e : Event) : OwnedByEndpoints (e.apply s) := by
  intro req w hw
  refine hs req w ?_
  cases e with
  | saveEndpoint e => rwa [Event.apply, State.get_put_of_ne (S := schema) (by decide)] at hw
  | deleteEndpoint key =>
      rw [Event.apply, State.get_removeAll] at hw
      split at hw
      · cases hw
      · rwa [State.get_remove_of_ne (S := schema) (by decide)] at hw
  | saveConfig c => rwa [Event.apply, State.get_put_of_ne (S := schema) (by decide)] at hw
  | deleteConfig key => rwa [Event.apply, State.get_remove_of_ne (S := schema) (by decide)] at hw

theorem get_deleteEndpoint (key req : Str × Str) :
    ((Event.deleteEndpoint key).apply s).get Kind.endpoint req =
      if req = key then none else s.get Kind.endpoint req := by
  rw [Event.apply, State.get, State.objects_removeAll_of_ne (S := schema) (by decide)]
  exact State.get_remove (S := schema) key req

theorem list_deleteEndpoint (key : Str × Str) :
    ((Event.deleteEndpoint key).apply s).list Kind.config = s.list Kind.config := by
  rw [State.list, Event.apply, State.objects_removeAll_of_ne (S := schema) (by decide),
    State.objects_remove_of_ne (S := schema) (by decide), State.list]

/-- For an endpoint that an event does not affect, the filter that is wanted stays wanted. -/
theorem wantedFilter_apply (e : Event) (hreq : ¬ e.Affects (e.apply s) req) :
    wantedFilter (e.apply s) req = none ∨ wantedFilter (e.apply s) req = wantedFilter s req := by
  cases e with
  | saveEndpoint e =>
      have hendpoint : ((Event.saveEndpoint e).apply s).get Kind.endpoint req = s.get Kind.endpoint req := by
        rw [Event.apply, State.get_put]
        exact if_neg hreq
      right
      rw [wantedFilter, hendpoint, Event.apply, State.list_put_of_ne (S := schema) (by decide), wantedFilter]
  | deleteEndpoint key =>
      have hne : req ≠ key := hreq
      right
      rw [wantedFilter, get_deleteEndpoint, if_neg hne, list_deleteEndpoint, wantedFilter]
  | saveConfig c =>
      left
      exact wantedFilter_eq_none_iff.mpr (Or.inr (Option.not_isSome_iff_eq_none.mp hreq))
  | deleteConfig key =>
      left
      exact wantedFilter_eq_none_iff.mpr (Or.inr (Option.not_isSome_iff_eq_none.mp hreq))

/-- An endpoint that is not there had no filter, or has lost it. -/
theorem filterOf_apply_of_absent (hs : Settled s) (e : Event)
    (habsent : (e.apply s).get Kind.endpoint req = none) : filterOf (e.apply s) req = none := by
  rcases filterOf_apply hs.owned e req with ⟨hnone, _⟩ | ⟨hsame, hkept⟩
  · exact hnone
  rw [hsame, hs.isProtected, wantedFilter_eq_none_iff]
  right
  cases e with
  | saveEndpoint e =>
      rw [Event.apply, State.get_put] at habsent
      split at habsent
      · cases habsent
      · exact habsent
  | deleteEndpoint key =>
      have hne : req ≠ key := fun h => hkept (by rw [h])
      rwa [get_deleteEndpoint, if_neg hne] at habsent
  | saveConfig c => rwa [Event.apply, State.get_put_of_ne (S := schema) (by decide)] at habsent
  | deleteConfig key => rwa [Event.apply, State.get_remove_of_ne (S := schema) (by decide)] at habsent

/-- An event that changes whether there is one config leaves the endpoints and the filters. -/
theorem apply_of_single_changed (hs : OwnedByEndpoints s) {e : Event} (hbefore : Single s)
    (hafter : ¬ Single (e.apply s)) (req : Str × Str) :
    filterOf (e.apply s) req = filterOf s req ∧ (e.apply s).get Kind.endpoint req = s.get Kind.endpoint req := by
  have hkept (hconfigs : (e.apply s).list Kind.config = s.list Kind.config) : False :=
    hafter (by rw [Single, hconfigs]; exact hbefore)
  cases e with
  | saveEndpoint e => exact (hkept (State.list_put_of_ne (S := schema) (by decide))).elim
  | deleteEndpoint key => exact (hkept (list_deleteEndpoint key)).elim
  | saveConfig c =>
      refine ⟨?_, State.get_put_of_ne (S := schema) (by decide) _⟩
      exact (filterOf_apply hs (.saveConfig c) req).elim (fun h => by cases h.2) And.left
  | deleteConfig key =>
      refine ⟨?_, State.get_remove_of_ne (S := schema) (by decide) _ _⟩
      exact (filterOf_apply hs (.deleteConfig key) req).elim (fun h => by cases h.2) And.left

/-- **One step.** -/
theorem protected_step_iff (hs : Settled s) {i : Step} (hi : Successful s i) : Protected (step s i) ↔ Meets s i := by
  obtain ⟨hendpoints, hconfigs, hfilters, _⟩ := reconcileAll_spec hi.returns
  have hwanted (req : Str × Str) : wantedFilter (step s i) req = wantedFilter (i.event.apply s) req :=
    wantedFilter_congr hendpoints hconfigs req
  unfold Protected
  simp only [hwanted]
  by_cases hsingle : Single (i.event.apply s)
  · refine iff_of_true (fun req => (hfilters req).trans ?_) fun _ hnot => absurd hsingle hnot
    -- an endpoint that is there has been asked for, or was not affected
    cases hreq : wantedFilter (i.event.apply s) req with
    | none =>
        have habsent := (wantedFilter_eq_none_iff.mp hreq).resolve_left (not_not.mpr hsingle)
        rw [Option.none_or, filterOf_apply_of_absent hs i.event habsent, ite_self]
    | some spec =>
        split
        · rfl
        · rename_i hasked
          have haffected : ¬ i.event.Affects (i.event.apply s) req := fun h => hasked (hi.affected req h)
          have hkept := (wantedFilter_apply i.event haffected).resolve_left (by
            rw [hreq]
            exact Option.some_ne_none spec)
          rcases filterOf_apply hs.owned i.event req with ⟨_, hdeleted⟩ | ⟨hsame, _⟩
          · refine absurd ?_ haffected
            rw [hdeleted]
            rfl
          · rw [hsame, hs.isProtected, ← hkept, hreq]
  · have hnone (req : Str × Str) : wantedFilter (i.event.apply s) req = none :=
      wantedFilter_eq_none_iff.mpr (Or.inl hsingle)
    have hfilter (req : Str × Str) : filterOf (step s i) req = filterOf (i.event.apply s) req := by
      rw [step, hfilters, hnone, Option.none_or, ite_self]
    simp only [hnone, hfilter]
    by_cases hbefore : Single s
    · have hsame := apply_of_single_changed hs.owned hbefore hsingle
      unfold Meets
      rw [forall_prop_of_true hbefore, forall_prop_of_true hsingle]
      refine forall_congr' fun req => ?_
      rw [(hsame req).1, (hsame req).2, hs.isProtected, wantedFilter_eq_none_iff]
      exact or_iff_right (not_not.mpr hbefore)
    · refine iff_of_true (fun req => ?_) fun h => absurd h hbefore
      rcases filterOf_apply hs.owned i.event req with ⟨hgone, _⟩ | ⟨hsame, _⟩
      · exact hgone
      · rw [hsame, hs.isProtected]
        exact wantedFilter_eq_none_iff.mpr (Or.inl hbefore)

/-! ## 8. Runs -/

/-- **The filters exist exactly while they should**, along a run in which all that is affected is reconciled, exactly
    where the one config does not go, and no second one comes, while there are endpoints; and without a config, a
    reconcile of single sign-on leaves nothing exactly where nothing was there. -/
theorem protected_iff (env : Surroundings) (s : Cluster) :
    (∀ steps : List Step, Settled s → Always step Successful s steps →
      (Always step (fun s i => Protected (step s i)) s steps ↔ Always step Meets s steps)) ∧
    ∀ (faults : List Fault) (t : Cluster), s.list Kind.config = [] →
      Calls.run Objects.serve .unavailable (Sso.run env) faults s = (.returned (), t) → (Emptied t ↔ Emptied s) := by
  refine ⟨fun steps hs hok => ?_, fun faults t hconfigs hrun => emptied_iff hconfigs hrun⟩
  refine hok.iff_of_invariant (I := Settled) hs (fun s i hs hi => protected_step_iff hs hi) fun s i hs hi hp => ?_
  exact ⟨hp, (reconcileAll_spec hi.returns).2.2.2 (owned_apply hs.owned i.event)⟩

/-- An empty cluster. -/
def nothing : Cluster := ⟨fun _ => .empty, 0⟩

theorem settled_nothing : Settled nothing := ⟨fun _ => rfl, fun _ _ h => by cases h⟩

/-- A config, and an endpoint. -/
def protecting : List Step :=
  [⟨.saveConfig ⟨kalmDexNamespace, str "sso", userSpec []⟩, []⟩,
    ⟨.saveEndpoint ⟨str "shop", str "web", str "web", [8080], [], false⟩, [((str "shop", str "web"), [])]⟩]

theorem successful_protecting : Always step Successful nothing protecting := by
  refine ⟨⟨fun req h => ?_, trivial⟩, ⟨fun req h => ?_, ⟨rfl, trivial⟩⟩, trivial⟩
  · cases h
  · exact List.mem_singleton.mpr h

/-- The endpoint is protected. -/
theorem protected_protecting : Always step (fun s i => Protected (step s i)) nothing protecting := by
  refine ((protected_iff plainSurroundings nothing).1 protecting settled_nothing successful_protecting).mpr
    ⟨?_, ?_, trivial⟩
  · exact fun ⟨_, h⟩ => by cases h
  · exact fun _ h => absurd ⟨_, rfl⟩ h

/-- The config goes. -/
def unprotecting : List Step :=
  protecting ++ [⟨.deleteConfig (kalmDexNamespace, str "sso"), [((str "shop", str "web"), [])]⟩]

/-- The filter stays. -/
theorem protected_fails :
    ¬ ∀ (s : Cluster) (steps : List Step), Settled s → Always step Successful s steps →
      Always step (fun s i => Protected (step s i)) s steps := by
  intro h
  have hok : Always step Successful nothing unprotecting := by
    obtain ⟨hconfig, hendpoint, _⟩ := successful_protecting
    refine ⟨hconfig, hendpoint, ⟨fun req hreq => ?_, ⟨rfl, trivial⟩⟩, trivial⟩
    have hthere := (reconcileAll_spec hendpoint.returns).1
    rw [Event.Affects, Event.apply, State.get_remove_of_ne (S := schema) (by decide), State.get, step, hthere,
      Event.apply] at hreq
    refine List.mem_singleton.mpr ?_
    by_contra hne
    obtain ⟨w, hw⟩ := Option.isSome_iff_exists.mp hreq
    have hput := (State.get_put (S := schema) (k := Kind.endpoint) req).symm.trans hw
    split at hput
    · exact hne ‹_›
    · cases hput
  have hprotected := (h nothing unprotecting settled_nothing hok).2.2.1 (str "shop", str "web")
  exact Bool.noConfusion (congrArg Option.isSome hprotected : true = false)

end Kalm.Sso.Endpoints
