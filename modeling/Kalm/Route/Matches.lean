/-
  File:      Kalm/Route/Matches.lean
  Subject:   WHAT A ROUTE MATCHES: `BuildMatches` and `PatchConditionsToHttpMatch` of
             controller/controllers/http_route_controller.go, and how the gateway reads a match.

  * `buildMatches` -- one match for a path, a second one behind a slash where the path is stripped;
  * `HTTPMatchRequest.matches` -- the parts of a match are a conjunction;
  * `standing`, `overridden` -- a condition falls to a later one on the same header or query parameter;
  * `matches_iff_admits` -- a match stands for the paths, methods, schemes and the standing conditions;
  * `enforced_iff` -- every condition is enforced where the overridden ones hold.

  Regular expressions are a parameter: `regexMatch pattern text`.
-/
import Kalm.Go.Bytes
import Kalm.Lib.Mirror
import Kalm.Route.Istio

namespace Kalm

/-! ## 1. Matches -/

/-- `HTTP_GATEWAY_NAMESPACED_NAME` and `HTTPS_GATEWAY_NAMESPACED_NAME`. -/
def HttpRouteScheme.gateway : HttpRouteScheme → Str
  | .http => str "istio-system/kalm-http-gateway"
  | .https => str "istio-system/kalm-https-gateway"

/-- `HTTPMatchRequest`. -/
structure HTTPMatchRequest where
  uri : Option StringMatch
  method : StringMatch
  gateways : List Str
  headers : Mirror.Table Str StringMatch
  queryParams : Mirror.Table Str StringMatch
  deriving DecidableEq

/-- `'|'`. -/
abbrev pipe : UInt8 := 124

/-- `methodRegexp`. -/
def methodRegexp (methods : List HttpRouteMethod) : Str :=
  str "^(" ++ [pipe].intercalate (methods.map HttpRouteMethod.value) ++ str ")$"

/-- The body of the loop of `PatchConditionsToHttpMatch`. -/
def HTTPMatchRequest.patchCondition (m : HTTPMatchRequest) (condition : HttpRouteCondition) :
    HTTPMatchRequest :=
  match condition.type with
  | .header =>
    { m with
      headers := m.headers.insert (canonicalHeaderKey condition.name) (conditionToStringMatch condition) }
  | .query => { m with queryParams := m.queryParams.insert condition.name (conditionToStringMatch condition) }

/-- `PatchConditionsToHttpMatch`. -/
def patchConditionsToHttpMatch (m : HTTPMatchRequest) (spec : HttpRouteSpec) : HTTPMatchRequest :=
  spec.conditions.foldl HTTPMatchRequest.patchCondition m

/-- The match of a path: the path `/` leaves the URI nil. -/
def pathMatch (spec : HttpRouteSpec) (path : Str) : HTTPMatchRequest :=
  patchConditionsToHttpMatch
    { uri := if path ≠ [slash] then some (.prefixOf path) else none
      method := .regex (methodRegexp spec.methods)
      gateways := spec.schemes.map HttpRouteScheme.gateway
      headers := ∅
      queryParams := ∅ } spec

/-- `BuildMatches`. -/
def buildMatches (route : HttpRoute) : List HTTPMatchRequest :=
  route.spec.paths.flatMap fun path =>
    pathMatch route.spec path ::
      if route.spec.stripPath && path ≠ [slash] then
        [{ pathMatch route.spec path with uri := some (.prefixOf (path ++ [slash])) }]
      else []

/-! ## 2. Requests -/

/-- An HTTP request; its path begins with a slash. -/
structure GatewayRequest where
  method : Str
  scheme : HttpRouteScheme
  path : Str
  headers : List (Str × Str)
  queryParams : List (Str × Str)
  absolute : isValidPath path = true

/-- The value of a header; case does not count in its name. -/
def GatewayRequest.header (req : GatewayRequest) (name : Str) : Option Str :=
  (req.headers.find? fun h => toLower h.1 = toLower name).map (·.2)

/-- The value of a query parameter. -/
def GatewayRequest.queryParam (req : GatewayRequest) (name : Str) : Option Str :=
  (req.queryParams.find? fun p => p.1 = name).map (·.2)

theorem GatewayRequest.header_congr (req : GatewayRequest) {a b : Str} (h : toLower a = toLower b) :
    req.header a = req.header b := by
  unfold header
  rw [h]

/-- The header or the query parameter a condition is about. -/
abbrev ConditionKey := HttpRouteConditionType × Str

/-- Its value. -/
def GatewayRequest.value (req : GatewayRequest) (key : ConditionKey) : Option Str :=
  match key.1 with
  | .header => req.header key.2
  | .query => req.queryParam key.2

/-- What the map of a match has it under. -/
def HttpRouteCondition.key (c : HttpRouteCondition) : ConditionKey :=
  match c.type with
  | .header => (.header, canonicalHeaderKey c.name)
  | .query => (.query, c.name)

/-- What a match asks of a header or a query parameter. -/
def HTTPMatchRequest.conditionOf (m : HTTPMatchRequest) (key : ConditionKey) : Option StringMatch :=
  match key.1 with
  | .header => m.headers.lookup key.2
  | .query => m.queryParams.lookup key.2

section Reading

variable (regexMatch : Str → Str → Bool)

/-- A string is matched as a whole, by its beginning, or by a regular expression. -/
def StringMatch.matches : StringMatch → Str → Bool
  | .exact value, s => s = value
  | .prefixOf value, s => value.isPrefixOf s
  | .regex value, s => regexMatch value s

/-- A request matches when all parts of the match do. Without gateways a match is for all of them. -/
def HTTPMatchRequest.matches (m : HTTPMatchRequest) (req : GatewayRequest) : Bool :=
  (m.uri.all fun uri => uri.matches regexMatch req.path) &&
    m.method.matches regexMatch req.method &&
    (m.gateways = [] || req.scheme.gateway ∈ m.gateways) &&
    (m.headers.entries.all fun e => (req.header e.1).any (e.2.matches regexMatch)) &&
    m.queryParams.entries.all fun e => (req.queryParam e.1).any (e.2.matches regexMatch)

/-- A condition of a route holds of a request. -/
def HttpRouteCondition.holds (c : HttpRouteCondition) (req : GatewayRequest) : Bool :=
  let value := match c.type with
    | .header => req.header c.name
    | .query => req.queryParam c.name
  value.any ((conditionToStringMatch c).matches regexMatch)

/-- The request has a path, a method and the scheme of the route, and meets the conditions. -/
structure Admits (spec : HttpRouteSpec) (conditions : List HttpRouteCondition) (req : GatewayRequest) :
    Prop where
  path : ∃ path ∈ spec.paths, path <+: req.path
  method : ∃ method ∈ spec.methods, method.value = req.method
  scheme : req.scheme ∈ spec.schemes
  conditions : ∀ c ∈ conditions, c.holds regexMatch req = true

/-- The expression of a list of methods matches these methods. -/
def ReadsMethods : Prop :=
  ∀ methods : List HttpRouteMethod, methods ≠ [] → ∀ s,
    regexMatch (methodRegexp methods) s = true ↔ s ∈ methods.map HttpRouteMethod.value

end Reading

/-- The conditions that no later one on the same header or query parameter overrides. -/
def standing : List HttpRouteCondition → List HttpRouteCondition
  | [] => []
  | c :: cs => if ∃ d ∈ cs, d.key = c.key then standing cs else c :: standing cs

/-- The others. -/
def overridden : List HttpRouteCondition → List HttpRouteCondition
  | [] => []
  | c :: cs => if ∃ d ∈ cs, d.key = c.key then c :: overridden cs else overridden cs

/-- What the markers of the CRD ask of a condition. -/
def HttpRouteCondition.MeetsMarkers (c : HttpRouteCondition) : Prop := c.name ≠ []

instance : DecidablePred HttpRouteCondition.MeetsMarkers :=
  fun c => inferInstanceAs (Decidable (c.name ≠ []))

/-- What they ask of a destination. -/
def HttpRouteDestination.MeetsMarkers (dest : HttpRouteDestination) : Prop :=
  dest.host ≠ [] ∧ 0 ≤ dest.weight

/-- What they ask of a spec, the enums apart. -/
structure HttpRouteSpec.MeetsMarkers (spec : HttpRouteSpec) : Prop where
  hosts : spec.hosts ≠ []
  paths : spec.paths ≠ []
  methods : spec.methods ≠ []
  schemes : spec.schemes ≠ []
  conditions : ∀ c ∈ spec.conditions, c.MeetsMarkers
  destinations : spec.destinations ≠ [] ∧ ∀ dest ∈ spec.destinations, dest.MeetsMarkers
  retries : ∀ retries ∈ spec.retries, 0 ≤ retries.attempts ∧ 1 ≤ retries.perTtyTimeoutSeconds
  mirror : ∀ mirror ∈ spec.mirror, 0 ≤ mirror.percentage ∧ mirror.destination.MeetsMarkers
  fault : ∀ fault ∈ spec.fault, 0 ≤ fault.percentage
  delay : ∀ delay ∈ spec.delay, 0 ≤ delay.percentage ∧ 1 ≤ delay.delaySeconds
  cors : ∀ cors ∈ spec.cors, ∀ c ∈ cors.allowOrigins, c.MeetsMarkers

/-- A route the CRD accepts. -/
structure CrdHttpRoute extends HttpRoute where
  markers : toHttpRoute.spec.MeetsMarkers

/-! ## 3. The conditions of a match -/

variable {regexMatch : Str → Str → Bool} {req : GatewayRequest}

theorem mem_standing_or_overridden {c : HttpRouteCondition} {cs : List HttpRouteCondition} :
    c ∈ cs ↔ c ∈ standing cs ∨ c ∈ overridden cs := by
  induction cs with
  | nil => simp [standing, overridden]
  | cons d cs ih =>
      unfold standing overridden
      split
      · rw [List.mem_cons, List.mem_cons, ih]
        tauto
      · rw [List.mem_cons, List.mem_cons, ih]
        tauto

theorem lookup_insert (t : Mirror.Table Str StringMatch) (k : Str) (v : StringMatch) (x : Str) :
    (t.insert k v).lookup x = if x = k then some v else t.lookup x := by
  split
  · rename_i h
    rw [h, AList.lookup_insert]
  · rename_i h
    exact AList.lookup_insert_ne h

/-- **A later condition on the same key takes the place of an earlier one.** -/
theorem conditionOf_patchCondition (m : HTTPMatchRequest) (c : HttpRouteCondition)
    (key : ConditionKey) :
    (m.patchCondition c).conditionOf key =
      if key = c.key then some (conditionToStringMatch c) else m.conditionOf key := by
  obtain ⟨type, name⟩ := key
  unfold HTTPMatchRequest.patchCondition HttpRouteCondition.key HTTPMatchRequest.conditionOf
  cases c.type <;> cases type <;> simp [lookup_insert]

/-- What a match asks of each header and query parameter. -/
def MeetsConditions (regexMatch : Str → Str → Bool) (m : HTTPMatchRequest) (req : GatewayRequest) : Prop :=
  ∀ key sm, m.conditionOf key = some sm → (req.value key).any (sm.matches regexMatch) = true

/-- A condition reads the request at its key. -/
theorem holds_iff (c : HttpRouteCondition) :
    c.holds regexMatch req = (req.value c.key).any ((conditionToStringMatch c).matches regexMatch) := by
  unfold HttpRouteCondition.holds HttpRouteCondition.key GatewayRequest.value
  cases c.type
  · rfl
  · simp only [req.header_congr (toLower_canonicalHeaderKey c.name)]

/-- **The conditions that are left in a match are the standing ones**, and what it asked before of
    other keys. -/
theorem meetsConditions_foldl (cs : List HttpRouteCondition) (m : HTTPMatchRequest) :
    MeetsConditions regexMatch (cs.foldl HTTPMatchRequest.patchCondition m) req ↔
      (∀ c ∈ standing cs, c.holds regexMatch req = true) ∧
        ∀ key sm, (∀ c ∈ cs, c.key ≠ key) → m.conditionOf key = some sm →
          (req.value key).any (sm.matches regexMatch) = true := by
  induction cs generalizing m with
  | nil => simp [standing, MeetsConditions]
  | cons c cs ih =>
      rw [List.foldl_cons, ih]
      simp only [conditionOf_patchCondition, List.forall_mem_cons]
      by_cases hlater : ∃ d ∈ cs, d.key = c.key
      · rw [standing, if_pos hlater]
        refine and_congr_right fun _ => ⟨fun h key sm hkey hm => ?_, fun h key sm hkey hm => ?_⟩
        · exact h key sm hkey.2 (by rwa [if_neg fun e => hkey.1 e.symm])
        · have hne : key ≠ c.key := by
            rintro rfl
            obtain ⟨d, hd, he⟩ := hlater
            exact hkey d hd he
          rw [if_neg hne] at hm
          exact h key sm ⟨fun e => hne e.symm, hkey⟩ hm
      · rw [standing, if_neg hlater, List.forall_mem_cons, holds_iff]
        constructor
        · rintro ⟨hstand, h⟩
          refine ⟨⟨h c.key _ (fun d hd e => hlater ⟨d, hd, e⟩) (if_pos rfl), hstand⟩,
            fun key sm hkey hm => h key sm hkey.2 ?_⟩
          rwa [if_neg fun e => hkey.1 e.symm]
        · rintro ⟨⟨hc, hstand⟩, h⟩
          refine ⟨hstand, fun key sm hkey hm => ?_⟩
          by_cases he : key = c.key
          · rw [if_pos he] at hm
            rw [he, ← Option.some.inj hm]
            exact hc
          · rw [if_neg he] at hm
            exact h key sm ⟨fun e => he e.symm, hkey⟩ hm

/-- The two maps of a match are what it asks of each key. -/
theorem all_entries_iff (m : HTTPMatchRequest) :
    ((m.headers.entries.all fun e => (req.header e.1).any (e.2.matches regexMatch)) &&
        m.queryParams.entries.all fun e => (req.queryParam e.1).any (e.2.matches regexMatch)) = true ↔
      MeetsConditions regexMatch m req := by
  simp only [Bool.and_eq_true, List.all_eq_true]
  constructor
  · rintro ⟨hh, hq⟩ ⟨type, name⟩ sm hsm
    cases type
    · exact hq ⟨name, sm⟩ (AList.mem_lookup_iff.mp hsm)
    · exact hh ⟨name, sm⟩ (AList.mem_lookup_iff.mp hsm)
  · intro h
    exact ⟨fun e he => h (.header, e.1) e.2 (AList.mem_lookup_iff.mpr he),
      fun e he => h (.query, e.1) e.2 (AList.mem_lookup_iff.mpr he)⟩

/-! ## 4. What a route admits -/

/-- The conditions only go into the two maps. -/
theorem foldl_patchCondition_frame (cs : List HttpRouteCondition) (m : HTTPMatchRequest) :
    (cs.foldl HTTPMatchRequest.patchCondition m).uri = m.uri ∧
      (cs.foldl HTTPMatchRequest.patchCondition m).method = m.method ∧
      (cs.foldl HTTPMatchRequest.patchCondition m).gateways = m.gateways := by
  induction cs generalizing m with
  | nil => exact ⟨rfl, rfl, rfl⟩
  | cons c cs ih =>
      obtain ⟨huri, hmethod, hgateways⟩ := ih (m.patchCondition c)
      have hone : (m.patchCondition c).uri = m.uri ∧ (m.patchCondition c).method = m.method ∧
          (m.patchCondition c).gateways = m.gateways := by
        unfold HTTPMatchRequest.patchCondition
        split <;> exact ⟨rfl, rfl, rfl⟩
      exact ⟨huri.trans hone.1, hmethod.trans hone.2.1, hgateways.trans hone.2.2⟩

theorem gateway_mem {schemes : List HttpRouteScheme} {scheme : HttpRouteScheme} :
    scheme.gateway ∈ schemes.map HttpRouteScheme.gateway ↔ scheme ∈ schemes := by
  have hinj : Function.Injective HttpRouteScheme.gateway := by
    intro a b
    cases a <;> cases b <;> decide
  exact List.mem_map_of_injective hinj

section Spec

variable {spec : HttpRouteSpec} (hre : ReadsMethods regexMatch) (hspec : spec.MeetsMarkers)

include hre hspec

/-- The match of a path, whatever its URI. -/
theorem pathMatch_matches (path : Str) (uri : Option StringMatch) :
    ({ pathMatch spec path with uri := uri } : HTTPMatchRequest).matches regexMatch req = true ↔
      (uri.all fun uri => uri.matches regexMatch req.path) = true ∧
        (∃ method ∈ spec.methods, method.value = req.method) ∧ req.scheme ∈ spec.schemes ∧
          ∀ c ∈ standing spec.conditions, c.holds regexMatch req = true := by
  have hconds : MeetsConditions regexMatch (pathMatch spec path) req ↔
      ∀ c ∈ standing spec.conditions, c.holds regexMatch req = true := by
    unfold pathMatch patchConditionsToHttpMatch
    rw [meetsConditions_foldl]
    refine and_iff_left fun key sm _ h => ?_
    obtain ⟨type, name⟩ := key
    cases type <;> exact absurd h (by simp [HTTPMatchRequest.conditionOf])
  have hframe := foldl_patchCondition_frame spec.conditions
    { uri := if path ≠ [slash] then some (.prefixOf path) else none
      method := .regex (methodRegexp spec.methods)
      gateways := spec.schemes.map HttpRouteScheme.gateway
      headers := ∅
      queryParams := ∅ }
  have hgateways : spec.schemes.map HttpRouteScheme.gateway ≠ [] := by
    simpa using hspec.schemes
  unfold HTTPMatchRequest.matches
  rw [Bool.and_assoc, Bool.and_eq_true, all_entries_iff]
  simp only [Bool.and_eq_true, Bool.or_eq_true, decide_eq_true_eq]
  rw [show MeetsConditions regexMatch { pathMatch spec path with uri := uri } req ↔
    MeetsConditions regexMatch (pathMatch spec path) req from Iff.rfl, hconds]
  unfold pathMatch patchConditionsToHttpMatch
  rw [hframe.2.1, hframe.2.2, or_iff_right hgateways, gateway_mem, and_assoc, and_assoc]
  refine and_congr_right fun _ => and_congr_left fun _ => ?_
  rw [StringMatch.matches, hre spec.methods hspec.methods, List.mem_map]

/-- **A route matches what has a path, a method and its scheme and meets the standing conditions.** -/
theorem matches_iff_admits (ns : DnsLabel) (name : DnsSubdomain) :
    (buildMatches ⟨ns, name, spec⟩).any (fun m => m.matches regexMatch req) = true ↔
      Admits regexMatch spec (standing spec.conditions) req := by
  have hroot : ∀ path, (if path ≠ [slash] then some (StringMatch.prefixOf path) else none).all
      (fun uri => uri.matches regexMatch req.path) = true ↔ path <+: req.path := by
    intro path
    split
    · simp only [Option.all_some, StringMatch.matches, List.isPrefixOf_iff_prefix]
    · rename_i h
      rw [not_not.mp h]
      exact iff_of_true rfl (List.isPrefixOf_iff_prefix.mp req.absolute)
  have hplain : ∀ path, (pathMatch spec path).matches regexMatch req = true ↔
      path <+: req.path ∧ (∃ method ∈ spec.methods, method.value = req.method) ∧
        req.scheme ∈ spec.schemes ∧ ∀ c ∈ standing spec.conditions, c.holds regexMatch req = true := by
    intro path
    have huri : (pathMatch spec path).uri =
        if path ≠ [slash] then some (.prefixOf path) else none := (foldl_patchCondition_frame ..).1
    refine (pathMatch_matches hre hspec path (pathMatch spec path).uri).trans ?_
    rw [huri, hroot]
  rw [List.any_eq_true]
  constructor
  · rintro ⟨m, hm, hmatch⟩
    obtain ⟨path, hpath, hm⟩ := List.mem_flatMap.mp hm
    rcases List.mem_cons.mp hm with rfl | hm
    · obtain ⟨hp, hmethod, hscheme, hconds⟩ := (hplain path).mp hmatch
      exact ⟨⟨path, hpath, hp⟩, hmethod, hscheme, hconds⟩
    · -- what begins with the path and a slash begins with the path
      split at hm
      · rw [List.mem_singleton.mp hm, pathMatch_matches hre hspec] at hmatch
        obtain ⟨hp, hmethod, hscheme, hconds⟩ := hmatch
        simp only [Option.all_some, StringMatch.matches, List.isPrefixOf_iff_prefix] at hp
        exact ⟨⟨path, hpath, (List.prefix_append path _).trans hp⟩, hmethod, hscheme, hconds⟩
      · exact absurd hm List.not_mem_nil
  · rintro ⟨⟨path, hpath, hp⟩, hmethod, hscheme, hconds⟩
    exact ⟨pathMatch spec path, List.mem_flatMap.mpr ⟨path, hpath, List.mem_cons_self⟩,
      (hplain path).mpr ⟨hp, hmethod, hscheme, hconds⟩⟩

end Spec

/-! ## 5. Every condition -/

/-- A request with a path, a method and the scheme of the route that meets the standing conditions
    meets the overridden ones. -/
def MeetsOverridden (regexMatch : Str → Str → Bool) (spec : HttpRouteSpec) (req : GatewayRequest) : Prop :=
  Admits regexMatch spec (standing spec.conditions) req →
    ∀ c ∈ overridden spec.conditions, c.holds regexMatch req = true

/-- **Every condition of a route is enforced**, where the overridden ones hold. -/
theorem enforced_iff (hre : ReadsMethods regexMatch) (route : CrdHttpRoute) (req : GatewayRequest) :
    ((buildMatches route.toHttpRoute).any (fun m => m.matches regexMatch req) = true ↔
        Admits regexMatch route.spec route.spec.conditions req) ↔
      MeetsOverridden regexMatch route.spec req := by
  have hmatch : (buildMatches route.toHttpRoute).any (fun m => m.matches regexMatch req) = true ↔ _ :=
    matches_iff_admits hre route.markers route.ns route.name
  rw [hmatch]
  constructor
  · intro h hstand c hc
    exact (h.mp hstand).conditions c (mem_standing_or_overridden.mpr (Or.inr hc))
  · intro h
    refine ⟨fun hstand => ⟨hstand.path, hstand.method, hstand.scheme, fun c hc => ?_⟩, fun hall =>
      ⟨hall.path, hall.method, hall.scheme, fun c hc => ?_⟩⟩
    · rcases mem_standing_or_overridden.mp hc with hc | hc
      · exact hstand.conditions c hc
      · exact h hstand c hc
    · exact hall.conditions c (mem_standing_or_overridden.mpr (Or.inl hc))

/-- The expressions of method lists, and texts without operators. -/
def matchAlternatives (pattern text : Str) : Bool :=
  if (str "^(").isPrefixOf pattern then text ∈ (pattern.drop 2).dropLast.dropLast.splitOn pipe
  else pattern = text

theorem readsMethods_matchAlternatives : ReadsMethods matchAlternatives := by
  intro methods hne s
  have hwords : ∀ w ∈ methods.map HttpRouteMethod.value, pipe ∉ w := by
    intro w hw
    obtain ⟨m, _, rfl⟩ := List.mem_map.mp hw
    cases m <;> decide
  have hpattern : methodRegexp methods = str "^(" ++
      ([pipe].intercalate (methods.map HttpRouteMethod.value) ++ str ")$") := List.append_assoc ..
  have hinner : ∀ w : Str, (w ++ str ")$").dropLast.dropLast = w := by
    intro w
    rw [show str ")$" = [41] ++ [36] from by decide, ← List.append_assoc, List.dropLast_concat,
      List.dropLast_concat]
  have hdrop : ∀ w : Str, (str "^(" ++ w).drop 2 = w := fun w => rfl
  have hpre : (str "^(").isPrefixOf (methodRegexp methods) = true := by
    rw [hpattern]
    exact List.isPrefixOf_iff_prefix.mpr (List.prefix_append _ _)
  rw [matchAlternatives, if_pos hpre, hpattern, hdrop, hinner, decide_eq_true_eq,
    List.splitOn_intercalate pipe hwords (by simpa using hne)]

/-- A spec with what the markers ask for, and no more. -/
def plainSpec (hosts paths : List Str) (conditions : List HttpRouteCondition)
    (stripPath httpRedirectToHttps : Bool) : HttpRouteSpec where
  hosts := hosts
  paths := paths
  methods := [.get, .post]
  schemes := [.http]
  stripPath := stripPath
  conditions := conditions
  destinations := [⟨str "web", 1⟩]
  httpRedirectToHttps := httpRedirectToHttps
  timeout := none
  retries := none
  mirror := none
  fault := none
  delay := none
  cors := none

theorem plainSpec_meetsMarkers {hosts paths : List Str} {conditions : List HttpRouteCondition}
    (stripPath httpRedirectToHttps : Bool) (hhosts : hosts ≠ []) (hpaths : paths ≠ [])
    (hconditions : ∀ c ∈ conditions, c.MeetsMarkers) :
    (plainSpec hosts paths conditions stripPath httpRedirectToHttps).MeetsMarkers where
  hosts := hhosts
  paths := hpaths
  methods := List.cons_ne_nil _ _
  schemes := List.cons_ne_nil _ _
  conditions := hconditions
  destinations := ⟨List.cons_ne_nil _ _, fun dest hdest => by
    rw [List.mem_singleton.mp hdest]
    exact ⟨by decide, by decide⟩⟩
  retries := fun _ h => by cases h
  mirror := fun _ h => by cases h
  fault := fun _ h => by cases h
  delay := fun _ h => by cases h
  cors := fun _ h => by cases h

theorem plainSpec_valid {ns : DnsLabel} {name : DnsSubdomain} {hosts paths : List Str}
    {conditions : List HttpRouteCondition} {stripPath httpRedirectToHttps : Bool}
    (hhosts : ∀ host ∈ hosts, isValidRouteHost host = true)
    (hpaths : ∀ path ∈ paths, isValidPath path = true) :
    (⟨ns, name, plainSpec hosts paths conditions stripPath httpRedirectToHttps⟩ : HttpRoute).validate =
      [] := by
  refine HttpRoute.validate_eq_nil.mpr ⟨hhosts, hpaths, fun dest hdest => ?_, fun _ h => ?_, fun _ h => ?_⟩
  · rw [List.mem_singleton.mp hdest]
    decide
  · cases h
  · cases h

/-- A route with the given conditions. -/
def conditionsRoute (conditions : List HttpRouteCondition) (h : ∀ c ∈ conditions, c.MeetsMarkers) :
    CrdHttpRoute where
  ns := ⟨str "shop", isDNS1123Label_shop⟩
  name := ⟨str "web", isDNS1123Subdomain_web⟩
  spec := plainSpec [str "shop.io"] [str "/"] conditions false false
  markers := plainSpec_meetsMarkers false false (List.cons_ne_nil _ _) (List.cons_ne_nil _ _) h

/-- The header `X-Env` is to be `a`. -/
def envIsA : HttpRouteCondition := ⟨.header, str "X-Env", str "a", .equal⟩

/-- The header `x-env` is to be `b`. -/
def envIsB : HttpRouteCondition := ⟨.header, str "x-env", str "b", .equal⟩

/-- Both. -/
def twoEnvs : CrdHttpRoute :=
  conditionsRoute [envIsA, envIsB] (List.forall_mem_cons.mpr ⟨by decide,
    List.forall_mem_singleton.mpr (by decide)⟩)

/-- A request with `X-Env: b`. -/
def envRequest : GatewayRequest :=
  ⟨str "GET", .http, str "/cart", [(str "X-Env", str "b")], [], by decide⟩

/-- The request meets the later condition and not the one it overrides: it is let in. -/
theorem enforced_twoEnvs :
    ¬ ((buildMatches twoEnvs.toHttpRoute).any (fun m => m.matches matchAlternatives envRequest) = true ↔
        Admits matchAlternatives twoEnvs.spec twoEnvs.spec.conditions envRequest) := by
  refine fun h => absurd ((enforced_iff readsMethods_matchAlternatives twoEnvs envRequest).mp h
    ⟨⟨str "/", List.mem_cons_self, ?_⟩, ⟨.get, List.mem_cons_self, rfl⟩, List.mem_cons_self, ?_⟩
    envIsA ?_) ?_
  all_goals decide

/-- **Not every condition is enforced.** -/
theorem enforced_fails :
    ¬ ∀ regexMatch, ReadsMethods regexMatch → ∀ (route : CrdHttpRoute) (req : GatewayRequest),
      (buildMatches route.toHttpRoute).any (fun m => m.matches regexMatch req) = true ↔
        Admits regexMatch route.spec route.spec.conditions req := by
  intro h
  have hin : (buildMatches twoEnvs.toHttpRoute).any
      (fun m => m.matches matchAlternatives envRequest) = true := by decide
  have hall := (h matchAlternatives readsMethods_matchAlternatives twoEnvs envRequest).mp hin
  have hfirst := hall.conditions envIsA List.mem_cons_self
  exact absurd hfirst (by decide)

end Kalm
