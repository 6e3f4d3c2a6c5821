/-
  File:      Kalm/Route/Istio.lean
  Subject:   FROM A ROUTE TO THE ISTIO ROUTE: `buildIstioHttpRoute` and `toHttpRouteDestination` of
             controller/controllers/http_route_controller.go.

  * `toHttpRouteDestination` -- splits a host at the last colon and appends the route's namespace to
    a name without dots;
  * `buildIstioHttpRoute` -- destinations, headers, rewrite, timeout, retries, mirror, faults, CORS;
  * `HTTPRoute.backends` -- every host the Istio route sends traffic to;
  * `backends_namespaces` -- their namespaces, read off the hosts of an accepted route.

  Weights are computed with the division exact, where the source divides floating point numbers; what a machine makes
  of a quotient that no `int32` holds is a parameter.
-/
import Kalm.Route.Objects

namespace Kalm

/-! ## 1. Istio's types -/

/-- `networking.v1beta1.Destination`. -/
structure Destination where
  host : Str
  port : Option Nat
  deriving DecidableEq

/-- `HTTPRouteDestination`. -/
structure HTTPRouteDestination where
  destination : Destination
  weight : Int
  deriving DecidableEq

/-- `Headers_HeaderOperations`. -/
structure HeaderOperations where
  remove : List Str
  set : List (Str × Str)
  deriving DecidableEq

/-- `HTTPRetry`. -/
structure HTTPRetry where
  attempts : Int
  perTryTimeout : Int
  retryOn : Str
  deriving DecidableEq

/-- `StringMatch`. -/
inductive StringMatch where
  | exact (value : Str)
  | prefixOf (value : Str)
  | regex (value : Str)
  deriving DecidableEq

/-- `HTTPFaultInjection_Abort`. -/
structure FaultAbort where
  httpStatus : Int
  percentage : Int
  deriving DecidableEq

/-- `HTTPFaultInjection_Delay`. -/
structure FaultDelay where
  percentage : Int
  fixedDelay : Int
  deriving DecidableEq

/-- `HTTPFaultInjection`. -/
structure HTTPFaultInjection where
  abort : Option FaultAbort
  delay : Option FaultDelay
  deriving DecidableEq

/-- `CorsPolicy`. -/
structure CorsPolicy where
  allowOrigins : List StringMatch
  allowMethods : List Str
  allowHeaders : List Str
  maxAge : Int
  deriving DecidableEq

/-- `HTTPRoute`, its match apart. -/
structure HTTPRoute where
  name : Str
  route : List HTTPRouteDestination
  requestHeaders : HeaderOperations
  rewriteUri : Option Str
  timeout : Option Int
  retries : Option HTTPRetry
  mirror : Option Destination
  mirrorPercentage : Option Int
  fault : Option HTTPFaultInjection
  corsPolicy : Option CorsPolicy
  deriving DecidableEq

/-! ## 2. Destinations -/

/-- `fmt.Sprintf("%s.%s.svc.cluster.local", host, namespace)`. -/
def serviceHost (host ns : Str) : Str :=
  host ++ [dot] ++ ns ++ str ".svc.cluster.local"

/-- `toHttpRouteDestination`. -/
def toHttpRouteDestination (destination : HttpRouteDestination) (weight : Int) (ns : Str) :
    HTTPRouteDestination :=
  let (host, port) :=
    match lastIndexByte destination.host colon with
    | none => (destination.host, [])
    | some i => (destination.host.take i, destination.host.drop (i + 1))
  let host := if dot ∈ host then host else serviceHost host ns
  { destination :=
      { host := host
        port := if port ≠ [] then some (parseUint0 port 32) else none }
    weight := weight }

/-- `int32(n)`, and a sum of numbers of type `int`. -/
def int32 (n : Int) : Int := Int.bmod n (2 ^ 32)

def int64 (n : Int) : Int := Int.bmod n (2 ^ 64)

/-- What `math.Floor` returns: a whole number, or what it was given where a division by zero left none. -/
inductive Floored where
  | whole (n : Int)
  | infinite
  | nan
  deriving DecidableEq

/-- `math.Floor(float64(weight)/float64(weightSum)*100 + 0.5)`. -/
def roundPercent (weight weightSum : Int) : Floored :=
  if weightSum = 0 then if weight = 0 then .nan else .infinite
  else .whole (Int.fdiv (200 * weight + weightSum) (2 * weightSum))

/-- A machine's `int32` of a floating point number. The language fixes it for the whole numbers an `int32` can hold,
    and leaves the result for the others to the machine. -/
structure Int32Conversion where
  convert : Floored → Int
  range (x : Floored) : -2 ^ 31 ≤ convert x ∧ convert x < 2 ^ 31
  whole {n : Int} (h : -2 ^ 31 ≤ n) (h' : n < 2 ^ 31) : convert (.whole n) = n

/-- The machine the controller is built for: what is out of range becomes the least `int32`. -/
def amd64 : Int32Conversion where
  convert
    | .whole n => if -2 ^ 31 ≤ n ∧ n < 2 ^ 31 then n else -2 ^ 31
    | _ => -2 ^ 31
  range x := by
    split
    · split <;> omega
    · omega
  whole h h' := if_pos ⟨h, h'⟩

/-- The loop of `adjustBiggestWeight`: the first index of the largest weight. -/
def biggestIndex (rst : List Int) : Nat :=
  (List.range rst.length).foldl (fun maxIdx i => if rst.getD i 0 ≤ rst.getD maxIdx 0 then maxIdx else i) 0

/-- `adjustBiggestWeight`. -/
def adjustBiggestWeight (rst : List Int) (diff : Int) : List Int :=
  rst.modify (biggestIndex rst) (fun w => int32 (w + diff))

/-- `adjustWeightToSumTo100`. -/
def adjustWeightToSumTo100 (machine : Int32Conversion) (originWeights : List Int) : List Int :=
  let weightSum := int64 originWeights.sum
  let rst := originWeights.map fun w => machine.convert (roundPercent w weightSum)
  let total := int32 rst.sum
  if total ≠ 100 then adjustBiggestWeight rst (int32 (100 - total)) else rst

/-- `BuildDestinations`. -/
def buildDestinations (route : HttpRoute) : List HTTPRouteDestination :=
  route.spec.destinations.zipWith (fun destination weight =>
      toHttpRouteDestination destination weight route.ns.val)
    (adjustWeightToSumTo100 amd64 (route.spec.destinations.map (·.weight)))

/-! ## 3. The route -/

/-- `KALM_ROUTE_HEADER`. -/
def kalmRouteHeader : Str := str "kalm-route"

/-- `DANGEROUS_HEADERS`. -/
def dangerousHeaders : List Str :=
  [str "kalm-sso-userinfo", str "allow-to-pass-if-has-bearer-token", kalmRouteHeader,
    str "kalm-set-cookie"]

/-- `getIstioHttpRouteName`. -/
def getIstioHttpRouteName (route : HttpRoute) : Str := str "kalm-route-" ++ route.name.val

/-- `conditionToStringMatch`. -/
def conditionToStringMatch (condition : HttpRouteCondition) : StringMatch :=
  match condition.operator with
  | .equal => .exact condition.value
  | .withPrefix => .prefixOf condition.value
  | .matchRegexp => .regex condition.value

/-- The `Fault` of the route: absent unless the spec has a fault or a delay. -/
def buildFault (spec : HttpRouteSpec) : Option HTTPFaultInjection :=
  if spec.fault = none ∧ spec.delay = none then none
  else some
    { abort := spec.fault.map fun fault => ⟨int32 fault.errorStatus, fault.percentage⟩
      delay := spec.delay.map fun delay => ⟨delay.percentage, delay.delaySeconds⟩ }

/-- `buildIstioHttpRoute`. -/
def buildIstioHttpRoute (route : HttpRoute) : HTTPRoute where
  name := getIstioHttpRouteName route
  route := buildDestinations route
  requestHeaders := { remove := dangerousHeaders, set := [(kalmRouteHeader, str "true")] }
  rewriteUri := if route.spec.stripPath then some (str "/") else none
  timeout := route.spec.timeout
  retries := route.spec.retries.map fun retries =>
    { attempts := int32 retries.attempts
      perTryTimeout := retries.perTtyTimeoutSeconds
      retryOn := [comma].intercalate retries.retryOn }
  mirror := route.spec.mirror.map fun mirror =>
    (toHttpRouteDestination mirror.destination 100 route.ns.val).destination
  mirrorPercentage := route.spec.mirror.map (·.percentage)
  fault := buildFault route.spec
  corsPolicy := route.spec.cors.map fun cors =>
    { allowOrigins := cors.allowOrigins.map conditionToStringMatch
      allowMethods := cors.allowMethods.map HttpRouteMethod.value
      allowHeaders := cors.allowHeaders
      maxAge := cors.maxAgeSeconds }

/-- The hosts the route sends traffic to: the weighted destinations and the mirror. -/
def HTTPRoute.backends (r : HTTPRoute) : List Str :=
  r.route.map (·.destination.host) ++ (r.mirror.map (·.host)).toList

/-- The namespace in the name of a service: its second label. -/
def serviceNamespace (host : Str) : Option Str := (host.splitOn dot)[1]?

/-! ## 4. The namespaces behind the hosts -/

theorem length_adjustWeightToSumTo100 (machine : Int32Conversion) (ws : List Int) :
    (adjustWeightToSumTo100 machine ws).length = ws.length := by
  unfold adjustWeightToSumTo100 adjustBiggestWeight
  simp only
  split <;> simp

/-- Every destination of the spec is a destination of the route. -/
theorem buildDestinations_hosts (route : HttpRoute) :
    (buildDestinations route).map (·.destination.host) =
      route.spec.destinations.map fun dest =>
        (toHttpRouteDestination dest 0 route.ns.val).destination.host := by
  have hlen := length_adjustWeightToSumTo100 amd64 (route.spec.destinations.map (·.weight))
  rw [List.length_map] at hlen
  unfold buildDestinations
  refine List.ext_getElem (by simp [hlen]) fun i h1 h2 => ?_
  simp only [List.getElem_map, List.getElem_zipWith]
  rfl

theorem lastIndexByte_none {s : Str} {c : UInt8} (h : c ∉ s) : lastIndexByte s c = none := by
  have hn : indexByte s.reverse c = none := by
    rw [indexByte, List.findIdx?_eq_none_iff]
    intro x hx
    exact beq_eq_false_iff_ne.mpr fun e => h (e ▸ List.mem_reverse.mp hx)
  rw [lastIndexByte, hn, Option.map_none]

theorem lastIndexByte_append {s t : Str} {c : UInt8} (h : c ∉ t) :
    lastIndexByte (s ++ c :: t) c = some s.length := by
  have hn : t.reverse.findIdx? (· == c) = none := by
    rw [List.findIdx?_eq_none_iff]
    intro x hx
    exact beq_eq_false_iff_ne.mpr fun e => h (e ▸ List.mem_reverse.mp hx)
  have hi : indexByte (s ++ c :: t).reverse c = some t.length := by
    rw [indexByte, List.reverse_append, List.reverse_cons, List.append_assoc, List.findIdx?_append,
      hn, List.singleton_append, List.findIdx?_cons]
    simp
  rw [lastIndexByte, hi, Option.map_some, List.length_append, List.length_cons]
  congr 1
  omega

/-- The namespace an accepted host stands for in a route of namespace `ns`. -/
def backendNamespace (ns host : Str) : Str :=
  match (stripIfHasPort host).splitOn dot with
  | _ :: second :: _ => second
  | _ => ns

/-- The host of the destination, its port dropped and completed. -/
theorem toHttpRouteDestination_host {dest : HttpRouteDestination}
    (h : isValidDestinationHost dest.host = true) (weight : Int) (ns : Str) :
    (toHttpRouteDestination dest weight ns).destination.host =
      if dot ∈ stripIfHasPort dest.host then stripIfHasPort dest.host
      else serviceHost (stripIfHasPort dest.host) ns := by
  unfold toHttpRouteDestination
  rcases host_cases h with ⟨e, hc⟩ | ⟨port, hp, e⟩
  · rw [lastIndexByte_none hc, e]
  · generalize stripIfHasPort dest.host = name at e
    rw [e, lastIndexByte_append hp.not_mem.2]
    simp only [List.take_left]

/-- **The translation resolves an accepted host to the namespace it stands for.** -/
theorem serviceNamespace_toHttpRouteDestination {dest : HttpRouteDestination}
    (h : isValidDestinationHost dest.host = true) (weight : Int) (ns : DnsLabel) :
    serviceNamespace (toHttpRouteDestination dest weight ns.val).destination.host =
      some (backendNamespace ns.val dest.host) := by
  have hlabels := labels_of_subdomain (s := stripIfHasPort dest.host) h
  rw [toHttpRouteDestination_host h, serviceNamespace, backendNamespace]
  rcases hs : (stripIfHasPort dest.host).splitOn dot with _ | ⟨first, _ | ⟨second, rest⟩⟩
  · exact absurd hs (List.splitOn_ne_nil _ _)
  · -- one label: the route's namespace is appended
    have hjoin : [dot].intercalate ((stripIfHasPort dest.host).splitOn dot) =
        stripIfHasPort dest.host := List.intercalate_splitOn dot
    rw [hs, List.intercalate_singleton] at hjoin
    have hfirst : dot ∉ first := (not_mem_label (hlabels first (by rw [hs]; simp))).1
    have hns : dot ∉ ns.val := (not_mem_label ns.text).1
    rw [← hjoin, if_neg hfirst]
    have hhost : serviceHost first ns.val =
        [dot].intercalate [first, ns.val, str "svc", str "cluster", str "local"] := by
      simp only [serviceHost, List.intercalate_cons_cons, List.intercalate_singleton,
        List.append_assoc]
      rfl
    rw [hhost, List.splitOn_intercalate dot ?_ (List.cons_ne_nil _ _)]
    · rfl
    · intro l hl
      simp only [List.mem_cons, List.not_mem_nil, or_false] at hl
      rcases hl with rfl | rfl | rfl | rfl | rfl
      · exact hfirst
      · exact hns
      all_goals decide
  · have hmem : dot ∈ stripIfHasPort dest.host := by
      by_contra hn
      rw [List.splitOn_eq_singleton hn] at hs
      simp at hs
    rw [if_pos hmem, hs]
    rfl

/-- **The namespaces of the backends of an accepted route.** -/
theorem backends_namespaces (r : AcceptedHttpRoute) :
    (buildIstioHttpRoute r.toHttpRoute).backends.map serviceNamespace =
      (r.spec.destinations.map fun dest => some (backendNamespace r.ns.val dest.host)) ++
        (r.spec.mirror.map fun mirror =>
          some (backendNamespace r.ns.val mirror.destination.host)).toList := by
  obtain ⟨-, -, hdest, -, hmirror⟩ := HttpRoute.validate_eq_nil.mp r.valid
  have hroute : (buildIstioHttpRoute r.toHttpRoute).route = buildDestinations r.toHttpRoute := rfl
  rw [HTTPRoute.backends, List.map_append, hroute, buildDestinations_hosts, List.map_map]
  congr 1
  · exact List.map_congr_left fun dest hd =>
      serviceNamespace_toHttpRouteDestination (hdest dest hd) 0 r.ns
  · unfold buildIstioHttpRoute
    cases hm : r.spec.mirror with
    | none => rfl
    | some mirror =>
        have hv := hmirror mirror hm
        simp only [Option.map_some, Option.toList_some, List.map_cons, List.map_nil]
        rw [serviceNamespace_toHttpRouteDestination hv 100 r.ns]

end Kalm
