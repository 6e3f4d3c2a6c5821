/-
  File:      Kalm/Route/Objects.lean
  Subject:   HTTP ROUTES: the type of controller/api/v1alpha1/httproute_types.go, the resource the API
             serves (api/resources/route.go), and the validating webhook.

  * `HttpRouteSpec` -- the whole spec; the enums of the markers are inductive types;
  * `HttpRoute.validate` -- with the texts and paths of its errors;
  * `AcceptedHttpRoute` -- a route that carries its validation;
  * `host_cases` -- an accepted destination host is a DNS subdomain, or one with a colon and a port.
-/
import Kalm.Go.Parse
import Kalm.Rbac.Objects

namespace Kalm

/-! ## 1. The spec -/

/-- `HttpRouteConditionType`. -/
inductive HttpRouteConditionType where
  | query
  | header
  deriving DecidableEq

/-- `HttpRouteConditionOperator`. -/
inductive HttpRouteConditionOperator where
  | equal
  | withPrefix
  | matchRegexp
  deriving DecidableEq

/-- `HttpRouteCondition`. -/
structure HttpRouteCondition where
  type : HttpRouteConditionType
  name : Str
  value : Str
  operator : HttpRouteConditionOperator
  deriving DecidableEq

/-- `HttpRouteMethod` and `AllowMethod`. -/
inductive HttpRouteMethod where
  | get
  | head
  | post
  | put
  | patch
  | delete
  | options
  | trace
  | connect
  deriving DecidableEq

/-- The string of a method. -/
def HttpRouteMethod.value : HttpRouteMethod → Str
  | .get => str "GET"
  | .head => str "HEAD"
  | .post => str "POST"
  | .put => str "PUT"
  | .patch => str "PATCH"
  | .delete => str "DELETE"
  | .options => str "OPTIONS"
  | .trace => str "TRACE"
  | .connect => str "CONNECT"

/-- `HttpRouteScheme`. -/
inductive HttpRouteScheme where
  | http
  | https
  deriving DecidableEq

/-- `HttpRouteDestination`. -/
structure HttpRouteDestination where
  host : Str
  weight : Int
  deriving DecidableEq

/-- `HttpRouteRetries`. -/
structure HttpRouteRetries where
  attempts : Int
  perTtyTimeoutSeconds : Int
  retryOn : List Str
  deriving DecidableEq

/-- `HttpRouteMirror`. -/
structure HttpRouteMirror where
  percentage : Int
  destination : HttpRouteDestination
  deriving DecidableEq

/-- `HttpRouteDelay`. -/
structure HttpRouteDelay where
  percentage : Int
  delaySeconds : Int
  deriving DecidableEq

/-- `HttpRouteFault`. -/
structure HttpRouteFault where
  percentage : Int
  errorStatus : Int
  deriving DecidableEq

/-- `HttpRouteCORS`. -/
structure HttpRouteCORS where
  allowOrigins : List HttpRouteCondition
  allowMethods : List HttpRouteMethod
  allowCredentials : Bool
  allowHeaders : List Str
  maxAgeSeconds : Int
  deriving DecidableEq

/-- `HttpRouteSpec`. -/
structure HttpRouteSpec where
  hosts : List Str
  paths : List Str
  methods : List HttpRouteMethod
  schemes : List HttpRouteScheme
  stripPath : Bool
  conditions : List HttpRouteCondition
  destinations : List HttpRouteDestination
  httpRedirectToHttps : Bool
  timeout : Option Int
  retries : Option HttpRouteRetries
  mirror : Option HttpRouteMirror
  fault : Option HttpRouteFault
  delay : Option HttpRouteDelay
  cors : Option HttpRouteCORS
  deriving DecidableEq

/-- `v1alpha1.HttpRoute`. -/
structure HttpRoute where
  ns : DnsLabel
  name : DnsSubdomain
  spec : HttpRouteSpec
  deriving DecidableEq

/-- `resources.HttpRoute`: the body of a request, where the embedded spec is a pointer. -/
structure HttpRouteResource where
  spec : Option HttpRouteSpec
  name : Str
  ns : Str
  deriving DecidableEq

/-- `BuildHttpRouteFromResource`. -/
def buildHttpRouteFromResource (route : HttpRoute) : HttpRouteResource where
  spec := some route.spec
  name := route.name.val
  ns := route.ns.val

/-! ## 2. Hosts -/

/-- `isValidK8sHost`. -/
def isValidK8sHost (host : Str) : Bool := isDNS1123Subdomain host

/-- `isValidIP`. -/
def isValidIP (ip : Str) : Bool := parseIP ip

/-- `[a-z0-9]+(-[a-z0-9]+)*` -/
def isDomainLabel (s : Str) : Bool :=
  (s.splitOn dash).all fun piece => piece ≠ [] && piece.all isLowerAlnum

/-- `isValidDomain`: `^([a-z0-9]+(-[a-z0-9]+)*\.)+[a-z]{2,}$`. -/
def isValidDomain (s : Str) : Bool :=
  let labels := s.splitOn dot
  2 ≤ labels.length && labels.dropLast.all isDomainLabel &&
    labels.getLast?.any fun tld => 2 ≤ tld.length && tld.all fun b => 97 ≤ b && b ≤ 122

/-- `isValidWildcardDomain`. -/
def isValidWildcardDomain (s : Str) : Bool :=
  if s = [star] then true
  else
    let parts := s.splitOn dot
    if parts.length < 3 then false
    else parts.head? = some [star] && isValidDomain ([dot].intercalate (parts.drop 1))

/-- `isValidPath`. -/
def isValidPath (s : Str) : Bool := [slash].isPrefixOf s

/-- `stripIfHasPort`. -/
def stripIfHasPort (host : Str) : Str :=
  match host.splitOn colon with
  | [name, portStr] =>
    match atoi portStr with
    | some port => if 0 < port ∧ port ≤ 65535 then name else host
    | none => host
  | _ => host

/-- `isValidDestinationHost`. -/
def isValidDestinationHost (host : Str) : Bool := isValidK8sHost (stripIfHasPort host)

/-- `isValidRouteHost`. -/
def isValidRouteHost (host : Str) : Bool :=
  isValidK8sHost host || isValidIP host || isValidDomain host || isValidWildcardDomain host

/-! ## 3. The webhook -/

/-- `HttpRoute.validate`. -/
def HttpRoute.validate (r : HttpRoute) : List KalmValidateError :=
  (r.spec.hosts.zipIdx.flatMap fun (host, i) =>
    reportIf (isValidRouteHost host = false)
      { err := str "invalid route host:" ++ host
        path := str "spec.hosts[" ++ itoa i ++ str "]" }) ++
  (r.spec.paths.zipIdx.flatMap fun (path, i) =>
    reportIf (isValidPath path = false)
      { err := str "invalid path, should start with: /"
        path := str "spec.paths[" ++ itoa i ++ str "]" }) ++
  (r.spec.destinations.zipIdx.flatMap fun (dest, i) =>
    reportIf (isValidDestinationHost dest.host = false)
      { err := str "invalid destination host:" ++ dest.host
        path := str "spec.destinations[" ++ itoa i ++ str "].host" }) ++
  (r.spec.timeout.toList.flatMap fun timeout =>
    reportIf (timeout ≤ 0)
      { err := str "should be positive"
        path := str "spec.timeout" }) ++
  (r.spec.mirror.toList.flatMap fun mirror =>
    reportIf (isValidDestinationHost mirror.destination.host = false)
      { err := str "invalid mirror destination host:" ++ mirror.destination.host
        path := str "spec.mirror.destination.host" })

/-- A route the webhook accepts. -/
structure AcceptedHttpRoute extends HttpRoute where
  valid : toHttpRoute.validate = []

/-- Checks along a list leave no error when each finds none. -/
theorem flatMap_zipIdx_reportIf_eq_nil {α : Type} {l : List α} {p : α → Prop} [DecidablePred p]
    {e : α × Nat → KalmValidateError} :
    (l.zipIdx.flatMap fun x => reportIf (p x.1) (e x)) = [] ↔ ∀ a ∈ l, ¬ p a := by
  rw [List.flatMap_eq_nil_iff]
  simp only [reportIf_eq_nil]
  constructor
  · intro h a ha
    obtain ⟨i, hi, rfl⟩ := List.getElem_of_mem ha
    exact h (l[i], i) (List.mk_mem_zipIdx_iff_getElem?.mpr (List.getElem?_eq_getElem hi))
  · rintro h ⟨a, i⟩ hm
    exact h a (List.mem_of_getElem? (List.mk_mem_zipIdx_iff_getElem?.mp hm))

/-- **What the webhook accepts.** -/
theorem HttpRoute.validate_eq_nil {r : HttpRoute} :
    r.validate = [] ↔
      (∀ host ∈ r.spec.hosts, isValidRouteHost host = true) ∧
      (∀ path ∈ r.spec.paths, isValidPath path = true) ∧
      (∀ dest ∈ r.spec.destinations, isValidDestinationHost dest.host = true) ∧
      (∀ timeout ∈ r.spec.timeout, 0 < timeout) ∧
      ∀ mirror ∈ r.spec.mirror, isValidDestinationHost mirror.destination.host = true := by
  unfold validate
  simp only [List.append_eq_nil_iff, and_assoc]
  rw [flatMap_zipIdx_reportIf_eq_nil (p := fun host => isValidRouteHost host = false),
    flatMap_zipIdx_reportIf_eq_nil (p := fun path => isValidPath path = false),
    flatMap_zipIdx_reportIf_eq_nil
      (p := fun dest : HttpRouteDestination => isValidDestinationHost dest.host = false)]
  simp only [List.flatMap_eq_nil_iff, reportIf_eq_nil, Option.mem_toList, Bool.not_eq_false, not_le,
    Option.mem_def]

/-! ## 4. Accepted destination hosts -/

/-- A label has no dot and no colon. -/
theorem not_mem_label {s : Str} (h : isLabelText s = true) : dot ∉ s ∧ colon ∉ s :=
  ⟨fun hm => absurd (all_of_isLabelText h _ hm) (by decide),
    fun hm => absurd (all_of_isLabelText h _ hm) (by decide)⟩

theorem colon_not_mem_subdomain {s : Str} (h : isDNS1123Subdomain s = true) : colon ∉ s := by
  intro hm
  rcases (DnsSubdomain.mk s h).bytes colon hm with hb | hb
  · exact absurd hb (by decide)
  · exact absurd hb (by decide)

/-- The labels of a subdomain. -/
theorem labels_of_subdomain {s : Str} (h : isDNS1123Subdomain s = true) :
    ∀ label ∈ s.splitOn dot, isLabelText label = true := by
  unfold isDNS1123Subdomain at h
  exact List.all_eq_true.mp (Bool.and_eq_true_iff.mp h).1

/-- A port of a destination. -/
def IsPort (port : Str) : Prop := ∃ n, atoi port = some n ∧ 0 < n ∧ n ≤ 65535

theorem IsPort.not_mem {port : Str} (h : IsPort port) : dot ∉ port ∧ colon ∉ port := by
  obtain ⟨n, hn, _⟩ := h
  exact ⟨not_mem_of_atoi hn (by decide), not_mem_of_atoi hn (by decide)⟩

/-- **An accepted host is a DNS subdomain, or a DNS subdomain, a colon and a port.** -/
theorem host_cases {host : Str} (h : isValidDestinationHost host = true) :
    (stripIfHasPort host = host ∧ colon ∉ host) ∨
      ∃ port, IsPort port ∧ host = stripIfHasPort host ++ colon :: port := by
  have hsub : isDNS1123Subdomain (stripIfHasPort host) = true := h
  have hcolon := colon_not_mem_subdomain hsub
  have hself : stripIfHasPort host = host → stripIfHasPort host = host ∧ colon ∉ host :=
    fun e => ⟨e, e ▸ hcolon⟩
  have hjoin : [colon].intercalate (host.splitOn colon) = host :=
    List.intercalate_splitOn colon
  rcases hparts : host.splitOn colon with _ | ⟨name, _ | ⟨portStr, _ | ⟨more, rest⟩⟩⟩
  · exact absurd hparts (List.splitOn_ne_nil _ _)
  · exact Or.inl (hself (by simp [stripIfHasPort, hparts]))
  · cases hport : atoi portStr with
    | none => exact Or.inl (hself (by simp [stripIfHasPort, hparts, hport]))
    | some n =>
        by_cases hn : 0 < n ∧ n ≤ 65535
        · refine Or.inr ⟨portStr, ⟨n, hport, hn⟩, ?_⟩
          have hs : stripIfHasPort host = name := by simp [stripIfHasPort, hparts, hport, hn]
          rw [hs, ← hjoin, hparts]
          simp
        · exact Or.inl (hself (by simp [stripIfHasPort, hparts, hport, hn]))
  · exact Or.inl (hself (by simp [stripIfHasPort, hparts]))

end Kalm
