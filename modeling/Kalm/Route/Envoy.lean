/-
  File:      Kalm/Route/Envoy.lean
  Subject:   ENVOY FILTERS: the parts of `v1alpha3.EnvoyFilter` that the controllers set, and the filter
             that redirects a route to HTTPS.

  * `ProtoValue` -- the values of a patch (`golangMapToProtoStruct`);
  * `buildHttpsRedirectEnvoyFilter` -- the filter of a route; only the name of the route is in it;
  * `EnvoyFilter.redirects` -- the filter redirects the requests of an Istio route on port 80.
-/
import Mathlib.Data.Finmap
import Kalm.Route.Istio

namespace Kalm

/-! ## 1. Values -/

mutual

/-- `types.Value`. -/
inductive ProtoValue where
  | bool (b : Bool)
  | string (s : Str)
  | list (values : ProtoValues)
  | struct (fields : ProtoFields)
  deriving DecidableEq

/-- The values of a list. -/
inductive ProtoValues where
  | nil
  | cons (value : ProtoValue) (rest : ProtoValues)
  deriving DecidableEq

/-- The fields of a `types.Struct`. -/
inductive ProtoFields where
  | nil
  | cons (name : Str) (value : ProtoValue) (rest : ProtoFields)
  deriving DecidableEq

end

/-- `golangMapToProtoStruct`. -/
def golangMapToProtoStruct (val : List (Str × ProtoValue)) : ProtoFields :=
  val.foldr (fun field rest => .cons field.1 field.2 rest) .nil

/-- A map as a value. -/
def protoMap (val : List (Str × ProtoValue)) : ProtoValue := .struct (golangMapToProtoStruct val)

/-- A list as a value. -/
def protoList (values : List ProtoValue) : ProtoValue :=
  .list (values.foldr (fun value rest => .cons value rest) .nil)

/-- The field with a name. -/
def ProtoFields.get (name : Str) : ProtoFields → Option ProtoValue
  | .nil => none
  | .cons n value rest => if n = name then some value else rest.get name

/-- The field with a name of a struct. -/
def ProtoValue.get (name : Str) : ProtoValue → Option ProtoValue
  | .struct fields => fields.get name
  | _ => none

/-- The elements of a list. -/
def ProtoValues.toList : ProtoValues → List ProtoValue
  | .nil => []
  | .cons value rest => value :: rest.toList

/-- The elements of a list value. -/
def ProtoValue.elements : ProtoValue → List ProtoValue
  | .list values => values.toList
  | _ => []

/-! ## 2. Filters -/

/-- `EnvoyFilter_ApplyTo`. -/
inductive EnvoyApplyTo where
  | httpFilter
  | httpRoute
  deriving DecidableEq

/-- `EnvoyFilter_PatchContext`. -/
inductive EnvoyPatchContext where
  | gateway
  | sidecarInbound
  deriving DecidableEq

/-- The `ObjectTypes` of a match: a route configuration with the name of a route of its virtual host, or a
    listener with the names of its filter and sub filter. -/
inductive EnvoyObjectTypes where
  | routeConfiguration (portNumber : Nat) (route : Option Str)
  | listener (portNumber : Nat) (filter subFilter : Str)
  deriving DecidableEq

/-- `EnvoyFilter_Patch_Operation`. -/
inductive EnvoyPatchOperation where
  | merge
  | insertBefore
  deriving DecidableEq

/-- `EnvoyFilter_EnvoyConfigObjectPatch`. -/
structure EnvoyConfigObjectPatch where
  applyTo : EnvoyApplyTo
  context : EnvoyPatchContext
  objectTypes : EnvoyObjectTypes
  operation : EnvoyPatchOperation
  value : ProtoFields
  deriving DecidableEq

/-- The labels of an object. -/
abbrev ObjectLabels := Finmap fun _ : Str => Str

/-- `v1alpha3.EnvoyFilter`. -/
structure EnvoyFilter where
  ns : Str
  name : Str
  labels : ObjectLabels
  workloadSelector : ObjectLabels
  configPatches : List EnvoyConfigObjectPatch
  deriving DecidableEq

/-! ## 3. The redirect to HTTPS -/

/-- `istioNamespace`. -/
def istioNamespace : Str := str "istio-system"

/-- `KALM_ROUTE_LABEL`. -/
def kalmRouteLabel : Str := str "kalm-route"

/-- The selector `client.MatchingLabels{KALM_ROUTE_LABEL: "true"}`. -/
def hasRouteLabel (labels : ObjectLabels) : Bool := labels.lookup kalmRouteLabel = some (str "true")

/-- `getHttpsRedirectEnvoyFilterName`. -/
def getHttpsRedirectEnvoyFilterName (route : HttpRoute) : Str := str "https-redirect-" ++ route.name.val

/-- `buildHttpsRedirectEnvoyFilter`. -/
def buildHttpsRedirectEnvoyFilter (route : HttpRoute) : EnvoyFilter where
  ns := istioNamespace
  name := getHttpsRedirectEnvoyFilterName route
  labels := Finmap.singleton kalmRouteLabel (str "true")
  workloadSelector := Finmap.singleton (str "app") (str "istio-ingressgateway")
  configPatches := [
    { applyTo := .httpRoute
      context := .gateway
      objectTypes := .routeConfiguration 80 (some (getIstioHttpRouteName route))
      operation := .merge
      value := golangMapToProtoStruct [
        (str "match", protoMap [(str "prefix", .string (str "/"))]),
        (str "redirect", protoMap [(str "https_redirect", .bool true)])] }]

/-- The patch redirects the requests of an Istio route on port 80 to HTTPS. -/
def EnvoyConfigObjectPatch.redirects (p : EnvoyConfigObjectPatch) (ruleName : Str) : Bool :=
  p.applyTo = .httpRoute && p.context = .gateway &&
    p.objectTypes = .routeConfiguration 80 (some ruleName) && p.operation = .merge &&
    (p.value.get (str "redirect")).any fun redirect =>
      redirect.get (str "https_redirect") = some (.bool true)

/-- The filter redirects the requests of an Istio route on port 80 to HTTPS. -/
def EnvoyFilter.redirects (f : EnvoyFilter) (ruleName : Str) : Bool :=
  f.configPatches.any fun p => p.redirects ruleName

theorem hasRouteLabel_redirectFilter (route : HttpRoute) :
    hasRouteLabel (buildHttpsRedirectEnvoyFilter route).labels = true :=
  decide_eq_true Finmap.lookup_singleton_eq

/-- The names of the rules are those of the routes. -/
theorem getIstioHttpRouteName_inj {a b : HttpRoute} :
    getIstioHttpRouteName a = getIstioHttpRouteName b ↔ a.name.val = b.name.val :=
  List.append_right_inj _

theorem getHttpsRedirectEnvoyFilterName_inj {a b : HttpRoute} :
    getHttpsRedirectEnvoyFilterName a = getHttpsRedirectEnvoyFilterName b ↔ a.name.val = b.name.val :=
  List.append_right_inj _

/-- **The filter of a route redirects the routes of its name**, and no others. -/
theorem redirects_iff (a b : HttpRoute) :
    (buildHttpsRedirectEnvoyFilter a).redirects (getIstioHttpRouteName b) = true ↔
      a.name.val = b.name.val := by
  rw [← getIstioHttpRouteName_inj]
  have hvalue : ((golangMapToProtoStruct [
      (str "match", protoMap [(str "prefix", .string (str "/"))]),
      (str "redirect", protoMap [(str "https_redirect", .bool true)])]).get (str "redirect")).any
        (fun redirect => redirect.get (str "https_redirect") = some (.bool true)) = true := by decide
  simp only [EnvoyFilter.redirects, buildHttpsRedirectEnvoyFilter, EnvoyConfigObjectPatch.redirects,
    List.any_cons, List.any_nil, Bool.or_false, hvalue, Bool.and_true, decide_true, Bool.true_and,
    decide_eq_true_eq, EnvoyObjectTypes.routeConfiguration.injEq, true_and, Option.some_inj]

end Kalm
