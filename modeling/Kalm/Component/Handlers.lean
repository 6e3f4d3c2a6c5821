/-
  File:      Kalm/Component/Handlers.lean
  Subject:   SAVING A COMPONENT: `createComponent` and `updateComponent` of api/handler/components.go
             with what they write beside the component, its protected endpoint (api/resources/sso.go)
             and its plugin bindings (api/resources/component_plugin_binding.go).

  * `checkPermissionOnVolume` -- the client may edit the namespace a disk is taken from; made by
    `createComponent` alone;
  * `updateProtectedEndpointForComponent` -- delete, create or apply;
  * `updateComponentPluginBindingsForObject` -- create what is requested and not listed, delete what
    is listed and not requested; the list is over all namespaces;
  * `Chance` -- what a run does not control: the seed of admission and the orders of ranges over maps.
-/
import Kalm.Resources.Server
import Kalm.Rbac.Client

namespace Kalm

open MergePatch (Json)
open Calls (Action Fault)

/-! ## 1. The request -/

/-- `resources.ComponentPluginBinding`: what `json.Unmarshal` leaves of a plugin of the body. -/
structure ComponentPluginBinding where
  name : Str
  config : Option Doc
  isActive : Bool
  deriving DecidableEq

/-- `resources.Component`. `componentSpec` is `none` when no key of the body names one of its
    fields. -/
structure ResourcesComponent where
  name : Str
  plugins : List ComponentPluginBinding
  componentSpec : Option Doc
  protectedEndpointSpec : Option Doc

/-- A request to save a component; `body` is what `Bind` makes of the body, `none` for an error. -/
structure ComponentRequest where
  policies : PolicySet
  client : ClientInfo
  applicationName : Str
  nameParam : Str
  body : Option ResourcesComponent

/-- `v1alpha1.ComponentPluginBindingSpec` -/
structure ComponentPluginBindingSpec where
  componentName : Str
  pluginName : Str
  config : Option Doc
  isDisabled : Bool
  deriving DecidableEq

/-- The JSON of a binding's spec. -/
def ComponentPluginBindingSpec.doc (spec : ComponentPluginBindingSpec) : Doc :=
  .ofFields {str "componentName", str "pluginName", str "config", str "isDisabled"} fun k =>
    if k = str "componentName" then
      if spec.componentName = [] then none else some (Doc.text spec.componentName)
    else if k = str "pluginName" then some (Doc.text spec.pluginName)
    else if k = str "config" then spec.config
    else some (.leaf (.raw (if spec.isDisabled then str "true" else str "false")))

/-- What a run does not control: the seed of admission, and the orders in which it ranges over the
    maps of bindings. -/
structure Chance where
  seed : Seed
  createOrder : List (Str × Doc) → List (Str × Doc)
  createOrder_perm : ∀ l, (createOrder l).Perm l
  deleteOrder : List Str → List Str
  deleteOrder_perm : ∀ l, (deleteOrder l).Perm l

/-! ## 2. The parts of a save -/

section Client

variable (P : PolicySet) (client : ClientInfo)

/-- `CanEditNamespace`, or `NoNamespaceEditorRoleError`. -/
def requireNamespaceEditor (ns : Str) : Request Unit :=
  match canEditNamespace P client ns with
  | none => .crash
  | some true => pure ()
  | some false => .fail (.noNamespaceEditorRole ns)

/-- `GetBoundingPVC` -/
def getBoundingPVC (pv : PersistentVolume) : Request (Option NamespacedName) :=
  match pv.claimRef with
  | none => pure none
  | some ref => do
    let pvcs ← Action.invoke ApiCall.listPVCs
    pure (pvcs.find? fun pvc => pvc.2 = ref.2 ∧ pvc.1 = ref.1)

/-- `checkPermissionOnVolume` -/
def checkPermissionOnVolume : List Volume → Request Unit
  | [] => pure ()
  | vol :: vols =>
    if vol.type ≠ .persistentVolumeClaim then checkPermissionOnVolume vols
    else if vol.pvToMatch = [] then checkPermissionOnVolume vols
    else do
      match ← Action.tryCall (ApiCall.getPV vol.pvToMatch) with
      | .error .notFound => checkPermissionOnVolume vols
      | .error e => .fail e
      | .ok pv =>
        match ← getBoundingPVC pv with
        | none => checkPermissionOnVolume vols
        | some boundingPVC => do
          requireNamespaceEditor P client boundingPVC.1
          checkPermissionOnVolume vols

end Client

/-- `getProtectedEndpointCRDNameFromEndpointName` -/
def protectedEndpointCRDName (endpointName : Str) : Str := str "component-" ++ endpointName

/-- The spec of a component's endpoint: its name and its type are the component's. -/
def componentEndpointSpec (componentName : Str) (spec : Doc) : Doc :=
  (spec.setField (str "name") (Doc.text componentName)).setField (str "type")
    (Doc.text (str "Component"))

/-- `UpdateProtectedEndpointForComponent` -/
def updateProtectedEndpointForComponent (getFillsKind : Bool) (ns name : Str) :
    Option Doc → Request Unit
  | none => do
    match ← Action.tryCall (ApiCall.delete .protectedEndpoint (ns, protectedEndpointCRDName name)) with
    | .error .notFound => pure ()
    | .error e => .fail e
    | .ok _ => pure ()
  | some spec => do
    match ← Action.tryCall (ApiCall.get .protectedEndpoint (ns, protectedEndpointCRDName name)) with
    | .error .notFound => do
      let _ ← createObject .protectedEndpoint (ns, protectedEndpointCRDName name)
        (setSpec (componentEndpointSpec name spec) emptyDoc)
      pure ()
    | .error e => .fail e
    | .ok _ =>
      apply getFillsKind .protectedEndpoint (ns, protectedEndpointCRDName name)
        (componentEndpointSpec name spec)

/-- `[A-Za-z0-9]` -/
def isAlnum (b : UInt8) : Bool := (65 ≤ b && b ≤ 90) || isLowerAlnum b

/-- `IsValidLabelValue`: empty, or at most 63 bytes `[-A-Za-z0-9_.]` with an alphanumeric at both
    ends. -/
def isValidLabelValue (s : Str) : Bool :=
  s = [] || (s.head?.any isAlnum && s.getLast?.any isAlnum &&
    s.all (fun b => isAlnum b || b == dash || b == 95 || b == dot) && s.length ≤ 63)

/-- The label of a component's bindings. -/
def kalmComponent : Str := str "kalm-component"

section Bindings

-- the MD5 sum of the JSON of a spec
variable (md5 : ComponentPluginBindingSpec → List UInt8)

/-- `GetName` -/
def ComponentPluginBindingSpec.getName (spec : ComponentPluginBindingSpec) : Str :=
  if spec.componentName = [] then spec.pluginName ++ [dash] ++ hexEncode (md5 spec)
  else spec.pluginName ++ [dash] ++ spec.componentName ++ [dash] ++ hexEncode (md5 spec)

/-- The spec of the binding of a plugin. -/
def bindingSpec (componentName : Str) (plugin : ComponentPluginBinding) : ComponentPluginBindingSpec :=
  ⟨componentName, plugin.name, plugin.config, !plugin.isActive⟩

/-- An object with the label of a component's bindings. -/
def labelledDoc (componentName : Str) : Doc :=
  emptyDoc.setField (str "metadata")
    (emptyDoc.setField (str "labels") (emptyDoc.setField kalmComponent (Doc.text componentName)))

/-- `newPlugins`: the requested bindings under their names. -/
def newPlugins (componentName : Str) (plugins : List ComponentPluginBinding) : Mirror.Table Str Doc :=
  plugins.foldl (fun table plugin =>
    table.insert ((bindingSpec componentName plugin).getName md5)
      (setSpec (bindingSpec componentName plugin).doc (labelledDoc componentName))) ∅

/-- The loop over `shouldCreate`. -/
def createBindings (ns : Str) : List (Str × Doc) → Request Unit
  | [] => pure ()
  | (name, np) :: shouldCreate => do
    match ← Action.tryCall (ApiCall.create .componentPluginBinding (ns, name) np) with
    | .error .alreadyExists => createBindings ns shouldCreate
    | .error e => .fail e
    | .ok _ => createBindings ns shouldCreate

/-- The loop over `shouldDelete`. -/
def deleteBindings (ns : Str) : List Str → Request Unit
  | [] => pure ()
  | name :: shouldDelete => do
    deleteObject .componentPluginBinding (ns, name)
    deleteBindings ns shouldDelete

/-- The new plugins that are not among the old ones. -/
def shouldCreate (new : Mirror.Table Str Doc) (old : List Str) : List (Str × Doc) :=
  (new.entries.map fun e => (e.1, e.2)).filter fun e => e.1 ∉ old

/-- The old plugins that are not among the new ones; a map has each name once. -/
def shouldDelete (new : Mirror.Table Str Doc) (old : List Str) : List Str :=
  old.dedup.filter fun name => name ∉ new

/-- `UpdateComponentPluginBindingsForObject`: an invalid label value makes a nil requirement, which
    is dereferenced. -/
def updateComponentPluginBindingsForObject (x : Chance) (ns componentName : Str)
    (plugins : List ComponentPluginBinding) : Request Unit :=
  if isValidLabelValue componentName then do
    let oldPluginList ← Action.invoke (ApiCall.list .componentPluginBinding kalmComponent componentName)
    let old := oldPluginList.map fun e => e.1.2
    createBindings ns (x.createOrder (shouldCreate (newPlugins md5 componentName plugins) old))
    deleteBindings ns (x.deleteOrder (shouldDelete (newPlugins md5 componentName plugins) old))
  else .crash

/-! ## 3. The handlers -/

/-- `getResourcesComponentFromContext` -/
def getResourcesComponentFromContext (req : ComponentRequest) : Request ResourcesComponent :=
  match req.body with
  | none => .fail .badRequest
  | some component => pure component

/-- The name of the component: the parameter of the path, or the one of the body. -/
def ComponentRequest.componentName (req : ComponentRequest) (component : ResourcesComponent) : Str :=
  if req.nameParam = [] then component.name else req.nameParam

/-- `getCrdComponentFromResourcesComponentAndContext`: the spec, a pointer, is dereferenced. -/
def getCrdComponent (component : ResourcesComponent) : Request Doc :=
  match component.componentSpec with
  | none => .crash
  | some spec => pure spec

variable (getFillsKind : Bool) (x : Chance) (req : ComponentRequest)

/-- What both handlers write behind the component. -/
def saveRest (name : Str) (component : ResourcesComponent) : Request Unit := do
  updateProtectedEndpointForComponent getFillsKind req.applicationName name
    component.protectedEndpointSpec
  updateComponentPluginBindingsForObject md5 x req.applicationName name component.plugins

/-- `createComponent` -/
def createComponent : Request Doc := do
  requireNamespaceEditor req.policies req.client req.applicationName
  let component ← getResourcesComponentFromContext req
  let spec ← getCrdComponent component
  checkPermissionOnVolume req.policies req.client (volumesOf spec)
  let crdComponent ← createObject .component (req.applicationName, req.componentName component)
    (setSpec spec emptyDoc)
  saveRest md5 getFillsKind x req (req.componentName component) component
  pure crdComponent

/-- `updateComponent` -/
def updateComponent : Request Doc := do
  let component ← getResourcesComponentFromContext req
  let spec ← getCrdComponent component
  requireNamespaceEditor req.policies req.client req.applicationName
  apply true .component (req.applicationName, req.componentName component) spec
  saveRest md5 getFillsKind x req (req.componentName component) component
  pure (setSpec spec emptyDoc)

/-- The two handlers. -/
inductive SaveOp where
  | create
  | update
  deriving DecidableEq

/-- The handler of a request. -/
def saveComponent : SaveOp → Request Doc
  | .create => createComponent md5 getFillsKind x req
  | .update => updateComponent md5 getFillsKind x req

end Bindings

/-- The key of the component of a request. -/
def ComponentRequest.key (req : ComponentRequest) (component : ResourcesComponent) : NamespacedName :=
  (req.applicationName, req.componentName component)

/-- A save with the faults its calls meet. -/
def runSave (srv : ApiServer) (md5 : ComponentPluginBindingSpec → List UInt8) (op : SaveOp)
    (req : ComponentRequest) (x : Chance) (faults : List Fault) (s : Cluster) :
    Calls.Outcome ApiError Doc × Cluster :=
  Calls.run (srv.answer x.seed) .unavailable (saveComponent md5 srv.getFillsKind x req op) faults s

/-- Maps in their own order. -/
def plainChance : Chance where
  seed := 0
  createOrder l := l
  createOrder_perm := List.Perm.refl
  deleteOrder l := l
  deleteOrder_perm := List.Perm.refl

end Kalm
