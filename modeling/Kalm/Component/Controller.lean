/-
  File:      Kalm/Component/Controller.lean
  Subject:   THE CONTROLLERS OF COMPONENTS AND NAMESPACES: `ComponentReconcilerTask.Run` of
             controller/controllers/component_controller.go and `KalmNSReconciler.Reconcile` of
             controller/controllers/kalm_ns_controller.go.

  * `loadResources` -- the services, the destination rule, and the workload of the current type only;
  * `reconcileService`, `reconcileWorkload` -- create, update or delete what was loaded;
  * `ComponentReconcilerTask.run` -- a reconcile of one component;
  * `KalmNSReconciler.reconcile` -- a label on the components wakes them when their namespace changes.

  What the pod template is made of, and what plugins make of a deployment, comes with a run: `Surroundings`.
-/
import Kalm.Lib.Objects
import Kalm.Resources.Server
import Kalm.Route.Envoy

namespace Kalm.Controller

open Objects (Schema State Versioned Task invoke find save deleteLoaded)

/-! ## 1. Components -/

/-- `WorkloadType`; the empty type is read as `server`. -/
inductive WorkloadType where
  | server
  | cronjob
  | daemonset
  | statefulset
  deriving DecidableEq

/-- `PortProtocol`. -/
inductive PortProtocol where
  | http
  | https
  | http2
  | grpc
  | grpcWeb
  | tcp
  | udp
  | unknown
  deriving DecidableEq

/-- The text of a protocol. -/
def PortProtocol.text : PortProtocol → Str
  | http => str "http"
  | https => str "https"
  | http2 => str "http2"
  | grpc => str "grpc"
  | grpcWeb => str "grpc-web"
  | tcp => str "tcp"
  | udp => str "udp"
  | unknown => str "unknown"

/-- `Port`. -/
structure Port where
  containerPort : Nat
  servicePort : Nat
  protocol : PortProtocol
  deriving DecidableEq

/-- `ComponentSpec`; `podFields` are the fields that only the pod template reads (the image, the volumes, ...). -/
structure ComponentSpec where
  labels : ObjectLabels
  annotations : ObjectLabels
  replicas : Option Int
  enableHeadlessService : Bool
  ports : List Port
  workloadType : WorkloadType
  schedule : Str
  restartStrategy : Str
  podFields : Doc
  deriving DecidableEq

/-- `metav1.OwnerReference`, without the UID: kind and name say whom it refers to. -/
structure OwnerReference where
  kind : Str
  name : Str
  controller : Bool
  deriving DecidableEq

/-- `Component`. -/
structure Component where
  ns : Str
  name : Str
  labels : ObjectLabels
  annotations : ObjectLabels
  ownerReferences : List OwnerReference
  deleting : Bool
  spec : ComponentSpec
  deriving DecidableEq

/-- `v1.Namespace`. -/
structure Namespace where
  name : Str
  labels : ObjectLabels
  deriving DecidableEq

/-- `ComponentPluginBinding`. -/
structure PluginBinding where
  ns : Str
  name : Str
  ownerReferences : List OwnerReference
  componentName : Str
  deriving DecidableEq

/-! ## 2. What the controller writes -/

/-- The metadata of an object; `controller` is the name of the component that owns it. -/
structure ObjectMeta where
  ns : Str
  name : Str
  labels : ObjectLabels
  annotations : ObjectLabels
  controller : Option Str
  deriving DecidableEq

/-- `ServicePort`; the protocol is UDP or TCP. -/
structure ServicePort where
  name : Str
  targetPort : Nat
  port : Nat
  udp : Bool
  deriving DecidableEq

/-- `v1.Service`. -/
structure Service where
  metadata : ObjectMeta
  selector : ObjectLabels
  clusterIP : Str
  ports : List ServicePort
  deriving DecidableEq

/-- `TrafficPolicy_PortTrafficPolicy`; its load balancer is always `LEAST_CONN`. -/
structure PortTrafficPolicy where
  port : Nat
  simpleTls : Bool
  deriving DecidableEq

/-- `v1alpha3.DestinationRule`. -/
structure DestinationRule where
  metadata : ObjectMeta
  host : Str
  portLevelSettings : List PortTrafficPolicy
  exportTo : List Str
  deriving DecidableEq

/-- `PodTemplateSpec`. -/
structure PodTemplate where
  labels : ObjectLabels
  restartPolicy : Str
  rest : Doc
  deriving DecidableEq

/-- `DeploymentSpec`. -/
structure DeploymentSpec where
  template : PodTemplate
  selector : ObjectLabels
  strategy : Str
  replicas : Option Int
  deriving DecidableEq

/-- `CronJobSpec`. -/
structure CronJobSpec where
  schedule : Str
  template : PodTemplate
  successfulJobsHistoryLimit : Nat
  failedJobsHistoryLimit : Nat
  deriving DecidableEq

/-- `DaemonSetSpec`. -/
structure DaemonSetSpec where
  template : PodTemplate
  selector : ObjectLabels
  deriving DecidableEq

/-- `StatefulSetSpec`. -/
structure StatefulSetSpec where
  template : PodTemplate
  selector : ObjectLabels
  volumeClaimTemplates : Doc
  serviceName : Str
  replicas : Option Int
  deriving DecidableEq

/-- The spec of the workload of a type. -/
@[reducible] def WorkloadSpec : WorkloadType → Type
  | .server => DeploymentSpec
  | .cronjob => CronJobSpec
  | .daemonset => DaemonSetSpec
  | .statefulset => StatefulSetSpec

instance : (t : WorkloadType) → DecidableEq (WorkloadSpec t)
  | .server => inferInstanceAs (DecidableEq DeploymentSpec)
  | .cronjob => inferInstanceAs (DecidableEq CronJobSpec)
  | .daemonset => inferInstanceAs (DecidableEq DaemonSetSpec)
  | .statefulset => inferInstanceAs (DecidableEq StatefulSetSpec)

/-- A deployment, a cron job, a daemon set or a stateful set. -/
structure Workload (t : WorkloadType) where
  metadata : ObjectMeta
  spec : WorkloadSpec t
  deriving DecidableEq

/-- `HttpsCertIssuerSpec`. -/
inductive HttpsCertIssuerSpec where
  | caForTest
  | http01 (email : Str)
  | other (spec : Doc)
  deriving DecidableEq

/-- `HttpsCertIssuer`. -/
structure HttpsCertIssuer where
  name : Str
  spec : HttpsCertIssuerSpec
  deriving DecidableEq

/-- `HttpsCert`. -/
structure HttpsCert where
  name : Str
  isSelfManaged : Bool
  selfManagedCertSecretName : Str
  httpsCertIssuer : Str
  domains : List Str
  deriving DecidableEq

/-! ## 3. The API server of the controllers -/

/-- The kinds of objects. -/
inductive Kind where
  | ns
  | component
  | pluginBinding
  | service
  | destinationRule
  | workload (type : WorkloadType)
  | httpsCertIssuer
  | httpsCert
  deriving DecidableEq

namespace Kind

/-- The objects of a kind. -/
@[reducible] def Obj : Kind → Type
  | ns => Namespace
  | component => Component
  | pluginBinding => PluginBinding
  | service => Service
  | destinationRule => DestinationRule
  | workload t => Workload t
  | httpsCertIssuer => HttpsCertIssuer
  | httpsCert => HttpsCert

/-- Namespace and name; the namespace is empty where the kind has none. -/
def key : (k : Kind) → k.Obj → Str × Str
  | ns, nspace => ([], nspace.name)
  | component, c => (c.ns, c.name)
  | pluginBinding, binding => (binding.ns, binding.name)
  | service, s => (s.metadata.ns, s.metadata.name)
  | destinationRule, rule => (rule.metadata.ns, rule.metadata.name)
  | workload _, w => (w.metadata.ns, w.metadata.name)
  | httpsCertIssuer, issuer => ([], issuer.name)
  | httpsCert, cert => ([], cert.name)

/-- The names the API server takes. -/
def valid : (k : Kind) → k.Obj → Bool
  | ns, nspace => isDNS1123Label nspace.name
  | service, s => isDNS1035Label s.metadata.name
  | workload .cronjob, w => isDNS1123Subdomain w.metadata.name && w.metadata.name.length ≤ 52
  | k, obj => isDNS1123Subdomain (k.key obj).2

/-- The component that owns an object. -/
def controller : (k : Kind) → k.Obj → Option Str
  | service, s => s.metadata.controller
  | destinationRule, rule => rule.metadata.controller
  | workload _, w => w.metadata.controller
  | _, _ => none

instance : (k : Kind) → DecidableEq k.Obj
  | ns => inferInstanceAs (DecidableEq Namespace)
  | component => inferInstanceAs (DecidableEq Component)
  | pluginBinding => inferInstanceAs (DecidableEq PluginBinding)
  | service => inferInstanceAs (DecidableEq Service)
  | destinationRule => inferInstanceAs (DecidableEq DestinationRule)
  | workload t => inferInstanceAs (DecidableEq (Workload t))
  | httpsCertIssuer => inferInstanceAs (DecidableEq HttpsCertIssuer)
  | httpsCert => inferInstanceAs (DecidableEq HttpsCert)

end Kind

/-- The API server of the controllers. -/
@[reducible] def schema : Schema where
  Kind := Kind
  Key := Str × Str
  Obj := Kind.Obj
  key := fun {k} obj => k.key obj
  valid := fun {k} obj => k.valid obj

/-- What the controllers find stored. -/
abbrev Cluster := State schema

/-- An object as it is stored. -/
abbrev Stored (k : Kind) := Versioned schema k

/-- A program of a controller. -/
abbrev ControllerTask := Task schema

/-- A call of a controller. -/
abbrev call (c : Objects.Call schema) : ControllerTask c.Reply := invoke c

/-- What a step that can fail without a call gives. -/
def orFail {α : Type} : Option α → ControllerTask α
  | some a => pure a
  | none => .fail .invalid

/-! ## 4. Labels and names -/

/-- `KalmEnableLabelName`. -/
def kalmEnableLabelName : Str := str "kalm-enabled"

/-- `IsNamespaceKalmEnabled`. -/
def isNamespaceKalmEnabled (nspace : Namespace) : Bool :=
  nspace.labels.lookup kalmEnableLabelName = some (str "true")

/-- `GetLabels`: the labels of the spec win. -/
def Component.getLabels (c : Component) : ObjectLabels :=
  c.spec.labels ∪ (((∅ : ObjectLabels).insert (str "kalm-namespace") c.ns).insert (str "kalm-component")
    c.name).insert (str "kalm-managed") (str "true")

/-- `getNameForHeadlessService`. -/
def getNameForHeadlessService (componentName : Str) : Str := componentName ++ str "-headless"

/-- The key of a component, its service, its destination rule and its workload. -/
def Component.key (c : Component) : Str × Str := (c.ns, c.name)

/-- The key of its headless service. -/
def Component.headlessKey (c : Component) : Str × Str := (c.ns, getNameForHeadlessService c.name)

/-- The component has a headless service when it has ports. -/
def ComponentSpec.asksForHeadless (spec : ComponentSpec) : Bool :=
  spec.enableHeadlessService || spec.workloadType = .statefulset

/-- The metadata of a new object of the component, with `SetControllerReference`. -/
def Component.newMeta (c : Component) (name : Str) (labels annotations : ObjectLabels) : ObjectMeta where
  ns := c.ns
  name := name
  labels := labels
  annotations := annotations
  controller := some c.name

/-- `SetControllerReference` on a stored object; an error where another component owns it. -/
def Component.setControllerReference (c : Component) (metadata : ObjectMeta) : Option ObjectMeta :=
  match metadata.controller with
  | none => some { metadata with controller := some c.name }
  | some owner => if owner = c.name then some metadata else none

/-! ## 5. `ReconcileService` -/

/-- The port of the service: the container's where none is given. -/
def Port.number (port : Port) : Nat :=
  if port.servicePort = 0 then port.containerPort else port.servicePort

/-- The ports of the services. -/
def Component.servicePorts (c : Component) : List ServicePort :=
  c.spec.ports.map fun port => {
    name := port.protocol.text ++ dash :: itoa port.number
    targetPort := port.containerPort
    port := port.number
    udp := port.protocol = .udp }

/-- The service of the component. -/
def Component.newService (c : Component) : Service where
  metadata := c.newMeta c.name c.getLabels ∅
  selector := c.getLabels
  clusterIP := []
  ports := c.servicePorts

/-- Its headless service. -/
def Component.newHeadlessService (c : Component) : Service where
  metadata := c.newMeta (getNameForHeadlessService c.name) c.getLabels ∅
  selector := c.getLabels
  clusterIP := str "None"
  ports := c.servicePorts

/-- A stored service gets the ports. -/
def Service.withPorts (ports : List ServicePort) (s : Service) : Service := { s with ports := ports }

/-- Its destination rule. -/
def Component.newDestinationRule (c : Component) : DestinationRule where
  metadata := c.newMeta c.name ∅ ∅
  host := c.name ++ dot :: c.ns ++ str ".svc.cluster.local"
  portLevelSettings := c.spec.ports.map fun port => {
    port := port.number
    simpleTls := port.protocol = .https }
  exportTo := [str "*"]

/-- A stored destination rule gets the spec. The merge patch of the source has no version; what it patches was
    read in the same run. -/
def DestinationRule.withSpec (rule new : DestinationRule) : DestinationRule :=
  { new with metadata := rule.metadata }

/-- `LoadService`. -/
def loadService (c : Component) : ControllerTask (Option (Stored .service) × Option (Stored .service)) := do
  let service ← find (S := schema) .service c.key
  let headlessService ← find (S := schema) .service c.headlessKey
  pure (service, headlessService)

/-- The headless service in the task before it is loaded again. -/
def Component.heldHeadless (c : Component) (headlessService : Option (Stored .service)) : Option Service :=
  if c.spec.asksForHeadless then
    some ((headlessService.map fun v => Service.withPorts c.servicePorts v.obj).getD c.newHeadlessService)
  else headlessService.map fun v => v.obj

/-- `ReconcileService`; it returns the headless service it leaves in the task. -/
def reconcileService (c : Component) (enabled : Bool) (service headlessService : Option (Stored .service))
    (rule : Option (Stored .destinationRule)) : ControllerTask (Option Service) :=
  if enabled = false then do
    deleteLoaded (S := schema) .service service
    pure (headlessService.map fun v => v.obj)
  else if c.spec.ports ≠ [] then do
    save (S := schema) .service service c.newService (Service.withPorts c.servicePorts)
    if c.spec.asksForHeadless then
      save (S := schema) .service headlessService c.newHeadlessService (Service.withPorts c.servicePorts)
    save (S := schema) .destinationRule rule c.newDestinationRule fun stored => stored.withSpec c.newDestinationRule
    let (_, reloaded) ← loadService c
    pure ((reloaded.map fun v => v.obj).or (c.heldHeadless headlessService))
  else do
    deleteLoaded (S := schema) .service service
    deleteLoaded (S := schema) .service headlessService
    deleteLoaded (S := schema) .destinationRule rule
    let (_, reloaded) ← loadService c
    pure ((reloaded.or headlessService).map fun v => v.obj)

/-! ## 6. `ReconcileWorkload` -/

/-- What a run reads beside the stored objects: the pod template that `GetPodTemplateWithoutVols` and the
    preparation of the volumes make, with the claims of a stateful set, and what the plugins make of the spec of
    a deployment; `none` where there is an error. -/
structure Surroundings where
  podTemplate : Component → Option (PodTemplate × Doc)
  beforeDeploymentSave : DeploymentSpec → Option DeploymentSpec

/-- `AnnoLastUpdatedByWebhook`. -/
def annoLastUpdatedByWebhook : Str := str "last-updated-by-webhook"

/-- The annotations of a component's deployment, from the ones it has: `last-updated-by-webhook` is inherited. -/
def Component.inheritAnnotation (c : Component) (annotations : ObjectLabels) : ObjectLabels :=
  match c.annotations.lookup annoLastUpdatedByWebhook with
  | some v => annotations.insert annoLastUpdatedByWebhook v
  | none => annotations

/-- The fields of a deployment that are set in any case. -/
def DeploymentSpec.withComponent (spec : DeploymentSpec) (c : Component) : DeploymentSpec :=
  { spec with
    strategy := if c.spec.restartStrategy = [] then str "RollingUpdate" else c.spec.restartStrategy
    replicas := c.spec.replicas }

/-- The deployment of a component. -/
def Component.newDeployment (c : Component) (template : PodTemplate) : Workload .server where
  metadata := c.newMeta c.name template.labels (c.inheritAnnotation c.spec.annotations)
  spec := DeploymentSpec.withComponent
    { template := template, selector := template.labels, strategy := [], replicas := none } c

/-- A stored deployment gets the template; `none` where another component owns it. -/
def Workload.withDeployment (w : Workload .server) (c : Component) (template : PodTemplate) :
    Option (Workload .server) :=
  (c.setControllerReference { w.metadata with annotations := c.inheritAnnotation w.metadata.annotations }).map
    fun metadata => {
      metadata := metadata
      spec := DeploymentSpec.withComponent { (w.spec : DeploymentSpec) with template := template } c }

/-- The plugins run on the spec of a deployment. -/
def Workload.runPlugins (w : Workload .server) (around : Surroundings) : Option (Workload .server) :=
  (around.beforeDeploymentSave w.spec).map fun spec => { w with spec := spec }

/-- `ReconcileDeployment`. A stored object without annotations has no map to write to: the inherited one panics. -/
def reconcileDeployment (around : Surroundings) (c : Component) (template : PodTemplate)
    (loaded : Option (Stored (.workload .server))) : ControllerTask Unit :=
  match loaded with
  | none => do
    let deployment ← orFail ((c.newDeployment template).runPlugins around)
    call (.create (.workload .server) deployment)
  | some v =>
    if (c.annotations.lookup annoLastUpdatedByWebhook).isSome ∧ (Workload.metadata v.obj).annotations = ∅ then
      .crash
    else do
      let owned ← orFail (Workload.withDeployment v.obj c template)
      let deployment ← orFail (owned.runPlugins around)
      call (.update (.workload .server) ⟨deployment, v.version⟩)

/-- The spec of a cron job. -/
def Component.cronJobSpec (c : Component) (template : PodTemplate) : CronJobSpec where
  schedule := c.spec.schedule
  template :=
    if template.restartPolicy = str "Always" ∨ template.restartPolicy = [] then
      { template with restartPolicy := str "OnFailure" }
    else template
  successfulJobsHistoryLimit := 3
  failedJobsHistoryLimit := 5

/-- `ReconcileCronJob`. -/
def reconcileCronJob (c : Component) (template : PodTemplate)
    (loaded : Option (Stored (.workload .cronjob))) : ControllerTask Unit :=
  save (S := schema) (.workload .cronjob) loaded
    { metadata := c.newMeta c.name c.getLabels c.spec.annotations, spec := c.cronJobSpec template }
    fun w => { metadata := w.metadata, spec := c.cronJobSpec template }

/-- `ReconcileDaemonSet`. -/
def reconcileDaemonSet (c : Component) (template : PodTemplate)
    (loaded : Option (Stored (.workload .daemonset))) : ControllerTask Unit :=
  save (S := schema) (.workload .daemonset) loaded
    { metadata := c.newMeta c.name c.getLabels c.spec.annotations
      spec := ({ template := template, selector := c.getLabels } : DaemonSetSpec) }
    fun w => { metadata := w.metadata, spec := { (w.spec : DaemonSetSpec) with template := template } }

/-- `ReconcileStatefulSet`. -/
def reconcileStatefulSet (c : Component) (headlessService : Option Service) (template : PodTemplate)
    (volumeClaimTemplates : Doc) (loaded : Option (Stored (.workload .statefulset))) : ControllerTask Unit :=
  save (S := schema) (.workload .statefulset) loaded
    { metadata := c.newMeta c.name c.getLabels c.spec.annotations
      spec := ({
        template := template
        selector := c.getLabels
        volumeClaimTemplates := volumeClaimTemplates
        serviceName := (headlessService.map fun s => s.metadata.name).getD []
        replicas := c.spec.replicas } : StatefulSetSpec) }
    fun w => {
      metadata := w.metadata
      spec := { (w.spec : StatefulSetSpec) with
        template := template
        replicas := c.spec.replicas.or w.spec.replicas } }

/-- The reconciler of the workload of a type. -/
def reconcileWorkloadOf (around : Surroundings) (c : Component) (headlessService : Option Service)
    (template : PodTemplate) (volumeClaimTemplates : Doc) :
    (t : WorkloadType) → Option (Stored (.workload t)) → ControllerTask Unit
  | .server => reconcileDeployment around c template
  | .cronjob => reconcileCronJob c template
  | .daemonset => reconcileDaemonSet c template
  | .statefulset => reconcileStatefulSet c headlessService template volumeClaimTemplates

/-- `ReconcileWorkload`. -/
def reconcileWorkload (around : Surroundings) (c : Component) (enabled : Bool) (headlessService : Option Service)
    (loaded : Option (Stored (.workload c.spec.workloadType))) : ControllerTask Unit :=
  if enabled = false then deleteLoaded (S := schema) (.workload c.spec.workloadType) loaded
  else do
    let (template, volumeClaimTemplates) ← orFail (around.podTemplate c)
    reconcileWorkloadOf around c headlessService template volumeClaimTemplates c.spec.workloadType loaded

/-! ## 7. `Run` -/

/-- `SetupAttributes`; `none` where the component or its namespace is not found, which `Run` ignores. -/
def setupAttributes (key : Str × Str) : ControllerTask (Option (Component × Namespace)) := do
  match ← find (S := schema) .component key with
  | none => pure none
  | some c =>
    match ← find (S := schema) .ns ([], Component.ns c.obj) with
    | none => pure none
    | some nspace => pure (some (c.obj, nspace.obj))

/-- `LoadComponentPluginBinding`. -/
def loadComponentPluginBinding (c : Component) : ControllerTask (List PluginBinding) := do
  let bindings ← call (.list .pluginBinding)
  pure ((bindings.map fun v => v.obj).filter fun binding => PluginBinding.ns binding = c.ns)

/-- `referSameObject`. -/
def OwnerReference.sameObject (a b : OwnerReference) : Bool := a.kind = b.kind ∧ a.name = b.name

/-- A reference takes the place of the last one to the same object, or is appended. -/
def upsertOwner (ref : OwnerReference) : List OwnerReference → List OwnerReference
  | [] => [ref]
  | r :: rest =>
    if r.sameObject ref ∧ rest.all (fun r' => !r'.sameObject ref) then ref :: rest else r :: upsertOwner ref rest

/-- `SetControllerReference` of controller-runtime on the references of an object; `none` where another one is its
    controller. -/
def setOwner (ref : OwnerReference) (refs : List OwnerReference) : Option (List OwnerReference) :=
  if refs.any fun r => r.controller && !r.sameObject ref then none else some (upsertOwner ref refs)

/-- The reference to a binding as a controller. -/
def PluginBinding.controllerRef (binding : PluginBinding) : OwnerReference where
  kind := str "ComponentPluginBinding"
  name := binding.name
  controller := true

/-- `ReconcileComponentPluginBinding`: the loop makes each binding the controller of the component in memory. -/
def reconcileComponentPluginBinding (refs : List OwnerReference) (bindings : List PluginBinding) :
    Option (List OwnerReference) :=
  bindings.foldlM (fun refs binding => setOwner binding.controllerRef refs) refs

/-- `Run` behind `SetupAttributes`. -/
def ComponentReconcilerTask.reconcile (around : Surroundings) (c : Component) (enabled : Bool) :
    ControllerTask Unit := do
  let (service, headlessService) ← loadService c
  let bindings ← loadComponentPluginBinding c
  let rule ← find (S := schema) .destinationRule c.key
  let workload ← find (S := schema) (.workload c.spec.workloadType) c.key
  if c.deleting then pure ()
  else do
    let headlessService ← reconcileService c enabled service headlessService rule
    let _ ← orFail (reconcileComponentPluginBinding c.ownerReferences bindings)
    reconcileWorkload around c enabled headlessService workload

/-- `ComponentReconcilerTask.Run`. -/
def ComponentReconcilerTask.run (around : Surroundings) (key : Str × Str) : ControllerTask Unit := do
  match ← setupAttributes key with
  | none => pure ()
  | some (c, nspace) => ComponentReconcilerTask.reconcile around c (isNamespaceKalmEnabled nspace)

/-! ## 8. `KalmNSReconciler` -/

/-- The label that wakes a component. -/
def labelNSUpdatedAt : Str := str "kalm-namespace-updated-at"

/-- The suffix of the label. -/
def wakeSuffix (isActive : Bool) : Str := if isActive then str "enabled" else str "disabled"

/-- The label has the suffix already. -/
def Component.hasWakeSuffix (c : Component) (isActive : Bool) : Bool :=
  (wakeSuffix isActive).isSuffixOf ((c.labels.lookup labelNSUpdatedAt).getD [])

/-- The component with a new label. -/
def Component.woken (c : Component) (now : Nat) (isActive : Bool) : Component :=
  { c with labels := c.labels.insert labelNSUpdatedAt (itoa now ++ dash :: wakeSuffix isActive) }

/-- The loop over the components of a namespace. -/
def wakeComponents (now : Nat) (isActive : Bool) : List (Stored .component) → ControllerTask Unit
  | [] => pure ()
  | v :: rest =>
    if Component.hasWakeSuffix v.obj isActive then wakeComponents now isActive rest
    else do
      call (.update .component ⟨Component.woken v.obj now isActive, v.version⟩)
      wakeComponents now isActive rest

/-- `IstioInjectionLabelName` and `IstioInjectionLabelEnableValue`. -/
def istioInjectionLabel : Str × Str := (str "istio-injection", str "enabled")

/-- The namespace with the label for Istio. -/
def Namespace.withIstio (nspace : Namespace) : Namespace :=
  { nspace with labels := nspace.labels.insert istioInjectionLabel.1 istioInjectionLabel.2 }

/-- The label for Istio is set where it is missing. -/
def labelForIstio (v : Stored .ns) : ControllerTask Unit :=
  if (Namespace.labels v.obj).lookup istioInjectionLabel.1 = some istioInjectionLabel.2 then pure ()
  else call (.update .ns ⟨Namespace.withIstio v.obj, v.version⟩)

/-- The loop over the namespaces that have the label `kalm-enabled`. -/
def wakeNamespaces (now : Nat) : List (Stored .ns) → ControllerTask Unit
  | [] => pure ()
  | v :: rest => do
    labelForIstio v
    let components ← call (.list .component)
    wakeComponents now (isNamespaceKalmEnabled v.obj)
      (components.filter fun w => Component.ns w.obj = Namespace.name v.obj)
    wakeNamespaces now rest

/-- `reconcileDefaultCAIssuerAndCert`. -/
def reconcileDefaultCAIssuerAndCert : ControllerTask Unit := do
  let issuer ← find (S := schema) .httpsCertIssuer ([], str "default-cert-issuer")
  save (S := schema) .httpsCertIssuer issuer ⟨str "default-cert-issuer", .caForTest⟩
    fun stored => { stored with spec := .caForTest }
  let cert ← find (S := schema) .httpsCert ([], str "default-https-cert")
  save (S := schema) .httpsCert cert ⟨str "default-https-cert", false, [], str "default-cert-issuer", [str "*"]⟩
    fun stored => ⟨stored.name, false, [], str "default-cert-issuer", [str "*"]⟩

/-- `reconcileDefaultHTTP01Issuer`. -/
def reconcileDefaultHTTP01Issuer : ControllerTask Unit := do
  let issuer ← find (S := schema) .httpsCertIssuer ([], str "default-http01-issuer")
  save (S := schema) .httpsCertIssuer issuer ⟨str "default-http01-issuer", .http01 []⟩
    fun stored => { stored with spec := .http01 [] }

/-- `KalmNSReconciler.Reconcile`, at the second `now`. -/
def KalmNSReconciler.reconcile (now : Nat) : ControllerTask Unit := do
  let namespaces ← call (.list .ns)
  wakeNamespaces now
    (namespaces.filter fun v => ((Namespace.labels v.obj).lookup kalmEnableLabelName).isSome)
  reconcileDefaultCAIssuerAndCert
  reconcileDefaultHTTP01Issuer

end Kalm.Controller
