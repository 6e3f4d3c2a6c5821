/-
  File:      Kalm/Component/Spec.lean
  Subject:   COMPONENTS AS CONTROLLERS WRITE THEM: the spec of controller/api/v1alpha1/component_types.go, with the
             fields that a controller sets, and what its mutating webhook makes of it.

  * `ComponentSpec` -- the fields that no controller writes are one text;
  * `ComponentSpec.default` -- `Component.Default` of controller/api/v1alpha1/component_webhook.go.
-/
import Kalm.Component.Permission
import Kalm.Resources.Server

namespace Kalm.Components

open Permission (RunnerPermission)

/-! ## 1. Specs -/

/-- `Probe` with `HTTPGet`. -/
structure Probe where
  initialDelaySeconds : Nat
  periodSeconds : Nat
  successThreshold : Nat
  timeoutSeconds : Nat
  failureThreshold : Nat
  path : Str
  port : Nat
  deriving DecidableEq

/-- `Port`. -/
structure Port where
  containerPort : Nat
  servicePort : Nat
  protocol : Str
  deriving DecidableEq

/-- `EnvVar`. -/
structure EnvVar where
  name : Str
  value : Str
  type : Str
  deriving DecidableEq

/-- `PreInjectFile`. -/
structure PreInjectFile where
  mountPath : Str
  content : Str
  runnable : Bool
  deriving DecidableEq

/-- `Volume`. -/
structure Volume where
  type : VolumeType
  path : Str
  hostPath : Str
  pvc : Str
  size : Str
  storageClassName : Option Str
  deriving DecidableEq

/-- `WorkloadType`. -/
inductive Workload where
  | server
  | cronjob
  | daemonset
  | statefulset
  deriving DecidableEq

/-- `ComponentSpec`; `rest` are the fields that are not written here, as they stand. -/
structure ComponentSpec where
  annotations : List (Str × Str)
  image : Str
  workloadType : Option Workload
  replicas : Option Nat
  command : Str
  ports : List Port
  env : List EnvVar
  readinessProbe : Option Probe
  livenessProbe : Option Probe
  preInjectedFiles : List PreInjectFile
  volumes : List Volume
  runnerPermission : Option RunnerPermission
  terminationGracePeriodSeconds : Option Nat
  rest : Str
  deriving DecidableEq

/-- `Component`; `owner` is its controller. -/
structure Component where
  ns : Str
  name : Str
  owner : Option Str
  spec : ComponentSpec
  deriving DecidableEq

/-! ## 2. Defaults -/

/-- `Component.Default` on one volume; `genPVCName` is the name it draws. -/
def Volume.default (genPVCName : Str) (vol : Volume) : Volume :=
  match vol.type with
  | .hostPath =>
    if vol.hostPath ≠ [] ∧ vol.path = [] then { vol with path := vol.hostPath }
    else if vol.hostPath = [] ∧ vol.path ≠ [] then { vol with hostPath := vol.path }
    else vol
  | .persistentVolumeClaimTemplate | .persistentVolumeClaim =>
    if vol.pvc = [] then { vol with pvc := genPVCName } else vol
  | _ => vol

/-- `Component.Default`. -/
def ComponentSpec.default (genPVCName : Str) (spec : ComponentSpec) : ComponentSpec :=
  { spec with
    workloadType := some (spec.workloadType.getD .server)
    replicas := some (spec.replicas.getD 1)
    ports := spec.ports.map fun port =>
      if port.servicePort = 0 then { port with servicePort := port.containerPort } else port
    terminationGracePeriodSeconds := some (spec.terminationGracePeriodSeconds.getD 30)
    volumes := spec.volumes.map (Volume.default genPVCName) }

end Kalm.Components
