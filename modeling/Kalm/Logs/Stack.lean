/-
  File:      Kalm/Logs/Stack.lean
  Subject:   THE LOG STACK: `LogSystemReconcilerTask` of controller/controllers/logsystem_controller.go has three
             components for a log system, loki, grafana and promtail.

  * `LogSystemSpec`, `default`, `validate` -- the spec and its webhook;
  * `specOf` -- the specs of the components; what admission says to one is a parameter, once it is defaulted;
  * `loadPLGMonolithicResources`, `reconcilePLGMonolithic`, `cleanResources`, `run` -- the reconcile;
  * `Loadable` -- the loader comes to every component there is;
  * `converges_iff` -- a reconcile returns exactly from such a state, with the components that are intended exactly
    where loki has a storage class of its own; a second one changes nothing; without a log system it deletes nothing.
-/
import Kalm.Component.Spec
import Kalm.Lib.Objects

namespace Kalm.Logs

open Components (Component ComponentSpec)
open Objects (Returns Schema State Task Versioned find invoke)

/-! ## 1. Specs -/

/-- `LokiConfig`. -/
structure LokiConfig where
  retentionDays : Nat
  diskSize : Option Str
  storageClass : Option Str
  image : Str
  deriving DecidableEq

/-- `GrafanaConfig`, `PromtailConfig`. -/
structure ImageConfig where
  image : Str
  deriving DecidableEq

/-- `PLGConfig`. -/
structure PLGConfig where
  loki : Option LokiConfig
  grafana : Option ImageConfig
  promtail : Option ImageConfig
  deriving DecidableEq

/-- `LogSystemSpec`. -/
structure LogSystemSpec where
  stack : Str
  plgConfig : Option PLGConfig
  storageClass : Option Str
  deriving DecidableEq

/-- `LogSystemStackPLGMonolithic`. -/
def plgMonolithic : Str := str "plg-monolithic"

/-- `LokiImage`. -/
def lokiImage : Str := str "grafana/loki:1.6.0"

/-- `GrafanaImage`. -/
def grafanaImage : Str := str "grafana/grafana:6.7.0"

/-- `PromtailImage`. -/
def promtailImage : Str := str "grafana/promtail:1.6.0"

/-- `DefaultLokiDiskSize`. -/
def defaultLokiDiskSize : Str := str "10Gi"

/-- A text, or the default where it is empty. -/
def orDefault (s default : Str) : Str := if s = [] then default else s

/-- What `Default` makes of the config of loki; `systemClass` is the storage class of the log system. -/
def LokiConfig.default (systemClass : Option Str) (c : LokiConfig) : LokiConfig where
  retentionDays := c.retentionDays
  diskSize := some (c.diskSize.getD defaultLokiDiskSize)
  storageClass := if c.storageClass = none ∧ systemClass = none then some (str "standard") else c.storageClass
  image := orDefault c.image lokiImage

/-- `Default` of the webhook. -/
def LogSystemSpec.default (spec : LogSystemSpec) : LogSystemSpec :=
  if spec.stack = plgMonolithic then
    let plg := spec.plgConfig.getD ⟨none, none, none⟩
    { spec with
      plgConfig := some
        { loki := some ((plg.loki.getD ⟨0, none, none, []⟩).default spec.storageClass)
          grafana := some ⟨orDefault (plg.grafana.getD ⟨[]⟩).image grafanaImage⟩
          promtail := some ⟨orDefault (plg.promtail.getD ⟨[]⟩).image promtailImage⟩ } }
  else spec

/-- `KalmValidateError`. -/
structure KalmValidateError where
  err : Str
  path : Str
  deriving DecidableEq

/-- The checks of `validate` on the config, up to the first that fails. -/
def PLGConfig.check (systemClass : Option Str) (stack : Str) (plg : PLGConfig) : Option KalmValidateError :=
  match plg.loki with
  | none => some ⟨str "loki config can't be blank when using " ++ stack ++ str " stack", str "spec.plgConfig.loki"⟩
  | some loki =>
    if systemClass = none ∧ loki.storageClass = none then
      some ⟨str "can't find storageClass for loki. " ++
          str "Set either in spec.storageClass or spec.plgConfig.loki.storageClass",
        str "spec.plgConfig.loki.storageClass"⟩
    else
      match plg.grafana, plg.promtail with
      | none, _ =>
        some ⟨str "grafana config can't be blank when using " ++ stack ++ str " stack", str "spec.plgConfig.grafana"⟩
      | some _, none =>
        some ⟨str "promtail config can't be blank when using " ++ stack ++ str " stack",
          str "spec.plgConfig.promtail"⟩
      | some grafana, some promtail =>
        if loki.image = [] then some ⟨str "loki image can't be blank", str "spec.plgConfig.loki.image"⟩
        else if grafana.image = [] then some ⟨str "grafana image can't be blank", str "spec.plgConfig.grafana.image"⟩
        else if promtail.image = [] then
          some ⟨str "promtail image can't be blank", str "spec.plgConfig.promtail.image"⟩
        else none

/-- `validate` of the webhook; it reports one error at most. -/
def LogSystemSpec.validate (spec : LogSystemSpec) : Option KalmValidateError :=
  if spec.stack = plgMonolithic then
    match spec.plgConfig with
    | none =>
      some ⟨str "plg config can't be blank when using " ++ spec.stack ++ str " stack", str "spec.plgConfig"⟩
    | some plg => plg.check spec.storageClass spec.stack
  else some ⟨str "unknown stack: " ++ spec.stack, str "spec.stack"⟩

/-- **A spec that the webhook has taken**: defaulted, and without an error. -/
def Accepted (spec : LogSystemSpec) : Prop := (∃ raw : LogSystemSpec, spec = raw.default) ∧ spec.validate = none

/-! ## 2. Objects -/

/-- `LogSystem`. -/
structure LogSystem where
  ns : Str
  name : Str
  spec : LogSystemSpec
  deriving DecidableEq

/-- The kinds of objects. -/
inductive Kind where
  | logSystem
  | component
  deriving DecidableEq

namespace Kind

/-- The objects of a kind. -/
@[reducible] def Obj : Kind → Type
  | logSystem => LogSystem
  | component => Component

/-- Namespace and name. -/
def key : (k : Kind) → k.Obj → Str × Str
  | logSystem, v => (v.ns, v.name)
  | component, v => (v.ns, v.name)

instance : (k : Kind) → DecidableEq k.Obj
  | logSystem => inferInstanceAs (DecidableEq LogSystem)
  | component => inferInstanceAs (DecidableEq Component)

end Kind

/-- The API server; its admission is part of the calls below. -/
@[reducible] def schema : Schema where
  Kind := Kind
  Key := Str × Str
  Obj := Kind.Obj
  key := fun {k} obj => k.key obj
  valid := fun _ => true

/-- What is stored. -/
abbrev Cluster := State schema

/-- A program of the controller. -/
abbrev ControllerTask := Task schema

/-! ## 3. Desired components -/

/-- The three components. -/
inductive Part where
  | loki
  | grafana
  | promtail
  deriving DecidableEq

/-- `getComponentNames`. -/
def componentName (logSystem : Str) : Part → Str
  | .loki => logSystem ++ str "-loki"
  | .grafana => logSystem ++ str "-grafana"
  | .promtail => logSystem ++ str "-promtail"

/-- The hours of so many days, in 32 bits, as a duration. -/
def hours (days : Nat) : Str := itoa (days * 24 % 4294967296) ++ str "h"

/-- `GetPLGMonolithicLokiConfig`. -/
def getPLGMonolithicLokiConfig (retentionDays : Nat) : Str :=
  let retention := if retentionDays = 0 then str "0s" else hours retentionDays
  let deletes := if retentionDays = 0 then str "false" else str "true"
  str "auth_enabled: false\nserver:\n  http_listen_port: 3100\ningester:\n  lifecycler:\n    address: 127.0.0.1\n" ++
  str "    ring:\n      kvstore:\n        store: inmemory\n      replication_factor: 1\n    final_sleep: 0s\n" ++
  str "  chunk_idle_period: 5m\n  chunk_retain_period: 30s\n  max_transfer_retries: 0\nschema_config:\n" ++
  str "  configs:\n    - from: 2018-04-15\n      store: boltdb\n      object_store: filesystem\n" ++
  str "      schema: v11\n" ++
  str "      index:\n        prefix: index_\n        period: 168h\nstorage_config:\n  boltdb:\n" ++
  str "    directory: /data/loki/index\n  filesystem:\n    directory: /data/loki/chunks\nlimits_config:\n" ++
  str "  enforce_metric_name: false\n  reject_old_samples: true\n  reject_old_samples_max_age: " ++ retention ++
  str "\nchunk_store_config:\n  max_look_back_period: " ++ retention ++
  str "\ntable_manager:\n  retention_deletes_enabled: " ++ deletes ++
  str "\n  retention_period: " ++ retention ++ str "\n"

/-- A volume of the host. -/
def hostVolume (path : Str) : Components.Volume := ⟨.hostPath, path, [], [], str "0", none⟩

/-- The image: the old one where the component is there. -/
def imageOf (loaded : Option Component) (image default : Str) : Str :=
  match loaded with
  | some c => c.spec.image
  | none => orDefault image default

section Specs

-- the name of loki; the text of `GetPLGMonolithicPromtailConfig`, which is the same always
variable (loki : Str) (promtailConfig : Str)

/-- The spec of loki. -/
def lokiSpec (c : LokiConfig) (diskSize image : Str) : ComponentSpec where
  annotations := [(str "sidecar.istio.io/inject", str "false"),
    (str "core.kalm.dev/podExt-securityContext-runAsGroup", str "0"),
    (str "core.kalm.dev/podExt-securityContext-runAsUser", str "0")]
  image := image
  workloadType := some .statefulset
  replicas := some 1
  command := str "loki -config.file=/etc/loki/loki.yaml"
  ports := [⟨3100, 3100, str "http"⟩]
  env := []
  readinessProbe := some ⟨15, 10, 1, 1, 3, str "/ready", 3100⟩
  livenessProbe := some ⟨45, 10, 1, 1, 3, str "/ready", 3100⟩
  preInjectedFiles := [⟨str "/etc/loki/loki.yaml", getPLGMonolithicLokiConfig c.retentionDays, false⟩]
  volumes := [⟨.persistentVolumeClaimTemplate, str "/data", [], str "storage", diskSize, c.storageClass⟩]
  runnerPermission := none
  terminationGracePeriodSeconds := none
  rest := []

/-- The spec of grafana. -/
def grafanaSpec (image : Str) : ComponentSpec where
  annotations := []
  image := image
  workloadType := some .server
  replicas := some 1
  command := []
  ports := []
  env := [⟨str "GF_AUTH_ANONYMOUS_ENABLED", str "true", []⟩, ⟨str "GF_AUTH_ANONYMOUS_ORG_ROLE", str "Admin", []⟩]
  readinessProbe := some ⟨0, 10, 1, 1, 3, str "/api/health", 3000⟩
  livenessProbe := some ⟨60, 10, 1, 30, 10, str "/api/health", 3000⟩
  preInjectedFiles := [⟨str "/etc/grafana/provisioning/datasources/loki.yaml",
    str "\napiVersion: 1\ndatasources:\n  - name: Loki\n    type: loki\n    access: proxy\n    isDefault: true\n" ++
      str "    url: http://" ++ loki ++ str ":3100\n", false⟩]
  volumes := []
  runnerPermission := none
  terminationGracePeriodSeconds := none
  rest := []

/-- The spec of promtail. -/
def promtailSpec (image : Str) : ComponentSpec where
  annotations := [(str "sidecar.istio.io/inject", str "false")]
  image := image
  workloadType := some .daemonset
  replicas := none
  command := str "promtail -log.level=debug -print-config-stderr -config.file=/etc/promtail/promtail.yaml " ++
    str "-client.url=http://" ++ loki ++ str ":3100/loki/api/v1/push"
  ports := [⟨3101, 3101, str "http"⟩]
  env := [⟨str "HOSTNAME", str "host", str "builtin"⟩]
  readinessProbe := some ⟨10, 10, 1, 1, 5, str "/ready", 3101⟩
  livenessProbe := none
  preInjectedFiles := [⟨str "/etc/promtail/promtail.yaml", promtailConfig, false⟩]
  volumes := [hostVolume (str "/var/lib/docker/containers"), hostVolume (str "/var/log/pods"),
    hostVolume (str "/run/promtail")]
  runnerPermission := some ⟨str "clusterRole", [⟨[str "get", str "list", str "watch"], [[]],
    [str "nodes", str "nodes/proxy", str "services", str "endpoints", str "pods"], [], []⟩]⟩
  terminationGracePeriodSeconds := none
  rest := []

/-- The spec of a component, from the log system and the component that was loaded; `none` where the controller
    dereferences nil. -/
def specOf (spec : LogSystemSpec) (loaded : Option Component) : Part → Option ComponentSpec
  | .loki => spec.plgConfig.bind fun plg => plg.loki.bind fun c => c.diskSize.map fun diskSize =>
      lokiSpec c diskSize (imageOf loaded c.image lokiImage)
  | .grafana => spec.plgConfig.bind fun plg => plg.grafana.map fun c =>
      grafanaSpec loki (imageOf loaded c.image grafanaImage)
  | .promtail => spec.plgConfig.bind fun plg => plg.promtail.map fun c =>
      promtailSpec loki promtailConfig (imageOf loaded c.image promtailImage)

end Specs

/-! ## 4. The reconcile -/

section Reconcile

-- what the API server and its webhooks say to a spec, over the stored one; the text of
-- `GetPLGMonolithicPromtailConfig`; the name a volume without one is given
variable (admits : Option ComponentSpec → ComponentSpec → Bool) (promtailConfig genPVCName : Str)

/-- A component as it is stored. -/
abbrev StoredComponent := Versioned schema Kind.component

/-- A component, if it is found. -/
abbrev getComponent (key : Str × Str) : ControllerTask (Option StoredComponent) :=
  find (S := schema) Kind.component key

/-- A component is created. -/
abbrev createComponent (c : Component) : ControllerTask Unit :=
  invoke (Objects.Call.create (S := schema) Kind.component c)

/-- The spec of a component that was loaded is patched. -/
abbrev patchComponent (v : StoredComponent) (spec : ComponentSpec) : ControllerTask Unit :=
  invoke (Objects.Call.update (S := schema) Kind.component ⟨{ (v.obj : Component) with spec := spec }, v.version⟩)

/-- A component is deleted. -/
abbrev deleteComponent (key : Str × Str) : ControllerTask Unit :=
  invoke (Objects.Call.delete (S := schema) Kind.component key)

/-- The fields of the task: the components that have been loaded. -/
structure Loaded where
  loki : Option StoredComponent
  grafana : Option StoredComponent
  promtail : Option StoredComponent

/-- The key of a component. -/
def partKey (req : Str × Str) (part : Part) : Str × Str := (req.1, componentName req.2 part)

/-- `LoadPLGMonolithicResources`: it stops at the first component that is not found. -/
def loadPLGMonolithicResources (req : Str × Str) : ControllerTask Loaded := do
  match ← getComponent (partKey req .loki) with
  | none => pure ⟨none, none, none⟩
  | some loki =>
    match ← getComponent (partKey req .grafana) with
    | none => pure ⟨some loki, none, none⟩
    | some grafana =>
      match ← getComponent (partKey req .promtail) with
      | none => pure ⟨some loki, some grafana, none⟩
      | some promtail => pure ⟨some loki, some grafana, some promtail⟩

/-- A component that was not loaded is created, with the log system as its controller; of one that was loaded the spec
    is patched. -/
def saveComponent (req : Str × Str) (part : Part) (loaded : Option StoredComponent)
    (new : Option ComponentSpec) : ControllerTask Unit :=
  match new with
  | none => .crash
  | some spec =>
    let stored := spec.default genPVCName
    match loaded with
    | none =>
      if admits none stored then
        createComponent ⟨req.1, componentName req.2 part, some req.2, stored⟩
      else .fail .invalid
    | some v =>
      if admits (some (Component.spec v.obj)) stored then patchComponent v stored else .fail .invalid

/-- The spec of the component that was loaded. -/
def loadedObj (loaded : Option StoredComponent) : Option Component := loaded.map Versioned.obj

/-- A component is reconciled. -/
def reconcilePart (req : Str × Str) (spec : LogSystemSpec) (part : Part)
    (loaded : Option StoredComponent) : ControllerTask Unit :=
  saveComponent admits genPVCName req part loaded
    (specOf (componentName req.2 .loki) promtailConfig spec (loadedObj loaded) part)

/-- `ReconcilePLGMonolithicLoki`. -/
def reconcilePLGMonolithicLoki (req : Str × Str) (spec : LogSystemSpec) (loaded : Loaded) : ControllerTask Unit :=
  reconcilePart admits promtailConfig genPVCName req spec .loki loaded.loki

/-- `ReconcilePLGMonolithicGrafana`. -/
def reconcilePLGMonolithicGrafana (req : Str × Str) (spec : LogSystemSpec) (loaded : Loaded) : ControllerTask Unit :=
  reconcilePart admits promtailConfig genPVCName req spec .grafana loaded.grafana

/-- `ReconcilePLGMonolithicPromtail`. -/
def reconcilePLGMonolithicPromtail (req : Str × Str) (spec : LogSystemSpec) (loaded : Loaded) : ControllerTask Unit :=
  reconcilePart admits promtailConfig genPVCName req spec .promtail loaded.promtail

/-- `ReconcilePLGMonolithic`. -/
def reconcilePLGMonolithic (req : Str × Str) (spec : LogSystemSpec) : ControllerTask Unit := do
  let loaded ← loadPLGMonolithicResources req
  reconcilePLGMonolithicLoki admits promtailConfig genPVCName req spec loaded
  reconcilePLGMonolithicGrafana admits promtailConfig genPVCName req spec loaded
  reconcilePLGMonolithicPromtail admits promtailConfig genPVCName req spec loaded

/-- `ReconcileResources`. -/
def reconcileResources (req : Str × Str) (spec : LogSystemSpec) : ControllerTask Unit :=
  if spec.stack = plgMonolithic then reconcilePLGMonolithic admits promtailConfig genPVCName req spec
  else .fail .invalid

/-- A component that was loaded is deleted. -/
def deletePart (req : Str × Str) (part : Part) (loaded : Option StoredComponent) :
    ControllerTask Unit :=
  match loaded with
  | none => pure ()
  | some _ => deleteComponent (partKey req part)

/-- `CleanResources`. -/
def cleanResources (req : Str × Str) (loaded : Loaded) : ControllerTask Unit := do
  deletePart req .loki loaded.loki
  deletePart req .grafana loaded.grafana
  deletePart req .promtail loaded.promtail

/-- `Run`: where there is no log system nothing has been loaded. -/
def run (req : Str × Str) : ControllerTask Unit := do
  match ← find (S := schema) Kind.logSystem req with
  | none => cleanResources req ⟨none, none, none⟩
  | some v => reconcileResources admits promtailConfig genPVCName req (LogSystem.spec v.obj)

end Reconcile

/-! ## 5. What is intended -/

section Intended

variable (admits : Option ComponentSpec → ComponentSpec → Bool) (promtailConfig genPVCName : Str)

/-- The loader comes to every component there is. -/
structure Loadable (req : Str × Str) (s : Cluster) : Prop where
  grafana : (s.objAt .component (partKey req .grafana)).isSome → (s.objAt .component (partKey req .loki)).isSome
  promtail : (s.objAt .component (partKey req .promtail)).isSome →
    (s.objAt .component (partKey req .loki)).isSome ∧ (s.objAt .component (partKey req .grafana)).isSome

/-- The storage class of loki. -/
def lokiStorageClass (spec : LogSystemSpec) : Option Str :=
  spec.plgConfig.bind fun plg => plg.loki.bind LokiConfig.storageClass

/-- Loki has a storage class of its own, or that of the log system. -/
def LogSystemSpec.withFallback (spec : LogSystemSpec) : LogSystemSpec :=
  { spec with plgConfig := spec.plgConfig.map fun plg =>
      { plg with loki := plg.loki.map fun c => { c with storageClass := c.storageClass.or spec.storageClass } } }

/-- The spec a component gets, as it is stored; the image of a component that is there stays. -/
def stored (req : Str × Str) (spec : LogSystemSpec) (s : Cluster) (part : Part) : Option ComponentSpec :=
  (specOf (componentName req.2 .loki) promtailConfig spec (s.objAt .component (partKey req part)) part).map
    (ComponentSpec.default genPVCName)

/-- **All three components are there**, as they are intended. -/
def Converged (req : Str × Str) (spec : LogSystemSpec) (s t : Cluster) : Prop :=
  ∀ part, ∃ c, t.objAt .component (partKey req part) = some c ∧
    some (Component.spec c) = stored promtailConfig genPVCName req spec.withFallback s part

/-- **No call fails for another reason**: the specs are admitted, over what is stored, and again over themselves. -/
structure Takes (req : Str × Str) (spec : LogSystemSpec) (s : Cluster) : Prop where
  first : ∀ part new, stored promtailConfig genPVCName req spec s part = some new →
    admits ((s.objAt .component (partKey req part)).map Component.spec) new = true
  again : ∀ part new, stored promtailConfig genPVCName req spec s part = some new → admits (some new) new = true

end Intended

/-! ## 6. Accepted specs -/

/-- What an accepted spec has. -/
theorem Accepted.config {spec : LogSystemSpec} (h : Accepted spec) :
    spec.stack = plgMonolithic ∧ ∃ loki grafana promtail diskSize,
      spec.plgConfig = some ⟨some loki, some grafana, some promtail⟩ ∧ loki.diskSize = some diskSize ∧
        (loki.storageClass = none → spec.storageClass.isSome) := by
  obtain ⟨⟨raw, rfl⟩, hvalid⟩ := h
  have hraw : raw.stack = plgMonolithic := by
    by_contra hne
    unfold LogSystemSpec.default at hvalid
    rw [if_neg hne, LogSystemSpec.validate, if_neg hne] at hvalid
    cases hvalid
  unfold LogSystemSpec.default
  rw [if_pos hraw]
  refine ⟨hraw, _, _, _, _, rfl, rfl, fun hnone => ?_⟩
  by_contra hsystem
  rw [Option.not_isSome_iff_eq_none] at hsystem
  have hsystem' : raw.storageClass = none := hsystem
  dsimp only [LokiConfig.default] at hnone
  split at hnone
  · cases hnone
  · rename_i hnot
    exact hnot ⟨hnone, hsystem'⟩

variable {admits : Option ComponentSpec → ComponentSpec → Bool} {promtailConfig genPVCName : Str} {req : Str × Str}
  {spec : LogSystemSpec} {part : Part} {s t : Cluster}

/-- The controller dereferences no nil. -/
theorem Accepted.stored_isSome (h : Accepted spec) (s : Cluster) (part : Part) :
    ∃ new, stored promtailConfig genPVCName req spec s part = some new := by
  obtain ⟨_, loki, grafana, promtail, diskSize, hplg, hdisk, _⟩ := h.config
  unfold stored specOf
  rw [hplg]
  cases part with
  | loki =>
      rw [Option.bind_some, Option.bind_some, hdisk]
      exact ⟨_, rfl⟩
  | grafana => exact ⟨_, rfl⟩
  | promtail => exact ⟨_, rfl⟩

/-- **The spec of loki is the intended one** where it has a storage class of its own. -/
theorem Accepted.stored_withFallback (h : Accepted spec) (promtailConfig genPVCName : Str) (req : Str × Str)
    (s : Cluster) :
    (∀ part, stored promtailConfig genPVCName req spec.withFallback s part =
      stored promtailConfig genPVCName req spec s part) ↔ (lokiStorageClass spec).isSome := by
  obtain ⟨_, loki, grafana, promtail, diskSize, hplg, hdisk, hclass⟩ := h.config
  have hloki : lokiStorageClass spec = loki.storageClass := by
    rw [lokiStorageClass, hplg]
    rfl
  rw [hloki]
  constructor
  · intro hall
    by_contra hnone
    rw [Option.not_isSome_iff_eq_none] at hnone
    have hvolumes := congrArg (Option.map fun new => new.volumes.map Components.Volume.storageClassName) (hall .loki)
    unfold stored specOf LogSystemSpec.withFallback at hvolumes
    rw [hplg] at hvolumes
    simp only [Option.map_some, Option.bind_some, hdisk] at hvolumes
    have hclasses : [loki.storageClass.or spec.storageClass] = [loki.storageClass] := Option.some.inj hvolumes
    rw [hnone, Option.none_or] at hclasses
    have hsome := hclass hnone
    rw [List.singleton_inj.mp hclasses] at hsome
    cases hsome
  · intro hsome part
    obtain ⟨sc, hsc⟩ := Option.isSome_iff_exists.mp hsome
    have hsame : spec.withFallback = spec := by
      have hconfig : { loki with storageClass := loki.storageClass.or spec.storageClass } = loki := by
        rw [hsc, Option.some_or, ← hsc]
      unfold LogSystemSpec.withFallback
      rw [hplg, Option.map_some, Option.map_some, hconfig, ← hplg]
    rw [hsame]

/-! ## 7. One component -/

theorem partKey_injective {part other : Part} (h : partKey req part = partKey req other) : part = other := by
  have hname : componentName req.2 part = componentName req.2 other := congrArg Prod.snd h
  cases part <;> cases other <;> first | rfl | exact absurd (List.append_cancel_left hname) (by decide)

/-- What a reconcile makes of a component. -/
def savedPart (promtailConfig genPVCName : Str) (req : Str × Str) (spec : LogSystemSpec) (part : Part) (s : Cluster) :
    Cluster :=
  match stored promtailConfig genPVCName req spec s part with
  | none => s
  | some new =>
    match s.get .component (partKey req part) with
    | none => State.put (S := schema) s Kind.component ⟨req.1, componentName req.2 part, some req.2, new⟩
    | some v =>
      if (v.obj : Component) = { (v.obj : Component) with spec := new } then s
      else State.put (S := schema) s Kind.component { (v.obj : Component) with spec := new }

/-- Everything else is as it was. -/
theorem get_savedPart_of_ne {k : Kind} {key : Str × Str} (h : ¬ (k = .component ∧ key = partKey req part)) :
    (savedPart promtailConfig genPVCName req spec part s).get k key = s.get k key := by
  unfold savedPart
  split
  · rfl
  · split
    · exact Objects.sameBut_put (S := schema) (k := Kind.component) s _ k key h
    · rename_i v hget
      have hkey : Kind.key .component (v.obj : Component) = partKey req part := (State.get_eq_some.mp hget).2
      split
      · rfl
      · exact Objects.sameBut_put (S := schema) (k := Kind.component) s _ k key (by rw [← hkey] at h; exact h)

/-- **The component is there**, with the spec that is stored. -/
theorem objAt_savedPart {new : ComponentSpec} (h : stored promtailConfig genPVCName req spec s part = some new) :
    ∃ c, (savedPart promtailConfig genPVCName req spec part s).objAt .component (partKey req part) = some c ∧
      Component.spec c = new := by
  unfold savedPart
  rw [h]
  cases hget : s.get .component (partKey req part) with
  | none =>
      refine ⟨⟨req.1, componentName req.2 part, some req.2, new⟩, ?_, rfl⟩
      simp only
      rw [State.objAt, State.get_put, if_pos]
      · rfl
      · rfl
  | some v =>
      have hkey : Kind.key .component (v.obj : Component) = partKey req part := (State.get_eq_some.mp hget).2
      simp only
      split
      · rename_i hsame
        exact ⟨v.obj, by rw [State.objAt, hget]; rfl, congrArg Component.spec hsame⟩
      · refine ⟨{ (v.obj : Component) with spec := new }, ?_, rfl⟩
        rw [State.objAt, State.get_put, if_pos]
        · rfl
        · exact hkey.symm

/-- What is stored decides the spec. -/
theorem stored_congr (h : t.objAt .component (partKey req part) = s.objAt .component (partKey req part)) :
    stored promtailConfig genPVCName req spec t part = stored promtailConfig genPVCName req spec s part := by
  rw [stored, stored, h]

/-- A component that was not loaded is created: it must not be there. -/
theorem returns_saveComponent_none {new : Option ComponentSpec} {Q : Unit → Cluster → Prop}
    (h : Returns (saveComponent admits genPVCName req part none new) s Q) :
    s.get .component (partKey req part) = none := by
  unfold saveComponent at h
  cases new with
  | none => exact absurd h Calls.not_returns_crash
  | some spec =>
      simp only at h
      split at h
      · exact (Objects.returns_create.mp h).2.1
      · exact absurd h Calls.not_returns_fail

/-- **The reconcile of one component** returns where it was loaded if it is there. -/
theorem returns_reconcilePart {loaded : Option StoredComponent}
    (hloaded : loaded = none ∨ loaded = s.get .component (partKey req part)) {new : ComponentSpec}
    (hnew : stored promtailConfig genPVCName req spec s part = some new)
    (hadmits : admits ((s.objAt .component (partKey req part)).map Component.spec) new = true)
    {Q : Unit → Cluster → Prop} :
    Returns (reconcilePart admits promtailConfig genPVCName req spec part loaded) s Q ↔
      loaded = s.get .component (partKey req part) ∧ Q () (savedPart promtailConfig genPVCName req spec part s) := by
  by_cases hright : loaded = s.get .component (partKey req part)
  · rw [and_iff_right hright, hright]
    unfold savedPart
    rw [hnew]
    obtain ⟨raw, hraw, rfl⟩ := Option.map_eq_some_iff.mp hnew
    unfold State.objAt at hraw hadmits
    unfold reconcilePart loadedObj
    rw [hraw]
    unfold saveComponent
    cases hget : s.get .component (partKey req part) with
    | none =>
        rw [hget, Option.map_none, Option.map_none] at hadmits
        simp only [hadmits, if_true]
        refine Objects.returns_create.trans ?_
        exact ⟨fun h => h.2.2, fun h => ⟨rfl, hget, h⟩⟩
    | some v =>
        rw [hget, Option.map_some, Option.map_some] at hadmits
        simp only [hadmits, if_true]
        have hkey : Kind.key .component (v.obj : Component) = partKey req part := (State.get_eq_some.mp hget).2
        refine Objects.returns_update.trans ?_
        constructor
        · rintro ⟨current, hcurrent, _, h⟩
          have hsame : current = v := Option.some.inj (hcurrent.symm.trans (by rw [← hget, ← hkey]; rfl))
          rwa [hsame] at h
        · intro h
          exact ⟨v, by rw [← hget, ← hkey]; rfl, rfl, h⟩
  · refine iff_of_false (fun h => ?_) fun h => hright h.1
    have hnone := hloaded.resolve_right hright
    rw [hnone] at h hright
    exact hright (returns_saveComponent_none h).symm

/-! ## 8. All three -/

/-- What the loader finds. -/
def loadedOf (req : Str × Str) (s : Cluster) : Loaded where
  loki := s.get .component (partKey req .loki)
  grafana :=
    if (s.get .component (partKey req .loki)).isSome then s.get .component (partKey req .grafana) else none
  promtail :=
    if (s.get .component (partKey req .loki)).isSome ∧ (s.get .component (partKey req .grafana)).isSome then
      s.get .component (partKey req .promtail)
    else none

theorem returns_load {Q : Loaded → Cluster → Prop} :
    Returns (loadPLGMonolithicResources req) s Q ↔ Q (loadedOf req s) s := by
  unfold loadPLGMonolithicResources loadedOf
  rw [Objects.returns_bind, Objects.returns_find]
  cases s.get .component (partKey req .loki) with
  | none => exact Calls.returns_done
  | some loki =>
      simp only
      rw [Objects.returns_bind, Objects.returns_find]
      cases s.get .component (partKey req .grafana) with
      | none => exact Calls.returns_done
      | some grafana =>
          simp only
          rw [Objects.returns_bind, Objects.returns_find]
          cases s.get .component (partKey req .promtail) with
          | none => exact Calls.returns_done
          | some promtail => exact Calls.returns_done

theorem ite_none_eq_self {α : Type} {c : Prop} [Decidable c] {o : Option α} :
    (if c then o else none) = o ↔ (o.isSome → c) := by
  by_cases hc : c
  · rw [if_pos hc]
    exact iff_of_true rfl fun _ => hc
  · rw [if_neg hc, eq_comm, ← Option.not_isSome_iff_eq_none]
    exact ⟨fun h hsome => absurd hsome h, fun h hsome => hc (h hsome)⟩

/-- What the loader finds is what is there, from the states it can be used in. -/
theorem loadable_iff : Loadable req s ↔
    (loadedOf req s).grafana = s.get .component (partKey req .grafana) ∧
      (loadedOf req s).promtail = s.get .component (partKey req .promtail) := by
  dsimp only [loadedOf]
  rw [ite_none_eq_self, ite_none_eq_self]
  constructor
  · intro h
    have hgrafana := h.grafana
    have hpromtail := h.promtail
    rw [State.objAt_isSome, State.objAt_isSome] at hgrafana
    rw [State.objAt_isSome, State.objAt_isSome, State.objAt_isSome] at hpromtail
    exact ⟨hgrafana, hpromtail⟩
  · intro h
    constructor
    · rw [State.objAt_isSome, State.objAt_isSome]
      exact h.1
    · rw [State.objAt_isSome, State.objAt_isSome, State.objAt_isSome]
      exact h.2

/-- What a reconcile makes of the components. -/
def savedAll (promtailConfig genPVCName : Str) (req : Str × Str) (spec : LogSystemSpec) (s : Cluster) : Cluster :=
  savedPart promtailConfig genPVCName req spec .promtail
    (savedPart promtailConfig genPVCName req spec .grafana (savedPart promtailConfig genPVCName req spec .loki s))

/-- The other components are as they were. -/
theorem get_savedPart {other : Part} (h : other ≠ part) :
    (savedPart promtailConfig genPVCName req spec part s).get .component (partKey req other) =
      s.get .component (partKey req other) :=
  get_savedPart_of_ne fun e => h (partKey_injective e.2)

/-- The log system is as it was. -/
theorem get_savedPart_logSystem {key : Str × Str} :
    (savedPart promtailConfig genPVCName req spec part s).get .logSystem key = s.get .logSystem key :=
  get_savedPart_of_ne fun e => by cases e.1

/-- One component, behind others. -/
theorem returns_reconcilePart_of_takes (haccepted : Accepted spec)
    (htakes : Takes admits promtailConfig genPVCName req spec s)
    (hget : t.get .component (partKey req part) = s.get .component (partKey req part))
    {loaded : Option StoredComponent} (hloaded : loaded = none ∨ loaded = s.get .component (partKey req part))
    {Q : Unit → Cluster → Prop} :
    Returns (reconcilePart admits promtailConfig genPVCName req spec part loaded) t Q ↔
      loaded = s.get .component (partKey req part) ∧ Q () (savedPart promtailConfig genPVCName req spec part t) := by
  have hobj : t.objAt .component (partKey req part) = s.objAt .component (partKey req part) := by
    rw [State.objAt, hget, State.objAt]
  obtain ⟨new, hnew⟩ : ∃ new, stored promtailConfig genPVCName req spec s part = some new :=
    haccepted.stored_isSome s part
  have hadmits := htakes.first part new hnew
  rw [← stored_congr hobj] at hnew
  rw [← hobj] at hadmits
  rw [← hget] at hloaded ⊢
  exact returns_reconcilePart hloaded hnew hadmits

/-- **The reconcile of all three** returns where the loader has come to all that are there. -/
theorem returns_reconcilePLGMonolithic (haccepted : Accepted spec)
    (htakes : Takes admits promtailConfig genPVCName req spec s) {Q : Unit → Cluster → Prop} :
    Returns (reconcilePLGMonolithic admits promtailConfig genPVCName req spec) s Q ↔
      Loadable req s ∧ Q () (savedAll promtailConfig genPVCName req spec s) := by
  have hgrafana : (loadedOf req s).grafana = none ∨
      (loadedOf req s).grafana = s.get .component (partKey req .grafana) := (ite_eq_or_eq _ _ _).symm
  have hpromtail : (loadedOf req s).promtail = none ∨
      (loadedOf req s).promtail = s.get .component (partKey req .promtail) := (ite_eq_or_eq _ _ _).symm
  unfold reconcilePLGMonolithic
  rw [Objects.returns_bind, returns_load, loadable_iff, Objects.returns_bind]
  refine (returns_reconcilePart_of_takes haccepted htakes rfl (Or.inr rfl)).trans ?_
  rw [and_iff_right rfl, Objects.returns_bind]
  refine (returns_reconcilePart_of_takes haccepted htakes (get_savedPart (by decide)) hgrafana).trans ?_
  rw [and_assoc]
  refine and_congr_right fun _ => returns_reconcilePart_of_takes haccepted htakes ?_ hpromtail
  rw [get_savedPart (by decide), get_savedPart (by decide)]

/-! ## 9. The reconcile -/

theorem returns_run {v : Versioned schema Kind.logSystem} (hv : s.get .logSystem req = some v)
    (haccepted : Accepted (LogSystem.spec v.obj))
    (htakes : Takes admits promtailConfig genPVCName req (LogSystem.spec v.obj) s) {Q : Unit → Cluster → Prop} :
    Returns (run admits promtailConfig genPVCName req) s Q ↔
      Loadable req s ∧ Q () (savedAll promtailConfig genPVCName req (LogSystem.spec v.obj) s) := by
  unfold run
  rw [Objects.returns_bind, Objects.returns_find, hv]
  unfold reconcileResources
  simp only
  rw [if_pos haccepted.config.1]
  exact returns_reconcilePLGMonolithic haccepted htakes

/-- **Behind a reconcile** every component is there, with the spec that is stored. -/
theorem objAt_savedAll {new : ComponentSpec} (h : stored promtailConfig genPVCName req spec s part = some new) :
    ∃ c, (savedAll promtailConfig genPVCName req spec s).objAt .component (partKey req part) = some c ∧
      Component.spec c = new := by
  have hloki (other : Part) (hne : other ≠ .loki) :
      (savedPart promtailConfig genPVCName req spec .loki s).objAt .component (partKey req other) =
        s.objAt .component (partKey req other) := by
    rw [State.objAt, get_savedPart hne, State.objAt]
  have hgrafana (t : Cluster) (other : Part) (hne : other ≠ .grafana) :
      (savedPart promtailConfig genPVCName req spec .grafana t).objAt .component (partKey req other) =
        t.objAt .component (partKey req other) := by
    rw [State.objAt, get_savedPart hne, State.objAt]
  have hpromtail (t : Cluster) (other : Part) (hne : other ≠ .promtail) :
      (savedPart promtailConfig genPVCName req spec .promtail t).objAt .component (partKey req other) =
        t.objAt .component (partKey req other) := by
    rw [State.objAt, get_savedPart hne, State.objAt]
  unfold savedAll
  cases part with
  | loki =>
      rw [hpromtail _ _ (by decide), hgrafana _ _ (by decide)]
      exact objAt_savedPart h
  | grafana =>
      rw [hpromtail _ _ (by decide)]
      rw [← stored_congr (hloki .grafana (by decide))] at h
      exact objAt_savedPart h
  | promtail =>
      rw [← stored_congr (hloki .promtail (by decide)), ← stored_congr (hgrafana _ .promtail (by decide))] at h
      exact objAt_savedPart h

/-- A component with this image gets this spec again. -/
theorem specOf_again {loki : Str} {loaded : Option Component} {raw : ComponentSpec} {c : Component}
    (h : specOf loki promtailConfig spec loaded part = some raw) (hc : c.spec.image = raw.image) :
    specOf loki promtailConfig spec (some c) part = some raw := by
  cases part with
  | loki =>
      obtain ⟨plg, hplg, h⟩ := Option.bind_eq_some_iff.mp h
      obtain ⟨config, hconfig, h⟩ := Option.bind_eq_some_iff.mp h
      obtain ⟨diskSize, hdisk, rfl⟩ := Option.map_eq_some_iff.mp h
      have himage : imageOf (some c) config.image lokiImage = imageOf loaded config.image lokiImage := hc
      dsimp only [specOf]
      rw [hplg, Option.bind_some, hconfig, Option.bind_some, hdisk, Option.map_some, himage]
  | grafana =>
      obtain ⟨plg, hplg, h⟩ := Option.bind_eq_some_iff.mp h
      obtain ⟨config, hconfig, rfl⟩ := Option.map_eq_some_iff.mp h
      have himage : imageOf (some c) config.image grafanaImage = imageOf loaded config.image grafanaImage := hc
      dsimp only [specOf]
      rw [hplg, Option.bind_some, hconfig, Option.map_some, himage]
  | promtail =>
      obtain ⟨plg, hplg, h⟩ := Option.bind_eq_some_iff.mp h
      obtain ⟨config, hconfig, rfl⟩ := Option.map_eq_some_iff.mp h
      have himage : imageOf (some c) config.image promtailImage = imageOf loaded config.image promtailImage := hc
      dsimp only [specOf]
      rw [hplg, Option.bind_some, hconfig, Option.map_some, himage]

/-- **What is stored is stored again.** -/
theorem stored_again {new : ComponentSpec} (h : stored promtailConfig genPVCName req spec s part = some new)
    {c : Component} (hc : t.objAt .component (partKey req part) = some c) (hspec : c.spec = new) :
    stored promtailConfig genPVCName req spec t part = some new := by
  obtain ⟨raw, hraw, hnew⟩ := Option.map_eq_some_iff.mp h
  have himage : c.spec.image = raw.image := by
    rw [hspec, ← hnew]
    rfl
  rw [stored, hc, specOf_again hraw himage, Option.map_some, hnew]

/-- A component with its spec is left as it is. -/
theorem savedPart_again {new : ComponentSpec} (h : stored promtailConfig genPVCName req spec t part = some new)
    {c : Component} (hc : t.objAt .component (partKey req part) = some c) (hspec : c.spec = new) :
    savedPart promtailConfig genPVCName req spec part t = t := by
  obtain ⟨v, hv, hobj⟩ := Option.map_eq_some_iff.mp hc
  have hsame : (v.obj : Component) = { (v.obj : Component) with spec := new } := by
    rw [hobj, ← hspec]
  unfold savedPart
  rw [h, hv]
  exact if_pos hsame

/-- **A second reconcile changes nothing.** -/
theorem savedAll_again (haccepted : Accepted spec) :
    savedAll promtailConfig genPVCName req spec (savedAll promtailConfig genPVCName req spec s) =
      savedAll promtailConfig genPVCName req spec s := by
  have hagain (part : Part) : savedPart promtailConfig genPVCName req spec part
      (savedAll promtailConfig genPVCName req spec s) = savedAll promtailConfig genPVCName req spec s := by
    obtain ⟨new, hnew⟩ : ∃ new, stored promtailConfig genPVCName req spec s part = some new :=
      haccepted.stored_isSome s part
    obtain ⟨c, hc, hspec⟩ := objAt_savedAll hnew
    exact savedPart_again (stored_again hnew hc hspec) hc hspec
  rw [savedAll, hagain, hagain, hagain]

/-- The second reconcile can be admitted. -/
theorem takes_savedAll (haccepted : Accepted spec) (htakes : Takes admits promtailConfig genPVCName req spec s) :
    Takes admits promtailConfig genPVCName req spec (savedAll promtailConfig genPVCName req spec s) := by
  have hagain (part : Part) (new : ComponentSpec)
      (h : stored promtailConfig genPVCName req spec (savedAll promtailConfig genPVCName req spec s) part =
        some new) :
      stored promtailConfig genPVCName req spec s part = some new ∧
        ∃ c, (savedAll promtailConfig genPVCName req spec s).objAt .component (partKey req part) = some c ∧
          Component.spec c = new := by
    obtain ⟨first, hfirst⟩ : ∃ new, stored promtailConfig genPVCName req spec s part = some new :=
      haccepted.stored_isSome s part
    obtain ⟨c, hc, hspec⟩ := objAt_savedAll hfirst
    obtain rfl := Option.some.inj ((stored_again hfirst hc hspec).symm.trans h)
    exact ⟨hfirst, c, hc, hspec⟩
  constructor
  · intro part new h
    obtain ⟨hfirst, c, hc, hspec⟩ := hagain part new h
    rw [hc, Option.map_some, hspec]
    exact htakes.again part new hfirst
  · intro part new h
    exact htakes.again part new (hagain part new h).1

/-- All three are there behind a reconcile. -/
theorem loadable_savedAll (haccepted : Accepted spec) :
    Loadable req (savedAll promtailConfig genPVCName req spec s) := by
  have hsome (part : Part) :
      ((savedAll promtailConfig genPVCName req spec s).objAt .component (partKey req part)).isSome := by
    obtain ⟨new, hnew⟩ : ∃ new, stored promtailConfig genPVCName req spec s part = some new :=
      haccepted.stored_isSome s part
    obtain ⟨c, hc, _⟩ := objAt_savedAll hnew
    rw [hc]
    rfl
  exact ⟨fun _ => hsome .loki, fun _ => ⟨hsome .loki, hsome .grafana⟩⟩

/-- **What is there behind a reconcile is what is intended** where loki has a storage class of its own. -/
theorem converged_savedAll (haccepted : Accepted spec) :
    Converged promtailConfig genPVCName req spec s (savedAll promtailConfig genPVCName req spec s) ↔
      (lokiStorageClass spec).isSome := by
  rw [← haccepted.stored_withFallback promtailConfig genPVCName req s]
  refine forall_congr' fun part => ?_
  obtain ⟨new, hnew⟩ : ∃ new, stored promtailConfig genPVCName req spec s part = some new :=
    haccepted.stored_isSome s part
  obtain ⟨c, hc, hspec⟩ := objAt_savedAll hnew
  rw [hnew]
  constructor
  · intro ⟨c', hc', hspec'⟩
    obtain rfl := Option.some.inj (hc.symm.trans hc')
    rw [← hspec', hspec]
  · intro h
    exact ⟨c, hc, by rw [hspec, h]⟩

/-! ## 10. Convergence -/

/-- The three components are gone. -/
def Cleaned (req : Str × Str) (t : Cluster) : Prop := ∀ part, t.objAt .component (partKey req part) = none

/-- **The log stack**: a reconcile in which no call fails for another reason returns exactly where the loader comes to
    every component there is, with the components that are intended exactly where loki has a storage class of its own;
    a second one changes nothing; and one without a log system returns, and leaves none of the three exactly where
    there was none. -/
theorem converges_iff {admits : Option ComponentSpec → ComponentSpec → Bool} {promtailConfig genPVCName : Str}
    {req : Str × Str} {s : Cluster} {v : Versioned schema Kind.logSystem} (hv : s.get .logSystem req = some v)
    (haccepted : Accepted (LogSystem.spec v.obj))
    (htakes : Takes admits promtailConfig genPVCName req (LogSystem.spec v.obj) s) :
    (Returns (run admits promtailConfig genPVCName req) s (fun _ _ => True) ↔ Loadable req s) ∧
    (Returns (run admits promtailConfig genPVCName req) s
        (fun _ t => Converged promtailConfig genPVCName req (LogSystem.spec v.obj) s t) ↔
      Loadable req s ∧ (lokiStorageClass (LogSystem.spec v.obj)).isSome) ∧
    (∀ t, Returns (run admits promtailConfig genPVCName req) s (fun _ u => u = t) →
      Returns (run admits promtailConfig genPVCName req) t fun _ u => u = t) ∧
    ∀ t : Cluster, t.get .logSystem req = none →
      (Returns (run admits promtailConfig genPVCName req) t (fun _ u => Cleaned req u) ↔ Cleaned req t) := by
  refine ⟨?_, ?_, ?_, ?_⟩
  · rw [returns_run hv haccepted htakes, and_iff_left trivial]
  · rw [returns_run hv haccepted htakes, converged_savedAll haccepted]
  · intro t ht
    obtain ⟨_, rfl⟩ := (returns_run hv haccepted htakes).mp ht
    have hv' : (savedAll promtailConfig genPVCName req (LogSystem.spec v.obj) s).get .logSystem req = some v := by
      rw [savedAll, get_savedPart_logSystem, get_savedPart_logSystem, get_savedPart_logSystem, hv]
    refine (returns_run hv' haccepted (takes_savedAll haccepted htakes)).mpr ⟨loadable_savedAll haccepted, ?_⟩
    exact savedAll_again haccepted
  · intro t ht
    unfold run
    rw [Objects.returns_bind, Objects.returns_find, ht]
    exact Calls.returns_done

/-- A spec with a storage class for loki. -/
def fastSpec : LogSystemSpec := ⟨plgMonolithic, some ⟨some ⟨7, none, some (str "fast"), []⟩, none, none⟩, none⟩

/-- A log system. -/
def fastLogs : LogSystem := ⟨str "kalm-log", str "logs", fastSpec.default⟩

theorem accepted_fastLogs : Accepted fastLogs.spec := ⟨⟨fastSpec, rfl⟩, by decide⟩

/-- There is the log system, and nothing else. -/
def fastLogsOnly : Cluster := State.put (S := schema) ⟨fun _ => .empty, 0⟩ Kind.logSystem fastLogs

/-- A first reconcile. -/
theorem converges_fastLogs :
    Returns (run (fun _ _ => true) [] [] (str "kalm-log", str "logs")) fastLogsOnly fun _ t =>
      Converged [] [] (str "kalm-log", str "logs") fastLogs.spec fastLogsOnly t :=
  (converges_iff (v := ⟨fastLogs, 1⟩) rfl accepted_fastLogs ⟨fun _ _ _ => rfl, fun _ _ _ => rfl⟩).2.1.mpr
    ⟨⟨fun h => absurd h (by decide), fun h => absurd h (by decide)⟩, by decide⟩

/-- Grafana is there, loki is not. -/
def grafanaOnly : Cluster :=
  State.put (S := schema) fastLogsOnly Kind.component
    ⟨str "kalm-log", str "logs-grafana", none, grafanaSpec (str "logs-loki") grafanaImage⟩

/-- Grafana is created again. -/
theorem converges_fails :
    ¬ ∀ (req : Str × Str) (s : Cluster) (v : Versioned schema Kind.logSystem), s.get .logSystem req = some v →
      Accepted (LogSystem.spec v.obj) →
      Returns (run (fun _ _ => true) [] [] req) s fun _ t =>
        Converged [] [] req (LogSystem.spec v.obj) s t := by
  intro h
  have hreturns := h (str "kalm-log", str "logs") grafanaOnly ⟨fastLogs, 1⟩ rfl accepted_fastLogs
  have htakes : Takes (fun _ _ => true) [] [] (str "kalm-log", str "logs") fastLogs.spec grafanaOnly :=
    ⟨fun _ _ _ => rfl, fun _ _ _ => rfl⟩
  obtain ⟨hloadable, _⟩ := (returns_run rfl accepted_fastLogs htakes).mp hreturns
  exact absurd (hloadable.grafana (by decide)) (by decide)

end Kalm.Logs
