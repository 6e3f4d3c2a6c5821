/-
  File:      Kalm/Volumes/Claims.lean
  Subject:   VOLUMES AND THEIR CLAIMS: `reconcilePVForReUse` of controller/controllers/component_controller.go,
             `KalmPVReconciler` of controller/controllers/kalm_pv_controller.go and `handleDeletePVC` of
             api/handler/volumes.go.

  * `PersistentVolume`, `PersistentVolumeClaim`, `Pod` -- what these programs read and write;
  * `reconcilePVForReUse`, `Disk`, `prepareClaim` -- a component takes over a volume;
  * `handleDeletePVC` -- a user deletes a claim, and with it the volume;
  * `reconcilePV`, `reconcileForPVCChange` -- the controller of the volumes.

  Labels are a map that can be nil: a read of the nil map gives nothing, and an assignment to it panics.
-/
import Kalm.Lib.Objects
import Kalm.K8s.Names
import Kalm.Rbac.Client
import Kalm.Route.Envoy

namespace Kalm.Volumes

open Objects (Schema State Versioned Task invoke)
open Calls (Action)

/-! ## 1. Objects -/

/-- `PersistentVolumeReclaimPolicy`. -/
inductive ReclaimPolicy where
  | retain
  | delete
  | recycle
  deriving DecidableEq

/-- `PersistentVolume`; `claimRef` has the namespace and the name of a claim. -/
structure PersistentVolume where
  name : Str
  labels : Option ObjectLabels
  claimRef : Option (Str × Str)
  reclaimPolicy : ReclaimPolicy
  storage : Str
  storageClassName : Str
  deriving DecidableEq

/-- `PersistentVolumeClaim`; `selector` has the labels a volume must have. -/
structure PersistentVolumeClaim where
  ns : Str
  name : Str
  labels : ObjectLabels
  volumeName : Str
  storage : Str
  storageClassName : Option Str
  selector : Option ObjectLabels
  deriving DecidableEq

/-- `Pod`; of each volume the name of the claim, if it is one. -/
structure Pod where
  ns : Str
  name : Str
  labels : ObjectLabels
  volumes : List (Option Str)
  deriving DecidableEq

/-- The kinds of objects; of a namespace there is its name only. -/
inductive Kind where
  | pv
  | pvc
  | pod
  | ns
  deriving DecidableEq

namespace Kind

/-- The objects of a kind. -/
@[reducible] def Obj : Kind → Type
  | pv => PersistentVolume
  | pvc => PersistentVolumeClaim
  | pod => Pod
  | ns => Str

/-- Namespace and name; the namespace is empty where the kind has none. -/
def key : (k : Kind) → k.Obj → Str × Str
  | pv, v => ([], v.name)
  | pvc, claim => (claim.ns, claim.name)
  | pod, p => (p.ns, p.name)
  | ns, name => ([], name)

/-- The names the API server takes. -/
def valid : (k : Kind) → k.Obj → Bool
  | ns, name => isDNS1123Label name
  | k, obj => isDNS1123Subdomain (k.key obj).2

instance : (k : Kind) → DecidableEq k.Obj
  | pv => inferInstanceAs (DecidableEq PersistentVolume)
  | pvc => inferInstanceAs (DecidableEq PersistentVolumeClaim)
  | pod => inferInstanceAs (DecidableEq Pod)
  | ns => inferInstanceAs (DecidableEq Str)

end Kind

/-- The API server of volumes and claims. -/
@[reducible] def schema : Schema where
  Kind := Kind
  Key := Str × Str
  Obj := Kind.Obj
  key := fun {k} obj => k.key obj
  valid := fun {k} obj => k.valid obj

/-- What these programs find stored. -/
abbrev Cluster := State schema

/-- An object as it is stored. -/
abbrev Stored (k : Kind) := Versioned schema k

/-- A program of a controller, or a handler. -/
abbrev VolumeTask := Task schema

/-- A call whose error the program returns. -/
abbrev call (c : Objects.Call schema) : VolumeTask c.Reply := invoke c

/-- A call whose error the program looks at. -/
abbrev attempt (c : Objects.Call schema) : VolumeTask (Except Objects.Error c.Reply) := Action.tryCall c

/-- A loop that ends with the first error. -/
def forEach {α : Type} (body : α → VolumeTask Unit) : List α → VolumeTask Unit
  | [] => pure ()
  | a :: rest => do
    body a
    forEach body rest

/-! ## 2. Labels -/

/-- `KalmLabelManaged`. -/
def kalmLabelManaged : Str := str "kalm-managed"

/-- `KalmLabelComponentKey`. -/
def kalmLabelComponentKey : Str := str "kalm-component"

/-- `KalmLabelNamespaceKey`. -/
def kalmLabelNamespaceKey : Str := str "kalm-namespace"

/-- `KalmLabelPV`. -/
def kalmLabelPV : Str := str "kalm-pv"

/-- `KalmLabelCleanIfPVCGone`. -/
def kalmLabelCleanIfPVCGone : Str := str "clean-if-claimed-pvc-gone"

/-- `KalmLabelPVLocker`. -/
def kalmLabelPVLocker : Str := str "kalm-pv-locker"

/-- `ControllerKalmPV`. -/
def controllerKalmPV : Str := str "controller-kalm-pv"

/-- `ControllerComponent`. -/
def controllerComponent : Str := str "controller-component"

/-- `KalmSystemNamespace`. -/
def kalmSystemNamespace : Str := str "kalm-system"

namespace PersistentVolume

/-- The label under a key, where it is there. -/
def lookup (pv : PersistentVolume) (key : Str) : Option Str := pv.labels.bind fun labels => labels.lookup key

/-- The label under a key; the empty one where it is not there. -/
def label (pv : PersistentVolume) (key : Str) : Str := (pv.lookup key).getD []

/-- The volume with a label, in a new map where there was none. -/
def withLabel (key value : Str) (pv : PersistentVolume) : PersistentVolume :=
  { pv with labels := some ((pv.labels.getD ∅).insert key value) }

/-- The volume without a label. -/
def withoutLabel (key : Str) (pv : PersistentVolume) : PersistentVolume :=
  { pv with labels := pv.labels.map fun labels => labels.erase key }

end PersistentVolume

/-- `cleanPVToBeAvailable`. -/
def cleanPVToBeAvailable (pv : PersistentVolume) : PersistentVolume :=
  { pv with claimRef := none }.withoutLabel kalmLabelCleanIfPVCGone

/-- The namespace and the name of a claim in one label. -/
def nsAndName (claim : Str × Str) : Str := claim.1 ++ dash :: claim.2

/-! ## 3. Pods that use a claim -/

/-- `isPVCInUse`: one of the pods has a volume with the name of the claim. -/
def isPVCInUse (pvc : PersistentVolumeClaim) (pods : List Pod) : Bool :=
  pods.any fun pod => pod.volumes.contains (some pvc.name)

/-- The pods of a namespace. -/
def podsOf (ns : Str) (pods : List (Stored .pod)) : List Pod :=
  (pods.map fun pod => (pod.obj : Pod)).filter fun pod => pod.ns = ns

/-- Is a claim in use? Not found is an error; any other error leaves the list of pods empty. -/
def claimInUse (pvc : PersistentVolumeClaim) : VolumeTask Bool := do
  match ← attempt (.list .pod) with
  | .ok pods => pure (isPVCInUse pvc (podsOf pvc.ns pods))
  | .error .notFound => .fail .notFound
  | .error _ => pure (isPVCInUse pvc [])

/-- `pvcIsInUsed`, of the controller of the components. -/
def pvcIsInUsed (pvc : PersistentVolumeClaim) : VolumeTask Bool := claimInUse pvc

/-- `IsPVCInUse`, of the API server. -/
def resourceManagerIsPVCInUse (pvc : PersistentVolumeClaim) : VolumeTask Bool := claimInUse pvc

/-! ## 4. A component takes over a volume -/

/-- The old claim is deleted, and the volume freed; its labels are assigned to. An update that fails is no
    error. -/
def takeFrom (pv : Stored .pv) (ownerPVC : Stored .pvc) : VolumeTask Unit := do
  call (.delete .pvc ownerPVC.key)
  let freed := cleanPVToBeAvailable pv.obj
  if freed.labels = none then .crash
  else do
    let _ ← attempt (.update .pv ⟨freed.withLabel kalmLabelPVLocker controllerComponent, pv.version⟩)
    pure ()

/-- `reconcilePVForReUse`; an event warns where a claim cannot be deleted. -/
def reconcilePVForReUse (pvc : PersistentVolumeClaim) (pvName : Str) : VolumeTask Unit :=
  if pvc.volumeName = pvName then pure ()
  else do
    let pv : Stored .pv ← call (.get .pv ([], pvName))
    match PersistentVolume.claimRef pv.obj with
    | none => pure ()
    | some owner =>
      match ← attempt (.get .pvc owner) with
      | .error .notFound =>
        let _ ← attempt (.update .pv ⟨cleanPVToBeAvailable pv.obj, pv.version⟩)
        pure ()
      | .error e => .fail e
      | .ok ownerPVC =>
        if PersistentVolume.reclaimPolicy pv.obj ≠ .retain then pure ()
        else if ← pvcIsInUsed (Versioned.obj ownerPVC) then pure ()
        else takeFrom pv ownerPVC

/-- `getPVC`. -/
def getPVC (ns pvcName : Str) : VolumeTask (Option (Stored .pvc)) := do
  let pvcs : List (Stored .pvc) ← call (.list .pvc)
  pure (pvcs.find? fun pvc => pvc.key = (ns, pvcName))

/-- A volume of a component that is a claim; `pvToMatch` is empty where no volume is asked for. -/
structure Disk where
  ns : Str
  pvc : Str
  labels : ObjectLabels
  size : Str
  storageClassName : Option Str
  pvToMatch : Str

/-- The claim that is created for it. -/
def Disk.expectedPVC (disk : Disk) : PersistentVolumeClaim where
  ns := disk.ns
  name := disk.pvc
  labels := disk.labels
  volumeName := []
  storage := disk.size
  storageClassName := disk.storageClassName
  selector := if disk.pvToMatch = [] then none else some ((∅ : ObjectLabels).insert kalmLabelPV disk.pvToMatch)

/-- A claim of `prepareVolsForSimpleWorkload` that is not there yet: it is to be created when the volume it asks
    for is ready. -/
def prepareClaim (disk : Disk) : VolumeTask (Option PersistentVolumeClaim) := do
  match ← getPVC disk.ns disk.pvc with
  | some _ => pure none
  | none =>
    if disk.pvToMatch ≠ [] then reconcilePVForReUse disk.expectedPVC disk.pvToMatch
    pure (some disk.expectedPVC)

/-! ## 5. A user deletes a claim -/

/-- The errors of the handler that no call returns. -/
inductive Refusal where
  | noNamespaceEditorRole (ns : Str)
  | pvcInUse
  deriving DecidableEq

/-- The volume of the claim is marked; it is deleted when the claim is gone. -/
def markVolume (claim : Str × Str) (pvc : Stored .pvc) (pvs : List (Stored .pv)) : VolumeTask Unit :=
  match pvs.find? fun pv => PersistentVolume.claimRef pv.obj = some claim with
  | none => pure ()
  | some pv =>
    call (.update .pv ⟨PersistentVolume.withLabel kalmLabelCleanIfPVCGone (nsAndName pvc.key) pv.obj, pv.version⟩)

/-- `handleDeletePVC`. -/
def handleDeletePVC (P : PolicySet) (user : ClientInfo) (claim : Str × Str) : VolumeTask (Except Refusal Unit) :=
  match canEditNamespace P user claim.1 with
  | none => .crash
  | some false => pure (.error (.noNamespaceEditorRole claim.1))
  | some true => do
    let pvc : Stored .pvc ← call (.get .pvc claim)
    if ← resourceManagerIsPVCInUse pvc.obj then pure (.error .pvcInUse)
    else
      let pvs : List (Stored .pv) ← call (.list .pv)
      markVolume claim pvc pvs
      call (.delete .pvc pvc.key)
      pure (.ok ())

/-! ## 6. The controller of the volumes -/

/-- One volume in `reconcileDeleteOfPVWithSpecialCleanLabel`: it is deleted when it is marked with the claim it
    has, and that is gone. -/
def deleteIfClaimGone (pv : Stored .pv) : VolumeTask Unit :=
  match PersistentVolume.lookup pv.obj kalmLabelCleanIfPVCGone, PersistentVolume.claimRef pv.obj with
  | some pvcNsAndName, some claim =>
    if pvcNsAndName ≠ nsAndName claim then pure ()
    else do
      match ← attempt (.get .pvc claim) with
      | .ok _ => pure ()
      | .error .notFound => call (.delete .pv pv.key)
      | .error e => .fail e
  | _, _ => pure ()

/-- `reconcileDeleteOfPVWithSpecialCleanLabel`. -/
def reconcileDeleteOfPVWithSpecialCleanLabel (kalmPVs : List (Stored .pv)) : VolumeTask Unit :=
  forEach deleteIfClaimGone kalmPVs

/-- The name of the claim for a volume without one. -/
def orphanName (pvName : Str) : Str := str "pvc-orphan-" ++ pvName

/-- The claim for a volume without one. -/
def orphanPVC (pv : PersistentVolume) : PersistentVolumeClaim where
  ns := kalmSystemNamespace
  name := orphanName pv.name
  labels := (((∅ : ObjectLabels).insert kalmLabelManaged (str "true")).insert kalmLabelComponentKey
    (pv.label kalmLabelComponentKey)).insert kalmLabelNamespaceKey (pv.label kalmLabelNamespaceKey)
  volumeName := []
  storage := pv.storage
  storageClassName := some pv.storageClassName
  selector := some ((∅ : ObjectLabels).insert kalmLabelPV pv.name)

/-- The claim is created where it is not there. -/
def ensureOrphanPVC (pv : PersistentVolume) : VolumeTask Unit := do
  match ← attempt (.get .pvc (kalmSystemNamespace, orphanName pv.name)) with
  | .ok _ => pure ()
  | .error .notFound => call (.create .pvc (orphanPVC pv))
  | .error e => .fail e

/-- The volume has a claim, whose namespace and whose name are others than those of the claim for a volume
    without one. -/
def claimedElsewhere (pv : PersistentVolume) : Bool :=
  match pv.claimRef with
  | none => false
  | some claim => claim.1 ≠ kalmSystemNamespace && claim.2 ≠ orphanName pv.name

/-- `reconcileOrphanPV`. -/
def reconcileOrphanPV (orphanPV : Stored .pv) : VolumeTask Unit :=
  let pv : PersistentVolume := orphanPV.obj
  if pv.label kalmLabelManaged ≠ str "true" ∨ pv.label kalmLabelCleanIfPVCGone ≠ [] then pure ()
  else if pv.label kalmLabelPVLocker ≠ [] ∧ pv.label kalmLabelPVLocker ≠ controllerKalmPV then pure ()
  else do
    if claimedElsewhere pv then call (.update .pv ⟨cleanPVToBeAvailable pv, orphanPV.version⟩)
    ensureOrphanPVC pv

/-- The volume with the labels of its claim, and without the lock. -/
def labelled (pv : PersistentVolume) (pvc : PersistentVolumeClaim) : PersistentVolume :=
  ((((pv.withLabel kalmLabelManaged (str "true")).withLabel kalmLabelComponentKey
    ((pvc.labels.lookup kalmLabelComponentKey).getD [])).withLabel kalmLabelNamespaceKey
    ((pvc.labels.lookup kalmLabelNamespaceKey).getD [])).withLabel kalmLabelPV pv.name).withoutLabel
    kalmLabelPVLocker

/-- `reconcilePV`. -/
def reconcilePV (pvName : Str) : VolumeTask Unit := do
  match ← attempt (.get .pv ([], pvName)) with
  | .error .notFound => pure ()
  | .error e => .fail e
  | .ok pv =>
    match PersistentVolume.claimRef (Versioned.obj pv) with
    | none => pure ()
    | some claim =>
      match ← attempt (.get .pvc claim) with
      | .error .notFound => reconcileOrphanPV pv
      | .error e => .fail e
      | .ok pvc =>
        if (PersistentVolumeClaim.labels (Versioned.obj pvc)).lookup kalmLabelManaged ≠ some (str "true") then pure ()
        else call (.update .pv ⟨labelled (Versioned.obj pv) (Versioned.obj pvc), Versioned.version pv⟩)

/-- The order in which a map is gone through. -/
structure MapOrder where
  order : List Str → List Str
  perm : ∀ keys, (order keys).Perm keys

/-- The namespaces of the claims of the volumes. -/
def claimNamespaces (pvs : List (Stored .pv)) : List Str :=
  (pvs.filterMap fun pv => (PersistentVolume.claimRef pv.obj).map Prod.fst).dedup

/-- The namespaces of these that are not there. -/
def missingNamespaces : List Str → VolumeTask (List Str)
  | [] => pure []
  | ns :: rest => do
    match ← attempt (.get .ns ([], ns)) with
    | .ok _ => missingNamespaces rest
    | .error .notFound => return ns :: (← missingNamespaces rest)
    | .error e => .fail e

/-- The volumes without a claim, and those whose claim is in a namespace that is not there. -/
def orphans (missing : List Str) (pvs : List (Stored .pv)) : List (Stored .pv) :=
  pvs.filter fun pv =>
    match PersistentVolume.claimRef pv.obj with
    | none => true
    | some claim => missing.contains claim.1

/-- `reconcileOrphanPVs`. -/
def reconcileOrphanPVs (o : MapOrder) (kalmPVs : List (Stored .pv)) : VolumeTask Unit := do
  let missing ← missingNamespaces (o.order (claimNamespaces kalmPVs))
  forEach reconcileOrphanPV (orphans missing kalmPVs)

/-- `reconcileForPVCChange`. -/
def reconcileForPVCChange (o : MapOrder) : VolumeTask Unit := do
  let pvs : List (Stored .pv) ← call (.list .pv)
  let kalmPVs := pvs.filter fun pv => PersistentVolume.lookup pv.obj kalmLabelManaged = some (str "true")
  reconcileDeleteOfPVWithSpecialCleanLabel kalmPVs
  reconcileOrphanPVs o kalmPVs

/-! ## 7. A volume and its claim -/

/-- Nothing is stored. -/
def emptyCluster : Cluster := ⟨fun _ => Keyed.Store.empty, 0⟩

/-- The volume of the claim `bank/ledger`. -/
def ledgerVolume : PersistentVolume where
  name := str "pv-ledger"
  labels := some (((∅ : ObjectLabels).insert kalmLabelManaged (str "true")).insert kalmLabelPV (str "pv-ledger"))
  claimRef := some (str "bank", str "ledger")
  reclaimPolicy := .retain
  storage := str "1Gi"
  storageClassName := str "standard"

/-- The claim `bank/ledger`. -/
def ledgerClaim : PersistentVolumeClaim where
  ns := str "bank"
  name := str "ledger"
  labels := (∅ : ObjectLabels).insert kalmLabelManaged (str "true")
  volumeName := str "pv-ledger"
  storage := str "1Gi"
  storageClassName := some (str "standard")
  selector := none

/-- A component in another namespace asks for the volume. -/
def copyDisk : Disk where
  ns := str "shop"
  pvc := str "copy"
  labels := ∅
  size := str "1Gi"
  storageClassName := some (str "standard")
  pvToMatch := str "pv-ledger"

end Kalm.Volumes
