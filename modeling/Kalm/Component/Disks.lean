/-
  File:      Kalm/Component/Disks.lean
  Subject:   VOLUMES OF A COMPONENT: `preparePreInjectedFiles`, `prepareVolsForSTS` and `prepareVolsForSimpleWorkload`
             of controller/controllers/component_controller.go.

  * `Volume`, `PreInjectFile`, `Component` -- what is asked for;
  * `PodTemplate`, `ClaimTemplate` -- what is made of it;
  * `preparePreInjectedFiles`, `prepareVolsForSTS`, `prepareVolsForSimpleWorkload`;
  * `claimTemplates`, `claims_of_prepareVolsForSTS` -- the claim templates of a StatefulSet.

  The hash is not computed here: it is a function from texts to sixteen bytes.
-/
import Kalm.Component.Spec
import Kalm.Go.Base64
import Kalm.Volumes.Claims

namespace Kalm.Disks

open Volumes (VolumeTask call kalmLabelManaged kalmLabelComponentKey kalmLabelNamespaceKey)

/-! ## 1. What is asked for -/

/-- `resource.Quantity`: the amount in billionths, and the text that is printed. -/
structure Quantity where
  amount : Int
  text : Str
  deriving DecidableEq

/-- `Quantity.Equal`. -/
def Quantity.equal (a b : Quantity) : Bool := a.amount = b.amount

/-- The value of a `VolumeType`. -/
def typeValue : VolumeType → Str
  | .temporaryMemory => str "emptyDirMemory"
  | .temporaryDisk => str "emptyDir"
  | .persistentVolumeClaim => str "pvc"
  | .persistentVolumeClaimTemplate => str "pvcTemplate"
  | .hostPath => str "hostpath"
  | .other name => name

/-- `Volume`. -/
structure Volume where
  path : Str
  hostPath : Str
  size : Quantity
  type : VolumeType
  storageClassName : Option Str
  pvToMatch : Str
  pvc : Str
  deriving DecidableEq

/-- The disk is a claim. -/
def Volume.isClaim (disk : Volume) : Bool :=
  disk.type = .persistentVolumeClaim || disk.type = .persistentVolumeClaimTemplate

/-- `PreInjectFile`. -/
structure PreInjectFile where
  content : Str
  base64 : Bool
  mountPath : Str
  readonly : Bool
  runnable : Bool
  deriving DecidableEq

/-- `ComponentSpec`; no workload type is the empty one, and `rest` are the fields that are not read here, as they
    stand. -/
structure ComponentSpec where
  labels : ObjectLabels
  workloadType : Option Components.Workload
  replicas : Option Int
  volumes : List Volume
  preInjectedFiles : List PreInjectFile
  rest : Str
  deriving DecidableEq

/-- `Component`. -/
structure Component where
  ns : Str
  name : Str
  spec : ComponentSpec
  deriving DecidableEq

/-- The component is a StatefulSet. -/
def Component.isSts (component : Component) : Bool := component.spec.workloadType = some .statefulset

/-! ## 2. What is made of it -/

/-- `VolumeSource`. -/
inductive VolumeSource where
  | emptyDir (memory : Bool)
  | hostPath (path : Str)
  | persistentVolumeClaim (claimName : Str)
  deriving DecidableEq

/-- `coreV1.Volume`. -/
structure PodVolume where
  name : Str
  source : VolumeSource
  deriving DecidableEq

/-- `VolumeMount`. -/
structure VolumeMount where
  name : Str
  mountPath : Str
  subPath : Str
  readOnly : Bool
  deriving DecidableEq

/-- `Container`. -/
structure Container where
  name : Str
  image : Str
  command : List Str
  volumeMounts : List VolumeMount
  deriving DecidableEq

/-- `PodTemplateSpec`; `volumeMounts` are those of the main container. -/
structure PodTemplate where
  initContainers : List Container
  volumes : List PodVolume
  volumeMounts : List VolumeMount
  deriving DecidableEq

/-- A claim template of a StatefulSet. -/
structure ClaimTemplate where
  ns : Str
  name : Str
  labels : ObjectLabels
  storage : Quantity
  storageClassName : Option Str
  deriving DecidableEq

/-- `KalmLabelVolClaimTemplateName`. -/
def kalmLabelVolClaimTemplateName : Str := str "kalm-vol-claim-template-name"

/-- `GetLabels`. -/
def getLabels (component : Component) : ObjectLabels :=
  component.spec.labels ∪
    (((∅ : ObjectLabels).insert kalmLabelNamespaceKey component.ns).insert kalmLabelComponentKey
      component.name).insert kalmLabelManaged (str "true")

/-! ## 3. Files -/

/-- `path.Base`. -/
def pathBase (path : Str) : Str :=
  if path = [] then str "."
  else
    let name := ((path.reverse.dropWhile (· = slash)).takeWhile (· ≠ slash)).reverse
    if name = [] then str "/" else name

/-- The volume that the files are in. -/
def filesVolume : Str := str "pre-injected-files-volume"

/-- `md5.Sum`. -/
abbrev Md5 := Str → Vector UInt8 16

/-- The hashes of `/cache` and `/data`. -/
def sampleMd5 : Md5 := fun path =>
  if path = str "/cache" then #v[60, 63, 6, 10, 3, 116, 252, 139, 195, 147, 149, 22, 79, 65, 90, 112]
  else #v[76, 170, 121, 16, 145, 210, 29, 35, 230, 54, 55, 8, 2, 38, 243, 112]

section Hash

variable (md5 : Md5)

/-- The content of a file as it is written in the command. -/
def PreInjectFile.code (file : PreInjectFile) : Str := if file.base64 then file.content else stdEncode file.content

/-- `baseName`. -/
def PreInjectFile.baseName (file : PreInjectFile) : Str :=
  pathBase file.mountPath ++ dot :: hexEncode (md5 file.code).toList

/-- The commands that write a file. -/
def PreInjectFile.cmd (file : PreInjectFile) : Str :=
  str "echo \"" ++ file.code ++ str "\" | base64 -d > /files/" ++ file.baseName md5 ++ str " && echo \"File " ++
    file.baseName md5 ++ str " created.\"" ++
    if file.runnable then str " && chmod +x /files/" ++ file.baseName md5 else []

/-- The mount of a file. -/
def PreInjectFile.mount (file : PreInjectFile) : VolumeMount where
  name := filesVolume
  mountPath := file.mountPath
  subPath := file.baseName md5
  readOnly := file.readonly

/-- The script of the container that writes the files. -/
def injectScript (files : List PreInjectFile) : Str :=
  (str " && ").intercalate (files.map fun file => file.cmd md5)

/-- The container that writes the files. -/
def injectContainer (files : List PreInjectFile) : Container where
  name := str "inject-files"
  image := str "busybox"
  command := [str "sh", str "-c", injectScript md5 files]
  volumeMounts := [⟨filesVolume, str "/files", [], false⟩]

/-- `preparePreInjectedFiles`: the template, and the first volumes and mounts. -/
def preparePreInjectedFiles (component : Component) (template : PodTemplate) :
    PodTemplate × List PodVolume × List VolumeMount :=
  let files := component.spec.preInjectedFiles
  if files.length ≤ 0 then (template, [], [])
  else
    ({ template with initContainers := template.initContainers ++ [injectContainer md5 files] },
      [⟨filesVolume, .emptyDir false⟩], files.map fun file => file.mount md5)

/-! ## 4. Disks -/

/-- `getVolName`. -/
def getVolName (componentName diskPath : Str) : Str := componentName ++ dash :: hexEncode (md5 diskPath).toList

/-- A volume that is mounted. -/
def mountOf (volName : Str) (disk : Volume) : VolumeMount := ⟨volName, disk.path, [], false⟩

/-- The error for a type that is not known. -/
def unknownDiskType (disk : Volume) : Str := str "unknown disk type: " ++ typeValue disk.type

/-- `expectedVolClaimTemplate`. -/
def expectedVolClaimTemplate (component : Component) (disk : Volume) : ClaimTemplate where
  ns := component.ns
  name := disk.pvc
  labels := (getLabels component).insert kalmLabelVolClaimTemplateName disk.pvc
  storage := disk.size
  storageClassName := disk.storageClassName

/-- What a disk of a StatefulSet is: a volume of its pods, or a claim template. -/
def stsVolume (component : Component) (disk : Volume) : Except Str (PodVolume ⊕ ClaimTemplate) :=
  let volName := getVolName md5 component.name disk.path
  match disk.type with
  | .temporaryDisk => .ok (.inl ⟨volName, .emptyDir false⟩)
  | .temporaryMemory => .ok (.inl ⟨volName, .emptyDir true⟩)
  | .persistentVolumeClaim | .persistentVolumeClaimTemplate => .ok (.inr (expectedVolClaimTemplate component disk))
  | _ => .error (unknownDiskType disk)

/-- The loop of `prepareVolsForSTS`. -/
def stsDisks (component : Component) :
    List Volume → Except Str (List PodVolume × List VolumeMount × List ClaimTemplate)
  | [] => .ok ([], [], [])
  | disk :: rest => do
    let made ← stsVolume md5 component disk
    let (volumes, mounts, templates) ← stsDisks component rest
    match made with
    | .inl volume => .ok (volume :: volumes, mountOf volume.name disk :: mounts, templates)
    | .inr claim => .ok (volumes, mountOf claim.name disk :: mounts, claim :: templates)

/-- `prepareVolsForSTS`. -/
def prepareVolsForSTS (component : Component) (template : PodTemplate) :
    Except Str (PodTemplate × List ClaimTemplate) := do
  let (template, volumes, mounts) := preparePreInjectedFiles md5 component template
  let (diskVolumes, diskMounts, templates) ← stsDisks md5 component component.spec.volumes
  .ok ({ template with volumes := volumes ++ diskVolumes, volumeMounts := mounts ++ diskMounts }, templates)

/-- The claim of a disk. -/
def Volume.claim (component : Component) (disk : Volume) : Volumes.Disk where
  ns := component.ns
  pvc := disk.pvc
  labels := getLabels component
  size := disk.size.text
  storageClassName := disk.storageClassName
  pvToMatch := disk.pvToMatch

/-- A claim that is created where it is not there. -/
def ensureClaim (component : Component) (disk : Volume) : VolumeTask Unit := do
  match ← Volumes.prepareClaim (disk.claim component) with
  | none => pure ()
  | some expectedPVC => call (.create .pvc expectedPVC)

/-- The volume of a disk of a simple workload. -/
def simpleVolume (component : Component) (disk : Volume) : Except Str PodVolume :=
  let volName := getVolName md5 component.name disk.path
  match disk.type with
  | .temporaryDisk => .ok ⟨volName, .emptyDir false⟩
  | .temporaryMemory => .ok ⟨volName, .emptyDir true⟩
  | .hostPath => .ok ⟨volName, .hostPath disk.hostPath⟩
  | .persistentVolumeClaim => .ok ⟨disk.pvc, .persistentVolumeClaim disk.pvc⟩
  | _ => .error (unknownDiskType disk)

/-- What is called for a disk of a simple workload. -/
def readyDisk (component : Component) (disk : Volume) : VolumeTask Unit :=
  if disk.type = .persistentVolumeClaim then ensureClaim component disk else pure ()

/-- The loop of `prepareVolsForSimpleWorkload`. -/
def simpleDisks (component : Component) : List Volume → VolumeTask (Except Str (List PodVolume × List VolumeMount))
  | [] => pure (.ok ([], []))
  | disk :: rest =>
    match simpleVolume md5 component disk with
    | .error e => pure (.error e)
    | .ok volume => do
      readyDisk component disk
      match ← simpleDisks component rest with
      | .error e => pure (.error e)
      | .ok (volumes, mounts) => pure (.ok (volume :: volumes, mountOf volume.name disk :: mounts))

/-- `prepareVolsForSimpleWorkload`. -/
def prepareVolsForSimpleWorkload (component : Component) (template : PodTemplate) :
    VolumeTask (Except Str PodTemplate) := do
  let (template, volumes, mounts) := preparePreInjectedFiles md5 component template
  match ← simpleDisks md5 component component.spec.volumes with
  | .error e => pure (.error e)
  | .ok (diskVolumes, diskMounts) =>
    pure (.ok { template with volumes := volumes ++ diskVolumes, volumeMounts := mounts ++ diskMounts })

end Hash

/-! ## 5. What is made of the disks of a StatefulSet -/

/-- The name under which a disk is mounted. -/
def diskName (md5 : Md5) (component : Component) (disk : Volume) : Str :=
  if disk.isClaim then disk.pvc else getVolName md5 component.name disk.path

/-- The claim templates of a component. -/
def claimTemplates (component : Component) : List ClaimTemplate :=
  (component.spec.volumes.filter Volume.isClaim).map (expectedVolClaimTemplate component)

/-- What is made of the disks, where there is no error. -/
structure StsMade (md5 : Md5) (component : Component) (disks : List Volume) (volumes : List PodVolume)
    (mounts : List VolumeMount) (templates : List ClaimTemplate) : Prop where
  volumes : volumes.map PodVolume.name =
    (disks.filter fun disk => !disk.isClaim).map (diskName md5 component)
  mounts : mounts = disks.map fun disk => mountOf (diskName md5 component disk) disk
  templates : templates = (disks.filter Volume.isClaim).map (expectedVolClaimTemplate component)

variable {md5 : Md5} {component : Component}

/-- A disk is a volume or a claim, as its type says. -/
theorem stsVolume_cases {disk : Volume} {made : PodVolume ⊕ ClaimTemplate}
    (h : stsVolume md5 component disk = .ok made) :
    (disk.isClaim = false ∧ ∃ volume, made = .inl volume ∧ volume.name = diskName md5 component disk) ∨
      (disk.isClaim = true ∧ made = .inr (expectedVolClaimTemplate component disk)) := by
  unfold stsVolume at h
  unfold diskName Volume.isClaim
  cases htype : disk.type <;> rw [htype] at h <;> cases h <;> simp

/-- **The loop makes a volume or a claim template of every disk, and mounts it.** -/
theorem made_of_stsDisks {disks : List Volume} {volumes : List PodVolume} {mounts : List VolumeMount}
    {templates : List ClaimTemplate} (h : stsDisks md5 component disks = .ok (volumes, mounts, templates)) :
    StsMade md5 component disks volumes mounts templates := by
  induction disks generalizing volumes mounts templates with
  | nil =>
      cases h
      exact ⟨rfl, rfl, rfl⟩
  | cons disk disks ih =>
      rw [stsDisks] at h
      cases hmade : stsVolume md5 component disk with
      | error e => rw [hmade] at h; cases h
      | ok made =>
          rw [hmade] at h
          cases hrest : stsDisks md5 component disks with
          | error e => rw [hrest] at h; cases h
          | ok rest =>
              obtain ⟨restVolumes, restMounts, restTemplates⟩ := rest
              rw [hrest] at h
              have hall := ih hrest
              rcases stsVolume_cases hmade with ⟨hclaim, volume, rfl, hname⟩ | ⟨hclaim, rfl⟩
              · cases h
                refine ⟨?_, ?_, ?_⟩
                · simp [hclaim, hname, hall.volumes]
                · simp [hname, hall.mounts]
                · simp [hclaim, hall.templates]
              · cases h
                have hname : diskName md5 component disk = disk.pvc := by simp [diskName, hclaim]
                refine ⟨?_, ?_, ?_⟩
                · simp [hclaim, hall.volumes]
                · simp [hname, hall.mounts, expectedVolClaimTemplate]
                · simp [hclaim, hall.templates]

/-- **The claim templates that are prepared** are those of the claims among the disks. -/
theorem claims_of_prepareVolsForSTS {template made : PodTemplate} {templates : List ClaimTemplate}
    (h : prepareVolsForSTS md5 component template = .ok (made, templates)) :
    templates = claimTemplates component := by
  unfold prepareVolsForSTS at h
  cases hdisks : stsDisks md5 component component.spec.volumes with
  | error e => rw [hdisks] at h; cases h
  | ok disks =>
      obtain ⟨volumes, mounts, claims⟩ := disks
      rw [hdisks] at h
      cases h
      exact (made_of_stsDisks hdisks).templates

end Kalm.Disks
