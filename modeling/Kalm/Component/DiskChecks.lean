/-
  File:      Kalm/Component/DiskChecks.lean
  Subject:   THE WEBHOOK OF COMPONENTS: `validateVolumesOfComponent`, `validatePreInjectedFiles` and `ValidateUpdate`
             of controller/api/v1alpha1/component_webhook.go.

  * `validate` -- what is wrong with the volumes and the files; the checks of other fields are parameters;
  * `getStsTemplateVolMap`, `isIdenticalVolMap` -- the claim templates of a StatefulSet, compared by their names;
  * `validateUpdate` -- the error for templates that differ, and those of the new component;
  * `isIdenticalVolMap_eq_none_iff` -- which templates are taken for the same, where the names of each component are
    distinct.
-/
import Kalm.Component.Disks
import Kalm.Lib.Mirror
import Kalm.Route.Objects

namespace Kalm.Disks

open Mirror (Table)

/-! ## 1. Volumes and files -/

/-- `field.Invalid` as a text. -/
def invalidValue (path value detail : Str) : Str :=
  path ++ str ": Invalid value: \"" ++ value ++ str "\": " ++ detail

/-- The path of a volume, or of a field of it. -/
def volumePath (i : Nat) (field : Str) : Str := str ".spec.volumes[" ++ itoa i ++ str "]" ++ field

/-- `ValidateResourceQuantityValue`. -/
def validateResourceQuantityValue (value : Quantity) (path : Str) : List KalmValidateError :=
  reportIf (value.amount < 0) ⟨invalidValue path value.text (str "must be greater than or equal to 0"), path⟩

/-- The checks of one volume. -/
def validateVolume (vol : Volume) (i : Nat) : List KalmValidateError :=
  reportIf (isValidPath vol.path = false) ⟨str "invalid path:" ++ vol.path, volumePath i (str ".path")⟩ ++
  validateResourceQuantityValue vol.size (volumePath i (str ".size")) ++
  reportIf (vol.isClaim = true ∧ vol.pvc = []) ⟨str "must set pvc for this volume", volumePath i []⟩ ++
  reportIf (vol.type = .hostPath ∧ vol.hostPath = [])
    ⟨str "must set hostPath for this volume", volumePath i (str ".hostPath")⟩ ++
  reportIf (vol.type = .hostPath ∧ vol.path = [])
    ⟨str "must set path for this volume", volumePath i (str ".path")⟩

/-- A type of volume that a workload does not use. -/
def wrongType (workload used instead : Str) : Str :=
  str "for workload " ++ workload ++ str ", use " ++ used ++ str " instead of " ++ instead

/-- The name of a workload. -/
def workloadValue : Option Components.Workload → Str
  | none => []
  | some .server => str "server"
  | some .cronjob => str "cronjob"
  | some .daemonset => str "daemonset"
  | some .statefulset => str "statefulset"

/-- `isStatelessWorkload`. -/
def isStatelessWorkload (component : Component) : Bool :=
  component.spec.workloadType = some .server || component.spec.workloadType = some .daemonset ||
    component.spec.workloadType = some .cronjob

/-- `validateVolumesOfComponent`. -/
def validateVolumesOfComponent (component : Component) : List KalmValidateError :=
  let vols := component.spec.volumes.zipIdx
  (vols.flatMap fun x => validateVolume x.1 x.2) ++
  (if component.spec.workloadType = some .statefulset then
    vols.flatMap fun x => reportIf (x.1.type = .persistentVolumeClaim)
      ⟨wrongType (str "statefulset") (str "pvcTemplate") (str "pvc"), volumePath x.2 (str ".type")⟩
    else []) ++
  (if component.spec.workloadType = some .server then
    vols.flatMap fun x => reportIf (x.1.type = .persistentVolumeClaimTemplate)
      ⟨wrongType (str "server") (str "pvc") (str "pvcTemplate"), volumePath x.2 (str ".type")⟩
    else []) ++
  reportIf (isStatelessWorkload component = true ∧ (∃ n ∈ component.spec.replicas, 1 < n) ∧
      ∃ vol ∈ component.spec.volumes, vol.type = .persistentVolumeClaim)
    ⟨str "stateless workload " ++ workloadValue component.spec.workloadType ++
      str " that has more than 1 replicas can't use ReadWriteOnce PVC", str ".spec.replicas"⟩

/-- `validatePreInjectedFiles`. -/
def validatePreInjectedFiles (component : Component) : List KalmValidateError :=
  component.spec.preInjectedFiles.zipIdx.flatMap fun x =>
    reportIf (isValidPath x.1.mountPath = false)
      ⟨str "should start with: /", str ".spec.preInjectedFiles[" ++ itoa x.2 ++ str "]"⟩

/-- The checks of fields that are not read here, in front of those of the volumes and behind them. -/
structure OtherChecks where
  front : ComponentSpec → List KalmValidateError
  runnerPermission : ComponentSpec → List KalmValidateError

/-- No other field is checked. -/
def noChecks : OtherChecks := ⟨fun _ => [], fun _ => []⟩

/-- `Component.validate`. -/
def validate (checks : OtherChecks) (component : Component) : List KalmValidateError :=
  checks.front component.spec ++ validateVolumesOfComponent component ++ checks.runnerPermission component.spec ++
    validatePreInjectedFiles component

/-! ## 2. Updates -/

/-- The claim templates that are compared. -/
def templatesOf (component : Component) : List Volume :=
  if component.spec.workloadType = some .statefulset then
    component.spec.volumes.filter fun vol => vol.type = .persistentVolumeClaimTemplate
  else []

/-- A map from the names of claims; the last volume with a name is kept. -/
def volMap (vols : List Volume) : Table Str Volume := vols.foldl (fun rst vol => rst.insert vol.pvc vol) ∅

/-- `getStsTemplateVolMap`. -/
def getStsTemplateVolMap (component : Component) : Table Str Volume := volMap (templatesOf component)

/-- What is wrong with one volume, beside the old one of its name. -/
def volChange (volName : Str) (volNew : Volume) : Option Volume → Option Str
  | none => some (str "volume not exist in old resource: " ++ volName)
  | some volOld =>
    if volNew.size.equal volOld.size = false then
      some (str "volume size changed, " ++ volOld.size.text ++ str " -> " ++ volNew.size.text)
    else
      match volNew.storageClassName, volOld.storageClassName with
      | some scNew, some scOld =>
        if scNew ≠ scOld then some (str "not same storage class: " ++ scOld ++ str " -> " ++ scNew) else none
      | _, _ => none

/-- `isIdenticalVolMap`: no error where the maps are taken for the same; the names come in the order of a map. -/
def isIdenticalVolMap (o : Volumes.MapOrder) (mapNew mapOld : Table Str Volume) : Option Str :=
  if mapNew.keys.length ≠ mapOld.keys.length then some (str "vol size not the same")
  else (o.order mapNew.keys).findSome? fun volName =>
    (mapNew.lookup volName).bind fun volNew => volChange volName volNew (mapOld.lookup volName)

/-- The error for templates that differ. -/
def volumeError (o : Volumes.MapOrder) (new old : Component) : List KalmValidateError :=
  if new.spec.workloadType = some .statefulset then
    match isIdenticalVolMap o (getStsTemplateVolMap new) (getStsTemplateVolMap old) with
    | none => []
    | some err => [⟨str "should not update volume of type: pvcTemplate for workload: statefulset, err: " ++ err,
        str "spec.volumes"⟩]
  else []

/-- `ValidateUpdate`. -/
def validateUpdate (checks : OtherChecks) (o : Volumes.MapOrder) (new old : Component) : List KalmValidateError :=
  volumeError o new old ++ validate checks new

/-! ## 3. Templates whose names are distinct -/

/-- The names of the templates are distinct. -/
def DistinctNames (vols : List Volume) : Prop := (vols.map Volume.pvc).Nodup

instance (vols : List Volume) : Decidable (DistinctNames vols) := inferInstanceAs (Decidable (List.Nodup _))

variable {vols new old : List Volume} {o : Volumes.MapOrder}

/-- **The map has every template under its name**, where the names are distinct. -/
theorem volMap_spec (h : DistinctNames vols) :
    (volMap vols).keys.Perm (vols.map Volume.pvc) ∧ ∀ vol ∈ vols, (volMap vols).lookup vol.pvc = some vol := by
  induction vols using List.reverseRecOn with
  | nil => exact ⟨List.Perm.refl [], fun vol hvol => absurd hvol List.not_mem_nil⟩
  | append_singleton vols last ih =>
      unfold DistinctNames at h
      rw [List.map_append, List.map_singleton, ← List.concat_eq_append, List.nodup_concat] at h
      obtain ⟨hfresh, hfront⟩ := h
      obtain ⟨hkeys, hlookup⟩ := ih hfront
      have hmap : volMap (vols ++ [last]) = (volMap vols).insert last.pvc last := by
        rw [volMap, List.foldl_append]
        rfl
      rw [hmap]
      refine ⟨?_, fun vol hvol => ?_⟩
      · have hnot : last.pvc ∉ (volMap vols).keys := fun hmem => hfresh (hkeys.mem_iff.mp hmem)
        have hfirst : ((volMap vols).insert last.pvc last).keys = last.pvc :: (volMap vols).keys := by
          rw [AList.keys, AList.entries_insert_of_notMem hnot]
          rfl
        rw [hfirst, List.map_append]
        exact (hkeys.cons last.pvc).trans (List.perm_append_singleton _ _).symm
      · rcases List.mem_append.mp hvol with hvol | hvol
        · have hne : vol.pvc ≠ last.pvc := fun heq => hfresh (heq ▸ List.mem_map_of_mem hvol)
          rw [AList.lookup_insert_ne hne]
          exact hlookup vol hvol
        · rw [List.mem_singleton.mp hvol]
          exact AList.lookup_insert _

/-- The volume under a name is a template of this name. -/
theorem lookup_volMap_iff (h : DistinctNames vols) {name : Str} {vol : Volume} :
    (volMap vols).lookup name = some vol ↔ vol ∈ vols ∧ vol.pvc = name := by
  obtain ⟨hkeys, hlookup⟩ := volMap_spec h
  constructor
  · intro hfound
    have hmem : name ∈ (volMap vols).keys := by
      rw [← AList.mem_keys, ← AList.lookup_isSome, hfound]
      rfl
    obtain ⟨v, hv, rfl⟩ := List.mem_map.mp (hkeys.mem_iff.mp hmem)
    rw [hlookup v hv] at hfound
    cases hfound
    exact ⟨hv, rfl⟩
  · rintro ⟨hvol, rfl⟩
    exact hlookup vol hvol

/-- The new template is taken for the old one. -/
structure Alike (vNew vOld : Volume) : Prop where
  name : vOld.pvc = vNew.pvc
  size : vNew.size.amount = vOld.size.amount
  classes : ∀ scNew ∈ vNew.storageClassName, ∀ scOld ∈ vOld.storageClassName, scNew = scOld

/-- The templates have the same names, and are taken for the same. -/
def AllAlike (new old : List Volume) : Prop :=
  new.length = old.length ∧ ∀ vNew ∈ new, ∃ vOld ∈ old, Alike vNew vOld

theorem volChange_eq_none_iff {name : Str} {vNew vOld : Volume} (hname : vNew.pvc = name) (hname' : vOld.pvc = name) :
    volChange name vNew (some vOld) = none ↔ Alike vNew vOld := by
  have hiff : Alike vNew vOld ↔ vNew.size.amount = vOld.size.amount ∧
      ∀ scNew ∈ vNew.storageClassName, ∀ scOld ∈ vOld.storageClassName, scNew = scOld :=
    ⟨fun h => ⟨h.size, h.classes⟩, fun h => ⟨hname'.trans hname.symm, h.1, h.2⟩⟩
  rw [hiff, volChange, Quantity.equal]
  by_cases hsize : vNew.size.amount = vOld.size.amount
  · rw [if_neg (by simpa using hsize), and_iff_right hsize]
    cases vNew.storageClassName with
    | none => simp
    | some scNew =>
        cases vOld.storageClassName with
        | none => simp
        | some scOld => simp
  · rw [if_pos (by simpa using hsize)]
    simp [hsize]

/-- **The maps are taken for the same** exactly where the templates are alike. -/
theorem isIdenticalVolMap_eq_none_iff (hnew : DistinctNames new) (hold : DistinctNames old) :
    isIdenticalVolMap o (volMap new) (volMap old) = none ↔ AllAlike new old := by
  obtain ⟨hkeysNew, hlookupNew⟩ := volMap_spec hnew
  obtain ⟨hkeysOld, _⟩ := volMap_spec hold
  have hlength : (volMap new).keys.length = (volMap old).keys.length ↔ new.length = old.length := by
    rw [hkeysNew.length_eq, hkeysOld.length_eq, List.length_map, List.length_map]
  unfold isIdenticalVolMap AllAlike
  by_cases hsame : new.length = old.length
  · rw [if_neg (not_not_intro (hlength.mpr hsame)), and_iff_right hsame, List.findSome?_eq_none_iff]
    constructor
    · intro h vNew hvNew
      have hkey := ((o.perm _).trans hkeysNew).mem_iff.mpr (List.mem_map_of_mem hvNew)
      have hnone := h vNew.pvc hkey
      rw [hlookupNew vNew hvNew, Option.bind_some] at hnone
      cases hfound : (volMap old).lookup vNew.pvc with
      | none =>
          rw [hfound] at hnone
          cases hnone
      | some vOld =>
          obtain ⟨hvOld, hname⟩ := (lookup_volMap_iff hold).mp hfound
          rw [hfound] at hnone
          exact ⟨vOld, hvOld, (volChange_eq_none_iff rfl hname).mp hnone⟩
    · intro h name hname
      obtain ⟨vNew, hvNew, rfl⟩ := List.mem_map.mp (((o.perm _).trans hkeysNew).mem_iff.mp hname)
      obtain ⟨vOld, hvOld, halike⟩ := h vNew hvNew
      rw [hlookupNew vNew hvNew, Option.bind_some, (lookup_volMap_iff hold).mpr ⟨hvOld, halike.name⟩]
      exact (volChange_eq_none_iff rfl halike.name).mpr halike
  · rw [if_pos (mt hlength.mp hsame)]
    exact iff_of_false (Option.some_ne_none _) fun h => hsame h.1

end Kalm.Disks
