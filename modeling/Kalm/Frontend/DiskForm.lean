/-
  File:      Kalm/Frontend/DiskForm.lean
  Subject:   DISKS AND RESOURCES IN THE COMPONENT FORM: `correctComponentFormValuesForInit` and
             `correctComponentFormValuesForSubmit` of frontend/src/utils/application.ts, the claims that
             forms/ComponentLike/Disks.tsx offers, and `Component.Default` behind them.

  * `lastWith` -- the loops over the options keep the last one that matches;
  * `correctVolumeForInit`, `correctVolumeForSubmit`, `getClaimNameOptions` -- the form;
  * `SavesSame`, `ChoosingSubmits`, `SubmitsResources` -- what the form should do;
  * `LastOfBoth` -- the last option with the volume's claim is the last one with its name;
  * `form_iff` -- what it does.
-/
import Kalm.Proxy.Groups
import Kalm.Resources.Server
import Kalm.Sso.Urls

namespace Kalm.DiskForm

/-! ## 1. The last one that matches -/

section Last

variable {α β : Type}

/-- What a `forEach` finds that overwrites what it has found. -/
def lastWith (p : α → Bool) (l : List α) : Option α := (l.filter p).getLast?

theorem lastWith_eq_none {p : α → Bool} {l : List α} : lastWith p l = none ↔ ∀ a ∈ l, ¬ p a = true := by
  rw [lastWith, List.getLast?_eq_none_iff, List.filter_eq_nil_iff]

theorem lastWith_spec {p : α → Bool} {l : List α} {a : α} (h : lastWith p l = some a) : a ∈ l ∧ p a = true :=
  List.mem_filter.mp (List.mem_of_getLast? h)

theorem exists_lastWith {p : α → Bool} {l : List α} {a : α} (ha : a ∈ l) (hp : p a = true) :
    ∃ b, lastWith p l = some b := by
  cases h : lastWith p l with
  | some b => exact ⟨b, rfl⟩
  | none => exact absurd hp (lastWith_eq_none.mp h a ha)

/-- The last one stays the last under a second question that it meets. -/
theorem lastWith_and {p : α → Bool} (q : α → Bool) {l : List α} {a : α} (h : lastWith p l = some a)
    (hq : q a = true) : lastWith (fun x => q x && p x) l = some a := by
  obtain ⟨init, hinit⟩ := List.getLast?_eq_some_iff.mp h
  rw [lastWith, ← List.filter_filter, hinit, List.filter_append, List.filter_cons_of_pos hq, List.filter_nil,
    List.getLast?_concat]

/-- Two that are the last and meet the question of each other are one. -/
theorem lastWith_unique {p q : α → Bool} {l : List α} {a b : α} (ha : lastWith p l = some a) (hqa : q a = true)
    (hb : lastWith q l = some b) (hpb : p b = true) : a = b := by
  have hqp := lastWith_and q ha hqa
  have hpq := lastWith_and p hb hpb
  have hcomm : (fun x => p x && q x) = fun x => q x && p x := funext fun x => Bool.and_comm ..
  rw [hcomm, hqp] at hpq
  exact Option.some.inj hpq

/-- **The loop.** -/
theorem foldl_last (p : α → Bool) (f : α → β) (l : List α) (init : β) :
    l.foldl (fun found x => if p x = true then f x else found) init = ((lastWith p l).map f).getD init := by
  induction l using List.reverseRecOn with
  | nil => rfl
  | append_singleton l x ih =>
      rw [List.foldl_append, List.foldl_cons, List.foldl_nil, lastWith, List.filter_append]
      by_cases hx : p x = true
      · rw [if_pos hx, List.filter_cons_of_pos hx, List.filter_nil, List.getLast?_concat]
        rfl
      · rw [if_neg hx, List.filter_cons_of_neg hx, List.filter_nil, List.append_nil, ih]
        rfl

end Last

/-! ## 2. Components in the form -/

/-- `v1alpha1.Volume`; a size is kept as it is written, and a text that is left out is empty. -/
structure ComponentVolume where
  type : VolumeType
  path : Str
  hostPath : Str
  size : Str
  storageClassName : Option Str
  pvToMatch : Str
  pvc : Str
  deriving DecidableEq

/-- `Volume` of the form: the claim name is its own. -/
structure FormVolume extends ComponentVolume where
  claimName : Option Str
  deriving DecidableEq

/-- `VolumeTypePersistentVolumeClaimNew` -/
def volumeTypePersistentVolumeClaimNew : VolumeType := .other (str "pvc-new")

/-- `VolumeTypePersistentVolumeClaimTemplateNew` -/
def volumeTypePersistentVolumeClaimTemplateNew : VolumeType := .other (str "pvcTemplate-new")

/-- A volume that mounts a claim, which the form shows by its name. -/
def mountsClaim (type : VolumeType) : Bool :=
  type = .persistentVolumeClaim || type = .persistentVolumeClaimTemplate

/-- `VolumeOption` -/
structure VolumeOption where
  name : Str
  componentName : Option Str
  capacity : Str
  pvc : Str
  pvToMatch : Str
  storageClassName : Str
  deriving DecidableEq

/-- `state.persistentVolumes`, the options of it. -/
structure PersistentVolumes where
  simpleOptions : List VolumeOption
  statefulSetOptions : List VolumeOption

/-- The value of a cpu or memory field: it has been cleared, a text, or the zero that a negative number becomes. -/
inductive FieldValue where
  | cleared
  | text (s : Str)
  | zero
  deriving DecidableEq

/-- What counts as true in a condition. -/
def FieldValue.truthy : FieldValue → Bool
  | .text s => s ≠ []
  | _ => false

/-- Amounts of resources by their name. -/
abbrev ResourceList := Str → FieldValue

/-- `ResourceRequirements` -/
structure ResourceRequirements where
  limits : ResourceList
  requests : ResourceList

/-- `ApplicationComponent`, what the two conversions read and write of it. -/
structure ApplicationComponent where
  name : Str
  workloadType : Str
  volumes : Option (List FormVolume)
  resourceRequirements : Option ResourceRequirements
  cpuLimit : FieldValue
  memoryLimit : FieldValue
  cpuRequest : FieldValue
  memoryRequest : FieldValue

/-- `getComponentFormVolumeOptions` -/
def getComponentFormVolumeOptions (state : PersistentVolumes) (componentName componentWorkloadType : Str) :
    List VolumeOption :=
  if componentWorkloadType = str "statefulset" then
    state.statefulSetOptions.filter fun statefulSetOption => statefulSetOption.componentName = some componentName
  else state.simpleOptions

/-- The options of a component; a workload without a type is a server. -/
def ApplicationComponent.volumeOptions (state : PersistentVolumes) (component : ApplicationComponent) :
    List VolumeOption :=
  getComponentFormVolumeOptions state component.name
    (if component.workloadType = [] then str "server" else component.workloadType)

/-! ## 3. The conversions -/

/-- `findClaimName` -/
def findClaimName (volumeOptions : List VolumeOption) (pvc : Str) : Str :=
  volumeOptions.foldl (fun claimName vo => if decide (vo.pvc = pvc) = true then vo.name else claimName) []

/-- A volume when the form is opened. -/
def correctVolumeForInit (volumeOptions : List VolumeOption) (v : FormVolume) : FormVolume :=
  if mountsClaim v.type = true then { v with claimName := some (findClaimName volumeOptions v.pvc) } else v

/-- `correctComponentFormValuesForInit` -/
def correctComponentFormValuesForInit (state : PersistentVolumes) (component : ApplicationComponent) :
    ApplicationComponent :=
  { component with
    volumes := component.volumes.map (List.map (correctVolumeForInit (component.volumeOptions state))) }

/-- What `findPVC` returns. -/
structure FindResult where
  pvc : Str
  pvToMatch : Str
  storageClassName : Str
  size : Str

/-- The result for an option. -/
def VolumeOption.result (vo : VolumeOption) : FindResult where
  pvc := vo.pvc
  pvToMatch := vo.pvToMatch
  storageClassName := vo.storageClassName
  size := vo.capacity

/-- `findPVC` -/
def findPVC (volumeOptions : List VolumeOption) (claimName : Option Str) : FindResult :=
  volumeOptions.foldl (fun found vo => if decide (some vo.name = claimName) = true then vo.result else found)
    ⟨[], [], [], []⟩

/-- A volume when the form is saved. -/
def correctVolumeForSubmit (volumeOptions : List VolumeOption) (v : FormVolume) : FormVolume :=
  if mountsClaim v.type = true then
    let findResult := findPVC volumeOptions v.claimName
    { v with
      pvc := findResult.pvc
      pvToMatch := findResult.pvToMatch
      storageClassName := some findResult.storageClassName
      size := findResult.size }
  else if v.type = volumeTypePersistentVolumeClaimNew then { v with type := .persistentVolumeClaim }
  else if v.type = volumeTypePersistentVolumeClaimTemplateNew then { v with type := .persistentVolumeClaimTemplate }
  else v

/-- An amount for cpu and one for memory. -/
def cpuAndMemory (cpu memory : FieldValue) : ResourceList := fun name =>
  if name = str "cpu" then cpu else if name = str "memory" then memory else .cleared

/-- The requirements that the four fields are. -/
def ApplicationComponent.fields (component : ApplicationComponent) : ResourceRequirements where
  limits := cpuAndMemory component.cpuLimit component.memoryLimit
  requests := cpuAndMemory component.cpuRequest component.memoryRequest

/-- One of the four fields is filled in. -/
def ApplicationComponent.anyField (component : ApplicationComponent) : Bool :=
  component.cpuLimit.truthy || component.memoryLimit.truthy || component.cpuRequest.truthy ||
    component.memoryRequest.truthy

/-- `correctComponentFormValuesForSubmit` -/
def correctComponentFormValuesForSubmit (state : PersistentVolumes) (componentValues : ApplicationComponent) :
    ApplicationComponent :=
  { componentValues with
    volumes := componentValues.volumes.map (List.map (correctVolumeForSubmit (componentValues.volumeOptions state)))
    resourceRequirements :=
      if componentValues.anyField = true then some componentValues.fields else componentValues.resourceRequirements }

/-- The properties that every object has in JavaScript. -/
def objectPrototype : List Str :=
  [str "constructor", str "__defineGetter__", str "__defineSetter__", str "hasOwnProperty", str "__lookupGetter__",
    str "__lookupSetter__", str "isPrototypeOf", str "propertyIsEnumerable", str "toString", str "valueOf",
    str "__proto__", str "toLocaleString"]

/-- `getUsingClaimNames`; a claim name that is not set is the property `undefined`. -/
def getUsingClaimNames (volumes : List FormVolume) : List Str :=
  (volumes.filter fun volume => volume.type = .persistentVolumeClaim).map fun volume =>
    volume.claimName.getD (str "undefined")

/-- `getClaimNameOptions`, the options behind the entries. -/
def getClaimNameOptions (volumeOptions : List VolumeOption) (volumes : List FormVolume) (disk : FormVolume) :
    List VolumeOption :=
  volumeOptions.filter fun vo =>
    some vo.name = disk.claimName || !(vo.name ∈ getUsingClaimNames volumes || vo.name ∈ objectPrototype)

/-! ## 4. `Component.Default` -/

/-- The clock and the random number that one volume is defaulted with. -/
structure Draw where
  unix : Int
  rand : Fin 10000

/-- `fmt.Sprintf("pvc-%s-%d-%d", r.Name, time.Now().Unix(), rand.Intn(10000))` -/
def genPVCName (name : Str) (draw : Draw) : Str :=
  str "pvc-" ++ name ++ dash :: formatInt draw.unix ++ dash :: itoa draw.rand

/-- `Component.Default` on one volume. -/
def ComponentVolume.default (genPVCName : Str) (vol : ComponentVolume) : ComponentVolume :=
  match vol.type with
  | .hostPath =>
    if vol.hostPath ≠ [] ∧ vol.path = [] then { vol with path := vol.hostPath }
    else if vol.hostPath = [] ∧ vol.path ≠ [] then { vol with hostPath := vol.path }
    else vol
  | .persistentVolumeClaimTemplate | .persistentVolumeClaim =>
    if vol.pvc = [] then { vol with pvc := genPVCName } else vol
  | _ => vol

/-- The volumes that a save of the values stores. -/
def stored (draws : Nat → Draw) (values : ApplicationComponent) : List ComponentVolume :=
  (values.volumes.getD []).mapIdx fun i v => v.toComponentVolume.default (genPVCName values.name (draws i))

/-! ## 5. The statements -/

/-- What is compared of a volume. -/
structure Attached where
  type : VolumeType
  path : Str
  pvc : Str
  pvToMatch : Str
  size : Str
  storageClassName : Option Str
  deriving DecidableEq

/-- A volume without its host path. -/
def ComponentVolume.attached (v : ComponentVolume) : Attached :=
  ⟨v.type, v.path, v.pvc, v.pvToMatch, v.size, v.storageClassName⟩

/-- **Opening the form and saving it stores the same volumes**, whatever names are drawn. -/
def SavesSame (state : PersistentVolumes) (component : ApplicationComponent) : Prop :=
  ∀ draws : Nat → Draw,
    (stored draws (correctComponentFormValuesForSubmit state
      (correctComponentFormValuesForInit state component))).map ComponentVolume.attached =
      (component.volumes.getD []).map fun v => v.attached

/-- The values after an option has been chosen for a disk. -/
def ApplicationComponent.choose (values : ApplicationComponent) (i : Nat) (vo : VolumeOption) : ApplicationComponent :=
  { values with volumes := values.volumes.map (List.modify · i fun v => { v with claimName := some vo.name }) }

/-- The options that are offered for a disk that mounts a claim. -/
def Offers (state : PersistentVolumes) (values : ApplicationComponent) (i : Nat) (vo : VolumeOption) : Prop :=
  ∃ disk, (values.volumes.getD [])[i]? = some disk ∧ mountsClaim disk.type = true ∧
    vo ∈ getClaimNameOptions (values.volumeOptions state) (values.volumes.getD []) disk

/-- **Choosing an offered option submits its claim and its volume.** -/
def ChoosingSubmits (state : PersistentVolumes) (values : ApplicationComponent) : Prop :=
  ∀ i vo, Offers state values i vo →
    ∃ v, ((correctComponentFormValuesForSubmit state (values.choose i vo)).volumes.getD [])[i]? = some v ∧
      v.pvc = vo.pvc ∧ v.pvToMatch = vo.pvToMatch

/-- **The requirements that are submitted are the four fields.** -/
def SubmitsResources (state : PersistentVolumes) (values : ApplicationComponent) : Prop :=
  (correctComponentFormValuesForSubmit state values).resourceRequirements.getD
    ⟨fun _ => .cleared, fun _ => .cleared⟩ = values.fields

/-- The last option with the claim of the volume is the last with its name, and the volume is as it says. -/
def LastOfBoth (volumeOptions : List VolumeOption) (v : ComponentVolume) : Prop :=
  ∃ vo, lastWith (fun o => decide (o.pvc = v.pvc)) volumeOptions = some vo ∧
    lastWith (fun o => decide (o.name = vo.name)) volumeOptions = some vo ∧ v.pvc ≠ [] ∧
    vo.pvToMatch = v.pvToMatch ∧ some vo.storageClassName = v.storageClassName ∧ vo.capacity = v.size

/-- **What a volume must be like for the form to keep it.** -/
def Kept (volumeOptions : List VolumeOption) (v : ComponentVolume) : Prop :=
  match v.type with
  | .persistentVolumeClaim | .persistentVolumeClaimTemplate => LastOfBoth volumeOptions v
  | .hostPath => v.path = [] → v.hostPath = []
  | type => type ≠ volumeTypePersistentVolumeClaimNew ∧ type ≠ volumeTypePersistentVolumeClaimTemplateNew

/-- The last option with the name of this one names the same claim and volume. -/
def NamesIt (volumeOptions : List VolumeOption) (vo : VolumeOption) : Prop :=
  ∃ last, lastWith (fun o => decide (o.name = vo.name)) volumeOptions = some last ∧ last.pvc = vo.pvc ∧
    last.pvToMatch = vo.pvToMatch

/-! ## 6. One volume -/

theorem findClaimName_eq (volumeOptions : List VolumeOption) (pvc : Str) :
    findClaimName volumeOptions pvc =
      ((lastWith (fun o => decide (o.pvc = pvc)) volumeOptions).map VolumeOption.name).getD [] :=
  foldl_last _ _ _ _

theorem findPVC_eq (volumeOptions : List VolumeOption) (claimName : Str) :
    findPVC volumeOptions (some claimName) =
      ((lastWith (fun o => decide (o.name = claimName)) volumeOptions).map VolumeOption.result).getD
        ⟨[], [], [], []⟩ := by
  have hname : (fun o : VolumeOption => decide (some o.name = some claimName)) = fun o => decide (o.name = claimName) :=
    funext fun o => decide_eq_decide.mpr Option.some_inj
  rw [← hname]
  exact foldl_last _ _ _ _

/-- Two draws do not give one name. -/
theorem genPVCName_ne (name : Str) : genPVCName name ⟨0, 0⟩ ≠ genPVCName name ⟨0, 1⟩ := by
  intro h
  have hdigits := List.append_cancel_left h
  exact absurd (Sso.itoa_inj (List.cons.inj hdigits).2) (by decide)

variable {volumeOptions : List VolumeOption} {v : FormVolume}

/-- A claim that is mounted gets a name where it has none. -/
theorem default_mounts {vol : ComponentVolume} (h : mountsClaim vol.type = true) (genPVCName : Str) :
    vol.default genPVCName = { vol with pvc := if vol.pvc = [] then genPVCName else vol.pvc } := by
  obtain ⟨type, path, hostPath, size, storageClassName, pvToMatch, pvc⟩ := vol
  unfold ComponentVolume.default
  cases type with
  | persistentVolumeClaim =>
      dsimp only
      split <;> rfl
  | persistentVolumeClaimTemplate =>
      dsimp only
      split <;> rfl
  | _ => cases h

/-- What a round through the form leaves of a volume. -/
def throughForm (volumeOptions : List VolumeOption) (v : FormVolume) : ComponentVolume :=
  (correctVolumeForSubmit volumeOptions (correctVolumeForInit volumeOptions v)).toComponentVolume

/-- What the form finds for a claim, by the name it has found for it. -/
def found (volumeOptions : List VolumeOption) (pvc : Str) : FindResult :=
  findPVC volumeOptions (some (findClaimName volumeOptions pvc))

theorem attached_mounts (h : mountsClaim v.type = true) (genPVCName : Str) :
    ((throughForm volumeOptions v).default genPVCName).attached =
      { type := v.type
        path := v.path
        pvc := if (found volumeOptions v.pvc).pvc = [] then genPVCName else (found volumeOptions v.pvc).pvc
        pvToMatch := (found volumeOptions v.pvc).pvToMatch
        size := (found volumeOptions v.pvc).size
        storageClassName := some (found volumeOptions v.pvc).storageClassName } := by
  have hthrough : throughForm volumeOptions v =
      { v.toComponentVolume with
        pvc := (found volumeOptions v.pvc).pvc
        pvToMatch := (found volumeOptions v.pvc).pvToMatch
        storageClassName := some (found volumeOptions v.pvc).storageClassName
        size := (found volumeOptions v.pvc).size } := by
    rw [throughForm, correctVolumeForInit, if_pos h, correctVolumeForSubmit, if_pos h]
    rfl
  rw [hthrough, default_mounts]
  · rfl
  · exact h

/-- The option whose claim is found, where one is. -/
theorem found_eq {vo : VolumeOption} (hclaim : lastWith (fun o => decide (o.pvc = v.pvc)) volumeOptions = some vo) :
    found volumeOptions v.pvc =
      ((lastWith (fun o => decide (o.name = vo.name)) volumeOptions).map VolumeOption.result).getD
        ⟨[], [], [], []⟩ := by
  rw [found, findClaimName_eq, hclaim, findPVC_eq]
  rfl

/-- **A mounted claim survives exactly when the last option with it is the last with its name.** -/
theorem mounts_iff (h : mountsClaim v.type = true) (name : Str) :
    (∀ draw, ((throughForm volumeOptions v).default (genPVCName name draw)).attached = v.attached) ↔
      LastOfBoth volumeOptions v.toComponentVolume := by
  constructor
  · intro hsame
    have hpvc (draw : Draw) : (if (found volumeOptions v.pvc).pvc = [] then genPVCName name draw
        else (found volumeOptions v.pvc).pvc) = v.pvc := by
      have hdraw := hsame draw
      rw [attached_mounts h] at hdraw
      exact congrArg Attached.pvc hdraw
    have hne : (found volumeOptions v.pvc).pvc ≠ [] := by
      intro hnil
      have h0 := hpvc ⟨0, 0⟩
      have h1 := hpvc ⟨0, 1⟩
      rw [if_pos hnil] at h0 h1
      exact genPVCName_ne name (h0.trans h1.symm)
    have hfound : (found volumeOptions v.pvc).pvc = v.pvc := (if_neg hne).symm.trans (hpvc ⟨0, 0⟩)
    have hattached := hsame ⟨0, 0⟩
    rw [attached_mounts h] at hattached
    cases hlast : lastWith (fun o => decide (o.name = findClaimName volumeOptions v.pvc)) volumeOptions with
    | none =>
        rw [found, findPVC_eq, hlast] at hne
        exact absurd rfl hne
    | some last =>
        have hresult : found volumeOptions v.pvc = last.result := by
          rw [found, findPVC_eq, hlast]
          rfl
        rw [hresult] at hfound hattached
        obtain ⟨vo, hclaim⟩ : ∃ vo, lastWith (fun o => decide (o.pvc = v.pvc)) volumeOptions = some vo :=
          exists_lastWith (lastWith_spec hlast).1 (decide_eq_true hfound)
        rw [findClaimName_eq, hclaim] at hlast
        obtain rfl : vo = last := lastWith_unique hclaim (decide_eq_true rfl) hlast (decide_eq_true hfound)
        exact ⟨vo, hclaim, hlast, fun hnil => hne (hresult ▸ hfound.trans hnil), congrArg Attached.pvToMatch hattached,
          congrArg Attached.storageClassName hattached, congrArg Attached.size hattached⟩
  · intro ⟨vo, hclaim, hname, hne, hpv, hclass, hsize⟩ draw
    have hresult : found volumeOptions v.pvc = vo.result := by
      rw [found_eq hclaim, hname]
      rfl
    have hpvc : vo.pvc = v.pvc := of_decide_eq_true (lastWith_spec hclaim).2
    have hresultne : vo.result.pvc ≠ [] := fun hnil => hne (hpvc.symm.trans hnil)
    rw [attached_mounts h, hresult, if_neg hresultne]
    show Attached.mk v.type v.path vo.pvc vo.pvToMatch vo.capacity (some vo.storageClassName) = v.attached
    rw [hpvc, hpv, hclass, hsize]
    rfl

/-- A host path is defaulted from the other side. -/
theorem attached_hostPath {vol : ComponentVolume} (h : vol.type = .hostPath) (genPVCName : Str) :
    (vol.default genPVCName).attached = vol.attached ↔ (vol.path = [] → vol.hostPath = []) := by
  obtain ⟨type, path, hostPath, size, storageClassName, pvToMatch, pvc⟩ := vol
  obtain rfl : type = .hostPath := h
  unfold ComponentVolume.default
  dsimp only
  by_cases hpath : path = []
  · subst hpath
    by_cases hhost : hostPath = []
    · rw [if_neg (fun hand => hand.1 hhost), if_neg (fun hand => hand.2 rfl)]
      exact ⟨fun _ _ => hhost, fun _ => rfl⟩
    · rw [if_pos ⟨hhost, rfl⟩]
      exact ⟨fun hsame => absurd (congrArg Attached.path hsame) hhost, fun hnil => absurd (hnil rfl) hhost⟩
  · rw [if_neg fun hand => hpath hand.2]
    refine ⟨fun _ hnil => absurd hnil hpath, fun _ => ?_⟩
    split <;> rfl

theorem type_default (genPVCName : Str) (vol : ComponentVolume) : (vol.default genPVCName).type = vol.type := by
  unfold ComponentVolume.default
  split
  · split
    · rfl
    split <;> rfl
  · split <;> rfl
  · split <;> rfl
  · rfl

/-- The rest is not defaulted. -/
theorem default_plain {vol : ComponentVolume} (hmounts : mountsClaim vol.type = false) (hhost : vol.type ≠ .hostPath)
    (genPVCName : Str) : vol.default genPVCName = vol := by
  unfold ComponentVolume.default
  cases htype : vol.type with
  | hostPath => exact absurd htype hhost
  | persistentVolumeClaim =>
      rw [htype] at hmounts
      cases hmounts
  | persistentVolumeClaimTemplate =>
      rw [htype] at hmounts
      cases hmounts
  | _ => rfl

/-- The form leaves alone what mounts no claim and is not new. -/
theorem throughForm_plain (hmounts : mountsClaim v.type = false) (hclaim : v.type ≠ volumeTypePersistentVolumeClaimNew)
    (htemplate : v.type ≠ volumeTypePersistentVolumeClaimTemplateNew) :
    throughForm volumeOptions v = v.toComponentVolume := by
  have hnot : ¬ mountsClaim v.type = true := Bool.not_eq_true _ ▸ hmounts
  rw [throughForm, correctVolumeForInit, if_neg hnot, correctVolumeForSubmit, if_neg hnot, if_neg hclaim,
    if_neg htemplate]

/-- What is new gets another type. -/
theorem type_throughForm_new (h : v.type = volumeTypePersistentVolumeClaimNew ∨
    v.type = volumeTypePersistentVolumeClaimTemplateNew) : (throughForm volumeOptions v).type ≠ v.type := by
  rcases h with h | h
  · have hnot : ¬ mountsClaim v.type = true := h ▸ Bool.false_ne_true
    rw [throughForm, correctVolumeForInit, if_neg hnot, correctVolumeForSubmit, if_neg hnot, if_pos h, h]
    exact nofun
  · have hnot : ¬ mountsClaim v.type = true := h ▸ Bool.false_ne_true
    have hne : v.type ≠ volumeTypePersistentVolumeClaimNew := h ▸ by decide
    rw [throughForm, correctVolumeForInit, if_neg hnot, correctVolumeForSubmit, if_neg hnot, if_neg hne, if_pos h, h]
    exact nofun

theorem plain_iff (hmounts : mountsClaim v.type = false) (hhost : v.type ≠ .hostPath) (name : Str) :
    (∀ draw, ((throughForm volumeOptions v).default (genPVCName name draw)).attached = v.attached) ↔
      v.type ≠ volumeTypePersistentVolumeClaimNew ∧ v.type ≠ volumeTypePersistentVolumeClaimTemplateNew := by
  constructor
  · intro hsame
    have htype : (throughForm volumeOptions v).type = v.type :=
      (type_default _ _).symm.trans (congrArg Attached.type (hsame ⟨0, 0⟩))
    exact ⟨fun h => type_throughForm_new (Or.inl h) htype, fun h => type_throughForm_new (Or.inr h) htype⟩
  · intro ⟨hclaim, htemplate⟩ draw
    rw [throughForm_plain hmounts hclaim htemplate, default_plain hmounts hhost]

/-- **A volume survives exactly when it is kept.** -/
theorem kept_iff (name : Str) :
    (∀ draw, ((throughForm volumeOptions v).default (genPVCName name draw)).attached = v.attached) ↔
      Kept volumeOptions v.toComponentVolume := by
  rw [Kept]
  cases htype : v.type with
  | persistentVolumeClaim => exact mounts_iff (by rw [htype]; rfl) name
  | persistentVolumeClaimTemplate => exact mounts_iff (by rw [htype]; rfl) name
  | hostPath =>
      rw [throughForm_plain (by rw [htype]; rfl) (by rw [htype]; exact nofun) (by rw [htype]; exact nofun)]
      exact ⟨fun hsame => (attached_hostPath htype _).mp (hsame ⟨0, 0⟩),
        fun hpath draw => (attached_hostPath htype _).mpr hpath⟩
  | temporaryMemory => exact (plain_iff (by rw [htype]; rfl) (by rw [htype]; exact nofun) name).trans (by rw [htype])
  | temporaryDisk => exact (plain_iff (by rw [htype]; rfl) (by rw [htype]; exact nofun) name).trans (by rw [htype])
  | other other => exact (plain_iff (by rw [htype]; rfl) (by rw [htype]; exact nofun) name).trans (by rw [htype])

/-! ## 7. The form -/

section Form

variable {state : PersistentVolumes} {component values : ApplicationComponent}

theorem stored_eq (state : PersistentVolumes) (component : ApplicationComponent) (draws : Nat → Draw) :
    stored draws (correctComponentFormValuesForSubmit state (correctComponentFormValuesForInit state component)) =
      (component.volumes.getD []).mapIdx fun i v =>
        (throughForm (component.volumeOptions state) v).default (genPVCName component.name (draws i)) := by
  rw [stored, correctComponentFormValuesForSubmit, correctComponentFormValuesForInit]
  dsimp only
  cases component.volumes with
  | none => rfl
  | some volumes =>
      refine List.ext_getElem? fun i => ?_
      rw [Option.map_some, Option.map_some, Option.getD_some, Option.getD_some, List.map_map, List.getElem?_mapIdx,
        List.getElem?_mapIdx, List.getElem?_map, Option.map_map]
      rfl

/-- **The volumes survive exactly when each of them is kept.** -/
theorem savesSame_iff : SavesSame state component ↔
    ∀ v ∈ component.volumes.getD [], Kept (component.volumeOptions state) v.toComponentVolume := by
  unfold SavesSame
  constructor
  · intro hsame v hv
    refine (kept_iff component.name).mp fun draw => ?_
    obtain ⟨i, hi⟩ := List.getElem?_of_mem hv
    have hget := congrArg (fun l => l[i]?) (hsame fun _ => draw)
    rw [stored_eq, List.getElem?_map, List.getElem?_map, List.getElem?_mapIdx, hi] at hget
    exact Option.some.inj hget
  · intro hkept draws
    rw [stored_eq]
    refine List.ext_getElem? fun i => ?_
    rw [List.getElem?_map, List.getElem?_map, List.getElem?_mapIdx]
    cases hi : (component.volumes.getD [])[i]? with
    | none => rfl
    | some v => exact congrArg some ((kept_iff component.name).mpr (hkept v (List.mem_of_getElem? hi)) (draws i))

/-- The volume that a choice submits. -/
theorem getElem?_choose {i : Nat} {disk : FormVolume} (vo : VolumeOption)
    (hget : (values.volumes.getD [])[i]? = some disk) :
    ((correctComponentFormValuesForSubmit state (values.choose i vo)).volumes.getD [])[i]? =
      some (correctVolumeForSubmit (values.volumeOptions state) { disk with claimName := some vo.name }) := by
  cases hvolumes : values.volumes with
  | none =>
      rw [hvolumes] at hget
      cases hget
  | some volumes =>
      rw [hvolumes] at hget
      rw [correctComponentFormValuesForSubmit, ApplicationComponent.choose, hvolumes]
      rw [Option.map_some, Option.map_some, Option.getD_some, List.getElem?_map, List.getElem?_modify_eq]
      rw [Option.getD_some] at hget
      rw [hget]
      rfl

/-- **A choice is submitted exactly when the last option with the name is as good.** -/
theorem choosingSubmits_iff : ChoosingSubmits state values ↔
    ∀ i vo, Offers state values i vo → NamesIt (values.volumeOptions state) vo := by
  refine forall_congr' fun i => forall_congr' fun vo => imp_congr_right fun hoffers => ?_
  obtain ⟨disk, hget, hmounts, hoffered⟩ := hoffers
  have hmem : vo ∈ values.volumeOptions state := (List.mem_filter.mp hoffered).1
  obtain ⟨last, hlast⟩ : ∃ last, lastWith (fun o => decide (o.name = vo.name)) (values.volumeOptions state) =
      some last := exists_lastWith hmem (decide_eq_true rfl)
  have hsubmit : correctVolumeForSubmit (values.volumeOptions state) { disk with claimName := some vo.name } =
      { disk with
        claimName := some vo.name
        pvc := last.pvc
        pvToMatch := last.pvToMatch
        storageClassName := some last.storageClassName
        size := last.capacity } := by
    rw [correctVolumeForSubmit, if_pos hmounts, findPVC_eq, hlast]
    rfl
  rw [getElem?_choose vo hget, hsubmit]
  constructor
  · intro ⟨v, hv, hpvc, hpv⟩
    obtain rfl := Option.some.inj hv
    exact ⟨last, hlast, hpvc, hpv⟩
  · intro ⟨last', hlast', hpvc, hpv⟩
    obtain rfl : last = last' := Option.some.inj (hlast.symm.trans hlast')
    exact ⟨_, rfl, hpvc, hpv⟩

/-- **The four fields are submitted exactly when one of them is filled in, or the old requirements are the same.** -/
theorem submitsResources_iff : SubmitsResources state values ↔
    values.anyField = true ∨
      values.resourceRequirements.getD ⟨fun _ => .cleared, fun _ => .cleared⟩ = values.fields := by
  rw [SubmitsResources, correctComponentFormValuesForSubmit]
  dsimp only
  by_cases hany : values.anyField = true
  · rw [if_pos hany]
    exact ⟨fun _ => Or.inl hany, fun _ => rfl⟩
  · rw [if_neg hany]
    exact ⟨Or.inr, fun h => h.resolve_left hany⟩

end Form

/-- **What the form does to disks and resources.** -/
theorem form_iff (state : PersistentVolumes) :
    (∀ component, SavesSame state component ↔
      ∀ v ∈ component.volumes.getD [], Kept (component.volumeOptions state) v.toComponentVolume) ∧
    (∀ values, ChoosingSubmits state values ↔
      ∀ i vo, Offers state values i vo → NamesIt (values.volumeOptions state) vo) ∧
    ∀ values, SubmitsResources state values ↔
      values.anyField = true ∨
        values.resourceRequirements.getD ⟨fun _ => .cleared, fun _ => .cleared⟩ = values.fields :=
  ⟨fun _ => savesSame_iff, fun _ => choosingSubmits_iff, fun _ => submitsResources_iff⟩

/-! ### A claim that is not listed -/

/-- A server with one disk. -/
def dbComponent : ApplicationComponent where
  name := str "db"
  workloadType := str "server"
  volumes := some [⟨⟨.persistentVolumeClaim, str "/data", [], str "10Gi", some (str "standard"), [], str "data"⟩, none⟩]
  resourceRequirements := none
  cpuLimit := .cleared
  memoryLimit := .cleared
  cpuRequest := .cleared
  memoryRequest := .cleared

/-- **The database gets an empty disk.** -/
theorem form_fails :
    ¬ ∀ state : PersistentVolumes, (∀ component, SavesSame state component) ∧
      (∀ values, ChoosingSubmits state values) ∧ ∀ values, SubmitsResources state values := by
  intro h
  have hsame := (h ⟨[], []⟩).1 dbComponent fun _ => ⟨0, 0⟩
  exact absurd hsame (by decide +kernel)

end Kalm.DiskForm
