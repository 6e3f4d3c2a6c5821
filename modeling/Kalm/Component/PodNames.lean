/-
  File:      Kalm/Component/PodNames.lean
  Subject:   THE NAMES IN A POD: the volumes of a pod, and the claim templates of its StatefulSet, have distinct
             names, and are mounted at distinct paths.

  * `Builds` -- the pod template that a component gets;
  * `WellFormed` -- what Kubernetes asks of the volumes of a pod and their mounts;
  * `volumeNames`, `mountPaths`, `built` -- the names and paths that the template has;
  * `Named` -- which components give well-formed names;
  * `wellFormed_iff` -- these are the components that get a well-formed pod.
-/
import Kalm.Component.DiskChecks

namespace Kalm.Disks

open Calls (Holds Outcome)
open Objects (Returns)

/-! ## 1. Pods -/

/-- The names of the volumes of a pod, and of the claim templates of its StatefulSet. -/
def podNames (made : PodTemplate) (claims : List ClaimTemplate) : List Str :=
  made.volumes.map PodVolume.name ++ claims.map ClaimTemplate.name

/-- The mounts of the containers behind the first ones. -/
def allMounts (known : Nat) (made : PodTemplate) : List VolumeMount :=
  made.volumeMounts ++ (made.initContainers.drop known).flatMap Container.volumeMounts

/-- **The volumes and mounts of a pod are well formed.** -/
structure WellFormed (known : Nat) (made : PodTemplate) (claims : List ClaimTemplate) : Prop where
  distinct : (podNames made claims).Nodup
  labels : ∀ name ∈ podNames made claims, isDNS1123Label name = true
  paths : (made.volumeMounts.map VolumeMount.mountPath).Nodup
  mounted : ∀ m ∈ allMounts known made, (podNames made claims).count m.name = 1

/-- A run of the controller makes this template for a component, and these claim templates. -/
def Builds (md5 : Md5) (component : Component) (template made : PodTemplate) (claims : List ClaimTemplate) : Prop :=
  if component.isSts then prepareVolsForSTS md5 component template = .ok (made, claims)
  else claims = [] ∧ ∃ (s : Volumes.Cluster) (faults : List Calls.Fault),
    (Calls.run Objects.serve .unavailable (prepareVolsForSimpleWorkload md5 component template) faults s).1 =
      .returned (.ok made)

/-- **The component gets a pod, and it is well formed.** -/
structure YieldsWellFormed (md5 : Md5) (component : Component) (template : PodTemplate) : Prop where
  built : ∃ made claims, Builds md5 component template made claims
  wellFormed : ∀ made claims, Builds md5 component template made claims →
    WellFormed template.initContainers.length made claims

/-! ## 2. The names that are given -/

section Names

variable (md5 : Md5) (component : Component)

/-- The names of the volumes: that of the files, and one for each disk. -/
def volumeNames : List Str :=
  (if component.spec.preInjectedFiles = [] then [] else [filesVolume]) ++
    component.spec.volumes.map (diskName md5 component)

/-- The paths of the mounts. -/
def mountPaths : List Str :=
  component.spec.preInjectedFiles.map PreInjectFile.mountPath ++ component.spec.volumes.map Volume.path

/-- The workload has volumes of this type. -/
def supported (disk : Volume) : Bool :=
  match disk.type with
  | .temporaryDisk | .temporaryMemory | .persistentVolumeClaim => true
  | .persistentVolumeClaimTemplate => component.isSts
  | .hostPath => !component.isSts
  | .other _ => false

/-- What is made has these names, paths and mounts. -/
structure Made (template made : PodTemplate) (claims : List ClaimTemplate) : Prop where
  supported : ∀ disk ∈ component.spec.volumes, supported component disk = true
  names : (podNames made claims).Perm (volumeNames md5 component)
  paths : made.volumeMounts.map VolumeMount.mountPath = mountPaths component
  mounted : ∀ m ∈ allMounts template.initContainers.length made, m.name ∈ volumeNames md5 component

end Names

variable {md5 : Md5} {component : Component} {template made : PodTemplate} {claims : List ClaimTemplate}

/-! ## 3. What is built -/

/-- What the disks add to the template with the files. -/
def withDisks (md5 : Md5) (component : Component) (template : PodTemplate) (volumes : List PodVolume)
    (mounts : List VolumeMount) : PodTemplate :=
  let (template, fileVolumes, fileMounts) := preparePreInjectedFiles md5 component template
  { template with volumes := fileVolumes ++ volumes, volumeMounts := fileMounts ++ mounts }

/-- **The template with the files and the disks** has the names and the paths, when the disks have theirs. -/
theorem made_withDisks {volumes : List PodVolume} {mounts : List VolumeMount}
    (hsupported : ∀ disk ∈ component.spec.volumes, supported component disk = true)
    (hnames : (volumes.map PodVolume.name ++ claims.map ClaimTemplate.name).Perm
      (component.spec.volumes.map (diskName md5 component)))
    (hmounts : mounts = component.spec.volumes.map fun disk => mountOf (diskName md5 component disk) disk) :
    Made md5 component template (withDisks md5 component template volumes mounts) claims := by
  have hpaths : mounts.map VolumeMount.mountPath = component.spec.volumes.map Volume.path := by
    rw [hmounts, List.map_map]
    rfl
  have hdisk : ∀ m ∈ mounts, m.name ∈ component.spec.volumes.map (diskName md5 component) := by
    intro m hm
    rw [hmounts] at hm
    obtain ⟨disk, hdisk, rfl⟩ := List.mem_map.mp hm
    exact List.mem_map_of_mem hdisk
  cases hfiles : component.spec.preInjectedFiles with
  | nil =>
      have hwith : withDisks md5 component template volumes mounts =
          { template with volumes := volumes, volumeMounts := mounts } := by
        simp [withDisks, preparePreInjectedFiles, hfiles]
      rw [hwith]
      refine ⟨hsupported, ?_, ?_, fun m hm => ?_⟩
      · simpa [podNames, volumeNames, hfiles] using hnames
      · simpa [mountPaths, hfiles] using hpaths
      · simp only [allMounts, List.drop_length, List.flatMap_nil, List.append_nil] at hm
        simpa [volumeNames, hfiles] using hdisk m hm
  | cons file files =>
      have hwith : withDisks md5 component template volumes mounts =
          { template with
            initContainers := template.initContainers ++ [injectContainer md5 (file :: files)]
            volumes := ⟨filesVolume, .emptyDir false⟩ :: volumes
            volumeMounts := (file :: files).map (fun file => file.mount md5) ++ mounts } := by
        simp [withDisks, preparePreInjectedFiles, hfiles]
      rw [hwith]
      refine ⟨hsupported, ?_, ?_, fun m hm => ?_⟩
      · simpa [podNames, volumeNames, hfiles] using hnames
      · simp [mountPaths, hfiles, hpaths, PreInjectFile.mount]
      · have hfile : ∀ m : VolumeMount, m.name = filesVolume → m.name ∈ volumeNames md5 component := by
          intro m hm
          simp [volumeNames, hfiles, hm]
        simp only [allMounts, List.drop_left', List.flatMap_cons, List.flatMap_nil, List.append_nil] at hm
        rcases List.mem_append.mp hm with hm | hm
        · rcases List.mem_append.mp hm with hm | hm
          · obtain ⟨f, _, rfl⟩ := List.mem_map.mp hm
            exact hfile _ rfl
          · simp only [volumeNames, hfiles]
            exact List.mem_append_right _ (hdisk m hm)
        · rw [List.mem_singleton.mp hm]
          exact hfile _ rfl

/-! ### StatefulSets -/

theorem stsVolume_error_iff {disk : Volume} (hsts : component.isSts = true) :
    (∃ e, stsVolume md5 component disk = .error e) ↔ supported component disk = false := by
  unfold stsVolume supported
  cases disk.type <;> simp [hsts]

theorem supported_of_stsDisks (hsts : component.isSts = true) {disks : List Volume}
    {r : List PodVolume × List VolumeMount × List ClaimTemplate} (h : stsDisks md5 component disks = .ok r) :
    ∀ disk ∈ disks, supported component disk = true := by
  induction disks generalizing r with
  | nil => exact fun disk hdisk => absurd hdisk List.not_mem_nil
  | cons disk disks ih =>
      rw [stsDisks] at h
      cases hmade : stsVolume md5 component disk with
      | error e => rw [hmade] at h; cases h
      | ok one =>
          rw [hmade] at h
          cases hrest : stsDisks md5 component disks with
          | error e => rw [hrest] at h; cases h
          | ok rest =>
              intro d hd
              rcases List.mem_cons.mp hd with rfl | hd
              · have hiff : (∃ e, stsVolume md5 component d = .error e) ↔ supported component d = false :=
                  stsVolume_error_iff hsts
                rw [← Bool.not_eq_false, ← hiff, hmade]
                intro hfailed
                obtain ⟨e, he⟩ := hfailed
                cases he
              · exact ih hrest d hd

theorem stsDisks_of_supported (hsts : component.isSts = true) {disks : List Volume}
    (h : ∀ disk ∈ disks, supported component disk = true) : ∃ r, stsDisks md5 component disks = .ok r := by
  induction disks with
  | nil => exact ⟨_, rfl⟩
  | cons disk disks ih =>
      obtain ⟨rest, hrest⟩ := ih fun d hd => h d (List.mem_cons_of_mem disk hd)
      cases hmade : stsVolume md5 component disk with
      | error e =>
          have hnot := (stsVolume_error_iff hsts).mp ⟨e, hmade⟩
          rw [h disk List.mem_cons_self] at hnot
          cases hnot
      | ok one =>
          rw [stsDisks, hmade, hrest]
          cases one with
          | inl volume => exact ⟨_, rfl⟩
          | inr claim => exact ⟨_, rfl⟩

/-- A list is made of the elements without a property and those with it. -/
theorem perm_filter_not {α : Type} (p : α → Bool) (l : List α) :
    ((l.filter fun a => !p a) ++ l.filter p).Perm l := by
  have h := List.filter_append_perm (fun a => !p a) l
  simpa using h

theorem made_of_prepareVolsForSTS (hsts : component.isSts = true)
    (h : prepareVolsForSTS md5 component template = .ok (made, claims)) :
    Made md5 component template made claims := by
  unfold prepareVolsForSTS at h
  cases hdisks : stsDisks md5 component component.spec.volumes with
  | error e => rw [hdisks] at h; cases h
  | ok disks =>
      obtain ⟨volumes, mounts, templates⟩ := disks
      rw [hdisks] at h
      cases h
      have hmade := made_of_stsDisks hdisks
      refine made_withDisks (supported_of_stsDisks hsts hdisks) ?_ hmade.mounts
      have hclaims : claims.map ClaimTemplate.name =
          (component.spec.volumes.filter Volume.isClaim).map (diskName md5 component) := by
        rw [hmade.templates, List.map_map]
        refine List.map_congr_left fun disk hdisk => ?_
        rw [diskName, if_pos (List.mem_filter.mp hdisk).2]
        rfl
      rw [hmade.volumes, hclaims, ← List.map_append]
      exact (perm_filter_not Volume.isClaim _).map _

/-! ### Other workloads -/

theorem name_of_simpleVolume (hsts : component.isSts = false) {disk : Volume} {volume : PodVolume}
    (h : simpleVolume md5 component disk = .ok volume) :
    volume.name = diskName md5 component disk ∧ supported component disk = true := by
  unfold simpleVolume at h
  unfold diskName supported Volume.isClaim
  cases htype : disk.type <;> rw [htype] at h <;> cases h <;> simp [hsts]

theorem simpleVolume_of_supported (hsts : component.isSts = false) {disk : Volume}
    (h : supported component disk = true) : ∃ volume, simpleVolume md5 component disk = .ok volume := by
  unfold supported at h
  unfold simpleVolume
  cases htype : disk.type <;> rw [htype] at h <;> simp [hsts] at h ⊢

/-- **Whatever fails**, the volumes and mounts that are returned have the names of the disks. -/
theorem holds_simpleDisks (hsts : component.isSts = false) (disks : List Volume) (s : Volumes.Cluster) :
    Holds Objects.serve .unavailable (simpleDisks md5 component disks) s fun o _ =>
      ∀ volumes mounts, o = .returned (.ok (volumes, mounts)) →
        volumes.map PodVolume.name = disks.map (diskName md5 component) ∧
          (mounts = disks.map fun disk => mountOf (diskName md5 component disk) disk) ∧
          ∀ disk ∈ disks, supported component disk = true := by
  induction disks generalizing s with
  | nil =>
      refine Calls.holds_done.mpr fun volumes mounts h => ?_
      cases h
      exact ⟨rfl, rfl, fun disk hdisk => absurd hdisk List.not_mem_nil⟩
  | cons disk disks ih =>
      rw [simpleDisks]
      cases hvolume : simpleVolume md5 component disk with
      | error e => exact Calls.holds_done.mpr fun volumes mounts h => nomatch h
      | ok volume =>
          obtain ⟨hname, hsupported⟩ := name_of_simpleVolume hsts hvolume
          refine Calls.holds_bind.mpr fun faults => ?_
          generalize (Calls.run Objects.serve .unavailable (readyDisk component disk) faults s) = end₁
          obtain ⟨o, t⟩ := end₁
          cases o with
          | failed e => exact fun volumes mounts h => nomatch h
          | crashed => exact fun volumes mounts h => nomatch h
          | returned a =>
              refine Calls.holds_bind.mpr ((ih t).mono fun o u hrest => ?_)
              cases o with
              | failed e => exact fun volumes mounts h => nomatch h
              | crashed => exact fun volumes mounts h => nomatch h
              | returned r =>
                  cases r with
                  | error e => exact Calls.holds_done.mpr fun volumes mounts h => nomatch h
                  | ok rest =>
                      obtain ⟨restVolumes, restMounts⟩ := rest
                      obtain ⟨hnames, hmounts, hall⟩ := hrest restVolumes restMounts rfl
                      refine Calls.holds_done.mpr fun volumes mounts h => ?_
                      cases h
                      refine ⟨?_, ?_, ?_⟩
                      · rw [List.map_cons, List.map_cons, hname, hnames]
                      · rw [List.map_cons, hname, hmounts]
                      · intro d hd
                        rcases List.mem_cons.mp hd with rfl | hd
                        · exact hsupported
                        · exact hall d hd

theorem made_of_simple (hsts : component.isSts = false) {s : Volumes.Cluster} {faults : List Calls.Fault}
    (h : (Calls.run Objects.serve .unavailable (prepareVolsForSimpleWorkload md5 component template) faults s).1 =
      .returned (.ok made)) : Made md5 component template made [] := by
  have hall : Holds Objects.serve .unavailable (prepareVolsForSimpleWorkload md5 component template) s fun o _ =>
      o = .returned (.ok made) → Made md5 component template made [] := by
    unfold prepareVolsForSimpleWorkload
    refine Calls.holds_bind.mpr ((holds_simpleDisks hsts component.spec.volumes s).mono fun o t hdisks => ?_)
    cases o with
    | failed e => exact fun h => nomatch h
    | crashed => exact fun h => nomatch h
    | returned r =>
        cases r with
        | error e => exact Calls.holds_done.mpr fun h => nomatch h
        | ok disks =>
            obtain ⟨volumes, mounts⟩ := disks
            obtain ⟨hnames, hmounts, hsupported⟩ := hdisks volumes mounts rfl
            refine Calls.holds_done.mpr fun h => ?_
            cases h
            refine made_withDisks hsupported ?_ hmounts
            rw [List.map_nil, List.append_nil, hnames]
  exact hall faults h

/-- A cluster in which the claims of all disks are stored. -/
def claimed (component : Component) (disks : List Volume) : Volumes.Cluster :=
  disks.foldr (fun disk s => s.put Volumes.Kind.pvc (disk.claim component).expectedPVC) Volumes.emptyCluster

theorem get_claimed {disks : List Volume} {disk : Volume} (h : disk ∈ disks) :
    ((claimed component disks).get .pvc (component.ns, disk.pvc)).isSome := by
  induction disks with
  | nil => cases h
  | cons d disks ih =>
      have hcons : claimed component (d :: disks) =
          (claimed component disks).put Volumes.Kind.pvc (d.claim component).expectedPVC := rfl
      rw [hcons, Objects.State.get_put]
      split
      · rfl
      · next hne =>
          rcases List.mem_cons.mp h with rfl | h
          · exact absurd rfl hne
          · exact ih h

/-- Where the claim of a disk is stored, nothing is to be done for it. -/
theorem returns_readyDisk {s : Volumes.Cluster} {disk : Volume}
    (h : (s.get .pvc (component.ns, disk.pvc)).isSome) : Returns (readyDisk component disk) s fun _ t => t = s := by
  unfold readyDisk
  split
  · obtain ⟨v, hv⟩ := Option.isSome_iff_exists.mp h
    obtain ⟨hmem, hkey⟩ := Objects.State.get_eq_some.mp hv
    have hfind : ((s.list .pvc).find? fun pvc => pvc.key = (component.ns, disk.pvc)).isSome := by
      rw [List.find?_isSome]
      exact ⟨v, hmem, decide_eq_true hkey⟩
    obtain ⟨found, hfound⟩ := Option.isSome_iff_exists.mp hfind
    unfold ensureClaim Volumes.prepareClaim Volumes.getPVC
    rw [Objects.returns_bind, Objects.returns_bind, Objects.returns_bind, Objects.returns_list]
    refine Calls.returns_done.mpr ?_
    have hclaim : ((s.list .pvc).find? fun pvc => pvc.key = ((disk.claim component).ns, (disk.claim component).pvc)) =
        some found := hfound
    rw [hclaim]
    exact Calls.returns_done.mpr (Calls.returns_done.mpr rfl)
  · exact Calls.returns_done.mpr rfl

theorem returns_simpleDisks (hsts : component.isSts = false) {disks : List Volume} {s : Volumes.Cluster}
    (hclaims : ∀ disk ∈ disks, (s.get .pvc (component.ns, disk.pvc)).isSome)
    (hsupported : ∀ disk ∈ disks, supported component disk = true) :
    Returns (simpleDisks md5 component disks) s fun r t => t = s ∧ ∃ made, r = .ok made := by
  induction disks with
  | nil => exact Calls.returns_done.mpr ⟨rfl, _, rfl⟩
  | cons disk disks ih =>
      obtain ⟨volume, hvolume⟩ : ∃ volume, simpleVolume md5 component disk = .ok volume :=
        simpleVolume_of_supported hsts (hsupported disk List.mem_cons_self)
      rw [simpleDisks, hvolume]
      refine Objects.returns_bind.mpr ((returns_readyDisk (hclaims disk List.mem_cons_self)).mono fun _ t ht => ?_)
      subst ht
      refine Objects.returns_bind.mpr ((ih (fun d hd => hclaims d (List.mem_cons_of_mem disk hd))
        fun d hd => hsupported d (List.mem_cons_of_mem disk hd)).mono fun r u hrest => ?_)
      obtain ⟨rfl, rest, rfl⟩ := hrest
      exact Calls.returns_done.mpr ⟨rfl, _, rfl⟩

/-! ### Every workload -/

/-- **Whatever a run makes** has the names and the paths of the component. -/
theorem made_of_builds (h : Builds md5 component template made claims) : Made md5 component template made claims := by
  unfold Builds at h
  cases hsts : component.isSts with
  | true =>
      rw [hsts, if_pos rfl] at h
      exact made_of_prepareVolsForSTS hsts h
  | false =>
      rw [hsts, if_neg Bool.false_ne_true] at h
      obtain ⟨rfl, s, faults, hrun⟩ := h
      exact made_of_simple hsts hrun

/-- **A pod is made** where the workload has volumes of the types that are asked for. -/
theorem builds_of_supported (h : ∀ disk ∈ component.spec.volumes, supported component disk = true) :
    ∃ made claims, Builds md5 component template made claims := by
  unfold Builds
  cases hsts : component.isSts with
  | true =>
      obtain ⟨disks, hdisks⟩ : ∃ r, stsDisks md5 component component.spec.volumes = .ok r :=
        stsDisks_of_supported hsts h
      refine ⟨withDisks md5 component template disks.1 disks.2.1, disks.2.2, ?_⟩
      rw [if_pos rfl, prepareVolsForSTS, hdisks]
      rfl
  | false =>
      have hdisks : Returns (simpleDisks md5 component component.spec.volumes)
          (claimed component component.spec.volumes) fun r t =>
            t = claimed component component.spec.volumes ∧ ∃ made, r = .ok made :=
        returns_simpleDisks hsts (fun disk hdisk => get_claimed hdisk) h
      obtain ⟨r, t, hrun, rfl, made, rfl⟩ := hdisks
      have hreturns : Returns (prepareVolsForSimpleWorkload md5 component template)
          (claimed component component.spec.volumes) fun r _ => ∃ made, r = .ok made := by
        unfold prepareVolsForSimpleWorkload
        refine Objects.returns_bind.mpr ⟨_, _, hrun, ?_⟩
        exact Calls.returns_done.mpr ⟨_, rfl⟩
      obtain ⟨_, _, hrun, made, rfl⟩ := hreturns
      exact ⟨made, [], by
        rw [if_neg Bool.false_ne_true]
        exact ⟨rfl, _, [], congrArg Prod.fst hrun⟩⟩

/-! ## 4. Well-formed names -/

/-- **The condition**: the workload has volumes of the types that are asked for; all paths are distinct; the names of
    the claims are distinct labels, and none of them is the name of the files or one that is given to another disk;
    the name of the component is short and has no dot, if a disk is named after it; and the paths of these disks have
    distinct hashes. -/
structure Named (md5 : Md5) (component : Component) : Prop where
  supported : ∀ disk ∈ component.spec.volumes, supported component disk = true
  paths : (mountPaths component).Nodup
  claims : ((component.spec.volumes.filter Volume.isClaim).map Volume.pvc).Nodup
  labels : ∀ disk ∈ component.spec.volumes, disk.isClaim = true → isDNS1123Label disk.pvc = true
  reserved : component.spec.preInjectedFiles ≠ [] → ∀ disk ∈ component.spec.volumes, disk.isClaim = true →
    disk.pvc ≠ filesVolume
  short : (∃ disk ∈ component.spec.volumes, disk.isClaim = false) →
    component.name.length ≤ 30 ∧ dot ∉ component.name
  hashes : ((component.spec.volumes.filter fun disk => !disk.isClaim).map fun disk => md5 disk.path).Nodup
  apart : ∀ disk ∈ component.spec.volumes, disk.isClaim = true → ∀ other ∈ component.spec.volumes,
    other.isClaim = false → disk.pvc ≠ getVolName md5 component.name other.path

theorem length_getVolName (name path : Str) : (getVolName md5 name path).length = name.length + 33 := by
  rw [getVolName, List.length_append, List.length_cons, length_hexEncode, Vector.length_toList]

theorem getVolName_inj {name p q : Str} : getVolName md5 name p = getVolName md5 name q ↔ md5 p = md5 q := by
  refine ⟨fun h => ?_, fun h => by rw [getVolName, getVolName, h]⟩
  have hhash := List.append_cancel_left h
  exact Vector.toList_inj.mp (hexEncode_inj (List.cons.inj hhash).2)

theorem isLabelByte_of_mem_hexEncode {bs : List UInt8} {b : UInt8} (h : b ∈ hexEncode bs) :
    isLowerAlnum b = true := by
  have hrange := hexEncode_range h
  unfold isLowerAlnum
  rcases hrange with hdigit | hletter
  · simp [hdigit]
  · have hle : b ≤ 122 := UInt8.le_trans hletter.2 (by decide : (102 : UInt8) ≤ 122)
    simp [hletter.1, hle]

/-- **The name that a disk is given is a label** exactly where the name of its component is short and has no dot. -/
theorem isDNS1123Label_getVolName_iff {name path : Str} (hname : isDNS1123Subdomain name = true) :
    isDNS1123Label (getVolName md5 name path) = true ↔ name.length ≤ 30 ∧ dot ∉ name := by
  have hlength : (getVolName md5 name path).length = name.length + 33 := length_getVolName name path
  unfold isDNS1123Label
  rw [Bool.and_eq_true, decide_eq_true_eq, hlength]
  constructor
  · intro ⟨htext, hshort⟩
    refine ⟨by omega, fun hdot => ?_⟩
    have hbyte := all_of_isLabelText htext dot (List.mem_append_left _ hdot)
    exact absurd hbyte (by decide)
  · intro ⟨hshort, hdot⟩
    have htext : isLabelText name = true := by
      unfold isDNS1123Subdomain at hname
      rw [List.splitOn_eq_singleton hdot] at hname
      simpa using (Bool.and_eq_true_iff.mp hname).1
    refine ⟨?_, by omega⟩
    obtain ⟨b, rest, rfl⟩ := List.exists_cons_of_ne_nil (isLabelText_ne_nil htext)
    have hhash : hexEncode (md5 path).toList ≠ [] := by
      refine List.ne_nil_of_length_pos ?_
      rw [length_hexEncode, Vector.length_toList]
      omega
    have hlast := isLabelByte_of_mem_hexEncode (List.getLast_mem hhash)
    unfold isLabelText at htext ⊢
    rw [Bool.and_eq_true, Bool.and_eq_true] at htext ⊢
    refine ⟨⟨htext.1.1, ?_⟩, ?_⟩
    · rw [getVolName, List.getLast?_append, List.getLast?_cons_of_ne_nil hhash, List.getLast?_eq_some_getLast hhash]
      simpa using hlast
    · rw [getVolName, List.all_append, Bool.and_eq_true]
      refine ⟨htext.2, List.all_eq_true.mpr fun x hx => ?_⟩
      rcases List.mem_cons.mp hx with rfl | hx
      · rfl
      · rw [isLabelByte, isLabelByte_of_mem_hexEncode hx, Bool.or_true]

/-! ## 5. Which components get a well-formed pod -/

section Iff

/-- The names are those of the files, of the claims and of the other disks. -/
theorem perm_volumeNames :
    (volumeNames md5 component).Perm
      ((if component.spec.preInjectedFiles = [] then [] else [filesVolume]) ++
        ((component.spec.volumes.filter Volume.isClaim).map Volume.pvc ++
          (component.spec.volumes.filter fun disk => !disk.isClaim).map fun disk =>
            getVolName md5 component.name disk.path)) := by
  refine List.Perm.append_left _ ?_
  have hclaims : (component.spec.volumes.filter Volume.isClaim).map (diskName md5 component) =
      (component.spec.volumes.filter Volume.isClaim).map Volume.pvc :=
    List.map_congr_left fun disk hdisk => if_pos (List.mem_filter.mp hdisk).2
  have hothers : (component.spec.volumes.filter fun disk => !disk.isClaim).map (diskName md5 component) =
      (component.spec.volumes.filter fun disk => !disk.isClaim).map fun disk =>
        getVolName md5 component.name disk.path := by
    refine List.map_congr_left fun disk hdisk => if_neg ?_
    simpa using (List.mem_filter.mp hdisk).2
  rw [← hclaims, ← hothers, ← List.map_append]
  exact ((List.perm_append_comm.trans (perm_filter_not Volume.isClaim _)).map _).symm

/-- The name of the files is shorter than one that is given to a disk. -/
theorem filesVolume_ne_getVolName (name path : Str) : filesVolume ≠ getVolName md5 name path := by
  intro h
  have hlength := congrArg List.length h
  rw [length_getVolName] at hlength
  have hfiles : filesVolume.length = 25 := by decide
  omega

/-- **The names are distinct** exactly where the claims and the hashes are, and these differ from each other. -/
theorem nodup_volumeNames_iff :
    (volumeNames md5 component).Nodup ↔
      ((component.spec.volumes.filter Volume.isClaim).map Volume.pvc).Nodup ∧
        ((component.spec.volumes.filter fun disk => !disk.isClaim).map fun disk => md5 disk.path).Nodup ∧
        (component.spec.preInjectedFiles ≠ [] → ∀ disk ∈ component.spec.volumes, disk.isClaim = true →
          disk.pvc ≠ filesVolume) ∧
        ∀ disk ∈ component.spec.volumes, disk.isClaim = true → ∀ other ∈ component.spec.volumes,
          other.isClaim = false → disk.pvc ≠ getVolName md5 component.name other.path := by
  have hhashes : ((component.spec.volumes.filter fun disk => !disk.isClaim).map fun disk =>
      getVolName md5 component.name disk.path).Nodup ↔
        ((component.spec.volumes.filter fun disk => !disk.isClaim).map fun disk => md5 disk.path).Nodup := by
    unfold List.Nodup
    rw [List.pairwise_map, List.pairwise_map]
    simp only [ne_eq, getVolName_inj]
  rw [perm_volumeNames.nodup_iff, List.nodup_append, List.nodup_append, hhashes]
  constructor
  · intro ⟨_, ⟨hclaims, hothers, hapart⟩, hfiles⟩
    refine ⟨hclaims, hothers, fun hne disk hdisk hclaim heq => ?_, fun disk hdisk hclaim other hother hnot => ?_⟩
    · rw [if_neg hne] at hfiles
      have hmem := List.mem_map_of_mem (f := Volume.pvc) (List.mem_filter.mpr ⟨hdisk, hclaim⟩)
      exact hfiles _ List.mem_cons_self _ (List.mem_append_left _ hmem) heq.symm
    · have hmem := List.mem_map_of_mem (f := Volume.pvc) (List.mem_filter.mpr ⟨hdisk, hclaim⟩)
      have hmem' : other ∈ component.spec.volumes.filter fun disk => !disk.isClaim :=
        List.mem_filter.mpr ⟨hother, by rw [hnot]; rfl⟩
      exact hapart _ hmem _ (List.mem_map.mpr ⟨other, hmem', rfl⟩)
  · intro ⟨hclaims, hothers, hreserved, hapart⟩
    refine ⟨?_, ⟨hclaims, hothers, fun a ha b hb => ?_⟩, fun a ha b hb => ?_⟩
    · split
      · exact List.nodup_nil
      · exact List.nodup_singleton _
    · obtain ⟨disk, hdisk, rfl⟩ := List.mem_map.mp ha
      obtain ⟨other, hother, rfl⟩ := List.mem_map.mp hb
      obtain ⟨hdisk, hclaim⟩ := List.mem_filter.mp hdisk
      obtain ⟨hother, hnot⟩ := List.mem_filter.mp hother
      exact hapart disk hdisk hclaim other hother (by simpa using hnot)
    · by_cases hnil : component.spec.preInjectedFiles = []
      · rw [if_pos hnil] at ha
        cases ha
      · rw [if_neg hnil] at ha
        rw [List.mem_singleton.mp ha]
        rcases List.mem_append.mp hb with hb | hb
        · obtain ⟨disk, hdisk, rfl⟩ := List.mem_map.mp hb
          obtain ⟨hdisk, hclaim⟩ := List.mem_filter.mp hdisk
          exact (hreserved hnil disk hdisk hclaim).symm
        · obtain ⟨other, _, rfl⟩ := List.mem_map.mp hb
          exact filesVolume_ne_getVolName _ _

/-- **The names are labels** exactly where those of the claims are, and the component can give its name to a disk. -/
theorem labels_volumeNames_iff (hname : isDNS1123Subdomain component.name = true) :
    (∀ name ∈ volumeNames md5 component, isDNS1123Label name = true) ↔
      (∀ disk ∈ component.spec.volumes, disk.isClaim = true → isDNS1123Label disk.pvc = true) ∧
        ((∃ disk ∈ component.spec.volumes, disk.isClaim = false) →
          component.name.length ≤ 30 ∧ dot ∉ component.name) := by
  constructor
  · intro h
    have hdisk : ∀ disk ∈ component.spec.volumes, isDNS1123Label (diskName md5 component disk) = true :=
      fun disk hdisk => h _ (List.mem_append_right _ (List.mem_map_of_mem hdisk))
    refine ⟨fun disk hmem hclaim => ?_, fun hlocal => ?_⟩
    · have hlabel := hdisk disk hmem
      rwa [diskName, if_pos hclaim] at hlabel
    · obtain ⟨disk, hmem, hclaim⟩ := hlocal
      have hlabel := hdisk disk hmem
      rw [diskName, hclaim, if_neg Bool.false_ne_true] at hlabel
      exact (isDNS1123Label_getVolName_iff hname).mp hlabel
  · intro h name hmem
    obtain ⟨hclaims, hshort⟩ := h
    rcases List.mem_append.mp hmem with hmem | hmem
    · by_cases hnil : component.spec.preInjectedFiles = []
      · rw [if_pos hnil] at hmem
        cases hmem
      · rw [if_neg hnil] at hmem
        rw [List.mem_singleton.mp hmem]
        decide
    · obtain ⟨disk, hdisk, rfl⟩ := List.mem_map.mp hmem
      cases hclaim : disk.isClaim with
      | true =>
          rw [diskName, if_pos hclaim]
          exact hclaims disk hdisk hclaim
      | false =>
          rw [diskName, hclaim, if_neg Bool.false_ne_true]
          exact (isDNS1123Label_getVolName_iff hname).mpr (hshort ⟨disk, hdisk, hclaim⟩)

/-- What is made is well formed where its names are distinct labels and its paths are distinct. -/
theorem wellFormed_of_made (h : Made md5 component template made claims) :
    WellFormed template.initContainers.length made claims ↔
      (volumeNames md5 component).Nodup ∧ (∀ name ∈ volumeNames md5 component, isDNS1123Label name = true) ∧
        (mountPaths component).Nodup := by
  constructor
  · intro hwell
    refine ⟨h.names.nodup_iff.mp hwell.distinct, fun name hname => ?_, h.paths ▸ hwell.paths⟩
    exact hwell.labels name (h.names.mem_iff.mpr hname)
  · intro ⟨hnodup, hlabels, hpaths⟩
    have hdistinct := h.names.nodup_iff.mpr hnodup
    refine ⟨hdistinct, fun name hname => hlabels name (h.names.mem_iff.mp hname), ?_, fun m hm => ?_⟩
    · rw [h.paths]
      exact hpaths
    · exact List.count_eq_one_of_mem hdistinct (h.names.mem_iff.mpr (h.mounted m hm))

/-- Of every component. -/
theorem yields_iff (hname : isDNS1123Subdomain component.name = true) :
    YieldsWellFormed md5 component template ↔ Named md5 component := by
  constructor
  · intro ⟨⟨made, claims, hbuilds⟩, hwell⟩
    have hmade := made_of_builds hbuilds
    obtain ⟨hnodup, hlabels, hpaths⟩ := (wellFormed_of_made hmade).mp (hwell made claims hbuilds)
    obtain ⟨hclaims, hhashes, hreserved, hapart⟩ := nodup_volumeNames_iff.mp hnodup
    obtain ⟨hlabel, hshort⟩ := (labels_volumeNames_iff hname).mp hlabels
    exact ⟨hmade.supported, hpaths, hclaims, hlabel, hreserved, hshort, hhashes, hapart⟩
  · intro h
    refine ⟨builds_of_supported h.supported, fun made claims hbuilds => ?_⟩
    refine (wellFormed_of_made (made_of_builds hbuilds)).mpr ⟨?_, ?_, h.paths⟩
    · exact nodup_volumeNames_iff.mpr ⟨h.claims, h.hashes, h.reserved, h.apart⟩
    · exact (labels_volumeNames_iff hname).mpr ⟨h.labels, h.short⟩

end Iff

/-- **A component gets a well-formed pod** exactly where its names and paths are as the condition says. -/
theorem wellFormed_iff (md5 : Md5) (component : Component) (template : PodTemplate)
    (hname : isDNS1123Subdomain component.name = true) :
    YieldsWellFormed md5 component template ↔ Named md5 component := yields_iff hname

/-- A component with a volume in memory. -/
def cached (name : Str) : Component :=
  ⟨str "bank", name,
    ⟨∅, some .server, some 1, [⟨str "/cache", [], ⟨0, str "0"⟩, .temporaryMemory, none, [], []⟩], [], []⟩⟩

/-- No template yet. -/
def emptyTemplate : PodTemplate := ⟨[], [], []⟩

/-- A short name. -/
theorem wellFormed_iff_web :
    YieldsWellFormed sampleMd5 (cached (str "web")) emptyTemplate := by
  refine (wellFormed_iff sampleMd5 (cached (str "web")) emptyTemplate (by decide)).mpr ?_
  refine ⟨by decide, by decide, by decide, by decide, by decide, fun _ => by decide, by decide, by decide⟩

/-- A name of 31 bytes is accepted, and no volume can be named after it. -/
theorem wellFormed_fails :
    ¬ ∀ (md5 : Md5) (checks : OtherChecks) (component : Component) (template : PodTemplate),
      isDNS1123Subdomain component.name = true → validate checks component = [] →
      YieldsWellFormed md5 component template := by
  intro h
  have hname : isDNS1123Subdomain (cached (str "recommendation-service-frontend")).name = true := by decide
  have hyields := h sampleMd5 noChecks (cached (str "recommendation-service-frontend")) emptyTemplate hname
    (by decide)
  have hshort := ((yields_iff hname).mp hyields).short ⟨_, List.mem_cons_self, by decide⟩
  have hlength : (cached (str "recommendation-service-frontend")).name.length = 31 := by decide
  omega

end Kalm.Disks
