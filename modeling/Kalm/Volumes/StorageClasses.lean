/-
  File:      Kalm/Volumes/StorageClasses.lean
  Subject:   THE DEFAULT STORAGE CLASSES of a cloud provider: `reconcileDefaultStorageClass` of
             controller/controllers/storageclass_controller.go.

  * `expectedStorageClasses` -- the templates of a provider, with the label of Kalm;
  * `reconcileStorageClass` -- a stored class is merged with its template, and then the TEMPLATE is sent;
  * `Server` -- the API server: any validation, the defaults of the kind, and what a class keeps for life;
  * `reconcile_eq`, `reconcile_reconcile` -- what a reconcile leaves: the templates, up to the first
    that is refused, and the next one changes nothing;
  * `takesNothing_iff` -- a class keeps what it had exactly where it had nothing beyond its template, or where the
    template does not get through and there is nothing to do.
-/
import Kalm.Lib.Interleaved
import Kalm.Resources.Server
import Kalm.Volumes.Claims

namespace Kalm.StorageClasses

open Calls (Action Fault run)

/-! ## 1. Storage classes -/

/-- `map[string]string`; a nil map reads as an empty one. -/
abbrev StringMap := Str → Option Str

/-- The map of a literal. -/
def StringMap.of (entries : List (Str × Str)) : StringMap := fun key => entries.lookup key

/-- `mergeMap` -/
def mergeMap (old new : StringMap) : StringMap := fun key => (new key).or (old key)

/-- `PersistentVolumeReclaimPolicy` -/
inductive ReclaimPolicy where
  | retain
  | delete
  | recycle
  deriving DecidableEq

/-- `VolumeBindingMode` -/
inductive VolumeBindingMode where
  | immediate
  | waitForFirstConsumer
  deriving DecidableEq

/-- `v1.StorageClass`; `uid` is what the server gives an object for its life. -/
structure StorageClass where
  name : Str
  uid : Str
  annotations : StringMap
  labels : StringMap
  finalizers : List Str
  ownerReferences : List Doc
  provisioner : Str
  parameters : StringMap
  reclaimPolicy : Option ReclaimPolicy
  mountOptions : List Str
  allowVolumeExpansion : Option Bool
  volumeBindingMode : Option VolumeBindingMode
  allowedTopologies : List Doc

/-- `KalmAnnoSCDocLink` -/
def kalmAnnoSCDocLink : Str := str "kalm-annotation-sc-doc-link"

/-- `KalmAnnoSCPriceLink` -/
def kalmAnnoSCPriceLink : Str := str "kalm-annotation-sc-price-link"

/-- `docInfoOnStorageClass` -/
def docInfoOnStorageClass (cloudProvider : Str) : StringMap :=
  if cloudProvider = str "aws" ∨ cloudProvider = str "azure" then
    .of [(kalmAnnoSCDocLink, str "todo"), (kalmAnnoSCPriceLink, str "todo")]
  else if cloudProvider = str "gcp" then
    .of [(kalmAnnoSCDocLink, str "https://cloud.google.com/compute/docs/disks#pdspecs"),
      (kalmAnnoSCPriceLink, str "https://cloud.google.com/compute/disks-image-pricing#disk")]
  else if cloudProvider = str "minikube" then
    .of [(kalmAnnoSCDocLink, str "https://minikube.sigs.k8s.io/docs/handbook/persistent_volumes/"),
      (kalmAnnoSCPriceLink, [])]
  else .of []

/-- A class with the fields that the literals of the source set; the others are zero. -/
def template (name provisioner : Str) (annotations parameters : StringMap) : StorageClass where
  name := name
  uid := []
  annotations := annotations
  labels := .of []
  finalizers := []
  ownerReferences := []
  provisioner := provisioner
  parameters := parameters
  reclaimPolicy := some .retain
  mountOptions := []
  allowVolumeExpansion := none
  volumeBindingMode := none
  allowedTopologies := []

/-- The switch over the providers. -/
def templatesOf (cloudProvider : Str) : List StorageClass :=
  if cloudProvider = str "aws" then
    [template (str "gp2") (str "kubernetes.io/aws-ebs") (docInfoOnStorageClass (str "aws"))
      (.of [(str "type", str "gp2"), (str "fstype", str "ext4")])]
  else if cloudProvider = str "azure" then []
  else if cloudProvider = str "gcp" then
    [template (str "pd-standard") (str "kubernetes.io/gce-pd") (docInfoOnStorageClass (str "gcp"))
      (.of [(str "type", str "pd-standard"), (str "fstype", str "ext4"), (str "replication-type", str "none")]),
    template (str "pd-ssd") (str "kubernetes.io/gce-pd") (docInfoOnStorageClass (str "gcp"))
      (.of [(str "type", str "pd-ssd"), (str "fstype", str "ext4"), (str "replication-type", str "none")])]
  else []

/-- `sc.Labels[KalmLabelManaged] = "true"` -/
def StorageClass.managedByKalm (sc : StorageClass) : StorageClass :=
  { sc with labels := Function.update sc.labels Volumes.kalmLabelManaged (some (str "true")) }

/-- What the reconcile expects of a provider. -/
def expectedStorageClasses (cloudProvider : Str) : List StorageClass :=
  (templatesOf cloudProvider).map StorageClass.managedByKalm

/-! ## 2. The server -/

/-- The class stored under a name has the name. -/
abbrev Stored (name : Str) := { sc : StorageClass // sc.name = name }

/-- The stored classes. -/
abbrev State := (name : Str) → Option (Stored name)

/-- The API server: its validation, of a new class or against the stored one, and the identities it gives. -/
structure Server where
  accepts : Option StorageClass → StorageClass → Bool
  newUid : StorageClass → Str

/-- The calls of the reconcile. An update carries no resource version, so it is not conditional. -/
inductive Call where
  | get (name : Str)
  | create (sc : StorageClass)
  | update (sc : StorageClass)

/-- What a call returns. -/
@[reducible] def Call.Reply : Call → Type
  | .get name => Stored name
  | .create _ => Unit
  | .update _ => Unit

/-- The errors of the server. -/
inductive Error where
  | notFound
  | alreadyExists
  | invalid
  | unavailable
  deriving DecidableEq

/-- The defaults of the kind. -/
def defaulted (sc : StorageClass) : StorageClass :=
  { sc with
    reclaimPolicy := some (sc.reclaimPolicy.getD .delete)
    volumeBindingMode := some (sc.volumeBindingMode.getD .immediate) }

/-- What is stored for a class that is sent: its own fields, with the identity of the stored one. -/
def Server.written (server : Server) {name : Str} (old : Option (Stored name)) (sc : StorageClass) : StorageClass :=
  { defaulted sc with
    uid := match old with
      | some old => old.val.uid
      | none => server.newUid sc }

/-- The validation lets the class through. -/
def Server.takes (server : Server) (s : State) (sc : StorageClass) : Bool :=
  server.accepts ((s sc.name).map Subtype.val) sc

/-- The class is stored under its name. -/
def Server.store (server : Server) (s : State) (sc : StorageClass) : State :=
  Function.update s sc.name (some ⟨server.written (s sc.name) sc, rfl⟩)

/-- The answer to a call, and the state after it. -/
def Server.serve (server : Server) : (c : Call) → State → Except Error c.Reply × State
  | .get name, s =>
    match s name with
    | some sc => (.ok sc, s)
    | none => (.error .notFound, s)
  | .create sc, s =>
    if (s sc.name).isSome then (.error .alreadyExists, s)
    else if server.takes s sc then (.ok (), server.store s sc)
    else (.error .invalid, s)
  | .update sc, s =>
    if (s sc.name).isNone then (.error .notFound, s)
    else if server.takes s sc then (.ok (), server.store s sc)
    else (.error .invalid, s)

/-! ## 3. `reconcileDefaultStorageClass` -/

/-- A program of the controller. -/
abbrev Task (α : Type) := Action Call Call.Reply Error α

/-- What the loop makes of a stored class. -/
def merged (sc expectedSC : StorageClass) : StorageClass :=
  { sc with
    parameters := expectedSC.parameters
    provisioner := expectedSC.provisioner
    reclaimPolicy := expectedSC.reclaimPolicy
    annotations := mergeMap sc.annotations expectedSC.annotations }

/-- The body of the loop. -/
def reconcileStorageClass (expectedSC : StorageClass) : Task Unit := do
  match ← Action.tryCall (Call.get expectedSC.name) with
  | .error .notFound => Action.invoke (Call.create expectedSC)
  | .error e => .fail e
  | .ok sc =>
    let _sc := merged sc.val expectedSC
    -- what was merged is not what is sent
    Action.invoke (Call.update expectedSC)

/-- The loop. -/
def reconcileStorageClasses : List StorageClass → Task Unit
  | [] => pure ()
  | expectedSC :: rest => do
    reconcileStorageClass expectedSC
    reconcileStorageClasses rest

/-- `reconcileDefaultStorageClass` -/
def reconcileDefaultStorageClass (cloudProvider : Str) : Task Unit :=
  reconcileStorageClasses (expectedStorageClasses cloudProvider)

/-- The classes after a reconcile whose calls are answered. -/
def reconcile (server : Server) (cloudProvider : Str) (s : State) : State :=
  (run server.serve .unavailable (reconcileDefaultStorageClass cloudProvider) [] s).2

/-! ## 4. The statement -/

/-- A stored class as it should be: with what is expected, and all it had. -/
def managed (sc expectedSC : StorageClass) : StorageClass :=
  { sc with
    provisioner := expectedSC.provisioner
    parameters := expectedSC.parameters
    reclaimPolicy := expectedSC.reclaimPolicy
    annotations := mergeMap sc.annotations expectedSC.annotations
    labels := mergeMap sc.labels expectedSC.labels }

/-- **Nothing is taken away**: after any number of reconciles each expected class that was stored is as it should be,
    and a second reconcile changes nothing. -/
def TakesNothing (server : Server) (cloudProvider : Str) (s : State) : Prop :=
  (∀ expectedSC ∈ expectedStorageClasses cloudProvider, ∀ sc, s expectedSC.name = some sc →
    ∀ n, ((reconcile server cloudProvider)^[n + 1] s expectedSC.name).map Subtype.val =
      some (managed sc.val expectedSC)) ∧
  reconcile server cloudProvider (reconcile server cloudProvider s) = reconcile server cloudProvider s

/-- A stored class that has nothing its template lacks. -/
structure Bare (sc expectedSC : StorageClass) : Prop where
  annotations : ∀ key, (sc.annotations key).isSome → (expectedSC.annotations key).isSome
  labels : ∀ key, (sc.labels key).isSome → (expectedSC.labels key).isSome
  finalizers : sc.finalizers = []
  ownerReferences : sc.ownerReferences = []
  mountOptions : sc.mountOptions = []
  allowVolumeExpansion : sc.allowVolumeExpansion = none
  volumeBindingMode : sc.volumeBindingMode = some .immediate
  allowedTopologies : sc.allowedTopologies = []

/-- A stored class that has all its template has. -/
structure Carries (sc expectedSC : StorageClass) : Prop where
  provisioner : sc.provisioner = expectedSC.provisioner
  parameters : sc.parameters = expectedSC.parameters
  reclaimPolicy : sc.reclaimPolicy = expectedSC.reclaimPolicy
  annotations : ∀ key value, expectedSC.annotations key = some value → sc.annotations key = some value
  labels : ∀ key value, expectedSC.labels key = some value → sc.labels key = some value

/-- The stored class has nothing to lose where its template and those in front of it are taken by the server, and
    nothing to gain where one is refused. -/
def Spared (server : Server) (s : State) (templates : List StorageClass) : Prop :=
  ∀ front expectedSC back, templates = front ++ expectedSC :: back → ∀ sc, s expectedSC.name = some sc →
    if (∀ d ∈ front, server.takes s d = true) ∧ server.takes s expectedSC = true then Bare sc.val expectedSC
    else Carries sc.val expectedSC

/-! ## 5. What a reconcile leaves -/

/-- The templates are stored one after the other, up to the first that is refused. -/
def Server.after (server : Server) : List StorageClass → State → State
  | [], s => s
  | d :: rest, s => if server.takes s d = true then server.after rest (server.store s d) else s

section Reconcile

variable {server : Server} {s : State} {d expectedSC : StorageClass}

theorem run_reconcileStorageClasses (server : Server) (templates : List StorageClass) (s : State) :
    (run server.serve .unavailable (reconcileStorageClasses templates) [] s).2 = server.after templates s := by
  induction templates generalizing s with
  | nil => rfl
  | cons d rest ih =>
      rw [Server.after, ← ih, reconcileStorageClasses, reconcileStorageClass]
      unfold Action.invoke
      cases hget : s d.name with
      | none =>
          by_cases htakes : server.takes s d = true
          · rw [if_pos htakes]
            simp [run, Server.serve, hget, htakes]
          · rw [if_neg htakes]
            simp [run, Server.serve, hget, htakes]
      | some sc =>
          by_cases htakes : server.takes s d = true
          · rw [if_pos htakes]
            simp [run, Server.serve, hget, htakes]
          · rw [if_neg htakes]
            simp [run, Server.serve, hget, htakes]

theorem reconcile_eq (server : Server) (cloudProvider : Str) (s : State) :
    reconcile server cloudProvider s = server.after (expectedStorageClasses cloudProvider) s :=
  run_reconcileStorageClasses server _ s

theorem store_self : server.store s d d.name = some ⟨server.written (s d.name) d, rfl⟩ := Function.update_self ..

theorem store_of_ne {name : Str} (h : name ≠ d.name) : server.store s d name = s name := Function.update_of_ne h ..

theorem takes_congr {s' : State} (h : s' d.name = s d.name) : server.takes s' d = server.takes s d := by
  rw [Server.takes, h, Server.takes]

/-- Other names are left alone. -/
theorem after_of_ne {templates : List StorageClass} {name : Str} (h : ∀ d ∈ templates, d.name ≠ name) :
    server.after templates s name = s name := by
  induction templates generalizing s with
  | nil => rfl
  | cons d rest ih =>
      rw [List.forall_mem_cons] at h
      rw [Server.after]
      split
      · rw [ih h.2, store_of_ne fun e => h.1 e.symm]
      · rfl

/-- **What is under the name of a template**: the template, if it and those in front of it are taken. -/
theorem after_at {front back : List StorageClass}
    (hnames : ((front ++ expectedSC :: back).map StorageClass.name).Nodup) :
    server.after (front ++ expectedSC :: back) s expectedSC.name =
      if (∀ d ∈ front, server.takes s d = true) ∧ server.takes s expectedSC = true then
        some ⟨server.written (s expectedSC.name) expectedSC, rfl⟩
      else s expectedSC.name := by
  induction front generalizing s with
  | nil =>
      rw [List.nil_append, List.map_cons, List.nodup_cons] at hnames
      have hback : ∀ d ∈ back, d.name ≠ expectedSC.name :=
        fun d hd e => hnames.1 (e ▸ List.mem_map_of_mem hd)
      rw [List.nil_append, Server.after]
      by_cases htakes : server.takes s expectedSC = true
      · rw [if_pos htakes, if_pos ⟨fun _ hd => absurd hd List.not_mem_nil, htakes⟩, after_of_ne hback, store_self]
      · rw [if_neg htakes, if_neg fun h => htakes h.2]
  | cons d front ih =>
      rw [List.cons_append, List.map_cons, List.nodup_cons] at hnames
      have hother : ∀ c ∈ front ++ expectedSC :: back, c.name ≠ d.name :=
        fun c hc e => hnames.1 (e ▸ List.mem_map_of_mem hc)
      rw [List.cons_append, Server.after]
      by_cases htakes : server.takes s d = true
      · have hkeep (c : StorageClass) (hc : c ∈ front ++ expectedSC :: back) :
            server.takes (server.store s d) c = server.takes s c := takes_congr (store_of_ne (hother c hc))
        have hself : expectedSC ∈ front ++ expectedSC :: back :=
          List.mem_append_right front List.mem_cons_self
        have hcond : ((∀ c ∈ front, server.takes (server.store s d) c = true) ∧
              server.takes (server.store s d) expectedSC = true) ↔
            ((∀ c ∈ d :: front, server.takes s c = true) ∧ server.takes s expectedSC = true) := by
          rw [hkeep expectedSC hself, List.forall_mem_cons, and_iff_right htakes]
          refine and_congr_left fun _ => forall₂_congr fun c hc => ?_
          rw [hkeep c (List.mem_append_left _ hc)]
        rw [if_pos htakes, ih hnames.2, store_of_ne (hother expectedSC hself), if_congr hcond rfl rfl]
      · rw [if_neg htakes, if_neg fun h => htakes (h.1 d List.mem_cons_self)]

/-- A template that is stored is what it would be stored as. -/
theorem store_stored {x : Option (Stored d.name)} (h : s d.name = some ⟨server.written x d, rfl⟩) :
    server.store s d = s := by
  funext name
  by_cases hname : name = d.name
  · subst hname
    rw [store_self, h]
    rfl
  · exact store_of_ne hname

theorem after_after {templates : List StorageClass} (hnames : (templates.map StorageClass.name).Nodup) :
    server.after templates (server.after templates s) = server.after templates s := by
  induction templates generalizing s with
  | nil => rfl
  | cons d rest ih =>
      rw [List.map_cons, List.nodup_cons] at hnames
      have hrest : ∀ c ∈ rest, c.name ≠ d.name := fun c hc e => hnames.1 (e ▸ List.mem_map_of_mem hc)
      by_cases htakes : server.takes s d = true
      · have hafter : server.after (d :: rest) s = server.after rest (server.store s d) := if_pos htakes
        have hstored : server.after rest (server.store s d) d.name =
            some ⟨server.written (s d.name) d, rfl⟩ := (after_of_ne hrest).trans store_self
        rw [hafter, Server.after]
        split
        · rw [store_stored hstored]
          exact ih hnames.2
        · rfl
      · have hafter : server.after (d :: rest) s = s := if_neg htakes
        rw [hafter, hafter]

end Reconcile

/-! ## 6. The templates -/

theorem nodup_names (cloudProvider : Str) :
    ((expectedStorageClasses cloudProvider).map StorageClass.name).Nodup := by
  unfold expectedStorageClasses templatesOf
  split
  · exact List.nodup_singleton _
  split
  · exact List.nodup_nil
  split
  · refine List.nodup_cons.mpr ⟨fun h => ?_, List.nodup_singleton _⟩
    have hname : str "pd-standard" = str "pd-ssd" := List.mem_singleton.mp h
    exact absurd hname (by decide)
  · exact List.nodup_nil

/-- What is expected is a template with the label. -/
theorem exists_template {cloudProvider : Str} {expectedSC : StorageClass}
    (h : expectedSC ∈ expectedStorageClasses cloudProvider) :
    ∃ name provisioner annotations parameters,
      expectedSC = (template name provisioner annotations parameters).managedByKalm := by
  have htemplates : ∀ d ∈ templatesOf cloudProvider, ∃ name provisioner annotations parameters,
      d = template name provisioner annotations parameters := by
    unfold templatesOf
    intro d hd
    split at hd
    · exact ⟨_, _, _, _, List.mem_singleton.mp hd⟩
    split at hd
    · exact absurd hd List.not_mem_nil
    split at hd
    · rcases List.mem_cons.mp hd with rfl | hd
      · exact ⟨_, _, _, _, rfl⟩
      · exact ⟨_, _, _, _, List.mem_singleton.mp hd⟩
    · exact absurd hd List.not_mem_nil
  obtain ⟨d, hd, rfl⟩ := List.mem_map.mp h
  obtain ⟨name, provisioner, annotations, parameters, rfl⟩ := htemplates d hd
  exact ⟨name, provisioner, annotations, parameters, rfl⟩

/-- Nothing is lost of the old map exactly where the new one has its keys. -/
theorem mergeMap_eq_right_iff {old new : StringMap} :
    mergeMap old new = new ↔ ∀ key, (old key).isSome → (new key).isSome := by
  constructor
  · intro h key hold
    by_contra hnew
    have hnone : new key = none := Option.not_isSome_iff_eq_none.mp hnew
    have hkey : mergeMap old new key = new key := congrFun h key
    rw [mergeMap, hnone, Option.none_or] at hkey
    rw [hkey] at hold
    cases hold
  · intro h
    funext key
    rw [mergeMap]
    cases hnew : new key with
    | some value => rfl
    | none =>
        have hold : ¬ (old key).isSome := fun hs => by
          have hs' := h key hs
          rw [hnew] at hs'
          cases hs'
        rw [Option.not_isSome_iff_eq_none.mp hold, Option.none_or]

/-- Nothing is gained exactly where the old map has the entries of the new one. -/
theorem mergeMap_eq_left_iff {old new : StringMap} :
    mergeMap old new = old ↔ ∀ key value, new key = some value → old key = some value := by
  constructor
  · intro h key value hnew
    have hkey : mergeMap old new key = old key := congrFun h key
    rw [← hkey, mergeMap, hnew, Option.some_or]
  · intro h
    funext key
    rw [mergeMap]
    cases hnew : new key with
    | none => rw [Option.none_or]
    | some value => rw [Option.some_or, h key value hnew]

section Templates

variable {server : Server} {cloudProvider : Str} {expectedSC : StorageClass} {sc : Stored expectedSC.name}

/-- **The template in the place of a class is the class as it should be** exactly where the class had nothing else. -/
theorem written_eq_managed_iff (h : expectedSC ∈ expectedStorageClasses cloudProvider) :
    server.written (some sc) expectedSC = managed sc.val expectedSC ↔ Bare sc.val expectedSC := by
  obtain ⟨name, provisioner, annotations, parameters, rfl⟩ := exists_template h
  obtain ⟨sc, hname⟩ := sc
  dsimp only
  constructor
  · intro heq
    exact {
      annotations := mergeMap_eq_right_iff.mp (congrArg StorageClass.annotations heq).symm
      labels := mergeMap_eq_right_iff.mp (congrArg StorageClass.labels heq).symm
      finalizers := (congrArg StorageClass.finalizers heq).symm
      ownerReferences := (congrArg StorageClass.ownerReferences heq).symm
      mountOptions := (congrArg StorageClass.mountOptions heq).symm
      allowVolumeExpansion := (congrArg StorageClass.allowVolumeExpansion heq).symm
      volumeBindingMode := (congrArg StorageClass.volumeBindingMode heq).symm
      allowedTopologies := (congrArg StorageClass.allowedTopologies heq).symm }
  · intro hbare
    rw [Server.written, managed, StorageClass.mk.injEq, mergeMap_eq_right_iff.mpr hbare.annotations,
      mergeMap_eq_right_iff.mpr hbare.labels, hbare.finalizers, hbare.ownerReferences, hbare.mountOptions,
      hbare.allowVolumeExpansion, hbare.volumeBindingMode, hbare.allowedTopologies, hname]
    exact ⟨rfl, rfl, rfl, rfl, rfl, rfl, rfl, rfl, rfl, rfl, rfl, rfl, rfl⟩

/-- A class that stays is as it should be exactly where it has all of its template. -/
theorem eq_managed_iff {sc expectedSC : StorageClass} : sc = managed sc expectedSC ↔ Carries sc expectedSC := by
  constructor
  · intro heq
    exact {
      provisioner := (congrArg StorageClass.provisioner heq :)
      parameters := (congrArg StorageClass.parameters heq :)
      reclaimPolicy := (congrArg StorageClass.reclaimPolicy heq :)
      annotations := mergeMap_eq_left_iff.mp (congrArg StorageClass.annotations heq).symm
      labels := mergeMap_eq_left_iff.mp (congrArg StorageClass.labels heq).symm }
  · intro h
    rw [managed, ← h.provisioner, ← h.parameters, ← h.reclaimPolicy, mergeMap_eq_left_iff.mpr h.annotations,
      mergeMap_eq_left_iff.mpr h.labels]

end Templates

/-! ## 7. What a class keeps -/

theorem reconcile_reconcile (server : Server) (cloudProvider : Str) (s : State) :
    reconcile server cloudProvider (reconcile server cloudProvider s) = reconcile server cloudProvider s := by
  rw [reconcile_eq, reconcile_eq]
  exact after_after (nodup_names cloudProvider)

/-- Every later reconcile leaves what the first one leaves. -/
theorem iterate_reconcile (server : Server) (cloudProvider : Str) (s : State) (n : Nat) :
    (reconcile server cloudProvider)^[n + 1] s = reconcile server cloudProvider s := by
  induction n with
  | zero => rfl
  | succ n ih => rw [Function.iterate_succ_apply', ih, reconcile_reconcile]

/-- One class behind a reconcile. -/
theorem kept_iff {server : Server} {cloudProvider : Str} {s : State} {front back : List StorageClass}
    {expectedSC : StorageClass} (hsplit : expectedStorageClasses cloudProvider = front ++ expectedSC :: back)
    {sc : Stored expectedSC.name} (hsc : s expectedSC.name = some sc) :
    (reconcile server cloudProvider s expectedSC.name).map Subtype.val = some (managed sc.val expectedSC) ↔
      if (∀ d ∈ front, server.takes s d = true) ∧ server.takes s expectedSC = true then Bare sc.val expectedSC
      else Carries sc.val expectedSC := by
  have hmem : expectedSC ∈ expectedStorageClasses cloudProvider := by
    rw [hsplit]
    exact List.mem_append_right front List.mem_cons_self
  rw [reconcile_eq, hsplit, after_at (hsplit ▸ nodup_names cloudProvider), hsc]
  split
  · rw [Option.map_some, Option.some_inj, written_eq_managed_iff hmem]
  · rw [Option.map_some, Option.some_inj, eq_managed_iff]

/-- **A class keeps what it had exactly where it had nothing beyond its template**, or where the template does not get
    through and there is nothing to do. -/
theorem takesNothing_iff (server : Server) (cloudProvider : Str) (s : State) :
    TakesNothing server cloudProvider s ↔ Spared server s (expectedStorageClasses cloudProvider) := by
  rw [TakesNothing, and_iff_left (reconcile_reconcile server cloudProvider s)]
  constructor
  · intro h front expectedSC back hsplit sc hsc
    have hmem : expectedSC ∈ expectedStorageClasses cloudProvider := by
      rw [hsplit]
      exact List.mem_append_right front List.mem_cons_self
    exact (kept_iff hsplit hsc).mp (h expectedSC hmem sc hsc 0)
  · intro h expectedSC hmem sc hsc n
    obtain ⟨front, back, hsplit⟩ := List.append_of_mem hmem
    rw [iterate_reconcile]
    exact (kept_iff hsplit hsc).mpr (h front expectedSC back hsplit sc hsc)

/-! ### The mark of the default class -/

/-- A server whose validation lets the templates through. -/
def takesAll : Server where
  accepts _ _ := true
  newUid _ := str "uid"

/-- The annotation that makes a class the default of the cluster. -/
def isDefaultClass : Str := str "storageclass.kubernetes.io/is-default-class"

/-- `pd-standard` as a cluster has it, marked as the default. -/
def markedClass : StorageClass :=
  { template (str "pd-standard") (str "kubernetes.io/gce-pd") (.of [(isDefaultClass, str "true")])
      (.of [(str "type", str "pd-standard"), (str "fstype", str "ext4"), (str "replication-type", str "none")]) with
    volumeBindingMode := some .immediate }

/-- A cluster with that class. -/
def markedCluster : State := fun name => if h : markedClass.name = name then some ⟨markedClass, h⟩ else none

/-- **The mark of the default class is lost.** -/
theorem takesNothing_fails : ¬ TakesNothing takesAll (str "gcp") markedCluster := by
  intro h
  have hsplit : ∃ expectedSC back, expectedStorageClasses (str "gcp") = [] ++ expectedSC :: back ∧
      expectedSC.name = str "pd-standard" ∧ expectedSC.annotations isDefaultClass = none := ⟨_, _, rfl, rfl, rfl⟩
  obtain ⟨expectedSC, back, hsplit, hname, hunmarked⟩ := hsplit
  have hstored : markedCluster expectedSC.name = some ⟨markedClass, hname.symm⟩ := dif_pos hname.symm
  have hmem : expectedSC ∈ expectedStorageClasses (str "gcp") := by
    rw [hsplit]
    exact List.mem_cons_self
  have hbare := (kept_iff hsplit hstored).mp (h.1 expectedSC hmem _ hstored 0)
  rw [if_pos ⟨fun _ hd => absurd hd List.not_mem_nil, rfl⟩] at hbare
  have hmark : (expectedSC.annotations isDefaultClass).isSome := hbare.annotations isDefaultClass rfl
  rw [hunmarked] at hmark
  cases hmark

end Kalm.StorageClasses
