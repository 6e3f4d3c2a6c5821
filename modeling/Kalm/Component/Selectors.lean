/-
  File:      Kalm/Component/Selectors.lean
  Subject:   SELECTORS AND THE PODS THEY SELECT: components are applied with any labels, and reconciled, in any
             order; any call can fail.

  * `Generation` -- what `GetPodTemplateWithoutVols` makes a pod template of: the labels of the component with
    `app` and `version`, then the plugins;
  * `SelectorsMatch` -- behind a reconcile the selectors of the services and of the workload select the pods of
    the component, and no service selects the pods of another one;
  * `Meets` -- what this takes: the labels of a spec name nothing else than the controller does, an update keeps
    them, the plugins leave the labels alone, and the services found under the component's names are its own;
  * `selectorsMatch_of_reaches` -- then it holds in every state reached; `selectorsMatch_fails` -- not without:
    the service selects by the user's `app`, and the pods have the component's.
-/
import Kalm.Component.Reconciled
import Kalm.Lib.Runs

namespace Kalm.Controller.Selectors

open Objects (State Versioned Returns Inherits SameBut find save deleteLoaded inherits_bind inherits_find
  inherits_save inherits_deleteLoaded inherits_invoke)
open Calls (Fault)
open Runs (Reaches anyStep runSteps)

/-! ## 1. The pod template -/

/-- The labels of a pod template before the plugins. -/
def podLabels (c : Component) : ObjectLabels :=
  (c.getLabels.insert (str "app") c.name).insert (str "version") (str "v1")

/-- What a pod template is made of beside its labels: the restart policy and the rest of the pod, where there is
    no error; what the active plugins make of the template; and the volumes, with the claims of a stateful set. -/
structure Generation where
  podSpec : Component → Option (Str × Doc)
  afterPodTemplateGeneration : Component → PodTemplate → Option PodTemplate
  prepareVols : Component → PodTemplate → Option (Doc × Doc)
  beforeDeploymentSave : DeploymentSpec → Option DeploymentSpec

/-- `GetPodTemplateWithoutVols`. -/
def Generation.getPodTemplateWithoutVols (gen : Generation) (c : Component) : Option PodTemplate :=
  (gen.podSpec c).bind fun (restartPolicy, rest) =>
    gen.afterPodTemplateGeneration c ⟨podLabels c, restartPolicy, rest⟩

/-- A run with these templates. -/
def Generation.surroundings (gen : Generation) : Surroundings where
  podTemplate c := (gen.getPodTemplateWithoutVols c).bind fun template =>
    (gen.prepareVols c template).map fun (rest, claims) => ({ template with rest := rest }, claims)
  beforeDeploymentSave := gen.beforeDeploymentSave

/-! ## 2. Runs -/

/-- The cluster, and the component whose reconcile has just returned. -/
structure World where
  cluster : Cluster
  reconciled : Option (Str × Str)

/-- What happens: a component is created or updated, an object of another kind is written, any object is removed,
    a component is reconciled while calls fail. -/
inductive Event where
  | apply (c : Component)
  | store (k : Kind) (obj : k.Obj)
  | remove (k : Kind) (key : Str × Str)
  | reconcile (key : Str × Str) (gen : Generation) (faults : List Fault)

/-- The kinds the controller does not write. -/
def others : Kind → Bool
  | .ns => true
  | .pluginBinding => true
  | .httpsCertIssuer => true
  | .httpsCert => true
  | _ => false

/-- One step. -/
def step (w : World) : Event → Option World
  | .apply c => some ⟨w.cluster.put Kind.component c, none⟩
  | .store k obj => if others k then some ⟨w.cluster.put k obj, none⟩ else none
  | .remove k key => some ⟨w.cluster.remove k key, none⟩
  | .reconcile key gen faults =>
    match Calls.run Objects.serve .unavailable (ComponentReconcilerTask.run gen.surroundings key) faults
        w.cluster with
    | (.returned _, t) => some ⟨t, some key⟩
    | (_, t) => some ⟨t, none⟩

/-- Neither components nor what a reconcile writes are there. -/
structure Initial (w : World) : Prop where
  components : ∀ key, w.cluster.get .component key = none
  written : ∀ k key, Written k → w.cluster.get k key = none
  reconciled : w.reconciled = none

/-! ## 3. The statement -/

/-- Every label of `a` is one of `b`. -/
def SubLabels (a b : ObjectLabels) : Prop := ∀ key v, a.lookup key = some v → b.lookup key = some v

/-- The pod template of a workload. -/
def podTemplate : (t : WorkloadType) → Workload t → PodTemplate
  | .server, w => DeploymentSpec.template w.spec
  | .cronjob, w => CronJobSpec.template w.spec
  | .daemonset, w => DaemonSetSpec.template w.spec
  | .statefulset, w => StatefulSetSpec.template w.spec

/-- Its selector; a cron job has none. -/
def selector : (t : WorkloadType) → Workload t → ObjectLabels
  | .server, w => DeploymentSpec.selector w.spec
  | .cronjob, _ => ∅
  | .daemonset, w => DaemonSetSpec.selector w.spec
  | .statefulset, w => StatefulSetSpec.selector w.spec

/-- The labels name the component: its namespace, its name, and that it is managed. -/
structure Names (key : Str × Str) (labels : ObjectLabels) : Prop where
  ns : labels.lookup (str "kalm-namespace") = some key.1
  name : labels.lookup (str "kalm-component") = some key.2
  managed : labels.lookup (str "kalm-managed") = some (str "true")

/-- A service of the component: the one with its name, and the headless one, as long as it asks for it or owns
    it. -/
def IsServiceOf (s : Cluster) (c : Component) (v : Stored .service) : Prop :=
  s.get .service c.key = some v ∨
    s.get .service c.headlessKey = some v ∧
      (c.spec.asksForHeadless = true ∨ (Service.metadata v.obj).controller = some c.name)

/-- Behind a reconcile of a component that has a workload. -/
structure Matches (s : Cluster) (c : Component) (pods : Workload c.spec.workloadType) : Prop where
  services : ∀ v, IsServiceOf s c v → SubLabels (Service.selector v.obj) (podTemplate _ pods).labels
  workload : SubLabels (selector _ pods) (podTemplate _ pods).labels
  names : Names c.key (podTemplate _ pods).labels

/-- **The selectors match the pods.** -/
structure SelectorsMatch (w : World) : Prop where
  reconciled : ∀ key c nspace, w.reconciled = some key → setupOf w.cluster key = some (c, nspace) →
    c.deleting = false → ∀ v, w.cluster.get (.workload c.spec.workloadType) c.key = some v →
      Matches w.cluster c v.obj
  apart : ∀ (v : Stored .service) name, v ∈ w.cluster.list .service →
    (Service.metadata v.obj).controller = some name →
    ∀ t (pods : Stored (.workload t)), pods ∈ w.cluster.list (.workload t) →
      ((Service.metadata v.obj).ns, name) ≠ pods.key →
        ¬ SubLabels (Service.selector v.obj) (podTemplate t pods.obj).labels

/-- The labels the controller sets on the pods of a component. -/
def ownLabels (c : Component) : List (Str × Str) :=
  [(str "kalm-namespace", c.ns), (str "kalm-component", c.name), (str "kalm-managed", str "true"),
    (str "app", c.name), (str "version", str "v1")]

/-- The labels of its spec say nothing else. -/
def KeepsOwn (c : Component) : Prop := ∀ x ∈ ownLabels c, ∀ v, c.spec.labels.lookup x.1 = some v → v = x.2

/-- No service and no workload of the component is stored. -/
def Bare (s : Cluster) (c : Component) : Prop :=
  (∀ key, ¬ Owned c.ns c.name s .service key) ∧ ∀ t, s.get (.workload t) c.key = none

/-- The plugins leave the labels of the pod template alone, and the selector. -/
structure Generation.KeepsLabels (gen : Generation) : Prop where
  template : ∀ c template template', gen.afterPodTemplateGeneration c template = some template' →
    template'.labels = template.labels
  deployment : ∀ spec spec', gen.beforeDeploymentSave spec = some spec' →
    spec'.template.labels = spec.template.labels ∧ spec'.selector = spec.selector

/-- A service under this key belongs to the component. -/
def OwnService (s : Cluster) (c : Component) (key : Str × Str) : Prop :=
  ∀ v : Stored .service, s.get .service key = some v → (Service.metadata v.obj).controller = some c.name

/-- What a step needs: the labels of a spec contradict none of the controller's, and those of the spec before
    are kept as long as a service or a workload was made from it; a reconcile finds services of the component
    under its names, and plugins that leave the labels alone. -/
def Meets (w : World) : Event → Prop
  | .apply c => KeepsOwn c ∧
    ((∃ v : Stored .component, w.cluster.get .component c.key = some v ∧
      SubLabels (Component.spec v.obj).labels c.spec.labels) ∨ Bare w.cluster c)
  | .reconcile key gen _ => gen.KeepsLabels ∧
    ∀ c nspace, setupOf w.cluster key = some (c, nspace) → OwnService w.cluster c c.key ∧
      (c.spec.asksForHeadless = true → OwnService w.cluster c c.headlessKey)
  | _ => True

/-! ## 4. Labels -/

variable {c d : Component} {key : Str} {v : Str} {a b : ObjectLabels}

theorem SubLabels.refl (a : ObjectLabels) : SubLabels a a := fun _ _ h => h

theorem SubLabels.trans {e : ObjectLabels} (hab : SubLabels a b) (hbe : SubLabels b e) : SubLabels a e :=
  fun key v h => hbe key v (hab key v h)

theorem lookup_set (a : ObjectLabels) (key' v : Str) :
    (a.insert key' v).lookup key = if key = key' then some v else a.lookup key := by
  split
  · rename_i h
    rw [h, Finmap.lookup_insert]
  · rename_i h
    rw [Finmap.lookup_insert_of_ne _ h]

/-- A label comes from the spec, or is one of the first three of the controller. -/
theorem lookup_getLabels (h : c.getLabels.lookup key = some v) :
    c.spec.labels.lookup key = some v ∨ (key, v) ∈ (ownLabels c).take 3 := by
  unfold Component.getLabels at h
  by_cases hmem : key ∈ c.spec.labels
  · rw [Finmap.lookup_union_left hmem] at h
    exact Or.inl h
  · rw [Finmap.lookup_union_right hmem, lookup_set, lookup_set, lookup_set] at h
    right
    split at h
    · rename_i hkey
      rw [hkey, ← Option.some.inj h]
      exact List.mem_of_getElem? (i := 2) rfl
    split at h
    · rename_i hkey
      rw [hkey, ← Option.some.inj h]
      exact List.mem_of_getElem? (i := 1) rfl
    split at h
    · rename_i hkey
      rw [hkey, ← Option.some.inj h]
      exact List.mem_of_getElem? (i := 0) rfl
    · cases h

/-- The names of the labels differ. -/
theorem ownLabels_inj {w : Str} (hv : (key, v) ∈ ownLabels c) (hw : (key, w) ∈ ownLabels c) : v = w := by
  have hnames : (ownLabels c).map Prod.fst =
      [str "kalm-namespace", str "kalm-component", str "kalm-managed", str "app", str "version"] := rfl
  have hnodup : ((ownLabels c).map Prod.fst).Nodup := by
    rw [hnames]
    decide
  exact congrArg Prod.snd (List.inj_on_of_nodup_map hnodup hv hw rfl)

/-- A label of the pods: one of the controller's, or one of the spec. -/
def IsPodLabel (c : Component) (key v : Str) : Prop := (key, v) ∈ ownLabels c ∨ c.spec.labels.lookup key = some v

/-- The spec keeps what the controller says. -/
theorem KeepsOwn.unique (h : KeepsOwn c) {w : Str} (hv : IsPodLabel c key v) (hw : IsPodLabel c key w) : v = w := by
  rcases hv with hv | hv <;> rcases hw with hw | hw
  · exact ownLabels_inj hv hw
  · exact (h _ hv w hw).symm
  · exact h _ hw v hv
  · exact Option.some.inj (hv.symm.trans hw)

theorem isPodLabel_of_getLabels (h : c.getLabels.lookup key = some v) : IsPodLabel c key v :=
  (lookup_getLabels h).elim Or.inr fun hown => Or.inl (List.mem_of_mem_take hown)

theorem isPodLabel_of_podLabels (h : (podLabels c).lookup key = some v) : IsPodLabel c key v := by
  rw [podLabels, lookup_set, lookup_set] at h
  split at h
  · rename_i hkey
    rw [hkey, ← Option.some.inj h]
    exact Or.inl (List.mem_of_getElem? (i := 4) rfl)
  split at h
  · rename_i hkey
    rw [hkey, ← Option.some.inj h]
    exact Or.inl (List.mem_of_getElem? (i := 3) rfl)
  · exact isPodLabel_of_getLabels h

theorem mem_podLabels (h : IsPodLabel c key v) : key ∈ podLabels c := by
  rw [podLabels, Component.getLabels, Finmap.mem_insert, Finmap.mem_insert, Finmap.mem_union, Finmap.mem_insert,
    Finmap.mem_insert, Finmap.mem_insert]
  rcases h with hown | hspec
  · simp only [ownLabels, List.mem_cons, Prod.mk.injEq, List.not_mem_nil, or_false] at hown
    rcases hown with ⟨h, _⟩ | ⟨h, _⟩ | ⟨h, _⟩ | ⟨h, _⟩ | ⟨h, _⟩ <;> simp [h]
  · exact Or.inr (Or.inr (Or.inl (Finmap.lookup_isSome.mp (by rw [hspec]; rfl))))

/-- **The labels of the pods**, when the spec keeps those of the controller. -/
theorem lookup_podLabels (h : KeepsOwn c) : (podLabels c).lookup key = some v ↔ IsPodLabel c key v := by
  refine ⟨isPodLabel_of_podLabels, fun hv => ?_⟩
  obtain ⟨w, hw⟩ := Option.isSome_iff_exists.mp (Finmap.lookup_isSome.mpr (mem_podLabels hv))
  rw [hw, h.unique hv (isPodLabel_of_podLabels hw)]

/-- **New selectors select the pods.** -/
theorem getLabels_subLabels (h : KeepsOwn c) : SubLabels c.getLabels (podLabels c) := fun _ _ hv =>
  (lookup_podLabels h).mpr (isPodLabel_of_getLabels hv)

/-- **An update that keeps the labels of the spec keeps those of the pods.** -/
theorem podLabels_subLabels (hc : KeepsOwn c) (hd : KeepsOwn d) (hkey : c.key = d.key)
    (hlabels : SubLabels c.spec.labels d.spec.labels) : SubLabels (podLabels c) (podLabels d) := by
  intro key v hv
  have hown : ownLabels c = ownLabels d := by
    rw [ownLabels, show c.ns = d.ns from congrArg Prod.fst hkey, show c.name = d.name from congrArg Prod.snd hkey]
    rfl
  rcases (lookup_podLabels hc).mp hv with hv | hv
  · exact (lookup_podLabels hd).mpr (Or.inl (hown ▸ hv))
  · exact (lookup_podLabels hd).mpr (Or.inr (hlabels key v hv))

theorem names_podLabels (h : KeepsOwn c) : Names c.key (podLabels c) where
  ns := (lookup_podLabels h).mpr (Or.inl (List.mem_of_getElem? (i := 0) rfl))
  name := (lookup_podLabels h).mpr (Or.inl (List.mem_of_getElem? (i := 1) rfl))
  managed := (lookup_podLabels h).mpr (Or.inl (List.mem_of_getElem? (i := 2) rfl))

theorem mem_getLabels (hown : (key, v) ∈ (ownLabels c).take 3) : key ∈ c.getLabels := by
  rw [Component.getLabels, Finmap.mem_union, Finmap.mem_insert, Finmap.mem_insert, Finmap.mem_insert]
  simp only [ownLabels, List.take, List.mem_cons, Prod.mk.injEq, List.not_mem_nil, or_false] at hown
  rcases hown with ⟨h, _⟩ | ⟨h, _⟩ | ⟨h, _⟩ <;> simp [h]

theorem lookup_getLabels_own (h : KeepsOwn c) (hown : (key, v) ∈ (ownLabels c).take 3) :
    c.getLabels.lookup key = some v := by
  obtain ⟨w, hw⟩ := Option.isSome_iff_exists.mp (Finmap.lookup_isSome.mpr (mem_getLabels hown))
  rw [hw, h.unique (isPodLabel_of_getLabels hw) (Or.inl (List.mem_of_mem_take hown))]

theorem names_getLabels (h : KeepsOwn c) : Names c.key c.getLabels where
  ns := lookup_getLabels_own h (List.mem_of_getElem? (i := 0) rfl)
  name := lookup_getLabels_own h (List.mem_of_getElem? (i := 1) rfl)
  managed := lookup_getLabels_own h (List.mem_of_getElem? (i := 2) rfl)

/-- What names one component is no part of what names another. -/
theorem Names.not_subLabels {x y : Str × Str} (ha : Names x a) (hb : Names y b) (hne : x ≠ y) : ¬ SubLabels a b := by
  intro h
  have hns := (h _ _ ha.ns).symm.trans hb.ns
  have hname := (h _ _ ha.name).symm.trans hb.name
  exact hne (Prod.ext (Option.some.inj hns) (Option.some.inj hname))

/-! ## 5. The invariant -/

/-- The components that are stored. -/
def componentsOf (s : Cluster) (key : Str × Str) : Option Component := (s.get .component key).map Versioned.obj

/-- What is stored next to these components: they keep the controller's labels; a service names the component
    that owns it and selects by labels of its pods; so does a workload, whose pods are named, too. -/
def Labelled (components : Str × Str → Option Component) : (k : Kind) → k.Obj → Prop
  | .component, c => components (Component.key c) = some c ∧ KeepsOwn c
  | .service, v => ∃ name, (Service.metadata v).controller = some name ∧
      Names ((Service.metadata v).ns, name) (Service.selector v) ∧
        ∀ c, components ((Service.metadata v).ns, name) = some c → SubLabels (Service.selector v) (podLabels c)
  | .workload t, w => Names (Kind.key (.workload t) w) (podTemplate t w).labels ∧
      ∀ c, components (Kind.key (.workload t) w) = some c → SubLabels (selector t w) (podLabels c)
  | _, _ => True

/-- Everything stored is labelled. -/
def Kept (s : Cluster) : Prop := s.All (S := schema) (Labelled (componentsOf s))

variable {components : Str × Str → Option Component} {s t : Cluster} {k : Kind} {gen : Generation}
  {enabled : Bool} {template : PodTemplate}

section Reconcile

variable (hc : components c.key = some c) (hown : KeepsOwn c)

include hc hown in
theorem labelled_newService {name : Str} {clusterIP : Str} {ports : List ServicePort} :
    Labelled components .service ⟨c.newMeta name c.getLabels ∅, c.getLabels, clusterIP, ports⟩ := by
  refine ⟨c.name, rfl, names_getLabels hown, fun d hd => ?_⟩
  cases Option.some.inj (hc.symm.trans hd)
  exact getLabels_subLabels hown

theorem sound_loadService (c : Component) :
    Inherits (S := schema) (Labelled components) (loadService c) fun loaded =>
      (∀ v, loaded.1 = some v → Labelled components .service v.obj) ∧
        ∀ v, loaded.2 = some v → Labelled components .service v.obj := by
  refine inherits_bind (inherits_find (S := schema) c.key) fun service hservice => ?_
  refine inherits_bind (inherits_find (S := schema) c.headlessKey) fun headless hheadless => ?_
  exact ⟨fun v hv => (hservice v hv).1, fun v hv => (hheadless v hv).1⟩

include hc hown in
theorem sound_reconcileService {service headlessService : Option (Stored .service)}
    {rule : Option (Stored .destinationRule)} (hservice : ∀ v, service = some v → Labelled components .service v.obj)
    (hheadless : ∀ v, headlessService = some v → Labelled components .service v.obj) :
    Inherits (S := schema) (Labelled components) (reconcileService c enabled service headlessService rule)
      fun _ => True := by
  unfold reconcileService
  split
  · exact inherits_bind (inherits_deleteLoaded (S := schema) service) fun _ _ => trivial
  split
  · refine inherits_bind (inherits_save (S := schema) (labelled_newService hc hown) hservice) fun _ _ => ?_
    split
    · refine inherits_bind (inherits_save (S := schema) (labelled_newService hc hown) hheadless) fun _ _ => ?_
      refine inherits_bind (inherits_save (S := schema) trivial fun _ _ => trivial) fun _ _ => ?_
      exact inherits_bind (sound_loadService c) fun _ _ => trivial
    · refine inherits_bind (inherits_save (S := schema) trivial fun _ _ => trivial) fun _ _ => ?_
      exact inherits_bind (sound_loadService c) fun _ _ => trivial
  · refine inherits_bind (inherits_deleteLoaded (S := schema) service) fun _ _ => ?_
    refine inherits_bind (inherits_deleteLoaded (S := schema) headlessService) fun _ _ => ?_
    refine inherits_bind (inherits_deleteLoaded (S := schema) rule) fun _ _ => ?_
    exact inherits_bind (sound_loadService c) fun _ _ => trivial

theorem sound_orFail {α : Type} {o : Option α} :
    Inherits (S := schema) (Labelled components) (orFail o) fun a => o = some a := by
  cases o with
  | none => trivial
  | some a => exact rfl

theorem runPlugins_spec (hgen : gen.KeepsLabels) {w w' : Workload .server}
    (h : w.runPlugins gen.surroundings = some w') :
    w'.metadata = w.metadata ∧ (podTemplate .server w').labels = (podTemplate .server w).labels ∧
      selector .server w' = selector .server w := by
  obtain ⟨spec, hspec, rfl⟩ := Option.map_eq_some_iff.mp h
  exact ⟨rfl, hgen.deployment _ _ hspec⟩

include hc hown in
/-- A workload of the component with the labels of its pods. -/
theorem labelled_workload {type : WorkloadType} {w : Workload type} (hkey : Kind.key (.workload type) w = c.key)
    (hlabels : (podTemplate type w).labels = podLabels c) (hselector : SubLabels (selector type w) (podLabels c)) :
    Labelled components (.workload type) w := by
  refine ⟨?_, fun d hd => ?_⟩
  · rw [hkey, hlabels]
    exact names_podLabels hown
  · rw [hkey] at hd
    cases Option.some.inj (hc.symm.trans hd)
    exact hselector

include hc in
/-- The selector of a workload that is stored under the component's name. -/
theorem selector_of_labelled {type : WorkloadType} {w : Workload type} (hkey : Kind.key (.workload type) w = c.key)
    (h : Labelled components (.workload type) w) : SubLabels (selector type w) (podLabels c) :=
  h.2 c (by rw [hkey]; exact hc)

include hc hown in
theorem sound_reconcileDeployment (hgen : gen.KeepsLabels) (hlabels : template.labels = podLabels c)
    {loaded : Option (Stored (.workload .server))}
    (hloaded : ∀ v, loaded = some v → Labelled components (.workload .server) v.obj ∧ v.key = c.key) :
    Inherits (S := schema) (Labelled components) (reconcileDeployment gen.surroundings c template loaded)
      fun _ => True := by
  unfold reconcileDeployment
  cases loaded with
  | none =>
      refine inherits_bind sound_orFail fun w hw => ?_
      obtain ⟨hmeta, htemplate, hselector⟩ := runPlugins_spec hgen hw
      refine (inherits_invoke (S := schema) (c := .create (.workload .server) w) fun _ => ?_).mono fun _ _ => trivial
      refine labelled_workload hc hown ?_ (htemplate.trans hlabels) ?_
      · rw [Kind.key, hmeta]
        rfl
      · rw [hselector, ← hlabels]
        exact SubLabels.refl _
  | some v =>
      obtain ⟨hv, hkey⟩ := hloaded v rfl
      dsimp only
      split
      · trivial
      refine inherits_bind sound_orFail fun owned howned => ?_
      refine inherits_bind sound_orFail fun w hw => ?_
      obtain ⟨hmeta, htemplate, hselector⟩ := runPlugins_spec hgen hw
      obtain ⟨metadata, hset, rfl⟩ := Option.map_eq_some_iff.mp howned
      obtain ⟨_, hns, hname⟩ := setControllerReference_spec hset
      have hkey' : Kind.key (.workload .server) w = c.key := by
        rw [Kind.key, hmeta, ← hkey]
        exact Prod.ext hns hname
      refine (inherits_invoke (S := schema) (c := .update (.workload .server) ⟨w, v.version⟩) fun _ _ _ => ?_).mono
        fun _ _ => trivial
      refine labelled_workload hc hown hkey' (htemplate.trans hlabels) ?_
      rw [hselector]
      exact selector_of_labelled (w := (v.obj : Workload .server)) hc hkey hv

include hc hown in
theorem sound_reconcileWorkloadOf (hgen : gen.KeepsLabels) (hlabels : template.labels = podLabels c)
    {headlessService : Option Service} {claims : Doc} {type : WorkloadType}
    {loaded : Option (Stored (.workload type))}
    (hloaded : ∀ v, loaded = some v → Labelled components (.workload type) v.obj ∧ v.key = c.key) :
    Inherits (S := schema) (Labelled components)
      (reconcileWorkloadOf gen.surroundings c headlessService template claims type loaded) fun _ => True := by
  cases type with
  | server => exact sound_reconcileDeployment hc hown hgen hlabels hloaded
  | cronjob =>
      have hjob : ((c.cronJobSpec template).template).labels = podLabels c := by
        rw [Component.cronJobSpec]
        split <;> exact hlabels
      have hnone : SubLabels ∅ (podLabels c) := fun _ _ h => by cases h
      rw [reconcileWorkloadOf, reconcileCronJob]
      refine inherits_save (S := schema) ?_ fun v hv => ?_
      · exact labelled_workload hc hown rfl hjob hnone
      · exact labelled_workload hc hown (hloaded v hv).2 hjob hnone
  | daemonset =>
      rw [reconcileWorkloadOf, reconcileDaemonSet]
      refine inherits_save (S := schema) ?_ fun v hv => ?_
      · exact labelled_workload hc hown rfl hlabels (getLabels_subLabels hown)
      · obtain ⟨hv, hkey⟩ := hloaded v hv
        exact labelled_workload hc hown hkey hlabels
          (selector_of_labelled (w := (v.obj : Workload .daemonset)) hc hkey hv)
  | statefulset =>
      rw [reconcileWorkloadOf, reconcileStatefulSet]
      refine inherits_save (S := schema) ?_ fun v hv => ?_
      · exact labelled_workload hc hown rfl hlabels (getLabels_subLabels hown)
      · obtain ⟨hv, hkey⟩ := hloaded v hv
        exact labelled_workload hc hown hkey hlabels
          (selector_of_labelled (w := (v.obj : Workload .statefulset)) hc hkey hv)

/-- The labels of a generated template. -/
theorem surroundings_podTemplate (hgen : gen.KeepsLabels) {claims : Doc}
    (h : gen.surroundings.podTemplate c = some (template, claims)) : template.labels = podLabels c := by
  obtain ⟨generated, hgenerated, hvols⟩ := Option.bind_eq_some_iff.mp h
  obtain ⟨⟨restartPolicy, rest⟩, _, hplugins⟩ := Option.bind_eq_some_iff.mp hgenerated
  obtain ⟨⟨rest', claims'⟩, _, hpair⟩ := Option.map_eq_some_iff.mp hvols
  cases hpair
  exact hgen.template _ _ _ hplugins

include hc hown in
theorem sound_reconcileWorkload (hgen : gen.KeepsLabels) {headlessService : Option Service}
    {loaded : Option (Stored (.workload c.spec.workloadType))}
    (hloaded : ∀ v, loaded = some v → Labelled components (.workload c.spec.workloadType) v.obj ∧ v.key = c.key) :
    Inherits (S := schema) (Labelled components)
      (reconcileWorkload gen.surroundings c enabled headlessService loaded) fun _ => True := by
  unfold reconcileWorkload
  split
  · exact inherits_deleteLoaded (S := schema) loaded
  · refine inherits_bind sound_orFail fun generated hgenerated => ?_
    obtain ⟨template, claims⟩ := generated
    exact sound_reconcileWorkloadOf hc hown hgen (surroundings_podTemplate hgen hgenerated) hloaded

include hc hown in
theorem sound_reconcile (hgen : gen.KeepsLabels) :
    Inherits (S := schema) (Labelled components) (ComponentReconcilerTask.reconcile gen.surroundings c enabled)
      fun _ => True := by
  unfold ComponentReconcilerTask.reconcile
  refine inherits_bind (sound_loadService c) fun loaded hloaded => ?_
  have hlisted : Inherits (S := schema) (Labelled components) (loadComponentPluginBinding c) fun _ => True :=
    inherits_bind (inherits_invoke (S := schema) (c := .list .pluginBinding) trivial) fun _ _ => trivial
  refine inherits_bind hlisted fun bindings _ => ?_
  refine inherits_bind (inherits_find (S := schema) c.key) fun rule _ => ?_
  refine inherits_bind (inherits_find (S := schema) c.key) fun workload hworkload => ?_
  split
  · trivial
  · refine inherits_bind (sound_reconcileService hc hown hloaded.1 hloaded.2) fun held _ => ?_
    refine inherits_bind sound_orFail fun _ _ => ?_
    exact sound_reconcileWorkload hc hown hgen hworkload

end Reconcile

/-- **Every run of a reconcile writes what is labelled.** -/
theorem sound_run (hgen : gen.KeepsLabels) (key : Str × Str) :
    Inherits (S := schema) (Labelled components) (ComponentReconcilerTask.run gen.surroundings key)
      fun _ => True := by
  unfold ComponentReconcilerTask.run
  have hsetup : Inherits (S := schema) (Labelled components) (setupAttributes key) fun found =>
      ∀ c nspace, found = some (c, nspace) → components c.key = some c ∧ KeepsOwn c := by
    refine inherits_bind (inherits_find (S := schema) key) fun found hfound => ?_
    cases found with
    | none =>
        intro c nspace h
        cases h
    | some v =>
        refine inherits_bind (inherits_find (S := schema) _) fun nspace _ => ?_
        cases nspace with
        | none =>
            intro c nspace h
            cases h
        | some nspace =>
            intro c nspace' h
            cases h
            exact (hfound v rfl).1
  refine inherits_bind hsetup fun found hfound => ?_
  cases found with
  | none => trivial
  | some found =>
      obtain ⟨c, nspace⟩ := found
      obtain ⟨hc, hown⟩ := hfound c nspace rfl
      exact sound_reconcile hc hown hgen

/-! ## 6. A reconcile that returns -/

section Returned

variable {Q : Unit → Cluster → Prop} {key : Str × Str}

/-- What was saved is stored. -/
theorem returns_saved_obj {new : k.Obj} {updated : k.Obj → k.Obj} (hnew : k.key new = key)
    (hupdated : ∀ obj, k.key obj = key → k.key (updated obj) = key)
    (h : Returns (save (S := schema) k (s.get k key) new updated) s Q) :
    ∃ (t : Cluster) (w : Stored k), t.get k key = some w ∧ (w.obj = new ∨ ∃ v : Stored k, w.obj = updated v.obj) ∧
      Q () t := by
  have hQ := (Objects.returns_save (S := schema) hnew hupdated).mp h
  obtain ⟨w, hw, hobj⟩ := Objects.get_saved (S := schema) (s := s) hnew hupdated
  exact ⟨_, w, hw, hobj.imp_right fun ⟨v, _, hv⟩ => ⟨v, hv⟩, hQ.2⟩

theorem returns_updated_obj {obj : k.Obj} {version : Nat} (hobj : k.key obj = key)
    (h : Returns (call (.update k ⟨obj, version⟩)) s Q) :
    ∃ (t : Cluster) (w : Stored k), t.get k key = some w ∧ w.obj = obj ∧ Q () t := by
  subst hobj
  obtain ⟨current, hcurrent, _, hQ⟩ := (Objects.returns_update (S := schema)).mp h
  split at hQ
  · rename_i heq
    exact ⟨s, current, hcurrent, heq, hQ⟩
  · exact ⟨_, ⟨obj, s.revision + 1⟩, by rw [State.get_put, if_pos rfl], rfl, hQ⟩

theorem returns_created_obj {new : k.Obj} (hnew : k.key new = key) (h : Returns (call (.create k new)) s Q) :
    ∃ (t : Cluster) (w : Stored k), t.get k key = some w ∧ w.obj = new ∧ Q () t := by
  subst hnew
  obtain ⟨_, _, hQ⟩ := (Objects.returns_create (S := schema)).mp h
  exact ⟨_, ⟨new, s.revision + 1⟩, by rw [State.get_put, if_pos rfl], rfl, hQ⟩

/-- The workload of the component is stored with these labels of its pods. -/
def HasPods (t : Cluster) (type : WorkloadType) (key : Str × Str) (labels : ObjectLabels) : Prop :=
  ∃ w : Stored (.workload type), t.get (.workload type) key = some w ∧ (podTemplate type w.obj).labels = labels

theorem returns_deployment_labels (hgen : gen.KeepsLabels)
    (h : Returns (reconcileDeployment gen.surroundings c template (s.get (.workload .server) c.key)) s Q) :
    ∃ t, HasPods t .server c.key template.labels ∧ Q () t := by
  unfold reconcileDeployment at h
  cases hget : s.get (.workload .server) c.key with
  | none =>
      rw [hget] at h
      obtain ⟨w, hw, h⟩ := returns_orFail (Objects.returns_bind.mp h)
      obtain ⟨hmeta, htemplate, _⟩ := runPlugins_spec hgen hw
      have hkey : Kind.key (.workload .server) w = c.key := by
        rw [Kind.key, hmeta]
        rfl
      obtain ⟨t, w', hw', rfl, hQ⟩ := returns_created_obj hkey h
      exact ⟨t, ⟨w', hw', htemplate⟩, hQ⟩
  | some v =>
      rw [hget] at h
      dsimp only at h
      split at h
      · exact absurd h Calls.not_returns_crash
      obtain ⟨owned, howned, hplugins⟩ := returns_orFail (Objects.returns_bind.mp h)
      obtain ⟨w, hw, hupdate⟩ := returns_orFail (Objects.returns_bind.mp hplugins)
      obtain ⟨hmeta, htemplate, _⟩ := runPlugins_spec hgen hw
      obtain ⟨metadata, hset, rfl⟩ := Option.map_eq_some_iff.mp howned
      obtain ⟨_, hns, hname⟩ := setControllerReference_spec hset
      have hkey : Kind.key (.workload .server) w = c.key := by
        rw [Kind.key, hmeta, ← (State.get_eq_some.mp hget).2]
        exact Prod.ext hns hname
      obtain ⟨t, w', hw', rfl, hQ⟩ := returns_updated_obj hkey hupdate
      exact ⟨t, ⟨w', hw', htemplate⟩, hQ⟩

/-- **Each reconciler stores the labels of the template.** -/
theorem returns_workload_labels (hgen : gen.KeepsLabels) {headlessService : Option Service} {claims : Doc}
    {type : WorkloadType}
    (h : Returns (reconcileWorkloadOf gen.surroundings c headlessService template claims type
      (s.get (.workload type) c.key)) s Q) : ∃ t, HasPods t type c.key template.labels ∧ Q () t := by
  cases type with
  | server => exact returns_deployment_labels hgen h
  | cronjob =>
      have hjob : ((c.cronJobSpec template).template).labels = template.labels := by
        rw [Component.cronJobSpec]
        split <;> rfl
      rw [reconcileWorkloadOf, reconcileCronJob] at h
      obtain ⟨t, w, hw, hobj, hQ⟩ := returns_saved_obj (by rfl) (fun _ hkey => by exact hkey) h
      refine ⟨t, ⟨w, hw, ?_⟩, hQ⟩
      rcases hobj with hobj | ⟨v, hobj⟩ <;> rw [hobj] <;> exact hjob
  | daemonset =>
      rw [reconcileWorkloadOf, reconcileDaemonSet] at h
      obtain ⟨t, w, hw, hobj, hQ⟩ := returns_saved_obj (by rfl) (fun _ hkey => by exact hkey) h
      refine ⟨t, ⟨w, hw, ?_⟩, hQ⟩
      rcases hobj with hobj | ⟨v, hobj⟩ <;> rw [hobj] <;> rfl
  | statefulset =>
      rw [reconcileWorkloadOf, reconcileStatefulSet] at h
      obtain ⟨t, w, hw, hobj, hQ⟩ := returns_saved_obj (by rfl) (fun _ hkey => by exact hkey) h
      refine ⟨t, ⟨w, hw, ?_⟩, hQ⟩
      rcases hobj with hobj | ⟨v, hobj⟩ <;> rw [hobj] <;> rfl

/-- **A reconcile of a component that is not deleted** leaves it in its namespace without workload, or with the
    labels of its pods. -/
theorem returns_pods (hgen : gen.KeepsLabels)
    (h : Returns (ComponentReconcilerTask.reconcile gen.surroundings c enabled) s Q) (hlive : c.deleting = false) :
    ∃ t, (has t (.workload c.spec.workloadType) c.key = false ∨
      HasPods t c.spec.workloadType c.key (podLabels c)) ∧ Q () t := by
  rcases returns_reconcile_workload h with ⟨hdeleting, _⟩ | ⟨_, held, t, _, hrest⟩
  · rw [hlive] at hdeleting
    cases hdeleting
  · unfold reconcileWorkload at hrest
    split at hrest
    · obtain ⟨u, hw, hQ⟩ := returns_cleared c hrest
      exact ⟨u, Or.inl hw.there, hQ⟩
    · obtain ⟨⟨template, claims⟩, htemplate, hrest⟩ := returns_orFail (Objects.returns_bind.mp hrest)
      obtain ⟨u, hu, hQ⟩ := returns_workload_labels hgen hrest
      rw [surroundings_podTemplate hgen htemplate] at hu
      exact ⟨u, Or.inr hu, hQ⟩

end Returned

/-! ## 7. Every run -/

/-- The object belongs to the component under this key. -/
def BelongsTo : (k : Kind) → k.Obj → Str × Str → Prop
  | .service, v, key => (Service.metadata v).ns = key.1 ∧ (Service.metadata v).controller = some key.2
  | .workload t, w, key => Kind.key (.workload t) w = key
  | _, _, _ => False

/-- Other components are stored, with the labels of the pods before. -/
theorem Labelled.mono {components' : Str × Str → Option Component} {obj : k.Obj} (hne : k ≠ .component)
    (h : Labelled components k obj)
    (hkeep : ∀ key d, BelongsTo k obj key → components' key = some d →
      ∃ e, components key = some e ∧ SubLabels (podLabels e) (podLabels d)) : Labelled components' k obj := by
  cases k with
  | component => exact absurd rfl hne
  | service =>
      obtain ⟨name, howner, hnames, hselects⟩ := h
      refine ⟨name, howner, hnames, fun d hd => ?_⟩
      obtain ⟨e, he, hsub⟩ := hkeep (_, name) d ⟨rfl, howner⟩ hd
      exact (hselects e he).trans hsub
  | workload type =>
      refine ⟨h.1, fun d hd => ?_⟩
      obtain ⟨e, he, hsub⟩ := hkeep _ d rfl hd
      exact (h.2 e he).trans hsub
  | _ => trivial

theorem componentsOf_eq_some {key : Str × Str} :
    componentsOf s key = some c ↔ ∃ v : Stored .component, s.get .component key = some v ∧ v.obj = c :=
  Option.map_eq_some_iff

theorem Kept.component (h : Kept s) {key : Str × Str} (hc : componentsOf s key = some c) :
    key = c.key ∧ KeepsOwn c := by
  obtain ⟨v, hv, rfl⟩ := componentsOf_eq_some.mp hc
  obtain ⟨hmem, hkey⟩ := State.get_eq_some.mp hv
  exact ⟨hkey.symm, (h .component v hmem).2⟩

/-- A component is created, or updated with the labels it had. -/
theorem Kept.apply (h : Kept s) (hown : KeepsOwn c)
    (hkeep : (∃ v : Stored .component, s.get .component c.key = some v ∧
      SubLabels (Component.spec v.obj).labels c.spec.labels) ∨ Bare s c) : Kept (s.put Kind.component c) := by
  have hcomponents : ∀ key, componentsOf (s.put Kind.component c) key =
      if key = c.key then some c else componentsOf s key := by
    intro key
    rw [componentsOf, State.get_put (S := schema) (k := Kind.component)]
    by_cases hkey : key = Kind.key .component c
    · rw [if_pos hkey, if_pos (show key = c.key from hkey)]
      rfl
    · rw [if_neg hkey, if_neg (show ¬ key = c.key from hkey)]
      rfl
  intro k v hv
  by_cases hk : k = .component
  · subst hk
    rcases State.mem_list_put.mp hv with rfl | ⟨hv, hkey⟩
    · exact ⟨(hcomponents _).trans (if_pos rfl), hown⟩
    · obtain ⟨hstored, hv⟩ := h .component v hv
      exact ⟨(hcomponents _).trans ((if_neg hkey).trans hstored), hv⟩
  · rw [State.list_put_of_ne hk] at hv
    refine (h k v hv).mono hk fun key d hbelongs hd => ?_
    rw [hcomponents] at hd
    split at hd
    · rename_i hkey
      cases hd
      subst hkey
      rcases hkeep with ⟨old, hold, hlabels⟩ | hbare
      · have hstored : componentsOf s c.key = some old.obj := componentsOf_eq_some.mpr ⟨old, hold, rfl⟩
        obtain ⟨hkey, hkeeps⟩ := h.component hstored
        exact ⟨old.obj, hstored, podLabels_subLabels hkeeps hown hkey.symm hlabels⟩
      · have hget := State.get_self hv
        cases k with
        | service => exact absurd ⟨hbelongs.1, v, hget, hbelongs.2⟩ (hbare.1 v.key)
        | workload type =>
            have hkey : v.key = c.key := hbelongs
            rw [hkey, hbare.2 type] at hget
            cases hget
        | _ => exact hbelongs.elim
    · exact ⟨d, hd, SubLabels.refl _⟩

/-- An object of another kind is written. -/
theorem Kept.store (h : Kept s) (hk : others k = true) (obj : k.Obj) : Kept (s.put k obj) := by
  have hcomponents : componentsOf (s.put k obj) = componentsOf s := by
    funext key
    rw [componentsOf, State.get_put_of_ne (by rintro rfl; cases hk)]
    rfl
  rw [Kept, hcomponents]
  refine State.All.put (S := schema) h ?_
  cases k with
  | component => cases hk
  | service => cases hk
  | workload type => cases hk
  | _ => trivial

/-- The components that are stored behind a step were stored before. -/
theorem kept_of_fewer (h : t.All (S := schema) (Labelled (componentsOf s))) : Kept t := by
  intro k v hv
  by_cases hk : k = .component
  · subst hk
    exact ⟨componentsOf_eq_some.mpr ⟨v, State.get_self hv, rfl⟩, (h .component v hv).2⟩
  · refine (h k v hv).mono hk fun key d _ hd => ?_
    obtain ⟨w, hw, rfl⟩ := componentsOf_eq_some.mp hd
    obtain ⟨hmem, hkey⟩ := State.get_eq_some.mp hw
    refine ⟨w.obj, ?_, SubLabels.refl _⟩
    rw [← hkey]
    exact (h .component w hmem).1

theorem Kept.remove (h : Kept s) (k : Kind) (key : Str × Str) : Kept (s.remove k key) :=
  kept_of_fewer (State.All.remove (S := schema) h key)

/-- A reconcile, whatever fails. -/
theorem Kept.reconcile (h : Kept s) (hgen : gen.KeepsLabels) (key : Str × Str) (faults : List Fault) :
    Kept (Calls.run Objects.serve .unavailable (ComponentReconcilerTask.run gen.surroundings key) faults s).2 :=
  kept_of_fewer (Objects.holds_of_inherits (sound_run hgen key) h faults).1

/-- Behind a reconcile that returns, the pods have the labels of the component, and its services are its own. -/
structure Returned (t : Cluster) (c : Component) : Prop where
  pods : has t (.workload c.spec.workloadType) c.key = false ∨ HasPods t c.spec.workloadType c.key (podLabels c)
  services : ∀ v, IsServiceOf t c v → (Service.metadata v.obj).controller = some c.name

/-- The invariant of a run. -/
structure Invariant (w : World) : Prop where
  kept : Kept w.cluster
  returned : ∀ key c nspace, w.reconciled = some key → setupOf w.cluster key = some (c, nspace) →
    c.deleting = false → Returned w.cluster c

theorem OwnService.behind {key : Str × Str} (h : OwnService s c key) (howners : Owners c s t) :
    OwnService t c key := by
  intro v hv
  rcases howners .service key v hv with howner | ⟨w, hw, howner⟩
  · exact howner
  · exact howner.symm.trans (h w hw)

/-- **A reconcile that returns.** -/
theorem returned_of_run {key : Str × Str} (hgen : gen.KeepsLabels)
    (hservices : ∀ c nspace, setupOf s key = some (c, nspace) → OwnService s c c.key ∧
      (c.spec.asksForHeadless = true → OwnService s c c.headlessKey))
    (h : Returns (ComponentReconcilerTask.run gen.surroundings key) s fun _ u => u = t) {nspace : Namespace}
    (hfound : setupOf t key = some (c, nspace)) (hlive : c.deleting = false) : Returned t c := by
  rcases returns_found h with ⟨hnone, rfl⟩ | ⟨d, nspace', hbefore, hreconcile⟩
  · rw [hnone] at hfound
    cases hfound
  rcases returns_reconcile hreconcile with ⟨hdeleting, hsame⟩ | ⟨hd, u, hr, hsame⟩
  · rw [← hsame, hbefore] at hfound
    cases hfound
    rw [hlive] at hdeleting
    cases hdeleting
  · subst hsame
    have hsetup : setupOf u key = setupOf s key := by
      rw [setupOf, hr.elsewhere .component key fun hslot => hslot]
      refine Option.bind_congr fun v _ => ?_
      rw [hr.elsewhere .ns _ fun hslot => hslot]
    rw [hsetup, hbefore] at hfound
    cases hfound
    obtain ⟨u', hpods, hsame⟩ := returns_pods hgen hreconcile hlive
    obtain ⟨hservice, hheadless⟩ := hservices c nspace hbefore
    refine ⟨hsame ▸ hpods, fun v hv => ?_⟩
    rcases hv with hv | ⟨hv, hasks | howner⟩
    · exact hservice.behind hr.owners v hv
    · exact (hheadless hasks).behind hr.owners v hv
    · exact howner

/-- One step keeps the invariant. -/
theorem Invariant.step {w w' : World} {event : Event} (h : Invariant w) (hm : Meets w event)
    (hstep : step w event = some w') : Invariant w' := by
  cases event with
  | apply c =>
      cases hstep
      exact ⟨h.kept.apply hm.1 hm.2, fun _ _ _ hkey => by cases hkey⟩
  | store k obj =>
      simp only [Selectors.step] at hstep
      split at hstep
      · rename_i hk
        cases hstep
        exact ⟨h.kept.store hk obj, fun _ _ _ hkey => by cases hkey⟩
      · cases hstep
  | remove k key =>
      cases hstep
      exact ⟨h.kept.remove k key, fun _ _ _ hkey => by cases hkey⟩
  | reconcile key gen faults =>
      obtain ⟨hgen, hservices⟩ := hm
      have hkept := h.kept.reconcile hgen key faults
      have hstrict := @Calls.Strict.run_eq _ _ _ _ _ Objects.serve _ _ (strict_run gen.surroundings key) faults
        w.cluster
      simp only [Selectors.step] at hstep
      split at hstep
      · rename_i a t hrun
        cases hstep
        rw [hrun] at hkept
        refine ⟨hkept, fun key' c nspace hkey hfound hlive => ?_⟩
        cases hkey
        rcases hstrict with ⟨e, he⟩ | hsame
        · rw [hrun] at he
          cases he
        · exact returned_of_run hgen hservices ⟨a, t, hsame.symm.trans hrun, rfl⟩ hfound hlive
      · rename_i o t _ hrun
        cases hstep
        rw [hrun] at hkept
        exact ⟨hkept, fun _ _ _ hkey => by cases hkey⟩

theorem Initial.invariant {w : World} (h : Initial w) : Invariant w where
  kept := by
    intro k v hv
    have hget := State.get_self hv
    cases k with
    | component => rw [h.components] at hget; cases hget
    | service => rw [h.written .service _ trivial] at hget; cases hget
    | workload type => rw [h.written (.workload type) _ trivial] at hget; cases hget
    | _ => trivial
  returned key c nspace hkey := by
    rw [h.reconciled] at hkey
    cases hkey

/-- **What the invariant says of the selectors.** -/
theorem Invariant.selectorsMatch {w : World} (h : Invariant w) : SelectorsMatch w where
  reconciled key c nspace hkey hfound hlive v hv := by
    obtain ⟨hpods, hservices⟩ := h.returned key c nspace hkey hfound hlive
    obtain ⟨u, _, hu, _, rfl, _⟩ := setupOf_eq_some.mp hfound
    have hstored : componentsOf w.cluster (Component.key u.obj) = some u.obj := by
      rw [show Component.key u.obj = key from (State.get_eq_some.mp hu).2]
      exact componentsOf_eq_some.mpr ⟨u, hu, rfl⟩
    have hown := (h.kept.component hstored).2
    -- there is a workload: its pods have the labels of the component
    have hlabels : (podTemplate _ v.obj).labels = podLabels u.obj := by
      rcases hpods with hnone | ⟨w', hw', hlabels⟩
      · rw [has, hv] at hnone
        cases hnone
      · rw [hv, Option.some.injEq] at hw'
        rw [hw', hlabels]
    obtain ⟨hmem, hvkey⟩ := State.get_eq_some.mp hv
    refine ⟨fun service hservice => ?_, ?_, ?_⟩
    · have hget : service ∈ w.cluster.list .service ∧ (Service.metadata service.obj).ns = Component.ns u.obj := by
        rcases hservice with hs | ⟨hs, _⟩
        · obtain ⟨hs, hkey⟩ := State.get_eq_some.mp hs
          exact ⟨hs, congrArg Prod.fst hkey⟩
        · obtain ⟨hs, hkey⟩ := State.get_eq_some.mp hs
          exact ⟨hs, congrArg Prod.fst hkey⟩
      obtain ⟨name, howner, _, hselects⟩ := h.kept .service service hget.1
      rw [hservices service hservice] at howner
      cases howner
      rw [hlabels]
      exact hselects u.obj (by rw [hget.2]; exact hstored)
    · rw [hlabels]
      exact selector_of_labelled hstored hvkey (h.kept (.workload _) v hmem)
    · rw [hlabels]
      exact names_podLabels hown
  apart v name hv howner type pods hpods hne := by
    obtain ⟨name', howner', hnames, _⟩ := h.kept .service v hv
    rw [howner] at howner'
    cases howner'
    exact hnames.not_subLabels (h.kept (.workload type) pods hpods).1 hne

/-- **Along every run whose steps meet the condition**, the selectors match the pods. -/
theorem selectorsMatch_of_reaches {w : World} (h : Reaches Initial Meets step w) : SelectorsMatch w :=
  Invariant.selectorsMatch (Reaches.invariant (fun _ hinitial => Initial.invariant hinitial)
    (fun _ _ _ hk hm hstep => Invariant.step hk hm hstep) h)

/-- Nothing is stored. -/
def emptyWorld : World := ⟨emptyCluster, none⟩

theorem initial_emptyWorld : Initial emptyWorld := ⟨fun _ => rfl, fun _ _ _ => rfl, rfl⟩

/-- A component with one port and these labels. -/
def webWith (labels : ObjectLabels) : Component :=
  { webComponent with spec := { webComponent.spec with labels := labels } }

/-- Plain pods, without plugins and volumes. -/
def plainGeneration : Generation where
  podSpec _ := some ([], emptyDoc)
  afterPodTemplateGeneration _ template := some template
  prepareVols _ template := some (template.rest, emptyDoc)
  beforeDeploymentSave := some

/-- The labels of an enabled namespace. -/
def enabledLabels : ObjectLabels := (∅ : ObjectLabels).insert kalmEnableLabelName (str "true")

/-- The component is applied in an enabled namespace, and reconciled. -/
def webStarts (labels : ObjectLabels) : List Event :=
  [.store .ns ⟨str "shop", enabledLabels⟩, .apply (webWith labels),
    .reconcile (str "shop", str "web") plainGeneration []]

theorem plainGeneration_keepsLabels : plainGeneration.KeepsLabels where
  template _ _ _ h := by
    cases h
    rfl
  deployment _ _ h := by
    cases h
    exact ⟨rfl, rfl⟩

/-- A tier is added to the labels after the first reconcile. -/
def tierLabels : ObjectLabels := (∅ : ObjectLabels).insert (str "tier") (str "front")

theorem keepsOwn_web {labels : ObjectLabels}
    (h : ∀ x ∈ ownLabels (webWith labels), labels.lookup x.1 = none) : KeepsOwn (webWith labels) := by
  intro x hx v hv
  rw [show (webWith labels).spec.labels = labels from rfl, h x hx] at hv
  cases hv

/-- A reconcile that finds services of the component only. -/
theorem meets_reconcile {w : World} {ns name : Str} {faults : List Fault} (hgen : gen.KeepsLabels)
    (h : ∀ v ∈ w.cluster.list .service, (Service.metadata (Versioned.obj v)).controller = some name) :
    Meets w (.reconcile (ns, name) gen faults) := by
  refine ⟨hgen, fun c nspace hfound => ?_⟩
  obtain ⟨u, _, hu, _, rfl, _⟩ := setupOf_eq_some.mp hfound
  have hname : Component.name u.obj = name := congrArg Prod.snd (State.get_eq_some.mp hu).2
  rw [OwnService, OwnService, hname]
  exact ⟨fun v hv => h v (State.get_eq_some.mp hv).1, fun _ v hv => h v (State.get_eq_some.mp hv).1⟩

/-- The selectors of a component match that gets another label behind its first reconcile. -/
theorem selectorsMatch_web : ∃ w, Reaches Initial Meets step w ∧ w.reconciled = some (str "shop", str "web") ∧
    SelectorsMatch w := by
  have h₀ : Reaches Initial Meets step emptyWorld := .start initial_emptyWorld
  have h₁ := h₀.taking (.store .ns ⟨str "shop", enabledLabels⟩) trivial rfl
  have hbare : ∀ key, ¬ Owned (str "shop") (str "web") (emptyCluster.put Kind.ns ⟨str "shop", enabledLabels⟩)
      .service key := by
    intro key howned
    obtain ⟨_, v, hv, _⟩ := howned
    cases hv
  have h₂ := h₁.taking (.apply (webWith ∅)) ⟨keepsOwn_web fun _ _ => rfl, Or.inr ⟨hbare, fun _ => rfl⟩⟩ rfl
  have h₃ := h₂.taking (.reconcile (str "shop", str "web") plainGeneration [])
    (meets_reconcile plainGeneration_keepsLabels fun _ hv => absurd hv List.not_mem_nil) rfl
  have hown : KeepsOwn (webWith tierLabels) := keepsOwn_web (by decide)
  have h₄ := h₃.taking (.apply (webWith tierLabels))
    ⟨hown, Or.inl ⟨_, rfl, fun _ _ hv => by cases hv⟩⟩ rfl
  have h₅ := h₄.taking (.reconcile (str "shop", str "web") plainGeneration [])
    (meets_reconcile plainGeneration_keepsLabels fun v hv => by rw [List.mem_singleton.mp hv]; rfl) rfl
  exact ⟨_, h₅, rfl, selectorsMatch_of_reaches h₅⟩

/-- **The service of a component with a label `app` selects no pod of it.** -/
theorem selectorsMatch_fails : ¬ ∀ w, Reaches Initial anyStep step w → SelectorsMatch w := by
  intro h
  have hrun : (runSteps step emptyWorld (webStarts ((∅ : ObjectLabels).insert (str "app") (str "shop")))).isSome =
    true := rfl
  have hmatch := h _ ((Reaches.start initial_emptyWorld).run (Option.some_get hrun).symm)
  have hservice : ((((runSteps step emptyWorld
      (webStarts ((∅ : ObjectLabels).insert (str "app") (str "shop")))).get hrun).cluster.get .service
        (str "shop", str "web")).map fun v => (Service.selector v.obj).lookup (str "app")) =
          some (some (str "shop")) := rfl
  have hpods : ((((runSteps step emptyWorld
      (webStarts ((∅ : ObjectLabels).insert (str "app") (str "shop")))).get hrun).cluster.get (.workload .server)
        (str "shop", str "web")).map fun v => (podTemplate .server v.obj).labels.lookup (str "app")) =
          some (some (str "web")) := rfl
  obtain ⟨service, hget, hselector⟩ := Option.map_eq_some_iff.mp hservice
  obtain ⟨pods, hgetPods, hlabel⟩ := Option.map_eq_some_iff.mp hpods
  have hselects := (hmatch.reconciled (str "shop", str "web") (webWith _) ⟨str "shop", enabledLabels⟩ rfl rfl rfl
    pods hgetPods).services service (Or.inl hget) (str "app") (str "shop") hselector
  have happ := hlabel.symm.trans hselects
  exact absurd happ (by decide)

end Kalm.Controller.Selectors
