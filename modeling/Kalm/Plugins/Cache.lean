/-
  File:      Kalm/Plugins/Cache.lean
  Subject:   THE CACHE OF PLUGINS: `ComponentPluginReconcilerTask.Run` of
             controller/controllers/component_plugin_controller.go keeps the program of each plugin in the memory of
             the process.

  * `ComponentPlugin`, `Vm`, `ComponentPluginProgram` -- plugins, the compilers, and what is made of a plugin;
  * `run` -- a reconcile of one plugin; `controller` -- with what others do to the plugin meanwhile;
  * `Follows` -- a stored plugin and what is in the cache under its name; `cache_follows` -- **the cache follows the
    plugin** at rest, up to a source or a schema that does not compile, and the controller comes to rest;
  * `stays` -- then the program of an earlier source stays, whatever happens but a deletion or a restart.

  What a reconcile of a plugin reads and writes is under the name of the plugin: its object, its entry of the cache,
  and the bindings with its label.
-/
import Kalm.Component.Controller
import Kalm.Lib.Watched

namespace Kalm.PluginCache

open Calls (Action Fault Guarded)
open Controller (WorkloadType)
open Objects (Error)
open Watched (Effect Seen Store Versioned World)

/-! ## 1. Plugins -/

/-- `finalizerName`. -/
def finalizerName : Str := str "storage.finalizers.kalm.dev"

/-- `ValidPluginMethods`. -/
inductive ComponentPluginMethod where
  | componentFilter
  | afterPodTemplateGeneration
  | beforeDeploymentSave
  | beforeServiceSave
  | beforeCronjobSave
  deriving DecidableEq

/-- `ComponentPluginSpec`. -/
structure ComponentPluginSpec where
  src : Str
  availableWorkloadType : List WorkloadType
  configSchema : Option Str

/-- `ComponentPlugin`, with its metadata as far as they are read. -/
structure ComponentPlugin where
  spec : ComponentPluginSpec
  finalizers : List Str
  deleting : Bool
  compiledSuccessfully : Bool

/-- The compilers of sources and schemas: `CompileProgram`, `GetDefinedMethods` and `gojsonschema.NewSchema`. -/
structure Vm (P S : Type) where
  compileProgram : Str → Option P
  getDefinedMethods : Str → Option (ComponentPluginMethod → Bool)
  newSchema : Str → Option S

/-- `ComponentPluginProgram`. -/
structure ComponentPluginProgram (P S : Type) where
  name : Str
  program : P
  configSchema : Option S
  methods : ComponentPluginMethod → Bool
  availableForAllWorkloadTypes : Bool
  availableWorkloadTypes : List WorkloadType

/-- The key of a binding. -/
abbrev BindingKey := Str × Str

/-- One name for the proof, so that a search for a key means the same in every module. -/
local instance : LawfulBEq BindingKey := inferInstance

/-- The calls of a reconcile: those of the API server, and those of the cache. -/
inductive Call (P S : Type) where
  | get
  | update (plugin : Versioned ComponentPlugin)
  | updateStatus (plugin : Versioned ComponentPlugin)
  | listBindings
  | deleteBinding (key : BindingKey)
  | cacheDelete
  | cacheSet (program : ComponentPluginProgram P S)

variable {P S : Type}

/-- What they answer. -/
abbrev Answer : Call P S → Type
  | .get => Versioned ComponentPlugin
  | .listBindings => List BindingKey
  | _ => Unit

/-- A reconcile. -/
abbrev Task (P S α : Type) := Action (Call P S) Answer Error α

/-- A call whose error the reconcile returns. -/
abbrev invoke (c : Call P S) : Task P S (Answer c) := Action.invoke c

/-- A call whose error it looks at. -/
abbrev tryCall (c : Call P S) : Task P S (Except Error (Answer c)) := Action.tryCall c

/-! ## 2. `Run` -/

/-- The program of the source; an empty one has none. -/
def ComponentPluginSpec.compile (vm : Vm P S) (spec : ComponentPluginSpec) : Option P :=
  if spec.src = [] then none else vm.compileProgram spec.src

/-- The schema, if there is one; the outer `none` is an error. -/
def ComponentPluginSpec.schema (vm : Vm P S) (spec : ComponentPluginSpec) : Option (Option S) :=
  match spec.configSchema with
  | none => some none
  | some raw => (vm.newSchema raw).map some

/-- `deletePluginBindings`: what cannot be deleted is left. -/
def deletePluginBindings : List BindingKey → Task P S Unit
  | [] => pure ()
  | key :: keys => tryCall (.deleteBinding key) >>= fun _ => deletePluginBindings keys

/-- The end of `Run`: what compiles is put into the cache. -/
def fillCache (vm : Vm P S) (name : Str) (spec : ComponentPluginSpec) : Task P S Unit :=
  match spec.schema vm with
  | none => pure ()
  | some configSchema =>
    match spec.compile vm with
    | none => pure ()
    | some program =>
      match vm.getDefinedMethods spec.src with
      | none => pure ()
      | some methods =>
        invoke (.cacheSet
          { name
            program
            configSchema
            methods
            availableForAllWorkloadTypes := spec.availableWorkloadType.isEmpty
            availableWorkloadTypes := spec.availableWorkloadType })

/-- `Run` of a plugin that is not being deleted and has the finalizer: a conflict ends it without an error. -/
def compilePlugin (vm : Vm P S) (name : Str) (plugin : Versioned ComponentPlugin) : Task P S Unit :=
  let compiled := (plugin.object.spec.compile vm).isSome
  if plugin.object.compiledSuccessfully = compiled then fillCache vm name plugin.object.spec
  else
    tryCall (.updateStatus
        { plugin with object := { plugin.object with compiledSuccessfully := compiled } }) >>= fun
      | .ok _ => fillCache vm name plugin.object.spec
      | .error .conflict => pure ()
      | .error e => .fail e

/-- `Run` of a plugin that is being deleted and has the finalizer. -/
def deletePlugin (plugin : Versioned ComponentPlugin) : Task P S Unit := do
  invoke .cacheDelete
  let keys ← invoke .listBindings
  deletePluginBindings keys
  invoke (.update { plugin with
    object := { plugin.object with finalizers := plugin.object.finalizers.filter (· ≠ finalizerName) } })

/-- `Run` of the plugin that was read. -/
def runPlugin (vm : Vm P S) (name : Str) (plugin : Versioned ComponentPlugin) : Task P S Unit :=
  if plugin.object.deleting = false then
    if finalizerName ∈ plugin.object.finalizers then compilePlugin vm name plugin
    else
      invoke (.update { plugin with
        object := { plugin.object with finalizers := plugin.object.finalizers ++ [finalizerName] } })
  else if finalizerName ∈ plugin.object.finalizers then deletePlugin plugin
  else pure ()

/-- `ComponentPluginReconcilerTask.Run`. -/
def run (vm : Vm P S) (name : Str) : Task P S Unit :=
  tryCall .get >>= fun
    | .error .notFound => pure ()
    | .error e => .fail e
    | .ok plugin => runPlugin vm name plugin

/-! ## 3. The controller -/

/-- What is stored of an update: the status is not, and what is being deleted goes with its last finalizer. -/
def updated (stored plugin : ComponentPlugin) : Option ComponentPlugin :=
  if stored.deleting = true ∧ plugin.finalizers = [] then none
  else some { plugin with
    deleting := stored.deleting
    compiledSuccessfully := stored.compiledSuccessfully }

/-- A write of a version of the plugin: there has to be one, and no newer one. -/
def writeVersion {X M : Type} (stored : Versioned (Option ComponentPlugin)) (version : Nat)
    (write : ComponentPlugin → Option ComponentPlugin) (env : X) (m : M) :
    Effect Unit Error (Option ComponentPlugin) X M :=
  match stored.object with
  | none => ⟨.error .notFound, none, env, m⟩
  | some p => if stored.version = version then ⟨.ok (), some (write p), env, m⟩ else ⟨.error .conflict, none, env, m⟩

/-- What the calls do: the bindings with the label of the plugin are the surroundings. -/
def serve : (c : Call P S) → (seen stored : Versioned (Option ComponentPlugin)) → List BindingKey →
    Option (ComponentPluginProgram P S) →
    Effect (Answer c) Error (Option ComponentPlugin) (List BindingKey) (Option (ComponentPluginProgram P S))
  | .get, seen, _, keys, m =>
    match seen.object with
    | none => ⟨.error .notFound, none, keys, m⟩
    | some p => ⟨.ok ⟨seen.version, p⟩, none, keys, m⟩
  | .update plugin, _, stored, keys, m =>
    writeVersion stored plugin.version (updated · plugin.object) keys m
  | .updateStatus plugin, _, stored, keys, m =>
    writeVersion stored plugin.version
      (fun p => some { p with compiledSuccessfully := plugin.object.compiledSuccessfully }) keys m
  | .listBindings, _, _, keys, m => ⟨.ok keys, none, keys, m⟩
  | .deleteBinding key, _, _, keys, m =>
    if key ∈ keys then ⟨.ok (), none, keys.filter (· ≠ key), m⟩ else ⟨.error .notFound, none, keys, m⟩
  | .cacheDelete, _, _, keys, _ => ⟨.ok (), none, keys, none⟩
  | .cacheSet program, _, _, keys, _ => ⟨.ok (), none, keys, some program⟩

/-- The calls of the cache. -/
def Call.inside : Call P S → Bool
  | .cacheDelete | .cacheSet _ => true
  | _ => false

/-- What other parties do to a plugin. -/
inductive Edit where
  | create (spec : ComponentPluginSpec) (finalizers : List Str)
  | put (spec : ComponentPluginSpec)
  | delete
  | release (finalizer : Str)

/-- What a plugin becomes; the finalizer of this controller is left to it. -/
def Edit.write : Edit → Option ComponentPlugin → Option (Option ComponentPlugin)
  | .create spec finalizers, none => some (some ⟨spec, finalizers, false, false⟩)
  | .put spec, some p => some (some { p with spec })
  | .delete, some p => some (if p.finalizers = [] then none else some { p with deleting := true })
  | .release finalizer, some p =>
    if finalizer = finalizerName then none
    else some (updated p { p with finalizers := p.finalizers.filter (· ≠ finalizer) })
  | _, _ => none

/-- **The controller of one plugin**, among other parties. -/
def controller (vm : Vm P S) (name : Str) :
    Watched.Controller (Call P S) Answer Error (Option ComponentPlugin) (List BindingKey)
      (Option (ComponentPluginProgram P S)) Edit where
  reconcile := run vm name
  serve := serve
  inside := Call.inside
  failure := .unavailable
  write := Edit.write
  present := Option.isSome
  initial := none

/-! ## 4. What the cache follows -/

/-- The program that a spec stands for, if it compiles. -/
def programOf (vm : Vm P S) (name : Str) (spec : ComponentPluginSpec) : Option (ComponentPluginProgram P S) := do
  let configSchema ← spec.schema vm
  let program ← spec.compile vm
  let methods ← vm.getDefinedMethods spec.src
  pure
    { name
      program
      configSchema
      methods
      availableForAllWorkloadTypes := spec.availableWorkloadType.isEmpty
      availableWorkloadTypes := spec.availableWorkloadType }

theorem fillCache_eq (vm : Vm P S) (name : Str) (spec : ComponentPluginSpec) : fillCache vm name spec =
    match programOf vm name spec with
    | none => pure ()
    | some program => invoke (.cacheSet program) := by
  rw [fillCache, programOf]
  cases spec.schema vm with
  | none => rfl
  | some configSchema =>
      cases spec.compile vm with
      | none => rfl
      | some program => cases vm.getDefinedMethods spec.src <;> rfl

/-- **The cache follows a plugin**: what is gone or going is not in it; what is there has the finalizer, its status
    says whether the source compiles, and where the spec stands for a program it is the one in the cache. -/
def Follows (vm : Vm P S) (name : Str) : Option ComponentPlugin → Option (ComponentPluginProgram P S) → Prop
  | none, m => m = none
  | some p, m =>
    if p.deleting then finalizerName ∉ p.finalizers ∧ m = none
    else finalizerName ∈ p.finalizers ∧ p.compiledSuccessfully = (p.spec.compile vm).isSome ∧
      ∀ program, programOf vm name p.spec = some program → m = some program

/-! ## 5. The finalizer -/

/-- The plugin is there and has the finalizer. -/
def Held (o : Option ComponentPlugin) : Prop := ∃ p, o = some p ∧ finalizerName ∈ p.finalizers

/-- And it is not being deleted. -/
def Live (o : Option ComponentPlugin) : Prop := ∃ p, o = some p ∧ finalizerName ∈ p.finalizers ∧ p.deleting = false

theorem Live.held {o : Option ComponentPlugin} (h : Live o) : Held o := by
  obtain ⟨p, rfl, hfinalizer, _⟩ := h
  exact ⟨p, rfl, hfinalizer⟩

theorem updated_of_mem {stored plugin : ComponentPlugin} (h : finalizerName ∈ plugin.finalizers) :
    Held (updated stored plugin) := by
  have hne : ¬ (stored.deleting = true ∧ plugin.finalizers = []) := fun ⟨_, hnil⟩ => by
    rw [hnil] at h
    cases h
  rw [updated, if_neg hne]
  exact ⟨_, rfl, h⟩

theorem mem_released {finalizer : Str} {finalizers : List Str} (hne : finalizer ≠ finalizerName)
    (h : finalizerName ∈ finalizers) : finalizerName ∈ finalizers.filter (· ≠ finalizer) :=
  List.mem_filter.mpr ⟨h, decide_eq_true hne.symm⟩

/-- No other party takes the finalizer away. -/
theorem held_write {u : Edit} {o o' : Option ComponentPlugin} (h : u.write o = some o') (ho : Held o) : Held o' := by
  obtain ⟨p, rfl, hfinalizer⟩ := ho
  cases u with
  | create spec finalizers => cases h
  | put spec =>
      cases h
      exact ⟨_, rfl, hfinalizer⟩
  | delete =>
      cases h
      rw [if_neg (List.ne_nil_of_mem hfinalizer)]
      exact ⟨_, rfl, hfinalizer⟩
  | release finalizer =>
      rw [Edit.write] at h
      split at h
      · cases h
      · rename_i hne
        cases h
        exact updated_of_mem (mem_released hne hfinalizer)

section Invariant

variable {vm : Vm P S} {name : Str}

/-- The store of a plugin, what it has in the cache along with it. -/
abbrev PluginStore (P S : Type) :=
  Store (Option ComponentPlugin) (List BindingKey) (Option (ComponentPluginProgram P S))

/-- Its world. -/
abbrev PluginWorld (P S : Type) :=
  World (Call P S) Answer Error (Option ComponentPlugin) (List BindingKey) (Option (ComponentPluginProgram P S))

/-- Once a plugin is live it is held, and as long as it is in the cache. -/
structure Sound (s : PluginStore P S) : Prop where
  held : (s.seen :: s.feed).Pairwise fun a b => Live a.object → Held b.object
  cached : s.memory.isSome → ∀ a ∈ s.seen :: s.feed, Held a.object

/-- What a reconcile knows: nothing, or what it has read, and whether it has left the cache. -/
inductive Known where
  | nothing
  | read (v : Versioned ComponentPlugin) (left : Bool)

/-- This is what the store is like. -/
def Knows (s : PluginStore P S) : Known → Prop
  | .nothing => True
  | .read v left => Seen ⟨v.version, some v.object⟩ s ∧
      (Live (some v.object) → ∀ a ∈ s.seen :: s.feed, Held a.object) ∧ (left = true → s.memory = none)

/-- The calls that are allowed: the finalizer is taken away from what is out of the cache, and only what is live comes
    into it. -/
def Allowed : Call P S → Known → Prop
  | .update u, .read v left => u.version = v.version ∧
      (finalizerName ∈ u.object.finalizers ∨ v.object.deleting = true ∧ left = true)
  | .cacheSet _, .read v left => Live (some v.object) ∧ left = false
  | .update _, .nothing => False
  | .cacheSet _, .nothing => False
  | _, _ => True

/-- What an answer tells. -/
def learned : (c : Call P S) → Except Error (Answer c) → Known → Known
  | .get, .ok v, _ => .read v false
  | .cacheDelete, _, .read v _ => .read v true
  | _, _, x => x

/-- Every call of a program is allowed. -/
def Tame {α : Type} (Q : α → Known → Prop) (p : Task P S α) (x : Known) : Prop :=
  Guarded Allowed (fun c r x y => y = learned c r x) Q p x

theorem tame_last {c : Call P S} {x : Known} (h : Allowed c x) : Tame (fun _ _ => True) (invoke c) x :=
  Calls.guarded_last h fun _ _ _ => trivial

theorem tame_fillCache {v : Versioned ComponentPlugin} (h : Live (some v.object)) (spec : ComponentPluginSpec) :
    Tame (fun _ _ => True) (fillCache vm name spec) (.read v false) := by
  rw [fillCache_eq]
  cases programOf vm name spec with
  | none => trivial
  | some program => exact tame_last (c := .cacheSet program) ⟨h, rfl⟩

theorem tame_compilePlugin {v : Versioned ComponentPlugin} (h : Live (some v.object)) :
    Tame (fun _ _ => True) (compilePlugin vm name v) (.read v false) := by
  rw [compilePlugin]
  split
  · exact tame_fillCache h _
  · refine Calls.guarded_tryCall trivial fun r y hy => ?_
    cases hy
    cases r with
    | ok _ => exact tame_fillCache h _
    | error e => cases e <;> trivial

theorem tame_deletePluginBindings (keys : List BindingKey) (x : Known) :
    Tame (fun _ y => y = x) (deletePluginBindings keys : Task P S Unit) x := by
  induction keys with
  | nil => exact rfl
  | cons key keys ih =>
      refine Calls.guarded_tryCall trivial fun r y hy => ?_
      cases hy
      exact ih

theorem tame_deletePlugin {v : Versioned ComponentPlugin} (h : v.object.deleting = true) :
    Tame (fun _ _ => True) (deletePlugin v : Task P S Unit) (.read v false) := by
  refine Calls.guarded_invoke trivial fun _ y hy => ?_
  cases hy
  refine Calls.guarded_invoke trivial fun keys y hy => ?_
  cases hy
  refine Calls.guarded_bind ((tame_deletePluginBindings keys _).mono fun _ y hy => ?_)
  cases hy
  exact tame_last (c := .update _) ⟨rfl, Or.inr ⟨h, rfl⟩⟩

theorem tame_run : Tame (fun _ _ => True) (run vm name) .nothing := by
  refine Calls.guarded_tryCall trivial fun r y hy => ?_
  cases r with
  | error e => cases e <;> trivial
  | ok v =>
      cases hy
      dsimp only
      rw [runPlugin]
      split
      · rename_i hdeleting
        split
        · rename_i hfinalizer
          exact tame_compilePlugin ⟨_, rfl, hfinalizer, hdeleting⟩
        · refine tame_last (c := .update _) ⟨rfl, Or.inl ?_⟩
          exact List.mem_append_right _ List.mem_cons_self
      · rename_i hdeleting
        split
        · exact tame_deletePlugin (Bool.eq_true_of_not_eq_false hdeleting)
        · trivial

/-! ### What keeps it -/

variable {s : PluginStore P S} {x : Known} {o : Option ComponentPlugin}

/-- A process starts with an empty cache. -/
theorem sound_restarted (s : PluginStore P S) : Sound ((controller vm name).restarted s).store :=
  ⟨List.pairwise_singleton _ _, nofun⟩

theorem Sound.put (h : Sound s) (ho : Held s.stored.object → Held o) : Sound (s.put o) := by
  refine ⟨List.pairwise_append.mpr ⟨h.held, List.pairwise_singleton _ _, fun a ha b hb hlive => ?_⟩, fun hm => ?_⟩
  · rw [List.mem_singleton.mp hb]
    refine ho ?_
    rcases Watched.getLastD_of_pairwise h.held ha with heq | hheld
    · rw [Store.stored, ← heq]
      exact hlive.held
    · exact hheld hlive
  · exact Store.forall_put (h.cached hm) (ho (h.cached hm _ s.stored_mem))

theorem Knows.put (h : Knows s x) (ho : Held s.stored.object → Held o) : Knows (s.put o) x := by
  cases x with
  | nothing => trivial
  | read v left =>
      obtain ⟨hseen, hlive, hleft⟩ := h
      exact ⟨hseen, fun hv => Store.forall_put (hlive hv) (ho (hlive hv _ s.stored_mem)), hleft⟩

/-- A write of a version happens, or nothing does. -/
theorem after_writeVersion (s : PluginStore P S) (version : Nat)
    (write : ComponentPlugin → Option ComponentPlugin) :
    s.after (writeVersion s.stored version write s.env s.memory) = s ∨
      ∃ p, s.stored.object = some p ∧ s.stored.version = version ∧
        s.after (writeVersion s.stored version write s.env s.memory) = s.put (write p) := by
  unfold writeVersion
  cases hstored : s.stored.object with
  | none => exact Or.inl rfl
  | some p =>
      dsimp only
      split
      · rename_i hversion
        exact Or.inr ⟨p, rfl, hversion, rfl⟩
      · exact Or.inl rfl

/-- **What an allowed update leaves**: the plugin is held on, or it is out of the cache and not live. -/
theorem Sound.update {v : Versioned ComponentPlugin} {left : Bool} (hs : Watched.Ordered s) (h : Sound s)
    (hknows : Knows s (.read v left)) {u : Versioned ComponentPlugin}
    (hallowed : Allowed (.update u : Call P S) (.read v left)) (hversion : s.stored.version = u.version)
    (p : ComponentPlugin) :
    Sound (s.put (updated p u.object)) ∧ Knows (s.put (updated p u.object)) (.read v left) := by
  obtain ⟨heq, hmem | ⟨hdeleting, hleft⟩⟩ := hallowed
  · exact ⟨h.put fun _ => updated_of_mem hmem, hknows.put fun _ => updated_of_mem hmem⟩
  · obtain ⟨hseen, -, hout⟩ := hknows
    obtain ⟨hfeed, hv⟩ := hseen.stored hs (hversion.trans heq)
    have hdead : ¬ Live s.seen.object := by
      rw [← hv]
      rintro ⟨q, hq, -, hlive⟩
      cases hq
      rw [hdeleting] at hlive
      cases hlive
    have hfront : (s.put (updated p u.object)).seen :: (s.put (updated p u.object)).feed =
        [s.seen, ⟨s.stored.version + 1, updated p u.object⟩] := by
      rw [Store.put, hfeed]
      rfl
    refine ⟨⟨?_, fun hm => ?_⟩, hseen, fun hlive => ?_, hout⟩
    · rw [hfront]
      exact List.pairwise_pair.mpr fun hlive => absurd hlive hdead
    · rw [show (s.put (updated p u.object)).memory = s.memory from rfl, hout hleft] at hm
      cases hm
    · obtain ⟨q, hq, -, hlive⟩ := hlive
      cases hq
      rw [hdeleting] at hlive
      cases hlive

/-- What is known of a plugin that was just read. -/
theorem knows_read (h : Sound s) {p : ComponentPlugin} (hp : s.seen.object = some p) :
    Knows s (.read ⟨s.seen.version, p⟩ false) := by
  refine ⟨Or.inr ?_, fun hlive a ha => ?_, nofun⟩
  · rw [← hp]
  · rw [← hp] at hlive
    rcases List.mem_cons.mp ha with rfl | ha
    · exact hlive.held
    · exact (List.pairwise_cons.mp h.held).1 a ha hlive

/-- **What an allowed call leaves**, however it is answered. -/
theorem kept_of_serve (hs : Watched.Ordered s) (h : Sound s) (hknows : Knows s x) {c : Call P S}
    (hallowed : Allowed c x) :
    Sound (s.after (serve c s.seen s.stored s.env s.memory)) ∧
      ∀ r, r = (serve c s.seen s.stored s.env s.memory).answer ∨ c.inside = false ∧ r = .error .unavailable →
        Knows (s.after (serve c s.seen s.stored s.env s.memory)) (learned c r x) := by
  cases c with
  | get =>
      rw [serve]
      cases hp : s.seen.object with
      | none =>
          refine ⟨h, fun r hr => ?_⟩
          rcases hr with rfl | ⟨-, rfl⟩ <;> exact hknows
      | some p =>
          refine ⟨h, fun r hr => ?_⟩
          rcases hr with rfl | ⟨-, rfl⟩
          · exact knows_read h hp
          · exact hknows
  | update u =>
      cases x with
      | nothing => exact hallowed.elim
      | read v left =>
          rcases after_writeVersion s u.version (updated · u.object) with heq | ⟨p, -, hversion, heq⟩
          · rw [serve, heq]
            exact ⟨h, fun _ _ => hknows⟩
          · rw [serve, heq]
            obtain ⟨hsound, hknown⟩ := h.update hs hknows hallowed hversion p
            exact ⟨hsound, fun _ _ => hknown⟩
  | updateStatus u =>
      rcases after_writeVersion s u.version
        (fun p => some { p with compiledSuccessfully := u.object.compiledSuccessfully }) with heq | ⟨p, hp, -, heq⟩
      · rw [serve, heq]
        exact ⟨h, fun _ _ => hknows⟩
      · have hheld (ho : Held s.stored.object) :
            Held (some { p with compiledSuccessfully := u.object.compiledSuccessfully }) := by
          obtain ⟨q, hq, hfinalizer⟩ := ho
          cases hp.symm.trans hq
          exact ⟨_, rfl, hfinalizer⟩
        rw [serve, heq]
        exact ⟨h.put hheld, fun _ _ => hknows.put hheld⟩
  | listBindings => exact ⟨h, fun _ _ => hknows⟩
  | deleteBinding key =>
      rw [serve]
      split
      · exact ⟨⟨h.held, h.cached⟩, fun _ _ => hknows⟩
      · exact ⟨h, fun _ _ => hknows⟩
  | cacheDelete =>
      refine ⟨⟨h.held, nofun⟩, fun r _ => ?_⟩
      cases x with
      | nothing => trivial
      | read v left => exact ⟨hknows.1, hknows.2.1, fun _ => rfl⟩
  | cacheSet program =>
      cases x with
      | nothing => exact hallowed.elim
      | read v left =>
          obtain ⟨hlive, rfl⟩ := hallowed
          exact ⟨⟨h.held, fun _ => hknows.2.1 hlive⟩, fun _ _ => ⟨hknows.1, hknows.2.1, nofun⟩⟩

/-- A call that fails tells nothing. -/
theorem learned_error {c : Call P S} (hinside : c.inside = false) (e : Error) (x : Known) :
    learned c (.error e) x = x := by
  cases c with
  | cacheDelete => cases hinside
  | _ => cases x <;> rfl

/-- A reconcile under way whose calls are allowed. -/
def Underway (p : Task P S Unit) (s : PluginStore P S) : Prop := ∃ x, Tame (fun _ _ => True) p x ∧ Knows s x

theorem Knows.delivered {front feed : List (Versioned (Option ComponentPlugin))}
    {v : Versioned (Option ComponentPlugin)} (h : Knows s x) (hs : Watched.Ordered s)
    (hfeed : s.feed = front ++ v :: feed) :
    Knows { s with seen := v, feed := feed } x := by
  cases x with
  | nothing => trivial
  | read u left =>
      refine ⟨h.1.delivered hs hfeed, fun hlive a ha => h.2.1 hlive a (List.mem_cons_of_mem _ ?_), h.2.2⟩
      rw [hfeed]
      exact List.mem_append_right _ ha

/-- **The finalizer protocol**: in every world a plugin that was live is held, and as long as it is in the cache. -/
theorem invariant (vm : Vm P S) (name : Str) :
    (controller vm name).Invariant (fun _ => True) Sound Underway where
  restarted s _ _ := sound_restarted s
  crashed s _ _ := sound_restarted s
  written s u o _ _ h hwrite := by
    refine ⟨h.put (held_write hwrite), fun p ⟨x, htame, hknows⟩ => ⟨x, htame, hknows.put (held_write hwrite)⟩⟩
  moved s env h := by
    refine ⟨⟨h.held, h.cached⟩, fun p ⟨x, htame, hknows⟩ => ⟨x, htame, ?_⟩⟩
    cases x <;> exact hknows
  delivered s front v feed hs h hfeed := by
    have hsub {a : Versioned (Option ComponentPlugin)} (ha : a ∈ v :: feed) : a ∈ s.seen :: s.feed := by
      rw [hfeed]
      exact List.mem_cons_of_mem _ (List.mem_append_right _ ha)
    refine ⟨⟨?_, fun hm a ha => h.cached hm a (hsub ha)⟩, fun p ⟨x, htame, hknows⟩ =>
      ⟨x, htame, hknows.delivered hs hfeed⟩⟩
    have hheld := h.held
    rw [hfeed] at hheld
    exact (List.pairwise_append.mp (List.pairwise_cons.mp hheld).2).2.1
  started s _ := ⟨.nothing, tame_run, trivial⟩
  called s fault c next hs h := by
    rintro ⟨x, ⟨hallowed, hnext⟩, hknows⟩
    obtain ⟨hsound, hlearned⟩ := kept_of_serve hs h hknows hallowed
    rcases Watched.Controller.effect_cases (K := controller vm name) fault c s with heq | ⟨hinside, hanswer, hafter⟩
    · rw [heq]
      exact ⟨hsound, _, hnext _ _ rfl, hlearned _ (Or.inl rfl)⟩
    · rw [hanswer]
      rcases hafter with hafter | hafter
      · rw [hafter]
        refine ⟨h, _, hnext _ _ rfl, ?_⟩
        rw [learned_error hinside]
        exact hknows
      · rw [hafter]
        exact ⟨hsound, _, hnext _ _ rfl, hlearned _ (Or.inr ⟨hinside, rfl⟩)⟩

/-! ## 6. At rest -/

/-- What is not held is not in the cache. -/
theorem Sound.memory_eq_none (h : Sound s) (hseen : ¬ Held s.seen.object) : s.memory = none := by
  cases hm : s.memory with
  | none => rfl
  | some program => exact absurd (h.cached (by rw [hm]; rfl) _ List.mem_cons_self) hseen

/-- A write of the version that is stored happens. -/
theorem writes_writeVersion {X M : Type} {seen : Versioned (Option ComponentPlugin)} {p : ComponentPlugin}
    (hp : seen.object = some p) (write : ComponentPlugin → Option ComponentPlugin) (env : X) (m : M) :
    (writeVersion seen seen.version write env m).write ≠ none := by
  rw [writeVersion, hp]
  dsimp only
  rw [if_pos rfl]
  exact Option.some_ne_none _

variable {p : ComponentPlugin} {m : Option (ComponentPluginProgram P S)}

theorem leads_fillCache {seen : Versioned (Option ComponentPlugin)} (hp : seen.object = some p)
    (hdeleting : p.deleting = false) (hfinalizer : finalizerName ∈ p.finalizers)
    (hstatus : p.compiledSuccessfully = (p.spec.compile vm).isSome) :
    (controller vm name).Leads (Follows vm name) seen (fillCache vm name p.spec) m := by
  rw [fillCache_eq]
  cases hprogram : programOf vm name p.spec with
  | none =>
      change Follows vm name seen.object m
      rw [hp, Follows, hdeleting, if_neg Bool.false_ne_true]
      refine ⟨hfinalizer, hstatus, fun program h => ?_⟩
      rw [hprogram] at h
      cases h
  | some program =>
      intro fault env _
      change Follows vm name seen.object (some program)
      rw [hp, Follows, hdeleting, if_neg Bool.false_ne_true]
      refine ⟨hfinalizer, hstatus, fun program' h => ?_⟩
      rw [← hprogram, h]

theorem leads_compilePlugin {seen : Versioned (Option ComponentPlugin)} (hp : seen.object = some p)
    (hdeleting : p.deleting = false) (hfinalizer : finalizerName ∈ p.finalizers) :
    (controller vm name).Leads (Follows vm name) seen (compilePlugin vm name ⟨seen.version, p⟩) m := by
  rw [compilePlugin]
  dsimp only
  split
  · rename_i hstatus
    exact leads_fillCache hp hdeleting hfinalizer hstatus
  · exact Watched.Controller.leads_write rfl (writes_writeVersion hp _) trivial

theorem leads_update {seen : Versioned (Option ComponentPlugin)} (hp : seen.object = some p) (u : ComponentPlugin) :
    (controller vm name).Leads (Follows vm name) seen (invoke (.update ⟨seen.version, u⟩)) m :=
  Watched.Controller.leads_write rfl (writes_writeVersion hp _) trivial

theorem leads_deletePlugin {seen : Versioned (Option ComponentPlugin)} (hp : seen.object = some p) :
    (controller vm name).Leads (Follows vm name) seen (deletePlugin ⟨seen.version, p⟩) m := by
  refine Watched.Controller.leads_bind fun _ _ => Watched.Controller.leads_bind fun _ _ =>
    Watched.Controller.leads_bind fun _ _ => ?_
  exact leads_update hp _

theorem leads_run (h : Sound s) : (controller vm name).Leads (Follows vm name) s.seen (run vm name) s.memory := by
  intro fault env _
  cases fault with
  | refused => trivial
  | lost => trivial
  | served =>
      have hmeet : (controller vm name).meet .served .get s.seen s.seen env s.memory =
          serve .get s.seen s.seen env s.memory := rfl
      rw [hmeet, serve]
      cases hp : s.seen.object with
      | none =>
          change Follows vm name s.seen.object s.memory
          rw [hp]
          refine h.memory_eq_none ?_
          rw [hp]
          rintro ⟨_, hnone, _⟩
          cases hnone
      | some p =>
          change (controller vm name).Leads (Follows vm name) s.seen (runPlugin vm name ⟨s.seen.version, p⟩) s.memory
          rw [runPlugin]
          split
          · rename_i hdeleting
            split
            · rename_i hfinalizer
              exact leads_compilePlugin hp hdeleting hfinalizer
            · exact leads_update hp _
          · rename_i hdeleting
            split
            · exact leads_deletePlugin hp
            · rename_i hfinalizer
              change Follows vm name s.seen.object s.memory
              rw [hp, Follows, Bool.eq_true_of_not_eq_false hdeleting, if_pos rfl]
              refine ⟨hfinalizer, h.memory_eq_none ?_⟩
              rw [hp]
              rintro ⟨_, hsome, hmem⟩
              cases hsome
              exact hfinalizer hmem

/-- At rest the cache follows the plugin. -/
theorem follows_of_rest {w : PluginWorld P S} (hw : (controller vm name).Reached w) (hrest : w.AtRest) :
    Follows vm name w.store.seen.object w.store.memory := by
  refine (invariant vm name).right_at_rest sound_restarted (fun o ho => ?_)
    (fun s h _ => leads_run h) hw hrest
  cases o with
  | none => rfl
  | some p => cases ho

/-! ## 7. Coming to rest -/

/-- How far a plugin is from rest: the finalizer is to be put or taken, the status to be set. -/
def distance (vm : Vm P S) : Option ComponentPlugin → Nat
  | none => 0
  | some p =>
    if p.deleting then (if finalizerName ∈ p.finalizers then 1 else 0)
    else (if finalizerName ∈ p.finalizers then 0 else 2) +
      (if p.compiledSuccessfully = (p.spec.compile vm).isSome then 0 else 1)

/-- The bindings change nothing but the surroundings. -/
theorem finish_deletePluginBindings (vm : Vm P S) (name : Str) (keys : List BindingKey)
    (f : Unit → Task P S Unit) (s : PluginStore P S) (queued : Bool) :
    ∃ env, (controller vm name).finish (deletePluginBindings keys >>= f) s queued =
      (controller vm name).finish (f ()) { s with env := env } queued := by
  induction keys generalizing s with
  | nil => exact ⟨s.env, rfl⟩
  | cons key keys ih =>
      have hafter : ∃ env, s.after ((controller vm name).effect .served (.deleteBinding key) s) =
          { s with env := env } := by
        change ∃ env, s.after (serve (.deleteBinding key) s.seen s.stored s.env s.memory) = _
        rw [serve]
        split
        · exact ⟨_, rfl⟩
        · exact ⟨s.env, rfl⟩
      obtain ⟨env, hafter⟩ := hafter
      obtain ⟨env', hrest⟩ := ih { s with env := env }
      refine ⟨env', ?_⟩
      rw [← hrest, ← hafter]
      rfl

/-- The version that was seen is written, when nothing else was. -/
theorem writeVersion_seen (hfeed : s.feed = []) (hp : s.seen.object = some p)
    (write : ComponentPlugin → Option ComponentPlugin) :
    writeVersion s.stored s.seen.version write s.env s.memory = ⟨.ok (), some (write p), s.env, s.memory⟩ := by
  rw [Store.stored_of_feed hfeed, writeVersion, hp]
  dsimp only
  rw [if_pos rfl]

theorem finish_update (vm : Vm P S) (name : Str) (hfeed : s.feed = []) (hp : s.seen.object = some p)
    (u : ComponentPlugin) :
    (controller vm name).finish (invoke (.update ⟨s.seen.version, u⟩)) s false =
      ⟨s.put (updated p u), false, none⟩ := by
  have heffect : (controller vm name).effect .served (.update ⟨s.seen.version, u⟩) s =
      ⟨.ok (), some (updated p u), s.env, s.memory⟩ := writeVersion_seen hfeed hp _
  rw [invoke, Action.invoke, Watched.Controller.finish, heffect]
  rfl

theorem finish_fillCache (vm : Vm P S) (name : Str) (spec : ComponentPluginSpec) (s : PluginStore P S)
    (queued : Bool) :
    ∃ m, (controller vm name).finish (fillCache vm name spec) s queued = ⟨{ s with memory := m }, queued, none⟩ := by
  rw [fillCache_eq]
  cases programOf vm name spec with
  | none => exact ⟨s.memory, rfl⟩
  | some program => exact ⟨some program, rfl⟩

/-- At rest, or nearer to it than a plugin. -/
def Nearer (vm : Vm P S) (p : ComponentPlugin) (w : PluginWorld P S) : Prop :=
  w.AtRest ∨ distance vm w.store.stored.object < distance vm (some p)

theorem nearer_compilePlugin (hfeed : s.feed = []) (hp : s.seen.object = some p) (hdeleting : p.deleting = false) :
    Nearer vm p ((controller vm name).finish (compilePlugin vm name ⟨s.seen.version, p⟩) s false) := by
  rw [compilePlugin]
  dsimp only
  split
  · obtain ⟨m, hfinish⟩ := finish_fillCache vm name p.spec s false
    rw [hfinish]
    exact Or.inl ⟨hfeed, rfl, rfl⟩
  · rename_i hstatus
    have heffect : (controller vm name).effect .served (.updateStatus ⟨s.seen.version,
        { p with compiledSuccessfully := (p.spec.compile vm).isSome }⟩) s =
        ⟨.ok (), some (some { p with compiledSuccessfully := (p.spec.compile vm).isSome }), s.env, s.memory⟩ :=
      writeVersion_seen hfeed hp _
    rw [tryCall, Action.tryCall_bind, Watched.Controller.finish, heffect]
    obtain ⟨m, hfinish⟩ := finish_fillCache vm name p.spec
      (s.put (some { p with compiledSuccessfully := (p.spec.compile vm).isSome })) false
    refine Or.inr ((congrArg (fun w => distance vm w.store.stored.object) hfinish).trans_lt ?_)
    change distance vm (s.put _).stored.object < _
    rw [Store.stored_put, distance, distance, hdeleting, if_neg Bool.false_ne_true, if_neg Bool.false_ne_true,
      if_neg hstatus, if_pos rfl]
    exact Nat.lt_succ_self _

theorem nearer_finalized (hdeleting : p.deleting = false) (hfinalizer : finalizerName ∉ p.finalizers) :
    distance vm (updated p { p with finalizers := p.finalizers ++ [finalizerName] }) < distance vm (some p) := by
  have hmem : finalizerName ∈ p.finalizers ++ [finalizerName] := List.mem_append_right _ List.mem_cons_self
  rw [updated, hdeleting, if_neg fun h => Bool.false_ne_true h.1, distance, distance, if_neg Bool.false_ne_true,
    if_pos hmem, hdeleting, if_neg Bool.false_ne_true, if_neg hfinalizer]
  dsimp only
  omega

theorem nearer_released (hdeleting : p.deleting = true) (hfinalizer : finalizerName ∈ p.finalizers) :
    distance vm (updated p { p with finalizers := p.finalizers.filter (· ≠ finalizerName) }) <
      distance vm (some p) := by
  have hzero : distance vm (updated p { p with finalizers := p.finalizers.filter (· ≠ finalizerName) }) = 0 := by
    rw [updated]
    split
    · rfl
    · rw [distance, hdeleting, if_pos rfl, if_neg]
      intro hmem
      exact of_decide_eq_true (List.mem_filter.mp hmem).2 rfl
  rw [hzero, distance, hdeleting, if_pos rfl, if_pos hfinalizer]
  exact Nat.one_pos

theorem nearer_deletePlugin (hfeed : s.feed = []) (hp : s.seen.object = some p) (hdeleting : p.deleting = true)
    (hfinalizer : finalizerName ∈ p.finalizers) :
    Nearer vm p ((controller vm name).finish (deletePlugin ⟨s.seen.version, p⟩) s false) := by
  obtain ⟨env, hfinish⟩ := finish_deletePluginBindings vm name s.env
    (fun _ => invoke (.update ⟨s.seen.version, { p with finalizers := p.finalizers.filter (· ≠ finalizerName) }⟩))
    { s with memory := none } false
  have hupdate := finish_update vm name (s := { s with env := env, memory := none }) hfeed hp
    { p with finalizers := p.finalizers.filter (· ≠ finalizerName) }
  refine Or.inr ((congrArg (fun w => distance vm w.store.stored.object) (hfinish.trans hupdate)).trans_lt ?_)
  change distance vm (Store.put _ _).stored.object < _
  rw [Store.stored_put]
  exact nearer_released hdeleting hfinalizer

/-- **A reconcile that is served** comes to rest, or nearer to it. -/
theorem nearer_runPlugin (hfeed : s.feed = []) (hp : s.seen.object = some p) :
    Nearer vm p ((controller vm name).finish (runPlugin vm name ⟨s.seen.version, p⟩) s false) := by
  rw [runPlugin]
  split
  · rename_i hdeleting
    split
    · exact nearer_compilePlugin hfeed hp hdeleting
    · rename_i hfinalizer
      rw [finish_update vm name hfeed hp, Nearer, Store.stored_put]
      exact Or.inr (nearer_finalized hdeleting hfinalizer)
  · rename_i hdeleting
    split
    · rename_i hfinalizer
      exact nearer_deletePlugin hfeed hp (Bool.eq_true_of_not_eq_false hdeleting) hfinalizer
    · exact Or.inl ⟨hfeed, rfl, rfl⟩

theorem run_round (hfeed : s.feed = []) : ((controller vm name).finish (run vm name) s false).AtRest ∨
    distance vm ((controller vm name).finish (run vm name) s false).store.stored.object <
      distance vm s.seen.object := by
  have hget : (controller vm name).effect .served .get s = serve .get s.seen s.stored s.env s.memory := rfl
  rw [run, tryCall, Action.tryCall_bind, Watched.Controller.finish, hget, serve]
  cases hp : s.seen.object with
  | none => exact Or.inl ⟨hfeed, rfl, rfl⟩
  | some p => exact nearer_runPlugin hfeed hp

/-- A live plugin whose spec stands for the program in the cache, or for none. -/
def Stands (vm : Vm P S) (name : Str) (m : Option (ComponentPluginProgram P S)) (o : Option ComponentPlugin) : Prop :=
  ∃ p, o = some p ∧ finalizerName ∈ p.finalizers ∧ p.deleting = false ∧
    ∀ program, programOf vm name p.spec = some program → m = some program

/-- The steps that leave it so: no deletion, no restart, and only specs that stand for this program or for none. -/
def Leaves (vm : Vm P S) (name : Str) (m : Option (ComponentPluginProgram P S)) :
    Watched.Event (List BindingKey) Edit → Prop
  | .write (.put spec) => ∀ program, programOf vm name spec = some program → m = some program
  | .write .delete => False
  | .restart => False
  | _ => True

/-- The calls that leave the cache, of a plugin that stands for what is in it. -/
def LeavesCache (m : Option (ComponentPluginProgram P S)) : Call P S → Unit → Prop
  | .update _, _ => False
  | .cacheDelete, _ => False
  | .cacheSet program, _ => m = some program
  | _, _ => True

/-- A plugin that is read stands for it. -/
def ReadsStanding (vm : Vm P S) (name : Str) (m : Option (ComponentPluginProgram P S)) :
    (c : Call P S) → Except Error (Answer c) → Unit → Unit → Prop
  | .get, r, _, _ => ∀ v, r = .ok v → Stands vm name m (some v.object)
  | _, _, _, _ => True

/-- A program that leaves the cache. -/
def Quiet (vm : Vm P S) (name : Str) (m : Option (ComponentPluginProgram P S)) {α : Type} (p : Task P S α) : Prop :=
  Guarded (LeavesCache m) (ReadsStanding vm name m) (fun _ _ => True) p ()

theorem stands_write {u : Edit} (hu : Leaves vm name m (.write u)) {o o' : Option ComponentPlugin}
    (h : u.write o = some o') (ho : Stands vm name m o) : Stands vm name m o' := by
  obtain ⟨p, rfl, hfinalizer, hdeleting, hprogram⟩ := ho
  cases u with
  | create spec finalizers => cases h
  | put spec =>
      cases h
      exact ⟨_, rfl, hfinalizer, hdeleting, hu⟩
  | delete => exact hu.elim
  | release finalizer =>
      rw [Edit.write] at h
      split at h
      · cases h
      · rename_i hne
        cases h
        rw [updated, hdeleting, if_neg fun h => Bool.false_ne_true h.1]
        exact ⟨_, rfl, mem_released hne hfinalizer, rfl, hprogram⟩

theorem quiet_fillCache {spec : ComponentPluginSpec}
    (h : ∀ program, programOf vm name spec = some program → m = some program) :
    Quiet vm name m (fillCache vm name spec) := by
  rw [fillCache_eq]
  cases hprogram : programOf vm name spec with
  | none => trivial
  | some program =>
      have hleaves : LeavesCache m (.cacheSet program) () := h program hprogram
      exact Calls.guarded_last hleaves fun _ _ _ => trivial

theorem quiet_runPlugin {v : Versioned ComponentPlugin} (h : Stands vm name m (some v.object)) :
    Quiet vm name m (runPlugin vm name v) := by
  obtain ⟨p, hp, hfinalizer, hdeleting, hprogram⟩ := h
  obtain rfl : v.object = p := Option.some.inj hp
  rw [runPlugin, if_pos hdeleting, if_pos hfinalizer, compilePlugin]
  dsimp only
  split
  · exact quiet_fillCache hprogram
  · refine Calls.guarded_tryCall trivial fun r _ _ => ?_
    cases r with
    | ok _ => exact quiet_fillCache hprogram
    | error e => cases e <;> trivial

theorem quiet_run : Quiet vm name m (run vm name) := by
  refine Calls.guarded_tryCall trivial fun r _ hr => ?_
  cases r with
  | ok v => exact quiet_runPlugin (hr v rfl)
  | error e => cases e <;> trivial

theorem crashless_fillCache (spec : ComponentPluginSpec) : Calls.Crashless (fillCache vm name spec) := by
  rw [fillCache_eq]
  cases programOf vm name spec with
  | none => trivial
  | some program => exact Calls.crashless_invoke _

theorem crashless_deletePluginBindings (keys : List BindingKey) :
    Calls.Crashless (deletePluginBindings keys : Task P S Unit) := by
  induction keys with
  | nil => trivial
  | cons key keys ih => exact fun _ => ih

theorem crashless_runPlugin (v : Versioned ComponentPlugin) : Calls.Crashless (runPlugin vm name v) := by
  rw [runPlugin]
  split
  · split
    · rw [compilePlugin]
      dsimp only
      split
      · exact crashless_fillCache _
      · intro r
        cases r with
        | ok _ => exact crashless_fillCache _
        | error e => cases e <;> trivial
    · exact Calls.crashless_invoke _
  · split
    · refine Calls.crashless_bind (Calls.crashless_invoke _) fun _ => ?_
      refine Calls.crashless_bind (Calls.crashless_invoke _) fun keys => ?_
      exact Calls.crashless_bind (crashless_deletePluginBindings keys) fun _ => Calls.crashless_invoke _
    · trivial

theorem crashless_run : Calls.Crashless (run vm name) := by
  intro r
  cases r with
  | ok v => exact crashless_runPlugin v
  | error e => cases e <;> trivial

/-- Everything that is stored or was seen stands for the program in the cache. -/
structure Standing (vm : Vm P S) (name : Str) (m : Option (ComponentPluginProgram P S)) (s : PluginStore P S) :
    Prop where
  memory : s.memory = m
  stands : ∀ a ∈ s.seen :: s.feed, Stands vm name m a.object

theorem Standing.put (h : Standing vm name m s) {o : Option ComponentPlugin} (ho : Stands vm name m o) :
    Standing vm name m (s.put o) :=
  ⟨h.memory, Store.forall_put h.stands ho⟩

/-- A call that leaves the cache, when it is served. -/
theorem standing_of_serve (h : Standing vm name m s) {c : Call P S} (hleaves : LeavesCache m c ()) :
    Standing vm name m (s.after (serve c s.seen s.stored s.env s.memory)) ∧
      ReadsStanding vm name m c (serve c s.seen s.stored s.env s.memory).answer () () := by
  cases c with
  | get =>
      rw [serve]
      cases hp : s.seen.object with
      | none => exact ⟨h, nofun⟩
      | some p =>
          refine ⟨h, fun v hv => ?_⟩
          rw [← Except.ok.inj hv, ← hp]
          exact h.stands _ List.mem_cons_self
  | update u => exact hleaves.elim
  | updateStatus u =>
      refine ⟨?_, trivial⟩
      rcases after_writeVersion s u.version
        (fun p => some { p with compiledSuccessfully := u.object.compiledSuccessfully }) with heq | ⟨p, hp, -, heq⟩
      · rw [serve, heq]
        exact h
      · rw [serve, heq]
        obtain ⟨q, hq, hfinalizer, hdeleting, hprogram⟩ := h.stands _ s.stored_mem
        cases hp.symm.trans hq
        exact h.put ⟨_, rfl, hfinalizer, hdeleting, hprogram⟩
  | listBindings => exact ⟨h, trivial⟩
  | deleteBinding key =>
      refine ⟨?_, trivial⟩
      rw [serve]
      split
      · exact ⟨h.memory, h.stands⟩
      · exact h
  | cacheDelete => exact hleaves.elim
  | cacheSet program => exact ⟨⟨Eq.symm hleaves, h.stands⟩, trivial⟩

theorem readsStanding_error (c : Call P S) (e : Error) : ReadsStanding vm name m c (.error e) () () := by
  cases c with
  | get => exact nofun
  | _ => trivial

theorem standing_invariant (vm : Vm P S) (name : Str) (m : Option (ComponentPluginProgram P S)) :
    (controller vm name).Invariant (Leaves vm name m) (Standing vm name m)
      (fun p _ => Quiet vm name m p ∧ Calls.Crashless p) where
  restarted _ hallowed _ := hallowed.elim
  crashed _ _ hcrash := hcrash.2.elim
  written s u o hallowed _ h hwrite :=
    ⟨h.put (stands_write hallowed hwrite (h.stands _ s.stored_mem)), fun _ hp => hp⟩
  moved s env h := ⟨⟨h.memory, h.stands⟩, fun _ hp => hp⟩
  delivered s front v feed _ h hfeed := by
    refine ⟨⟨h.memory, fun a ha => h.stands a ?_⟩, fun _ hp => hp⟩
    rw [hfeed]
    exact List.mem_cons_of_mem _ (List.mem_append_right _ ha)
  started _ _ := ⟨quiet_run, crashless_run⟩
  called s fault c next _ h := by
    rintro ⟨⟨hleaves, hnext⟩, hcrashless⟩
    obtain ⟨hstanding, hreads⟩ := standing_of_serve h hleaves
    rcases Watched.Controller.effect_cases (K := controller vm name) fault c s with heq | ⟨_, hanswer, hafter⟩
    · rw [heq]
      exact ⟨hstanding, hnext _ () hreads, hcrashless _⟩
    · rw [hanswer]
      refine ⟨?_, hnext _ () (readsStanding_error c _), hcrashless _⟩
      rcases hafter with hafter | hafter <;> rw [hafter]
      · exact h
      · exact hstanding

end Invariant

/-! ### A plugin without methods -/

/-- The compilers, on the sources `1` and `(`. -/
def scriptVm : Vm Str Unit where
  compileProgram src := if src = str "(" then none else some src
  getDefinedMethods _ := some fun _ => false
  newSchema _ := some ()

/-- A source of a plugin for all workload types, without a schema. -/
def scriptSpec (src : Str) : ComponentPluginSpec := ⟨src, [], none⟩

/-- A process starts where the plugin is stored, compiles, and has the finalizer. -/
def scriptWorld : PluginWorld Str Unit :=
  (controller scriptVm (str "script")).restarted
    { seen := ⟨1, some ⟨scriptSpec (str "1"), [finalizerName], false, true⟩⟩, feed := [], env := [], memory := none }

theorem reached_scriptWorld : (controller scriptVm (str "script")).Reached scriptWorld := .start ⟨_, rfl⟩

/-- The program of the source `1`. -/
def scriptProgram : ComponentPluginProgram Str Unit := ⟨str "script", str "1", none, fun _ => false, true, []⟩

/-- The world at rest behind the first reconcile. -/
def loadedWorld : PluginWorld Str Unit :=
  ⟨{ scriptWorld.store with memory := some scriptProgram }, false, none⟩

theorem reached_loadedWorld : (controller scriptVm (str "script")).Reached loadedWorld := by
  have hrun : Runs.runSteps (controller scriptVm (str "script")).step scriptWorld
      [.start, .call .served, .call .served] = some loadedWorld := rfl
  exact reached_scriptWorld.run hrun

/-- The source is replaced by `(`; it is delivered and reconciled, and so is what the reconcile has written. -/
def brokenSteps : List (Watched.Event (List BindingKey) Edit) :=
  [.write (.put (scriptSpec (str "("))), .deliver 0, .start, .call .served, .call .served, .deliver 0, .start,
    .call .served]

end Kalm.PluginCache
