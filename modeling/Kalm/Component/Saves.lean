/-
  File:      Kalm/Component/Saves.lean
  Subject:   A SAVE IS COMPLETE AND REPEATABLE, or it is not: a component, its endpoint and its
             bindings are written one after the other, and any call may fail.

  * `AsRequested` -- the component, its endpoint and its bindings are the requested ones;
  * `Saves` -- no run crashes, a run that succeeds leaves them as requested, and after one that fails
    the same request without failing calls does;
  * `Savable` -- the state an update can be repeated from: an invariant of every run;
  * `saves_of_savable` -- an update saves from there.
-/
import Kalm.Component.Bindings

namespace Kalm

open MergePatch (Json)
open Calls (Action Fault Holds Keeps Returns Repeatable Resumes Strict Refusable Uses)

/-! ## 1. What a save is for -/

section Defs

variable (srv : ApiServer) (md5 : ComponentPluginBindingSpec → List UInt8)

/-- A spec is stored as admission defaults it. -/
def HasSpec (kind : Kind) (key : NamespacedName) (spec : Doc) (s : Cluster) : Prop :=
  ∃ seed, s.specAt kind key = some (srv.default seed kind key spec)

/-- A binding with the label of a component. -/
def Labelled (name : Str) (key : NamespacedName) (s : Cluster) : Prop :=
  ∃ obj, s.get .componentPluginBinding key = some obj ∧
    labelOf obj kalmComponent = some (Doc.text name)

/-- A requested binding is stored. -/
def BindingAsRequested (name : Str) (key : NamespacedName) (np : Doc) (s : Cluster) : Prop :=
  Labelled name key s ∧
    ∃ spec, np.field specField = some spec ∧ HasSpec srv .componentPluginBinding key spec s

/-- The bindings of a component in its namespace are the requested ones. -/
def BindingsAsRequested (ns name : Str) (plugins : List ComponentPluginBinding) (s : Cluster) : Prop :=
  (∀ n np, (newPlugins md5 name plugins).lookup n = some np →
    BindingAsRequested srv name (ns, n) np s) ∧
  ∀ n, (newPlugins md5 name plugins).lookup n = none → ¬ Labelled name (ns, n) s

/-- The endpoint of a component exists if and only if it is requested, as it is requested. -/
def EndpointAsRequested (ns name : Str) (s : Cluster) : Option Doc → Prop
  | none => s.get .protectedEndpoint (endpointKey ns name) = none
  | some spec => HasSpec srv .protectedEndpoint (endpointKey ns name) (componentEndpointSpec name spec) s

/-- The component, its endpoint and its bindings are as requested. -/
def AsRequested (req : ComponentRequest) (s : Cluster) : Prop :=
  ∃ component spec, req.body = some component ∧ component.componentSpec = some spec ∧
    HasSpec srv .component (req.key component) spec s ∧
    EndpointAsRequested srv req.applicationName (req.componentName component) s
      component.protectedEndpointSpec ∧
    BindingsAsRequested srv md5 req.applicationName (req.componentName component) component.plugins s

/-- **A save is complete and repeatable**: no run of it crashes; a run that succeeds leaves everything
    as requested; after a run that fails, every run of the same request in which no call fails
    succeeds and leaves everything as requested. -/
def Saves (op : SaveOp) (req : ComponentRequest) (s : Cluster) : Prop :=
  Repeatable (fun x : Chance => srv.answer x.seed) .unavailable
    (fun x => saveComponent md5 srv.getFillsKind x req op) (AsRequested srv md5 req) s

/-! ## 2. The states a save can be repeated from -/

/-- Admission accepts the spec over what is stored, and again over what it makes of the spec. -/
structure Settled (kind : Kind) (key : NamespacedName) (spec : Doc) (old : Option Doc) : Prop where
  first : ∀ seed, srv.accepts kind key old (srv.default seed kind key spec) = true
  again : ∀ seed seed', srv.accepts kind key (some (srv.default seed kind key spec))
    (srv.default seed' kind key spec) = true

/-- The bindings of a component can be made the requested ones. -/
structure BindingsSavable (ns name : Str) (plugins : List ComponentPluginBinding) (s : Cluster) :
    Prop where
  own : ∀ ns' n, Labelled name (ns', n) s → (newPlugins md5 name plugins).lookup n = none → ns' = ns
  requested : ∀ n np, (newPlugins md5 name plugins).lookup n = some np →
    BindingAsRequested srv name (ns, n) np s ∨
      ((∀ ns', ¬ Labelled name (ns', n) s) ∧ s.get .componentPluginBinding (ns, n) = none ∧
        ∀ seed, (srv.admits seed .componentPluginBinding (ns, n) none np).isSome)

/-- The endpoint of a component can be made the requested one. -/
def EndpointSavable (ns name : Str) (s : Cluster) : Option Doc → Prop
  | none => True
  | some spec => srv.getFillsKind = true ∧
    Settled srv .protectedEndpoint (endpointKey ns name) (componentEndpointSpec name spec)
      (s.specAt .protectedEndpoint (endpointKey ns name))

/-- A component can be saved. -/
structure Savable (req : ComponentRequest) (component : ResourcesComponent) (spec : Doc)
    (s : Cluster) : Prop where
  stored : (s.get .component (req.key component)).isSome
  settled : Settled srv .component (req.key component) spec (s.specAt .component (req.key component))
  endpoint : EndpointSavable srv req.applicationName (req.componentName component) s
    component.protectedEndpointSpec
  label : isValidLabelValue (req.componentName component) = true
  bindings : BindingsSavable srv md5 req.applicationName (req.componentName component)
    component.plugins s

end Defs

variable {srv : ApiServer} {md5 : ComponentPluginBindingSpec → List UInt8}
  {ns name : Str} {plugins : List ComponentPluginBinding} {s s' : Cluster}

theorem Settled.of_default {kind : Kind} {key : NamespacedName} {spec : Doc} {old : Option Doc}
    (h : Settled srv kind key spec old) (seed : Seed) :
    Settled srv kind key spec (some (srv.default seed kind key spec)) :=
  ⟨h.again seed, h.again⟩

theorem HasSpec.congr {kind : Kind} {key : NamespacedName} {spec : Doc}
    (h : s'.objects kind = s.objects kind) :
    HasSpec srv kind key spec s' ↔ HasSpec srv kind key spec s := by
  rw [HasSpec, Cluster.specAt, Cluster.get_congr h, HasSpec, Cluster.specAt]

theorem Labelled.congr {key : NamespacedName}
    (h : s'.get .componentPluginBinding key = s.get .componentPluginBinding key) :
    Labelled name key s' ↔ Labelled name key s := by
  rw [Labelled, h, Labelled]

theorem BindingAsRequested.congr {key : NamespacedName} {np : Doc}
    (h : s'.get .componentPluginBinding key = s.get .componentPluginBinding key) :
    BindingAsRequested srv name key np s' ↔ BindingAsRequested srv name key np s := by
  rw [BindingAsRequested, BindingAsRequested, Labelled.congr h]
  simp only [HasSpec, Cluster.specAt, h]

/-! ## 3. A requested binding -/

theorem labelOf_labelledDoc (name : Str) :
    labelOf (labelledDoc name) kalmComponent = some (Doc.text name) := by
  simp only [labelOf, labelledDoc, Json.field_setField, Function.update_self, Option.bind_some]

/-- Every entry of a table of new plugins is the binding of a plugin. -/
theorem lookup_foldl (plugins : List ComponentPluginBinding) (table : Mirror.Table Str Doc)
    (htable : ∀ n np, table.lookup n = some np → ∃ spec, np = setSpec spec (labelledDoc name))
    (n : Str) (np : Doc)
    (h : (plugins.foldl (fun table plugin =>
      table.insert ((bindingSpec name plugin).getName md5)
        (setSpec (bindingSpec name plugin).doc (labelledDoc name))) table).lookup n = some np) :
    ∃ spec, np = setSpec spec (labelledDoc name) := by
  induction plugins generalizing table with
  | nil => exact htable n np h
  | cons plugin plugins ih =>
      refine ih _ (fun m mp hm => ?_) h
      by_cases he : m = (bindingSpec name plugin).getName md5
      · rw [he, AList.lookup_insert] at hm
        exact ⟨_, (Option.some.inj hm).symm⟩
      · rw [AList.lookup_insert_ne he] at hm
        exact htable m mp hm

/-- What is requested under a name. -/
theorem lookup_newPlugins {n : Str} {np : Doc}
    (h : (newPlugins md5 name plugins).lookup n = some np) :
    ∃ spec, np = setSpec spec (labelledDoc name) :=
  lookup_foldl plugins ∅ (fun _ _ h => nomatch h) n np h

/-- What admission makes of a requested binding. -/
theorem admit_newPlugin {seed : Seed} {n : Str} {np stored : Doc} {key : NamespacedName}
    {old : Option Doc} (h : (newPlugins md5 name plugins).lookup n = some np)
    (ha : srv.admits seed .componentPluginBinding key old np = some stored) :
    labelOf stored kalmComponent = some (Doc.text name) ∧
      ∃ spec, np.field specField = some spec ∧
        stored.field specField = some (srv.default seed .componentPluginBinding key spec) := by
  obtain ⟨spec, rfl⟩ := lookup_newPlugins h
  rw [admit_setSpec] at ha
  split at ha
  · cases ha
    refine ⟨?_, spec, field_setSpec .., field_setSpec ..⟩
    rw [labelOf_setSpec, labelOf_setSpec, labelOf_labelledDoc]
  · cases ha

theorem bindingAsRequested_of_admits {seed : Seed} {n : Str} {np stored : Doc} {key : NamespacedName}
    (h : (newPlugins md5 name plugins).lookup n = some np)
    (ha : srv.admits seed .componentPluginBinding key none np = some stored)
    (hs : s.get .componentPluginBinding key = some stored) :
    BindingAsRequested srv name key np s := by
  obtain ⟨hlabel, spec, hnp, hstored⟩ := admit_newPlugin h ha
  refine ⟨⟨stored, hs, hlabel⟩, spec, hnp, seed, ?_⟩
  rw [Cluster.specAt, hs, Option.bind_some, hstored]

/-! ## 4. Every run keeps a savable state -/

/-- What depends on a kind that is not written is kept. -/
theorem keeps_of_objects {α : Type} {seed : Seed} {p : Request α} {k : Kind} {I : Cluster → Prop}
    (hI : ∀ s s' : Cluster, s'.objects k = s.objects k → I s → I s')
    (hp : Uses (fun c => c.writes ≠ some k) p) : Keeps (srv.answer seed) .unavailable I p :=
  fun _ hs => (holds_objects hp).mono fun _ s' hobj => hI _ s' hobj hs

/-- An Apply keeps what can be settled settled, and what is stored stored. -/
theorem keeps_apply {seed : Seed} {hasKind : Bool} {kind : Kind} {key : NamespacedName} {spec : Doc} :
    Keeps (srv.answer seed) .unavailable
      (fun s => (s.get kind key).isSome ∧ Settled srv kind key spec (s.specAt kind key))
      (apply hasKind kind key spec) := by
  intro s hs
  refine (holds_apply hasKind).mono fun _ s' h => ?_
  rcases h with rfl | hset
  · exact hs
  · refine ⟨?_, hset.specAt ▸ hs.2.of_default seed⟩
    obtain ⟨_, _, _, rfl⟩ := hset
    rw [Cluster.get_store_self]
    rfl

/-- A `Create` keeps what can be settled. -/
theorem settled_create {seed : Seed} {kind : Kind} {key : NamespacedName} {spec obj : Doc}
    (h : Settled srv kind key spec (s.specAt kind key)) :
    Settled srv kind key spec
      ((srv.answer seed (.create kind key (setSpec spec obj)) s).2.specAt kind key) := by
  rw [ApiServer.answer]
  cases ha : srv.admits seed kind key none (setSpec spec obj) with
  | none => exact h
  | some stored =>
      simp only
      split
      · exact h
      · exact specAt_created ha ▸ h.of_default seed

theorem keeps_endpoint {seed : Seed} {spec : Option Doc} :
    Keeps (srv.answer seed) .unavailable (fun s => EndpointSavable srv ns name s spec)
      (updateProtectedEndpointForComponent srv.getFillsKind ns name spec) := by
  cases spec with
  | none => exact fun s _ _ => trivial
  | some spec =>
      refine Calls.keeps_call (fun s hs => ?_) fun r => ?_
      · rw [getObject_answer]
        exact hs
      · rcases r with e | obj
        · cases e with
          | notFound =>
              show Keeps _ _ _ (createObject _ _ _ >>= fun _ => (pure () : Request Unit))
              refine Calls.keeps_bind (Calls.keeps_call (fun s hs => ?_) fun r => ?_) fun _ =>
                Calls.keeps_done ()
              · exact ⟨hs.1, settled_create hs.2⟩
              · cases r
                · exact Calls.keeps_fail _
                · exact Calls.keeps_done _
          | _ => exact Calls.keeps_fail _
        · intro s hs
          refine (holds_apply srv.getFillsKind).mono fun _ s' h => ?_
          rcases h with rfl | hset
          · exact hs
          · refine ⟨hs.1, ?_⟩
            rw [endpointKey, hset.specAt]
            exact hs.2.of_default seed

/-- A `Create` of a requested binding keeps the bindings savable. -/
theorem bindingsSavable_create {seed : Seed} {n : Str} {np : Doc}
    (hn : (newPlugins md5 name plugins).lookup n = some np)
    (h : BindingsSavable srv md5 ns name plugins s) :
    BindingsSavable srv md5 ns name plugins
      (srv.answer seed (.create .componentPluginBinding (ns, n) np) s).2 := by
  have hget : ∀ key : NamespacedName,
      (srv.answer seed (.create .componentPluginBinding (ns, n) np) s).2.get .componentPluginBinding key =
        if key = (ns, n) then
          (s.get .componentPluginBinding key).or (srv.admits seed .componentPluginBinding (ns, n) none np)
        else s.get .componentPluginBinding key :=
    get_answer_create
  have hother : ∀ ns' m, m ≠ n → (srv.answer seed (.create .componentPluginBinding (ns, n) np) s).2.get
      .componentPluginBinding (ns', m) = s.get .componentPluginBinding (ns', m) := by
    intro ns' m hm
    rw [hget, if_neg fun e => hm (Prod.mk.inj e).2]
  refine ⟨fun ns' m hlabel hm => ?_, fun m mp hm => ?_⟩
  · have hne : m ≠ n := by
      rintro rfl
      rw [hn] at hm
      cases hm
    exact h.own ns' m ((Labelled.congr (hother ns' m hne)).mp hlabel) hm
  · by_cases he : m = n
    · subst he
      obtain rfl : np = mp := Option.some.inj (hn.symm.trans hm)
      rcases h.requested m np hn with hdone | ⟨hfree, hnone, hadmits⟩
      · left
        obtain ⟨obj, hobj, _⟩ := hdone.1
        refine (BindingAsRequested.congr ?_).mpr hdone
        rw [hget, if_pos rfl, hobj, Option.some_or]
      · left
        obtain ⟨stored, ha⟩ := Option.isSome_iff_exists.mp (hadmits seed)
        refine bindingAsRequested_of_admits hn ha ?_
        rw [hget, if_pos rfl, hnone, Option.none_or, ha]
    · rcases h.requested m mp hm with hdone | ⟨hfree, hnone, hadmits⟩
      · exact Or.inl ((BindingAsRequested.congr (hother ns m he)).mpr hdone)
      · refine Or.inr ⟨fun ns' hl => hfree ns' ((Labelled.congr (hother ns' m he)).mp hl), ?_, hadmits⟩
        rw [hother ns m he, hnone]

/-- A `Delete` of a binding that is not requested keeps the bindings savable. -/
theorem bindingsSavable_delete {seed : Seed} {n : Str}
    (hn : (newPlugins md5 name plugins).lookup n = none)
    (h : BindingsSavable srv md5 ns name plugins s) :
    BindingsSavable srv md5 ns name plugins
      (srv.answer seed (.delete .componentPluginBinding (ns, n)) s).2 := by
  rw [ApiServer.answer]
  split
  · have hother : ∀ ns' m, (ns', m) ≠ (ns, n) →
        (s.remove .componentPluginBinding (ns, n)).get .componentPluginBinding (ns', m) =
          s.get .componentPluginBinding (ns', m) := fun ns' m => Cluster.get_remove_of_ne
    refine ⟨fun ns' m hlabel hm => ?_, fun m mp hm => ?_⟩
    · have hne : (ns', m) ≠ (ns, n) := by
        intro e
        obtain ⟨obj, hobj, _⟩ := hlabel
        rw [e, Cluster.get_remove_self] at hobj
        cases hobj
      exact h.own ns' m ((Labelled.congr (hother ns' m hne)).mp hlabel) hm
    · have hne : ∀ ns', (ns', m) ≠ (ns, n) := by
        intro ns' e
        rw [(Prod.mk.inj e).2, hn] at hm
        cases hm
      rcases h.requested m mp hm with hdone | ⟨hfree, hnone, hadmits⟩
      · exact Or.inl ((BindingAsRequested.congr (hother ns m (hne ns))).mpr hdone)
      · refine Or.inr ⟨fun ns' hl => hfree ns' ((Labelled.congr (hother ns' m (hne ns'))).mp hl), ?_,
          hadmits⟩
        rw [hother ns m (hne ns), hnone]
  · exact h

theorem keeps_createBindings {seed : Seed} {l : List (Str × Doc)}
    (hl : ∀ e ∈ l, (newPlugins md5 name plugins).lookup e.1 = some e.2) :
    Keeps (srv.answer seed) .unavailable (BindingsSavable srv md5 ns name plugins)
      (createBindings ns l) := by
  induction l with
  | nil => exact Calls.keeps_done ()
  | cons e l ih =>
      obtain ⟨he, hl⟩ := List.forall_mem_cons.mp hl
      refine Calls.keeps_call (fun s hs => bindingsSavable_create he hs) fun r => ?_
      rcases r with e | _
      · cases e with
        | alreadyExists => exact ih hl
        | _ => exact Calls.keeps_fail _
      · exact ih hl

theorem keeps_deleteBindings {seed : Seed} {l : List Str}
    (hl : ∀ n ∈ l, (newPlugins md5 name plugins).lookup n = none) :
    Keeps (srv.answer seed) .unavailable (BindingsSavable srv md5 ns name plugins)
      (deleteBindings ns l) := by
  induction l with
  | nil => exact Calls.keeps_done ()
  | cons n l ih =>
      obtain ⟨hn, hl⟩ := List.forall_mem_cons.mp hl
      refine Calls.keeps_bind (Calls.keeps_call (fun s hs => bindingsSavable_delete hn hs) fun r => ?_)
        fun _ => ih hl
      cases r
      · exact Calls.keeps_fail _
      · exact Calls.keeps_done _

theorem keeps_bindings {x : Chance} :
    Keeps (srv.answer x.seed) .unavailable (BindingsSavable srv md5 ns name plugins)
      (updateComponentPluginBindingsForObject md5 x ns name plugins) := by
  unfold updateComponentPluginBindingsForObject
  split
  · refine Calls.keeps_bind (Calls.keeps_call (fun s hs => hs) fun r => ?_) fun old =>
      Calls.keeps_bind (keeps_createBindings fun e he => ?_) fun _ =>
        keeps_deleteBindings fun n hn => ?_
    · cases r
      · exact Calls.keeps_fail _
      · exact Calls.keeps_done _
    · exact (mem_shouldCreate.mp ((x.createOrder_perm _).mem_iff.mp he)).1
    · exact (mem_shouldDelete.mp ((x.deleteOrder_perm _).mem_iff.mp hn)).2
  · exact Calls.keeps_crash

/-! ### The parts of a savable state -/

theorem EndpointSavable.congr {spec : Option Doc}
    (h : s'.objects .protectedEndpoint = s.objects .protectedEndpoint)
    (hs : EndpointSavable srv ns name s spec) : EndpointSavable srv ns name s' spec := by
  cases spec with
  | none => trivial
  | some spec =>
      refine ⟨hs.1, ?_⟩
      rw [Cluster.specAt, Cluster.get_congr h]
      exact hs.2

theorem BindingsSavable.congr
    (h : s'.objects .componentPluginBinding = s.objects .componentPluginBinding)
    (hs : BindingsSavable srv md5 ns name plugins s) : BindingsSavable srv md5 ns name plugins s' := by
  have hget := Cluster.get_congr h
  refine ⟨fun ns' n hl hn => hs.own ns' n ((Labelled.congr (hget _)).mp hl) hn, fun n np hn => ?_⟩
  rcases hs.requested n np hn with hdone | ⟨hfree, hnone, hadmits⟩
  · exact Or.inl ((BindingAsRequested.congr (hget _)).mpr hdone)
  · exact Or.inr ⟨fun ns' hl => hfree ns' ((Labelled.congr (hget _)).mp hl), (hget _).trans hnone, hadmits⟩

section Request

variable {req : ComponentRequest} {component : ResourcesComponent} {spec : Doc}

theorem Savable.congr_component (h : s'.objects .component = s.objects .component)
    (hs : (s.get .component (req.key component)).isSome ∧
      Settled srv .component (req.key component) spec (s.specAt .component (req.key component))) :
    (s'.get .component (req.key component)).isSome ∧
      Settled srv .component (req.key component) spec
        (s'.specAt .component (req.key component)) := by
  rw [Cluster.specAt, Cluster.get_congr h]
  exact hs

/-- **A part of an update that keeps the state savable in what it writes keeps it savable.** -/
theorem keeps_savable {α : Type} {seed : Seed} {p : Request α} {k : Kind}
    (hp : Uses (fun c => c.writes = none ∨ c.writes = some k) p)
    (hcomponent : k = .component → Keeps (srv.answer seed) .unavailable
      (fun s => (s.get .component (req.key component)).isSome ∧
        Settled srv .component (req.key component) spec (s.specAt .component (req.key component))) p)
    (hendpoint : k = .protectedEndpoint → Keeps (srv.answer seed) .unavailable
      (fun s => EndpointSavable srv req.applicationName (req.componentName component) s
        component.protectedEndpointSpec) p)
    (hbindings : k = .componentPluginBinding → Keeps (srv.answer seed) .unavailable
      (BindingsSavable srv md5 req.applicationName (req.componentName component) component.plugins) p) :
    Keeps (srv.answer seed) .unavailable (Savable srv md5 req component spec) p := by
  have huses : ∀ k', k ≠ k' → Uses (fun c => c.writes ≠ some k') p := by
    refine fun k' hk => hp.mono fun c hc hw => ?_
    rcases hc with h | h
    · rw [hw] at h
      cases h
    · exact hk (Option.some.inj (h.symm.trans hw))
  have hc : Keeps (srv.answer seed) .unavailable
      (fun s => (s.get .component (req.key component)).isSome ∧
        Settled srv .component (req.key component) spec
          (s.specAt .component (req.key component))) p := by
    by_cases hk : k = .component
    · exact hcomponent hk
    · exact keeps_of_objects (fun _ _ h => Savable.congr_component h) (huses _ hk)
  have he : Keeps (srv.answer seed) .unavailable
      (fun s => EndpointSavable srv req.applicationName (req.componentName component) s
        component.protectedEndpointSpec) p := by
    by_cases hk : k = .protectedEndpoint
    · exact hendpoint hk
    · exact keeps_of_objects (fun _ _ h => EndpointSavable.congr h) (huses _ hk)
  have hb : Keeps (srv.answer seed) .unavailable
      (BindingsSavable srv md5 req.applicationName (req.componentName component)
        component.plugins) p := by
    by_cases hk : k = .componentPluginBinding
    · exact hbindings hk
    · exact keeps_of_objects (fun _ _ h => BindingsSavable.congr h) (huses _ hk)
  intro s hs
  refine (((hc s ⟨hs.stored, hs.settled⟩).and (he s hs.endpoint)).and (hb s hs.bindings)).mono ?_
  exact fun _ s' h => ⟨h.1.1.1, h.1.1.2, h.1.2, hs.label, h.2⟩

/-- An update of an entitled client with a body and a spec. -/
theorem updateComponent_eq {getFillsKind : Bool} (x : Chance) (hbody : req.body = some component)
    (hspec : component.componentSpec = some spec)
    (hcan : canEditNamespace req.policies req.client req.applicationName = some true) :
    saveComponent md5 getFillsKind x req .update =
      (apply true .component (req.key component) spec >>= fun _ =>
        (updateProtectedEndpointForComponent getFillsKind req.applicationName
            (req.componentName component) component.protectedEndpointSpec >>= fun _ =>
          updateComponentPluginBindingsForObject md5 x req.applicationName
            (req.componentName component) component.plugins) >>= fun _ =>
        pure (setSpec spec emptyDoc)) := by
  simp only [saveComponent, updateComponent, getResourcesComponentFromContext, hbody, getCrdComponent,
    hspec, requireNamespaceEditor, hcan, Action.pure_eq, Action.done_bind]
  rfl

/-- **Every run of an update keeps the state savable.** -/
theorem keeps_update {getFillsKind : Bool} (hkind : srv.getFillsKind = getFillsKind) (x : Chance)
    (hbody : req.body = some component) (hspec : component.componentSpec = some spec)
    (hcan : canEditNamespace req.policies req.client req.applicationName = some true) :
    Keeps (srv.answer x.seed) .unavailable (Savable srv md5 req component spec)
      (saveComponent md5 getFillsKind x req .update) := by
  subst hkind
  rw [updateComponent_eq x hbody hspec hcan]
  refine Calls.keeps_bind ?_ fun _ => Calls.keeps_bind (Calls.keeps_bind ?_ fun _ => ?_) fun _ =>
    Calls.keeps_done _
  · exact keeps_savable (uses_apply ..) (fun _ => keeps_apply) nofun nofun
  · exact keeps_savable (uses_endpoint ..) nofun (fun _ => keeps_endpoint) nofun
  · exact keeps_savable (uses_bindings ..) nofun nofun fun _ => keeps_bindings

/-! ## 5. An update succeeds from a savable state -/

/-- The endpoint can be updated. -/
theorem exists_endpointStep {seed : Seed} {spec : Option Doc}
    (h : EndpointSavable srv ns name s spec) : ∃ s', EndpointStep srv seed ns name s spec s' := by
  cases spec with
  | none =>
      cases hg : s.get .protectedEndpoint (endpointKey ns name) with
      | none => exact ⟨s, .absent hg⟩
      | some obj => exact ⟨_, .deleted (hg ▸ rfl)⟩
  | some spec =>
      have hover := h.2.first seed
      cases hg : s.get .protectedEndpoint (endpointKey ns name) with
      | none =>
          rw [Cluster.specAt, hg, Option.bind_none] at hover
          exact ⟨_, .created hg ((admit_setSpec none _ _).trans (if_pos hover))⟩
      | some fetched => exact ⟨_, .applied h.1 ⟨fetched, hg, hover, rfl⟩⟩

theorem EndpointStep.asRequested {seed : Seed} {spec : Option Doc}
    (h : EndpointStep srv seed ns name s spec s') : EndpointAsRequested srv ns name s' spec := by
  cases spec with
  | none => exact h.gone
  | some spec => exact ⟨seed, h.specAt⟩

theorem EndpointAsRequested.congr {spec : Option Doc}
    (h : s'.objects .protectedEndpoint = s.objects .protectedEndpoint) :
    EndpointAsRequested srv ns name s' spec ↔ EndpointAsRequested srv ns name s spec := by
  cases spec with
  | none => rw [EndpointAsRequested, Cluster.get_congr h, EndpointAsRequested]
  | some spec => exact HasSpec.congr h

/-- **The update of savable bindings leaves the requested ones.** -/
theorem bindingsAsRequested_after {x : Chance} (h : BindingsSavable srv md5 ns name plugins s) :
    BindingsAsRequested srv md5 ns name plugins (bindingsAfter md5 x plugins srv ns name s) := by
  refine ⟨fun n np hn => ?_, fun n hn ⟨obj, hobj, hlabel⟩ => ?_⟩
  · have hafter : (bindingsAfter md5 x plugins srv ns name s).get .componentPluginBinding (ns, n) =
        if n ∈ oldPlugins s name then s.get .componentPluginBinding (ns, n)
        else (s.get .componentPluginBinding (ns, n)).or
          (srv.admits x.seed .componentPluginBinding (ns, n) none np) :=
      get_bindingsAfter_of_some hn
    rcases h.requested n np hn with hdone | ⟨hfree, hnone, hadmits⟩
    · obtain ⟨obj, hobj, hlabel⟩ := hdone.1
      rw [if_pos (mem_oldPlugins.mpr ⟨ns, obj, hobj, hlabel⟩)] at hafter
      exact (BindingAsRequested.congr hafter).mpr hdone
    · obtain ⟨stored, ha⟩ := Option.isSome_iff_exists.mp (hadmits x.seed)
      have hold : n ∉ oldPlugins s name := fun hmem => by
        obtain ⟨ns', hl⟩ := mem_oldPlugins.mp hmem
        exact hfree ns' hl
      rw [if_neg hold, hnone, Option.none_or, ha] at hafter
      exact bindingAsRequested_of_admits hn ha hafter
  · rw [get_bindingsAfter_of_none hn] at hobj
    split at hobj
    · cases hobj
    · rename_i hold
      exact hold (mem_oldPlugins.mpr ⟨ns, obj, hobj, hlabel⟩)

/-- An update in which no call fails, with the clusters behind the component and behind the
    endpoint. -/
structure UpdateRun (srv : ApiServer) (md5 : ComponentPluginBindingSpec → List UInt8) (x : Chance)
    (req : ComponentRequest) (component : ResourcesComponent) (spec : Doc) (s s₁ s₂ : Cluster) :
    Prop where
  settles : Settles srv x.seed .component (req.key component) spec s s₁
  endpoint : EndpointStep srv x.seed req.applicationName (req.componentName component) s₁
    component.protectedEndpointSpec s₂
  label : isValidLabelValue (req.componentName component) = true
  admitted : ∀ n np, (newPlugins md5 (req.componentName component) component.plugins).lookup n = some np →
    n ∉ oldPlugins s₂ (req.componentName component) →
    (srv.admits x.seed .componentPluginBinding (req.applicationName, n) none np).isSome
  listed : ∀ n ∈ oldPlugins s₂ (req.componentName component),
    (newPlugins md5 (req.componentName component) component.plugins).lookup n = none →
    (s₂.get .componentPluginBinding (req.applicationName, n)).isSome

/-- **An update in which no call fails.** -/
theorem returns_update {x : Chance} (hbody : req.body = some component)
    (hspec : component.componentSpec = some spec)
    (hcan : canEditNamespace req.policies req.client req.applicationName = some true)
    {Q : Doc → Cluster → Prop} :
    Returns (srv.answer x.seed) .unavailable (saveComponent md5 srv.getFillsKind x req .update) s Q ↔
      ∃ s₁ s₂, UpdateRun srv md5 x req component spec s s₁ s₂ ∧
        Q (setSpec spec emptyDoc) (bindingsAfter md5 x component.plugins srv req.applicationName
          (req.componentName component) s₂) := by
  rw [updateComponent_eq x hbody hspec hcan, Calls.returns_bind, returns_apply]
  simp only [Calls.returns_bind, returns_endpoint, returns_bindings, Action.pure_eq, Calls.returns_done]
  constructor
  · rintro ⟨-, s₁, hset, s₂, hstep, hlabel, hadmits, hlisted, hQ⟩
    exact ⟨s₁, s₂, ⟨hset, hstep, hlabel, hadmits, hlisted⟩, hQ⟩
  · rintro ⟨s₁, s₂, h, hQ⟩
    exact ⟨trivial, s₁, h.settles, s₂, h.endpoint, h.label, h.admitted, h.listed, hQ⟩

/-- The kinds that neither the component nor the endpoint is of are left alone. -/
theorem UpdateRun.bindings_objects {x : Chance} {s₁ s₂ : Cluster}
    (h : UpdateRun srv md5 x req component spec s s₁ s₂) :
    s₂.objects .componentPluginBinding = s.objects .componentPluginBinding :=
  (h.endpoint.objects (by decide)).trans (h.settles.objects (by decide))

/-- **From a savable state** an update in which no call fails has nothing to stop it. -/
theorem Savable.updateRun (h : Savable srv md5 req component spec s) (x : Chance) :
    ∃ s₁ s₂, UpdateRun srv md5 x req component spec s s₁ s₂ := by
  obtain ⟨fetched, hf⟩ := Option.isSome_iff_exists.mp h.stored
  have hset : Settles srv x.seed .component (req.key component) spec s _ :=
    ⟨fetched, hf, h.settled.first x.seed, rfl⟩
  obtain ⟨s₂, hstep⟩ : ∃ s₂, EndpointStep srv x.seed _ _ _ _ s₂ :=
    exists_endpointStep (h.endpoint.congr (hset.objects (by decide)))
  have hbindings := (h.bindings.congr (hset.objects (by decide))).congr (hstep.objects (by decide))
  refine ⟨_, s₂, hset, hstep, h.label, fun n np hn hold => ?_, fun n hold hn => ?_⟩
  · rcases hbindings.requested n np hn with ⟨⟨obj, hobj, hl⟩, _⟩ | ⟨_, _, hadmits⟩
    · exact absurd (mem_oldPlugins.mpr ⟨_, obj, hobj, hl⟩) hold
    · exact hadmits x.seed
  · obtain ⟨ns', obj, hobj, hl⟩ := mem_oldPlugins.mp hold
    rw [← hbindings.own ns' n ⟨obj, hobj, hl⟩ hn, hobj]
    rfl

/-- **From a savable state an update in which no call fails succeeds.** -/
theorem resumes_of_savable (hbody : req.body = some component)
    (hspec : component.componentSpec = some spec)
    (hcan : canEditNamespace req.policies req.client req.applicationName = some true)
    (h : Savable srv md5 req component spec s) :
    Resumes (fun x : Chance => srv.answer x.seed) .unavailable
      (fun x => saveComponent md5 srv.getFillsKind x req .update) (AsRequested srv md5 req) s := by
  intro x
  obtain ⟨s₁, s₂, hrun⟩ := h.updateRun x
  refine (returns_update hbody hspec hcan).mpr ⟨s₁, s₂, hrun, ?_⟩
  refine ⟨component, spec, hbody, hspec, ?_, ?_,
    bindingsAsRequested_after (h.bindings.congr hrun.bindings_objects)⟩
  · rw [HasSpec.congr (bindingsAfter_objects (by decide)),
      HasSpec.congr (hrun.endpoint.objects (by decide))]
    exact ⟨x.seed, hrun.settles.specAt⟩
  · rw [EndpointAsRequested.congr (bindingsAfter_objects (by decide))]
    exact hrun.endpoint.asRequested

/-- **An update saves from a savable state.** -/
theorem saves_of_savable (hbody : req.body = some component)
    (hspec : component.componentSpec = some spec)
    (hcan : canEditNamespace req.policies req.client req.applicationName = some true)
    (h : Savable srv md5 req component spec s) : Saves srv md5 .update req s :=
  Calls.repeatable_of_keeps (fun x => strict_saveComponent md5 srv.getFillsKind x req .update)
    (fun x => keeps_update rfl x hbody hspec hcan)
    (fun _ hs => resumes_of_savable hbody hspec hcan hs) h

end Request

end Kalm
