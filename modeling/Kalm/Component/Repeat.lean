/-
  File:      Kalm/Component/Repeat.lean
  Subject:   WHICH SAVES CAN BE REPEATED. An update saves exactly from a savable state; a create never
             does, for a component that was created cannot be created again.

  * `savable_of_saves` -- each part of `Savable` is needed: the run that is stopped behind a part
    must be repeatable from what that part left;
  * `not_saves_create` -- stopped behind its `Create`, a create fails from then on;
  * `saves_iff` -- both.
-/
import Kalm.Component.Saves

namespace Kalm

open MergePatch (Json)
open Calls (Action Fault Holds Returns Repeatable Resumes Strict Refusable Begins)

variable {srv : ApiServer} {md5 : ComponentPluginBindingSpec → List UInt8} {req : ComponentRequest}
  {component : ResourcesComponent} {spec : Doc} {s : Cluster}

/-! ## 1. What an update needs -/

/-- The name comes first. -/
def putFirst (n : Str) (l : List Str) : List Str :=
  l.filter (fun m => m = n) ++ l.filter fun m => ¬ m = n

theorem putFirst_perm (n : Str) (l : List Str) : (putFirst n l).Perm l := by
  have hperm := List.filter_append_perm (fun m => decide (m = n)) l
  simpa only [putFirst, decide_not] using hperm

/-- What is in the list is the first. -/
theorem exists_putFirst {n : Str} {l : List Str} (h : n ∈ l) : ∃ rest, putFirst n l = n :: rest := by
  have hmem : n ∈ l.filter fun m => m = n := List.mem_filter.mpr ⟨h, decide_eq_true rfl⟩
  obtain ⟨m, rest, hl⟩ := List.exists_cons_of_ne_nil (List.ne_nil_of_mem hmem)
  have hm : m = n := by
    have hhead : m ∈ l.filter fun m => m = n := hl ▸ List.mem_cons_self
    exact of_decide_eq_true (List.mem_filter.mp hhead).2
  rw [putFirst, hl, hm]
  exact ⟨_, rfl⟩

theorem createOrder_same (l : List (Str × Doc)) : (id l).Perm l := List.Perm.refl l

/-- A chance with this seed that deletes the binding first. -/
def firstChance (seed : Seed) (n : Str) : Chance where
  seed := seed
  createOrder := id
  createOrder_perm := createOrder_same
  deleteOrder := putFirst n
  deleteOrder_perm := putFirst_perm n

/-- The update of the bindings begins with a call. -/
theorem refusable_bindings {x : Chance} {ns name : Str} {plugins : List ComponentPluginBinding}
    (hlabel : isValidLabelValue name = true) : Refusable ApiError.unavailable
      (updateComponentPluginBindingsForObject md5 x ns name plugins) := by
  rw [updateComponentPluginBindingsForObject, if_pos hlabel]
  exact Calls.refusable_bind (Calls.refusable_invoke _)

section Update

variable (hbody : req.body = some component) (hspec : component.componentSpec = some spec)
  (hcan : canEditNamespace req.policies req.client req.applicationName = some true)

include hbody hspec hcan

theorem refusable_update {getFillsKind : Bool} (x : Chance) :
    Refusable ApiError.unavailable (saveComponent md5 getFillsKind x req .update) := by
  rw [updateComponent_eq x hbody hspec hcan]
  exact Calls.refusable_bind (refusable_apply ..)

/-- From where a save can be repeated every update without faults runs through. -/
theorem exists_updateRun
    (h : Resumes (fun x : Chance => srv.answer x.seed) .unavailable
      (fun x => saveComponent md5 srv.getFillsKind x req .update) (AsRequested srv md5 req) s)
    (x : Chance) : ∃ s₁ s₂, UpdateRun srv md5 x req component spec s s₁ s₂ ∧
      AsRequested srv md5 req (bindingsAfter md5 x component.plugins srv req.applicationName
        (req.componentName component) s₂) :=
  (returns_update hbody hspec hcan).mp (h x)

/-- **The component.** Stopped behind it, a save must be repeatable. -/
theorem settled_of_repeatable (h : Saves srv md5 .update req s) :
    Settled srv .component (req.key component) spec (s.specAt .component (req.key component)) := by
  have hs := h.resumes (refusable_update hbody hspec hcan plainChance)
  refine ⟨fun seed => ?_, fun seed seed' => ?_⟩
  · obtain ⟨s₁, s₂, hrun, _⟩ := exists_updateRun hbody hspec hcan hs (firstChance seed [])
    obtain ⟨_, _, hok, _⟩ := hrun.settles
    exact hok
  · obtain ⟨s₁, s₂, hrun, _⟩ := exists_updateRun hbody hspec hcan hs (firstChance seed [])
    obtain ⟨_, s', hset, hs'⟩ := h.resumes_after (x := firstChance seed [])
      (R := fun _ s' => Settles srv seed .component (req.key component) spec s s')
      (updateComponent_eq _ hbody hspec hcan)
      (returns_apply.mpr ⟨rfl, s₁, hrun.settles, hrun.settles⟩)
      fun _ => Calls.refusable_bind (Calls.refusable_bind (refusable_endpoint ..))
    obtain ⟨s₁', s₂', hrun', _⟩ := exists_updateRun hbody hspec hcan hs' (firstChance seed' [])
    obtain ⟨_, _, hok, _⟩ := hrun'.settles
    rwa [hset.specAt] at hok

/-- The component and the endpoint, then the bindings. -/
theorem update_eq_endpoint {getFillsKind : Bool} (x : Chance) :
    saveComponent md5 getFillsKind x req .update =
      (apply true .component (req.key component) spec >>= fun _ =>
        updateProtectedEndpointForComponent getFillsKind req.applicationName
          (req.componentName component) component.protectedEndpointSpec) >>= fun _ =>
      updateComponentPluginBindingsForObject md5 x req.applicationName
          (req.componentName component) component.plugins >>= fun _ =>
        pure (setSpec spec emptyDoc) := by
  rw [updateComponent_eq x hbody hspec hcan]
  simp only [Action.bind_assoc]

/-- **The endpoint.** Stopped behind it, a save must be repeatable. -/
theorem endpointSavable_of_repeatable (h : Saves srv md5 .update req s) :
    EndpointSavable srv req.applicationName (req.componentName component) s
      component.protectedEndpointSpec := by
  have hs := h.resumes (refusable_update hbody hspec hcan plainChance)
  cases he : component.protectedEndpointSpec with
  | none => trivial
  | some endpoint =>
      -- a run stopped behind the endpoint it wrote with one seed, then a run with another
      have hagain : ∀ seed seed', srv.getFillsKind = true ∧
          srv.accepts .protectedEndpoint (endpointKey req.applicationName (req.componentName component))
            (some (srv.default seed .protectedEndpoint
              (endpointKey req.applicationName (req.componentName component))
              (componentEndpointSpec (req.componentName component) endpoint)))
            (srv.default seed' .protectedEndpoint
              (endpointKey req.applicationName (req.componentName component))
              (componentEndpointSpec (req.componentName component) endpoint)) = true := by
        intro seed seed'
        obtain ⟨s₁, s₂, hrun, _⟩ := exists_updateRun hbody hspec hcan hs (firstChance seed [])
        have hstep := hrun.endpoint
        rw [he] at hstep
        obtain ⟨_, s', hspec', hs'⟩ := h.resumes_after (x := firstChance seed [])
          (R := fun _ s' => s'.specAt .protectedEndpoint
            (endpointKey req.applicationName (req.componentName component)) =
              some (srv.default seed .protectedEndpoint
                (endpointKey req.applicationName (req.componentName component))
                (componentEndpointSpec (req.componentName component) endpoint)))
          (update_eq_endpoint hbody hspec hcan _)
          (Calls.returns_bind.mpr (returns_apply.mpr ⟨rfl, s₁, hrun.settles,
            returns_endpoint.mpr ⟨s₂, hrun.endpoint, hstep.specAt⟩⟩))
          fun _ => Calls.refusable_bind (refusable_bindings hrun.label)
        obtain ⟨s₁', s₂', hrun', _⟩ := exists_updateRun hbody hspec hcan hs' (firstChance seed' [])
        have hstep' := hrun'.endpoint
        rw [he] at hstep'
        have hget := hrun'.settles.objects (k := .protectedEndpoint) (by decide)
        rw [← (show s₁'.specAt _ _ = s'.specAt _ _ by
          rw [Cluster.specAt, Cluster.get_congr hget, Cluster.specAt])] at hspec'
        have haccepted := hstep'.accepted
        rw [hspec'] at haccepted
        refine ⟨?_, haccepted⟩
        cases hstep' with
        | created hn _ => rw [Cluster.specAt, hn] at hspec'; cases hspec'
        | applied hkind _ => exact hkind
      refine ⟨(hagain 0 0).1, fun seed => ?_, fun seed seed' => (hagain seed seed').2⟩
      obtain ⟨s₁, s₂, hrun, _⟩ := exists_updateRun hbody hspec hcan hs (firstChance seed [])
      have hstep := hrun.endpoint
      rw [he] at hstep
      have hget := hrun.settles.objects (k := .protectedEndpoint) (by decide)
      have haccepted := hstep.accepted
      rwa [Cluster.specAt, Cluster.get_congr hget] at haccepted

/-- **The requested bindings.** A listed name is left as it is, another name must be free. -/
theorem bindings_requested (hs : Resumes (fun x : Chance => srv.answer x.seed) .unavailable
      (fun x => saveComponent md5 srv.getFillsKind x req .update) (AsRequested srv md5 req) s)
    {n : Str} {np : Doc}
    (hn : (newPlugins md5 (req.componentName component) component.plugins).lookup n = some np) :
    BindingAsRequested srv (req.componentName component) (req.applicationName, n) np s ∨
      ((∀ ns', ¬ Labelled (req.componentName component) (ns', n) s) ∧
        s.get .componentPluginBinding (req.applicationName, n) = none ∧
        ∀ seed, (srv.admits seed .componentPluginBinding (req.applicationName, n) none np).isSome) := by
  -- what every run leaves under the name
  have hafter : ∀ seed, ∃ s₂ s', s₂.objects .componentPluginBinding = s.objects .componentPluginBinding ∧
      BindingAsRequested srv (req.componentName component) (req.applicationName, n) np s' ∧
      (n ∉ oldPlugins s₂ (req.componentName component) →
        (srv.admits seed .componentPluginBinding (req.applicationName, n) none np).isSome) ∧
      s'.get .componentPluginBinding (req.applicationName, n) =
        if n ∈ oldPlugins s₂ (req.componentName component) then
          s₂.get .componentPluginBinding (req.applicationName, n)
        else (s₂.get .componentPluginBinding (req.applicationName, n)).or
          (srv.admits seed .componentPluginBinding (req.applicationName, n) none np) := by
    intro seed
    obtain ⟨s₁, s₂, hrun, component', _, hbody', _, _, _, hbindings⟩ :=
      exists_updateRun hbody hspec hcan hs (firstChance seed [])
    obtain rfl := Option.some.inj (hbody.symm.trans hbody')
    exact ⟨s₂, _, hrun.bindings_objects, hbindings.1 n np hn, hrun.admitted n np hn,
      get_bindingsAfter_of_some hn⟩
  by_cases hold : n ∈ oldPlugins s (req.componentName component)
  · left
    obtain ⟨s₂, s', hobj, hdone, _, hget⟩ := hafter 0
    rw [oldPlugins_congr hobj, if_pos hold, Cluster.get_congr hobj] at hget
    exact (BindingAsRequested.congr hget).mp hdone
  · right
    have hfree : ∀ ns', ¬ Labelled (req.componentName component) (ns', n) s :=
      fun ns' hl => hold (mem_oldPlugins.mpr ⟨ns', hl⟩)
    refine ⟨hfree, ?_, fun seed => ?_⟩
    · obtain ⟨s₂, s', hobj, hdone, _, hget⟩ := hafter 0
      rw [oldPlugins_congr hobj, if_neg hold, Cluster.get_congr hobj] at hget
      cases hnone : s.get .componentPluginBinding (req.applicationName, n) with
      | none => rfl
      | some obj =>
          rw [hnone, Option.some_or, ← hnone] at hget
          exact absurd ((Labelled.congr hget).mp hdone.1) (hfree req.applicationName)
    · obtain ⟨s₂, s', hobj, _, hadmits, _⟩ := hafter seed
      exact hadmits fun h => hold (oldPlugins_congr hobj _ ▸ h)

/-- What an update does before it deletes bindings; it returns the names it listed. -/
def updateUntilDelete (md5 : ComponentPluginBindingSpec → List UInt8) (getFillsKind : Bool) (x : Chance)
    (req : ComponentRequest) (component : ResourcesComponent) (spec : Doc) : Request (List Str) := do
  apply true .component (req.key component) spec
  updateProtectedEndpointForComponent getFillsKind req.applicationName (req.componentName component)
    component.protectedEndpointSpec
  let oldPluginList ←
    Action.invoke (ApiCall.list .componentPluginBinding kalmComponent (req.componentName component))
  let old := oldPluginList.map fun e => e.1.2
  createBindings req.applicationName
    (x.createOrder (shouldCreate (newPlugins md5 (req.componentName component) component.plugins) old))
  pure old

omit hbody hspec hcan in
/-- It returns where the whole update does, with the requested bindings created. -/
theorem returns_updateUntilDelete {x : Chance} {s₁ s₂ : Cluster}
    (hrun : UpdateRun srv md5 x req component spec s s₁ s₂) :
    Returns (srv.answer x.seed) .unavailable
      (updateUntilDelete md5 srv.getFillsKind x req component spec) s fun old s' =>
        old = oldPlugins s₂ (req.componentName component) ∧
        s' = created srv x.seed req.applicationName (x.createOrder (shouldCreate
          (newPlugins md5 (req.componentName component) component.plugins)
          (oldPlugins s₂ (req.componentName component)))) s₂ := by
  refine Calls.returns_bind.mpr (returns_apply.mpr ⟨rfl, s₁, hrun.settles, ?_⟩)
  refine Calls.returns_bind.mpr (returns_endpoint.mpr ⟨s₂, hrun.endpoint, ?_⟩)
  rw [Calls.returns_bind, Action.invoke, Calls.returns_call, ApiServer.answer, Calls.returns_done]
  refine Calls.returns_bind.mpr (returns_createBindings.mpr ⟨fun e he => ?_, ?_⟩)
  · obtain ⟨hn, hold⟩ := mem_shouldCreate.mp ((x.createOrder_perm _).mem_iff.mp he)
    exact hrun.admitted e.1 e.2 hn hold
  · exact Calls.returns_done.mpr ⟨rfl, rfl⟩

/-- What is left of the update deletes the bindings. -/
theorem update_eq_untilDelete {getFillsKind : Bool} (x : Chance)
    (hlabel : isValidLabelValue (req.componentName component) = true) :
    saveComponent md5 getFillsKind x req .update =
      updateUntilDelete md5 getFillsKind x req component spec >>= fun old =>
        deleteBindings req.applicationName (x.deleteOrder (shouldDelete
          (newPlugins md5 (req.componentName component) component.plugins) old)) >>= fun _ =>
        pure (setSpec spec emptyDoc) := by
  rw [updateComponent_eq x hbody hspec hcan, updateUntilDelete,
    updateComponentPluginBindingsForObject, if_pos hlabel]
  simp only [Action.bind_assoc, Action.pure_eq, Action.done_bind]

/-- **A listed binding that is not requested is the component's own**: stopped behind its deletion, a
    binding of that name in another namespace would still be listed. -/
theorem bindings_own (h : Saves srv md5 .update req s) {ns' n : Str}
    (hlabelled : Labelled (req.componentName component) (ns', n) s)
    (hn : (newPlugins md5 (req.componentName component) component.plugins).lookup n = none) :
    ns' = req.applicationName := by
  by_contra hne
  have hs := h.resumes (refusable_update hbody hspec hcan plainChance)
  obtain ⟨s₁, s₂, hrun, _⟩ := exists_updateRun hbody hspec hcan hs (firstChance 0 n)
  have hold : n ∈ oldPlugins s₂ (req.componentName component) := by
    rw [oldPlugins_congr hrun.bindings_objects]
    exact mem_oldPlugins.mpr ⟨ns', hlabelled⟩
  have hfirst : ∀ old, n ∈ old → ∃ l, (firstChance 0 n).deleteOrder (shouldDelete
      (newPlugins md5 (req.componentName component) component.plugins) old) = n :: l :=
    fun old hmem => exists_putFirst (mem_shouldDelete.mpr ⟨hmem, hn⟩)
  obtain ⟨old, s₃, ⟨rfl, rfl⟩, hs'⟩ := h.resumes_lost
    (update_eq_untilDelete hbody hspec hcan _ hrun.label)
    (returns_updateUntilDelete hrun) (c := .delete .componentPluginBinding (req.applicationName, n))
    (by
      rintro old s' ⟨rfl, -⟩
      obtain ⟨l, hl⟩ := hfirst _ hold
      rw [hl]
      exact ((Calls.begins_invoke _).bind).bind)
  -- the cluster behind the lost deletion
  have hcreated : ∀ ns', (created srv (firstChance 0 n).seed req.applicationName
      ((firstChance 0 n).createOrder (shouldCreate
        (newPlugins md5 (req.componentName component) component.plugins)
        (oldPlugins s₂ (req.componentName component)))) s₂).get .componentPluginBinding (ns', n) =
      s₂.get .componentPluginBinding (ns', n) := get_created_of_none hn _
  have hthere := hrun.listed n hold hn
  rw [← hcreated] at hthere
  rw [ApiServer.answer, if_pos hthere] at hs'
  obtain ⟨s₁', s₂', hrun', _⟩ := exists_updateRun hbody hspec hcan hs' plainChance
  have hget := Cluster.get_congr hrun'.bindings_objects
  have hold' : n ∈ oldPlugins s₂' (req.componentName component) := by
    obtain ⟨obj, hobj, hlabel⟩ := hlabelled
    refine mem_oldPlugins.mpr ⟨ns', obj, ?_, hlabel⟩
    rw [hget, Cluster.get_remove_of_ne fun e => hne (Prod.mk.inj e).1, hcreated,
      Cluster.get_congr hrun.bindings_objects, hobj]
  have hgone := hrun'.listed n hold' hn
  rw [hget, Cluster.get_remove_self] at hgone
  cases hgone

/-- **A save that can be repeated starts from a savable state.** -/
theorem savable_of_saves (h : Saves srv md5 .update req s) :
    Savable srv md5 req component spec s := by
  have hs := h.resumes (refusable_update hbody hspec hcan plainChance)
  obtain ⟨s₁, s₂, hrun, _⟩ := exists_updateRun hbody hspec hcan hs plainChance
  refine ⟨?_, settled_of_repeatable hbody hspec hcan h, endpointSavable_of_repeatable hbody hspec hcan h,
    hrun.label, fun ns' n hl hn => bindings_own hbody hspec hcan h hl hn,
    fun n np hn => bindings_requested hbody hspec hcan hs hn⟩
  obtain ⟨fetched, hf, _⟩ := hrun.settles
  exact hf ▸ rfl

end Update

/-- A save with a spec in its body. -/
theorem exists_body_of_saves {op : SaveOp} (h : Saves srv md5 op req s)
    (hcan : canEditNamespace req.policies req.client req.applicationName = some true) :
    ∃ component spec, req.body = some component ∧ component.componentSpec = some spec := by
  cases hbody : req.body with
  | none =>
      refine absurd ?_ (h.not_fail plainChance .badRequest)
      cases op <;>
        simp only [saveComponent, updateComponent, createComponent, requireNamespaceEditor, hcan,
          getResourcesComponentFromContext, hbody, Action.pure_eq, Action.done_bind, Action.fail_bind]
  | some component =>
      cases hspec : component.componentSpec with
      | some spec => exact ⟨component, spec, rfl, hspec⟩
      | none =>
          refine absurd ?_ (h.not_crash plainChance)
          cases op <;>
            simp only [saveComponent, updateComponent, createComponent, requireNamespaceEditor, hcan,
              getResourcesComponentFromContext, hbody, getCrdComponent, hspec, Action.pure_eq,
              Action.done_bind, Action.crash_bind]

/-! ## 2. A create -/

/-- The check on volumes and the `Create` behind it begin with a call. -/
theorem refusable_check {P : PolicySet} {client : ClientInfo} {α : Type} {f : Unit → Request α}
    (hf : Refusable ApiError.unavailable (f ())) (vols : List Volume) :
    Refusable ApiError.unavailable (checkPermissionOnVolume P client vols >>= f) := by
  induction vols with
  | nil => exact hf
  | cons vol vols ih =>
      unfold checkPermissionOnVolume
      split
      · exact ih
      split
      · exact ih
      · exact ⟨_, _, _, rfl, rfl⟩

/-- A create of an entitled client with a body and a spec. -/
theorem createComponent_eq {getFillsKind : Bool} (x : Chance) (hbody : req.body = some component)
    (hspec : component.componentSpec = some spec)
    (hcan : canEditNamespace req.policies req.client req.applicationName = some true) :
    saveComponent md5 getFillsKind x req .create =
      (checkPermissionOnVolume req.policies req.client (volumesOf spec) >>= fun _ =>
        createObject .component (req.key component) (setSpec spec emptyDoc)) >>= fun crd =>
      saveRest md5 getFillsKind x req (req.componentName component) component >>= fun _ =>
        pure crd := by
  simp only [saveComponent, createComponent, getResourcesComponentFromContext, hbody, getCrdComponent,
    hspec, requireNamespaceEditor, hcan, Action.pure_eq, Action.done_bind, Action.bind_assoc]
  rfl

/-- **A create is never repeatable**: stopped behind its `Create`, it finds the component there. -/
theorem not_saves_create (hbody : req.body = some component)
    (hspec : component.componentSpec = some spec)
    (hcan : canEditNamespace req.policies req.client req.applicationName = some true) :
    ¬ Saves srv md5 .create req s := by
  intro h
  have hrefusable : Refusable ApiError.unavailable
      (saveComponent md5 srv.getFillsKind plainChance req .create) := by
    rw [createComponent_eq plainChance hbody hspec hcan]
    exact Calls.refusable_bind (refusable_check (Calls.refusable_invoke _) _)
  -- where it can be repeated from, it finds no component and leaves one
  have hcreate : ∀ s', Resumes (fun x : Chance => srv.answer x.seed) .unavailable
      (fun x => saveComponent md5 srv.getFillsKind x req .create) (AsRequested srv md5 req) s' →
      s'.get .component (req.key component) = none ∧
        Returns (srv.answer plainChance.seed) .unavailable
          (checkPermissionOnVolume req.policies req.client (volumesOf spec) >>= fun _ =>
            createObject .component (req.key component) (setSpec spec emptyDoc)) s'
          fun _ s'' => (s''.get .component (req.key component)).isSome := by
    intro s' hs'
    have hreturns := hs' plainChance
    beta_reduce at hreturns
    rw [createComponent_eq plainChance hbody hspec hcan, Calls.returns_bind, Calls.returns_bind,
      returns_checkPermissionOnVolume, returns_createObject] at hreturns
    obtain ⟨hdisks, stored, hadmits, hnone, _⟩ := hreturns
    refine ⟨hnone, Calls.returns_bind.mpr (returns_checkPermissionOnVolume.mpr ⟨hdisks, ?_⟩)⟩
    refine returns_createObject.mpr ⟨stored, hadmits, hnone, ?_⟩
    rw [Cluster.get_store_self]
    rfl
  obtain ⟨_, s', hsome, hs'⟩ := h.resumes_after (createComponent_eq plainChance hbody hspec hcan)
    (hcreate s (h.resumes hrefusable)).2
    fun _ => Calls.refusable_bind (Calls.refusable_bind (refusable_endpoint ..))
  rw [(hcreate s' hs').1] at hsome
  cases hsome

/-! ## 3. Both -/

/-- **Exactly the updates from a savable state save**, and no create does. -/
theorem saves_iff (srv : ApiServer) (md5 : ComponentPluginBindingSpec → List UInt8) (op : SaveOp)
    (req : ComponentRequest) (s : Cluster)
    (hcan : canEditNamespace req.policies req.client req.applicationName = some true) :
    Saves srv md5 op req s ↔
      op = .update ∧ ∃ component spec, req.body = some component ∧
        component.componentSpec = some spec ∧ Savable srv md5 req component spec s := by
  constructor
  · intro h
    obtain ⟨component, spec, hbody, hspec⟩ := exists_body_of_saves h hcan
    cases op with
    | create => exact absurd h (not_saves_create hbody hspec hcan)
    | update => exact ⟨rfl, component, spec, hbody, hspec, savable_of_saves hbody hspec hcan h⟩
  · rintro ⟨rfl, component, spec, hbody, hspec, h⟩
    exact saves_of_savable hbody hspec hcan h

/-- A cluster with the component `shop/web`. -/
def webCluster : Cluster where
  objects := Function.update (fun _ => ∅) .component
    (AList.singleton (str "shop", str "web") (setSpec emptyDoc emptyDoc))
  volumes _ := none
  claims := []

/-- A request of an editor of `shop` to save the component `web`. -/
def webRequest (endpoint : Option Doc) : ComponentRequest where
  policies := ⟨[[str "role_shopEditor", str "edit", str "shop", [star]]],
    [[str "user-eve", str "role_shopEditor"]]⟩
  client := ⟨str "eve", some [], [], []⟩
  applicationName := str "shop"
  nameParam := str "web"
  body := some
    { name := str "web"
      plugins := []
      componentSpec := some (emptyDoc.setField (str "image") (Doc.text (str "nginx")))
      protectedEndpointSpec := endpoint }

theorem canEditNamespace_web (endpoint : Option Doc) :
    canEditNamespace (webRequest endpoint).policies (webRequest endpoint).client
      (webRequest endpoint).applicationName = some true := by
  show canEditNamespace (webRequest none).policies (webRequest none).client
    (webRequest none).applicationName = some true
  decide

/-- With an endpoint, whether or not there is one, from a server whose `Get` fills the kind. -/
theorem saves_web : Saves (plainServer true) (fun _ => []) .update (webRequest (some emptyDoc))
    webCluster := by
  refine (saves_iff _ _ _ _ _ (canEditNamespace_web _)).mpr ⟨rfl, _, _, rfl, rfl, ?_⟩
  refine ⟨by decide, ⟨fun _ => rfl, fun _ _ => rfl⟩, ⟨rfl, fun _ => rfl, fun _ _ => rfl⟩,
    by decide, ?_⟩
  refine ⟨fun ns' n hl _ => ?_, fun n np hn => ?_⟩
  · obtain ⟨obj, hobj, _⟩ := hl
    cases hobj
  · cases hn

theorem saves_fails :
    ¬ ∀ (srv : ApiServer) (md5 : ComponentPluginBindingSpec → List UInt8) (op : SaveOp)
      (req : ComponentRequest) (s : Cluster),
      canEditNamespace req.policies req.client req.applicationName = some true →
        Saves srv md5 op req s := by
  intro h
  exact not_saves_create rfl rfl (canEditNamespace_web none)
    (h (plainServer true) (fun _ => []) .create (webRequest none) ⟨fun _ => ∅, fun _ => none, []⟩
      (canEditNamespace_web none))

end Kalm
