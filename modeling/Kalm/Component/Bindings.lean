/-
  File:      Kalm/Component/Bindings.lean
  Subject:   THE ENDPOINT AND THE BINDINGS OF A COMPONENT when no call fails: which decisions the two
             update functions of Handlers.lean need, and what they leave.

  * `EndpointStep`, `returns_endpoint` -- deleted, created or applied;
  * `created`, `returns_createBindings` -- a binding that is there is left as it is;
  * `removed`, `returns_deleteBindings` -- a binding that is not there is an error;
  * `mem_oldPlugins` -- a name is listed when a labelled binding of any namespace has it.
-/
import Kalm.Component.Steps

namespace Kalm

open MergePatch (Json)
open Calls (Action Holds Returns)

variable {srv : ApiServer} {seed : Seed} {s : Cluster}

/-! ## 1. The endpoint -/

/-- The key of a component's endpoint. -/
def endpointKey (ns name : Str) : NamespacedName := (ns, protectedEndpointCRDName name)

/-- What the endpoint's update does when no call fails. -/
inductive EndpointStep (srv : ApiServer) (seed : Seed) (ns name : Str) (s : Cluster) :
    Option Doc → Cluster → Prop where
  | absent (h : s.get .protectedEndpoint (endpointKey ns name) = none) :
      EndpointStep srv seed ns name s none s
  | deleted (h : (s.get .protectedEndpoint (endpointKey ns name)).isSome) :
      EndpointStep srv seed ns name s none (s.remove .protectedEndpoint (endpointKey ns name))
  | created {spec stored : Doc} (h : s.get .protectedEndpoint (endpointKey ns name) = none)
      (admitted : srv.admits seed .protectedEndpoint (endpointKey ns name) none
        (setSpec (componentEndpointSpec name spec) emptyDoc) = some stored) :
      EndpointStep srv seed ns name s (some spec)
        (s.store .protectedEndpoint (endpointKey ns name) stored)
  | applied {spec : Doc} {s' : Cluster} (kind : srv.getFillsKind = true)
      (settles : Settles srv seed .protectedEndpoint (endpointKey ns name)
        (componentEndpointSpec name spec) s s') :
      EndpointStep srv seed ns name s (some spec) s'

theorem returns_deleteEndpoint {ns name : Str} {Q : Unit → Cluster → Prop} :
    Returns (srv.answer seed) .unavailable
        (updateProtectedEndpointForComponent srv.getFillsKind ns name none) s Q ↔
      ∃ s', EndpointStep srv seed ns name s none s' ∧ Q () s' := by
  unfold updateProtectedEndpointForComponent
  rw [Action.tryCall_bind, Calls.returns_call, ApiServer.answer]
  by_cases h : (s.get .protectedEndpoint (ns, protectedEndpointCRDName name)).isSome = true
  · rw [if_pos h]
    refine Calls.returns_done.trans ⟨fun hQ => ⟨_, .deleted h, hQ⟩, ?_⟩
    rintro ⟨s', hs, hQ⟩
    cases hs with
    | absent hn => rw [endpointKey] at hn; rw [hn] at h; cases h
    | deleted _ => exact hQ
  · rw [if_neg h]
    have hnone := Option.not_isSome_iff_eq_none.mp h
    refine Calls.returns_done.trans ⟨fun hQ => ⟨_, .absent hnone, hQ⟩, ?_⟩
    rintro ⟨s', hs, hQ⟩
    cases hs with
    | absent _ => exact hQ
    | deleted hd => exact absurd hd h

/-- **The endpoint's update.** -/
theorem returns_endpoint {ns name : Str} {spec : Option Doc} {Q : Unit → Cluster → Prop} :
    Returns (srv.answer seed) .unavailable
        (updateProtectedEndpointForComponent srv.getFillsKind ns name spec) s Q ↔
      ∃ s', EndpointStep srv seed ns name s spec s' ∧ Q () s' := by
  cases spec with
  | none => exact returns_deleteEndpoint
  | some spec =>
      unfold updateProtectedEndpointForComponent
      simp only [Action.tryCall_bind]
      rw [Calls.returns_call, getObject_answer]
      cases hg : s.get .protectedEndpoint (ns, protectedEndpointCRDName name) with
      | none =>
          refine Calls.returns_bind.trans (returns_createObject.trans ?_)
          constructor
          · intro ⟨stored, ha, hn, hQ⟩
            exact ⟨_, .created hn ha, Calls.returns_done.mp hQ⟩
          · intro ⟨s', hs, hQ⟩
            cases hs with
            | created hn ha => exact ⟨_, ha, hn, Calls.returns_done.mpr hQ⟩
            | applied _ hset =>
                obtain ⟨fetched, hf, _⟩ := hset
                cases hg.symm.trans hf
      | some obj =>
          refine returns_apply.trans ⟨fun ⟨hk, s', hset, hQ⟩ => ⟨s', .applied hk hset, hQ⟩, ?_⟩
          intro ⟨s', hs, hQ⟩
          cases hs with
          | created hn ha => cases hg.symm.trans hn
          | applied hk hset => exact ⟨hk, s', hset, hQ⟩

variable {ns name : Str}

theorem Settles.objects {kind k : Kind} {key : NamespacedName} {spec : Doc} {s' : Cluster}
    (h : Settles srv seed kind key spec s s') (hk : k ≠ kind) : s'.objects k = s.objects k := by
  obtain ⟨_, _, _, rfl⟩ := h
  exact Cluster.objects_store_of_ne hk

/-- The endpoint's update leaves the other kinds alone. -/
theorem EndpointStep.objects {spec : Option Doc} {s' : Cluster} {k : Kind}
    (h : EndpointStep srv seed ns name s spec s') (hk : k ≠ .protectedEndpoint) :
    s'.objects k = s.objects k := by
  cases h with
  | absent _ => rfl
  | deleted _ => exact Cluster.objects_remove_of_ne hk
  | created _ _ => exact Cluster.objects_store_of_ne hk
  | applied _ hset => exact hset.objects hk

theorem EndpointStep.gone {s' : Cluster} (h : EndpointStep srv seed ns name s none s') :
    s'.get .protectedEndpoint (endpointKey ns name) = none := by
  cases h with
  | absent h => exact h
  | deleted _ => exact Cluster.get_remove_self

theorem EndpointStep.specAt {spec : Doc} {s' : Cluster}
    (h : EndpointStep srv seed ns name s (some spec) s') :
    s'.specAt .protectedEndpoint (endpointKey ns name) =
      some (srv.default seed .protectedEndpoint (endpointKey ns name)
        (componentEndpointSpec name spec)) := by
  cases h with
  | created _ ha => exact specAt_created ha
  | applied _ hset => exact hset.specAt

/-- Admission accepted the endpoint over what was stored. -/
theorem EndpointStep.accepted {spec : Doc} {s' : Cluster}
    (h : EndpointStep srv seed ns name s (some spec) s') :
    srv.accepts .protectedEndpoint (endpointKey ns name)
      (s.specAt .protectedEndpoint (endpointKey ns name))
      (srv.default seed .protectedEndpoint (endpointKey ns name)
        (componentEndpointSpec name spec)) = true := by
  cases h with
  | created hn ha =>
      rw [Cluster.specAt, hn, Option.bind_none]
      exact accepted_of_admit ha
  | applied _ hset =>
      obtain ⟨_, _, hok, _⟩ := hset
      exact hok

/-! ## 2. The loops over the bindings -/

/-- The bindings of a list that are not there are stored as admission leaves them. -/
def created (srv : ApiServer) (seed : Seed) (ns : Str) : List (Str × Doc) → Cluster → Cluster
  | [], s => s
  | (n, np) :: l, s =>
    created srv seed ns l (srv.answer seed (.create .componentPluginBinding (ns, n) np) s).2

/-- The bindings of a list are removed. -/
def removed (ns : Str) : List Str → Cluster → Cluster
  | [], s => s
  | n :: l, s => removed ns l (s.remove .componentPluginBinding (ns, n))

/-- **Creating needs admission alone**: that a binding exists is ignored. -/
theorem returns_createBindings {l : List (Str × Doc)} {Q : Unit → Cluster → Prop} :
    Returns (srv.answer seed) .unavailable (createBindings ns l) s Q ↔
      (∀ e ∈ l, (srv.admits seed .componentPluginBinding (ns, e.1) none e.2).isSome) ∧
        Q () (created srv seed ns l s) := by
  induction l generalizing s with
  | nil => exact Calls.returns_done.trans (and_iff_right fun _ h => absurd h List.not_mem_nil).symm
  | cons e l ih =>
      obtain ⟨n, np⟩ := e
      unfold createBindings created
      rw [Action.tryCall_bind, Calls.returns_call, List.forall_mem_cons, ApiServer.answer]
      cases ha : srv.admits seed .componentPluginBinding (ns, n) none np with
      | none =>
          refine iff_of_false Calls.not_returns_fail ?_
          intro h
          cases h.1.1
      | some stored =>
          by_cases hg : (s.get .componentPluginBinding (ns, n)).isSome = true
          · simp only [if_pos hg]
            exact ih.trans (and_congr_left fun _ => (and_iff_right rfl).symm)
          · simp only [if_neg hg]
            exact ih.trans (and_congr_left fun _ => (and_iff_right rfl).symm)

/-- **Deleting needs the bindings to be there.** -/
theorem returns_deleteBindings {l : List Str} (hl : l.Nodup) {Q : Unit → Cluster → Prop} :
    Returns (srv.answer seed) .unavailable (deleteBindings ns l) s Q ↔
      (∀ n ∈ l, (s.get .componentPluginBinding (ns, n)).isSome) ∧ Q () (removed ns l s) := by
  induction l generalizing s with
  | nil => exact Calls.returns_done.trans (and_iff_right fun _ h => absurd h List.not_mem_nil).symm
  | cons n l ih =>
      obtain ⟨hn, hl⟩ := List.nodup_cons.mp hl
      unfold deleteBindings removed
      rw [Calls.returns_bind, deleteObject, Action.invoke, Calls.returns_call, List.forall_mem_cons,
        ApiServer.answer]
      by_cases hg : (s.get .componentPluginBinding (ns, n)).isSome = true
      · rw [if_pos hg, Calls.returns_done, ih hl]
        refine and_congr_left fun _ => Iff.trans ?_ (and_iff_right hg).symm
        refine forall₂_congr fun m hm => ?_
        have hne : (ns, m) ≠ (ns, n) := fun e => hn ((Prod.mk.inj e).2 ▸ hm)
        rw [Cluster.get_remove_of_ne hne]
      · rw [if_neg hg]
        exact iff_of_false Calls.not_returns_fail fun h => hg h.1.1

/-! ### What the loops leave -/

theorem created_objects {l : List (Str × Doc)} {k : Kind} (hk : k ≠ .componentPluginBinding) :
    (created srv seed ns l s).objects k = s.objects k := by
  induction l generalizing s with
  | nil => rfl
  | cons e l ih =>
      rw [created, ih]
      have hne : (ApiCall.create .componentPluginBinding (ns, e.1) e.2).writes ≠ some k :=
        fun h => hk (Option.some.inj h).symm
      exact answer_objects hne s

theorem removed_objects {l : List Str} {k : Kind} (hk : k ≠ .componentPluginBinding) :
    (removed ns l s).objects k = s.objects k := by
  induction l generalizing s with
  | nil => rfl
  | cons n l ih => rw [removed, ih, Cluster.objects_remove_of_ne hk]

theorem get_removed {l : List Str} (key : NamespacedName) :
    (removed ns l s).get .componentPluginBinding key =
      if key.1 = ns ∧ key.2 ∈ l then none else s.get .componentPluginBinding key := by
  induction l generalizing s with
  | nil => rw [removed, if_neg fun h => absurd h.2 List.not_mem_nil]
  | cons n l ih =>
      rw [removed, ih]
      by_cases he : key = (ns, n)
      · subst he
        rw [Cluster.get_remove_self, ite_self, if_pos ⟨rfl, List.mem_cons_self⟩]
      · rw [Cluster.get_remove_of_ne he]
        refine if_congr (and_congr_right fun hns => ?_) rfl rfl
        rw [List.mem_cons]
        refine (or_iff_right fun hn => he ?_).symm
        exact Prod.ext hns hn

/-- One `Create`: what is there stays. -/
theorem get_answer_create {n : Str} {np : Doc} (key : NamespacedName) :
    (srv.answer seed (.create .componentPluginBinding (ns, n) np) s).2.get .componentPluginBinding key =
      if key = (ns, n) then (s.get .componentPluginBinding key).or
        (srv.admits seed .componentPluginBinding (ns, n) none np)
      else s.get .componentPluginBinding key := by
  rw [ApiServer.answer]
  cases ha : srv.admits seed .componentPluginBinding (ns, n) none np with
  | none => simp only [Option.or_none, ite_self]
  | some stored =>
      cases hg : s.get .componentPluginBinding (ns, n) with
      | some obj =>
          simp only [Option.isSome_some, if_true]
          split
          · rename_i he
            rw [he, hg, Option.some_or]
          · rfl
      | none =>
          simp only [Option.isSome_none, Bool.false_eq_true, if_false]
          by_cases he : key = (ns, n)
          · rw [if_pos he, he, Cluster.get_store_self, hg, Option.none_or]
          · rw [if_neg he, Cluster.get_store_of_ne he]

theorem get_created_of_notMem {l : List (Str × Doc)} {key : NamespacedName}
    (h : ∀ e ∈ l, key ≠ (ns, e.1)) :
    (created srv seed ns l s).get .componentPluginBinding key = s.get .componentPluginBinding key := by
  induction l generalizing s with
  | nil => rfl
  | cons e l ih =>
      obtain ⟨he, hl⟩ := List.forall_mem_cons.mp h
      rw [created, ih hl, get_answer_create, if_neg he]

/-- **A binding of the list is the one that was there, or the new one.** -/
theorem get_created {l : List (Str × Doc)} (hl : (l.map Prod.fst).Nodup) {n : Str} {np : Doc}
    (h : (n, np) ∈ l) :
    (created srv seed ns l s).get .componentPluginBinding (ns, n) =
      (s.get .componentPluginBinding (ns, n)).or
        (srv.admits seed .componentPluginBinding (ns, n) none np) := by
  induction l generalizing s with
  | nil => cases h
  | cons e l ih =>
      obtain ⟨hn, hl⟩ := List.nodup_cons.mp hl
      rcases List.mem_cons.mp h with rfl | h
      · rw [created, get_created_of_notMem, get_answer_create, if_pos rfl]
        intro e he hkey
        exact hn (List.mem_map.mpr ⟨e, he, (Prod.ext_iff.mp hkey).2.symm⟩)
      · rw [created, ih hl h, get_answer_create, if_neg]
        intro hkey
        exact hn (List.mem_map.mpr ⟨_, h, (Prod.ext_iff.mp hkey).2⟩)

/-! ## 3. The names -/

/-- The names of the listed bindings. -/
def oldPlugins (s : Cluster) (componentName : Str) : List Str :=
  (((s.objects .componentPluginBinding).entries.map fun e => (e.1, e.2)).filter fun e =>
    labelOf e.2 kalmComponent = some (Doc.text componentName)).map fun e => e.1.2

/-- **A binding of any namespace is listed.** -/
theorem mem_oldPlugins {componentName n : Str} :
    n ∈ oldPlugins s componentName ↔
      ∃ ns obj, s.get .componentPluginBinding (ns, n) = some obj ∧
        labelOf obj kalmComponent = some (Doc.text componentName) := by
  simp only [oldPlugins, List.mem_map, List.mem_filter, decide_eq_true_eq]
  constructor
  · intro ⟨_, ⟨⟨e, he, heq⟩, hlabel⟩, hn⟩
    subst heq
    refine ⟨e.1.1, e.2, ?_, hlabel⟩
    rw [← hn]
    exact AList.mem_lookup_iff.mpr he
  · intro ⟨ns, obj, hg, hlabel⟩
    exact ⟨((ns, n), obj), ⟨⟨⟨(ns, n), obj⟩, AList.mem_lookup_iff.mp hg, rfl⟩, hlabel⟩, rfl⟩

theorem oldPlugins_congr {s' : Cluster}
    (h : s'.objects .componentPluginBinding = s.objects .componentPluginBinding) (componentName : Str) :
    oldPlugins s' componentName = oldPlugins s componentName := by
  rw [oldPlugins, h, oldPlugins]

theorem mem_shouldCreate {new : Mirror.Table Str Doc} {old : List Str} {n : Str} {np : Doc} :
    (n, np) ∈ shouldCreate new old ↔ new.lookup n = some np ∧ n ∉ old := by
  simp only [shouldCreate, List.mem_filter, List.mem_map, decide_eq_true_eq]
  refine and_congr_left fun _ => ⟨fun ⟨e, he, heq⟩ => ?_, fun h => ?_⟩
  · cases heq
    exact AList.mem_lookup_iff.mpr he
  · exact ⟨⟨n, np⟩, AList.mem_lookup_iff.mp h, rfl⟩

theorem nodup_shouldCreate (new : Mirror.Table Str Doc) (old : List Str) :
    ((shouldCreate new old).map Prod.fst).Nodup := by
  have hkeys : ((new.entries.map fun e => ((e.1, e.2) : Str × Doc)).map Prod.fst) = new.keys := by
    rw [List.map_map]
    rfl
  refine List.Nodup.sublist (List.Sublist.map _ List.filter_sublist) ?_
  rw [hkeys]
  exact new.keys_nodup

theorem mem_shouldDelete {new : Mirror.Table Str Doc} {old : List Str} {n : Str} :
    n ∈ shouldDelete new old ↔ n ∈ old ∧ new.lookup n = none := by
  simp only [shouldDelete, List.mem_filter, List.mem_dedup, decide_eq_true_eq, AList.lookup_eq_none]

theorem nodup_shouldDelete (new : Mirror.Table Str Doc) (old : List Str) :
    (shouldDelete new old).Nodup := (List.nodup_dedup old).filter _

/-! ## 4. The bindings -/

section Update

variable (md5 : ComponentPluginBindingSpec → List UInt8) (x : Chance)
  (plugins : List ComponentPluginBinding)

/-- The bindings after an update in which no call fails. -/
def bindingsAfter (srv : ApiServer) (ns name : Str) (s : Cluster) : Cluster :=
  removed ns (x.deleteOrder (shouldDelete (newPlugins md5 name plugins) (oldPlugins s name)))
    (created srv x.seed ns
      (x.createOrder (shouldCreate (newPlugins md5 name plugins) (oldPlugins s name))) s)

variable {md5 x plugins}

/-- A name that is not requested is not created. -/
theorem get_created_of_none {n : Str} (h : (newPlugins md5 name plugins).lookup n = none)
    (old : List Str) (ns' : Str) :
    (created srv seed ns (x.createOrder (shouldCreate (newPlugins md5 name plugins) old)) s).get
      .componentPluginBinding (ns', n) = s.get .componentPluginBinding (ns', n) := by
  refine get_created_of_notMem fun e he hkey => ?_
  have hmem := mem_shouldCreate.mp ((x.createOrder_perm _).mem_iff.mp he)
  rw [← (Prod.mk.inj hkey).2, h] at hmem
  cases hmem.1

/-- **The update of the bindings.** -/
theorem returns_bindings {Q : Unit → Cluster → Prop} :
    Returns (srv.answer x.seed) .unavailable
        (updateComponentPluginBindingsForObject md5 x ns name plugins) s Q ↔
      isValidLabelValue name = true ∧
        (∀ n np, (newPlugins md5 name plugins).lookup n = some np → n ∉ oldPlugins s name →
          (srv.admits x.seed .componentPluginBinding (ns, n) none np).isSome) ∧
        (∀ n ∈ oldPlugins s name, (newPlugins md5 name plugins).lookup n = none →
          (s.get .componentPluginBinding (ns, n)).isSome) ∧
        Q () (bindingsAfter md5 x plugins srv ns name s) := by
  unfold updateComponentPluginBindingsForObject
  split
  · rename_i hvalid
    refine Iff.trans ?_ (and_iff_right hvalid).symm
    rw [Calls.returns_bind, Action.invoke, Calls.returns_call, ApiServer.answer]
    rw [Calls.returns_done, Calls.returns_bind, returns_createBindings]
    have hnodup := (x.deleteOrder_perm _).nodup_iff.mpr
      (nodup_shouldDelete (newPlugins md5 name plugins) (oldPlugins s name))
    refine and_congr ?_ ((returns_deleteBindings hnodup).trans (and_congr ?_ Iff.rfl))
    · constructor
      · exact fun h n np hn hold => h (n, np)
          ((x.createOrder_perm _).mem_iff.mpr (mem_shouldCreate.mpr ⟨hn, hold⟩))
      · intro h e he
        obtain ⟨hn, hold⟩ := mem_shouldCreate.mp ((x.createOrder_perm _).mem_iff.mp he)
        exact h e.1 e.2 hn hold
    · have hget : ∀ n, (newPlugins md5 name plugins).lookup n = none →
          (created srv x.seed ns (x.createOrder (shouldCreate (newPlugins md5 name plugins)
            (oldPlugins s name))) s).get .componentPluginBinding (ns, n) =
          s.get .componentPluginBinding (ns, n) := fun n h => get_created_of_none h _ ns
      constructor
      · intro h n hold hn
        rw [← hget n hn]
        exact h n ((x.deleteOrder_perm _).mem_iff.mpr (mem_shouldDelete.mpr ⟨hold, hn⟩))
      · intro h n hmem
        obtain ⟨hold, hn⟩ := mem_shouldDelete.mp ((x.deleteOrder_perm _).mem_iff.mp hmem)
        exact (hget n hn).symm ▸ h n hold hn
  · rename_i hinvalid
    exact iff_of_false Calls.not_returns_crash fun h => hinvalid h.1

/-- A requested binding afterwards: the listed one is left as it is. -/
theorem get_bindingsAfter_of_some {n : Str} {np : Doc}
    (h : (newPlugins md5 name plugins).lookup n = some np) :
    (bindingsAfter md5 x plugins srv ns name s).get .componentPluginBinding (ns, n) =
      if n ∈ oldPlugins s name then s.get .componentPluginBinding (ns, n)
      else (s.get .componentPluginBinding (ns, n)).or
        (srv.admits x.seed .componentPluginBinding (ns, n) none np) := by
  rw [bindingsAfter, get_removed, if_neg]
  · split
    · rename_i hold
      refine get_created_of_notMem fun e he hkey => ?_
      have hmem := mem_shouldCreate.mp ((x.createOrder_perm _).mem_iff.mp he)
      exact hmem.2 ((Prod.mk.inj hkey).2 ▸ hold)
    · rename_i hold
      have hperm := x.createOrder_perm (shouldCreate (newPlugins md5 name plugins) (oldPlugins s name))
      refine get_created ?_ (hperm.mem_iff.mpr (mem_shouldCreate.mpr ⟨h, hold⟩))
      exact (hperm.map Prod.fst).nodup_iff.mpr (nodup_shouldCreate _ _)
  · intro ⟨_, hmem⟩
    have hnone := (mem_shouldDelete.mp ((x.deleteOrder_perm _).mem_iff.mp hmem)).2
    rw [h] at hnone
    cases hnone

/-- A binding that is not requested afterwards: if listed, it is gone. -/
theorem get_bindingsAfter_of_none {n : Str}
    (h : (newPlugins md5 name plugins).lookup n = none) :
    (bindingsAfter md5 x plugins srv ns name s).get .componentPluginBinding (ns, n) =
      if n ∈ oldPlugins s name then none else s.get .componentPluginBinding (ns, n) := by
  rw [bindingsAfter, get_removed, get_created_of_none h]
  refine if_congr ?_ rfl rfl
  rw [(x.deleteOrder_perm _).mem_iff, mem_shouldDelete]
  exact ⟨fun hm => hm.2.1, fun hm => ⟨rfl, hm, h⟩⟩

theorem bindingsAfter_objects {k : Kind} (hk : k ≠ .componentPluginBinding) :
    (bindingsAfter md5 x plugins srv ns name s).objects k = s.objects k := by
  rw [bindingsAfter, removed_objects hk, created_objects hk]

end Update

end Kalm
