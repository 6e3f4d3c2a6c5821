/-
  File:      Kalm/Component/Steps.lean
  Subject:   WHAT THE PARTS OF A SAVE DO: for each part of Handlers.lean which calls it makes, that a
             failed call ends it, and when the run without faults returns with what.

  * `holds_objects`, `holds_disks` -- a program leaves alone what its calls do not write;
  * `returns_checkPermissionOnVolume` -- the check passes exactly when the client may edit every
    namespace a disk is taken from.
-/
import Kalm.Component.Handlers

namespace Kalm

open MergePatch (Json)
open Calls (Action Holds Returns Strict Refusable Uses)

variable {srv : ApiServer} {seed : Seed} {s : Cluster} {α : Type}

/-! ## 1. Frames -/

/-- **A program leaves the kinds alone that its calls do not write.** -/
theorem holds_objects {p : Request α} {k : Kind} (hp : Uses (fun c => c.writes ≠ some k) p) :
    Holds (srv.answer seed) .unavailable p s fun _ s' => s'.objects k = s.objects k :=
  Calls.keeps_of_uses (I := fun s' => s'.objects k = s.objects k)
    (fun _ hc s' hs' => (answer_objects hc s').trans hs') hp s rfl

/-- No program writes volumes or claims. -/
theorem holds_disks (p : Request α) :
    Holds (srv.answer seed) .unavailable p s fun _ s' =>
      s'.volumes = s.volumes ∧ s'.claims = s.claims := by
  have huses : Uses (fun _ => True) p := by
    induction p with
    | done a => trivial
    | fail e => trivial
    | crash => trivial
    | call c next ih => exact ⟨trivial, ih⟩
  refine Calls.keeps_of_uses (I := fun s' => s'.volumes = s.volumes ∧ s'.claims = s.claims)
    (fun c _ s' hs' => ?_) huses s ⟨rfl, rfl⟩
  obtain ⟨hv, hc⟩ : (srv.answer seed c s').2.volumes = s'.volumes ∧
      (srv.answer seed c s').2.claims = s'.claims := answer_disks c s'
  exact ⟨hv.trans hs'.1, hc.trans hs'.2⟩

/-! ## 2. Reading the request -/

section Checks

variable {P : PolicySet} {client : ClientInfo} {ns : Str}

theorem returns_requireNamespaceEditor {Q : Unit → Cluster → Prop} :
    Returns (srv.answer seed) .unavailable (requireNamespaceEditor P client ns) s Q ↔
      canEditNamespace P client ns = some true ∧ Q () s := by
  unfold requireNamespaceEditor
  rcases canEditNamespace P client ns with _ | _ | _
  · exact iff_of_false Calls.not_returns_crash fun h => nomatch h.1
  · exact iff_of_false Calls.not_returns_fail fun h => nomatch h.1
  · exact Calls.returns_done.trans (and_iff_right rfl).symm

theorem strict_requireNamespaceEditor (P : PolicySet) (client : ClientInfo) (ns : Str) :
    Strict ApiError.unavailable (requireNamespaceEditor P client ns) := by
  unfold requireNamespaceEditor
  split <;> trivial

theorem returns_getResourcesComponent {req : ComponentRequest}
    {Q : ResourcesComponent → Cluster → Prop} :
    Returns (srv.answer seed) .unavailable (getResourcesComponentFromContext req) s Q ↔
      ∃ component, req.body = some component ∧ Q component s := by
  unfold getResourcesComponentFromContext
  cases req.body with
  | none => exact iff_of_false Calls.not_returns_fail fun ⟨_, h, _⟩ => nomatch h
  | some component =>
      refine Calls.returns_done.trans ⟨fun h => ⟨component, rfl, h⟩, fun ⟨c, e, h⟩ => ?_⟩
      rwa [Option.some.inj e]

theorem returns_getCrdComponent {component : ResourcesComponent} {Q : Doc → Cluster → Prop} :
    Returns (srv.answer seed) .unavailable (getCrdComponent component) s Q ↔
      ∃ spec, component.componentSpec = some spec ∧ Q spec s := by
  unfold getCrdComponent
  cases component.componentSpec with
  | none => exact iff_of_false Calls.not_returns_crash fun ⟨_, h, _⟩ => nomatch h
  | some spec =>
      refine Calls.returns_done.trans ⟨fun h => ⟨spec, rfl, h⟩, fun ⟨c, e, h⟩ => ?_⟩
      rwa [Option.some.inj e]

theorem strict_getResourcesComponent (req : ComponentRequest) :
    Strict ApiError.unavailable (getResourcesComponentFromContext req) := by
  unfold getResourcesComponentFromContext
  split <;> trivial

theorem strict_getCrdComponent (component : ResourcesComponent) :
    Strict ApiError.unavailable (getCrdComponent component) := by
  unfold getCrdComponent
  split <;> trivial

/-! ## 3. The check on volumes -/

/-- The volume is to be matched with a PV that a claim of the cluster is bound to. -/
structure TakenFrom (s : Cluster) (vol : Volume) (claim : NamespacedName) : Prop where
  type : vol.type = .persistentVolumeClaim
  named : vol.pvToMatch ≠ []
  bound : ∃ pv, s.volumes vol.pvToMatch = some pv ∧ pv.claimRef = some claim
  exists_claim : claim ∈ s.claims

/-- The client may edit the namespace of every claim a disk is taken from. -/
def DisksEditable (P : PolicySet) (client : ClientInfo) (vols : List Volume) (s : Cluster) : Prop :=
  ∀ vol ∈ vols, ∀ claim, TakenFrom s vol claim → canEditNamespace P client claim.1 = some true

/-- The claim among all claims. -/
theorem find_claim (claims : List NamespacedName) (ref : NamespacedName) :
    (claims.find? fun pvc => pvc.2 = ref.2 ∧ pvc.1 = ref.1) = if ref ∈ claims then some ref else none := by
  have hiff : ∀ pvc : NamespacedName, decide (pvc.2 = ref.2 ∧ pvc.1 = ref.1) = decide (pvc = ref) :=
    fun pvc => decide_eq_decide.mpr ⟨fun h => Prod.ext h.2 h.1, fun h => h ▸ ⟨rfl, rfl⟩⟩
  simp only [hiff]
  split
  · rename_i hmem
    have hsome : (claims.find? fun pvc => decide (pvc = ref)).isSome :=
      List.find?_isSome.mpr ⟨ref, hmem, decide_eq_true rfl⟩
    obtain ⟨pvc, hf⟩ := Option.isSome_iff_exists.mp hsome
    have hpvc := List.find?_some hf
    rw [hf, of_decide_eq_true hpvc]
  · rename_i hmem
    refine List.find?_eq_none.mpr fun pvc hpvc h => hmem ?_
    exact of_decide_eq_true h ▸ hpvc

theorem returns_getBoundingPVC {pv : PersistentVolume}
    {Q : Option NamespacedName → Cluster → Prop} :
    Returns (srv.answer seed) .unavailable (getBoundingPVC pv) s Q ↔
      Q (pv.claimRef.filter fun ref => ref ∈ s.claims) s := by
  unfold getBoundingPVC
  cases pv.claimRef with
  | none => exact Calls.returns_done
  | some ref =>
      rw [Calls.returns_bind, Action.invoke, Calls.returns_call]
      simp only [ApiServer.answer, Calls.returns_done, Action.pure_eq, find_claim, Option.filter_some,
        decide_eq_true_eq]

/-- **The check passes exactly when every disk is the client's to take.** -/
theorem returns_checkPermissionOnVolume {vols : List Volume} {Q : Unit → Cluster → Prop} :
    Returns (srv.answer seed) .unavailable (checkPermissionOnVolume P client vols) s Q ↔
      DisksEditable P client vols s ∧ Q () s := by
  induction vols with
  | nil => exact Calls.returns_done.trans (and_iff_right fun _ h => absurd h List.not_mem_nil).symm
  | cons vol vols ih =>
      have hskip : (∀ claim, ¬ TakenFrom s vol claim) →
          (DisksEditable P client (vol :: vols) s ↔ DisksEditable P client vols s) := by
        intro h
        refine ⟨fun hall v hv => hall v (List.mem_cons_of_mem _ hv), fun hall v hv claim hc => ?_⟩
        rcases List.mem_cons.mp hv with rfl | hv
        · exact absurd hc (h claim)
        · exact hall v hv claim hc
      unfold checkPermissionOnVolume
      split
      · rename_i ht
        rw [ih, hskip fun claim h => ht h.type]
      split
      · rename_i hn
        rw [ih, hskip fun claim h => h.named hn]
      rename_i ht hn
      rw [Action.tryCall_bind, Calls.returns_call, ApiServer.answer]
      cases hpv : s.volumes vol.pvToMatch with
      | none =>
          simp only
          rw [ih, hskip]
          intro claim h
          obtain ⟨pv, hv, _⟩ := h.bound
          rw [hpv] at hv
          cases hv
      | some pv =>
          simp only
          rw [Calls.returns_bind, returns_getBoundingPVC]
          cases href : pv.claimRef with
          | none =>
              simp only [Option.filter_none]
              rw [ih, hskip]
              intro claim h
              obtain ⟨pv', hv, hr⟩ := h.bound
              rw [hpv] at hv
              rw [← Option.some.inj hv, href] at hr
              cases hr
          | some ref =>
              have htaken : ∀ claim, TakenFrom s vol claim → claim = ref := by
                intro claim h
                obtain ⟨pv', hv, hr⟩ := h.bound
                rw [hpv] at hv
                rw [← Option.some.inj hv, href] at hr
                exact (Option.some.inj hr).symm
              by_cases hmem : ref ∈ s.claims
              · simp only [Option.filter_some, hmem, decide_true, if_true]
                rw [Calls.returns_bind, returns_requireNamespaceEditor, ih, ← and_assoc]
                refine and_congr_left fun _ => ⟨?_, fun hall => ⟨?_, ?_⟩⟩
                · rintro ⟨hcan, hall⟩ v hv claim hc
                  rcases List.mem_cons.mp hv with rfl | hv
                  · rw [htaken claim hc]
                    exact hcan
                  · exact hall v hv claim hc
                · exact hall vol List.mem_cons_self ref
                    ⟨not_not.mp ht, hn, ⟨pv, hpv, href⟩, hmem⟩
                · exact fun v hv => hall v (List.mem_cons_of_mem _ hv)
              · simp only [Option.filter_some, hmem, decide_false]
                rw [if_neg (by decide)]
                simp only
                rw [ih, hskip]
                intro claim h
                exact hmem (htaken claim h ▸ h.exists_claim)

theorem strict_checkPermissionOnVolume (P : PolicySet) (client : ClientInfo) (vols : List Volume) :
    Strict ApiError.unavailable (checkPermissionOnVolume P client vols) := by
  induction vols with
  | nil => trivial
  | cons vol vols ih =>
      unfold checkPermissionOnVolume
      split
      · exact ih
      split
      · exact ih
      rw [Action.tryCall_bind]
      refine ⟨⟨_, rfl⟩, fun r => ?_⟩
      beta_reduce
      split
      · exact ih
      · trivial
      · refine Calls.strict_bind ?_ fun pvc => ?_
        · unfold getBoundingPVC
          split
          · trivial
          · exact Calls.strict_bind (Calls.strict_invoke _) fun _ => trivial
        · split
          · exact ih
          · exact Calls.strict_bind (strict_requireNamespaceEditor ..) fun _ => ih

end Checks

/-! ## 4. A failed call ends a save -/

theorem strict_endpoint (getFillsKind : Bool) (ns name : Str) (spec : Option Doc) :
    Strict ApiError.unavailable (updateProtectedEndpointForComponent getFillsKind ns name spec) := by
  cases spec with
  | none =>
      refine ⟨⟨_, rfl⟩, fun r => ?_⟩
      rcases r with e | _
      · cases e <;> trivial
      · trivial
  | some spec =>
      refine ⟨⟨_, rfl⟩, fun r => ?_⟩
      rcases r with e | _
      · cases e with
        | notFound =>
            show Strict _ (createObject _ _ _ >>= fun _ => (pure () : Request Unit))
            exact Calls.strict_bind (Calls.strict_invoke _) fun _ => trivial
        | _ => trivial
      · exact strict_apply ..

theorem refusable_endpoint (getFillsKind : Bool) (ns name : Str) (spec : Option Doc) :
    Refusable ApiError.unavailable
      (updateProtectedEndpointForComponent getFillsKind ns name spec) := by
  cases spec <;> exact ⟨_, _, _, rfl, rfl⟩

theorem strict_createBindings (ns : Str) (l : List (Str × Doc)) :
    Strict ApiError.unavailable (createBindings ns l) := by
  induction l with
  | nil => trivial
  | cons e l ih =>
      refine ⟨⟨_, rfl⟩, fun r => ?_⟩
      rcases r with e | _
      · cases e with
        | alreadyExists => exact ih
        | _ => trivial
      · exact ih

theorem strict_deleteBindings (ns : Str) (l : List Str) :
    Strict ApiError.unavailable (deleteBindings ns l) := by
  induction l with
  | nil => trivial
  | cons name l ih => exact Calls.strict_bind (Calls.strict_invoke _) fun _ => ih

section Save

variable (md5 : ComponentPluginBindingSpec → List UInt8) (getFillsKind : Bool) (x : Chance)
  (req : ComponentRequest)

theorem strict_bindings (ns name : Str) (plugins : List ComponentPluginBinding) :
    Strict ApiError.unavailable (updateComponentPluginBindingsForObject md5 x ns name plugins) := by
  unfold updateComponentPluginBindingsForObject
  split
  · exact Calls.strict_bind (Calls.strict_invoke _) fun _ =>
      Calls.strict_bind (strict_createBindings ..) fun _ => strict_deleteBindings ..
  · trivial

theorem strict_saveRest (name : Str) (component : ResourcesComponent) :
    Strict ApiError.unavailable (saveRest md5 getFillsKind x req name component) :=
  Calls.strict_bind (strict_endpoint ..) fun _ => strict_bindings ..

/-- **A save fails when a call does.** -/
theorem strict_saveComponent (op : SaveOp) :
    Strict ApiError.unavailable (saveComponent md5 getFillsKind x req op) := by
  have hrest : ∀ name component (crd : Doc), Strict ApiError.unavailable
      (saveRest md5 getFillsKind x req name component >>= fun _ => (pure crd : Request Doc)) :=
    fun _ _ _ => Calls.strict_bind (strict_saveRest ..) fun _ => trivial
  cases op with
  | create =>
      refine Calls.strict_bind (strict_requireNamespaceEditor ..) fun _ =>
        Calls.strict_bind (strict_getResourcesComponent _) fun component =>
        Calls.strict_bind (strict_getCrdComponent _) fun spec =>
        Calls.strict_bind (strict_checkPermissionOnVolume ..) fun _ =>
        Calls.strict_bind (Calls.strict_invoke _) fun crd => hrest ..
  | update =>
      refine Calls.strict_bind (strict_getResourcesComponent _) fun component =>
        Calls.strict_bind (strict_getCrdComponent _) fun spec =>
        Calls.strict_bind (strict_requireNamespaceEditor ..) fun _ =>
        Calls.strict_bind (strict_apply ..) fun _ => hrest ..

/-! ## 5. What is written behind the component -/

theorem uses_endpoint (ns name : Str) (spec : Option Doc) :
    Uses (fun c => c.writes = none ∨ c.writes = some .protectedEndpoint)
      (updateProtectedEndpointForComponent getFillsKind ns name spec) := by
  cases spec with
  | none =>
      refine ⟨Or.inr rfl, fun r => ?_⟩
      rcases r with e | _
      · cases e <;> trivial
      · trivial
  | some spec =>
      refine ⟨Or.inl rfl, fun r => ?_⟩
      rcases r with e | _
      · cases e with
        | notFound =>
            show Uses _ (createObject _ _ _ >>= fun _ => (pure () : Request Unit))
            exact Calls.uses_bind (Calls.uses_invoke (Or.inr rfl)) fun _ => trivial
        | _ => trivial
      · exact uses_apply ..

theorem uses_createBindings (ns : Str) (l : List (Str × Doc)) :
    Uses (fun c => c.writes = none ∨ c.writes = some .componentPluginBinding)
      (createBindings ns l) := by
  induction l with
  | nil => trivial
  | cons e l ih =>
      refine ⟨Or.inr rfl, fun r => ?_⟩
      rcases r with e | _
      · cases e with
        | alreadyExists => exact ih
        | _ => trivial
      · exact ih

theorem uses_deleteBindings (ns : Str) (l : List Str) :
    Uses (fun c => c.writes = none ∨ c.writes = some .componentPluginBinding)
      (deleteBindings ns l) := by
  induction l with
  | nil => trivial
  | cons name l ih => exact Calls.uses_bind (Calls.uses_invoke (Or.inr rfl)) fun _ => ih

theorem uses_bindings (ns name : Str) (plugins : List ComponentPluginBinding) :
    Uses (fun c => c.writes = none ∨ c.writes = some .componentPluginBinding)
      (updateComponentPluginBindingsForObject md5 x ns name plugins) := by
  unfold updateComponentPluginBindingsForObject
  split
  · exact Calls.uses_bind (Calls.uses_invoke (Or.inl rfl)) fun _ =>
      Calls.uses_bind (uses_createBindings ..) fun _ => uses_deleteBindings ..
  · trivial

/-- **What is written behind the component leaves the component alone.** -/
theorem saveRest_component (name : Str) (component : ResourcesComponent) :
    Holds (srv.answer seed) .unavailable (saveRest md5 getFillsKind x req name component) s
      fun _ s' => s'.objects .component = s.objects .component := by
  refine holds_objects (Calls.uses_bind ?_ fun _ => ?_)
  · refine Calls.Uses.mono (uses_endpoint ..) fun c hc hk => ?_
    rcases hc with h | h <;> rw [h] at hk <;> cases hk
  · refine Calls.Uses.mono (uses_bindings ..) fun c hc hk => ?_
    rcases hc with h | h <;> rw [h] at hk <;> cases hk

end Save

end Kalm
