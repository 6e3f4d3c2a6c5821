/-
  File:      Kalm/Component/Volumes.lean
  Subject:   DISKS OF OTHER NAMESPACES: a component with a volume whose `PVToMatch` names a PV has the
             controller take that PV from the claim it is bound to.

  `createComponent` asks whether the client may edit the namespace of that claim; `updateComponent`
  never asks.

  * `saved_component` -- what a save that succeeds has checked and stored;
  * `NoDiskTaken` -- the client of a save that succeeds may edit every namespace a stored volume
    takes a disk from;
  * `noDiskTaken_of_checked` -- it holds along every run in which the updates ask for disks the check
    of `createComponent` would grant.
-/
import Kalm.Component.Steps
import Kalm.Lib.Runs

namespace Kalm

open MergePatch (Json)
open Calls (Fault Returns)
open Runs (Always)

variable {srv : ApiServer} {md5 : ComponentPluginBindingSpec → List UInt8}

/-! ## 1. What a save that succeeds stores -/

/-- What a save that succeeds has read, checked and stored. -/
structure Saved (srv : ApiServer) (op : SaveOp) (req : ComponentRequest) (x : Chance)
    (s s' : Cluster) (component : ResourcesComponent) (spec : Doc) : Prop where
  body : req.body = some component
  hasSpec : component.componentSpec = some spec
  entitled : canEditNamespace req.policies req.client req.applicationName = some true
  checked : op = .create → DisksEditable req.policies req.client (volumesOf spec) s
  found : op = .update → (s.get .component (req.key component)).isSome
  stored : s'.specAt .component (req.key component) =
    some (srv.default x.seed .component (req.key component) spec)
  volumes : s'.volumes = s.volumes
  claims : s'.claims = s.claims

/-- Behind the component nothing of it changes. -/
theorem specAt_saveRest {x : Chance} {req : ComponentRequest} {name : Str}
    {component : ResourcesComponent} {crd : Doc} {s s' : Cluster} {Q : Doc → Cluster → Prop}
    (h : Returns (srv.answer x.seed) .unavailable
      (saveRest md5 srv.getFillsKind x req name component >>= fun _ => (pure crd : Request Doc)) s Q)
    (hQ : ∀ c t, Q c t → t = s') (key : NamespacedName) :
    s'.specAt .component key = s.specAt .component key := by
  obtain ⟨_, t, hrest, hobj⟩ := (saveRest_component md5 srv.getFillsKind x req name component).returned
    (Calls.returns_bind.mp h)
  rw [← hQ _ _ (Calls.returns_done.mp hrest), Cluster.specAt, Cluster.get_congr hobj, Cluster.specAt]

/-- **A save that succeeds.** -/
theorem saved_component {op : SaveOp} {req : ComponentRequest} {x : Chance} {faults : List Fault}
    {s s' : Cluster} {crd : Doc} (h : runSave srv md5 op req x faults s = (.returned crd, s')) :
    ∃ component spec, Saved srv op req x s s' component spec := by
  -- no call has failed, so the run is the one without faults
  have hserved : Returns (srv.answer x.seed) .unavailable
      (saveComponent md5 srv.getFillsKind x req op) s fun _ t => t = s' := by
    have hstrict := strict_saveComponent md5 srv.getFillsKind x req op
    rcases Calls.Strict.run_eq hstrict faults s with ⟨e, he⟩ | heq
    · rw [runSave] at h
      rw [h] at he
      cases he
    · exact ⟨crd, s', heq.symm.trans h, rfl⟩
  have hdisks : Calls.Holds (srv.answer x.seed) .unavailable
      (saveComponent md5 srv.getFillsKind x req op) s fun _ t =>
        t.volumes = s.volumes ∧ t.claims = s.claims := holds_disks _
  obtain ⟨_, t, ht, hv, hc⟩ := hdisks.returned hserved
  subst ht
  cases op with
  | create =>
      have h1 := (returns_requireNamespaceEditor.mp (Calls.returns_bind.mp hserved))
      obtain ⟨component, hbody, h2⟩ := returns_getResourcesComponent.mp (Calls.returns_bind.mp h1.2)
      obtain ⟨spec, hspec, h3⟩ := returns_getCrdComponent.mp (Calls.returns_bind.mp h2)
      obtain ⟨hdisks, h4⟩ := returns_checkPermissionOnVolume.mp (Calls.returns_bind.mp h3)
      obtain ⟨stored, hadmits, _, h5⟩ := returns_createObject.mp (Calls.returns_bind.mp h4)
      refine ⟨component, spec, hbody, hspec, h1.1, fun _ => hdisks, nofun, ?_, hv, hc⟩
      rw [specAt_saveRest h5 (fun _ _ e => e)]
      exact specAt_created hadmits
  | update =>
      obtain ⟨component, hbody, h2⟩ := returns_getResourcesComponent.mp (Calls.returns_bind.mp hserved)
      obtain ⟨spec, hspec, h3⟩ := returns_getCrdComponent.mp (Calls.returns_bind.mp h2)
      obtain ⟨hcan, h4⟩ := returns_requireNamespaceEditor.mp (Calls.returns_bind.mp h3)
      obtain ⟨_, s₁, hset, h5⟩ := returns_apply.mp (Calls.returns_bind.mp h4)
      refine ⟨component, spec, hbody, hspec, hcan, nofun, fun _ => ?_, ?_, hv, hc⟩
      · obtain ⟨fetched, hf, _⟩ := hset
        exact Option.isSome_iff_exists.mpr ⟨fetched, hf⟩
      · rw [specAt_saveRest h5 (fun _ _ e => e)]
        exact hset.specAt

/-! ## 2. Disks -/

/-- Defaulting a volume does not change what it takes. -/
theorem takenFrom_default {vol : Volume} {genPVCName : Str} {s : Cluster} {claim : NamespacedName}
    (h : TakenFrom s (vol.default genPVCName) claim) : TakenFrom s vol claim := by
  have hsame : (vol.default genPVCName).type = vol.type ∧
      (vol.default genPVCName).pvToMatch = vol.pvToMatch := by
    unfold Volume.default
    split
    · split
      · exact ⟨rfl, rfl⟩
      · split <;> exact ⟨rfl, rfl⟩
    · split <;> exact ⟨rfl, rfl⟩
    · split <;> exact ⟨rfl, rfl⟩
    · exact ⟨rfl, rfl⟩
  exact ⟨hsame.1 ▸ h.type, hsame.2 ▸ h.named, hsame.2 ▸ h.bound, h.exists_claim⟩

/-- What is stored takes disks from the same claims as what was asked for. -/
theorem Saved.disksEditable {op : SaveOp} {req : ComponentRequest} {x : Chance} {s s' : Cluster}
    {component : ResourcesComponent} {spec : Doc} (h : Saved srv op req x s s' component spec)
    (hd : DisksEditable req.policies req.client (volumesOf spec) s) {stored : Doc}
    (hs : s'.specAt .component (req.key component) = some stored) :
    DisksEditable req.policies req.client (volumesOf stored) s' := by
  intro vol hvol claim htaken
  rw [h.stored] at hs
  obtain ⟨genPVCName, hv⟩ := srv.volumes_default x.seed (req.key component) spec
  rw [← Option.some.inj hs, hv] at hvol
  obtain ⟨i, hi, rfl⟩ := List.mem_mapIdx.mp hvol
  have hdefault := takenFrom_default htaken
  refine hd _ (List.getElem_mem hi) claim ⟨hdefault.type, hdefault.named, ?_, ?_⟩
  · exact h.volumes ▸ hdefault.bound
  · exact h.claims ▸ hdefault.exists_claim

/-- What happens to the cluster: a save, or anything else. -/
inductive ClusterEvent where
  | save (op : SaveOp) (req : ComponentRequest) (x : Chance) (faults : List Fault)
  | other (s : Cluster)

/-- One event. -/
def clusterStep (srv : ApiServer) (md5 : ComponentPluginBindingSpec → List UInt8) (s : Cluster) :
    ClusterEvent → Cluster
  | .save op req x faults => (runSave srv md5 op req x faults s).2
  | .other s' => s'

/-- The client of a save that succeeds may edit the namespace of every claim that a stored volume of
    the component takes a disk from. -/
def NoDiskTaken (srv : ApiServer) (md5 : ComponentPluginBindingSpec → List UInt8) (s : Cluster)
    (e : ClusterEvent) : Prop :=
  ∀ op req x faults crd s', e = .save op req x faults →
    runSave srv md5 op req x faults s = (.returned crd, s') →
    ∀ component stored, req.body = some component →
      s'.specAt .component (req.key component) = some stored →
      DisksEditable req.policies req.client (volumesOf stored) s'

/-- An update of a stored component by a client who may edit its namespace asks for disks of claims
    whose namespaces the client may edit. -/
def ChecksDisks (s : Cluster) (e : ClusterEvent) : Prop :=
  ∀ req x faults component spec, e = .save .update req x faults →
    req.body = some component → component.componentSpec = some spec →
    canEditNamespace req.policies req.client req.applicationName = some true →
    (s.get .component (req.key component)).isSome →
    DisksEditable req.policies req.client (volumesOf spec) s

/-- **One event.** -/
theorem noDiskTaken_step (srv : ApiServer) (md5 : ComponentPluginBindingSpec → List UInt8)
    (s : Cluster) (e : ClusterEvent) (h : ChecksDisks s e) : NoDiskTaken srv md5 s e := by
  intro op req x faults crd s' he hrun component stored hbody hs
  obtain ⟨component', spec, hsaved⟩ := saved_component hrun
  obtain rfl : component' = component := Option.some.inj (hsaved.body.symm.trans hbody)
  refine hsaved.disksEditable ?_ hs
  cases op with
  | create => exact hsaved.checked rfl
  | update => exact h req x faults component' spec he hbody hsaved.hasSpec hsaved.entitled (hsaved.found rfl)

/-- **Along every run in which each update asks for disks its client may take, no save takes a disk
    from a namespace its client may not edit.** -/
theorem noDiskTaken_of_checked (srv : ApiServer) (md5 : ComponentPluginBindingSpec → List UInt8)
    (s : Cluster) (events : List ClusterEvent)
    (h : Always (clusterStep srv md5) ChecksDisks s events) :
    Always (clusterStep srv md5) (NoDiskTaken srv md5) s events :=
  Runs.Always.mono (noDiskTaken_step srv md5) h

/-- A cluster with the component `shop/web`, and a PV bound to the claim `bank/ledger`. -/
def ledgerCluster : Cluster where
  objects := Function.update (fun _ => ∅) .component
    (AList.singleton (str "shop", str "web") (setSpec emptyDoc emptyDoc))
  volumes name := if name = str "pv-ledger" then some ⟨some (str "bank", str "ledger")⟩ else none
  claims := [(str "bank", str "ledger")]

/-- A volume that asks for the disk of `bank/ledger`. -/
def ledgerVolume : Volume :=
  ⟨.persistentVolumeClaim, str "/data", [], str "pv-ledger", str "data", []⟩

/-- An update of `shop/web` by a user with a role, who asks for that disk. -/
def ledgerRequest (role ns : String) : ComponentRequest where
  policies := ⟨[[str role, str "edit", str ns, [star]]], [[str "user-eve", str role]]⟩
  client := ⟨str "eve", some [], [], []⟩
  applicationName := str "shop"
  nameParam := str "web"
  body := some
    { name := str "web"
      plugins := []
      componentSpec := some (emptyDoc.setField (str "volumes") (.leaf (.volumes [ledgerVolume])))
      protectedEndpointSpec := none }

/-- An owner of everything may take it. -/
theorem noDiskTaken_owner :
    Always (clusterStep (plainServer true) fun _ => []) (NoDiskTaken (plainServer true) fun _ => [])
      ledgerCluster [.save .update (ledgerRequest "role_clusterEditor" "*") plainChance []] := by
  refine noDiskTaken_of_checked _ _ _ _ ⟨?_, trivial⟩
  intro req x faults component spec he hbody hspec _ _ vol hvol claim htaken
  cases he
  cases hbody
  cases hspec
  obtain ⟨pv, hpv, href⟩ := htaken.bound
  have hclaim : claim ∈ [(str "bank", str "ledger")] := htaken.exists_claim
  rw [List.mem_singleton.mp hclaim]
  decide

theorem noDiskTaken_fails :
    ¬ ∀ (srv : ApiServer) (md5 : ComponentPluginBindingSpec → List UInt8) (s : Cluster)
      (events : List ClusterEvent), Always (clusterStep srv md5) (NoDiskTaken srv md5) s events := by
  intro h
  have hstep := (h (plainServer true) (fun _ => []) ledgerCluster
    [.save .update (ledgerRequest "role_shopEditor" "shop") plainChance []]).1
  have hreturns : (match (runSave (plainServer true) (fun _ => []) .update
      (ledgerRequest "role_shopEditor" "shop") plainChance [] ledgerCluster).1 with
        | .returned _ => true | _ => false) = true := by decide
  rcases hrun : runSave (plainServer true) (fun _ => []) .update
    (ledgerRequest "role_shopEditor" "shop") plainChance [] ledgerCluster with ⟨o, s'⟩
  rw [hrun] at hreturns
  cases o with
  | failed e => cases hreturns
  | crashed => cases hreturns
  | returned crd =>
      obtain ⟨component, spec, hsaved⟩ := saved_component hrun
      have hdisks := hstep _ _ _ _ crd s' rfl hrun component _ hsaved.body hsaved.stored
      cases hsaved.body
      cases hsaved.hasSpec
      have hcan := hdisks ledgerVolume (by decide) (str "bank", str "ledger")
        ⟨rfl, by decide, by rw [hsaved.volumes]; exact ⟨_, rfl, rfl⟩, by rw [hsaved.claims]; decide⟩
      exact absurd hcan (by decide)

end Kalm
