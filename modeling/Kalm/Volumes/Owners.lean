/-
  File:      Kalm/Volumes/Owners.lean
  Subject:   WHO OWNS A CLAIM: `reconcileForPVCOwnerChange` of controller/controllers/kalm_pvc_controller.go.

  * `reconcileForPVCOwnerChange` -- the labels of a claim are those of the first pod that mounts a claim of its name;
  * `OwnerFollows` -- they are those of a pod that mounts the claim, or the claim is left alone;
  * `ownerFollows_iff` -- the lists of pods for which it is so.
-/
import Kalm.Lib.Histories
import Kalm.Volumes.InUse

namespace Kalm.Volumes

open Objects (Error Versioned)
open Calls (Performed Traces)

/-! ## 1. The controller of the claims -/

/-- The pods that are managed. -/
def managedPods (pods : List (Stored .pod)) : List Pod :=
  (pods.map fun pod => (pod.obj : Pod)).filter fun pod => pod.labels.lookup kalmLabelManaged = some (str "true")

/-- The pod has a volume with the name of the claim. -/
def namesClaim (pvc : PersistentVolumeClaim) (pod : Pod) : Bool := pod.volumes.contains (some pvc.name)

/-- The claim with the labels of the component of a pod. -/
def ownedBy (pod : Pod) (pvc : PersistentVolumeClaim) : PersistentVolumeClaim :=
  { pvc with
    labels := ((pvc.labels.insert kalmLabelComponentKey ((pod.labels.lookup kalmLabelComponentKey).getD [])).insert
      kalmLabelNamespaceKey pod.ns).insert kalmLabelManaged (str "true") }

/-- `reconcileForPVCOwnerChange`: the first pod with such a volume ends both loops. -/
def reconcileForPVCOwnerChange (pvc : Stored .pvc) : VolumeTask Unit := do
  let pods : List (Stored .pod) ← call (.list .pod)
  match (managedPods pods).find? (namesClaim pvc.obj) with
  | none => pure ()
  | some pod => call (.update .pvc ⟨ownedBy pod pvc.obj, pvc.version⟩)

/-! ## 2. What is intended -/

/-- The pod mounts the claim: it is in the namespace of the claim, and has a volume with its name. -/
def Mounts (pvc : PersistentVolumeClaim) (pod : Pod) : Prop := pod.ns = pvc.ns ∧ namesClaim pvc pod = true

/-- **The owner of a claim is a component of its namespace**: every update of the claim has the namespace of the claim
    and the component of a pod that mounts it; and where no pod mounts it, there is none. -/
structure OwnerFollows (pvc : Stored .pvc) (pods : List Pod) (h : History) : Prop where
  updated : ∀ x ∈ h, x.1 ≠ .list .pod → ∃ u : PersistentVolumeClaim, x.1 = .update .pvc ⟨u, pvc.version⟩ ∧
    u.ns = PersistentVolumeClaim.ns pvc.obj ∧ u.name = PersistentVolumeClaim.name pvc.obj ∧
    u.labels.lookup kalmLabelNamespaceKey = some (PersistentVolumeClaim.ns pvc.obj) ∧
    ∃ pod ∈ pods, Mounts pvc.obj pod ∧
      u.labels.lookup kalmLabelComponentKey = some ((pod.labels.lookup kalmLabelComponentKey).getD [])
  unchanged : (∀ pod ∈ pods, ¬ Mounts pvc.obj pod) → ∀ x ∈ h, x.1 = .list .pod

/-- **The condition**: the first pod with a volume of this name is in the namespace of the claim. -/
def FirstIsOwn (pvc : PersistentVolumeClaim) (pods : List Pod) : Prop :=
  ∀ pod, pods.find? (namesClaim pvc) = some pod → pod.ns = pvc.ns

/-! ## 3. The histories -/

variable {pvc : Stored .pvc} {pods : List (Stored .pod)} {h : History} {o : Calls.Outcome Error Unit}

theorem lookup_ownedBy (pod : Pod) (pvc : PersistentVolumeClaim) :
    (ownedBy pod pvc).labels.lookup kalmLabelNamespaceKey = some pod.ns ∧
      (ownedBy pod pvc).labels.lookup kalmLabelComponentKey =
        some ((pod.labels.lookup kalmLabelComponentKey).getD []) := by
  have hmanaged : kalmLabelNamespaceKey ≠ kalmLabelManaged := by decide
  have hcomponent : kalmLabelComponentKey ≠ kalmLabelManaged := by decide
  have hns : kalmLabelComponentKey ≠ kalmLabelNamespaceKey := by decide
  unfold ownedBy
  rw [Finmap.lookup_insert_of_ne _ hmanaged, Finmap.lookup_insert, Finmap.lookup_insert_of_ne _ hcomponent,
    Finmap.lookup_insert_of_ne _ hns, Finmap.lookup_insert]
  exact ⟨rfl, rfl⟩

/-- **What the reconcile does**: it lists the pods, and updates the claim for the first one that names it. -/
theorem traces_reconcileForPVCOwnerChange :
    Traces (reconcileForPVCOwnerChange pvc) h o ↔
      (∃ e, h = [⟨.list .pod, .error e⟩] ∧ o = .failed e) ∨
      (∃ pods : List (Stored .pod), h = [⟨.list .pod, .ok pods⟩] ∧ o = .returned () ∧
        (managedPods pods).find? (namesClaim pvc.obj) = none) ∨
      ∃ (pods : List (Stored .pod)) (pod : Pod) (r : Except Error Unit),
        h = [⟨.list .pod, .ok pods⟩, ⟨.update .pvc ⟨ownedBy pod pvc.obj, pvc.version⟩, r⟩] ∧
        (managedPods pods).find? (namesClaim pvc.obj) = some pod ∧
        o = r.casesOn .failed .returned := by
  unfold reconcileForPVCOwnerChange
  rw [Calls.traces_invoke]
  constructor
  · rintro (⟨pods, rest, rfl, hrest⟩ | ⟨e, rfl, ho⟩)
    · cases hfind : (managedPods pods).find? (namesClaim pvc.obj) with
      | none =>
          rw [hfind] at hrest
          obtain ⟨rfl, ho⟩ := hrest
          exact Or.inr (Or.inl ⟨pods, rfl, ho, hfind⟩)
      | some pod =>
          rw [hfind] at hrest
          obtain ⟨r, rest, rfl, hrest⟩ := hrest
          refine Or.inr (Or.inr ⟨pods, pod, r, ?_, hfind, ?_⟩)
          · cases r <;> obtain ⟨rfl, _⟩ := hrest <;> rfl
          · cases r <;> exact hrest.2
    · exact Or.inl ⟨e, rfl, ho⟩
  · rintro (⟨e, rfl, ho⟩ | ⟨pods, rfl, ho, hfind⟩ | ⟨pods, pod, r, rfl, hfind, ho⟩)
    · exact Or.inr ⟨e, rfl, ho⟩
    · refine Or.inl ⟨pods, [], rfl, ?_⟩
      rw [hfind]
      exact ⟨rfl, ho⟩
    · refine Or.inl ⟨pods, [_], rfl, ?_⟩
      rw [hfind]
      refine ⟨r, [], rfl, ?_⟩
      cases r <;> exact ⟨rfl, ho⟩

/-- For a list of pods. -/
theorem ownerFollows_of_pods (pvc : Stored .pvc) (pods : List (Stored .pod)) :
    (∀ h o, Traces (reconcileForPVCOwnerChange pvc) h o → ⟨.list .pod, .ok pods⟩ ∈ h →
      OwnerFollows pvc (managedPods pods) h) ↔ FirstIsOwn pvc.obj (managedPods pods) := by
  constructor
  · intro h pod hfind
    have htraces := traces_reconcileForPVCOwnerChange.mpr
      (Or.inr (Or.inr ⟨pods, pod, .ok (), rfl, hfind, rfl⟩) : _ ∨ _ ∨ _)
    obtain ⟨u, hu, _, _, hns, _⟩ := (h _ _ htraces List.mem_cons_self).updated _
      (List.mem_cons_of_mem _ List.mem_cons_self) (fun e => by cases e)
    have hobj : ownedBy pod pvc.obj = u := by
      cases hu
      rfl
    rw [← hobj, (lookup_ownedBy pod pvc.obj).1] at hns
    exact Option.some.inj hns
  · intro hfirst h o htraces hmem
    rcases traces_reconcileForPVCOwnerChange.mp htraces with
      ⟨e, rfl, _⟩ | ⟨pods', rfl, _, _⟩ | ⟨pods', pod, r, rfl, hfind, _⟩
    · rw [List.mem_singleton] at hmem
      cases hmem
    · have hlist : ∀ x ∈ [(⟨.list .pod, .ok pods'⟩ : Performed (Objects.Call schema) Objects.Call.Reply Error)],
          x.1 = .list .pod := fun x hx => by rw [List.mem_singleton.mp hx]
      exact ⟨fun x hx hnot => absurd (hlist x hx) hnot, fun _ => hlist⟩
    · obtain rfl : pods = pods' := by
        rcases List.mem_cons.mp hmem with heq | hmem
        · cases heq
          rfl
        · rw [List.mem_singleton] at hmem
          cases hmem
      have hmounts : Mounts pvc.obj pod := ⟨hfirst pod hfind, List.find?_some hfind⟩
      have hpod := List.mem_of_find?_eq_some hfind
      refine ⟨fun x hx hnot => ?_, fun hnone => absurd hmounts (hnone pod hpod)⟩
      rcases List.mem_cons.mp hx with rfl | hx
      · exact absurd rfl hnot
      · rw [List.mem_singleton] at hx
        subst hx
        obtain ⟨hns, hcomponent⟩ := lookup_ownedBy pod pvc.obj
        exact ⟨_, rfl, rfl, rfl, by rw [hns, hmounts.1], pod, hpod, hmounts, hcomponent⟩

/-- **The owner is a component of the namespace of the claim, exactly where the first pod is one of it.** -/
theorem ownerFollows_iff (pvc : Stored .pvc) (pods : List (Stored .pod)) :
    (∀ h o, Traces (reconcileForPVCOwnerChange pvc) h o → ⟨.list .pod, .ok pods⟩ ∈ h →
      OwnerFollows pvc (managedPods pods) h) ↔ FirstIsOwn pvc.obj (managedPods pods) := ownerFollows_of_pods pvc pods

/-- A pod of a component. -/
def componentPod (ns component claim : Str) : Stored .pod :=
  ⟨{ ns := ns
     name := component
     labels := ((∅ : ObjectLabels).insert kalmLabelManaged (str "true")).insert kalmLabelComponentKey component
     volumes := [some claim] }, 1⟩

/-- A pod of another namespace mounts a claim of the same name, and is listed first. -/
theorem ownerFollows_fails :
    ¬ ∀ (pvc : Stored .pvc) (pods : List (Stored .pod)) h o, Traces (reconcileForPVCOwnerChange pvc) h o →
      ⟨.list .pod, .ok pods⟩ ∈ h → OwnerFollows pvc (managedPods pods) h := by
  intro hall
  have hfirst := (ownerFollows_of_pods ⟨ledgerClaim, 1⟩
    [componentPod (str "shop") (str "web") (str "ledger"), componentPod (str "bank") (str "db") (str "ledger")]).mp
    fun h o => hall _ _ h o
  exact absurd (hfirst _ rfl) (by decide)

end Kalm.Volumes
