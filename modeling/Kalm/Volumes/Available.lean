/-
  File:      Kalm/Volumes/Available.lean
  Subject:   VOLUMES THAT CAN BE USED AGAIN: `findAvailableVolsForSimpleWorkload` of api/handler/volumes.go.

  * `Volume`, `VolPair` -- what is listed, and a volume with its claim;
  * `findAvailableVolsForSimpleWorkload` -- claims of the namespace, and volumes of unused claims of other namespaces
    that the client can edit;
  * `returns_findAvailable`, `perm_availableVols` -- what it returns is one entry for each volume, or none;
  * `Offered`, `Exact` -- what is to be listed, and that it is listed once;
  * `exact_iff` -- the clusters in which it is.
-/
import Kalm.Volumes.Owners

namespace Kalm.Volumes

open Objects (Returns Versioned)

/-! ## 1. The listing -/

/-- `resources.Volume`, the fields that are set. -/
structure Volume where
  name : Str
  isInUse : Bool
  componentNamespace : Str
  componentName : Str
  storageClassName : Str
  capacity : Str
  pvc : Str
  pv : Str
  deriving DecidableEq

/-- `FindBoundingPVCFromList`. -/
def findBoundingPVCFromList (pv : PersistentVolume) (pvcs : List PersistentVolumeClaim) :
    Option PersistentVolumeClaim :=
  pv.claimRef.bind fun ref => pvcs.find? fun pvc => pvc.name = ref.2 && pvc.ns = ref.1

/-- `volPair`. -/
structure VolPair where
  pv : PersistentVolume
  pvc : PersistentVolumeClaim

/-- The volumes whose claim is there, with it. -/
def boundedPVs (pvs : List PersistentVolume) (pvcs : List PersistentVolumeClaim) : List VolPair :=
  pvs.filterMap fun pv => (findBoundingPVCFromList pv pvcs).map (VolPair.mk pv)

/-- `GetComponentNameAndNsFromObjLabels`. -/
def getComponentNameAndNsFromObjLabels (labels : ObjectLabels) : Str × Str :=
  ((labels.lookup kalmLabelComponentKey).getD [], (labels.lookup kalmLabelNamespaceKey).getD [])

/-- The pairs whose claim is free, and those of the namespace whose claim is in use. -/
def divideByUse (ns : Str) : List VolPair → VolumeTask (List VolPair × List VolPair)
  | [] => pure ([], [])
  | p :: rest => do
    let isInUse ← resourceManagerIsPVCInUse p.pvc
    let (freePairs, curNsInUsePairs) ← divideByUse ns rest
    if isInUse then pure (freePairs, if p.pvc.ns = ns then p :: curNsInUsePairs else curNsInUsePairs)
    else pure (p :: freePairs, curNsInUsePairs)

/-- `divideAccordingToNs`. -/
def divideAccordingToNs (pairs : List VolPair) (ns : Str) : List VolPair × List VolPair :=
  (pairs.filter fun p => p.pvc.ns = ns, pairs.filter fun p => p.pvc.ns ≠ ns)

/-- What is listed of a claim. -/
def listed (pvc : PersistentVolumeClaim) (isInUse : Bool) (compName compNs claimName pvName : Str) : Volume where
  name := pvc.name
  isInUse := isInUse
  componentNamespace := compNs
  componentName := compName
  storageClassName := pvc.storageClassName.getD []
  capacity := pvc.storage
  pvc := claimName
  pv := pvName

/-- A claim of the namespace that is free. -/
def sameNsFree (p : VolPair) : Volume :=
  let (compName, compNs) := getComponentNameAndNsFromObjLabels p.pvc.labels
  listed p.pvc false compName compNs p.pvc.name []

/-- A volume of a free claim of another namespace. -/
def diffNsFree (p : VolPair) : Volume :=
  let (compName, compNs) := getComponentNameAndNsFromObjLabels p.pvc.labels
  listed p.pvc false compName compNs [] p.pv.name

/-- A claim of the namespace that is in use; the two results are named the other way around here. -/
def curNsInUse (p : VolPair) : Volume :=
  let (compNs, compName) := getComponentNameAndNsFromObjLabels p.pvc.labels
  listed p.pvc true compName compNs p.pvc.name []

section Client

variable (P : PolicySet) (client : ClientInfo)

/-- The pairs whose namespace the client can edit. -/
def editablePairs : List VolPair → Option (List VolPair)
  | [] => some []
  | p :: rest =>
    match canEditNamespace P client p.pvc.ns with
    | none => none
    | some canEdit => (editablePairs rest).map fun pairs => if canEdit then p :: pairs else pairs

/-- `findAvailableVolsForSimpleWorkload`. -/
def findAvailableVolsForSimpleWorkload (ns : Str) : VolumeTask (List Volume) := do
  let pvs : List (Stored .pv) ← call (.list .pv)
  let pvcs : List (Stored .pvc) ← call (.list .pvc)
  let (freePairs, curNsInUsePairs) ← divideByUse ns (boundedPVs (pvs.map Versioned.obj) (pvcs.map Versioned.obj))
  let (sameNsFreePairs, diffNsFreePairs) := divideAccordingToNs freePairs ns
  match editablePairs P client diffNsFreePairs with
  | none => .crash
  | some diffNsFreePairs =>
    pure (sameNsFreePairs.map sameNsFree ++ diffNsFreePairs.map diffNsFree ++ curNsInUsePairs.map curNsInUse)

end Client

/-! ## 2. What is returned -/

/-- The volumes, the claims and the pods of a cluster. -/
def volumesOf (s : Cluster) : List PersistentVolume := (s.list .pv).map Versioned.obj

def claimsOf (s : Cluster) : List PersistentVolumeClaim := (s.list .pvc).map Versioned.obj

/-- A pod mounts the claim. -/
def inUse (s : Cluster) (pvc : PersistentVolumeClaim) : Bool := isPVCInUse pvc (podsOf pvc.ns (s.list .pod))

variable {s : Cluster} {P : PolicySet} {client : ClientInfo} {ns : Str} {pairs : List VolPair}

theorem inUse_iff {pvc : PersistentVolumeClaim} :
    inUse s pvc = true ↔ ∃ pod ∈ s.list .pod, Mounts pvc pod.obj := by
  unfold inUse isPVCInUse podsOf Mounts namesClaim
  rw [List.any_eq_true]
  constructor
  · intro ⟨pod, hpod, hnames⟩
    obtain ⟨hmem, hns⟩ := List.mem_filter.mp hpod
    obtain ⟨stored, hstored, rfl⟩ := List.mem_map.mp hmem
    exact ⟨stored, hstored, of_decide_eq_true hns, hnames⟩
  · intro ⟨stored, hstored, hns, hnames⟩
    exact ⟨stored.obj, List.mem_filter.mpr ⟨List.mem_map_of_mem hstored, decide_eq_true hns⟩, hnames⟩

theorem returns_isPVCInUse {pvc : PersistentVolumeClaim} {Q : Bool → Cluster → Prop} :
    Returns (resourceManagerIsPVCInUse pvc) s Q ↔ Q (inUse s pvc) s := by
  unfold resourceManagerIsPVCInUse claimInUse
  rw [Calls.Action.tryCall_bind, Returns, Calls.returns_call]
  exact Calls.returns_done

/-- **The pairs are divided by their use**, in their order. -/
theorem returns_divideByUse {Q : List VolPair × List VolPair → Cluster → Prop} :
    Returns (divideByUse ns pairs) s Q ↔
      Q (pairs.filter fun p => inUse s p.pvc = false,
        pairs.filter fun p => inUse s p.pvc && decide (p.pvc.ns = ns)) s := by
  induction pairs generalizing Q with
  | nil => exact Calls.returns_done
  | cons p pairs ih =>
      rw [divideByUse, Objects.returns_bind, returns_isPVCInUse, Objects.returns_bind, ih]
      cases huse : inUse s p.pvc with
      | false =>
          rw [List.filter_cons_of_pos (by rw [huse]; rfl),
            List.filter_cons_of_neg (by rw [huse]; exact Bool.false_ne_true)]
          exact Calls.returns_done
      | true =>
          rw [List.filter_cons_of_neg (by rw [huse]; exact Bool.false_ne_true)]
          refine Calls.returns_done.trans ?_
          by_cases hns : p.pvc.ns = ns
          · rw [List.filter_cons_of_pos (by rw [huse, decide_eq_true hns]; rfl), if_pos hns]
          · rw [List.filter_cons_of_neg (by rw [huse, decide_eq_false hns]; exact Bool.false_ne_true), if_neg hns]

/-- A client that may view a namespace is asked without a panic. -/
theorem editablePairs_eq (hview : canViewNamespace P client ns = some true) (pairs : List VolPair) :
    editablePairs P client pairs = some (pairs.filter fun p => canEditNamespace P client p.pvc.ns = some true) := by
  have hsome (scope : Str) : (canEditNamespace P client scope).isSome := by
    have hsame : (wrapper client fun s => enforce P s (str "edit") scope [star]).isSome =
        (wrapper client fun s => enforce P s (str "view") ns [star]).isSome := wrapper_isSome _ _
    have hview' : wrapper client (fun s => enforce P s (str "view") ns [star]) = some true := hview
    rw [hview'] at hsame
    exact hsame
  induction pairs with
  | nil => rfl
  | cons p pairs ih =>
      obtain ⟨canEdit, hcan⟩ := Option.isSome_iff_exists.mp (hsome p.pvc.ns)
      rw [editablePairs, hcan, ih]
      cases canEdit with
      | true => rw [List.filter_cons_of_pos (by rw [hcan]; rfl)]; rfl
      | false => rw [List.filter_cons_of_neg (by rw [hcan]; decide)]; rfl

/-- The entry for a volume and its claim, if there is one. -/
def entry (s : Cluster) (P : PolicySet) (client : ClientInfo) (ns : Str) (p : VolPair) : Option Volume :=
  if p.pvc.ns = ns then some (if inUse s p.pvc then curNsInUse p else sameNsFree p)
  else if inUse s p.pvc = false ∧ canEditNamespace P client p.pvc.ns = some true then some (diffNsFree p)
  else none

/-- What is returned for the pairs. -/
def availableVols (s : Cluster) (P : PolicySet) (client : ClientInfo) (ns : Str) (pairs : List VolPair) :
    List Volume :=
  let freePairs := pairs.filter fun p => inUse s p.pvc = false
  let (sameNsFreePairs, diffNsFreePairs) := divideAccordingToNs freePairs ns
  sameNsFreePairs.map sameNsFree ++
    (diffNsFreePairs.filter fun p => canEditNamespace P client p.pvc.ns = some true).map diffNsFree ++
    (pairs.filter fun p => inUse s p.pvc && decide (p.pvc.ns = ns)).map curNsInUse

theorem returns_findAvailable (hview : canViewNamespace P client ns = some true)
    {Q : List Volume → Cluster → Prop} :
    Returns (findAvailableVolsForSimpleWorkload P client ns) s Q ↔
      Q (availableVols s P client ns (boundedPVs (volumesOf s) (claimsOf s))) s := by
  unfold findAvailableVolsForSimpleWorkload
  rw [Objects.returns_bind, Objects.returns_list, Objects.returns_bind, Objects.returns_list, Objects.returns_bind,
    returns_divideByUse]
  simp only [editablePairs_eq hview]
  exact Calls.returns_done

/-- A list of which three parts are taken, each in its own way. -/
theorem perm_three_parts {α β : Type} {l : List α} {a b c : α → Bool} {f g h : α → β} {e : α → Option β}
    (ha : ∀ x, a x = true → b x = false ∧ c x = false ∧ e x = some (f x))
    (hb : ∀ x, b x = true → c x = false ∧ e x = some (g x)) (hc : ∀ x, c x = true → e x = some (h x))
    (hnone : ∀ x, a x = false → b x = false → c x = false → e x = none) :
    ((l.filter a).map f ++ (l.filter b).map g ++ (l.filter c).map h).Perm (l.filterMap e) := by
  induction l with
  | nil => exact List.Perm.refl []
  | cons x l ih =>
      rw [List.filter_cons, List.filter_cons, List.filter_cons, List.filterMap_cons]
      cases hax : a x with
      | true =>
          obtain ⟨hbx, hcx, hex⟩ := ha x hax
          rw [hbx, hcx, hex]
          exact ih.cons (f x)
      | false =>
          cases hbx : b x with
          | true =>
              obtain ⟨hcx, hex⟩ := hb x hbx
              rw [hcx, hex]
              exact (List.perm_middle.append_right _).trans (ih.cons (g x))
          | false =>
              cases hcx : c x with
              | true =>
                  rw [hc x hcx]
                  exact List.perm_middle.trans (ih.cons (h x))
              | false =>
                  rw [hnone x hax hbx hcx]
                  exact ih

/-- **Every pair has its entry, or none.** -/
theorem perm_availableVols (pairs : List VolPair) :
    (availableVols s P client ns pairs).Perm (pairs.filterMap (entry s P client ns)) := by
  unfold availableVols divideAccordingToNs
  simp only [List.filter_filter]
  refine perm_three_parts (fun p hp => ?_) (fun p hp => ?_) (fun p hp => ?_) fun p hsame hdiff huse => ?_
  · simp only [Bool.and_eq_true, decide_eq_true_eq] at hp
    simp [entry, hp]
  · simp only [Bool.and_eq_true, decide_eq_true_eq] at hp
    simp [entry, hp]
  · simp only [Bool.and_eq_true, decide_eq_true_eq] at hp
    simp [entry, hp]
  · -- a claim of the namespace is free or in use
    have hns : p.pvc.ns ≠ ns := by
      intro hns
      cases hcase : inUse s p.pvc <;> simp [hns, hcase] at hsame huse
    rw [entry, if_neg hns]
    refine if_neg fun h => ?_
    simp [hns, h] at hdiff

/-! ## 3. What is to be listed -/

/-- What is to be listed of a claim: its labels name the component and its namespace. -/
def offered (pvc : PersistentVolumeClaim) (isInUse : Bool) (claimName pvName : Str) : Volume :=
  listed pvc isInUse ((pvc.labels.lookup kalmLabelComponentKey).getD [])
    ((pvc.labels.lookup kalmLabelNamespaceKey).getD []) claimName pvName

/-- The volume is bound to the claim. -/
def Bound (pv : PersistentVolume) (pvc : PersistentVolumeClaim) : Prop := pv.claimRef = some (pvc.ns, pvc.name)

/-- **What is to be listed**: every claim of the namespace to which a volume is bound, and every volume that is bound
    to a claim of another namespace that no pod mounts and that the client can edit. -/
def Offered (s : Cluster) (P : PolicySet) (client : ClientInfo) (ns : Str) (x : Volume) : Prop :=
  (∃ pvc ∈ claimsOf s, pvc.ns = ns ∧ (∃ pv ∈ volumesOf s, Bound pv pvc) ∧
      ∃ isInUse : Bool, (isInUse = true ↔ ∃ pod ∈ s.list .pod, Mounts pvc pod.obj) ∧
        x = offered pvc isInUse pvc.name []) ∨
    ∃ pv ∈ volumesOf s, ∃ pvc ∈ claimsOf s, Bound pv pvc ∧ pvc.ns ≠ ns ∧
      (¬ ∃ pod ∈ s.list .pod, Mounts pvc pod.obj) ∧ canEditNamespace P client pvc.ns = some true ∧
      x = offered pvc false [] pv.name

/-- **The list is exact**: what is to be listed, and nothing twice. -/
structure Exact (s : Cluster) (P : PolicySet) (client : ClientInfo) (ns : Str) (rst : List Volume) : Prop where
  once : rst.Nodup
  all : ∀ x, x ∈ rst ↔ Offered s P client ns x

/-- **The condition**: no two volumes are bound to one claim of the namespace, and the labels of a claim of the
    namespace that is in use name one text as component and as namespace. -/
structure AvailableMeets (s : Cluster) (ns : Str) : Prop where
  single : ∀ pvc ∈ claimsOf s, pvc.ns = ns → ∀ pv ∈ volumesOf s, ∀ pv' ∈ volumesOf s, Bound pv pvc → Bound pv' pvc →
    pv = pv'
  labels : ∀ pvc ∈ claimsOf s, pvc.ns = ns → (∃ pv ∈ volumesOf s, Bound pv pvc) →
    (∃ pod ∈ s.list .pod, Mounts pvc pod.obj) →
    (pvc.labels.lookup kalmLabelComponentKey).getD [] = (pvc.labels.lookup kalmLabelNamespaceKey).getD []

/-- Objects with one key are one object. -/
theorem eq_of_claim {pvc pvc' : PersistentVolumeClaim} (h : pvc ∈ claimsOf s) (h' : pvc' ∈ claimsOf s)
    (hns : pvc.ns = pvc'.ns) (hname : pvc.name = pvc'.name) : pvc = pvc' := by
  obtain ⟨v, hv, rfl⟩ := List.mem_map.mp h
  obtain ⟨v', hv', rfl⟩ := List.mem_map.mp h'
  exact congrArg Versioned.obj ((s.objects .pvc).eq_of_key hv hv' (Prod.ext hns hname))

theorem nodup_names (s : Cluster) : ((volumesOf s).map PersistentVolume.name).Nodup := by
  have hdistinct := (s.objects Kind.pv).distinct
  have hkeys : (s.objects Kind.pv).items.map Versioned.key =
      ((volumesOf s).map PersistentVolume.name).map fun name => (([] : Str), name) := by
    rw [volumesOf, List.map_map, List.map_map]
    rfl
  rw [hkeys] at hdistinct
  exact hdistinct.of_map _

/-- The claim that is found is the one to which the volume is bound. -/
theorem findBoundingPVC_eq_some {pv : PersistentVolume} {pvc : PersistentVolumeClaim} :
    findBoundingPVCFromList pv (claimsOf s) = some pvc ↔ pvc ∈ claimsOf s ∧ Bound pv pvc := by
  unfold findBoundingPVCFromList Bound
  rw [Option.bind_eq_some_iff]
  constructor
  · intro ⟨ref, href, hfind⟩
    have hsame := List.find?_some hfind
    rw [Bool.and_eq_true, decide_eq_true_eq, decide_eq_true_eq] at hsame
    exact ⟨List.mem_of_find?_eq_some hfind, by rw [href, hsame.1, hsame.2]⟩
  · intro ⟨hmem, href⟩
    refine ⟨_, href, ?_⟩
    cases hfind : (claimsOf s).find? fun pvc' => pvc'.name = pvc.name && pvc'.ns = pvc.ns with
    | none =>
        have hnot := List.find?_eq_none.mp hfind pvc hmem
        exact absurd (by rw [decide_eq_true rfl, decide_eq_true rfl]; rfl) hnot
    | some found =>
        have hsame := List.find?_some hfind
        rw [Bool.and_eq_true, decide_eq_true_eq, decide_eq_true_eq] at hsame
        rw [eq_of_claim (List.mem_of_find?_eq_some hfind) hmem hsame.2 hsame.1]

theorem mem_boundedPVs {p : VolPair} :
    p ∈ boundedPVs (volumesOf s) (claimsOf s) ↔ p.pv ∈ volumesOf s ∧ p.pvc ∈ claimsOf s ∧ Bound p.pv p.pvc := by
  unfold boundedPVs
  rw [List.mem_filterMap]
  constructor
  · intro ⟨pv, hpv, h⟩
    obtain ⟨pvc, hpvc, rfl⟩ := Option.map_eq_some_iff.mp h
    exact ⟨hpv, findBoundingPVC_eq_some.mp hpvc⟩
  · intro ⟨hpv, h⟩
    exact ⟨p.pv, hpv, Option.map_eq_some_iff.mpr ⟨p.pvc, findBoundingPVC_eq_some.mpr h, rfl⟩⟩

/-- Different pairs have volumes of different names. -/
theorem pairwise_boundedPVs (s : Cluster) :
    (boundedPVs (volumesOf s) (claimsOf s)).Pairwise fun p p' => p.pv.name ≠ p'.pv.name := by
  unfold boundedPVs
  rw [List.pairwise_filterMap]
  refine (List.pairwise_map.mp (nodup_names s)).imp fun hne p hp p' hp' => ?_
  obtain ⟨pvc, _, rfl⟩ := Option.map_eq_some_iff.mp hp
  obtain ⟨pvc', _, rfl⟩ := Option.map_eq_some_iff.mp hp'
  exact hne

/-! ## 4. The listing is exact -/

section Exactness

variable {p p' : VolPair} {x : Volume}

theorem entry_eq_some :
    entry s P client ns p = some x ↔
      (p.pvc.ns = ns ∧ x = if inUse s p.pvc then curNsInUse p else sameNsFree p) ∨
        (p.pvc.ns ≠ ns ∧ inUse s p.pvc = false ∧ canEditNamespace P client p.pvc.ns = some true ∧
          x = diffNsFree p) := by
  unfold entry
  by_cases hns : p.pvc.ns = ns
  · rw [if_pos hns, Option.some.injEq, and_iff_right hns, or_iff_left fun h => h.1 hns]
    exact eq_comm
  · rw [if_neg hns, or_iff_right fun h => hns h.1, and_iff_right hns]
    by_cases hfree : inUse s p.pvc = false ∧ canEditNamespace P client p.pvc.ns = some true
    · rw [if_pos hfree, Option.some.injEq, and_iff_right hfree.1, and_iff_right hfree.2]
      exact eq_comm
    · rw [if_neg hfree]
      exact iff_of_false (Option.some_ne_none x).symm fun h => hfree ⟨h.1, h.2.1⟩

/-- The name of the claim, and of the volume, in an entry. -/
theorem fields_own : (if inUse s p.pvc then curNsInUse p else sameNsFree p).name = p.pvc.name ∧
    (if inUse s p.pvc then curNsInUse p else sameNsFree p).pv = [] := by
  split <;> exact ⟨rfl, rfl⟩

/-- The names are the other way around. -/
theorem curNsInUse_eq (h : (p.pvc.labels.lookup kalmLabelComponentKey).getD [] =
    (p.pvc.labels.lookup kalmLabelNamespaceKey).getD []) : curNsInUse p = offered p.pvc true p.pvc.name [] := by
  unfold curNsInUse offered getComponentNameAndNsFromObjLabels
  rw [h]

/-- **Nothing is listed twice** exactly where no two volumes are bound to one claim of the namespace. -/
theorem nodup_entries_iff (hnames : ∀ pv ∈ volumesOf s, pv.name ≠ []) :
    ((boundedPVs (volumesOf s) (claimsOf s)).filterMap (entry s P client ns)).Nodup ↔
      ∀ pvc ∈ claimsOf s, pvc.ns = ns → ∀ pv ∈ volumesOf s, ∀ pv' ∈ volumesOf s, Bound pv pvc → Bound pv' pvc →
        pv = pv' := by
  have hpairs := pairwise_boundedPVs s
  have hmem := fun p : VolPair => mem_boundedPVs (s := s) (p := p)
  rw [List.Nodup, List.pairwise_filterMap]
  constructor
  · intro hnodup pvc hpvc hns pv hpv pv' hpv' hbound hbound'
    by_contra hne
    have hsymm : Std.Symm fun p p' : VolPair => ∀ x, entry s P client ns p = some x →
        ∀ x', entry s P client ns p' = some x' → x ≠ x' := ⟨fun _ _ h x hx x' hx' => (h x' hx' x hx).symm⟩
    have hdistinct := hnodup.forall ((hmem ⟨pv, pvc⟩).mpr ⟨hpv, hpvc, hbound⟩)
      ((hmem ⟨pv', pvc⟩).mpr ⟨hpv', hpvc, hbound'⟩) fun e => hne (VolPair.mk.inj e).1
    refine hdistinct _ (entry_eq_some.mpr (Or.inl ⟨hns, rfl⟩)) _ (entry_eq_some.mpr (Or.inl ⟨hns, rfl⟩)) ?_
    rfl
  · intro hsingle
    refine hpairs.imp_of_mem fun {p p'} hp hp' hne x hx x' hx' heq => ?_
    obtain ⟨hpv, hpvc, hbound⟩ := (hmem p).mp hp
    obtain ⟨hpv', hpvc', hbound'⟩ := (hmem p').mp hp'
    subst heq
    rcases entry_eq_some.mp hx with ⟨hns, rfl⟩ | ⟨_, _, _, rfl⟩
    · rcases entry_eq_some.mp hx' with ⟨hns', heq⟩ | ⟨_, _, _, heq⟩
      · have hname := congrArg Volume.name heq
        rw [fields_own.1, fields_own.1] at hname
        have hsame := eq_of_claim hpvc hpvc' (hns.trans hns'.symm) hname
        exact hne (congrArg PersistentVolume.name
          (hsingle p.pvc hpvc hns p.pv hpv p'.pv hpv' hbound (hsame ▸ hbound')))
      · have hnone := congrArg Volume.pv heq
        rw [fields_own.2] at hnone
        exact hnames p'.pv hpv' hnone.symm
    · rcases entry_eq_some.mp hx' with ⟨_, heq⟩ | ⟨_, _, _, heq⟩
      · have hnone := congrArg Volume.pv heq
        rw [fields_own.2] at hnone
        exact hnames p.pv hpv hnone
      · exact hne (congrArg Volume.pv heq)

/-- **The listing is exact exactly where the condition is met.** -/
theorem exact_entries_iff {rst : List Volume} (hnames : ∀ pv ∈ volumesOf s, pv.name ≠ [])
    (hperm : rst.Perm ((boundedPVs (volumesOf s) (claimsOf s)).filterMap (entry s P client ns))) :
    Exact s P client ns rst ↔ AvailableMeets s ns := by
  have hmem (x : Volume) : x ∈ rst ↔
      ∃ p : VolPair, (p.pv ∈ volumesOf s ∧ p.pvc ∈ claimsOf s ∧ Bound p.pv p.pvc) ∧
        entry s P client ns p = some x := by
    rw [hperm.mem_iff, List.mem_filterMap]
    exact exists_congr fun p => and_congr_left fun _ => mem_boundedPVs
  have honce : rst.Nodup ↔ ∀ pvc ∈ claimsOf s, pvc.ns = ns → ∀ pv ∈ volumesOf s, ∀ pv' ∈ volumesOf s, Bound pv pvc →
      Bound pv' pvc → pv = pv' := hperm.nodup_iff.trans (nodup_entries_iff hnames)
  constructor
  · intro h
    refine ⟨honce.mp h.once, fun pvc hpvc hns hbound hmounted => ?_⟩
    have hoffered : Offered s P client ns (offered pvc true pvc.name []) :=
      Or.inl ⟨pvc, hpvc, hns, hbound, true, iff_of_true rfl hmounted, rfl⟩
    obtain ⟨p, ⟨_, hpvc', _⟩, hentry⟩ := (hmem _).mp ((h.all _).mpr hoffered)
    rcases entry_eq_some.mp hentry with ⟨hns', heq⟩ | ⟨_, _, _, heq⟩
    · have hname := congrArg Volume.name heq
      rw [fields_own.1] at hname
      obtain rfl := eq_of_claim hpvc hpvc' (hns.trans hns'.symm) hname
      rw [if_pos (inUse_iff.mpr hmounted)] at heq
      exact congrArg Volume.componentName heq
    · have huse : true = false := congrArg Volume.isInUse heq
      cases huse
  · intro h
    refine ⟨honce.mpr h.single, fun x => (hmem x).trans ⟨fun hx => ?_, fun hx => ?_⟩⟩
    · obtain ⟨p, ⟨hpv, hpvc, hbound⟩, hentry⟩ := hx
      rcases entry_eq_some.mp hentry with ⟨hns, heq⟩ | ⟨hns, hfree, hcan, heq⟩
      · refine Or.inl ⟨p.pvc, hpvc, hns, ⟨p.pv, hpv, hbound⟩, inUse s p.pvc, inUse_iff, ?_⟩
        cases huse : inUse s p.pvc with
        | false => rwa [huse, if_neg Bool.false_ne_true] at heq
        | true =>
            rw [huse, if_pos rfl] at heq
            rw [heq]
            exact curNsInUse_eq (h.labels p.pvc hpvc hns ⟨p.pv, hpv, hbound⟩ (inUse_iff.mp huse))
      · exact Or.inr ⟨p.pv, hpv, p.pvc, hpvc, hbound, hns, by rw [← inUse_iff, hfree]; exact Bool.false_ne_true,
          hcan, heq⟩
    · rcases hx with ⟨pvc, hpvc, hns, ⟨pv, hpv, hbound⟩, isInUse, huse, rfl⟩ |
        ⟨pv, hpv, pvc, hpvc, hbound, hns, hfree, hcan, rfl⟩
      · refine ⟨⟨pv, pvc⟩, ⟨hpv, hpvc, hbound⟩, entry_eq_some.mpr (Or.inl ⟨hns, ?_⟩)⟩
        cases isInUse with
        | false => rw [if_neg fun hused => Bool.false_ne_true (huse.mpr (inUse_iff.mp hused))]; rfl
        | true =>
            have hmounted := huse.mp rfl
            rw [if_pos (inUse_iff.mpr hmounted)]
            exact (curNsInUse_eq (p := ⟨pv, pvc⟩) (h.labels pvc hpvc hns ⟨pv, hpv, hbound⟩ hmounted)).symm
      · refine ⟨⟨pv, pvc⟩, ⟨hpv, hpvc, hbound⟩, entry_eq_some.mpr (Or.inr ⟨hns, ?_, hcan, rfl⟩)⟩
        exact Bool.eq_false_iff.mpr fun huse => hfree (inUse_iff.mp huse)

end Exactness

/-- Of what is returned. -/
theorem exact_findAvailable (hview : canViewNamespace P client ns = some true)
    (hnames : ∀ pv ∈ volumesOf s, pv.name ≠ []) :
    Returns (findAvailableVolsForSimpleWorkload P client ns) s (fun rst t => t = s ∧ Exact s P client ns rst) ↔
      AvailableMeets s ns := by
  rw [returns_findAvailable hview, and_iff_right rfl]
  exact exact_entries_iff hnames (perm_availableVols _)

/-- **The listing of a client that may view the namespace is exact, exactly where the condition is met.** -/
theorem exact_iff (s : Cluster) (P : PolicySet) (client : ClientInfo) (ns : Str)
    (hview : canViewNamespace P client ns = some true) (hnames : ∀ pv ∈ volumesOf s, pv.name ≠ []) :
    Returns (findAvailableVolsForSimpleWorkload P client ns) s (fun rst t => t = s ∧ Exact s P client ns rst) ↔
      AvailableMeets s ns := exact_findAvailable hview hnames

/-- A client that may view everything. -/
def viewers : PolicySet := ⟨[[str "user-bob", str "view", [star], [star]]], []⟩

def bob : ClientInfo := ⟨str "bob", none, [], []⟩

theorem canView_bob : canViewNamespace viewers bob (str "bank") = some true := by decide +kernel

/-- A volume with a claim that no pod mounts. -/
theorem exact_iff_ledger :
    Returns (findAvailableVolsForSimpleWorkload viewers bob (str "bank"))
        ((emptyCluster.put Kind.pv ledgerVolume).put Kind.pvc ledgerClaim)
        (fun rst t => t = (emptyCluster.put Kind.pv ledgerVolume).put Kind.pvc ledgerClaim ∧
          Exact ((emptyCluster.put Kind.pv ledgerVolume).put Kind.pvc ledgerClaim) viewers bob (str "bank") rst) := by
  refine (exact_iff _ viewers bob (str "bank") canView_bob (by decide)).mpr ⟨?_, ?_⟩
  · intro pvc _ _ pv hpv pv' hpv' _ _
    exact (List.mem_singleton.mp hpv).trans (List.mem_singleton.mp hpv').symm
  · rintro pvc _ _ _ ⟨pod, hpod, _⟩
    cases hpod

/-- The claim of a component, mounted by a pod of it. -/
def labelledCluster : Cluster :=
  ((emptyCluster.put Kind.pv ledgerVolume).put Kind.pvc
    { ledgerClaim with
      labels := (ledgerClaim.labels.insert kalmLabelComponentKey (str "db")).insert kalmLabelNamespaceKey
        (str "bank") }).put Kind.pod ⟨str "bank", str "ledger-0", ∅, [some (str "ledger")]⟩

/-- A claim in use is listed with its component and its namespace exchanged. -/
theorem exact_listing_fails :
    ¬ ∀ (s : Cluster) (P : PolicySet) (client : ClientInfo) (ns : Str), canViewNamespace P client ns = some true →
      (∀ pv ∈ volumesOf s, pv.name ≠ []) →
      Returns (findAvailableVolsForSimpleWorkload P client ns) s fun rst t => t = s ∧ Exact s P client ns rst := by
  intro h
  have hnames : ∀ pv ∈ volumesOf labelledCluster, pv.name ≠ [] := by decide
  have hmeets := (exact_findAvailable canView_bob hnames).mp (h labelledCluster viewers bob _ canView_bob hnames)
  have hsame := hmeets.labels _ List.mem_cons_self rfl ⟨ledgerVolume, List.mem_cons_self, rfl⟩
    ⟨_, List.mem_cons_self, rfl, by decide⟩
  revert hsame
  decide

end Kalm.Volumes
