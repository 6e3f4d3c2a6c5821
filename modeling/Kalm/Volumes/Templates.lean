/-
  File:      Kalm/Volumes/Templates.lean
  Subject:   CLAIMS OF STATEFULSETS: `findAvailableVolsForSts` of api/handler/volumes.go takes a claim template back
             from the names of its claims.

  * `lastIndex`, `matchesStsPVC`, `pvcNamePrefix` -- the name of a claim in front of its ordinal;
  * `findAvailableVolsForSts` -- one entry for each such name, from the first claim that has it;
  * `claimName`, `Created` -- the claims that Kubernetes creates for the components of a namespace;
  * `StsExact` -- there is one entry for each pair of a template and a component;
  * `stsExact_iff` -- this is so exactly where different pairs have different names.
-/
import Kalm.Component.Disks
import Kalm.Lib.Sorting
import Kalm.Sso.Urls
import Kalm.Volumes.Available

namespace Kalm.Volumes

open Objects (Returns Versioned)
open Disks (Component claimTemplates)
open Sso (isDigit_of_mem_itoa dash_not_mem_itoa append_itoa_inj)

/-! ## 1. Names -/

/-- `strings.LastIndex`. -/
def lastIndex : Str → Str → Option Nat
  | [], sub => if sub = [] then some 0 else none
  | b :: s, sub =>
    match lastIndex s sub with
    | some idx => some (idx + 1)
    | none => if sub.isPrefixOf (b :: s) then some 0 else none

/-- `stsPVCRegex`: the name ends with digits behind a dash, and in front of the dash is no newline. -/
def matchesStsPVC (name : Str) : Bool :=
  let digits := name.reverse.takeWhile isDigit
  match name.reverse.dropWhile isDigit with
  | d :: b :: _ => digits ≠ [] && d = dash && b ≠ newline
  | _ => false

/-- The name of a claim in front of its ordinal; a claim without a component, or with another name, is left out. -/
def pvcNamePrefix (pvc : PersistentVolumeClaim) : Option Str :=
  if (getComponentNameAndNsFromObjLabels pvc.labels).1 = [] then none
  else if matchesStsPVC pvc.name = false then none
  else (lastIndexByte pvc.name dash).map fun idx => pvc.name.take idx

/-! ## 2. The listing -/

/-- A claim with the front of its name, and whether it is in use. -/
structure StsPVC where
  front : Str
  pvc : PersistentVolumeClaim
  isInUse : Bool

/-- The loop over the claims. -/
def stsPVCs : List PersistentVolumeClaim → VolumeTask (List StsPVC)
  | [] => pure []
  | pvc :: rest =>
    match pvcNamePrefix pvc with
    | none => stsPVCs rest
    | some front => do
      let isInUse ← resourceManagerIsPVCInUse pvc
      let kept ← stsPVCs rest
      pure (⟨front, pvc, isInUse⟩ :: kept)

/-- The entry for the claims with one front; it has the labels of the first of them. -/
def stsEntry (kept : List StsPVC) (front : Str) : Option Volume :=
  let pvcs := kept.filter fun x => x.front = front
  pvcs.head?.bind fun x =>
    let (compName, compNs) := getComponentNameAndNsFromObjLabels x.pvc.labels
    (lastIndex front (dash :: compName)).map fun idx =>
      let volClaimTplName := front.take idx
      { name := volClaimTplName
        isInUse := pvcs.any StsPVC.isInUse
        componentNamespace := compNs
        componentName := compName
        storageClassName := x.pvc.storageClassName.getD []
        capacity := x.pvc.storage
        pvc := volClaimTplName
        pv := [] }

/-- Free volumes come first. -/
def freeFirst (a b : Volume) : Bool := if a.isInUse ≠ b.isInUse then !a.isInUse else false

/-- The claims of a namespace that the program looks at. -/
def Managed (ns : Str) (pvc : PersistentVolumeClaim) : Prop :=
  pvc.ns = ns ∧ pvc.labels.lookup kalmLabelManaged = some (str "true")

instance (ns : Str) (pvc : PersistentVolumeClaim) : Decidable (Managed ns pvc) :=
  inferInstanceAs (Decidable (_ ∧ _))

/-- `findAvailableVolsForSts`; the fronts come in the order of a map. -/
def findAvailableVolsForSts (o : MapOrder) (sorting : Sorting.Procedure) (ns : Str) : VolumeTask (List Volume) := do
  match ← attempt (.list .pvc) with
  | .error .notFound => pure (sorting.sort freeFirst [])
  | .error e => .fail e
  | .ok pvcs =>
    let kept ← stsPVCs ((pvcs.map Versioned.obj).filter fun pvc => Managed ns pvc)
    pure (sorting.sort freeFirst ((o.order (kept.map StsPVC.front).dedup).filterMap (stsEntry kept)))

/-! ## 3. The claims of components -/

/-- The pairs of a claim template and its StatefulSet. -/
def pairsOf (components : List Component) : List (Str × Str) :=
  components.flatMap fun component => (claimTemplates component).map fun template => (template.name, component.name)

/-- What the names of the claims of a pair begin with. -/
def stem (p : Str × Str) : Str := p.1 ++ dash :: p.2

/-- The name that Kubernetes gives a claim. -/
def claimName (p : Str × Str) (ordinal : Nat) : Str := stem p ++ dash :: itoa ordinal

/-- The claim is one of a pair. -/
def ClaimOf (s : Cluster) (ns : Str) (p : Str × Str) (pvc : PersistentVolumeClaim) : Prop :=
  pvc ∈ claimsOf s ∧ Managed ns pvc ∧ ∃ ordinal, pvc.name = claimName p ordinal

/-- **The claims of the namespace are those of StatefulSets**: each is created for a template of a component, and is
    labelled with the component. -/
structure Created (s : Cluster) (ns : Str) (components : List Component) : Prop where
  statefulSets : ∀ component ∈ components, component.ns = ns ∧ component.spec.workloadType = some .statefulset ∧
    isDNS1123Subdomain component.name = true
  claims : ∀ pvc ∈ claimsOf s, Managed ns pvc → ∃ p ∈ pairsOf components, ClaimOf s ns p pvc ∧
    pvc.labels.lookup kalmLabelComponentKey = some p.2

/-- A pair for which there is a claim. -/
def Present (s : Cluster) (ns : Str) (components : List Component) (p : Str × Str) : Prop :=
  p ∈ pairsOf components ∧ ∃ pvc, ClaimOf s ns p pvc

/-- A pod mounts a claim of the pair. -/
def PairInUse (s : Cluster) (ns : Str) (p : Str × Str) : Prop :=
  ∃ pvc, ClaimOf s ns p pvc ∧ ∃ pod ∈ s.list .pod, Mounts pvc pod.obj

/-- The template and the component of an entry. -/
def pairOf (v : Volume) : Str × Str := (v.name, v.componentName)

/-- **There is one entry for each pair**, and it is in use when a pod mounts a claim of the pair. -/
structure StsExact (s : Cluster) (ns : Str) (components : List Component) (rst : List Volume) : Prop where
  once : (rst.map pairOf).Nodup
  all : ∀ p, p ∈ rst.map pairOf ↔ Present s ns components p
  inUse : ∀ v ∈ rst, v.isInUse = true ↔ PairInUse s ns (pairOf v)

/-- **The condition**: different pairs have different names. -/
def NamesDiffer (s : Cluster) (ns : Str) (components : List Component) : Prop :=
  ∀ p q, Present s ns components p → Present s ns components q → stem p = stem q → p = q

/-! ## 4. Names are taken apart -/

theorem lastIndex_short {s sub : Str} (h : s.length < sub.length) : lastIndex s sub = none := by
  induction s with
  | nil => exact if_neg (List.ne_nil_of_length_pos h)
  | cons b s ih =>
      rw [List.length_cons] at h
      rw [lastIndex, ih (by omega)]
      refine if_neg fun hpre => ?_
      have hle := (List.isPrefixOf_iff_prefix.mp hpre).length_le
      rw [List.length_cons] at hle
      omega

/-- **A text at the end is found there.** -/
theorem lastIndex_append {t sub : Str} (h : sub ≠ []) : lastIndex (t ++ sub) sub = some t.length := by
  induction t with
  | nil =>
      cases sub with
      | nil => exact absurd rfl h
      | cons b sub =>
          rw [List.nil_append, lastIndex, lastIndex_short (by rw [List.length_cons]; omega)]
          exact if_pos (List.isPrefixOf_iff_prefix.mpr (List.prefix_refl _))
  | cons b t ih =>
      rw [List.cons_append, lastIndex, ih]
      rfl

theorem itoa_ne_nil (n : Nat) : itoa n ≠ [] := fun h => Nat.toDigits_ne_nil (utf8.flat_eq_nil.mp h)

/-- The digits of the ordinal are taken off, and no more. -/
theorem matchesStsPVC_ordinal {front : Str} {b : UInt8} (hb : b ≠ newline) (n : Nat) :
    matchesStsPVC (front ++ [b] ++ dash :: itoa n) = true := by
  have hdigits : ∀ x ∈ (itoa n).reverse, isDigit x = true := fun x hx => isDigit_of_mem_itoa (List.mem_reverse.mp hx)
  have hreverse : (front ++ [b] ++ dash :: itoa n).reverse = (itoa n).reverse ++ dash :: b :: front.reverse := by simp
  unfold matchesStsPVC
  simp only [hreverse]
  rw [List.takeWhile_append_of_pos hdigits, List.dropWhile_append_of_pos hdigits,
    List.dropWhile_cons_of_neg (by decide)]
  simp [hb, itoa_ne_nil]

/-- A name is not empty, and has no newline. -/
theorem subdomain_ends {name : Str} (h : isDNS1123Subdomain name = true) :
    ∃ front b, name = front ++ [b] ∧ b ≠ newline := by
  have hne : name ≠ [] := by
    rintro rfl
    revert h
    decide
  refine ⟨name.dropLast, name.getLast hne, (List.dropLast_append_getLast hne).symm, fun heq => ?_⟩
  have hgraphic := DnsSubdomain.graphic ⟨name, h⟩ _ (List.getLast_mem hne)
  rw [heq] at hgraphic
  exact absurd hgraphic (by decide)

variable {s : Cluster} {ns : Str} {components : List Component} {p q : Str × Str} {pvc : PersistentVolumeClaim}

/-- The component of a pair is one of the components. -/
theorem component_of_mem_pairsOf (hcreated : Created s ns components) (hp : p ∈ pairsOf components) :
    isDNS1123Subdomain p.2 = true := by
  obtain ⟨component, hcomponent, hp⟩ := List.mem_flatMap.mp hp
  obtain ⟨template, _, rfl⟩ := List.mem_map.mp hp
  exact (hcreated.statefulSets component hcomponent).2.2

/-- **The front of the name of a claim** is the name of its pair. -/
theorem pvcNamePrefix_created (hname : isDNS1123Subdomain p.2 = true) {n : Nat} (hclaim : pvc.name = claimName p n)
    (hlabel : pvc.labels.lookup kalmLabelComponentKey = some p.2) : pvcNamePrefix pvc = some (stem p) := by
  obtain ⟨front, b, hends, hb⟩ := subdomain_ends hname
  have hlabelled : (getComponentNameAndNsFromObjLabels pvc.labels).1 = p.2 := by
    rw [getComponentNameAndNsFromObjLabels, hlabel]
    rfl
  have hmatches : matchesStsPVC pvc.name = true := by
    rw [hclaim, claimName, stem, hends]
    have hfull : matchesStsPVC (p.1 ++ dash :: front ++ [b] ++ dash :: itoa n) = true := matchesStsPVC_ordinal hb n
    simpa using hfull
  unfold pvcNamePrefix
  rw [hlabelled, hends, if_neg (by simp), hmatches, if_neg (by simp), hclaim, claimName,
    lastIndexByte_append (dash_not_mem_itoa n), Option.map_some, List.take_left']
  rfl

/-- **What an entry says is taken back from the front of the names.** -/
theorem taken_back (t c : Str) :
    lastIndex (stem (t, c)) (dash :: c) = some t.length ∧ (stem (t, c)).take t.length = t :=
  ⟨lastIndex_append (List.cons_ne_nil dash c), List.take_left' rfl⟩

/-! ## 5. What is listed -/

/-- The claims that are kept. -/
def keptOf (s : Cluster) (ns : Str) : List StsPVC :=
  ((claimsOf s).filter fun pvc => Managed ns pvc).filterMap fun pvc =>
    (pvcNamePrefix pvc).map fun front => ⟨front, pvc, inUse s pvc⟩

theorem returns_stsPVCs {pvcs : List PersistentVolumeClaim} {Q : List StsPVC → Cluster → Prop} :
    Returns (stsPVCs pvcs) s Q ↔
      Q (pvcs.filterMap fun pvc => (pvcNamePrefix pvc).map fun front => ⟨front, pvc, inUse s pvc⟩) s := by
  induction pvcs generalizing Q with
  | nil => exact Calls.returns_done
  | cons pvc pvcs ih =>
      rw [stsPVCs]
      cases hfront : pvcNamePrefix pvc with
      | none =>
          rw [List.filterMap_cons_none (by rw [hfront]; rfl)]
          exact ih
      | some front =>
          rw [List.filterMap_cons_some (by rw [hfront]; rfl), Objects.returns_bind, returns_isPVCInUse,
            Objects.returns_bind, ih]
          exact Calls.returns_done

/-- What is returned. -/
theorem returns_findAvailableVolsForSts {o : MapOrder} {sorting : Sorting.Procedure}
    {Q : List Volume → Cluster → Prop} :
    Returns (findAvailableVolsForSts o sorting ns) s Q ↔
      Q (sorting.sort freeFirst
        ((o.order ((keptOf s ns).map StsPVC.front).dedup).filterMap (stsEntry (keptOf s ns)))) s := by
  unfold findAvailableVolsForSts
  rw [Calls.Action.tryCall_bind, Returns, Calls.returns_call]
  refine Objects.returns_bind.trans (returns_stsPVCs.trans ?_)
  exact Calls.returns_done

theorem mem_keptOf {x : StsPVC} :
    x ∈ keptOf s ns ↔ x.pvc ∈ claimsOf s ∧ Managed ns x.pvc ∧ pvcNamePrefix x.pvc = some x.front ∧
      x.isInUse = inUse s x.pvc := by
  unfold keptOf
  rw [List.mem_filterMap]
  constructor
  · intro ⟨pvc, hpvc, h⟩
    obtain ⟨hmem, hmanaged⟩ := List.mem_filter.mp hpvc
    obtain ⟨front, hfront, rfl⟩ := Option.map_eq_some_iff.mp h
    exact ⟨hmem, of_decide_eq_true hmanaged, hfront, rfl⟩
  · intro ⟨hmem, hmanaged, hfront, huse⟩
    refine ⟨x.pvc, List.mem_filter.mpr ⟨hmem, decide_eq_true hmanaged⟩, ?_⟩
    rw [hfront, ← huse]
    rfl

/-- The claims with a front are those that have it in their name. -/
theorem pvcNamePrefix_iff (hcreated : Created s ns components) (hmem : pvc ∈ claimsOf s) (hmanaged : Managed ns pvc)
    {front : Str} : pvcNamePrefix pvc = some front ↔ ∃ n, pvc.name = front ++ dash :: itoa n := by
  obtain ⟨p, hp, ⟨_, _, n, hname⟩, hlabel⟩ := hcreated.claims pvc hmem hmanaged
  rw [pvcNamePrefix_created (component_of_mem_pairsOf hcreated hp) hname hlabel, Option.some.injEq]
  constructor
  · rintro rfl
    exact ⟨n, hname⟩
  · intro ⟨m, hm⟩
    exact (append_itoa_inj (hname.symm.trans hm)).1

/-- A pair is present where its front is kept. -/
theorem mem_fronts (hcreated : Created s ns components) (hpresent : Present s ns components p) :
    stem p ∈ (keptOf s ns).map StsPVC.front := by
  obtain ⟨_, pvc, hmem, hmanaged, n, hname⟩ := hpresent
  have hfront := (pvcNamePrefix_iff hcreated hmem hmanaged).mpr ⟨n, hname⟩
  exact List.mem_map.mpr ⟨⟨stem p, pvc, inUse s pvc⟩, mem_keptOf.mpr ⟨hmem, hmanaged, hfront, rfl⟩, rfl⟩

/-- **The entry for a front** names a pair that is present and has this front. -/
theorem stsEntry_spec (hcreated : Created s ns components) {front : Str}
    (hfront : front ∈ (keptOf s ns).map StsPVC.front) :
    ∃ v, stsEntry (keptOf s ns) front = some v ∧ Present s ns components (pairOf v) ∧ stem (pairOf v) = front ∧
      (v.isInUse = true ↔ PairInUse s ns (pairOf v)) := by
  obtain ⟨y, hy, rfl⟩ := List.mem_map.mp hfront
  have hne : ((keptOf s ns).filter fun x => x.front = y.front) ≠ [] :=
    List.ne_nil_of_mem (List.mem_filter.mpr ⟨hy, decide_eq_true rfl⟩)
  obtain ⟨x, others, hgroup⟩ := List.exists_cons_of_ne_nil hne
  obtain ⟨hx, hxfront⟩ := List.mem_filter.mp (hgroup ▸ List.mem_cons_self : x ∈ (keptOf s ns).filter _)
  have hxfront : x.front = y.front := of_decide_eq_true hxfront
  obtain ⟨hmem, hmanaged, hprefix, _⟩ := mem_keptOf.mp hx
  -- the first claim was created for a pair with this front
  obtain ⟨⟨t, c⟩, hp, hclaim, hlabel⟩ := hcreated.claims x.pvc hmem hmanaged
  have hstem : stem (t, c) = y.front := by
    obtain ⟨_, _, n, hname⟩ := hclaim
    obtain ⟨m, hm⟩ := (pvcNamePrefix_iff hcreated hmem hmanaged).mp hprefix
    exact (append_itoa_inj (hname.symm.trans hm)).1.trans hxfront
  have hlabelled : (x.pvc.labels.lookup kalmLabelComponentKey).getD [] = c := by rw [hlabel]; rfl
  obtain ⟨hindex, htake⟩ := taken_back t c
  rw [hstem] at hindex htake
  refine ⟨⟨t, (x :: others).any StsPVC.isInUse, (x.pvc.labels.lookup kalmLabelNamespaceKey).getD [], c,
    x.pvc.storageClassName.getD [], x.pvc.storage, t, []⟩, ?_, ⟨hp, x.pvc, hclaim⟩, hstem, ?_⟩
  · unfold stsEntry getComponentNameAndNsFromObjLabels
    simp only [hgroup, List.head?_cons, Option.bind_some, hlabelled, hindex, Option.map_some, htake]
  · simp only [← hgroup]
    rw [List.any_eq_true]
    constructor
    · intro ⟨z, hz, huse⟩
      obtain ⟨hkept, hzfront⟩ := List.mem_filter.mp hz
      obtain ⟨hzmem, hzmanaged, hzprefix, hzuse⟩ := mem_keptOf.mp hkept
      obtain ⟨n, hn⟩ := (pvcNamePrefix_iff hcreated hzmem hzmanaged).mp hzprefix
      rw [of_decide_eq_true hzfront, ← hstem] at hn
      exact ⟨z.pvc, ⟨hzmem, hzmanaged, n, hn⟩, inUse_iff.mp (hzuse ▸ huse)⟩
    · intro ⟨pvc, ⟨hpmem, hpmanaged, n, hn⟩, hmounted⟩
      have hkept := (pvcNamePrefix_iff hcreated hpmem hpmanaged).mpr ⟨n, hn⟩
      exact ⟨⟨stem (t, c), pvc, inUse s pvc⟩,
        List.mem_filter.mpr ⟨mem_keptOf.mpr ⟨hpmem, hpmanaged, hkept, rfl⟩, decide_eq_true hstem⟩,
        inUse_iff.mpr hmounted⟩

/-! ## 6. The listing is exact -/

section Exactness

variable {fronts : List Str} {rst : List Volume} {v : Volume}

theorem mem_listed_iff (hfronts : ∀ front, front ∈ fronts ↔ front ∈ (keptOf s ns).map StsPVC.front)
    (hperm : rst.Perm (fronts.filterMap (stsEntry (keptOf s ns)))) :
    v ∈ rst ↔ ∃ front ∈ (keptOf s ns).map StsPVC.front, stsEntry (keptOf s ns) front = some v := by
  rw [hperm.mem_iff, List.mem_filterMap]
  exact exists_congr fun front => and_congr_left fun _ => hfronts front

/-- No pair has two entries, for a pair has one front. -/
theorem nodup_pairs (hcreated : Created s ns components) (hnodup : fronts.Nodup)
    (hfronts : ∀ front, front ∈ fronts ↔ front ∈ (keptOf s ns).map StsPVC.front)
    (hperm : rst.Perm (fronts.filterMap (stsEntry (keptOf s ns)))) : (rst.map pairOf).Nodup := by
  have hstems : ((fronts.filterMap (stsEntry (keptOf s ns))).map pairOf).map stem = fronts := by
    rw [List.map_map, List.map_filterMap]
    have hsome : ∀ front ∈ fronts, (stsEntry (keptOf s ns) front).map (stem ∘ pairOf) = some front := by
      intro front hfront
      obtain ⟨v, hv, _, hstem, _⟩ := stsEntry_spec hcreated ((hfronts front).mp hfront)
      rw [hv, Option.map_some, Function.comp_apply, hstem]
    exact (List.filterMap_congr hsome).trans List.filterMap_some
  have hpairs : ((fronts.filterMap (stsEntry (keptOf s ns))).map pairOf).Nodup := by
    rw [← hstems] at hnodup
    exact hnodup.of_map _
  exact (hperm.map pairOf).nodup_iff.mpr hpairs

/-- **The list is exact exactly where different pairs have different names.** -/
theorem stsExact_entries_iff (hcreated : Created s ns components) (hnodup : fronts.Nodup)
    (hfronts : ∀ front, front ∈ fronts ↔ front ∈ (keptOf s ns).map StsPVC.front)
    (hperm : rst.Perm (fronts.filterMap (stsEntry (keptOf s ns)))) :
    StsExact s ns components rst ↔ NamesDiffer s ns components := by
  have hmem (v : Volume) := mem_listed_iff (v := v) hfronts hperm
  constructor
  · intro h p q hp hq hstem
    obtain ⟨v, hv, rfl⟩ := List.mem_map.mp ((h.all p).mpr hp)
    obtain ⟨w, hw, rfl⟩ := List.mem_map.mp ((h.all q).mpr hq)
    obtain ⟨front, hfront, hentry⟩ := (hmem v).mp hv
    obtain ⟨front', hfront', hentry'⟩ := (hmem w).mp hw
    -- both entries are the one for their front
    obtain ⟨_, heq, _, hfrontEq, _⟩ := stsEntry_spec hcreated hfront
    obtain ⟨_, heq', _, hfrontEq', _⟩ := stsEntry_spec hcreated hfront'
    rw [hentry] at heq
    rw [hentry'] at heq'
    cases heq
    cases heq'
    have hsame : front = front' := hfrontEq.symm.trans (hstem.trans hfrontEq')
    rw [hsame, hentry'] at hentry
    rw [Option.some.inj hentry]
  · intro hdiffer
    refine ⟨nodup_pairs hcreated hnodup hfronts hperm, fun p => ⟨fun hp => ?_, fun hp => ?_⟩, fun v hv => ?_⟩
    · obtain ⟨v, hv, rfl⟩ := List.mem_map.mp hp
      obtain ⟨front, hfront, hentry⟩ := (hmem v).mp hv
      obtain ⟨_, heq, hpresent, _, _⟩ := stsEntry_spec hcreated hfront
      rw [hentry] at heq
      cases heq
      exact hpresent
    · have hfront := mem_fronts hcreated hp
      obtain ⟨v, hentry, hpresent, hstem, _⟩ := stsEntry_spec hcreated hfront
      have hsame : pairOf v = p := hdiffer _ _ hpresent hp hstem
      exact List.mem_map.mpr ⟨v, (hmem v).mpr ⟨_, hfront, hentry⟩, hsame⟩
    · obtain ⟨front, hfront, hentry⟩ := (hmem v).mp hv
      obtain ⟨_, heq, _, _, huse⟩ := stsEntry_spec hcreated hfront
      rw [hentry] at heq
      cases heq
      exact huse

end Exactness

/-- Of what is returned. -/
theorem stsExact_findAvailable (o : MapOrder) (sorting : Sorting.Procedure) (hcreated : Created s ns components) :
    Returns (findAvailableVolsForSts o sorting ns) s (fun rst t => t = s ∧ StsExact s ns components rst) ↔
      NamesDiffer s ns components := by
  rw [returns_findAvailableVolsForSts, and_iff_right rfl]
  refine stsExact_entries_iff hcreated ((o.perm _).nodup_iff.mpr (List.nodup_dedup _)) (fun front => ?_)
    (sorting.perm _ _)
  rw [(o.perm _).mem_iff, List.mem_dedup]

/-- **The listing for StatefulSets is exact**, exactly where different pairs of a template and a component have
    different names. -/
theorem stsExact_iff (o : MapOrder) (sorting : Sorting.Procedure) (s : Cluster) (ns : Str)
    (components : List Component) (hcreated : Created s ns components) :
    Returns (findAvailableVolsForSts o sorting ns) s (fun rst t => t = s ∧ StsExact s ns components rst) ↔
      NamesDiffer s ns components := stsExact_findAvailable o sorting hcreated

/-- A StatefulSet with one claim template. -/
def statefulSet (name template : Str) : Component where
  ns := str "bank"
  name := name
  spec :=
    { labels := ∅
      workloadType := some .statefulset
      replicas := some 2
      volumes :=
        [⟨str "/data", [], ⟨1073741824000000000, str "1Gi"⟩, .persistentVolumeClaimTemplate, none, [], template⟩]
      preInjectedFiles := []
      rest := [] }

/-- A claim of a component. -/
def stsClaim (name component : Str) : PersistentVolumeClaim where
  ns := str "bank"
  name := name
  labels := ((∅ : ObjectLabels).insert kalmLabelManaged (str "true")).insert kalmLabelComponentKey component
  volumeName := []
  storage := str "1Gi"
  storageClassName := none
  selector := none

/-- The components `db` with the template `data`. -/
def dbComponents : List Component := [statefulSet (str "db") (str "data")]

def dbCluster : Cluster := emptyCluster.put Kind.pvc (stsClaim (str "data-db-0") (str "db"))

theorem created_db : Created dbCluster (str "bank") dbComponents where
  statefulSets := by decide
  claims := by
    intro pvc hmem hmanaged
    obtain rfl : pvc = stsClaim (str "data-db-0") (str "db") := List.mem_singleton.mp hmem
    exact ⟨(str "data", str "db"), by decide, ⟨hmem, hmanaged, 0, by decide⟩, by decide⟩

/-- One component. -/
theorem stsExact_iff_db :
    Returns (findAvailableVolsForSts ⟨id, fun _ => .refl _⟩ Sorting.insertion (str "bank")) dbCluster
        (fun rst t => t = dbCluster ∧ StsExact dbCluster (str "bank") dbComponents rst) := by
  refine (stsExact_iff _ Sorting.insertion dbCluster (str "bank") dbComponents created_db).mpr ?_
  intro p q hp hq _
  have hpairs : ∀ p ∈ pairsOf dbComponents, p = (str "data", str "db") := by decide
  exact (hpairs p hp.1).trans (hpairs q hq.1).symm

/-- The components `db` and `main-db`, with the templates `data-main` and `data`. -/
def twoComponents : List Component :=
  [statefulSet (str "db") (str "data-main"), statefulSet (str "main-db") (str "data")]

/-- The claims with the ordinal 0 have one name, so there is one of them. -/
def twoCluster : Cluster :=
  (emptyCluster.put Kind.pvc (stsClaim (str "data-main-db-0") (str "db"))).put Kind.pvc
    (stsClaim (str "data-main-db-1") (str "main-db"))

theorem claimsOf_two : claimsOf twoCluster =
    [stsClaim (str "data-main-db-1") (str "main-db"), stsClaim (str "data-main-db-0") (str "db")] := by decide +kernel

theorem created_two : Created twoCluster (str "bank") twoComponents where
  statefulSets := by decide
  claims := by
    intro pvc hmem hmanaged
    rw [claimsOf_two, List.mem_cons, List.mem_singleton] at hmem
    rcases hmem with rfl | rfl
    · exact ⟨(str "data", str "main-db"), by decide, ⟨by rw [claimsOf_two]; decide, hmanaged, 1, by decide⟩,
        by decide⟩
    · exact ⟨(str "data-main", str "db"), by decide, ⟨by rw [claimsOf_two]; decide, hmanaged, 0, by decide⟩,
        by decide⟩

/-- Two components whose claims have names alike are listed as one. -/
theorem stsExact_fails :
    ¬ ∀ (o : MapOrder) (sorting : Sorting.Procedure) (s : Cluster) (ns : Str) (components : List Component),
      Created s ns components →
      Returns (findAvailableVolsForSts o sorting ns) s fun rst t => t = s ∧ StsExact s ns components rst := by
  intro h
  have hexact := h ⟨id, fun _ => .refl _⟩ Sorting.insertion twoCluster (str "bank") twoComponents created_two
  have hdiffer := (stsExact_findAvailable _ _ created_two).mp hexact
  have hsame := hdiffer (str "data-main", str "db") (str "data", str "main-db")
    ⟨by decide, stsClaim (str "data-main-db-0") (str "db"), by rw [claimsOf_two]; decide, by decide, 0, by decide⟩
    ⟨by decide, stsClaim (str "data-main-db-1") (str "main-db"), by rw [claimsOf_two]; decide, by decide, 1,
      by decide⟩
    (by decide)
  revert hsame
  decide

end Kalm.Volumes
