/-
  File:      Kalm/Component/Affinity.lean
  Subject:   THE NODES OF A COMPONENT: `decideAffinity` of controller/controllers/component_controller.go.

  * `decideAffinity` -- one term for each label of the map, in the order in which Go comes to its keys;
  * `Satisfies` -- what Kubernetes makes of it: one of the terms matches, with all its expressions;
  * `satisfies_iff` -- a node is taken when it carries one of the labels;
  * `conjunction_iff` -- the labels are a conjunction, and the order does not matter, exactly where there is at most
    one.
-/
import Kalm.Component.Controller
import Kalm.Volumes.Claims

namespace Kalm.Nodes

open Mirror (Table)

/-! ## 1. What Kubernetes is given -/

/-- `NodeSelectorRequirement`, with the operator `In`. -/
structure NodeSelectorRequirement where
  key : Str
  values : List Str
  deriving DecidableEq

/-- `NodeSelectorTerm`. -/
structure NodeSelectorTerm where
  matchExpressions : List NodeSelectorRequirement
  deriving DecidableEq

/-- `NodeAffinity`: the terms that are required during scheduling. -/
structure NodeAffinity where
  nodeSelectorTerms : List NodeSelectorTerm
  deriving DecidableEq

/-- `WeightedPodAffinityTerm`. -/
structure WeightedPodAffinityTerm where
  weight : Nat
  topologyKey : Str
  matchLabels : ObjectLabels
  deriving DecidableEq

/-- `PodAntiAffinity`: the terms that are preferred during scheduling. -/
structure PodAntiAffinity where
  terms : List WeightedPodAffinityTerm
  deriving DecidableEq

/-- `Affinity`. -/
structure Affinity where
  nodeAffinity : Option NodeAffinity
  podAntiAffinity : Option PodAntiAffinity
  deriving DecidableEq

/-- A component, with the fields of its spec that say where its pods run. -/
structure Component where
  component : Controller.Component
  nodeSelectorLabels : Table Str Str
  preferNotCoLocated : Bool

/-- The pod template, with its affinity. -/
structure PodTemplate where
  template : Controller.PodTemplate
  affinity : Option Affinity

/-! ## 2. `decideAffinity` -/

/-- The loop over the labels; `o` is the order in which Go comes to the keys of the map. -/
def nodeSelectorTerms (o : Volumes.MapOrder) (labels : Table Str Str) : List NodeSelectorTerm :=
  (o.order labels.keys).map fun label => ⟨[⟨label, [(labels.lookup label).getD []]⟩]⟩

/-- `decideAffinity`. -/
def decideAffinity (o : Volumes.MapOrder) (c : Component) : Option Affinity :=
  let terms := nodeSelectorTerms o c.nodeSelectorLabels
  let nodeAffinity := if 0 < terms.length then some (NodeAffinity.mk terms) else none
  let podAntiAffinity :=
    if c.preferNotCoLocated then
      some (PodAntiAffinity.mk [⟨1, str "kubernetes.io/hostname", c.component.getLabels⟩])
    else none
  if nodeAffinity = none ∧ podAntiAffinity = none then none else some ⟨nodeAffinity, podAntiAffinity⟩

/-- `GetPodTemplateWithoutVols`, as far as the affinity goes. -/
def withAffinity (o : Volumes.MapOrder) (c : Component) (template : Controller.PodTemplate) : PodTemplate :=
  match decideAffinity o c with
  | some affinity => ⟨template, some affinity⟩
  | none => ⟨template, none⟩

/-! ## 3. What Kubernetes makes of it -/

/-- An expression matches the labels of a node. -/
def NodeSelectorRequirement.Matches (r : NodeSelectorRequirement) (node : Table Str Str) : Prop :=
  ∃ v ∈ r.values, node.lookup r.key = some v

/-- A term matches with all its expressions; an empty one matches no node. -/
def NodeSelectorTerm.Matches (t : NodeSelectorTerm) (node : Table Str Str) : Prop :=
  t.matchExpressions ≠ [] ∧ ∀ r ∈ t.matchExpressions, r.Matches node

/-- **The node satisfies the affinity**: where it has required terms, one of them matches. -/
def Satisfies (node : Table Str Str) (affinity : Option Affinity) : Prop :=
  ∀ required, affinity.bind Affinity.nodeAffinity = some required → ∃ t ∈ required.nodeSelectorTerms, t.Matches node

/-- The node carries every label of the map, with its value. -/
def Carries (node labels : Table Str Str) : Prop :=
  ∀ label v, labels.lookup label = some v → node.lookup label = some v

/-- **The labels are a conjunction**, and the pod template is the same whatever the order. -/
structure Conjunction (c : Component) : Prop where
  nodes : ∀ o node, Satisfies node (decideAffinity o c) ↔ Carries node c.nodeSelectorLabels
  stable : ∀ o o' template, withAffinity o c template = withAffinity o' c template

variable {c : Component} {o o' : Volumes.MapOrder} {labels node : Table Str Str}

theorem decideAffinity_nodeAffinity : (decideAffinity o c).bind Affinity.nodeAffinity =
    if c.nodeSelectorLabels.keys = [] then none else some ⟨nodeSelectorTerms o c.nodeSelectorLabels⟩ := by
  have hlength : (nodeSelectorTerms o c.nodeSelectorLabels).length = c.nodeSelectorLabels.keys.length := by
    rw [nodeSelectorTerms, List.length_map, (o.perm _).length_eq]
  unfold decideAffinity
  simp only [hlength, List.length_pos_iff]
  by_cases hnil : c.nodeSelectorLabels.keys = []
  · rw [if_pos hnil]
    cases c.preferNotCoLocated <;> simp [hnil]
  · rw [if_neg hnil]
    simp [hnil]

/-- The term of a label. -/
theorem mem_nodeSelectorTerms {t : NodeSelectorTerm} :
    t ∈ nodeSelectorTerms o labels ↔ ∃ label v, labels.lookup label = some v ∧ t = ⟨[⟨label, [v]⟩]⟩ := by
  unfold nodeSelectorTerms
  rw [List.mem_map]
  constructor
  · intro h
    obtain ⟨label, hlabel, heq⟩ := h
    have hmem : label ∈ labels := AList.mem_keys.mp ((o.perm _).mem_iff.mp hlabel)
    obtain ⟨v, hv⟩ := Option.isSome_iff_exists.mp (AList.lookup_isSome.mpr hmem)
    rw [hv] at heq
    exact ⟨label, v, hv, heq.symm⟩
  · intro h
    obtain ⟨label, v, hv, heq⟩ := h
    have hmem : label ∈ labels := AList.lookup_isSome.mp (Option.isSome_of_eq_some hv)
    refine ⟨label, (o.perm _).mem_iff.mpr (AList.mem_keys.mpr hmem), ?_⟩
    rw [hv, heq]
    rfl

theorem matches_single {label v : Str} :
    NodeSelectorTerm.Matches ⟨[⟨label, [v]⟩]⟩ node ↔ node.lookup label = some v := by
  simp [NodeSelectorTerm.Matches, NodeSelectorRequirement.Matches]

/-- **A node is taken** when there are no labels, or when it carries one of them. -/
theorem satisfies_iff : Satisfies node (decideAffinity o c) ↔
    c.nodeSelectorLabels.keys = [] ∨
      ∃ label v, c.nodeSelectorLabels.lookup label = some v ∧ node.lookup label = some v := by
  unfold Satisfies
  rw [decideAffinity_nodeAffinity]
  by_cases hnil : c.nodeSelectorLabels.keys = []
  · simp [hnil]
  · simp only [hnil, if_false, Option.some.injEq, forall_eq', false_or]
    constructor
    · intro h
      obtain ⟨t, ht, hmatches⟩ := h
      obtain ⟨label, v, hv, rfl⟩ := mem_nodeSelectorTerms.mp ht
      exact ⟨label, v, hv, matches_single.mp hmatches⟩
    · intro h
      obtain ⟨label, v, hv, hnode⟩ := h
      exact ⟨_, mem_nodeSelectorTerms.mpr ⟨label, v, hv, rfl⟩, matches_single.mpr hnode⟩

/-! ## 4. At most one label -/

/-- Short lists have one order. -/
theorem order_eq {l : List Str} (h : l.length ≤ 1) : o.order l = l := by
  have hperm := o.perm l
  match l, h with
  | [], _ => exact hperm.eq_nil
  | [label], _ => exact List.perm_singleton.mp hperm

theorem decideAffinity_order (h : c.nodeSelectorLabels.keys.length ≤ 1) :
    decideAffinity o c = decideAffinity o' c := by
  have hterms : nodeSelectorTerms o c.nodeSelectorLabels = nodeSelectorTerms o' c.nodeSelectorLabels := by
    unfold nodeSelectorTerms
    rw [order_eq h, order_eq h]
  unfold decideAffinity
  rw [hterms]

/-- Where there is at most one label, one is all. -/
theorem carries_iff (h : c.nodeSelectorLabels.keys.length ≤ 1) : Carries node c.nodeSelectorLabels ↔
    c.nodeSelectorLabels.keys = [] ∨
      ∃ label v, c.nodeSelectorLabels.lookup label = some v ∧ node.lookup label = some v := by
  have hkey : ∀ {label v}, c.nodeSelectorLabels.lookup label = some v → label ∈ c.nodeSelectorLabels.keys :=
    fun hv => AList.mem_keys.mpr (AList.lookup_isSome.mp (Option.isSome_of_eq_some hv))
  cases hkeys : c.nodeSelectorLabels.keys with
  | nil =>
      refine iff_of_true (fun label v hv => ?_) (Or.inl rfl)
      exact absurd (hkeys ▸ hkey hv) List.not_mem_nil
  | cons first rest =>
      rw [hkeys, List.length_cons] at h
      obtain rfl : rest = [] := List.eq_nil_of_length_eq_zero (by omega)
      have honly : ∀ {label v}, c.nodeSelectorLabels.lookup label = some v → label = first :=
        fun hv => List.mem_singleton.mp (hkeys ▸ hkey hv)
      have hmem : first ∈ c.nodeSelectorLabels.keys := by
        rw [hkeys]
        exact List.mem_singleton_self first
      obtain ⟨w, hw⟩ := Option.isSome_iff_exists.mp (AList.lookup_isSome.mpr (AList.mem_keys.mp hmem))
      constructor
      · intro hall
        exact Or.inr ⟨first, w, hw, hall first w hw⟩
      · intro hone label v hv
        rcases hone with hnil | ⟨other, x, hx, hnode⟩
        · cases hnil
        · obtain rfl := honly hv
          obtain rfl := honly hx
          obtain rfl := Option.some.inj (hv.symm.trans hx)
          exact hnode

/-- Two labels: a node with the first one is taken. -/
theorem not_conjunction {first second : Str} {rest : List Str}
    (hkeys : c.nodeSelectorLabels.keys = first :: second :: rest) : ¬ Conjunction c := by
  intro h
  have hlookup : ∀ label ∈ c.nodeSelectorLabels.keys, ∃ v, c.nodeSelectorLabels.lookup label = some v :=
    fun label hlabel => Option.isSome_iff_exists.mp (AList.lookup_isSome.mpr (AList.mem_keys.mp hlabel))
  obtain ⟨v, hv⟩ := hlookup first (by simp [hkeys])
  obtain ⟨w, hw⟩ := hlookup second (by simp [hkeys])
  have hne : second ≠ first := by
    have hnodup := c.nodeSelectorLabels.keys_nodup
    rw [hkeys] at hnodup
    intro heq
    exact (List.nodup_cons.mp hnodup).1 (by simp [heq])
  -- a node that carries the first label only
  have hnode : Satisfies ((∅ : Table Str Str).insert first v) (decideAffinity ⟨id, List.Perm.refl⟩ c) :=
    satisfies_iff.mpr (Or.inr ⟨first, v, hv, AList.lookup_insert _⟩)
  have hcarries := (h.nodes _ _).mp hnode second w hw
  rw [AList.lookup_insert_ne hne] at hcarries
  cases hcarries

/-- **The labels are a conjunction exactly where there is at most one.** -/
theorem conjunction_iff : Conjunction c ↔ c.nodeSelectorLabels.keys.length ≤ 1 := by
  constructor
  · intro h
    cases hkeys : c.nodeSelectorLabels.keys with
    | nil => simp
    | cons first rest =>
        cases rest with
        | nil => simp
        | cons second rest => exact absurd h (not_conjunction hkeys)
  · intro h
    refine ⟨fun o node => satisfies_iff.trans (carries_iff h).symm, fun o o' template => ?_⟩
    unfold withAffinity
    rw [decideAffinity_order h]

/-- A component for Linux nodes with an SSD. -/
def ssdComponent : Component where
  component := ⟨str "shop", str "web", ∅, ∅, [], false,
    ⟨∅, ∅, some 1, false, [], .server, [], [], emptyDoc⟩⟩
  nodeSelectorLabels :=
    ((∅ : Table Str Str).insert (str "disktype") (str "ssd")).insert (str "kubernetes.io/os") (str "linux")
  preferNotCoLocated := false

/-- **Its pods also run on nodes without an SSD.** -/
theorem conjunction_fails : ¬ ∀ c, Conjunction c :=
  fun h => not_conjunction (c := ssdComponent) rfl (h ssdComponent)

end Kalm.Nodes
