/-
  File:      Kalm/Pods/Metrics.lean
  Subject:   WHOSE METRICS THEY ARE: `completePodMetrics` and `UpdateDatabase` of api/resources/metric_scraper.go.

  * `indexPods` -- the index of the pods; the variable of the loop is one variable, and its address is what is stored;
  * `completePodMetrics` -- the labels of a pod for each metric that is found in the index;
  * `complete_eq` -- a metric whose key is that of a pod gets the labels of the last pod;
  * `attributed_iff` -- the metrics carry the labels of their pods exactly where these are those of the last pod.
-/
import Kalm.Component.Controller

namespace Kalm.Metrics

open Mirror (Table)

/-! ## 1. Pods and their metrics -/

/-- `v1.Pod`, with the fields that are read here. -/
structure Pod where
  ns : Str
  name : Str
  labels : ObjectLabels
  deriving DecidableEq

/-- `ContainerMetrics`; the quantities are in thousandths. -/
structure ContainerMetrics where
  name : Str
  cpu : Int
  memory : Int
  storage : Int
  deriving DecidableEq

/-- `PodMetrics`. -/
structure PodMetrics where
  uid : Str
  ns : Str
  name : Str
  labels : ObjectLabels
  containers : List ContainerMetrics
  deriving DecidableEq

/-- A row of the table `pods`, without its time. -/
structure Row where
  uid : Str
  name : Str
  ns : Str
  container : Str
  component : Str
  cpu : Int
  memory : Int
  storage : Int
  deriving DecidableEq

/-! ## 2. `completePodMetrics` -/

/-- An address: that of the variable of the loop, which all iterations share. -/
inductive Address where
  | podDetailsItem
  deriving DecidableEq

/-- The variable of the loop, and the map it fills. -/
structure Index where
  podDetailsItem : Option Pod
  podDetailsMap : Table Str Address

/-- What is at an address. -/
def Index.deref (index : Index) : Address → Option Pod
  | .podDetailsItem => index.podDetailsItem

/-- One iteration: the variable is set, and its address is stored under namespace and name. -/
def Index.add (index : Index) (pod : Pod) : Index where
  podDetailsItem := some pod
  podDetailsMap := index.podDetailsMap.insert (pod.ns ++ pod.name) .podDetailsItem

/-- The loop over the pods. -/
def indexPods (pods : List Pod) : Index := pods.foldl Index.add ⟨none, ∅⟩

/-- The body of the loop over the metrics. -/
def Index.complete (index : Index) (metric : PodMetrics) : PodMetrics :=
  match (index.podDetailsMap.lookup (metric.ns ++ metric.name)).bind index.deref with
  | some pod => { metric with labels := pod.labels }
  | none => metric

/-- `completePodMetrics`. -/
def completePodMetrics (metrics : List PodMetrics) (pods : List Pod) : List PodMetrics :=
  metrics.map (indexPods pods).complete

/-! ## 3. `UpdateDatabase` -/

/-- `kalm-component` -/
def kalmComponentLabel : Str := str "kalm-component"

/-- The component of a pod with these labels. -/
def componentOf (labels : ObjectLabels) : Str := (labels.lookup kalmComponentLabel).getD []

/-- The row of a container. -/
def rowOf (metric : PodMetrics) (container : ContainerMetrics) : Row where
  uid := metric.uid
  name := metric.name
  ns := metric.ns
  container := container.name
  component := componentOf metric.labels
  cpu := container.cpu
  memory := container.memory.tdiv 1000
  storage := container.storage.tdiv 1000

/-- The rows `UpdateDatabase` inserts into the table `pods`. -/
def podRows (metrics : List PodMetrics) : List Row :=
  metrics.flatMap fun metric => metric.containers.map (rowOf metric)

/-! ## 4. The right pod -/

/-- The pod of a metric. -/
def IsPodOf (pod : Pod) (metric : PodMetrics) : Prop := pod.ns = metric.ns ∧ pod.name = metric.name

/-- **The metrics are attributed to the right pods**: the metric of a pod carries the labels of the pod, any other
    metric is unchanged, and the rows of a pod are booked under its component. -/
structure Attributed (metrics : List PodMetrics) (pods : List Pod) : Prop where
  labelled : ∀ metric ∈ metrics, ∀ pod ∈ pods, IsPodOf pod metric →
    (indexPods pods).complete metric = { metric with labels := pod.labels }
  unchanged : ∀ metric ∈ metrics, (∀ pod ∈ pods, ¬ IsPodOf pod metric) → (indexPods pods).complete metric = metric
  booked : ∀ metric ∈ metrics, ∀ pod ∈ pods, IsPodOf pod metric → ∀ container ∈ metric.containers,
    { rowOf metric container with component := componentOf pod.labels } ∈ podRows (completePodMetrics metrics pods)

variable {metrics : List PodMetrics} {pods : List Pod} {metric : PodMetrics} {pod last : Pod}

/-- **The index**: every key leads to the last pod. -/
theorem foldl_add (index : Index) (pods : List Pod) (key : Str) :
    (pods.foldl Index.add index).podDetailsItem = pods.getLast?.or index.podDetailsItem ∧
      ((pods.foldl Index.add index).podDetailsMap.lookup key =
        if ∃ pod ∈ pods, pod.ns ++ pod.name = key then some .podDetailsItem else index.podDetailsMap.lookup key) := by
  induction pods generalizing index with
  | nil => simp
  | cons pod pods ih =>
      obtain ⟨hitem, hmap⟩ := ih (index.add pod)
      rw [List.foldl_cons]
      constructor
      · rw [hitem, List.getLast?_cons]
        cases pods.getLast? <;> rfl
      · rw [hmap]
        by_cases hrest : ∃ p ∈ pods, p.ns ++ p.name = key
        · obtain ⟨p, hp, hkey⟩ := hrest
          rw [if_pos ⟨p, hp, hkey⟩, if_pos ⟨p, List.mem_cons_of_mem pod hp, hkey⟩]
        · rw [if_neg hrest]
          by_cases hkey : pod.ns ++ pod.name = key
          · rw [if_pos ⟨pod, List.mem_cons_self, hkey⟩, Index.add, hkey, AList.lookup_insert]
          · rw [if_neg, Index.add, AList.lookup_insert_ne fun h => hkey h.symm]
            intro h
            obtain ⟨p, hp, hpkey⟩ := h
            rcases List.mem_cons.mp hp with rfl | hp
            · exact hkey hpkey
            · exact hrest ⟨p, hp, hpkey⟩

/-- **A metric whose key is that of a pod gets the labels of the last pod**, and any other one stays. -/
theorem complete_eq : (indexPods pods).complete metric =
    if ∃ pod ∈ pods, pod.ns ++ pod.name = metric.ns ++ metric.name then
      { metric with labels := (pods.getLast?.map Pod.labels).getD metric.labels }
    else metric := by
  obtain ⟨hitem, hmap⟩ := foldl_add ⟨none, ∅⟩ pods (metric.ns ++ metric.name)
  unfold Index.complete indexPods
  rw [hmap]
  by_cases hkey : ∃ pod ∈ pods, pod.ns ++ pod.name = metric.ns ++ metric.name
  · rw [if_pos hkey, if_pos hkey, Option.bind_some, Index.deref, hitem, Option.or_none]
    cases pods.getLast? <;> rfl
  · rw [if_neg hkey, if_neg hkey, AList.lookup_empty]
    rfl

/-- **What the loops get right**: a pod with a metric has the labels of the last pod, and so has a metric that is
    only found because its namespace and name, one behind the other, are those of some pod. -/
def LastLabels (metrics : List PodMetrics) (pods : List Pod) : Prop :=
  ∀ last, pods.getLast? = some last → ∀ metric ∈ metrics,
    (∀ pod ∈ pods, IsPodOf pod metric → pod.labels = last.labels) ∧
      ((∃ pod ∈ pods, pod.ns ++ pod.name = metric.ns ++ metric.name) → (∀ pod ∈ pods, ¬ IsPodOf pod metric) →
        metric.labels = last.labels)

theorem key_of_isPodOf (h : IsPodOf pod metric) : pod.ns ++ pod.name = metric.ns ++ metric.name := by
  rw [h.1, h.2]

theorem exists_last (h : pod ∈ pods) : ∃ last, pods.getLast? = some last := by
  cases hlast : pods.getLast? with
  | none => exact absurd (List.getLast?_eq_none_iff.mp hlast ▸ h) List.not_mem_nil
  | some last => exact ⟨last, rfl⟩

/-- A metric whose key is found, with the last pod. -/
theorem complete_found (hlast : pods.getLast? = some last)
    (hkey : ∃ pod ∈ pods, pod.ns ++ pod.name = metric.ns ++ metric.name) :
    (indexPods pods).complete metric = { metric with labels := last.labels } := by
  rw [complete_eq, if_pos hkey, hlast]
  rfl

/-- **The metrics are attributed exactly where the labels are those of the last pod.** -/
theorem attributed_iff : Attributed metrics pods ↔ LastLabels metrics pods := by
  constructor
  · intro h last hlast metric hmetric
    refine ⟨fun pod hpod his => ?_, fun hkey hnone => ?_⟩
    · have hlabels := h.labelled metric hmetric pod hpod his
      rw [complete_found hlast ⟨pod, hpod, key_of_isPodOf his⟩] at hlabels
      exact (congrArg PodMetrics.labels hlabels).symm
    · have hlabels := h.unchanged metric hmetric hnone
      rw [complete_found hlast hkey] at hlabels
      exact (congrArg PodMetrics.labels hlabels).symm
  · intro h
    have hlabelled : ∀ metric ∈ metrics, ∀ pod ∈ pods, IsPodOf pod metric →
        (indexPods pods).complete metric = { metric with labels := pod.labels } := by
      intro metric hmetric pod hpod his
      obtain ⟨last, hlast⟩ := exists_last hpod
      rw [complete_found hlast ⟨pod, hpod, key_of_isPodOf his⟩, (h last hlast metric hmetric).1 pod hpod his]
    refine ⟨hlabelled, fun metric hmetric hnone => ?_, fun metric hmetric pod hpod his container hcontainer => ?_⟩
    · by_cases hkey : ∃ pod ∈ pods, pod.ns ++ pod.name = metric.ns ++ metric.name
      · obtain ⟨last, hlast⟩ : ∃ last, pods.getLast? = some last := by
          obtain ⟨pod, hpod, _⟩ := hkey
          exact exists_last hpod
        rw [complete_found hlast hkey, ← (h last hlast metric hmetric).2 hkey hnone]
      · rw [complete_eq, if_neg hkey]
    · have hcomplete := hlabelled metric hmetric pod hpod his
      refine List.mem_flatMap.mpr ⟨_, List.mem_map_of_mem hmetric, ?_⟩
      rw [hcomplete]
      exact List.mem_map.mpr ⟨container, hcontainer, rfl⟩

/-- The labels of the pods of a component. -/
def labelsOf (component : Str) : ObjectLabels := (∅ : ObjectLabels).insert kalmComponentLabel component

/-- **Metrics of two pods**: those of `web` are booked under `db`. -/
theorem attributed_fails : ¬ ∀ metrics pods, Attributed metrics pods := by
  intro h
  have hattributed := h [⟨str "u-1", str "shop", str "web-0", ∅, [⟨str "web", 10, 1000, 0⟩]⟩]
    [⟨str "shop", str "web-0", labelsOf (str "web")⟩, ⟨str "shop", str "db-0", labelsOf (str "db")⟩]
  have hlabels := hattributed.labelled _ List.mem_cons_self _ List.mem_cons_self ⟨rfl, rfl⟩
  exact absurd (congrArg (fun m => componentOf (PodMetrics.labels m)) hlabels) (by decide)

end Kalm.Metrics
