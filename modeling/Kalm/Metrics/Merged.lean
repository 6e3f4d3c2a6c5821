/-
  File:      Kalm/Metrics/Merged.lean
  Subject:   SUMS OF HISTORIES: `mergeMetricHistories` and `mergeIstioMetricHistories` of api/resources, and the
             histories of an application in `BuildApplicationDetails`.

  * `mergeLoop`, `mergeMetricHistories` -- the two arguments sorted, and walked together;
  * `mergeIstioMetricHistories`, `applicationHistories` -- histories of eight kinds, merged over a map of services;
  * `mergeLoop_eq` -- the loop adds the sum of two series to what it has;
  * `histories_sum` -- the merge is a sum, commutative and associative, and the order of the map does not count.
-/
import Kalm.Lib.Series
import Kalm.Lib.Sorting
import Kalm.Go.Strings

namespace Kalm.Traffic

open Series

/-! ## 1. The source -/

/-- `MetricPoint`: a time in seconds, and a value of any kind that is added exactly. -/
abbrev MetricPoint (V : Type) := Point Int V

/-- `MetricHistory` -/
abbrev MetricHistory (V : Type) := List (MetricPoint V)

/-- `sortMetricHistory` -/
def sortMetricHistory {V : Type} (slice : Sorting.Procedure) (a : MetricHistory V) : MetricHistory V :=
  slice.sort (fun p q => p.time < q.time) a

variable {V : Type} [AddCommMonoid V]

/-- The loop: what is appended so far, and what is left of the two. -/
def mergeLoop : MetricHistory V → MetricHistory V → MetricHistory V → MetricHistory V
  | rst, eleA :: a, eleB :: b =>
    if eleA.time = eleB.time then mergeLoop (rst ++ [⟨eleA.time, eleA.value + eleB.value⟩]) a b
    else if eleA.time < eleB.time then mergeLoop (rst ++ [eleA]) a (eleB :: b)
    else mergeLoop (rst ++ [eleB]) (eleA :: a) b
  | rst, [], b => rst ++ b
  | rst, eleA :: a, [] => rst ++ eleA :: a
termination_by _ a b => a.length + b.length

/-- `mergeMetricHistories` -/
def mergeMetricHistories (slice : Sorting.Procedure) (a b : MetricHistory V) : MetricHistory V :=
  mergeLoop [] (sortMetricHistory slice a) (sortMetricHistory slice b)

/-- `IstioMetricHistories` -/
structure IstioMetricHistories (V : Type) where
  httpRequestsTotal : MetricHistory V
  httpRespCode2XXCount : MetricHistory V
  httpRespCode4XXCount : MetricHistory V
  httpRespCode5XXCount : MetricHistory V
  httpRequestBytes : MetricHistory V
  httpResponseBytes : MetricHistory V
  tcpSentBytesTotal : MetricHistory V
  tcpReceivedBytesTotal : MetricHistory V
  deriving DecidableEq

/-- `IstioMetricHistories{}` -/
def IstioMetricHistories.empty : IstioMetricHistories V := ⟨[], [], [], [], [], [], [], []⟩

/-- Both are there: each kind is merged. -/
def IstioMetricHistories.merge (slice : Sorting.Procedure) (a b : IstioMetricHistories V) : IstioMetricHistories V where
  httpRequestsTotal := mergeMetricHistories slice a.httpRequestsTotal b.httpRequestsTotal
  httpRespCode2XXCount := mergeMetricHistories slice a.httpRespCode2XXCount b.httpRespCode2XXCount
  httpRespCode4XXCount := mergeMetricHistories slice a.httpRespCode4XXCount b.httpRespCode4XXCount
  httpRespCode5XXCount := mergeMetricHistories slice a.httpRespCode5XXCount b.httpRespCode5XXCount
  httpRequestBytes := mergeMetricHistories slice a.httpRequestBytes b.httpRequestBytes
  httpResponseBytes := mergeMetricHistories slice a.httpResponseBytes b.httpResponseBytes
  tcpSentBytesTotal := mergeMetricHistories slice a.tcpSentBytesTotal b.tcpSentBytesTotal
  tcpReceivedBytesTotal := mergeMetricHistories slice a.tcpReceivedBytesTotal b.tcpReceivedBytesTotal

/-- `mergeIstioMetricHistories`; `none` is a nil pointer. -/
def mergeIstioMetricHistories (slice : Sorting.Procedure) :
    Option (IstioMetricHistories V) → Option (IstioMetricHistories V) → Option (IstioMetricHistories V)
  | none, b => b
  | some a, none => some a
  | some a, some b => some (a.merge slice b)

/-- The histories in `BuildApplicationDetails`: what was fetched for the services of the namespace, in the order in
    which the map is walked, or `none` for an error. -/
def applicationHistories (slice : Sorting.Procedure) (fetched : Option (List (Str × Option (IstioMetricHistories V)))) :
    Option (IstioMetricHistories V) :=
  match fetched with
  | none => some .empty
  | some istioMetricHisMap => istioMetricHisMap.foldl (fun acc entry => mergeIstioMetricHistories slice acc entry.2)
      (some .empty)

/-! ## 2. Sums -/

/-- A history is the sum of two: in order, with the times of both, and at each time the sum of their values. -/
structure IsSum (rst a b : MetricHistory V) : Prop where
  sorted : Increasing rst
  times : ∀ t, t ∈ times rst ↔ t ∈ times a ∨ t ∈ times b
  value : ∀ p ∈ rst, p.value = total a p.time + total b p.time

/-- The eight kinds. -/
def kinds : List (IstioMetricHistories V → MetricHistory V) :=
  [(·.httpRequestsTotal), (·.httpRespCode2XXCount), (·.httpRespCode4XXCount), (·.httpRespCode5XXCount),
    (·.httpRequestBytes), (·.httpResponseBytes), (·.tcpSentBytesTotal), (·.tcpReceivedBytesTotal)]

/-- Histories that are the sum of others: of each kind, the times of all and at each the sum of the values. -/
def SumOf (sum : IstioMetricHistories V) (histories : List (IstioMetricHistories V)) : Prop :=
  ∀ kind ∈ kinds, ∀ t, (t ∈ times (kind sum) ↔ ∃ h ∈ histories, t ∈ times (kind h)) ∧
    total (kind sum) t = (histories.map fun h => total (kind h) t).sum

/-- No history has a time twice. -/
def IstioMetricHistories.AllDistinct (h : IstioMetricHistories V) : Prop := ∀ kind ∈ kinds, Distinct (kind h)

instance (h : IstioMetricHistories V) : Decidable h.AllDistinct :=
  inferInstanceAs (Decidable (∀ kind ∈ kinds, Distinct (kind h)))

variable {slice : Sorting.Procedure} {a b c : MetricHistory V} {t : Int}

/-- **The loop adds the sum of the two series to what it has.** -/
theorem mergeLoop_eq (rst a b : MetricHistory V) : mergeLoop rst a b = rst ++ mergeSum a b := by
  induction rst, a, b using mergeLoop.induct with
  | case1 rst eleA a eleB b heq ih => rw [mergeLoop, if_pos heq, ih, mergeSum, if_pos heq, List.append_assoc]; rfl
  | case2 rst eleA a eleB b heq hlt ih =>
      rw [mergeLoop, if_neg heq, if_pos hlt, ih, mergeSum, if_neg heq, if_pos hlt, List.append_assoc]
      rfl
  | case3 rst eleA a eleB b heq hlt ih =>
      rw [mergeLoop, if_neg heq, if_neg hlt, ih, mergeSum, if_neg heq, if_neg hlt, List.append_assoc]
      rfl
  | case4 rst b => rw [mergeLoop, mergeSum]
  | case5 rst eleA a => rw [mergeLoop, mergeSum]

theorem mergeMetricHistories_eq (a b : MetricHistory V) : mergeMetricHistories slice a b =
    mergeSum (sortMetricHistory slice a) (sortMetricHistory slice b) := mergeLoop_eq [] _ _

omit [AddCommMonoid V] in
theorem perm_sort (a : MetricHistory V) : (sortMetricHistory slice a).Perm a := slice.perm _ a

omit [AddCommMonoid V] in
/-- What is sorted is in order. -/
theorem increasing_sort (ha : Distinct a) : Increasing (sortMetricHistory slice a) := by
  have hweak : Sorting.StrictWeak (fun p q : MetricPoint V => decide (p.time < q.time)) a := by
    refine ⟨fun p _ q _ hlt => ?_, fun p _ q _ r _ hqp hrq => ?_⟩
    · rw [decide_eq_true_iff] at hlt
      exact decide_eq_false (Int.not_lt.mpr hlt.le)
    · rw [decide_eq_false_iff_not, Int.not_lt] at hqp hrq
      exact decide_eq_false (Int.not_lt.mpr (hqp.trans hrq))
  have hle := slice.sorted _ a hweak
  have hne : (sortMetricHistory slice a).Pairwise fun p q => p.time ≠ q.time :=
    List.pairwise_map.mp (ha.perm (perm_sort a).symm)
  refine hle.imp₂ (fun p q hqp hpq => ?_) hne
  rw [decide_eq_false_iff_not, Int.not_lt] at hqp
  exact lt_of_le_of_ne hqp hpq

theorem mem_times_merge : t ∈ times (mergeMetricHistories slice a b) ↔ t ∈ times a ∨ t ∈ times b := by
  have hsort (a : MetricHistory V) : t ∈ times (sortMetricHistory slice a) ↔ t ∈ times a :=
    ((perm_sort a).map _).mem_iff
  rw [mergeMetricHistories_eq, mem_times_mergeSum, hsort, hsort]

theorem total_merge : total (mergeMetricHistories slice a b) t = total a t + total b t := by
  rw [mergeMetricHistories_eq, total_mergeSum, total_perm (perm_sort a), total_perm (perm_sort b)]

theorem increasing_merge (ha : Distinct a) (hb : Distinct b) : Increasing (mergeMetricHistories slice a b) := by
  rw [mergeMetricHistories_eq]
  exact increasing_mergeSum (increasing_sort ha) (increasing_sort hb)

theorem isSum_merge (ha : Distinct a) (hb : Distinct b) : IsSum (mergeMetricHistories slice a b) a b where
  sorted := increasing_merge ha hb
  times _ := mem_times_merge
  value p hp := by rw [← (increasing_merge ha hb).distinct.total_eq hp, total_merge]

theorem merge_comm (ha : Distinct a) (hb : Distinct b) :
    mergeMetricHistories slice a b = mergeMetricHistories slice b a :=
  (increasing_merge ha hb).ext (increasing_merge hb ha)
    (fun _ => by rw [mem_times_merge, mem_times_merge, or_comm]) fun _ => by rw [total_merge, total_merge, add_comm]

theorem merge_assoc (ha : Distinct a) (hb : Distinct b) (hc : Distinct c) :
    mergeMetricHistories slice (mergeMetricHistories slice a b) c =
      mergeMetricHistories slice a (mergeMetricHistories slice b c) := by
  refine (increasing_merge (increasing_merge ha hb).distinct hc).ext
    (increasing_merge ha (increasing_merge hb hc).distinct) (fun t => ?_) fun t => ?_
  · rw [mem_times_merge, mem_times_merge, mem_times_merge, mem_times_merge, or_assoc]
  · rw [total_merge, total_merge, total_merge, total_merge, add_assoc]

/-! ## 3. The services of an application -/

theorem merge_kind (h h' : IstioMetricHistories V) {kind : IstioMetricHistories V → MetricHistory V}
    (hkind : kind ∈ kinds) : kind (h.merge slice h') = mergeMetricHistories slice (kind h) (kind h') := by
  simp only [kinds, List.mem_cons, List.not_mem_nil, or_false] at hkind
  rcases hkind with rfl | rfl | rfl | rfl | rfl | rfl | rfl | rfl <;> rfl

omit [AddCommMonoid V] in
/-- Histories are the eight kinds. -/
theorem IstioMetricHistories.ext_kinds {h h' : IstioMetricHistories V} (hkinds : ∀ kind ∈ kinds, kind h = kind h') :
    h = h' := by
  obtain ⟨_, _, _, _, _, _, _, _⟩ := h
  obtain ⟨_, _, _, _, _, _, _, _⟩ := h'
  simp only [kinds, List.forall_mem_cons] at hkinds
  obtain ⟨rfl, rfl, rfl, rfl, rfl, rfl, rfl, rfl, _⟩ := hkinds
  rfl

variable (slice) in
/-- **One history after the other**: the result is in order, has the times of all and adds their totals. -/
theorem foldl_merge (ha : Increasing a) {histories : List (MetricHistory V)} (hs : ∀ h ∈ histories, Distinct h) :
    Increasing (histories.foldl (mergeMetricHistories slice) a) ∧
      (∀ t, t ∈ times (histories.foldl (mergeMetricHistories slice) a) ↔ t ∈ times a ∨ ∃ h ∈ histories, t ∈ times h) ∧
      ∀ t, total (histories.foldl (mergeMetricHistories slice) a) t =
        total a t + (histories.map fun h => total h t).sum := by
  induction histories generalizing a with
  | nil => exact ⟨ha, fun t => by simp, fun t => (add_zero _).symm⟩
  | cons h histories ih =>
      obtain ⟨hh, hs⟩ := List.forall_mem_cons.mp hs
      obtain ⟨hsorted, htimes, htotal⟩ := ih (increasing_merge ha.distinct hh) hs
      refine ⟨hsorted, fun t => ?_, fun t => ?_⟩
      · rw [List.foldl_cons, htimes, mem_times_merge, List.exists_mem_cons_iff, or_assoc]
      · rw [List.foldl_cons, htotal, total_merge, List.map_cons, List.sum_cons, add_assoc]

/-- The loop over the map leaves out what is nil. -/
theorem foldl_entries (services : List (Str × Option (IstioMetricHistories V))) (h : IstioMetricHistories V) :
    services.foldl (fun acc entry => mergeIstioMetricHistories slice acc entry.2) (some h) =
      some ((services.filterMap Prod.snd).foldl (IstioMetricHistories.merge slice) h) := by
  induction services generalizing h with
  | nil => rfl
  | cons entry services ih =>
      obtain ⟨name, found⟩ := entry
      cases found with
      | none => exact ih h
      | some h' => exact ih (h.merge slice h')

/-- One kind of what is merged. -/
theorem kind_foldl {kind : IstioMetricHistories V → MetricHistory V} (hkind : kind ∈ kinds)
    (histories : List (IstioMetricHistories V)) (h : IstioMetricHistories V) :
    kind (histories.foldl (IstioMetricHistories.merge slice) h) =
      (histories.map kind).foldl (mergeMetricHistories slice) (kind h) := by
  induction histories generalizing h with
  | nil => rfl
  | cons h' histories ih => rw [List.foldl_cons, ih, merge_kind h h' hkind, List.map_cons, List.foldl_cons]

omit [AddCommMonoid V] in
theorem kind_empty {kind : IstioMetricHistories V → MetricHistory V} (hkind : kind ∈ kinds) : kind .empty = [] := by
  simp only [kinds, List.mem_cons, List.not_mem_nil, or_false] at hkind
  rcases hkind with rfl | rfl | rfl | rfl | rfl | rfl | rfl | rfl <;> rfl

variable (slice) in
/-- **What an application has**: each kind in order, and the sum of what is there for the services. -/
theorem sumOf_applicationHistories {services : List (Str × Option (IstioMetricHistories V))}
    (hs : ∀ entry ∈ services, ∀ h ∈ entry.2, h.AllDistinct) : ∃ h, applicationHistories slice (some services) = some h ∧
      (∀ kind ∈ kinds, Increasing (kind h)) ∧ SumOf h (services.filterMap Prod.snd) := by
  unfold applicationHistories
  dsimp only
  have hfold {kind : IstioMetricHistories V → MetricHistory V} (hkind : kind ∈ kinds) := by
    refine foldl_merge slice (a := []) List.Pairwise.nil (fun m hm => ?_ :
      ∀ m ∈ (services.filterMap Prod.snd).map kind, Distinct m)
    obtain ⟨h, hh, rfl⟩ := List.mem_map.mp hm
    obtain ⟨entry, hentry, hsome⟩ := List.mem_filterMap.mp hh
    exact hs entry hentry h hsome kind hkind
  refine ⟨_, foldl_entries services .empty, fun kind hkind => ?_, fun kind hkind t => ⟨?_, ?_⟩⟩
  · rw [kind_foldl hkind, kind_empty hkind]
    exact (hfold hkind).1
  · rw [kind_foldl hkind, kind_empty hkind, (hfold hkind).2.1]
    refine (or_iff_right List.not_mem_nil).trans ?_
    simp only [List.mem_map, exists_exists_and_eq_and]
  · rw [kind_foldl hkind, kind_empty hkind, (hfold hkind).2.2, List.map_map]
    exact zero_add _

/-- **The order of the map does not count.** -/
theorem applicationHistories_perm {services services' : List (Str × Option (IstioMetricHistories V))}
    (hs : ∀ entry ∈ services, ∀ h ∈ entry.2, h.AllDistinct) (hperm : services.Perm services') :
    applicationHistories slice (some services) = applicationHistories slice (some services') := by
  obtain ⟨h, heq, hsorted, hsum⟩ := sumOf_applicationHistories slice hs
  obtain ⟨h', heq', hsorted', hsum'⟩ := sumOf_applicationHistories slice
    (fun entry hentry => hs entry (hperm.mem_iff.mpr hentry))
  have hmap := hperm.filterMap Prod.snd
  rw [heq, heq']
  refine congrArg some (IstioMetricHistories.ext_kinds fun kind hkind => ?_)
  refine (hsorted kind hkind).ext (hsorted' kind hkind) (fun t => ?_) fun t => ?_
  · rw [(hsum kind hkind t).1, (hsum' kind hkind t).1]
    simp only [hmap.mem_iff]
  · rw [(hsum kind hkind t).2, (hsum' kind hkind t).2, (hmap.map _).sum_eq]

/-- **Merging is a sum**: what is merged is in order, has the times of both and at each the sum of the values; merging
    is commutative and associative; the histories of an application are in order and the sum of those of its services,
    and the same in every order of the map. -/
theorem histories_sum (slice : Sorting.Procedure) {a b c : MetricHistory V} (ha : Distinct a) (hb : Distinct b)
    (hc : Distinct c) {services services' : List (Str × Option (IstioMetricHistories V))}
    (hs : ∀ entry ∈ services, ∀ h ∈ entry.2, h.AllDistinct) (hperm : services.Perm services') :
    IsSum (mergeMetricHistories slice a b) a b ∧
    mergeMetricHistories slice a b = mergeMetricHistories slice b a ∧
    mergeMetricHistories slice (mergeMetricHistories slice a b) c =
      mergeMetricHistories slice a (mergeMetricHistories slice b c) ∧
    (∃ h, applicationHistories slice (some services) = some h ∧ (∀ kind ∈ kinds, Increasing (kind h)) ∧
      SumOf h (services.filterMap Prod.snd)) ∧
    applicationHistories slice (some services) = applicationHistories slice (some services') :=
  ⟨isSum_merge ha hb, merge_comm ha hb, merge_assoc ha hb hc, sumOf_applicationHistories slice hs,
    applicationHistories_perm hs hperm⟩

/-- Two services, in both orders of the map. -/
theorem histories_sum_shop :
    let web : IstioMetricHistories Int := ⟨[⟨120, 2⟩, ⟨60, 1⟩], [], [], [], [], [], [], []⟩
    let api : IstioMetricHistories Int := ⟨[⟨60, 5⟩], [], [], [], [], [], [], []⟩
    IsSum (mergeMetricHistories Sorting.insertion web.httpRequestsTotal api.httpRequestsTotal) web.httpRequestsTotal
        api.httpRequestsTotal ∧
      applicationHistories Sorting.insertion (some [(str "web", some web), (str "api", some api)]) =
        applicationHistories Sorting.insertion (some [(str "api", some api), (str "web", some web)]) := by
  intro web api
  have hweb : web.AllDistinct := by decide
  have hapi : api.AllDistinct := by decide
  have hs : ∀ entry ∈ [(str "web", some web), (str "api", some api)], ∀ h ∈ entry.2, h.AllDistinct :=
    List.forall_mem_cons.mpr ⟨fun h hh => Option.some.inj hh ▸ hweb,
      List.forall_mem_singleton.mpr fun h hh => Option.some.inj hh ▸ hapi⟩
  have hsum := histories_sum Sorting.insertion (a := web.httpRequestsTotal) (b := api.httpRequestsTotal) (c := [])
    (by decide) (by decide) (by decide) hs (List.Perm.swap _ _ _)
  exact ⟨hsum.1, hsum.2.2.2.2⟩

end Kalm.Traffic
