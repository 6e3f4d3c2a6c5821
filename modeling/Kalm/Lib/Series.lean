/-
  File:      Kalm/Lib/Series.lean
  Subject:   SERIES OF POINTS IN TIME, and their sum.

  * `total` -- the sum of the values at one time;
  * `Distinct`, `Increasing` -- no time twice, and the times in order;
  * `Increasing.ext` -- a series in order is determined by its times and its totals;
  * `mergeSum` -- two series in order, walked together; its totals are the sums (`total_mergeSum`);
  * `grouped` -- the points of one time added up, in the order of the times.
-/
import Mathlib.Algebra.BigOperators.Group.List.Basic
import Mathlib.Order.Basic
import Mathlib.Data.List.Dedup
import Mathlib.Data.List.Sort

namespace Series

/-- A value at a time. -/
structure Point (T V : Type) where
  time : T
  value : V
  deriving DecidableEq

variable {T V : Type} {l m : List (Point T V)} {p : Point T V} {t : T}

/-! ## 1. Times -/

/-- The times of a series. -/
def times (l : List (Point T V)) : List T := l.map Point.time

/-- No time stands twice. -/
def Distinct (l : List (Point T V)) : Prop := (times l).Nodup

instance [DecidableEq T] (l : List (Point T V)) : Decidable (Distinct l) := inferInstanceAs (Decidable (times l).Nodup)

/-- The times are in order. -/
def Increasing [LT T] (l : List (Point T V)) : Prop := l.Pairwise fun p q => p.time < q.time

@[simp] theorem times_cons (p : Point T V) (l : List (Point T V)) : times (p :: l) = p.time :: times l := rfl

theorem Distinct.perm (h : Distinct l) (hperm : l.Perm m) : Distinct m := (hperm.map _).nodup_iff.mp h

theorem Increasing.distinct [Preorder T] (h : Increasing l) : Distinct l :=
  (List.pairwise_map.mpr h).imp fun hlt => hlt.ne

/-! ## 2. Totals -/

variable [AddCommMonoid V]

/-- The sum of the values at a time. -/
def total [DecidableEq T] (l : List (Point T V)) (t : T) : V := ((l.filter fun p => p.time = t).map Point.value).sum

section

variable [DecidableEq T]

@[simp] theorem total_nil (t : T) : total ([] : List (Point T V)) t = 0 := rfl

theorem total_cons (p : Point T V) (l : List (Point T V)) (t : T) :
    total (p :: l) t = (if p.time = t then p.value else 0) + total l t := by
  unfold total
  by_cases h : p.time = t
  · rw [List.filter_cons, if_pos (decide_eq_true h), List.map_cons, List.sum_cons, if_pos h]
  · rw [List.filter_cons, if_neg (by rwa [decide_eq_true_iff]), if_neg h, zero_add]

theorem total_perm (h : l.Perm m) (t : T) : total l t = total m t := ((h.filter _).map _).sum_eq

theorem total_eq_zero (h : t ∉ times l) : total l t = 0 := by
  induction l with
  | nil => rfl
  | cons p l ih =>
      rw [times_cons, List.mem_cons, not_or] at h
      rw [total_cons, if_neg (Ne.symm h.1), ih h.2, zero_add]

/-- **Where no time stands twice** the total is the value of the point. -/
theorem Distinct.total_eq (h : Distinct l) (hp : p ∈ l) : total l p.time = p.value := by
  induction l with
  | nil => exact absurd hp List.not_mem_nil
  | cons q l ih =>
      have hq : q.time ∉ times l ∧ Distinct l := List.nodup_cons.mp h
      rw [total_cons]
      rcases List.mem_cons.mp hp with rfl | hp
      · rw [if_pos rfl, total_eq_zero hq.1, add_zero]
      · have hne : q.time ≠ p.time := fun heq => hq.1 (heq ▸ List.mem_map_of_mem hp)
        rw [if_neg hne, zero_add, ih hq.2 hp]

/-- A series is determined, up to the order of its points, by its times and its totals. -/
theorem Distinct.perm_of (hl : Distinct l) (hm : Distinct m) (htimes : ∀ t, t ∈ times l ↔ t ∈ times m)
    (htotal : ∀ t, total l t = total m t) : l.Perm m := by
  have hsub {l m : List (Point T V)} (hl : Distinct l) (hm : Distinct m) (htimes : ∀ t ∈ times l, t ∈ times m)
      (htotal : ∀ t, total l t = total m t) {p : Point T V} (hp : p ∈ l) : p ∈ m := by
    obtain ⟨q, hq, htime⟩ := List.mem_map.mp (htimes p.time (List.mem_map_of_mem hp))
    have hvalue : q.value = p.value := by rw [← hm.total_eq hq, htime, ← htotal, hl.total_eq hp]
    obtain ⟨time, value⟩ := p
    obtain ⟨time', value'⟩ := q
    obtain rfl : time' = time := htime
    obtain rfl : value' = value := hvalue
    exact hq
  have hnodup {l : List (Point T V)} (hl : Distinct l) : l.Nodup :=
    (List.pairwise_map.mp hl).imp fun hne heq => hne (congrArg Point.time heq)
  refine (List.perm_ext_iff_of_nodup (hnodup hl) (hnodup hm)).mpr fun p => ?_
  exact ⟨hsub hl hm (fun t => (htimes t).mp) htotal, hsub hm hl (fun t => (htimes t).mpr) fun t => (htotal t).symm⟩

end

variable [LinearOrder T]

/-- **A series in order** is determined by its times and its totals. -/
theorem Increasing.ext (hl : Increasing l) (hm : Increasing m) (htimes : ∀ t, t ∈ times l ↔ t ∈ times m)
    (htotal : ∀ t, total l t = total m t) : l = m :=
  (hl.distinct.perm_of hm.distinct htimes htotal).eq_of_pairwise
    (fun _ _ _ _ hpq hqp => absurd hpq (lt_asymm hqp)) hl hm

/-! ## 3. The sum of two series -/

/-- Two series in order, walked together. -/
def mergeSum : List (Point T V) → List (Point T V) → List (Point T V)
  | [], m => m
  | p :: l, [] => p :: l
  | p :: l, q :: m =>
    if p.time = q.time then ⟨p.time, p.value + q.value⟩ :: mergeSum l m
    else if p.time < q.time then p :: mergeSum l (q :: m)
    else q :: mergeSum (p :: l) m
termination_by l m => l.length + m.length

theorem mem_times_mergeSum : t ∈ times (mergeSum l m) ↔ t ∈ times l ∨ t ∈ times m := by
  induction l, m using mergeSum.induct with
  | case1 m =>
      rw [mergeSum]
      exact (or_iff_right List.not_mem_nil).symm
  | case2 p l =>
      rw [mergeSum]
      exact (or_iff_left List.not_mem_nil).symm
  | case3 p l q m heq ih =>
      rw [mergeSum, if_pos heq, times_cons, times_cons, times_cons, List.mem_cons, List.mem_cons, List.mem_cons, ih,
        heq]
      tauto
  | case4 p l q m heq hlt ih =>
      rw [mergeSum, if_neg heq, if_pos hlt, times_cons, List.mem_cons, ih, times_cons p, List.mem_cons, or_assoc]
  | case5 p l q m heq hlt ih =>
      rw [mergeSum, if_neg heq, if_neg hlt, times_cons, List.mem_cons, ih, times_cons q, List.mem_cons, or_left_comm]

theorem total_mergeSum : total (mergeSum l m) t = total l t + total m t := by
  induction l, m using mergeSum.induct with
  | case1 m => rw [mergeSum, total_nil, zero_add]
  | case2 p l => rw [mergeSum, total_nil, add_zero]
  | case3 p l q m heq ih =>
      rw [mergeSum, if_pos heq, total_cons, total_cons, total_cons, ih, ← heq]
      by_cases ht : p.time = t
      · rw [if_pos ht, if_pos ht, if_pos ht, add_add_add_comm]
      · rw [if_neg ht, if_neg ht, if_neg ht, zero_add, zero_add, zero_add]
  | case4 p l q m heq hlt ih => rw [mergeSum, if_neg heq, if_pos hlt, total_cons, ih, total_cons p, add_assoc]
  | case5 p l q m heq hlt ih => rw [mergeSum, if_neg heq, if_neg hlt, total_cons, ih, total_cons q, add_left_comm]

/-- A time in front of two series is in front of their sum. -/
theorem lt_mergeSum (hl : ∀ p ∈ l, t < p.time) (hm : ∀ p ∈ m, t < p.time) : ∀ p ∈ mergeSum l m, t < p.time := by
  intro p hp
  rcases mem_times_mergeSum.mp (List.mem_map_of_mem hp) with htime | htime
  · obtain ⟨q, hq, heq⟩ := List.mem_map.mp htime
    exact heq ▸ hl q hq
  · obtain ⟨q, hq, heq⟩ := List.mem_map.mp htime
    exact heq ▸ hm q hq

/-- **The sum is in order.** -/
theorem increasing_mergeSum (hl : Increasing l) (hm : Increasing m) : Increasing (mergeSum l m) := by
  induction l, m using mergeSum.induct with
  | case1 m => rwa [mergeSum]
  | case2 p l => rwa [mergeSum]
  | case3 p l q m heq ih =>
      obtain ⟨hp, hl⟩ := List.pairwise_cons.mp hl
      obtain ⟨hq, hm⟩ := List.pairwise_cons.mp hm
      rw [mergeSum, if_pos heq]
      exact List.pairwise_cons.mpr ⟨lt_mergeSum hp fun r hr => heq ▸ hq r hr, ih hl hm⟩
  | case4 p l q m heq hlt ih =>
      obtain ⟨hp, hl⟩ := List.pairwise_cons.mp hl
      rw [mergeSum, if_neg heq, if_pos hlt]
      refine List.pairwise_cons.mpr ⟨lt_mergeSum hp fun r hr => ?_, ih hl hm⟩
      rcases List.mem_cons.mp hr with rfl | hr
      · exact hlt
      · exact hlt.trans ((List.pairwise_cons.mp hm).1 r hr)
  | case5 p l q m heq hlt ih =>
      obtain ⟨hq, hm⟩ := List.pairwise_cons.mp hm
      have hqp : q.time < p.time := lt_of_le_of_ne (not_lt.mp hlt) (Ne.symm heq)
      rw [mergeSum, if_neg heq, if_neg hlt]
      refine List.pairwise_cons.mpr ⟨lt_mergeSum (fun r hr => ?_) hq, ih hl hm⟩
      rcases List.mem_cons.mp hr with rfl | hr
      · exact hqp
      · exact hqp.trans ((List.pairwise_cons.mp hl).1 r hr)

/-! ## 4. Points of one time -/

/-- The points of each time added up, in the order of the times. -/
def grouped (l : List (Point T V)) : List (Point T V) :=
  ((times l).dedup.insertionSort (· ≤ ·)).map fun t => ⟨t, total l t⟩

theorem times_grouped (l : List (Point T V)) : times (grouped l) = (times l).dedup.insertionSort (· ≤ ·) := by
  rw [times, grouped, List.map_map]
  exact List.map_id _

theorem mem_times_grouped : t ∈ times (grouped l) ↔ t ∈ times l := by
  rw [times_grouped, (List.perm_insertionSort _ _).mem_iff, List.mem_dedup]

/-- **One point for each time, in order.** -/
theorem increasing_grouped (l : List (Point T V)) : Increasing (grouped l) := by
  have hle := List.pairwise_insertionSort (· ≤ ·) (times l).dedup
  have hnodup := (List.perm_insertionSort (· ≤ ·) (times l).dedup).nodup_iff.mpr (List.nodup_dedup _)
  rw [← times_grouped] at hle hnodup
  exact (List.pairwise_map.mp (hle.and hnodup)).imp fun hboth => lt_of_le_of_ne hboth.1 hboth.2

/-- **Its value is the sum.** -/
theorem total_grouped (l : List (Point T V)) (t : T) : total (grouped l) t = total l t := by
  by_cases ht : t ∈ times l
  · have hpoint : (⟨t, total l t⟩ : Point T V) ∈ grouped l := by
      refine List.mem_map.mpr ⟨t, ?_, rfl⟩
      rw [← times_grouped]
      exact mem_times_grouped.mpr ht
    exact (increasing_grouped l).distinct.total_eq hpoint
  · rw [total_eq_zero ht, total_eq_zero fun hmem => ht (mem_times_grouped.mp hmem)]

end Series
