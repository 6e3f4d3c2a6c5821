/-
  File:      Kalm/Route/Weights.lean
  Subject:   THE WEIGHTS OF A ROUTE: what `adjustWeightToSumTo100` of controller/controllers/http_route_controller.go
             makes of the weights of the destinations.

  * `percents` -- what the machine makes of every weight by itself; `percents_eq` -- the shares, where they fit;
  * `adjustWeightToSumTo100_eq` -- the other entries are the percents, the first largest is what they leave of 100;
  * `ValidSplit` -- between 0 and 100, in sum 100, zero for zero, in the order of the weights;
  * `validSplit_iff` -- the weights that are split so, on the machine the controller is built for and on every machine.
-/
import Kalm.Lib.Shares
import Kalm.Route.Istio

namespace Kalm

open Shares (First others share)

/-! ## 1. What is computed -/

/-- The weights, each made a percentage by itself. -/
def percents (machine : Int32Conversion) (ws : List Int) : List Int :=
  ws.map fun w => machine.convert (roundPercent w (int64 ws.sum))

/-- The shares of the weights in their sum, an `int`. -/
def shares (ws : List Int) : List Int := ws.map fun w => share w (int64 ws.sum)

variable {machine : Int32Conversion} {ws rst : List Int} {i j k : Nat}

theorem length_percents (machine : Int32Conversion) (ws : List Int) : (percents machine ws).length = ws.length :=
  List.length_map ..

theorem length_shares (ws : List Int) : (shares ws).length = ws.length := List.length_map ..

theorem getD_shares (ws : List Int) (i : Nat) : (shares ws).getD i 0 = share (ws.getD i 0) (int64 ws.sum) := by
  rw [shares, List.getD_eq_getElem?_getD, List.getElem?_map, List.getD_eq_getElem?_getD]
  cases ws[i]? with
  | none => exact Shares.share_zero.symm
  | some w => rfl

/-- The sum is not zero, and an `int32` holds every share. -/
structure Fits (ws : List Int) : Prop where
  sum : int64 ws.sum ≠ 0
  low : ∀ w ∈ ws, -2 ^ 31 ≤ share w (int64 ws.sum)
  high : ∀ w ∈ ws, share w (int64 ws.sum) < 2 ^ 31

/-- **Where they fit, every machine computes the shares.** -/
theorem percents_eq (machine : Int32Conversion) (h : Fits ws) : percents machine ws = shares ws := by
  refine List.map_congr_left fun w hw => ?_
  rw [roundPercent, if_neg h.sum]
  exact machine.whole (h.low w hw) (h.high w hw)

/-- **The largest percentage is found**, the first one of them. -/
theorem first_biggestIndex (h : rst ≠ []) : First rst (biggestIndex rst) := by
  have hloop (n : Nat) (hn : n < rst.length) :
      let k := (List.range (n + 1)).foldl (fun maxIdx i => if rst.getD i 0 ≤ rst.getD maxIdx 0 then maxIdx else i) 0
      k < n + 1 ∧ (∀ i < n + 1, rst.getD i 0 ≤ rst.getD k 0) ∧ ∀ i < k, rst.getD i 0 < rst.getD k 0 := by
    induction n with
    | zero =>
        refine ⟨?_, fun i hi => ?_, fun i hi => ?_⟩
        · simp
        · obtain rfl : i = 0 := by omega
          simp
        · simp at hi
    | succ n ih =>
        obtain ⟨hlt, hlargest, hfirst⟩ := ih (by omega)
        rw [List.range_succ, List.foldl_append]
        generalize (List.range (n + 1)).foldl
          (fun maxIdx i => if rst.getD i 0 ≤ rst.getD maxIdx 0 then maxIdx else i) 0 = k at hlt hlargest hfirst
        rw [List.foldl_cons, List.foldl_nil]
        split
        · rename_i hle
          refine ⟨by omega, fun i hi => ?_, hfirst⟩
          by_cases hlast : i = n + 1
          · rwa [hlast]
          · exact hlargest i (by omega)
        · rename_i hgt
          refine ⟨by omega, fun i hi => ?_, fun i hi => ?_⟩
          · by_cases hlast : i = n + 1
            · rw [hlast]
            · have hle := hlargest i (by omega)
              omega
          · have hle := hlargest i hi
            omega
  obtain ⟨n, hn⟩ := Nat.exists_eq_succ_of_ne_zero (List.length_pos_iff.mpr h).ne'
  obtain ⟨hlt, hlargest, hfirst⟩ := hloop n (by omega)
  rw [← Nat.succ_eq_add_one, ← hn] at hlt hlargest hfirst
  exact ⟨hlt, hlargest, hfirst⟩

theorem percents_ne_nil (h : ws ≠ []) : percents machine ws ≠ [] := by rwa [percents, Ne, List.map_eq_nil_iff]

theorem first_percents (machine : Int32Conversion) (h : ws ≠ []) :
    First (percents machine ws) (biggestIndex (percents machine ws)) :=
  first_biggestIndex (percents_ne_nil h)

theorem int32_percents (machine : Int32Conversion) (hi : i < ws.length) :
    int32 ((percents machine ws).getD i 0) = (percents machine ws).getD i 0 := by
  rw [percents, List.getD_eq_getElem _ _ (by rwa [List.length_map]), List.getElem_map]
  obtain ⟨hlow, hhigh⟩ := machine.range (roundPercent ws[i] (int64 ws.sum))
  exact Int.bmod_eq_of_le (by omega) (by omega)

/-- **One entry is what the others leave of 100.** -/
theorem adjustWeightToSumTo100_eq (machine : Int32Conversion) (h : ws ≠ []) :
    adjustWeightToSumTo100 machine ws = (percents machine ws).modify (biggestIndex (percents machine ws))
      fun _ => int32 (100 - others (percents machine ws) (biggestIndex (percents machine ws))) := by
  have hlt := (first_percents machine h).lt
  have hsmall := int32_percents machine (hlt.trans_eq (length_percents machine ws))
  have hadjust : adjustWeightToSumTo100 machine ws =
      if int32 (percents machine ws).sum ≠ 100 then
        adjustBiggestWeight (percents machine ws) (int32 (100 - int32 (percents machine ws).sum))
      else percents machine ws := rfl
  rw [hadjust]
  generalize percents machine ws = p at hlt hsmall ⊢
  generalize hk : biggestIndex p = k at hlt hsmall ⊢
  split
  · rw [adjustBiggestWeight, hk]
    refine Shares.modify_congr ?_
    unfold int32 others
    rw [Int.add_bmod_bmod, ← Int.add_sub_assoc, Int.sub_bmod_bmod]
    congr 1
    omega
  · rename_i htotal
    rw [not_not] at htotal
    refine (Shares.modify_self ?_).symm
    calc int32 (100 - others p k) = int32 (100 + p.getD k 0 - int32 p.sum) := by
          unfold int32 others
          rw [Int.sub_bmod_bmod]
          congr 1
          omega
      _ = p.getD k 0 := by
          rw [htotal, add_sub_cancel_left, hsmall]

/-- What is returned, entry by entry. -/
theorem getD_adjustWeightToSumTo100 (h : ws ≠ []) (hk : First (percents machine ws) k) (i : Nat) :
    (adjustWeightToSumTo100 machine ws).getD i 0 =
      if i = k then int32 (100 - others (percents machine ws) k) else (percents machine ws).getD i 0 := by
  obtain rfl := Shares.first_unique hk (first_percents machine h)
  rw [adjustWeightToSumTo100_eq machine h, Shares.getD_modify _ _ hk.lt]

theorem sum_adjustWeightToSumTo100 (h : ws ≠ []) (hk : First (percents machine ws) k) :
    (adjustWeightToSumTo100 machine ws).sum =
      others (percents machine ws) k + int32 (100 - others (percents machine ws) k) := by
  obtain rfl := Shares.first_unique hk (first_percents machine h)
  rw [adjustWeightToSumTo100_eq machine h, Shares.sum_modify _ hk.lt]

/-! ## 2. A valid split -/

/-- **The weights are split**: every entry is between 0 and 100, all of them make 100, nothing goes to a weight of
    zero, and the order of the weights is kept; one entry may differ from those of the same weight. -/
structure ValidSplit (ws rst : List Int) : Prop where
  length : rst.length = ws.length
  range : ∀ i < ws.length, 0 ≤ rst.getD i 0 ∧ rst.getD i 0 ≤ 100
  sum : rst.sum = 100
  zero : ∀ i < ws.length, ws.getD i 0 = 0 → rst.getD i 0 = 0
  order : ∀ i < ws.length, ∀ j < ws.length, ws.getD i 0 < ws.getD j 0 → rst.getD i 0 ≤ rst.getD j 0
  ties : ∃ k, ∀ i < ws.length, ∀ j < ws.length, i ≠ k → j ≠ k → ws.getD i 0 = ws.getD j 0 →
    rst.getD i 0 = rst.getD j 0

/-- The percentages make a split when the entry `k` takes what the others leave. -/
structure Splits (ws p : List Int) (k : Nat) : Prop where
  rest : ∀ i < ws.length, i ≠ k → 0 ≤ p.getD i 0
  room : others p k ≤ 100
  zero : ws.getD k 0 = 0 → others p k = 100
  order : ∀ i < ws.length, ∀ j < ws.length, i ≠ k → j ≠ k → ws.getD i 0 < ws.getD j 0 → p.getD i 0 ≤ p.getD j 0
  below : ∀ i < ws.length, ws.getD i 0 < ws.getD k 0 → p.getD i 0 ≤ 100 - others p k
  above : ∀ j < ws.length, ws.getD k 0 < ws.getD j 0 → 100 - others p k ≤ p.getD j 0

theorem int32_of_bounds {n : Int} (h : 0 ≤ n) (h' : n ≤ 100) : int32 n = n :=
  Int.bmod_eq_of_le (by omega) (by omega)

/-- **The weights are split exactly where the percentages make a split.** -/
theorem validSplit_iff_splits (machine : Int32Conversion) (hfits : Fits ws) (hk : First (shares ws) k) :
    ValidSplit ws (adjustWeightToSumTo100 machine ws) ↔ Splits ws (shares ws) k := by
  have hlt : k < ws.length := length_shares ws ▸ hk.lt
  have hne : ws ≠ [] := by
    rintro rfl
    cases hlt
  have hpercents := percents_eq machine hfits
  have hfirst : First (percents machine ws) k := hpercents ▸ hk
  have hget := getD_adjustWeightToSumTo100 hne hfirst
  have hsum := sum_adjustWeightToSumTo100 hne hfirst
  rw [hpercents] at hget hsum
  have hlength := length_adjustWeightToSumTo100 machine ws
  generalize adjustWeightToSumTo100 machine ws = rst at hget hsum hlength
  have hself : rst.getD k 0 = int32 (100 - others (shares ws) k) := by rw [hget, if_pos rfl]
  have hother (i : Nat) (hi : i ≠ k) : rst.getD i 0 = (shares ws).getD i 0 := by rw [hget, if_neg hi]
  constructor
  · intro hvalid
    have htotal : int32 (100 - others (shares ws) k) = 100 - others (shares ws) k := by
      have hhundred := hvalid.sum
      omega
    rw [htotal] at hself
    refine ⟨fun i hi hne => ?_, ?_, fun hzero => ?_, fun i hi j hj hik hjk hless => ?_, fun i hi hless => ?_,
      fun j hj hless => ?_⟩
    · rw [← hother i hne]
      exact (hvalid.range i hi).1
    · have hrange := (hvalid.range k hlt).1
      omega
    · have hnone := hvalid.zero k hlt hzero
      omega
    · rw [← hother i hik, ← hother j hjk]
      exact hvalid.order i hi j hj hless
    · have hne : i ≠ k := by
        rintro rfl
        omega
      rw [← hother i hne, ← hself]
      exact hvalid.order i hi k hlt hless
    · have hne : j ≠ k := by
        rintro rfl
        omega
      rw [← hother j hne, ← hself]
      exact hvalid.order k hlt j hj hless
  · intro hsplits
    obtain ⟨hnonneg, hle⟩ := Shares.others_nonneg hk.lt fun i hi hne =>
      hsplits.rest i (by rwa [length_shares] at hi) hne
    have hroom := hsplits.room
    have htotal := int32_of_bounds (n := 100 - others (shares ws) k) (by omega) (by omega)
    rw [htotal] at hself hsum
    refine ⟨hlength, fun i hi => ?_, by omega, fun i hi hzero => ?_, fun i hi j hj hless => ?_,
      k, fun i hi j hj hik hjk heq => ?_⟩
    · by_cases hik : i = k
      · rw [hik, hself]
        omega
      · rw [hother i hik]
        have hlow := hsplits.rest i hi hik
        have hhigh := hle i (by rwa [length_shares]) hik
        omega
    · by_cases hik : i = k
      · rw [hik] at hzero ⊢
        rw [hself, hsplits.zero hzero]
        rfl
      · rw [hother i hik, getD_shares, hzero, Shares.share_zero]
    · by_cases hik : i = k
      · rw [hik] at hless ⊢
        have hjk : j ≠ k := by
          rintro rfl
          omega
        rw [hself, hother j hjk]
        exact hsplits.above j hj hless
      · by_cases hjk : j = k
        · rw [hjk] at hless ⊢
          rw [hself, hother i hik]
          exact hsplits.below i hi hless
        · rw [hother i hik, hother j hjk]
          exact hsplits.order i hi j hj hik hjk hless
    · rw [hother i hik, hother j hjk, getD_shares, getD_shares, heq]

/-! ## 3. A positive sum -/

/-- **The condition on the shares**: the others leave something of 100, not less than a smaller weight has; and
    where more is left than the share of the entry, no weight is larger. -/
structure Fair (ws p : List Int) (k : Nat) : Prop where
  room : others p k ≤ 100
  below : ∀ i < ws.length, ws.getD i 0 < ws.getD k 0 → p.getD i 0 ≤ 100 - others p k
  above : 100 ≤ p.sum ∨ ∀ j < ws.length, ws.getD j 0 ≤ ws.getD k 0

theorem getD_nonneg (hnonneg : ∀ w ∈ ws, 0 ≤ w) (i : Nat) : 0 ≤ ws.getD i 0 := by
  rw [List.getD_eq_getElem?_getD]
  cases hi : ws[i]? with
  | none => exact Int.le_refl 0
  | some w => exact hnonneg w (List.mem_of_getElem? hi)

/-- Some weight is not zero. -/
theorem exists_pos (hnonneg : ∀ w ∈ ws, 0 ≤ w) (hpos : 0 < ws.sum) : ∃ i < ws.length, 0 < ws.getD i 0 := by
  by_contra hnone
  push Not at hnone
  refine hpos.ne' (List.sum_eq_zero fun w hw => Int.le_antisymm ?_ (hnonneg w hw))
  obtain ⟨i, hi, rfl⟩ := List.getElem_of_mem hw
  have hle := hnone i hi
  rwa [List.getD_eq_getElem _ _ hi] at hle

section Positive

variable (hnonneg : ∀ w ∈ ws, 0 ≤ w) (hpos : 0 < ws.sum) (htotal : 0 < int64 ws.sum)

include htotal

theorem getD_shares_mono (h : ws.getD i 0 ≤ ws.getD j 0) : (shares ws).getD i 0 ≤ (shares ws).getD j 0 := by
  rw [getD_shares, getD_shares]
  exact Shares.share_mono htotal h

include hnonneg

theorem getD_shares_nonneg (i : Nat) : 0 ≤ (shares ws).getD i 0 := by
  rw [getD_shares]
  calc (0 : Int) = share 0 (int64 ws.sum) := Shares.share_zero.symm
    _ ≤ share (ws.getD i 0) (int64 ws.sum) := Shares.share_mono htotal (getD_nonneg hnonneg i)

/-- All shares fit where the largest one does. -/
theorem fits_of_first (hk : First (shares ws) k) (h : (shares ws).getD k 0 < 2 ^ 31) : Fits ws := by
  have hshare (w : Int) (hw : w ∈ ws) : 0 ≤ share w (int64 ws.sum) ∧ share w (int64 ws.sum) < 2 ^ 31 := by
    obtain ⟨i, hi, rfl⟩ := List.getElem_of_mem hw
    have hlow := getD_shares_nonneg hnonneg htotal i
    have hhigh := hk.largest i (by rwa [length_shares])
    rw [← List.getD_eq_getElem ws 0 hi, ← getD_shares]
    omega
  refine ⟨htotal.ne', fun w hw => ?_, fun w hw => (hshare w hw).2⟩
  have hlow := (hshare w hw).1
  omega

include hpos

theorem splits_iff_fair (hk : First (shares ws) k) : Splits ws (shares ws) k ↔ Fair ws (shares ws) k := by
  have hlen := length_shares ws
  have hlt : k < ws.length := hlen ▸ hk.lt
  have hmono (i j : Nat) := getD_shares_mono (i := i) (j := j) htotal
  have hothers : others (shares ws) k = (shares ws).sum - (shares ws).getD k 0 := rfl
  constructor
  · intro h
    refine ⟨h.room, h.below, ?_⟩
    by_contra hnot
    rw [not_or, not_le] at hnot
    refine hnot.2 fun j hj => ?_
    by_contra hless
    have habove := h.above j hj (by omega)
    have hlargest := hk.largest j (by omega)
    omega
  · intro h
    refine ⟨fun i hi hne => getD_shares_nonneg hnonneg htotal i, h.room, fun hzero => ?_,
      fun i hi j hj _ _ hless => hmono i j (Int.le_of_lt hless), h.below, fun j hj hless => ?_⟩
    · have hroom := h.room
      rcases h.above with hsum | hlargest
      · have hnone : (shares ws).getD k 0 = 0 := by
          rw [getD_shares, hzero, Shares.share_zero]
        omega
      · -- some weight is larger than zero
        obtain ⟨i, hi, hlarger⟩ := exists_pos hnonneg hpos
        have hle := hlargest i hi
        omega
    · rcases h.above with hsum | hlargest
      · have hle := hmono k j (Int.le_of_lt hless)
        omega
      · have hle := hlargest j hj
        omega

end Positive

/-! ## 4. A negative sum -/

/-- The sum has run over to a negative number: no weight is above half a percent of it, and none is above the first. -/
structure Overrun (ws : List Int) : Prop where
  small : ∀ w ∈ ws, 200 * w ≤ -int64 ws.sum
  head : ∀ i < ws.length, ws.getD i 0 ≤ ws.getD 0 0

section Negative

variable (hnonneg : ∀ w ∈ ws, 0 ≤ w) (hpos : 0 < ws.sum) (htotal : int64 ws.sum < 0)

include hnonneg htotal

/-- Only shares of zero are not negative: those of the small weights. -/
theorem share_eq_zero_iff {w : Int} (hw : w ∈ ws) :
    (0 ≤ share w (int64 ws.sum) ↔ 200 * w ≤ -int64 ws.sum) ∧
      (0 ≤ share w (int64 ws.sum) → share w (int64 ws.sum) = 0) := by
  have hle := Shares.share_nonpos htotal (hnonneg w hw)
  refine ⟨Shares.share_nonneg_iff htotal, fun h => Int.le_antisymm hle h⟩

theorem share_of_small (h : ∀ w ∈ ws, 200 * w ≤ -int64 ws.sum) {w : Int} (hw : w ∈ ws) :
    share w (int64 ws.sum) = 0 := by
  obtain ⟨hiff, hzero⟩ := share_eq_zero_iff hnonneg htotal hw
  exact hzero (hiff.mpr (h w hw))

theorem getD_shares_eq_zero (h : ∀ w ∈ ws, 200 * w ≤ -int64 ws.sum) (i : Nat) : (shares ws).getD i 0 = 0 := by
  rw [getD_shares, List.getD_eq_getElem?_getD]
  cases hi : ws[i]? with
  | none => exact Shares.share_zero
  | some w => exact share_of_small hnonneg htotal h (List.mem_of_getElem? hi)

theorem first_zero (hne : ws ≠ []) (h : ∀ w ∈ ws, 200 * w ≤ -int64 ws.sum) : First (shares ws) 0 := by
  have hlen := List.length_pos_iff.mpr hne
  refine ⟨by rwa [length_shares], fun i hi => ?_, fun i hi => absurd hi (Nat.not_lt_zero i)⟩
  rw [getD_shares_eq_zero hnonneg htotal h, getD_shares_eq_zero hnonneg htotal h]

theorem fits_of_small (h : ∀ w ∈ ws, 200 * w ≤ -int64 ws.sum) : Fits ws := by
  refine ⟨htotal.ne, fun w hw => ?_, fun w hw => ?_⟩
  · rw [share_of_small hnonneg htotal h hw]
    omega
  · rw [share_of_small hnonneg htotal h hw]
    omega

include hpos

/-- The first one takes everything, which is in order where no weight is larger. -/
theorem splits_iff_head (h : ∀ w ∈ ws, 200 * w ≤ -int64 ws.sum) :
    Splits ws (shares ws) 0 ↔ ∀ i < ws.length, ws.getD i 0 ≤ ws.getD 0 0 := by
  have hzero (i : Nat) := getD_shares_eq_zero hnonneg htotal h i
  have hothers : others (shares ws) 0 = 0 := by
    rw [others, hzero, Int.sub_zero]
    refine List.sum_eq_zero fun a ha => ?_
    obtain ⟨w, hw, rfl⟩ := List.mem_map.mp ha
    exact share_of_small hnonneg htotal h hw
  constructor
  · intro hsplits i hi
    by_contra hless
    have habove := hsplits.above i hi (by omega)
    rw [hothers, hzero] at habove
    omega
  · intro hhead
    refine ⟨fun i _ _ => (hzero i).ge, by omega, fun hnone => ?_, fun i _ j _ _ _ _ => by rw [hzero, hzero],
      fun i _ _ => ?_, fun j hj hless => ?_⟩
    · obtain ⟨i, hi, hlarger⟩ := exists_pos hnonneg hpos
      have hle := hhead i hi
      omega
    · rw [hzero, hothers]
      omega
    · have hle := hhead j hj
      omega

end Negative

/-! ## 5. What the machine the controller is built for shows -/

theorem amd64_nonneg {x : Floored} (h : 0 ≤ amd64.convert x) : ∃ n, x = .whole n ∧ 0 ≤ n ∧ n < 2 ^ 31 := by
  cases x with
  | whole n =>
      change 0 ≤ if -2 ^ 31 ≤ n ∧ n < 2 ^ 31 then n else -2 ^ 31 at h
      split at h
      · rename_i hrange
        exact ⟨n, rfl, h, hrange.2⟩
      · omega
  | infinite => exact absurd h (by decide)
  | nan => exact absurd h (by decide)

/-- With a second destination, a valid split has no negative percent. -/
theorem percents_nonneg (hlen : ws.length ≠ 1) (hne : ws ≠ [])
    (h : ValidSplit ws (adjustWeightToSumTo100 machine ws)) : ∀ i < ws.length, 0 ≤ (percents machine ws).getD i 0 := by
  have hk := first_percents machine hne
  generalize biggestIndex (percents machine ws) = k at hk
  have hother (i : Nat) (hi : i < ws.length) (hik : i ≠ k) : 0 ≤ (percents machine ws).getD i 0 := by
    have hrange := (h.range i hi).1
    rwa [getD_adjustWeightToSumTo100 hne hk, if_neg hik] at hrange
  have hpos := List.length_pos_iff.mpr hne
  intro i hi
  by_cases hik : i = k
  · -- the largest one is not below another one
    obtain ⟨j, hj, hjk⟩ : ∃ j < ws.length, j ≠ k := by
      by_cases hzero : k = 0
      · exact ⟨1, by omega, by omega⟩
      · exact ⟨0, hpos, by omega⟩
    have hle := hk.largest j (by rwa [length_percents])
    have hlow := hother j hj hjk
    rw [hik]
    omega
  · exact hother i hi hik

/-- **A valid split comes from shares that fit.** -/
theorem fits_of_valid (hlen : ws.length ≠ 1) (hne : ws ≠ []) (h : ValidSplit ws (adjustWeightToSumTo100 amd64 ws)) :
    Fits ws ∧ ∀ w ∈ ws, 0 ≤ share w (int64 ws.sum) := by
  have hnonneg := percents_nonneg hlen hne h
  have hwhole (w : Int) (hw : w ∈ ws) : ∃ n, roundPercent w (int64 ws.sum) = .whole n ∧ 0 ≤ n ∧ n < 2 ^ 31 := by
    obtain ⟨i, hi, rfl⟩ := List.getElem_of_mem hw
    have hlow := hnonneg i hi
    rw [percents, List.getD_eq_getElem _ _ (by rwa [List.length_map]), List.getElem_map] at hlow
    exact amd64_nonneg hlow
  have hsum : int64 ws.sum ≠ 0 := by
    obtain ⟨w, hw⟩ := List.exists_mem_of_ne_nil ws hne
    obtain ⟨n, hn, _⟩ := hwhole w hw
    intro hzero
    rw [roundPercent, if_pos hzero] at hn
    split at hn <;> cases hn
  have hshare (w : Int) (hw : w ∈ ws) : 0 ≤ share w (int64 ws.sum) ∧ share w (int64 ws.sum) < 2 ^ 31 := by
    obtain ⟨n, hn, hbounds⟩ := hwhole w hw
    rw [roundPercent, if_neg hsum] at hn
    cases hn
    exact hbounds
  refine ⟨⟨hsum, fun w hw => ?_, fun w hw => (hshare w hw).2⟩, fun w hw => (hshare w hw).1⟩
  have hlow := (hshare w hw).1
  omega

/-! ## 6. The weights that are split -/

/-- A single destination has everything. -/
theorem validSplit_single (machine : Int32Conversion) (hlen : ws.length = 1) (hpos : 0 < ws.sum) :
    ValidSplit ws (adjustWeightToSumTo100 machine ws) := by
  obtain ⟨w, rfl⟩ := List.length_eq_one_iff.mp hlen
  have hall : adjustWeightToSumTo100 machine [w] = [100] := by
    rw [adjustWeightToSumTo100_eq machine (List.cons_ne_nil w [])]
    have hone : others (percents machine [w]) 0 = 0 := Int.sub_eq_zero.mpr (Int.add_zero _)
    have hindex : biggestIndex (percents machine [w]) = 0 := by
      simp [biggestIndex, percents]
    rw [hindex, hone]
    rfl
  rw [hall]
  rw [List.sum_singleton] at hpos
  have hhead (i : Nat) (hi : i < [w].length) : i = 0 := by
    rw [hlen] at hi
    omega
  refine ⟨rfl, fun i hi => ?_, rfl, fun i hi hzero => ?_, fun i hi j hj _ => ?_, 0, fun i hi _ _ hne => ?_⟩
  · obtain rfl := hhead i hi
    decide
  · obtain rfl := hhead i hi
    exact absurd hzero hpos.ne'
  · rw [hhead i hi, hhead j hj]
  · exact absurd (hhead i hi) hne

/-- **The weights that are split**, with the sum computed as an `int`: the single one; those of a positive sum whose
    shares fit an `int32` and leave the largest a fair rest; those of a negative sum that all round to zero, none of
    them above the first one. -/
inductive SplitMeets (ws : List Int) : Prop where
  | single (length : ws.length = 1)
  | fair {k : Nat} (sum : 0 < int64 ws.sum) (largest : First (shares ws) k)
      (fits : (shares ws).getD k 0 < 2 ^ 31) (rest : Fair ws (shares ws) k)
  | overrun (sum : int64 ws.sum < 0) (rest : Overrun ws)

theorem validSplit_of_meets (machine : Int32Conversion) (hne : ws ≠ []) (hnonneg : ∀ w ∈ ws, 0 ≤ w) (hpos : 0 < ws.sum)
    (h : SplitMeets ws) : ValidSplit ws (adjustWeightToSumTo100 machine ws) := by
  cases h with
  | single hlen => exact validSplit_single machine hlen hpos
  | fair hsum hk hfits hrest =>
      rw [validSplit_iff_splits machine (fits_of_first hnonneg hsum hk hfits) hk]
      exact (splits_iff_fair hnonneg hpos hsum hk).mpr hrest
  | overrun hsum hrest =>
      rw [validSplit_iff_splits machine (fits_of_small hnonneg hsum hrest.small)
        (first_zero hnonneg hsum hne hrest.small)]
      exact (splits_iff_head hnonneg hpos hsum hrest.small).mpr hrest.head

theorem meets_of_validSplit (hne : ws ≠ []) (hnonneg : ∀ w ∈ ws, 0 ≤ w) (hpos : 0 < ws.sum)
    (h : ValidSplit ws (adjustWeightToSumTo100 amd64 ws)) : SplitMeets ws := by
  by_cases hlen : ws.length = 1
  · exact .single hlen
  obtain ⟨hfits, hshares⟩ := fits_of_valid hlen hne h
  rcases lt_or_gt_of_ne hfits.sum with hneg | hpositive
  · have hsmall (w : Int) (hw : w ∈ ws) : 200 * w ≤ -int64 ws.sum :=
      (share_eq_zero_iff hnonneg hneg hw).1.mp (hshares w hw)
    rw [validSplit_iff_splits amd64 hfits (first_zero hnonneg hneg hne hsmall)] at h
    exact .overrun hneg ⟨hsmall, (splits_iff_head hnonneg hpos hneg hsmall).mp h⟩
  · have hk : First (shares ws) (biggestIndex (shares ws)) :=
      first_biggestIndex (by rwa [shares, Ne, List.map_eq_nil_iff])
    rw [validSplit_iff_splits amd64 hfits hk] at h
    refine .fair hpositive hk ?_ ((splits_iff_fair hnonneg hpos hpositive hk).mp h)
    have hlt := hk.lt
    rw [List.getD_eq_getElem _ _ hlt]
    obtain ⟨w, hw, heq⟩ := List.mem_map.mp (List.getElem_mem hlt)
    rw [← heq]
    exact hfits.high w hw

/-- **The weights are a valid split, on the machine the controller is built for and on every other one, exactly where
    the condition is met.** -/
theorem validSplit_iff (ws : List Int) (hne : ws ≠ []) (hnonneg : ∀ w ∈ ws, 0 ≤ w) (hpos : 0 < ws.sum) :
    (ValidSplit ws (adjustWeightToSumTo100 amd64 ws) ↔ SplitMeets ws) ∧
      ((∀ machine : Int32Conversion, ValidSplit ws (adjustWeightToSumTo100 machine ws)) ↔ SplitMeets ws) :=
  ⟨⟨meets_of_validSplit hne hnonneg hpos, validSplit_of_meets amd64 hne hnonneg hpos⟩,
    fun h => meets_of_validSplit hne hnonneg hpos (h amd64),
    fun h machine => validSplit_of_meets machine hne hnonneg hpos h⟩

/-- One destination has most of the weight: 13, 13 and 75 percent make 101, and the last one gives one back. -/
theorem validSplit_skewed :
    SplitMeets [1, 1, 6] ∧
      ∀ machine : Int32Conversion, ValidSplit [1, 1, 6] (adjustWeightToSumTo100 machine [1, 1, 6]) := by
  have hmeets : SplitMeets [1, 1, 6] :=
    .fair (k := 2) (by decide) ⟨by decide, by decide, by decide⟩ (by decide) ⟨by decide, by decide, Or.inr (by decide)⟩
  exact ⟨hmeets, (validSplit_iff [1, 1, 6] (by decide) (by decide) (by decide)).2.mpr hmeets⟩

/-- Eighteen equal weights: each is rounded up to 6, and the first one gets −2. -/
theorem validSplit_fails :
    ¬ ∀ ws : List Int, ws ≠ [] → (∀ w ∈ ws, 0 ≤ w) → 0 < ws.sum →
      ValidSplit ws (adjustWeightToSumTo100 amd64 ws) := by
  intro h
  have hrange := (h (List.replicate 18 1) (by decide) (by decide) (by decide)).range 0 (by decide)
  revert hrange
  decide

/-- A weight of zero may get everything. -/
example : (adjustWeightToSumTo100 amd64 (0 :: List.replicate 201 1)).getD 0 0 = 100 := by decide +kernel

/-- A sum that runs over to zero. -/
example : adjustWeightToSumTo100 amd64 (List.replicate 4 (2 ^ 62)) = [-2147483548, -2 ^ 31, -2 ^ 31, -2 ^ 31] := by
  decide +kernel

end Kalm
