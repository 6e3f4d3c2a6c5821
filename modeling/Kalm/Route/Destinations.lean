/-
  File:      Kalm/Route/Destinations.lean
  Subject:   TWO READINGS OF A DESTINATION: `stripIfHasPort` of controller/api/v1alpha1/httproute_webhook.go and
             `toHttpRouteDestination` of controller/controllers/http_route_controller.go.

  * `validatedPort` -- the port that the webhook reads, with `Atoi`;
  * `parseUint0_eq_iff` -- the ports that `ParseUint` with base 0 reads as the same number;
  * `SameDestination`, `sameDestination_iff` -- the accepted destinations that are read alike.
-/
import Kalm.Go.Bytes
import Kalm.Route.Istio

namespace Kalm

/-! ## 1. The two numbers -/

variable {n m o maxVal : Nat} {s port host : Str}

theorem le_of_decimalFrom (h : decimalFrom n s = some m) : n ≤ m := by
  induction s generalizing n with
  | nil => exact Nat.le_of_eq (Option.some.inj h)
  | cons b s ih =>
      rw [decimalFrom] at h
      split at h
      · have hle := ih h
        omega
      · cases h

theorem digitValue_of_isDigit {b : UInt8} (h : isDigit b = true) : digitValue b = some (b.toNat - 48) := if_pos h

theorem isDigit_bounds {b : UInt8} (h : isDigit b = true) : 48 ≤ b.toNat ∧ b.toNat ≤ 57 ∧ b ≠ 95 := by
  rw [isDigit, Bool.and_eq_true, decide_eq_true_eq, decide_eq_true_eq] at h
  refine ⟨h.1, h.2, ?_⟩
  rintro rfl
  exact absurd h.2 (by decide)

/-- **Decimal digits with base 10.** -/
theorem parseUintLoop_ten (h : decimalFrom n s = some m) (hmax : m ≤ maxVal) :
    parseUintLoop 10 maxVal n s = (m, true) := by
  induction s generalizing n with
  | nil =>
      rw [parseUintLoop_nil, Option.some.inj h]
  | cons b s ih =>
      rw [decimalFrom] at h
      split at h
      · rename_i hb
        obtain ⟨hlow, hhigh, hunderscore⟩ := isDigit_bounds hb
        have hle := le_of_decimalFrom h
        rw [parseUintLoop_cons, if_neg hunderscore, digitValue_of_isDigit hb]
        simp only
        rw [if_neg (by omega), if_neg (by omega), Nat.mul_comm n 10]
        exact ih h
      · cases h

/-- **Decimal digits with base 8** make a smaller number, behind a number that is not zero. -/
theorem parseUintLoop_eight_lt (h : decimalFrom n s = some m) (hmax : m ≤ maxVal) (hn : 0 < n) (ho : o ≤ n)
    (hs : s = [] → o < n) : (parseUintLoop 8 maxVal o s).1 < m := by
  induction s generalizing n o with
  | nil =>
      rw [parseUintLoop_nil]
      obtain rfl := Option.some.inj h
      exact hs rfl
  | cons b s ih =>
      rw [decimalFrom] at h
      split at h
      · rename_i hb
        obtain ⟨hlow, hhigh, hunderscore⟩ := isDigit_bounds hb
        have hle := le_of_decimalFrom h
        rw [parseUintLoop_cons, if_neg hunderscore, digitValue_of_isDigit hb]
        simp only
        by_cases height : 8 ≤ b.toNat - 48
        · rw [if_pos height]
          exact Nat.lt_of_lt_of_le (by omega) hle
        · rw [if_neg height, if_neg (by omega)]
          exact ih h (by omega) (by omega) fun _ => by omega
      · cases h

/-- Zeros, and one digit of base 8 that is not zero. -/
def OneOctalDigit (s : Str) : Prop := ∃ zeros d, s = List.replicate zeros 48 ++ [d] ∧ 49 ≤ d ∧ d ≤ 55

/-- **Base 8 and base 10 agree on one digit only.** -/
theorem parseUintLoop_eight_eq_iff (h : decimalFrom 0 s = some m) (hm : 0 < m) (hmax : m ≤ maxVal) :
    (parseUintLoop 8 maxVal 0 s).1 = m ↔ OneOctalDigit s := by
  induction s with
  | nil =>
      obtain rfl := Option.some.inj h
      exact absurd hm (Nat.lt_irrefl 0)
  | cons b s ih =>
      rw [decimalFrom] at h
      split at h
      swap
      · cases h
      rename_i hb
      obtain ⟨hlow, hhigh, hunderscore⟩ := isDigit_bounds hb
      have hle := le_of_decimalFrom h
      rw [parseUintLoop_cons, if_neg hunderscore, digitValue_of_isDigit hb]
      simp only
      by_cases hzero : b = 48
      · -- a zero in front says nothing
        subst hzero
        rw [if_neg (by decide), if_neg (by omega)]
        refine (ih h).trans ⟨?_, ?_⟩
        · rintro ⟨zeros, d, rfl, hd⟩
          exact ⟨zeros + 1, d, rfl, hd⟩
        · rintro ⟨zeros, d, heq, hd⟩
          cases zeros with
          | zero =>
              rw [List.replicate_zero, List.nil_append, List.cons.injEq] at heq
              rw [← heq.1] at hd
              exact absurd hd.1 (by decide)
          | succ zeros => exact ⟨zeros, d, (List.cons.inj heq).2, hd⟩
      · have hfirst : OneOctalDigit (b :: s) ↔ s = [] ∧ 49 ≤ b ∧ b ≤ 55 := by
          constructor
          · rintro ⟨zeros, d, heq, hd⟩
            cases zeros with
            | zero =>
                rw [List.replicate_zero, List.nil_append, List.cons.injEq] at heq
                exact ⟨heq.2, heq.1 ▸ hd⟩
            | succ zeros => exact absurd (List.cons.inj heq).1 hzero
          · rintro ⟨rfl, hd⟩
            exact ⟨0, b, rfl, hd⟩
        rw [hfirst]
        have hpos : b.toNat ≠ 48 := fun e => hzero (UInt8.toNat_inj.mp e)
        by_cases height : 8 ≤ b.toNat - 48
        · rw [if_pos height]
          refine iff_of_false (by omega) fun ⟨_, _, hseven⟩ => ?_
          have hseven' : b.toNat ≤ 55 := hseven
          omega
        · rw [if_neg height, if_neg (by omega)]
          cases s with
          | nil =>
              obtain rfl := Option.some.inj h
              refine iff_of_true ?_ ⟨rfl, ?_, ?_⟩
              · rw [parseUintLoop_nil]
              · exact UInt8.le_iff_toNat_le.mpr (show 49 ≤ b.toNat by omega)
              · exact UInt8.le_iff_toNat_le.mpr (show b.toNat ≤ 55 by omega)
          | cons c s =>
              refine iff_of_false ?_ fun hnil => absurd hnil.1 (List.cons_ne_nil c s)
              -- the second digit makes the difference
              have hlt := parseUintLoop_eight_lt (o := 0 * 8 + (b.toNat - 48)) h hmax (by omega) (by omega)
                fun hnil => absurd hnil (List.cons_ne_nil c s)
              omega

/-- **The ports that both parsers read as the same number**: a digit that is not zero is in front, or there are zeros
    and one digit from 1 to 7. -/
def PlainPort (port : Str) : Prop := (∃ d rest, port = d :: rest ∧ 49 ≤ d ∧ d ≤ 57) ∨ OneOctalDigit port

theorem lowerByte_of_isDigit (b : UInt8) :
    isDigit b = true → lowerByte b ≠ 98 ∧ lowerByte b ≠ 111 ∧ lowerByte b ≠ 120 :=
  forall_byte (P := fun b => isDigit b = true → lowerByte b ≠ 98 ∧ lowerByte b ≠ 111 ∧ lowerByte b ≠ 120)
    (by decide +kernel) b

/-- Digits behind a zero have base 8. -/
theorem basePrefix_zero (h : ∀ b ∈ s, isDigit b = true) : basePrefix (48 :: s) = (8, s) := by
  rcases s with _ | ⟨b, _ | ⟨c, rest⟩⟩
  · rfl
  · rfl
  · obtain ⟨hbinary, hoctal, hhex⟩ := lowerByte_of_isDigit b (h b List.mem_cons_self)
    rw [basePrefix, if_neg hbinary, if_neg hoctal, if_neg hhex]

theorem basePrefix_of_ne {b : UInt8} (h : b ≠ 48) : basePrefix (b :: s) = (10, b :: s) := by
  unfold basePrefix
  split
  · rename_i heq
    exact absurd (List.cons.inj heq).1 h
  · rename_i heq
    exact absurd (List.cons.inj heq).1 h
  · rfl

/-- Without an underscore the number is what the loop makes of it. -/
theorem parseUint0_eq (hne : s ≠ []) (h : 95 ∉ s) (bitSize : Nat) :
    parseUint0 s bitSize = (parseUintLoop (basePrefix s).1 (2 ^ bitSize - 1) 0 (basePrefix s).2).1 := by
  rw [parseUint0, if_neg hne]
  exact if_neg fun hunderscore => h hunderscore.2.1

/-- **A port is the same number for both parsers exactly where it is plain.** -/
theorem parseUint0_eq_iff {n : Int} (h : atoi port = some n) (hlow : 0 < n) (hhigh : n ≤ 65535) :
    (parseUint0 port 32 : Int) = n ↔ PlainPort port := by
  have hne := (bytes_of_atoi h).1
  have hunderscore : 95 ∉ port := not_mem_of_atoi h (by decide)
  rw [parseUint0_eq hne hunderscore]
  unfold atoi at h
  split at h
  · -- a minus sign
    obtain ⟨m, _, hm⟩ := Option.bind_eq_some_iff.mp h
    split at hm
    · have hneg := Option.some.inj hm
      omega
    · cases hm
  · -- a plus sign: an error for `ParseUint`
    rename_i digits
    rw [basePrefix_of_ne (by decide), parseUintLoop_cons, if_neg (by decide)]
    refine iff_of_false ?_ ?_
    · have hplus : digitValue 43 = none := by decide
      rw [hplus]
      simp only
      omega
    · rintro (⟨d, rest, heq, hd, _⟩ | ⟨zeros, d, heq, hd, _⟩)
      · rw [← (List.cons.inj heq).1] at hd
        exact absurd hd (by decide)
      · cases zeros with
        | zero =>
            rw [List.replicate_zero, List.nil_append, List.cons.injEq] at heq
            rw [← heq.1] at hd
            exact absurd hd (by decide)
        | succ zeros => exact absurd (List.cons.inj heq).1 (by decide)
  · obtain ⟨m, hdecimal, hm⟩ := Option.bind_eq_some_iff.mp h
    have hdigits := (isDigit_of_decimal hdecimal).2
    rw [decimal, if_neg hne] at hdecimal
    split at hm
    swap
    · cases hm
    obtain rfl := Option.some.inj hm
    rw [Int.natCast_inj]
    have hpos : 0 < m := by omega
    have hmax : m ≤ 2 ^ 32 - 1 := by omega
    cases port with
    | nil => exact absurd rfl hne
    | cons b rest =>
        have hb := hdigits b List.mem_cons_self
        by_cases hzero : b = 48
        · subst hzero
          have hloop : parseUintLoop 8 (2 ^ 32 - 1) 0 (48 :: rest) = parseUintLoop 8 (2 ^ 32 - 1) 0 rest := by
            rw [parseUintLoop_cons, if_neg (by decide), digitValue_of_isDigit hb]
            rfl
          rw [basePrefix_zero fun c hc => hdigits c (List.mem_cons_of_mem 48 hc), ← hloop,
            parseUintLoop_eight_eq_iff hdecimal hpos hmax]
          refine (or_iff_right ?_).symm
          rintro ⟨d, rest', heq, hd, _⟩
          rw [← (List.cons.inj heq).1] at hd
          exact absurd hd (by decide)
        · obtain ⟨hlowDigit, hhighDigit, _⟩ := isDigit_bounds hb
          have hne' : b.toNat ≠ 48 := fun e => hzero (UInt8.toNat_inj.mp e)
          rw [basePrefix_of_ne hzero, parseUintLoop_ten hdecimal hmax]
          refine iff_of_true rfl (Or.inl ⟨b, rest, rfl, ?_, ?_⟩)
          · exact UInt8.le_iff_toNat_le.mpr (show 49 ≤ b.toNat by omega)
          · exact UInt8.le_iff_toNat_le.mpr (show b.toNat ≤ 57 by omega)

/-! ## 2. The two readings -/

/-- The port that the webhook takes off a host. -/
def validatedPort (host : Str) : Option Int :=
  match host.splitOn colon with
  | [_, portStr] => (atoi portStr).filter fun port => 0 < port ∧ port ≤ 65535
  | _ => none

/-- **A destination is read alike**: the host is what the webhook checked, completed where it is the bare name of a
    service, and the port is the one that the webhook took off. -/
structure SameDestination (destination : HttpRouteDestination) (weight : Int) (ns : Str) : Prop where
  host : (toHttpRouteDestination destination weight ns).destination.host =
    if dot ∈ stripIfHasPort destination.host then stripIfHasPort destination.host
    else stripIfHasPort destination.host ++ str "." ++ ns ++ str ".svc.cluster.local"
  port : ((toHttpRouteDestination destination weight ns).destination.port.map fun n : Nat => (n : Int)) =
    validatedPort destination.host

/-- The port of a host is plain. -/
def PortPlain (host : Str) : Prop := ∀ name port, host = name ++ colon :: port → colon ∉ port → PlainPort port

theorem validatedPort_of_not_mem (h : colon ∉ host) : validatedPort host = none := by
  rw [validatedPort, List.splitOn_eq_singleton h]

theorem splitOn_host {name : Str} (hname : colon ∉ name) (hport : colon ∉ port) :
    (name ++ colon :: port).splitOn colon = [name, port] := by
  have hnot : ∀ l ∈ [name, port], colon ∉ l := by
    intro l hl
    rcases List.mem_cons.mp hl with rfl | hl
    · exact hname
    · rwa [List.mem_singleton.mp hl]
  have hjoin := List.splitOn_intercalate colon hnot (List.cons_ne_nil _ _)
  rwa [List.intercalate_cons_cons, List.intercalate_singleton, List.append_assoc, List.singleton_append] at hjoin

theorem portPlain_iff {name : Str} (heq : host = name ++ colon :: port) (hnot : colon ∉ port) :
    PortPlain host ↔ PlainPort port := by
  refine ⟨fun hplain => hplain name port heq hnot, fun hplain name' port' heq' hnot' => ?_⟩
  rw [heq] at heq'
  have hindex := lastIndexByte_append (s := name) hnot
  rw [heq', lastIndexByte_append hnot'] at hindex
  have hparts := List.append_inj heq' (Option.some.inj hindex).symm
  exact (List.cons.inj hparts.2).2 ▸ hplain

/-- **An accepted destination is read alike exactly where its port is plain.** -/
theorem sameDestination_iff (destination : HttpRouteDestination) (weight : Int) (ns : Str)
    (h : isValidDestinationHost destination.host = true) :
    SameDestination destination weight ns ↔ PortPlain destination.host := by
  have hhost : (toHttpRouteDestination destination weight ns).destination.host =
      if dot ∈ stripIfHasPort destination.host then stripIfHasPort destination.host
      else stripIfHasPort destination.host ++ str "." ++ ns ++ str ".svc.cluster.local" :=
    toHttpRouteDestination_host h weight ns
  have hread : SameDestination destination weight ns ↔
      ((toHttpRouteDestination destination weight ns).destination.port.map fun n : Nat => (n : Int)) =
        validatedPort destination.host := ⟨fun h => h.port, fun h => ⟨hhost, h⟩⟩
  rw [hread]
  unfold toHttpRouteDestination
  rcases host_cases h with ⟨_, hcolon⟩ | ⟨port, hport, heq⟩
  · rw [lastIndexByte_none hcolon, validatedPort_of_not_mem hcolon]
    refine iff_of_true rfl fun name port heq _ => absurd ?_ hcolon
    rw [heq]
    exact List.mem_append_right name List.mem_cons_self
  · have hname : colon ∉ stripIfHasPort destination.host := colon_not_mem_subdomain h
    generalize stripIfHasPort destination.host = name at heq hname
    obtain ⟨n, hn, hlow, hhigh⟩ := hport
    have hnot : colon ∉ port := not_mem_of_atoi hn (by decide)
    have hne : port ≠ [] := (bytes_of_atoi hn).1
    have hdrop : (name ++ colon :: port).drop (name.length + 1) = port := by
      rw [List.drop_append, Nat.add_sub_cancel_left, List.drop_eq_nil_of_le (Nat.le_succ _)]
      rfl
    rw [portPlain_iff heq hnot, ← parseUint0_eq_iff hn hlow hhigh, heq, lastIndexByte_append hnot, validatedPort,
      splitOn_host hname hnot]
    simp only [hdrop, hn, if_pos hne]
    rw [Option.map_some, Option.filter_some, if_pos (by rw [decide_eq_true_eq]; exact ⟨hlow, hhigh⟩),
      Option.some.injEq]

/-- A service with a port. -/
theorem sameDestination_iff_web : SameDestination ⟨str "web:8080", 1⟩ 100 (str "shop") := by
  refine (sameDestination_iff ⟨str "web:8080", 1⟩ 100 (str "shop") (by decide)).mpr ?_
  have hparts : str "web:8080" = str "web" ++ colon :: str "8080" := rfl
  exact (portPlain_iff hparts (by decide)).mpr (Or.inl ⟨56, _, rfl, by decide⟩)

/-- Port 80 with a zero in front: no number for `ParseUint`, and the port is 0. -/
theorem sameDestination_fails :
    ¬ ∀ (destination : HttpRouteDestination) (weight : Int) (ns : Str),
      isValidDestinationHost destination.host = true → SameDestination destination weight ns := by
  intro h
  have hport := (h ⟨str "web:080", 1⟩ 100 (str "shop") (by decide)).port
  revert hport
  decide

end Kalm
