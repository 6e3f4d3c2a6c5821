/-
  File:      Kalm/Proxy/Resting.lean
  Subject:   EVERY CALL OF A REFRESH RETURNS, where the steps meet the condition of Refresh.lean.

  * `CallState.left` -- the statements that a call has before it, at most: its own steps lower them, those of the
    others never raise them (`Advances.left_le`);
  * `AtRest` -- there is no statement to do; `Unstuck` -- a lock that is taken is held by a call, and a context without
    its Broadcast has a producer;
  * `Advances` -- what one statement does; `advances_of_step`, with a case for each;
  * `returned_of_rest` -- at rest every call has returned.
-/
import Kalm.Proxy.Waiters

namespace Kalm

open Runs

variable {ι : Type}

/-! ## 1. What is left to do -/

/-- The statements of a producer, this one included, to its return. -/
@[simp]
def ProducerAt.left : ProducerAt ι → Nat
  | .logging => 14
  | .exchanging => 13
  | .locking _ => 12
  | .unlocking _ => 11
  | .settingIDToken _ => 10
  | .settingIDTokenString _ => 9
  | .settingRefreshToken _ => 8
  | .settingError _ => 8
  | .broadcasting _ => 7
  | .removing _ => 6

/-- Those of a consumer: behind the Broadcast it does not wait. -/
@[simp]
def ConsumerAt.left (broadcast : Bool) : ConsumerAt → Nat
  | .locking => if broadcast then 10 else 15
  | .logging => if broadcast then 9 else 14
  | .checking => if broadcast then 7 else 13
  | .waiting => 12
  | .parked => 11
  | .woken => 8
  | .readingError => 6
  | .unlocking _ => 5

@[simp]
def ReaderAt.left : ReaderAt → Nat
  | .idTokenString => 3
  | .refreshToken _ => 2
  | .idToken _ _ => 1

@[simp]
def CallState.left (context : Nat → RefreshContext ι) : CallState ι → Nat
  | .fresh => 16
  | .producing _ p => p.left
  | .consuming k c => c.left (context k).broadcast
  | .reading _ r => r.left
  | .returned _ _ | .panicked => 0

/-- The statements that are left to a call. -/
def RefreshState.left (s : RefreshState ι) (id : Nat) : Nat := (s.call id).left s.context

/-- The step is one of this call. -/
def RefreshStep.of (id : Nat) : RefreshStep ι → Bool
  | .start other | .advance other | .exchange other _ => decide (other = id)
  | .remove _ => false

/-- No call has a statement to do, and none waits for the provider. -/
structure RefreshState.AtRest (s : RefreshState ι) : Prop where
  advance : ∀ id, stepRefresh s (.advance id) = none
  exchange : ∀ id answer, stepRefresh s (.exchange id answer) = none

/-! ## 2. Locks and Broadcasts -/

/-- The call holds the lock of the context. -/
@[simp]
def CallState.holds (k : Nat) : CallState ι → Bool
  | .producing k' (.unlocking _) => decide (k' = k)
  | .consuming k' c =>
    match c with
    | .locking | .parked | .woken => false
    | _ => decide (k' = k)
  | _ => false

/-- The call has yet to broadcast for the context. -/
@[simp]
def CallState.broadcasts (k : Nat) : CallState ι → Bool
  | .producing k' p =>
    match p with
    | .removing _ => false
    | _ => decide (k' = k)
  | _ => false

/-- The invariant: with a token that is long enough nothing panics. -/
structure Unstuck (s : RefreshState ι) : Prop where
  long : 10 ≤ s.token.length
  held : ∀ k, (s.context k).locked = true → ∃ id, (s.call id).holds k = true
  owed : ∀ k < s.made, (s.context k).broadcast = false → ∃ id, (s.call id).broadcasts k = true
  woken : ∀ id k, s.call id = .consuming k .woken → (s.context k).broadcast = true
  calm : ∀ id, s.call id ≠ .panicked

section Statements

variable {s s' : RefreshState ι} {id k : Nat}

theorem ConsumerAt.left_le (b : Bool) (c : ConsumerAt) : c.left true ≤ c.left b := by
  cases b with
  | true => exact Nat.le_refl _
  | false => cases c <;> simp

/-- **What a statement does** of a call that stands at a context: it writes this context alone, and goes on; a
    Broadcast wakes the calls that are parked. -/
structure Advances (s : RefreshState ι) (id k : Nat) (s' : RefreshState ι) : Prop where
  token : s'.token = s.token
  made : s'.made = s.made
  others : ∀ other, other ≠ id → s'.call other = s.call other ∨
    (s.call other = .consuming k .parked ∧ s'.call other = .consuming k .woken ∧
      (s'.context k).broadcast = true)
  contexts : ∀ k', k' ≠ k → s'.context k' = s.context k'
  elsewhere : ∀ k', k' ≠ k → (s.call id).holds k' = false ∧ (s.call id).broadcasts k' = false
  held : (s'.context k).locked = true →
    (s'.call id).holds k = true ∨ ((s.context k).locked = true ∧ (s.call id).holds k = false)
  owed : (s'.context k).broadcast = false → (s.context k).broadcast = false ∧
    ((s'.call id).broadcasts k = true ∨ (s.call id).broadcasts k = false)
  calm : s'.call id ≠ .panicked
  asleep : ∀ k', s'.call id ≠ .consuming k' .woken
  less : s'.left id < s.left id

/-- A call goes on, and its context is written. -/
theorem Advances.of_update {st : CallState ι} {context : RefreshContext ι}
    (hcall : s'.call = Function.update s.call id st) (hcontext : s'.context = Function.update s.context k context)
    (htoken : s'.token = s.token) (hmade : s'.made = s.made)
    (helsewhere : ∀ k', k' ≠ k → (s.call id).holds k' = false ∧ (s.call id).broadcasts k' = false)
    (hheld : context.locked = true →
      st.holds k = true ∨ ((s.context k).locked = true ∧ (s.call id).holds k = false))
    (howed : context.broadcast = false → (s.context k).broadcast = false ∧
      (st.broadcasts k = true ∨ (s.call id).broadcasts k = false))
    (hcalm : st ≠ .panicked) (hasleep : ∀ k', st ≠ .consuming k' .woken)
    (hless : st.left (Function.update s.context k context) < (s.call id).left s.context) : Advances s id k s' := by
  have hself : s'.call id = st := by rw [hcall, Function.update_self]
  have hwritten : s'.context k = context := by rw [hcontext, Function.update_self]
  refine ⟨htoken, hmade, fun other hne => .inl ?_, fun k' hne => ?_, helsewhere, ?_, ?_, ?_, ?_, ?_⟩
  · rw [hcall, Function.update_of_ne hne]
  · rw [hcontext, Function.update_of_ne hne]
  · rwa [hself, hwritten]
  · rwa [hself, hwritten]
  · rwa [hself]
  · rwa [hself]
  · rwa [RefreshState.left, hself, hcontext]

theorem elsewhere_producing {p : ProducerAt ι} (hat : s.call id = .producing k p) :
    ∀ k', k' ≠ k → (s.call id).holds k' = false ∧ (s.call id).broadcasts k' = false := by
  intro k' hne
  rw [hat]
  cases p <;> simp [hne.symm]

theorem elsewhere_consuming {c : ConsumerAt} (hat : s.call id = .consuming k c) :
    ∀ k', k' ≠ k → (s.call id).holds k' = false ∧ (s.call id).broadcasts k' = false := by
  intro k' hne
  rw [hat]
  cases c <;> simp [hne.symm]

/-- **The Broadcast** wakes who is parked. -/
theorem advances_broadcasting {err : Option Str} (hat : s.call id = .producing k (.broadcasting err)) :
    Advances s id k (((s.wake k).write k { s.context k with broadcast := true }).go id
      (.producing k (.removing err))) := by
  have hself : Function.update (s.wake k).call id (CallState.producing k (.removing err)) id =
      .producing k (.removing err) := Function.update_self _ _ _
  have hcontext : Function.update s.context k { s.context k with broadcast := true } k =
      { s.context k with broadcast := true } := Function.update_self _ _ _
  refine ⟨rfl, rfl, fun other hne => ?_, fun k' hne => Function.update_of_ne hne _ _, elsewhere_producing hat,
    fun hlocked => .inr ⟨?_, ?_⟩, fun hunsent => ?_, ?_, fun k' => ?_, ?_⟩
  · show Function.update (s.wake k).call id _ other = _ ∨ _ ∧ Function.update (s.wake k).call id _ other = _ ∧
      (Function.update s.context k _ k).broadcast = true
    rw [Function.update_of_ne hne, hcontext]
    rcases wake_call s k other with ⟨hw, _⟩ | hwoken
    · exact .inl hw
    · exact .inr ⟨hwoken.1, hwoken.2, rfl⟩
  · change (Function.update s.context k _ k).locked = true at hlocked
    rwa [hcontext] at hlocked
  · rw [hat]
    rfl
  · change (Function.update s.context k _ k).broadcast = false at hunsent
    rw [hcontext] at hunsent
    cases hunsent
  · show Function.update (s.wake k).call id _ id ≠ _
    rw [hself]
    exact fun h => by cases h
  · show Function.update (s.wake k).call id _ id ≠ _
    rw [hself]
    exact fun h => by cases h
  · show (Function.update (s.wake k).call id _ id).left _ < (s.call id).left _
    rw [hself, hat]
    exact (by decide : 6 < 7)

/-- A statement of the producer. -/
theorem advances_produce (hl : Unstuck s) {p : ProducerAt ι} (hat : s.call id = .producing k p)
    (taken : s.produce id k p = some s') : Advances s id k s' := by
  have hsame : s.context = Function.update s.context k (s.context k) := (Function.update_eq_self k s.context).symm
  cases p with
  | logging =>
      rw [RefreshState.produce, if_neg (Nat.not_lt.mpr hl.long)] at taken
      obtain rfl := Option.some.inj taken
      refine .of_update rfl rfl rfl rfl (elsewhere_producing hat) ?_ ?_ ?_ ?_ ?_
      all_goals simp [hat]
  | exchanging => cases taken
  | locking result =>
      rw [RefreshState.produce] at taken
      split at taken
      · cases taken
      · obtain rfl := Option.some.inj taken
        refine .of_update rfl rfl rfl rfl (elsewhere_producing hat) ?_ ?_ ?_ ?_ ?_
        all_goals simp [hat]
  | unlocking _ | settingIDToken _ | settingIDTokenString _ | settingRefreshToken _ | settingError _ =>
      obtain rfl := Option.some.inj taken
      refine .of_update rfl rfl rfl rfl (elsewhere_producing hat) ?_ ?_ ?_ ?_ ?_
      all_goals simp [hat]
  | broadcasting err =>
      obtain rfl := Option.some.inj taken
      exact advances_broadcasting hat
  | removing err =>
      obtain rfl := Option.some.inj taken
      cases err with
      | none =>
          refine .of_update rfl hsame rfl rfl (elsewhere_producing hat) ?_ ?_ ?_ ?_ ?_
          all_goals simp [hat]
      | some err =>
          refine .of_update rfl hsame rfl rfl (elsewhere_producing hat) ?_ ?_ ?_ ?_ ?_
          all_goals simp [hat]

/-- A statement of a consumer: where the Broadcast is done it does not wait. -/
theorem advances_consume (hl : Unstuck s) (hs : Sound s) {c : ConsumerAt} (hat : s.call id = .consuming k c)
    (taken : s.consume id k c = some s') : Advances s id k s' := by
  have hsame : s.context = Function.update s.context k (s.context k) := (Function.update_eq_self k s.context).symm
  have hk : k < s.made ∧ ConsumerOk (s.context k) c := by
    have hcall := hs.calls id
    rwa [hat] at hcall
  cases c with
  | locking =>
      rw [RefreshState.consume] at taken
      split at taken
      · cases taken
      · obtain rfl := Option.some.inj taken
        refine .of_update rfl rfl rfl rfl (elsewhere_consuming hat) ?_ ?_ ?_ ?_ ?_
        all_goals simp [hat]
        split <;> decide
  | logging =>
      rw [RefreshState.consume, if_neg (Nat.not_lt.mpr hl.long)] at taken
      obtain rfl := Option.some.inj taken
      refine .of_update rfl hsame rfl rfl (elsewhere_consuming hat) ?_ ?_ ?_ ?_ ?_
      all_goals simp [hat]
      split <;> decide
  | checking =>
      rw [RefreshState.consume] at taken
      split at taken
      · rename_i hunset
        have hunsent : (s.context k).broadcast = false := by
          rw [Bool.and_eq_true, Option.isNone_iff_eq_none, Option.isNone_iff_eq_none] at hunset
          refine Bool.eq_false_iff.mpr fun hb => ?_
          exact ((hs.contexts k hk.1).broadcast hb).elim (fun hne => hne hunset.1) fun hne => hne hunset.2
        obtain rfl := Option.some.inj taken
        refine .of_update rfl hsame rfl rfl (elsewhere_consuming hat) ?_ ?_ ?_ ?_ ?_
        all_goals simp [hat, hunsent]
      · obtain rfl := Option.some.inj taken
        refine .of_update rfl hsame rfl rfl (elsewhere_consuming hat) ?_ ?_ ?_ ?_ ?_
        all_goals simp [hat]
        split <;> decide
  | waiting =>
      obtain rfl := Option.some.inj taken
      refine .of_update rfl rfl rfl rfl (elsewhere_consuming hat) ?_ ?_ ?_ ?_ ?_
      all_goals simp [hat]
  | parked => cases taken
  | woken =>
      have hsent := hl.woken id k hat
      rw [RefreshState.consume] at taken
      split at taken
      · cases taken
      · obtain rfl := Option.some.inj taken
        refine .of_update rfl rfl rfl rfl (elsewhere_consuming hat) ?_ ?_ ?_ ?_ ?_
        all_goals simp [hat, hsent]
  | readingError =>
      obtain rfl := Option.some.inj taken
      refine .of_update rfl hsame rfl rfl (elsewhere_consuming hat) ?_ ?_ ?_ ?_ ?_
      all_goals simp [hat]
  | unlocking err =>
      obtain rfl := Option.some.inj taken
      cases err with
      | none =>
          refine .of_update rfl rfl rfl rfl (elsewhere_consuming hat) ?_ ?_ ?_ ?_ ?_
          all_goals simp [hat]
      | some err =>
          refine .of_update rfl rfl rfl rfl (elsewhere_consuming hat) ?_ ?_ ?_ ?_ ?_
          all_goals simp [hat]

theorem advances_readResult {r : ReaderAt} (hat : s.call id = .reading k r) :
    Advances s id k (s.readResult id k r) := by
  have hsame : s.context = Function.update s.context k (s.context k) := (Function.update_eq_self k s.context).symm
  have helsewhere : ∀ k', k' ≠ k → (s.call id).holds k' = false ∧ (s.call id).broadcasts k' = false := by
    rw [hat]
    exact fun _ _ => ⟨rfl, rfl⟩
  cases r with
  | _ =>
      refine .of_update rfl hsame rfl rfl helsewhere ?_ ?_ ?_ ?_ ?_
      all_goals simp [hat]

/-- The exchange answers. -/
theorem advances_exchange (hat : s.call id = .producing k .exchanging) (answer : Exchange ι)
    (taken : stepRefresh s (.exchange id answer) = some s') : Advances s id k s' := by
  rw [stepRefresh, hat] at taken
  obtain rfl := Option.some.inj taken
  refine .of_update rfl rfl rfl rfl (elsewhere_producing hat) ?_ ?_ ?_ ?_ ?_
  all_goals
    cases answer.outcome <;>
      simp [hat]

/-- **A step of a call that has started.** -/
theorem advances_of_step (hl : Unstuck s) (hs : Sound s) {i : RefreshStep ι} (hof : i.of id = true)
    (hstarted : s.call id ≠ .fresh) (taken : stepRefresh s i = some s') : ∃ k, Advances s id k s' := by
  cases i with
  | start other =>
      obtain rfl : other = id := of_decide_eq_true hof
      rw [stepRefresh] at taken
      split at taken
      · rename_i hfresh
        exact absurd hfresh hstarted
      · cases taken
  | advance other =>
      obtain rfl : other = id := of_decide_eq_true hof
      rw [stepRefresh] at taken
      split at taken
      · rename_i k p hat
        exact ⟨k, advances_produce hl hat taken⟩
      · rename_i k c hat
        exact ⟨k, advances_consume hl hs hat taken⟩
      · rename_i k r hat
        obtain rfl := Option.some.inj taken
        exact ⟨k, advances_readResult hat⟩
      · cases taken
  | exchange other answer =>
      obtain rfl : other = id := of_decide_eq_true hof
      have htaken := taken
      rw [stepRefresh] at taken
      split at taken
      · rename_i k hat
        exact ⟨k, advances_exchange hat answer htaken⟩
      · cases taken
  | remove k => cases hof

/-! ## 3. Steps -/

/-- A call that is not parked is where it was. -/
theorem Advances.same (h : Advances s id k s') {other : Nat} (hne : other ≠ id)
    (hparked : s.call other ≠ .consuming k .parked) : s'.call other = s.call other :=
  (h.others other hne).resolve_right fun hw => hparked hw.1

/-- What was broadcast stays so. -/
theorem Advances.broadcast (h : Advances s id k s') {k' : Nat} (hb : (s.context k').broadcast = true) :
    (s'.context k').broadcast = true := by
  by_cases he : k' = k
  · subst he
    by_contra hno
    rw [(h.owed (Bool.eq_false_iff.mpr hno)).1] at hb
    cases hb
  · rwa [h.contexts k' he]

theorem Unstuck.advance (hl : Unstuck s) (h : Advances s id k s') : Unstuck s' := by
  refine ⟨h.token ▸ hl.long, fun k' hlocked => ?_, fun k' hk' hunsent => ?_, fun other k' hw => ?_, fun other hp => ?_⟩
  · -- the holder goes on holding, unless it is the call itself
    have hother (hbefore : (s.context k').locked = true) (hnot : (s.call id).holds k' = false) :
        ∃ other, (s'.call other).holds k' = true := by
      obtain ⟨other, hholds⟩ := hl.held k' hbefore
      have hne : other ≠ id := by
        rintro rfl
        rw [hnot] at hholds
        cases hholds
      refine ⟨other, ?_⟩
      rwa [h.same hne fun hp => by rw [hp] at hholds; cases hholds]
    by_cases he : k' = k
    · subst he
      obtain hself | ⟨hbefore, hnot⟩ := h.held hlocked
      · exact ⟨id, hself⟩
      · exact hother hbefore hnot
    · exact hother (h.contexts k' he ▸ hlocked) (h.elsewhere k' he).1
  · have hother (hbefore : (s.context k').broadcast = false) (hnot : (s.call id).broadcasts k' = false) :
        ∃ other, (s'.call other).broadcasts k' = true := by
      obtain ⟨other, howes⟩ := hl.owed k' (h.made ▸ hk') hbefore
      have hne : other ≠ id := by
        rintro rfl
        rw [hnot] at howes
        cases howes
      refine ⟨other, ?_⟩
      rwa [h.same hne fun hp => by rw [hp] at howes; cases howes]
    by_cases he : k' = k
    · subst he
      obtain ⟨hbefore, hself | hnot⟩ := h.owed hunsent
      · exact ⟨id, hself⟩
      · exact hother hbefore hnot
    · exact hother (h.contexts k' he ▸ hunsent) (h.elsewhere k' he).2
  · by_cases hne : other = id
    · subst hne
      exact absurd hw (h.asleep k')
    · obtain hsame | ⟨-, hwoken, hb⟩ := h.others other hne
      · exact h.broadcast (hl.woken other k' (hsame ▸ hw))
      · rw [hwoken] at hw
        cases hw
        exact hb
  · by_cases hne : other = id
    · subst hne
      exact h.calm hp
    · obtain hsame | ⟨-, hwoken, -⟩ := h.others other hne
      · exact hl.calm other (hsame ▸ hp)
      · rw [hwoken] at hp
        cases hp

/-- The statements that are left to another call. -/
theorem Advances.left_le (h : Advances s id k s') {other : Nat} (hne : other ≠ id) : s'.left other ≤ s.left other := by
  obtain hsame | ⟨hparked, hwoken, -⟩ := h.others other hne
  · rw [RefreshState.left, RefreshState.left, hsame]
    cases hst : s.call other with
    | consuming k' c =>
        show c.left (s'.context k').broadcast ≤ c.left (s.context k').broadcast
        cases hb : (s.context k').broadcast with
        | true =>
            rw [h.broadcast hb]
        | false =>
            cases (s'.context k').broadcast with
            | true => exact c.left_le false
            | false => exact Nat.le_refl _
    | _ => exact Nat.le_refl _
  · rw [RefreshState.left, RefreshState.left, hparked, hwoken]
    exact (by decide : 8 ≤ 11)

/-- A call starts at the context of the entry. -/
theorem advances_start (hfresh : s.call id = .fresh) (hentry : s.entry = some k) :
    Advances s id k (s.start id) := by
  have hsame : s.context = Function.update s.context k (s.context k) := (Function.update_eq_self k s.context).symm
  have hstart : s.start id = s.go id (.consuming k .locking) := by rw [RefreshState.start, hentry]
  rw [hstart]
  refine .of_update rfl hsame rfl rfl (fun k' _ => ?_) ?_ ?_ ?_ ?_ ?_
  all_goals simp [hfresh]
  split <;> decide

/-- A call that makes the entry, and a context of its own. -/
theorem Unstuck.start (hl : Unstuck s) (hs : Sound s) (hfresh : s.call id = .fresh) (hentry : s.entry = none) :
    Unstuck (s.start id) ∧ ∀ other, other ≠ id → (s.start id).left other = s.left other := by
  have hstart : s.start id =
      { s with
        entry := some s.made
        made := s.made + 1
        context := Function.update s.context s.made (.new ι id)
        call := Function.update s.call id (.producing s.made .logging) } := by
    rw [RefreshState.start, hentry]
  have hself : (s.start id).call id = .producing s.made .logging := by
    rw [hstart]
    exact Function.update_self _ _ _
  have hsame {other : Nat} (hne : other ≠ id) : (s.start id).call other = s.call other := by
    rw [hstart]
    exact Function.update_of_ne hne _ _
  have hnew : (s.start id).context s.made = .new ι id := by
    rw [hstart]
    exact Function.update_self _ _ _
  have hcontext {k : Nat} (hne : k ≠ s.made) : (s.start id).context k = s.context k := by
    rw [hstart]
    exact Function.update_of_ne hne _ _
  have hmade {other k : Nat} {c : ConsumerAt} (hat : s.call other = .consuming k c) : k ≠ s.made := by
    have hcall := hs.calls other
    rw [hat] at hcall
    exact hcall.1.ne
  refine ⟨⟨?_, fun k hlocked => ?_, fun k hk hunsent => ?_, fun other k hw => ?_, fun other hp => ?_⟩,
    fun other hne => ?_⟩
  · rw [hstart]
    exact hl.long
  · by_cases he : k = s.made
    · rw [he, hnew] at hlocked
      cases hlocked
    · rw [hcontext he] at hlocked
      obtain ⟨other, hholds⟩ := hl.held k hlocked
      refine ⟨other, ?_⟩
      rwa [hsame fun e => by rw [e, hfresh] at hholds; cases hholds]
  · by_cases he : k = s.made
    · exact ⟨id, by rw [hself, he]; exact decide_eq_true rfl⟩
    · rw [hcontext he] at hunsent
      have hlt : k < s.made := by
        rw [hstart] at hk
        exact lt_of_le_of_ne (Nat.lt_succ_iff.mp hk) he
      obtain ⟨other, howes⟩ := hl.owed k hlt hunsent
      refine ⟨other, ?_⟩
      rwa [hsame fun e => by rw [e, hfresh] at howes; cases howes]
  · by_cases hne : other = id
    · rw [hne, hself] at hw
      cases hw
    · rw [hsame hne] at hw
      rw [hcontext (hmade hw)]
      exact hl.woken other k hw
  · by_cases hne : other = id
    · rw [hne, hself] at hp
      cases hp
    · exact hl.calm other (hsame hne ▸ hp)
  · rw [RefreshState.left, RefreshState.left, hsame hne]
    cases hst : s.call other with
    | consuming k c =>
        show c.left _ = c.left _
        rw [hcontext (hmade hst)]
    | _ => rfl

/-- **A step**: its call has less to do, and no other call has more. -/
theorem unstuck_step (hl : Unstuck s) (hs : Sound s) {i : RefreshStep ι} (taken : stepRefresh s i = some s') :
    Unstuck s' ∧ ∀ id, s'.left id ≤ s.left id ∧ (i.of id = true → s'.left id < s.left id) := by
  have hadvances {id k : Nat} (ha : Advances s id k s') (hof : ∀ other, i.of other = true → other = id) :
      Unstuck s' ∧ ∀ id, s'.left id ≤ s.left id ∧ (i.of id = true → s'.left id < s.left id) := by
    refine ⟨hl.advance ha, fun other => ?_⟩
    by_cases hne : other = id
    · subst hne
      exact ⟨ha.less.le, fun _ => ha.less⟩
    · exact ⟨ha.left_le hne, fun h => absurd (hof other h) hne⟩
  cases i with
  | start id =>
      have hof (other : Nat) (h : (RefreshStep.start id : RefreshStep ι).of other = true) : other = id :=
        (of_decide_eq_true h).symm
      rw [stepRefresh] at taken
      split at taken
      · rename_i hfresh
        obtain rfl := Option.some.inj taken
        cases hentry : s.entry with
        | some k => exact hadvances (advances_start hfresh hentry) hof
        | none =>
            obtain ⟨hunstuck, hsame⟩ := hl.start hs hfresh hentry
            have hless : (s.start id).left id < s.left id := by
              have hself : (s.start id).call id = .producing s.made .logging := by
                rw [RefreshState.start, hentry]
                exact Function.update_self _ _ _
              rw [RefreshState.left, RefreshState.left, hself, hfresh]
              exact (by decide : 14 < 16)
            refine ⟨hunstuck, fun other => ?_⟩
            by_cases hne : other = id
            · subst hne
              exact ⟨hless.le, fun _ => hless⟩
            · exact ⟨(hsame other hne).le, fun h => absurd (hof other h) hne⟩
      · cases taken
  | advance id =>
      have hstarted : s.call id ≠ .fresh := by
        intro hfresh
        rw [stepRefresh, hfresh] at taken
        cases taken
      have hown : (RefreshStep.advance id : RefreshStep ι).of id = true := decide_eq_true rfl
      obtain ⟨k, ha⟩ := advances_of_step hl hs hown hstarted taken
      exact hadvances ha fun _ h => (of_decide_eq_true h).symm
  | exchange id answer =>
      have hstarted : s.call id ≠ .fresh := by
        intro hfresh
        rw [stepRefresh, hfresh] at taken
        cases taken
      have hown : (RefreshStep.exchange id answer).of id = true := decide_eq_true rfl
      obtain ⟨k, ha⟩ := advances_of_step hl hs hown hstarted taken
      exact hadvances ha fun _ h => (of_decide_eq_true h).symm
  | remove k =>
      rw [stepRefresh] at taken
      split at taken
      · obtain rfl := Option.some.inj taken
        exact ⟨⟨hl.long, hl.held, hl.owed, hl.woken, hl.calm⟩, fun other => ⟨Nat.le_refl _, fun h => by cases h⟩⟩
      · cases taken

/-! ## 4. Rest -/

/-- A consumer is parked, or waits for a lock. -/
theorem RefreshState.AtRest.consuming (hrest : s.AtRest) (hl : Unstuck s) {c : ConsumerAt}
    (hat : s.call id = .consuming k c) :
    c = .parked ∨ ((c = .locking ∨ c = .woken) ∧ (s.context k).locked = true) := by
  have hstuck := hrest.advance id
  rw [stepRefresh, hat] at hstuck
  cases c with
  | parked => exact .inl rfl
  | locking | woken =>
      simp only [RefreshState.consume] at hstuck
      split at hstuck
      · rename_i hlocked
        exact .inr ⟨by simp, hlocked⟩
      · cases hstuck
  | logging =>
      simp only [RefreshState.consume, if_neg (Nat.not_lt.mpr hl.long)] at hstuck
      cases hstuck
  | checking =>
      simp only [RefreshState.consume] at hstuck
      split at hstuck <;> cases hstuck
  | waiting | readingError | unlocking err => cases hstuck

/-- At rest no lock is held. -/
theorem RefreshState.AtRest.unlocked (hrest : s.AtRest) (hl : Unstuck s) (k : Nat) :
    (s.context k).locked = false := by
  by_contra hlocked
  obtain ⟨id, hholds⟩ := hl.held k (Bool.not_eq_false _ ▸ hlocked)
  cases hst : s.call id with
  | producing k' p =>
      have hstuck := hrest.advance id
      rw [stepRefresh, hst] at hstuck
      rw [hst] at hholds
      cases p with
      | unlocking result => cases hstuck
      | _ => cases hholds
  | consuming k' c =>
      rw [hst] at hholds
      rcases hrest.consuming hl hst with rfl | ⟨rfl | rfl, _⟩
      · cases hholds
      · cases hholds
      · cases hholds
  | _ =>
      rw [hst] at hholds
      cases hholds

/-- A producer goes on, or is answered. -/
theorem RefreshState.AtRest.not_producing (hrest : s.AtRest) (hl : Unstuck s) (p : ProducerAt ι) :
    s.call id ≠ .producing k p := by
  intro hat
  have hstuck := hrest.advance id
  rw [stepRefresh, hat] at hstuck
  cases p with
  | logging =>
      simp only [RefreshState.produce, if_neg (Nat.not_lt.mpr hl.long)] at hstuck
      cases hstuck
  | exchanging =>
      have hunanswered := hrest.exchange id .noIDToken
      rw [stepRefresh, hat] at hunanswered
      cases hunanswered
  | locking result =>
      simp only [RefreshState.produce, hrest.unlocked hl k, if_neg Bool.false_ne_true] at hstuck
      cases hstuck
  | _ => cases hstuck

/-- **At rest every call has returned.** -/
theorem returned_of_rest (hrest : s.AtRest) (hl : Unstuck s) (hs : Sound s) (hstarted : s.call id ≠ .fresh) :
    ∃ k result, s.call id = .returned k result := by
  cases hst : s.call id with
  | fresh => exact absurd hst hstarted
  | panicked => exact absurd hst (hl.calm id)
  | returned k result => exact ⟨k, result, rfl⟩
  | producing k p => exact absurd hst (hrest.not_producing hl p)
  | reading k r =>
      have hstuck := hrest.advance id
      rw [stepRefresh, hst] at hstuck
      cases hstuck
  | consuming k c =>
      rcases hrest.consuming hl hst with rfl | ⟨_, hlocked⟩
      · -- its producer has yet to broadcast
        have hcall := hs.calls id
        rw [hst] at hcall
        obtain ⟨other, howes⟩ := hl.owed k hcall.1 hcall.2
        cases hother : s.call other with
        | producing k' p => exact absurd hother (hrest.not_producing hl p)
        | _ =>
            rw [hother] at howes
            cases howes
      · exact absurd hlocked (Bool.eq_false_iff.mp (hrest.unlocked hl k))

end Statements

/-! ## 5. Runs -/

theorem Unstuck.init {token : Str} (hlong : 10 ≤ token.length) : Unstuck (RefreshState.init ι token) where
  long := hlong
  held _ h := by cases h
  owed k hk := absurd hk (Nat.not_lt_zero k)
  woken _ _ h := by cases h
  calm _ h := by cases h

/-- The states of a run whose steps meet the condition, with a token that is long enough. -/
theorem unstuck_of_timely {token : Str} (hlong : 10 ≤ token.length) {s : RefreshState ι}
    (h : Reaches (fun s => s = RefreshState.init ι token) Timely stepRefresh s) : Unstuck s := by
  induction h with
  | start hstart =>
      rw [hstart]
      exact .init hlong
  | step reached _ taken ih => exact (unstuck_step ih (sound_of_timely reached).1 taken).1

/-! ## 6. What the exchange came to -/

section Outcomes

variable {s s' : RefreshState ι} {id k : Nat}

theorem outcome_of_update {context : RefreshContext ι}
    (hcontext : s'.context = Function.update s.context k context)
    (h : context.outcome = (s.context k).outcome) (k' : Nat) : (s'.context k').outcome = (s.context k').outcome := by
  rw [hcontext]
  by_cases he : k' = k
  · subst he
    rw [Function.update_self, h]
  · rw [Function.update_of_ne he]

theorem outcome_produce {p : ProducerAt ι} (taken : s.produce id k p = some s') (k' : Nat) :
    (s'.context k').outcome = (s.context k').outcome := by
  cases p with
  | logging =>
      rw [RefreshState.produce] at taken
      split at taken
      · obtain rfl := Option.some.inj taken
        rfl
      · obtain rfl := Option.some.inj taken
        refine outcome_of_update rfl ?_ k'
        rfl
  | locking result =>
      rw [RefreshState.produce] at taken
      split at taken
      · cases taken
      · obtain rfl := Option.some.inj taken
        refine outcome_of_update rfl ?_ k'
        rfl
  | exchanging => cases taken
  | removing err =>
      obtain rfl := Option.some.inj taken
      rfl
  | _ =>
      obtain rfl := Option.some.inj taken
      refine outcome_of_update rfl ?_ k'
      rfl

theorem outcome_consume {c : ConsumerAt} (taken : s.consume id k c = some s') (k' : Nat) :
    (s'.context k').outcome = (s.context k').outcome := by
  cases c with
  | locking | woken =>
      rw [RefreshState.consume] at taken
      split at taken
      · cases taken
      · obtain rfl := Option.some.inj taken
        refine outcome_of_update rfl ?_ k'
        rfl
  | logging | checking =>
      rw [RefreshState.consume] at taken
      split at taken
      · obtain rfl := Option.some.inj taken
        rfl
      · obtain rfl := Option.some.inj taken
        rfl
  | waiting | unlocking =>
      obtain rfl := Option.some.inj taken
      refine outcome_of_update rfl ?_ k'
      rfl
  | parked => cases taken
  | readingError =>
      obtain rfl := Option.some.inj taken
      rfl

/-- **What an exchange came to is an answer of the provider**: of a step before, or of this one. -/
theorem outcome_of_step {i : RefreshStep ι} (taken : stepRefresh s i = some s') {o : Except Str (RefreshResult ι)}
    (ho : (s'.context k).outcome = some o) :
    (s.context k).outcome = some o ∨ ∃ id answer, i = .exchange id answer ∧ o = answer.outcome := by
  cases i with
  | start id =>
      rw [stepRefresh] at taken
      split at taken
      · obtain rfl := Option.some.inj taken
        unfold RefreshState.start at ho
        split at ho
        · exact .inl ho
        · change (Function.update s.context s.made (.new ι id) k).outcome = some o at ho
          by_cases he : k = s.made
          · rw [he, Function.update_self] at ho
            cases ho
          · rw [Function.update_of_ne he] at ho
            exact .inl ho
      · cases taken
  | advance id =>
      rw [stepRefresh] at taken
      split at taken
      · exact .inl (outcome_produce taken k ▸ ho)
      · exact .inl (outcome_consume taken k ▸ ho)
      · rename_i r _
        obtain rfl := Option.some.inj taken
        cases r <;> exact .inl ho
      · cases taken
  | exchange id answer =>
      rw [stepRefresh] at taken
      split at taken
      · rename_i k' _
        obtain rfl := Option.some.inj taken
        change (Function.update s.context k' _ k).outcome = some o at ho
        by_cases he : k = k'
        · subst he
          rw [Function.update_self] at ho
          exact .inr ⟨id, answer, rfl, (Option.some.inj ho).symm⟩
        · rw [Function.update_of_ne he] at ho
          exact .inl ho
      · cases taken
  | remove k' =>
      rw [stepRefresh] at taken
      split at taken
      · obtain rfl := Option.some.inj taken
        exact .inl ho
      · cases taken

end Outcomes

end Kalm
