/-
  File:      Kalm/Proxy/Waiters.lean
  Subject:   WHAT THE WAITERS OF A REFRESH GET: the runs of its calls hand the producer's result over.

  * `ProducerOk`, `ConsumerOk`, `ReaderOk` -- what holds of the context where a call stands;
  * `Grows` -- what a producer's statement does to its context: what is published stays;
  * `Sound` -- the invariant, with a lemma for each kind of statement;
  * `handsOver_of_timely` -- the runs whose steps meet the condition have the property;
  * `handsOver_fails` -- a consumer that comes between two of the producer's writes gets half of them.
-/
import Kalm.Proxy.Refresh

namespace Kalm

open Runs

variable {ι : Type}

/-! ## 1. Where a call stands -/

/-- Nothing is published, and the exchange has not answered. -/
structure Unanswered (context : RefreshContext ι) : Prop where
  outcome : context.outcome = none
  idToken : context.idToken = none
  error : context.error = none

/-- What holds of the context where its producer stands. -/
def ProducerOk (context : RefreshContext ι) : ProducerAt ι → Prop
  | .logging => context.refreshes = 0 ∧ Unanswered context
  | .exchanging => context.refreshes = 1 ∧ Unanswered context
  | .locking result | .unlocking result | .settingIDToken result =>
    context.refreshes = 1 ∧ context.outcome = some (.ok result)
  | .settingIDTokenString result | .settingRefreshToken result =>
    context.refreshes = 1 ∧ context.outcome = some (.ok result) ∧ context.idToken = some result.idToken
  | .settingError err => context.refreshes = 1 ∧ context.outcome = some (.error err)
  | .broadcasting err | .removing err =>
    context.refreshes = 1 ∧ (err = none → context.idToken ≠ none) ∧ (err ≠ none → context.error ≠ none)

/-- What holds of the context where a consumer stands. -/
def ConsumerOk (context : RefreshContext ι) : ConsumerAt → Prop
  | .waiting | .parked => context.broadcast = false
  | .readingError => context.idToken ≠ none ∨ context.error ≠ none
  | .unlocking err => err = none → context.idToken ≠ none
  | _ => True

/-- What a call without an error has read is the producer's. -/
def ReaderOk (context : RefreshContext ι) (r : ReaderAt) : Prop :=
  ∃ result, context.outcome = some (.ok result) ∧ context.idToken = some result.idToken ∧
    match r with
    | .idTokenString => True
    | .refreshToken idTokenString => idTokenString = result.idTokenString
    | .idToken idTokenString refreshToken =>
      idTokenString = result.idTokenString ∧ refreshToken = result.refreshToken

/-- What holds where a call stands. -/
def CallOk (s : RefreshState ι) (id : Nat) : CallState ι → Prop
  | .fresh | .panicked => True
  | .producing k p => k < s.made ∧ (s.context k).producer = id ∧ s.removal k = .none ∧
      ProducerOk (s.context k) p
  | .consuming k c => k < s.made ∧ ConsumerOk (s.context k) c
  | .reading k r => k < s.made ∧ ReaderOk (s.context k) r
  | .returned _ (.error _) => True
  | .returned k (.ok (idToken, idTokenString, refreshToken)) => k < s.made ∧
      ∃ result, (s.context k).outcome = some (.ok result) ∧ idToken = some result.idToken ∧
        idTokenString = result.idTokenString ∧ refreshToken = result.refreshToken

/-- What holds of every context. -/
structure ContextOk (context : RefreshContext ι) (removal : Removal) : Prop where
  idToken : ∀ i, context.idToken = some i →
    ∃ result, context.outcome = some (.ok result) ∧ result.idToken = i
  error : ∀ err, context.error = some err → context.outcome = some (.error err)
  broadcast : context.broadcast = true → context.idToken ≠ none ∨ context.error ≠ none
  refreshes : context.refreshes ≤ 1
  removal : removal ≠ .none → context.refreshes = 1

/-- Where an ID token is published, a call can read. -/
theorem ContextOk.reader {context : RefreshContext ι} {removal : Removal} (h : ContextOk context removal)
    (hset : context.idToken ≠ none) : ReaderOk context .idTokenString := by
  obtain ⟨i, hi⟩ := Option.ne_none_iff_exists'.mp hset
  obtain ⟨result, houtcome, rfl⟩ := h.idToken i hi
  exact ⟨result, houtcome, hi, trivial⟩

/-- The invariant. -/
structure Sound (s : RefreshState ι) : Prop where
  contexts : ∀ k < s.made, ContextOk (s.context k) (s.removal k)
  calls : ∀ id, CallOk s id (s.call id)
  entries : ∀ k < s.made, s.entry = some k ∨ s.removal k = .done
  current : ∀ k, s.entry = some k → k < s.made ∧ s.removal k ≠ .done
  unmade : ∀ k, s.made ≤ k → s.removal k = .none

/-! ## 2. Statements -/

/-- What is published stays published. -/
structure Grows (context context' : RefreshContext ι) : Prop where
  producer : context'.producer = context.producer
  idToken : ∀ i, context.idToken = some i → context'.idToken = some i
  error : ∀ err, context.error = some err → context'.error = some err
  outcome : ∀ o, context.outcome = some o → context'.outcome = some o
  broadcast : context.broadcast = false → context'.broadcast = false

theorem Grows.rfl (context : RefreshContext ι) : Grows context context :=
  ⟨Eq.refl _, fun _ h => h, fun _ h => h, fun _ h => h, fun h => h⟩

/-- Of a context nothing is written that is published. -/
structure SamePublished (context context' : RefreshContext ι) : Prop where
  producer : context'.producer = context.producer
  idToken : context'.idToken = context.idToken
  error : context'.error = context.error
  outcome : context'.outcome = context.outcome
  broadcast : context'.broadcast = context.broadcast

theorem SamePublished.grows {context context' : RefreshContext ι} (h : SamePublished context context') :
    Grows context context' :=
  ⟨h.producer, fun _ hi => h.idToken.trans hi, fun _ he => h.error.trans he,
    fun _ ho => h.outcome.trans ho, fun hb => h.broadcast.trans hb⟩

theorem ContextOk.write {context context' : RefreshContext ι} {removal : Removal}
    (h : ContextOk context removal) (hs : SamePublished context context')
    (hrefreshes : context'.refreshes = context.refreshes) : ContextOk context' removal := by
  refine ⟨fun i hi => ?_, fun err he => ?_, fun hb => ?_, ?_, fun hr => ?_⟩
  · rw [hs.outcome]
    exact h.idToken i (hs.idToken.symm.trans hi)
  · rw [hs.outcome]
    exact h.error err (hs.error.symm.trans he)
  · rw [hs.idToken, hs.error]
    exact h.broadcast (hs.broadcast.symm.trans hb)
  · rw [hrefreshes]
    exact h.refreshes
  · rw [hrefreshes]
    exact h.removal hr

section Statements

variable {s : RefreshState ι} {id k : Nat}

theorem ConsumerOk.grow {context context' : RefreshContext ι} (hg : Grows context context') {c : ConsumerAt}
    (h : ConsumerOk context c) : ConsumerOk context' c := by
  have hidToken : context.idToken ≠ none → context'.idToken ≠ none := by
    intro hne
    obtain ⟨i, hi⟩ := Option.ne_none_iff_exists'.mp hne
    rw [hg.idToken i hi]
    exact Option.some_ne_none i
  have herror : context.error ≠ none → context'.error ≠ none := by
    intro hne
    obtain ⟨err, herr⟩ := Option.ne_none_iff_exists'.mp hne
    rw [hg.error err herr]
    exact Option.some_ne_none err
  cases c with
  | waiting => exact hg.broadcast h
  | parked => exact hg.broadcast h
  | readingError => exact h.imp hidToken herror
  | unlocking err => exact fun he => hidToken (h he)
  | _ => trivial

theorem ReaderOk.grow {context context' : RefreshContext ι} (hg : Grows context context') {r : ReaderAt}
    (h : ReaderOk context r) : ReaderOk context' r := by
  obtain ⟨result, houtcome, hidToken, hread⟩ := h
  exact ⟨result, hg.outcome _ houtcome, hg.idToken _ hidToken, hread⟩

/-- A lock is nothing that a statement of the producer relies on. -/
theorem ProducerOk.lock {context : RefreshContext ι} {p : ProducerAt ι} (h : ProducerOk context p)
    (locked : Bool) : ProducerOk { context with locked := locked } p := by
  cases p with
  | logging => exact ⟨h.1, h.2.1, h.2.2, h.2.3⟩
  | exchanging => exact ⟨h.1, h.2.1, h.2.2, h.2.3⟩
  | _ => exact h

/-- A call keeps what holds where it stands when contexts grow and its own producing is not touched. -/
theorem CallOk.grow {s' : RefreshState ι} {st : CallState ι} (h : CallOk s id st) (hmade : s.made ≤ s'.made)
    (hg : ∀ k < s.made, Grows (s.context k) (s'.context k))
    (hproducing : ∀ k p, st = .producing k p →
      s'.removal k = s.removal k ∧ (ProducerOk (s.context k) p → ProducerOk (s'.context k) p)) :
    CallOk s' id st := by
  cases st with
  | fresh => trivial
  | panicked => trivial
  | producing k p =>
      obtain ⟨hk, hproducer, hremoval, hp⟩ := h
      obtain ⟨hsame, hkeeps⟩ := hproducing k p rfl
      exact ⟨by omega, by rw [(hg k hk).producer]; exact hproducer, hsame.trans hremoval, hkeeps hp⟩
  | consuming k c => exact ⟨by have := h.1; omega, h.2.grow (hg k h.1)⟩
  | reading k r => exact ⟨by have := h.1; omega, h.2.grow (hg k h.1)⟩
  | returned k result =>
      cases result with
      | error err => trivial
      | ok values =>
          obtain ⟨hk, result, houtcome, hvalues⟩ := h
          exact ⟨by omega, result, (hg k hk).outcome _ houtcome, hvalues⟩

/-- A call goes on. -/
theorem Sound.go (h : Sound s) {st : CallState ι} (hst : CallOk s id st) : Sound (s.go id st) := by
  refine ⟨h.contexts, fun other => ?_, h.entries, h.current, h.unmade⟩
  show CallOk (s.go id st) other (Function.update s.call id st other)
  by_cases he : other = id
  · subst he
    rw [Function.update_self]
    exact hst.grow (Nat.le_refl _) (fun k _ => .rfl _) fun _ _ _ => ⟨rfl, fun hp => hp⟩
  · rw [Function.update_of_ne he]
    exact (h.calls other).grow (Nat.le_refl _) (fun k _ => .rfl _) fun _ _ _ => ⟨rfl, fun hp => hp⟩

/-- The other contexts are not written. -/
theorem grows_write {context : RefreshContext ι} (hg : Grows (s.context k) context) (other : Nat) :
    Grows (s.context other) ((s.write k context).context other) := by
  show Grows _ (Function.update s.context k context other)
  by_cases he : other = k
  · subst he
    rw [Function.update_self]
    exact hg
  · rw [Function.update_of_ne he]
    exact .rfl _

theorem contexts_write (h : Sound s) {context : RefreshContext ι}
    (hok : ContextOk context (s.removal k)) :
    ∀ other < s.made, ContextOk ((s.write k context).context other) (s.removal other) := by
  intro other hother
  show ContextOk (Function.update s.context k context other) _
  by_cases he : other = k
  · subst he
    rw [Function.update_self]
    exact hok
  · rw [Function.update_of_ne he]
    exact h.contexts other hother

/-- A lock is taken or given back. -/
theorem Sound.lock (h : Sound s) (hk : k < s.made) (locked : Bool) : Sound (s.lock k locked) := by
  have hs : SamePublished (s.context k) { s.context k with locked := locked } :=
    ⟨rfl, rfl, rfl, rfl, rfl⟩
  refine ⟨contexts_write h ((h.contexts k hk).write hs rfl), fun id => ?_, h.entries, h.current, h.unmade⟩
  refine (h.calls id).grow (Nat.le_refl _) (fun other _ => grows_write hs.grows other) fun other p _ =>
    ⟨rfl, fun hp => ?_⟩
  show ProducerOk (Function.update s.context k _ other) p
  by_cases he : other = k
  · subst he
    rw [Function.update_self]
    exact hp.lock locked
  · rw [Function.update_of_ne he]
    exact hp

/-- **The producer of a context writes it**: nobody else is its producer. -/
theorem Sound.produce (h : Sound s) {p : ProducerAt ι} (hat : s.call id = .producing k p)
    {context : RefreshContext ι} (hg : Grows (s.context k) context)
    (hok : ContextOk context (s.removal k)) {st : CallState ι} (hst : CallOk (s.write k context) id st) :
    Sound ((s.write k context).go id st) := by
  have hcall := h.calls id
  rw [hat] at hcall
  refine ⟨contexts_write h hok, fun other => ?_, h.entries, h.current, h.unmade⟩
  show CallOk ((s.write k context).go id st) other (Function.update s.call id st other)
  by_cases he : other = id
  · subst he
    rw [Function.update_self]
    exact hst.grow (Nat.le_refl _) (fun k _ => .rfl _) fun _ _ _ => ⟨rfl, fun hp => hp⟩
  · rw [Function.update_of_ne he]
    refine (h.calls other).grow (Nat.le_refl _) (fun k' _ => grows_write hg k') fun k' p' hst' =>
      ⟨rfl, fun hp => ?_⟩
    have hother := h.calls other
    rw [hst'] at hother
    have hne : k' ≠ k := by
      intro e
      rw [e] at hother
      exact he (hother.2.1.symm.trans hcall.2.1)
    show ProducerOk (Function.update s.context k context k') p'
    rw [Function.update_of_ne hne]
    exact hp

/-- A call starts: it finds the entry, or makes it. -/
theorem Sound.start (h : Sound s) (hfresh : s.call id = .fresh) : Sound (s.start id) := by
  unfold RefreshState.start
  cases hentry : s.entry with
  | some k => exact h.go ⟨(h.current k hentry).1, trivial⟩
  | none =>
      have hcontext : ∀ k < s.made, Function.update s.context s.made (.new ι id) k = s.context k :=
        fun k hk => Function.update_of_ne (by omega) _ _
      refine ⟨fun k hk => ?_, fun other => ?_, fun k hk => ?_, fun k hk => ?_, fun k hk => ?_⟩
      · show ContextOk (Function.update s.context s.made (.new ι id) k) (s.removal k)
        have hk : k < s.made + 1 := hk
        by_cases he : k = s.made
        · subst he
          rw [Function.update_self, h.unmade _ (Nat.le_refl _)]
          refine ⟨?_, ?_, ?_, Nat.zero_le _, fun hr => absurd rfl hr⟩
          · intro _ hidToken
            cases hidToken
          · intro _ herror
            cases herror
          · intro hbroadcast
            cases hbroadcast
        · rw [hcontext k (by omega)]
          exact h.contexts k (by omega)
      · show CallOk _ other (Function.update s.call id (.producing s.made .logging) other)
        by_cases he : other = id
        · subst he
          rw [Function.update_self]
          refine ⟨Nat.lt_succ_self _, ?_, h.unmade _ (Nat.le_refl _), ?_⟩
          · show (Function.update s.context s.made (.new ι other) s.made).producer = other
            rw [Function.update_self]
            rfl
          · show ProducerOk (Function.update s.context s.made (.new ι other) s.made) .logging
            rw [Function.update_self]
            exact ⟨rfl, rfl, rfl, rfl⟩
        · rw [Function.update_of_ne he]
          refine (h.calls other).grow (Nat.le_succ _) (fun k hk => ?_) fun k p hst => ⟨rfl, fun hp => ?_⟩
          · show Grows _ (Function.update s.context s.made (.new ι id) k)
            rw [hcontext k hk]
            exact .rfl _
          · have hother := h.calls other
            rw [hst] at hother
            show ProducerOk (Function.update s.context s.made (.new ι id) k) p
            rw [hcontext k hother.1]
            exact hp
      · have hk : k < s.made + 1 := hk
        by_cases he : k = s.made
        · left
          rw [he]
        · right
          refine (h.entries k (by omega)).resolve_left ?_
          rw [hentry]
          exact (Option.some_ne_none k).symm
      · cases hk
        refine ⟨Nat.lt_succ_self _, ?_⟩
        rw [h.unmade _ (Nat.le_refl _)]
        decide
      · have hk : s.made + 1 ≤ k := hk
        exact h.unmade k (by omega)

/-- Who is woken was parked, and nobody else is touched. -/
theorem wake_call (s : RefreshState ι) (k other : Nat) :
    ((s.wake k).call other = s.call other ∧ s.call other ≠ .consuming k .parked) ∨
      (s.call other = .consuming k .parked ∧ (s.wake k).call other = .consuming k .woken) := by
  cases hst : s.call other with
  | consuming k' c =>
      cases c with
      | parked =>
          by_cases hk : k' = k
          · subst hk
            exact .inr ⟨rfl, by simp [RefreshState.wake, hst]⟩
          · exact .inl ⟨by simp [RefreshState.wake, hst, hk], fun he => hk (CallState.consuming.inj he).1⟩
      | _ => exact .inl ⟨by simp [RefreshState.wake, hst], nofun⟩
  | _ => exact .inl ⟨by simp [RefreshState.wake, hst], nofun⟩

/-- **The producer broadcasts**, where no consumer stands in front of its Wait: the parked ones are woken. -/
theorem Sound.broadcasting (h : Sound s) {err : Option Str}
    (hat : s.call id = .producing k (.broadcasting err))
    (hnone : ∀ other, s.call other ≠ .consuming k .waiting) :
    Sound (((s.wake k).write k { s.context k with broadcast := true }).go id
      (.producing k (.removing err))) := by
  have hcall := h.calls id
  rw [hat] at hcall
  obtain ⟨hk, hproducer, hremoval, hp⟩ := hcall
  have hok := h.contexts k hk
  have hset : (s.context k).idToken ≠ none ∨ (s.context k).error ≠ none := by
    by_cases he : err = none
    · exact .inl (hp.2.1 he)
    · exact .inr (hp.2.2 he)
  refine ⟨contexts_write h ⟨hok.idToken, hok.error, fun _ => hset, hok.refreshes, hok.removal⟩,
    fun other => ?_, h.entries, h.current, h.unmade⟩
  show CallOk _ other (Function.update (s.wake k).call id (.producing k (.removing err)) other)
  have hself : (Function.update s.context k { s.context k with broadcast := true }) k =
      { s.context k with broadcast := true } := Function.update_self _ _ _
  by_cases he : other = id
  · subst he
    rw [Function.update_self]
    refine ⟨hk, ?_, hremoval, ?_⟩
    · show (Function.update s.context k _ k).producer = other
      rw [hself]
      exact hproducer
    · show ProducerOk (Function.update s.context k _ k) (.removing err)
      rw [hself]
      exact hp
  · rw [Function.update_of_ne he]
    have hcontext (k' : Nat) : ∃ broadcast, Function.update s.context k { s.context k with broadcast := true } k' =
        { s.context k' with broadcast := broadcast } := by
      by_cases hk' : k' = k
      · subst hk'
        exact ⟨true, hself⟩
      · exact ⟨_, Function.update_of_ne hk' _ _⟩
    rcases wake_call s k other with ⟨hw, hparked⟩ | ⟨_, hw⟩
    swap
    · rw [hw]
      exact ⟨hk, trivial⟩
    rw [hw]
    have hother := h.calls other
    cases hst : s.call other with
    | fresh => trivial
    | panicked => trivial
    | producing k' p =>
        rw [hst] at hother
        have hne : k' ≠ k := by
          intro e
          rw [e] at hother
          exact he (hother.2.1.symm.trans hproducer)
        show k' < s.made ∧ (Function.update s.context k _ k').producer = other ∧ s.removal k' = .none ∧
          ProducerOk (Function.update s.context k _ k') p
        rw [Function.update_of_ne hne]
        exact hother
    | consuming k' c =>
        rw [hst] at hother hparked
        refine ⟨hother.1, ?_⟩
        show ConsumerOk (Function.update s.context k _ k') c
        by_cases hk' : k' = k
        · subst hk'
          rw [hself]
          cases c with
          | waiting => exact absurd hst (hnone other)
          | parked => exact absurd rfl hparked
          | _ => exact hother.2
        · rw [Function.update_of_ne hk']
          exact hother.2
    | reading k' r =>
        rw [hst] at hother
        obtain ⟨_, hsame⟩ := hcontext k'
        refine ⟨hother.1, ?_⟩
        show ReaderOk (Function.update s.context k _ k') r
        rw [hsame]
        exact hother.2
    | returned k' result =>
        rw [hst] at hother
        obtain ⟨_, hsame⟩ := hcontext k'
        cases result with
        | error err => trivial
        | ok values =>
            refine ⟨hother.1, ?_⟩
            show ∃ result, (Function.update s.context k _ k').outcome = _ ∧ _
            rw [hsame]
            exact hother.2

/-- The producer has the entry removed, later. -/
theorem Sound.removing (h : Sound s) {p : ProducerAt ι} (hat : s.call id = .producing k p)
    (honce : (s.context k).refreshes = 1) {st : CallState ι} (hst : CallOk s id st)
    (hleft : ∀ k' p', st ≠ .producing k' p') :
    Sound ({ s with removal := Function.update s.removal k .sleeping }.go id st) := by
  have hcall := h.calls id
  rw [hat] at hcall
  obtain ⟨hk, hproducer, hremoval, -⟩ := hcall
  have hrest : ∀ k', k' ≠ k → Function.update s.removal k .sleeping k' = s.removal k' :=
    fun k' hne => Function.update_of_ne hne _ _
  refine ⟨fun k' hk' => ?_, fun other => ?_, fun k' hk' => ?_, fun k' hk' => ?_, fun k' hk' => ?_⟩
  · show ContextOk (s.context k') (Function.update s.removal k .sleeping k')
    have hok := h.contexts k' hk'
    by_cases he : k' = k
    · subst he
      exact ⟨hok.idToken, hok.error, hok.broadcast, hok.refreshes, fun _ => honce⟩
    · rw [hrest k' he]
      exact hok
  · show CallOk _ other (Function.update s.call id st other)
    by_cases he : other = id
    · subst he
      rw [Function.update_self]
      exact hst.grow (Nat.le_refl _) (fun k _ => .rfl _) fun k' p' e => absurd e (hleft k' p')
    · rw [Function.update_of_ne he]
      refine (h.calls other).grow (Nat.le_refl _) (fun k _ => .rfl _) fun k' p' e => ⟨?_, fun hp => hp⟩
      have hother := h.calls other
      rw [e] at hother
      refine hrest k' fun ek => he ?_
      rw [ek] at hother
      exact hother.2.1.symm.trans hproducer
  · show s.entry = some k' ∨ Function.update s.removal k .sleeping k' = .done
    have hentry := h.entries k' hk'
    by_cases he : k' = k
    · subst he
      rw [hremoval] at hentry
      exact .inl (hentry.resolve_right (by decide))
    · rw [hrest k' he]
      exact hentry
  · obtain ⟨hmade, hdone⟩ := h.current k' hk'
    refine ⟨hmade, ?_⟩
    show Function.update s.removal k .sleeping k' ≠ .done
    by_cases he : k' = k
    · subst he
      rw [Function.update_self]
      decide
    · rw [hrest k' he]
      exact hdone
  · show Function.update s.removal k .sleeping k' = .none
    have hk' : s.made ≤ k' := hk'
    rw [hrest k' (by omega)]
    exact h.unmade k' hk'

/-- The entry is removed: it is that of the goroutine's context. -/
theorem Sound.remove (h : Sound s) (hsleeping : s.removal k = .sleeping) :
    Sound { s with entry := none, removal := Function.update s.removal k .done } := by
  have hrest : ∀ k', k' ≠ k → Function.update s.removal k .done k' = s.removal k' :=
    fun k' hne => Function.update_of_ne hne _ _
  have hk : k < s.made := by
    by_contra hge
    rw [h.unmade k (by omega)] at hsleeping
    cases hsleeping
  have hentry : s.entry = some k := by
    refine (h.entries k hk).resolve_right ?_
    rw [hsleeping]
    decide
  refine ⟨fun k' hk' => ?_, fun other => ?_, fun k' hk' => .inr ?_, fun k' hk' => ?_, fun k' hk' => ?_⟩
  · show ContextOk (s.context k') (Function.update s.removal k .done k')
    have hok := h.contexts k' hk'
    by_cases he : k' = k
    · subst he
      refine ⟨hok.idToken, hok.error, hok.broadcast, hok.refreshes, fun _ => hok.removal ?_⟩
      rw [hsleeping]
      decide
    · rw [hrest k' he]
      exact hok
  · refine (h.calls other).grow (Nat.le_refl _) (fun k _ => .rfl _) fun k' p' e => ⟨?_, fun hp => hp⟩
    have hother := h.calls other
    rw [e] at hother
    refine hrest k' fun ek => ?_
    rw [ek] at hother
    have hremoval : s.removal k = .none := hother.2.2.1
    rw [hsleeping] at hremoval
    cases hremoval
  · show Function.update s.removal k .done k' = .done
    by_cases he : k' = k
    · subst he
      exact Function.update_self _ _ _
    · rw [hrest k' he]
      refine (h.entries k' hk').resolve_left fun e => he ?_
      rw [hentry] at e
      exact (Option.some.inj e).symm
  · cases hk'
  · show Function.update s.removal k .done k' = .none
    have hk' : s.made ≤ k' := hk'
    rw [hrest k' (by omega)]
    exact h.unmade k' hk'

/-! ## 3. Texts -/

/-- The call is a producer of the context that has yet to write a text. -/
def CallState.owes (owes : ProducerAt ι → Bool) (k : Nat) : CallState ι → Prop
  | .producing k' p => k' = k ∧ owes p = true
  | _ => False

/-- The texts hold what the exchange came to, or are yet to be written. -/
def TextsOk (s : RefreshState ι) : Prop :=
  ∀ k result, (s.context k).outcome = some (.ok result) →
    ((s.context k).idTokenString = result.idTokenString ∨
        ∃ id, (s.call id).owes ProducerAt.owesIDTokenString k) ∧
      ((s.context k).refreshToken = result.refreshToken ∨
        ∃ id, (s.call id).owes ProducerAt.owesRefreshToken k)

/-- What of a context its texts are about. -/
structure SameTexts (context context' : RefreshContext ι) : Prop where
  outcome : context'.outcome = context.outcome
  idTokenString : context'.idTokenString = context.idTokenString
  refreshToken : context'.refreshToken = context.refreshToken

theorem SameTexts.rfl (context : RefreshContext ι) : SameTexts context context :=
  ⟨Eq.refl _, Eq.refl _, Eq.refl _⟩

/-- No context is written, and who owes a text still does. -/
theorem TextsOk.keep (h : TextsOk s) {s' : RefreshState ι}
    (hcontext : ∀ k, SameTexts (s.context k) (s'.context k))
    (hcall : ∀ owes ∈ [ProducerAt.owesIDTokenString, ProducerAt.owesRefreshToken], ∀ id k,
      (s.call id).owes owes k → (s'.call id).owes owes k) : TextsOk s' := by
  intro k result houtcome
  rw [(hcontext k).outcome] at houtcome
  obtain ⟨hidTokenString, hrefreshToken⟩ := h k result houtcome
  refine ⟨hidTokenString.imp ?_ ?_, hrefreshToken.imp ?_ ?_⟩
  · exact (hcontext k).idTokenString.trans
  · exact fun ho => ho.imp fun id => hcall _ List.mem_cons_self id k
  · exact (hcontext k).refreshToken.trans
  · exact fun ho => ho.imp fun id => hcall _ (List.mem_cons_of_mem _ List.mem_cons_self) id k

theorem TextsOk.write (h : TextsOk s) {context : RefreshContext ι}
    (hsame : SameTexts (s.context k) context) : TextsOk (s.write k context) := by
  refine h.keep (fun other => ?_) fun _ _ _ _ ho => ho
  show SameTexts _ (Function.update s.context k context other)
  by_cases he : other = k
  · subst he
    rw [Function.update_self]
    exact hsame
  · rw [Function.update_of_ne he]
    exact .rfl _

theorem TextsOk.go (h : TextsOk s) {st : CallState ι}
    (hst : ∀ owes ∈ [ProducerAt.owesIDTokenString, ProducerAt.owesRefreshToken], ∀ k,
      (s.call id).owes owes k → st.owes owes k) : TextsOk (s.go id st) := by
  refine h.keep (fun _ => .rfl _) fun owes hmem other k ho => ?_
  show (Function.update s.call id st other).owes owes k
  by_cases he : other = id
  · subst he
    rw [Function.update_self]
    exact hst owes hmem k ho
  · rw [Function.update_of_ne he]
    exact ho

/-- A call that is no producer goes on. -/
theorem TextsOk.go_free (h : TextsOk s) {st : CallState ι}
    (hfree : ∀ k p, s.call id ≠ .producing k p) : TextsOk (s.go id st) := by
  refine h.go fun owes _ k ho => ?_
  cases hst : s.call id with
  | producing k' p => exact absurd hst (hfree k' p)
  | _ =>
      rw [hst] at ho
      exact ho.elim

/-- **A text or the outcome is written**: of this context alone. -/
theorem TextsOk.wrote (h : TextsOk s) {p : ProducerAt ι} (hat : s.call id = .producing k p)
    {context : RefreshContext ι} {st : CallState ι} (hown : ∀ result,
      context.outcome = some (.ok result) →
        (context.idTokenString = result.idTokenString ∨ st.owes ProducerAt.owesIDTokenString k) ∧
          (context.refreshToken = result.refreshToken ∨ st.owes ProducerAt.owesRefreshToken k)) :
    TextsOk ((s.write k context).go id st) := by
  intro other result houtcome
  have hcall : ((s.write k context).go id st).call id = st := Function.update_self _ _ _
  change (Function.update s.context k context other).outcome = _ at houtcome
  show ((Function.update s.context k context other).idTokenString = _ ∨ _) ∧
    ((Function.update s.context k context other).refreshToken = _ ∨ _)
  by_cases he : other = k
  · subst he
    rw [Function.update_self] at houtcome ⊢
    obtain ⟨hidTokenString, hrefreshToken⟩ := hown result houtcome
    refine ⟨hidTokenString.imp_right fun ho => ⟨id, ?_⟩, hrefreshToken.imp_right fun ho => ⟨id, ?_⟩⟩
    · rw [hcall]
      exact ho
    · rw [hcall]
      exact ho
  · rw [Function.update_of_ne he] at houtcome ⊢
    -- the call that goes on is at another context
    have hkept : ∀ owes : ProducerAt ι → Bool, (∃ id', (s.call id').owes owes other) →
        ∃ id', (((s.write k context).go id st).call id').owes owes other := by
      intro owes hex
      obtain ⟨id', ho⟩ := hex
      refine ⟨id', ?_⟩
      have hne : id' ≠ id := by
        intro e
        rw [e, hat] at ho
        exact he ho.1.symm
      show (Function.update s.call id st id').owes owes other
      rw [Function.update_of_ne hne]
      exact ho
    obtain ⟨hidTokenString, hrefreshToken⟩ := h other result houtcome
    exact ⟨hidTokenString.imp_right (hkept _), hrefreshToken.imp_right (hkept _)⟩

/-- Where the exchange has not answered, the producer can leave. -/
theorem TextsOk.go_untouched (h : TextsOk s) {p : ProducerAt ι} (hat : s.call id = .producing k p)
    (hnone : (s.context k).outcome = none) {st : CallState ι} : TextsOk (s.go id st) := by
  have hsame : s.write k (s.context k) = s := by rw [RefreshState.write, Function.update_eq_self]
  have hw : TextsOk ((s.write k (s.context k)).go id st) := by
    refine h.wrote hat fun result houtcome => ?_
    rw [hnone] at houtcome
    cases houtcome
  rw [hsame] at hw
  exact hw

theorem TextsOk.wake (h : TextsOk s) : TextsOk (s.wake k) := by
  refine h.keep (fun _ => .rfl _) fun owes _ id k' ho => ?_
  rcases wake_call s k id with ⟨hw, _⟩ | ⟨hst, _⟩
  · rwa [hw]
  · rw [hst] at ho
    exact ho.elim

theorem TextsOk.start (h : TextsOk s) (hfresh : s.call id = .fresh) : TextsOk (s.start id) := by
  unfold RefreshState.start
  cases hentry : s.entry with
  | some k =>
      refine h.go_free fun k p e => ?_
      rw [hfresh] at e
      cases e
  | none =>
      intro k result houtcome
      change (Function.update s.context s.made (.new ι id) k).outcome = _ at houtcome
      show ((Function.update s.context s.made (.new ι id) k).idTokenString = _ ∨ _) ∧
        ((Function.update s.context s.made (.new ι id) k).refreshToken = _ ∨ _)
      by_cases he : k = s.made
      · subst he
        rw [Function.update_self] at houtcome
        cases houtcome
      · rw [Function.update_of_ne he] at houtcome ⊢
        have hkept : ∀ owes : ProducerAt ι → Bool, (∃ id', (s.call id').owes owes k) → ∃ id',
            (Function.update s.call id (.producing s.made .logging) id').owes owes k := by
          intro owes hex
          obtain ⟨id', ho⟩ := hex
          refine ⟨id', ?_⟩
          have hne : id' ≠ id := by
            intro e
            rw [e, hfresh] at ho
            exact ho
          rw [Function.update_of_ne hne]
          exact ho
        obtain ⟨hidTokenString, hrefreshToken⟩ := h k result houtcome
        exact ⟨hidTokenString.imp_right (hkept _), hrefreshToken.imp_right (hkept _)⟩

/-- Who owes a text of a context is its producer. -/
theorem Sound.owes_producer (h : Sound s) {owes : ProducerAt ι → Bool} (ho : (s.call id).owes owes k) :
    (s.context k).producer = id := by
  have hcall := h.calls id
  cases hst : s.call id with
  | producing k' p =>
      rw [hst] at ho hcall
      obtain ⟨rfl, -⟩ := ho
      exact hcall.2.1
  | _ =>
      rw [hst] at ho
      exact ho.elim

/-- A text that the producer of the context has written. -/
theorem Sound.written (h : Sound s) {owes : ProducerAt ι → Bool} {p : ProducerAt ι}
    (hat : s.call id = .producing k p) (howes : owes p = false) {q : Prop}
    (hq : q ∨ ∃ id', (s.call id').owes owes k) : q := by
  refine hq.resolve_right fun hex => ?_
  obtain ⟨id', ho⟩ := hex
  have hcall := h.calls id
  rw [hat] at hcall
  obtain rfl : id = id' := hcall.2.1.symm.trans (h.owes_producer ho)
  rw [hat] at ho
  have howed : owes p = true := ho.2
  rw [howes] at howed
  exact Bool.noConfusion howed

/-! ## 4. Steps -/

/-- The producer writes its context and goes on. -/
theorem Sound.produced (h : Sound s) (htexts : TextsOk s) {p : ProducerAt ι}
    (hat : s.call id = .producing k p) (context : RefreshContext ι) (p' : ProducerAt ι)
    (hg : Grows (s.context k) context) (hok : ContextOk context (s.removal k))
    (hp' : ProducerOk context p') (htexts' : ∀ result, context.outcome = some (.ok result) →
      (context.idTokenString = result.idTokenString ∨ p'.owesIDTokenString = true) ∧
        (context.refreshToken = result.refreshToken ∨ p'.owesRefreshToken = true)) :
    Sound ((s.write k context).go id (.producing k p')) ∧
      TextsOk ((s.write k context).go id (.producing k p')) := by
  have hcall := h.calls id
  rw [hat] at hcall
  have hself : (s.write k context).context k = context := Function.update_self _ _ _
  refine ⟨h.produce hat hg hok ⟨hcall.1, ?_, hcall.2.2.1, ?_⟩, htexts.wrote hat fun result houtcome => ?_⟩
  · rw [hself, hg.producer]
    exact hcall.2.1
  · rw [hself]
    exact hp'
  · obtain ⟨hidTokenString, hrefreshToken⟩ := htexts' result houtcome
    exact ⟨hidTokenString.imp_right fun ho => ⟨rfl, ho⟩, hrefreshToken.imp_right fun ho => ⟨rfl, ho⟩⟩

/-- A statement of the producer. -/
theorem Sound.advance_producing (h : Sound s) (htexts : TextsOk s) {p : ProducerAt ι}
    (hat : s.call id = .producing k p)
    (hbroadcasting : ∀ err, p = .broadcasting err → ∀ other, s.call other ≠ .consuming k .waiting)
    {s' : RefreshState ι} (taken : s.produce id k p = some s') : Sound s' ∧ TextsOk s' := by
  have hcall := h.calls id
  rw [hat] at hcall
  obtain ⟨hk, hproducer, hremoval, hp⟩ := hcall
  have hok := h.contexts k hk
  cases p with
  | logging =>
      rw [RefreshState.produce] at taken
      split at taken
      · obtain rfl := Option.some.inj taken
        exact ⟨h.go trivial, htexts.go_untouched hat hp.2.outcome⟩
      · obtain rfl := Option.some.inj taken
        have hone : (s.context k).refreshes + 1 = 1 := by rw [hp.1]
        have hs : SamePublished (s.context k)
            { s.context k with refreshes := (s.context k).refreshes + 1 } := ⟨rfl, rfl, rfl, rfl, rfl⟩
        exact h.produced htexts hat _ .exchanging hs.grows
          ⟨hok.idToken, hok.error, hok.broadcast, Nat.le_of_eq hone, fun _ => hone⟩
          ⟨hone, hp.2.1, hp.2.2, hp.2.3⟩ fun _ _ => ⟨.inr rfl, .inr rfl⟩
  | exchanging => cases taken
  | locking result =>
      rw [RefreshState.produce] at taken
      split at taken
      · cases taken
      · obtain rfl := Option.some.inj taken
        have hs : SamePublished (s.context k) { s.context k with locked := true } :=
          ⟨rfl, rfl, rfl, rfl, rfl⟩
        exact h.produced htexts hat _ (.unlocking result) hs.grows (hok.write hs rfl) hp
          fun _ _ => ⟨.inr rfl, .inr rfl⟩
  | unlocking result =>
      obtain rfl := Option.some.inj taken
      have hs : SamePublished (s.context k) { s.context k with locked := false } :=
        ⟨rfl, rfl, rfl, rfl, rfl⟩
      exact h.produced htexts hat _ (.settingIDToken result) hs.grows (hok.write hs rfl) hp
        fun _ _ => ⟨.inr rfl, .inr rfl⟩
  | settingIDToken result =>
      obtain rfl := Option.some.inj taken
      obtain ⟨hone, houtcome⟩ := hp
      refine h.produced htexts hat { s.context k with idToken := some result.idToken }
        (.settingIDTokenString result) ⟨rfl, fun i hi => ?_, fun _ he => he, fun _ ho => ho, fun hb => hb⟩
        ⟨fun i hi => ⟨result, houtcome, Option.some.inj hi⟩, hok.error,
          fun _ => .inl (Option.some_ne_none _), hok.refreshes, hok.removal⟩ ⟨hone, houtcome, rfl⟩
        fun _ _ => ⟨.inr rfl, .inr rfl⟩
      obtain ⟨result', houtcome', rfl⟩ := hok.idToken i hi
      rw [houtcome] at houtcome'
      cases houtcome'
      rfl
  | settingIDTokenString result =>
      obtain rfl := Option.some.inj taken
      have hs : SamePublished (s.context k)
          { s.context k with idTokenString := result.idTokenString } := ⟨rfl, rfl, rfl, rfl, rfl⟩
      refine h.produced htexts hat _ (.settingRefreshToken result) hs.grows (hok.write hs rfl) hp
        fun result' houtcome => ⟨.inl ?_, .inr rfl⟩
      have hsame : (s.context k).outcome = some (.ok result') := houtcome
      rw [hp.2.1] at hsame
      cases hsame
      rfl
  | settingRefreshToken result =>
      obtain rfl := Option.some.inj taken
      have hset : (s.context k).idToken ≠ none := by
        rw [hp.2.2]
        exact Option.some_ne_none _
      have hs : SamePublished (s.context k)
          { s.context k with refreshToken := result.refreshToken } := ⟨rfl, rfl, rfl, rfl, rfl⟩
      refine h.produced htexts hat _ (.broadcasting none) hs.grows (hok.write hs rfl)
        ⟨hp.1, fun _ => hset, fun hne => absurd rfl hne⟩
        fun result' houtcome => ⟨.inl (h.written hat rfl (htexts k result' houtcome).1), .inl ?_⟩
      have hsame : (s.context k).outcome = some (.ok result') := houtcome
      rw [hp.2.1] at hsame
      cases hsame
      rfl
  | settingError err =>
      obtain rfl := Option.some.inj taken
      obtain ⟨hone, houtcome⟩ := hp
      refine h.produced htexts hat { s.context k with error := some err } (.broadcasting (some err))
        ⟨rfl, fun _ hi => hi, fun err' he => ?_, fun _ ho => ho, fun hb => hb⟩
        ⟨hok.idToken, fun err' he => ?_, fun _ => .inr (Option.some_ne_none _), hok.refreshes, hok.removal⟩
        ⟨hone, fun he => absurd he (Option.some_ne_none _), fun _ => Option.some_ne_none _⟩
        fun result houtcome' => ?_
      · have hsame := hok.error err' he
        rw [houtcome] at hsame
        cases hsame
        rfl
      · cases he
        exact houtcome
      · have hsame : (s.context k).outcome = some (.ok result) := houtcome'
        rw [houtcome] at hsame
        cases hsame
  | broadcasting err =>
      obtain rfl := Option.some.inj taken
      refine ⟨h.broadcasting hat (hbroadcasting err rfl), ?_⟩
      have hwake : (s.wake k).call id = .producing k (.broadcasting err) := by
        simp only [RefreshState.wake, hat]
      refine (htexts.wake (k := k)).wrote hwake fun result houtcome => ?_
      obtain ⟨hidTokenString, hrefreshToken⟩ := htexts k result houtcome
      exact ⟨.inl (h.written hat rfl hidTokenString), .inl (h.written hat rfl hrefreshToken)⟩
  | removing err =>
      obtain rfl := Option.some.inj taken
      -- nothing is left to write
      have hpaid : ∀ st : CallState ι,
          TextsOk ({ s with removal := Function.update s.removal k .sleeping }.go id st) := by
        intro st
        refine TextsOk.go (htexts.keep (fun _ => .rfl _) fun _ _ _ _ ho => ho) fun owes hmem k' ho => ?_
        change (s.call id).owes owes k' at ho
        rw [hat] at ho
        obtain rfl | hmem := List.mem_cons.mp hmem
        · exact Bool.noConfusion ho.2
        · rw [List.mem_singleton.mp hmem] at ho
          exact Bool.noConfusion ho.2
      cases err with
      | none =>
          refine ⟨h.removing hat hp.1 ⟨hk, ?_⟩ fun _ _ e => ?_, hpaid _⟩
          · exact hok.reader (hp.2.1 rfl)
          · cases e
      | some err =>
          refine ⟨h.removing hat hp.1 trivial fun _ _ e => ?_, hpaid _⟩
          cases e

/-- The exchange answers. -/
theorem Sound.answered (h : Sound s) (htexts : TextsOk s) (hat : s.call id = .producing k .exchanging)
    (answer : Exchange ι) :
    Sound ((s.write k { s.context k with outcome := some answer.outcome }).go id
        (match answer.outcome with
        | .ok result => .producing k (.locking result)
        | .error err => .producing k (.settingError err))) ∧
      TextsOk ((s.write k { s.context k with outcome := some answer.outcome }).go id
        (match answer.outcome with
        | .ok result => .producing k (.locking result)
        | .error err => .producing k (.settingError err))) := by
  have hcall := h.calls id
  rw [hat] at hcall
  obtain ⟨hk, -, -, hone, hnone, hidToken, herror⟩ := hcall
  have hok := h.contexts k hk
  have hg : Grows (s.context k) { s.context k with outcome := some answer.outcome } := by
    refine ⟨rfl, fun _ hi => hi, fun _ he => he, fun o ho => ?_, fun hb => hb⟩
    rw [hnone] at ho
    cases ho
  have hok' : ContextOk { s.context k with outcome := some answer.outcome } (s.removal k) := by
    refine ⟨fun i hi => ?_, fun err he => ?_, hok.broadcast, hok.refreshes, hok.removal⟩
    · exact absurd (hidToken.symm.trans hi) (Option.some_ne_none i).symm
    · exact absurd (herror.symm.trans he) (Option.some_ne_none err).symm
  cases hanswer : answer.outcome with
  | ok result =>
      rw [hanswer] at hg hok'
      exact h.produced htexts hat _ (.locking result) hg hok' ⟨hone, rfl⟩ fun _ _ => ⟨.inr rfl, .inr rfl⟩
  | error err =>
      rw [hanswer] at hg hok'
      refine h.produced htexts hat _ (.settingError err) hg hok' ⟨hone, rfl⟩ fun result houtcome => ?_
      cases houtcome

/-- A statement of a consumer. -/
theorem Sound.advance_consuming (h : Sound s) (htexts : TextsOk s) {c : ConsumerAt}
    (hat : s.call id = .consuming k c) {s' : RefreshState ι} (taken : s.consume id k c = some s') :
    Sound s' ∧ TextsOk s' := by
  have hcall := h.calls id
  rw [hat] at hcall
  obtain ⟨hk, hc⟩ := hcall
  have hok := h.contexts k hk
  have hfree : ∀ k' p, s.call id ≠ .producing k' p := by
    intro k' p e
    rw [hat] at e
    cases e
  have hlock : ∀ locked st, TextsOk ((s.lock k locked).go id st) := by
    intro locked st
    have hw : TextsOk (s.lock k locked) := htexts.write ⟨rfl, rfl, rfl⟩
    exact hw.go_free hfree
  cases c with
  | locking =>
      rw [RefreshState.consume] at taken
      split at taken
      · cases taken
      · obtain rfl := Option.some.inj taken
        exact ⟨(h.lock hk true).go ⟨hk, trivial⟩, hlock _ _⟩
  | logging =>
      rw [RefreshState.consume] at taken
      split at taken
      · obtain rfl := Option.some.inj taken
        exact ⟨h.go trivial, htexts.go_free hfree⟩
      · obtain rfl := Option.some.inj taken
        exact ⟨h.go ⟨hk, trivial⟩, htexts.go_free hfree⟩
  | checking =>
      rw [RefreshState.consume] at taken
      split at taken
      · rename_i hunset
        obtain rfl := Option.some.inj taken
        refine ⟨h.go ⟨hk, ?_⟩, htexts.go_free hfree⟩
        show (s.context k).broadcast = false
        rw [Bool.and_eq_true, Option.isNone_iff_eq_none, Option.isNone_iff_eq_none] at hunset
        refine Bool.eq_false_iff.mpr fun hb => ?_
        exact (hok.broadcast hb).elim (fun hne => hne hunset.1) fun hne => hne hunset.2
      · rename_i hset
        obtain rfl := Option.some.inj taken
        refine ⟨h.go ⟨hk, ?_⟩, htexts.go_free hfree⟩
        show (s.context k).idToken ≠ none ∨ (s.context k).error ≠ none
        rw [Bool.and_eq_true, Option.isNone_iff_eq_none, Option.isNone_iff_eq_none] at hset
        exact not_and_or.mp hset
  | waiting =>
      obtain rfl := Option.some.inj taken
      refine ⟨(h.lock hk false).go ⟨hk, ?_⟩, hlock _ _⟩
      show (Function.update s.context k _ k).broadcast = false
      rw [Function.update_self]
      exact hc
  | parked => cases taken
  | woken =>
      rw [RefreshState.consume] at taken
      split at taken
      · cases taken
      · obtain rfl := Option.some.inj taken
        exact ⟨(h.lock hk true).go ⟨hk, trivial⟩, hlock _ _⟩
  | readingError =>
      obtain rfl := Option.some.inj taken
      refine ⟨h.go ⟨hk, fun he => ?_⟩, htexts.go_free hfree⟩
      exact hc.resolve_right fun hne => hne he
  | unlocking err =>
      obtain rfl := Option.some.inj taken
      cases err with
      | none =>
          refine ⟨(h.lock hk false).go ⟨hk, ?_⟩, hlock _ _⟩
          show ReaderOk (Function.update s.context k _ k) .idTokenString
          rw [Function.update_self]
          exact hok.reader (hc rfl)
      | some err => exact ⟨(h.lock hk false).go trivial, hlock _ _⟩

/-- A call reads what is written. -/
theorem Sound.advance_reading (h : Sound s) (htexts : TextsOk s) {r : ReaderAt}
    (hat : s.call id = .reading k r) (htimely : Timely s (.advance id)) :
    Sound (s.readResult id k r) ∧ TextsOk (s.readResult id k r) := by
  have hcall := h.calls id
  rw [hat] at hcall
  obtain ⟨hk, result, houtcome, hidToken, hread⟩ := hcall
  have hfree : ∀ k' p, s.call id ≠ .producing k' p := by
    intro k' p e
    rw [hat] at e
    cases e
  have hpaid : ∀ owes : ProducerAt ι → Bool,
      (∀ other p, s.call other = .producing k p → owes p = false) →
      ¬ ∃ id', (s.call id').owes owes k := by
    intro owes hnone hex
    obtain ⟨id', ho⟩ := hex
    cases hst : s.call id' with
    | producing k' p =>
        rw [hst] at ho
        obtain ⟨rfl, howed⟩ := ho
        rw [hnone id' p hst] at howed
        exact Bool.noConfusion howed
    | _ =>
        rw [hst] at ho
        exact ho.elim
  simp only [Timely, hat] at htimely
  cases r with
  | idTokenString =>
      refine ⟨h.go ⟨hk, result, houtcome, hidToken, ?_⟩, htexts.go_free hfree⟩
      exact (htexts k result houtcome).1.resolve_right (hpaid _ htimely)
  | refreshToken idTokenString =>
      refine ⟨h.go ⟨hk, result, houtcome, hidToken, hread, ?_⟩, htexts.go_free hfree⟩
      exact (htexts k result houtcome).2.resolve_right (hpaid _ htimely)
  | idToken idTokenString refreshToken =>
      exact ⟨h.go ⟨hk, result, houtcome, hidToken, hread⟩, htexts.go_free hfree⟩

/-- **A step that meets the condition keeps the invariant.** -/
theorem Sound.step (h : Sound s) (htexts : TextsOk s) {i : RefreshStep ι} (htimely : Timely s i)
    {s' : RefreshState ι} (taken : stepRefresh s i = some s') : Sound s' ∧ TextsOk s' := by
  cases i with
  | start id =>
      simp only [stepRefresh] at taken
      split at taken
      · rename_i hfresh
        obtain rfl := Option.some.inj taken
        exact ⟨h.start hfresh, htexts.start hfresh⟩
      · cases taken
  | advance id =>
      simp only [stepRefresh] at taken
      split at taken
      · rename_i k p hat
        refine h.advance_producing htexts hat (fun err hp => ?_) taken
        simp only [Timely, hat, hp] at htimely
        exact htimely
      · rename_i k c hat
        exact h.advance_consuming htexts hat taken
      · rename_i k r hat
        obtain rfl := Option.some.inj taken
        exact h.advance_reading htexts hat htimely
      · cases taken
  | exchange id answer =>
      simp only [stepRefresh] at taken
      split at taken
      · rename_i k hat
        obtain rfl := Option.some.inj taken
        exact h.answered htexts hat answer
      · cases taken
  | remove k =>
      simp only [stepRefresh] at taken
      split at taken
      · rename_i hsleeping
        obtain rfl := Option.some.inj taken
        exact ⟨h.remove hsleeping, htexts.keep (fun _ => .rfl _) fun _ _ _ _ ho => ho⟩
      · cases taken

/-! ## 5. Runs -/

theorem Sound.init (token : Str) : Sound (RefreshState.init ι token) := by
  refine ⟨fun k hk => absurd hk (Nat.not_lt_zero k), fun _ => trivial,
    fun k hk => absurd hk (Nat.not_lt_zero k), fun k hk => ?_, fun _ _ => rfl⟩
  cases hk

theorem TextsOk.init (token : Str) : TextsOk (RefreshState.init ι token) := by
  intro k result houtcome
  cases houtcome

theorem Sound.handsOver (h : Sound s) : HandsOver s := by
  refine ⟨h.entries, fun k hk => ?_, fun id k p hat hp => ?_, ?_, fun id k hat => ?_⟩
  · have hok := h.contexts k hk
    refine ⟨hok.refreshes, fun hdone => hok.removal ?_⟩
    rw [hdone]
    decide
  · have hcall := h.calls id
    rw [hat] at hcall
    refine (h.entries k hcall.1).resolve_right ?_
    rw [hcall.2.2.1]
    decide
  · intro id k idToken idTokenString refreshToken hat
    have hcall := h.calls id
    rw [hat] at hcall
    exact hcall.2
  · have hcall := h.calls id
    rw [hat] at hcall
    exact hcall.2

end Statements

/-- The invariant along a run. -/
theorem sound_of_timely {token : Str} {s : RefreshState ι}
    (h : Reaches (fun s => s = RefreshState.init ι token) Timely stepRefresh s) : Sound s ∧ TextsOk s := by
  refine h.invariant (I := fun s => Sound s ∧ TextsOk s) ?_
    fun s i s' hs htimely taken => hs.1.step hs.2 htimely taken
  intro s hs
  rw [hs]
  exact ⟨.init token, .init token⟩

/-- **Every waiter gets the producer's result** in a run whose steps meet the condition: for any number of
    calls, any order of their statements and any answers of the exchange. -/
theorem handsOver_of_timely (token : Str) (s : RefreshState ι)
    (h : Reaches (fun s => s = RefreshState.init ι token) Timely stepRefresh s) : HandsOver s :=
  (sound_of_timely h).1.handsOver

/-- A consumer finds nothing and parks; the producer refreshes the token and broadcasts; the consumer wakes up and
    returns what the producer returns. -/
theorem handsOver_waiter :
    ∃ parked s : RefreshState Unit, parked.call 1 = .consuming 0 .parked ∧
      Reaches (fun t => t = parked) Timely stepRefresh s ∧ HandsOver s ∧
        s.call 0 = .returned 0 (.ok (some (), str "id", str "next")) ∧
          s.call 1 = .returned 0 (.ok (some (), str "id", str "next")) := by
  have h0 : Reaches (fun s => s = RefreshState.init Unit (str "0123456789")) Timely stepRefresh
      (RefreshState.init Unit (str "0123456789")) := .start rfl
  have hhere {s : RefreshState Unit} (_ : Reaches (fun s => s = RefreshState.init Unit (str "0123456789")) Timely
      stepRefresh s) : Reaches (fun t => t = s) Timely stepRefresh s := .start rfl
  have h1 := Reaches.step (i := RefreshStep.start 0) h0 trivial rfl
  have h2 := Reaches.step (i := RefreshStep.start 1) h1 trivial rfl
  -- the consumer locks, logs, checks and waits
  have h3 := Reaches.step (i := RefreshStep.advance 1) h2 trivial rfl
  have h4 := Reaches.step (i := RefreshStep.advance 1) h3 trivial rfl
  have h5 := Reaches.step (i := RefreshStep.advance 1) h4 trivial rfl
  have h6 := Reaches.step (i := RefreshStep.advance 1) h5 trivial rfl
  -- the producer logs, is answered, takes the lock and gives it back, writes the fields and broadcasts
  have g0 := hhere h6
  have g1 := Reaches.step (i := RefreshStep.advance 0) g0 trivial rfl
  have g2 := Reaches.step (i := RefreshStep.exchange 0 (.refreshed ⟨(), str "id", str "next"⟩)) g1 trivial rfl
  have g3 := Reaches.step (i := RefreshStep.advance 0) g2 trivial rfl
  have g4 := Reaches.step (i := RefreshStep.advance 0) g3 trivial rfl
  have g5 := Reaches.step (i := RefreshStep.advance 0) g4 trivial rfl
  have g6 := Reaches.step (i := RefreshStep.advance 0) g5 trivial rfl
  have g7 := Reaches.step (i := RefreshStep.advance 0) g6 trivial rfl
  have g8 := Reaches.step (i := RefreshStep.advance 0) g7
    (fun other hw => by rcases other with _ | _ | other <;> cases hw) rfl
  -- the consumer wakes up and reads
  have g9 := Reaches.step (i := RefreshStep.advance 1) g8 trivial rfl
  have g10 := Reaches.step (i := RefreshStep.advance 1) g9 trivial rfl
  have g11 := Reaches.step (i := RefreshStep.advance 1) g10 trivial rfl
  have g12 := Reaches.step (i := RefreshStep.advance 1) g11 trivial rfl
  have g13 := Reaches.step (i := RefreshStep.advance 1) g12
    (fun other p hp => by (rcases other with _ | _ | other <;> cases hp); rfl) rfl
  have g14 := Reaches.step (i := RefreshStep.advance 1) g13
    (fun other p hp => by (rcases other with _ | _ | other <;> cases hp); rfl) rfl
  have g15 := Reaches.step (i := RefreshStep.advance 1) g14 trivial rfl
  -- the producer has its entry removed, and reads
  have g16 := Reaches.step (i := RefreshStep.advance 0) g15 trivial rfl
  have g17 := Reaches.step (i := RefreshStep.advance 0) g16
    (fun other p hp => by rcases other with _ | _ | other <;> cases hp) rfl
  have g18 := Reaches.step (i := RefreshStep.advance 0) g17
    (fun other p hp => by rcases other with _ | _ | other <;> cases hp) rfl
  have g19 := Reaches.step (i := RefreshStep.advance 0) g18 trivial rfl
  exact ⟨_, _, rfl, g19, handsOver_of_timely _ _ (h6.trans g19), rfl, rfl⟩

/-- **A consumer that comes between two of the producer's writes gets half of them**; one that stands in
    front of its Wait at the Broadcast is parked forever. -/
theorem handsOver_fails :
    (¬ ∀ s, Reaches (fun s => s = RefreshState.init Unit (str "0123456789")) anyStep stepRefresh s →
        HandsOver s) ∧
      ∃ s, Reaches (fun s => s = RefreshState.init Unit (str "0123456789")) anyStep stepRefresh s ∧
        s.removal 0 = .done ∧ s.call 1 = .consuming 0 .parked := by
  have hinit : Reaches (fun s => s = RefreshState.init Unit (str "0123456789")) anyStep stepRefresh
      (RefreshState.init Unit (str "0123456789")) := .start rfl
  refine ⟨fun h => ?_, ?_⟩
  · -- the producer has written the ID token; the consumer runs from its Lock to its return
    have hrun : runSteps stepRefresh (RefreshState.init Unit (str "0123456789")) [.start 0, .start 1,
      .advance 0, .exchange 0 (.refreshed ⟨(), str "id", str "next"⟩), .advance 0, .advance 0, .advance 0,
      .advance 1, .advance 1, .advance 1, .advance 1, .advance 1, .advance 1, .advance 1, .advance 1] =
        some _ := rfl
    obtain ⟨result, houtcome, -, hidTokenString, -⟩ :=
      (h _ (hinit.run hrun)).complete 1 0 (some ()) [] [] rfl
    cases houtcome
    cases hidTokenString
  · -- the consumer has found nothing; the producer fails, broadcasts and goes; the consumer waits
    have hrun : runSteps stepRefresh (RefreshState.init Unit (str "0123456789")) [.start 0, .start 1,
      .advance 1, .advance 1, .advance 1, .advance 0, .exchange 0 .noIDToken, .advance 0, .advance 0,
      .advance 0, .remove 0, .advance 1] = some _ := rfl
    exact ⟨_, hinit.run hrun, rfl, rfl⟩

end Kalm
