/-
  File:      Kalm/Pods/Registry.lean
  Subject:   THE SESSION REGISTRY of a connection: the entry of a pod is its last session.

  * `Exact` -- the property, of a state: what is registered, what is stopped;
  * `OwnCleanup` -- the condition on a step: a session that cleans up does not meet the entry of another,
    and the namespaces that are named are namespaces;
  * `Registered` -- the invariant, by the keys of the maps; two pods have two keys (`podKey_inj`);
  * `exact_of_own` -- the states reached by such steps have the property;
  * `exact_fails` -- the clean-up of a replaced session deletes the entry of the one that replaced it.
-/
import Kalm.Pods.Socket

namespace Kalm

open Runs

/-! ## 1. The property -/

/-- The session is the last one that was started for the pod. -/
def Socket.Latest (s : Socket) (ns podName : Str) (id : Nat) : Prop :=
  id < s.started ∧ (s.session id).request.ns = ns ∧ (s.session id).request.podName = podName ∧
    ∀ later < s.started, id < later →
      ¬ ((s.session later).request.ns = ns ∧ (s.session later).request.podName = podName)

/-- **The registry is exact**: an entry of a pod is its last session, a session that runs and was neither
    ended nor replaced is registered, and one that was ended or replaced, or whose connection is closed,
    has been stopped. -/
structure Exact (s : Socket) : Prop where
  latest : ∀ ns podName id, underscore ∉ ns → s.podRegistrations (podKey ns podName) = some id →
    s.Latest ns podName id
  registered : ∀ ns podName id, s.Latest ns podName id → (s.session id).phase = .running →
    (s.session id).ended = false → s.podRegistrations (podKey ns podName) = some id
  stopped : ∀ ns podName id, id < s.started → (s.session id).request.ns = ns →
    (s.session id).request.podName = podName → (s.session id).phase = .running →
    ((s.session id).ended = true ∨ ¬ s.Latest ns podName id) → (s.session id).cancelled = true
  closed : s.ctxDone = true → ∀ id < s.started, (s.session id).cancelled = true
  shells : s.kind = .exec → s.terminalSessions = s.podRegistrations

/-- The steps that meet the condition. -/
def OwnCleanup (s : Socket) : SocketStep → Prop
  | .handle _ => ∀ m, s.handler = .handling m → underscore ∉ m.ns
  | .cleanup id => ∀ other, s.podRegistrations (s.session id).request.key = some other → other = id
  | _ => True

/-! ## 2. Keys -/

/-- **Two pods have two keys.** -/
theorem podKey_inj {ns₁ ns₂ podName₁ podName₂ : Str} (h₁ : underscore ∉ ns₁) (h₂ : underscore ∉ ns₂)
    (h : podKey ns₁ podName₁ = podKey ns₂ podName₂) : ns₁ = ns₂ ∧ podName₁ = podName₂ := by
  have htake : ∀ {ns : Str}, underscore ∉ ns → ∀ podName,
      (podKey ns podName).takeWhile (· ≠ underscore) = ns := by
    intro ns hns podName
    have hsep : podKey ns podName = ns ++ underscore :: underscore :: underscore :: podName := by
      rw [podKey, List.append_assoc]
      rfl
    rw [hsep, List.takeWhile_append_of_pos]
    · simp
    · intro b hb
      refine decide_eq_true ?_
      rintro rfl
      exact hns hb
  have hns : ns₁ = ns₂ := by rw [← htake h₁ podName₁, h, htake h₂ podName₂]
  subst hns
  exact ⟨rfl, List.append_cancel_left h⟩

/-! ## 3. The invariant -/

/-- Another session of the same key was started later. -/
def Socket.Replaced (s : Socket) (id : Nat) : Prop :=
  ∃ later < s.started, id < later ∧ (s.session later).request.key = (s.session id).request.key

/-- The property, by the keys of the maps. -/
structure Registered (s : Socket) : Prop where
  plain : ∀ id < s.started, underscore ∉ (s.session id).request.ns
  entry : ∀ key id, s.podRegistrations key = some id →
    id < s.started ∧ (s.session id).request.key = key ∧ ¬ s.Replaced id
  registered : ∀ id < s.started, ¬ s.Replaced id → (s.session id).phase = .running →
    (s.session id).ended = false → s.podRegistrations (s.session id).request.key = some id
  stopped : ∀ id < s.started, (s.session id).phase = .running →
    ((s.session id).ended = true ∨ s.Replaced id) → (s.session id).cancelled = true
  closed : s.ctxDone = true → ∀ id < s.started, (s.session id).cancelled = true
  shells : s.kind = .exec → s.terminalSessions = s.podRegistrations

section Keep

variable {json : Unmarshal} {s s' : Socket}

/-- A running session that is not stopped is registered. -/
theorem Registered.of_running (h : Registered s) {id : Nat} (hid : id < s.started)
    (hrunning : (s.session id).phase = .running) :
    s.podRegistrations (s.session id).request.key = some id ∨ (s.session id).cancelled = true := by
  by_cases hstopped : (s.session id).ended = true ∨ s.Replaced id
  · exact .inr (h.stopped id hid hrunning hstopped)
  · obtain ⟨hended, hlast⟩ := not_or.mp hstopped
    exact .inl (h.registered id hid hlast hrunning (Bool.eq_false_iff.mpr hended))

/-- The step starts no session and touches no map; a session keeps its request, and does not run again. -/
structure SameEntries (s s' : Socket) : Prop where
  kind : s'.kind = s.kind
  started : s'.started = s.started
  podRegistrations : s'.podRegistrations = s.podRegistrations
  terminalSessions : s'.terminalSessions = s.terminalSessions
  request : ∀ id, (s'.session id).request = (s.session id).request
  ended : ∀ id, (s'.session id).ended = (s.session id).ended
  phase : ∀ id, (s'.session id).phase = .running → (s.session id).phase = .running
  cancelled : ∀ id, (s.session id).cancelled = true → (s'.session id).cancelled = true
  closed : s'.ctxDone = true → s.ctxDone = true ∨ ∀ id, (s'.session id).cancelled = true

theorem Registered.of_same (h : Registered s) (hs : SameEntries s s') : Registered s' := by
  have hreplaced : ∀ id, s'.Replaced id ↔ s.Replaced id := by
    intro id
    unfold Socket.Replaced
    rw [hs.started]
    simp only [hs.request]
  refine ⟨fun id hid => ?_, fun key id hentry => ?_, fun id hid hlast hrunning hended => ?_,
    fun id hid hrunning hstopped => ?_, fun hdone id hid => ?_, fun hkind => ?_⟩
  · rw [hs.started] at hid
    rw [hs.request]
    exact h.plain id hid
  · rw [hs.podRegistrations] at hentry
    rw [hs.started, hs.request, hreplaced]
    exact h.entry key id hentry
  · rw [hs.started] at hid
    rw [hreplaced] at hlast
    rw [hs.ended] at hended
    rw [hs.podRegistrations, hs.request]
    exact h.registered id hid hlast (hs.phase id hrunning) hended
  · rw [hs.started] at hid
    rw [hs.ended, hreplaced] at hstopped
    exact hs.cancelled id (h.stopped id hid (hs.phase id hrunning) hstopped)
  · rw [hs.started] at hid
    obtain hdone | hall := hs.closed hdone
    · exact hs.cancelled id (h.closed hdone id hid)
    · exact hall id
  · rw [hs.kind] at hkind
    rw [hs.terminalSessions, hs.podRegistrations]
    exact h.shells hkind

/-- A change of nothing but the read loop, the handler, the client and what was received. -/
theorem SameEntries.of_eq (hkind : s'.kind = s.kind) (hstarted : s'.started = s.started)
    (hpod : s'.podRegistrations = s.podRegistrations)
    (hterminal : s'.terminalSessions = s.terminalSessions) (hsession : s'.session = s.session)
    (hdone : s'.ctxDone = s.ctxDone) : SameEntries s s' where
  kind := hkind
  started := hstarted
  podRegistrations := hpod
  terminalSessions := hterminal
  request id := by rw [hsession]
  ended id := by rw [hsession]
  phase id h := by rw [hsession] at h; exact h
  cancelled id h := by rw [hsession]; exact h
  closed h := .inl (hdone ▸ h)

theorem SameEntries.close (s : Socket) : SameEntries s s.close where
  kind := rfl
  started := rfl
  podRegistrations := rfl
  terminalSessions := rfl
  request _ := rfl
  ended _ := rfl
  phase _ h := h
  cancelled _ _ := rfl
  closed _ := .inr fun _ => rfl

/-- A change of sessions that keeps what they are. -/
theorem SameEntries.of_sessions {session : Nat → Session} {handler : HandlerState}
    (hsession : ∀ id, (session id).request = (s.session id).request ∧
      (session id).ended = (s.session id).ended ∧
      ((session id).phase = .running → (s.session id).phase = .running) ∧
      ((s.session id).cancelled = true → (session id).cancelled = true)) :
    SameEntries s { s with session := session, handler := handler } where
  kind := rfl
  started := rfl
  podRegistrations := rfl
  terminalSessions := rfl
  request id := (hsession id).1
  ended id := (hsession id).2.1
  phase id := (hsession id).2.2.1
  cancelled id := (hsession id).2.2.2
  closed := .inl

/-! ### Requests -/

/-- What stopping an entry does to a session. -/
theorem stopOld_cases (s : Socket) (old : Option Nat) (id : Nat) :
    (s.stopOld old id).request = (s.session id).request ∧ (s.stopOld old id).phase = (s.session id).phase ∧
      (s.stopOld old id).ended = (s.session id).ended ∧
      ((s.session id).cancelled = true ∨ old = some id → (s.stopOld old id).cancelled = true) := by
  unfold Socket.stopOld
  cases old with
  | none => exact ⟨rfl, rfl, rfl, fun h => h.resolve_right (Option.some_ne_none id).symm⟩
  | some other =>
      by_cases hid : id = other
      · subst hid
        dsimp only
        rw [Function.update_self]
        exact ⟨rfl, rfl, rfl, fun _ => rfl⟩
      · dsimp only
        rw [Function.update_of_ne hid]
        exact ⟨rfl, rfl, rfl, fun h => h.resolve_right fun e => hid (Option.some.inj e).symm⟩

/-- **A session starts**: it is the last of its key, and the one before it is stopped. -/
theorem Registered.opened {m : WSPodResourceRequest} (h : Registered s) (hm : underscore ∉ m.ns)
    (hkind : s'.kind = s.kind) (hdone : s'.ctxDone = s.ctxDone) (hstarted : s'.started = s.started + 1)
    (hsession : s'.session = (s.openSession m).session)
    (hpod : s'.podRegistrations = Function.update s.podRegistrations m.key (some s.started))
    (hshells : s.kind = .exec → s'.terminalSessions = s'.podRegistrations) : Registered s' := by
  have hnew : s'.session s.started = ⟨m, s.ctxDone, .running, false⟩ := by
    rw [hsession]
    exact Function.update_self _ _ _
  have hold : ∀ id < s.started, s'.session id = s.stopOld (s.podRegistrations m.key) id := by
    intro id hid
    rw [hsession]
    exact Function.update_of_ne (by omega) _ _
  have hrequest : ∀ id < s.started, (s'.session id).request = (s.session id).request := by
    intro id hid
    rw [hold id hid]
    exact (stopOld_cases s _ id).1
  have hcases : ∀ id < s'.started, id = s.started ∨ id < s.started := by
    intro id hid
    omega
  have hlastNew : ¬ s'.Replaced s.started := by
    rintro ⟨later, hlater, hlt, -⟩
    omega
  -- an old session is replaced by the new one, or was replaced before
  have hreplaced : ∀ id < s.started,
      (s'.Replaced id ↔ s.Replaced id ∨ m.key = (s.session id).request.key) := by
    intro id hid
    constructor
    · rintro ⟨later, hlater, hlt, hkey⟩
      rw [hrequest id hid] at hkey
      obtain rfl | hlater := hcases later hlater
      · rw [hnew] at hkey
        exact .inr hkey
      · rw [hrequest later hlater] at hkey
        exact .inl ⟨later, hlater, hlt, hkey⟩
    · rintro (⟨later, hlater, hlt, hkey⟩ | hkey)
      · refine ⟨later, by omega, hlt, ?_⟩
        rw [hrequest later hlater, hrequest id hid]
        exact hkey
      · refine ⟨s.started, by omega, hid, ?_⟩
        rw [hnew, hrequest id hid]
        exact hkey
  refine ⟨fun id hid => ?_, fun key id hentry => ?_, fun id hid hlast hrunning hended => ?_,
    fun id hid hrunning hstopped => ?_, fun hctx id hid => ?_, fun hexec => ?_⟩
  · obtain rfl | hid := hcases id hid
    · rw [hnew]
      exact hm
    · rw [hrequest id hid]
      exact h.plain id hid
  · rw [hpod] at hentry
    by_cases hkey : key = m.key
    · subst hkey
      rw [Function.update_self] at hentry
      obtain rfl := Option.some.inj hentry
      refine ⟨by omega, ?_, hlastNew⟩
      rw [hnew]
    · rw [Function.update_of_ne hkey] at hentry
      obtain ⟨hid, hk, hlast⟩ := h.entry key id hentry
      refine ⟨by omega, (congrArg _ (hrequest id hid)).trans hk, ?_⟩
      rw [hreplaced id hid]
      rintro (hr | hr)
      · exact hlast hr
      · exact hkey (by rw [hr, hk])
  · obtain rfl | hid := hcases id hid
    · rw [hnew, hpod]
      exact Function.update_self _ _ _
    · rw [hreplaced id hid] at hlast
      obtain ⟨hlast, hkey⟩ := not_or.mp hlast
      obtain ⟨hreq, hphase, hend, -⟩ := stopOld_cases s (s.podRegistrations m.key) id
      rw [hold id hid] at hrunning hended ⊢
      rw [hphase] at hrunning
      rw [hend] at hended
      rw [hreq, hpod, Function.update_of_ne (Ne.symm hkey)]
      exact h.registered id hid hlast hrunning hended
  · obtain rfl | hid := hcases id hid
    · rw [hnew] at hstopped
      exact absurd (hstopped.resolve_left Bool.false_ne_true) hlastNew
    · obtain ⟨hreq, hphase, hend, hcancel⟩ := stopOld_cases s (s.podRegistrations m.key) id
      rw [hreplaced id hid] at hstopped
      rw [hold id hid] at hrunning hstopped ⊢
      rw [hphase] at hrunning
      rw [hend] at hstopped
      refine hcancel ?_
      obtain he | hr | hkey := hstopped
      · exact .inl (h.stopped id hid hrunning (.inl he))
      · exact .inl (h.stopped id hid hrunning (.inr hr))
      · rw [hkey]
        exact (h.of_running hid hrunning).symm
  · rw [hdone] at hctx
    obtain rfl | hid := hcases id hid
    · rw [hnew]
      exact hctx
    · rw [hold id hid]
      exact (stopOld_cases s _ id).2.2.2 (.inl (h.closed hctx id hid))
  · rw [hkind] at hexec
    exact hshells hexec

/-- **A request ends a session**: what is registered for its key is stopped, and no longer registered. -/
theorem Registered.ended {m : WSPodResourceRequest} (h : Registered s) (hm : underscore ∉ m.ns) :
    Registered (s.endSession m) := by
  have hsession : ∀ id, ((s.endSession m).session id).request = (s.session id).request ∧
      ((s.endSession m).session id).phase = (s.session id).phase ∧
      (((s.endSession m).session id).ended = true ↔ (s.session id).ended = true ∨
        (s.session id).request.ns = m.ns ∧ (s.session id).request.podName = m.podName) ∧
      ((s.session id).cancelled = true ∨ s.podRegistrations m.key = some id →
        ((s.endSession m).session id).cancelled = true) := by
    intro id
    obtain ⟨hreq, hphase, hend, hcancel⟩ := stopOld_cases s (s.podRegistrations m.key) id
    have hform : (s.endSession m).session id =
        { s.stopOld (s.podRegistrations m.key) id with
          ended := (s.stopOld (s.podRegistrations m.key) id).ended ||
            ((s.stopOld (s.podRegistrations m.key) id).request.ns = m.ns &&
              (s.stopOld (s.podRegistrations m.key) id).request.podName = m.podName) } := by
      unfold Socket.endSession
      cases hp : s.podRegistrations m.key <;> rfl
    rw [hform]
    refine ⟨hreq, hphase, ?_, hcancel⟩
    dsimp only
    rw [hreq, hend]
    simp
  have hstarted : (s.endSession m).started = s.started := by
    unfold Socket.endSession
    split <;> rfl
  have hdone : (s.endSession m).ctxDone = s.ctxDone := by
    unfold Socket.endSession
    split <;> rfl
  have hkind : (s.endSession m).kind = s.kind := by
    unfold Socket.endSession
    split <;> rfl
  have hpod : (s.endSession m).podRegistrations = Function.update s.podRegistrations m.key none := by
    unfold Socket.endSession
    split
    · rename_i hp
      exact (Function.update_eq_self_iff.mpr hp.symm).symm
    · rfl
  have hshells : s.kind = .exec →
      (s.endSession m).terminalSessions = (s.endSession m).podRegistrations := by
    intro hexec
    unfold Socket.endSession
    split
    · exact h.shells hexec
    · show Function.update s.terminalSessions m.key none = Function.update s.podRegistrations m.key none
      rw [h.shells hexec]
  have hreplaced : ∀ id, (s.endSession m).Replaced id ↔ s.Replaced id := by
    intro id
    unfold Socket.Replaced
    rw [hstarted]
    simp only [(hsession _).1]
  refine ⟨fun id hid => ?_, fun key id hentry => ?_, fun id hid hlast hrunning hended => ?_,
    fun id hid hrunning hstopped => ?_, fun hctx id hid => ?_, fun hexec => ?_⟩
  · rw [hstarted] at hid
    rw [(hsession id).1]
    exact h.plain id hid
  · rw [hpod] at hentry
    rw [hstarted, (hsession id).1, hreplaced]
    by_cases hkey : key = m.key
    · subst hkey
      rw [Function.update_self] at hentry
      cases hentry
    · rw [Function.update_of_ne hkey] at hentry
      exact h.entry key id hentry
  · rw [hstarted] at hid
    rw [hreplaced] at hlast
    obtain ⟨hreq, hphase, hend, -⟩ := hsession id
    rw [hphase] at hrunning
    obtain ⟨hnot, hother⟩ := not_or.mp (fun he => by
      rw [hend.mpr he] at hended
      cases hended)
    have hkey : (s.session id).request.key ≠ m.key := fun e =>
      hother (podKey_inj (h.plain id hid) hm e)
    rw [hreq, hpod, Function.update_of_ne hkey]
    exact h.registered id hid hlast hrunning (Bool.eq_false_iff.mpr hnot)
  · rw [hstarted] at hid
    rw [hreplaced] at hstopped
    obtain ⟨-, hphase, hend, hcancel⟩ := hsession id
    rw [hphase] at hrunning
    rw [hend] at hstopped
    refine hcancel ?_
    obtain (he | ⟨hns, hname⟩) | hr := hstopped
    · exact .inl (h.stopped id hid hrunning (.inl he))
    · have hkey : (s.session id).request.key = m.key := by
        rw [WSPodResourceRequest.key, WSPodResourceRequest.key, hns, hname]
      rw [← hkey]
      exact (h.of_running hid hrunning).symm
    · exact .inl (h.stopped id hid hrunning (.inr hr))
  · rw [hstarted] at hid
    rw [hdone] at hctx
    exact (hsession id).2.2.2 (.inl (h.closed hctx id hid))
  · rw [hkind] at hexec
    exact hshells hexec

/-- **A session cleans up its own entry.** -/
theorem Registered.cleaned {id : Nat} (h : Registered s)
    (hown : ∀ other, s.podRegistrations (s.session id).request.key = some other → other = id)
    (hs' : s' = { s.delete (s.session id).request.key with
        cleaning := none
        session := Function.update s.session id
          { s.session id with
            phase := .gone
            cancelled := (s.session id).cancelled || s.kind = .exec } }) : Registered s' := by
  subst hs'
  have hrest : ∀ other, other ≠ id → Function.update s.session id { s.session id with
      phase := .gone
      cancelled := (s.session id).cancelled || s.kind = .exec } other = s.session other :=
    fun other hne => Function.update_of_ne hne _ _
  have hrequest : ∀ other, (Function.update s.session id { s.session id with
      phase := .gone
      cancelled := (s.session id).cancelled || s.kind = .exec } other).request =
        (s.session other).request := by
    intro other
    by_cases hne : other = id
    · rw [hne, Function.update_self]
    · rw [hrest other hne]
  have hreplaced : ∀ other, Socket.Replaced { s.delete (s.session id).request.key with
      cleaning := none
      session := Function.update s.session id { s.session id with
        phase := .gone
        cancelled := (s.session id).cancelled || s.kind = .exec } } other ↔ s.Replaced other := by
    intro other
    unfold Socket.Replaced
    dsimp only [Socket.delete]
    simp only [hrequest]
  -- a session that runs is another one
  have hrun : ∀ other, (Function.update s.session id { s.session id with
      phase := .gone
      cancelled := (s.session id).cancelled || s.kind = .exec } other).phase = .running → other ≠ id := by
    intro other hrunning e
    rw [e, Function.update_self] at hrunning
    cases hrunning
  refine ⟨fun other hother => ?_, fun key other hentry => ?_, fun other hother hlast hrunning hended => ?_,
    fun other hother hrunning hstopped => ?_, fun hctx other hother => ?_, fun hexec => ?_⟩
  · dsimp only
    rw [hrequest]
    exact h.plain other hother
  · dsimp only [Socket.delete] at hentry
    by_cases hkey : key = (s.session id).request.key
    · rw [hkey, Function.update_self] at hentry
      cases hentry
    · rw [Function.update_of_ne hkey] at hentry
      rw [hreplaced]
      dsimp only
      rw [hrequest]
      exact h.entry key other hentry
  · have hne := hrun other hrunning
    dsimp only at hrunning hended ⊢
    rw [hrest other hne] at hrunning hended ⊢
    rw [hreplaced] at hlast
    have hreg := h.registered other hother hlast hrunning hended
    have hkey : (s.session other).request.key ≠ (s.session id).request.key := by
      intro e
      rw [e] at hreg
      exact hne (hown other hreg)
    dsimp only [Socket.delete]
    rw [Function.update_of_ne hkey]
    exact hreg
  · have hne := hrun other hrunning
    rw [hreplaced] at hstopped
    dsimp only at hrunning hstopped ⊢
    rw [hrest other hne] at hrunning hstopped ⊢
    exact h.stopped other hother hrunning hstopped
  · dsimp only
    have hcancelled := h.closed hctx other hother
    by_cases hne : other = id
    · rw [hne] at hcancelled ⊢
      rw [Function.update_self]
      dsimp only
      rw [hcancelled, Bool.true_or]
    · rw [hrest other hne]
      exact hcancelled
  · dsimp only [Socket.delete]
    rw [h.shells hexec]

/-! ### Steps -/

/-- A finished session, and what the handler calls where it returns, touch no entry. -/
theorem Registered.step {i : SocketStep} (h : Registered s) (hown : OwnCleanup s i)
    (taken : stepSocket json s i = some s') : Registered s' := by
  cases i with
  | read message written =>
      obtain ⟨-, rfl⟩ := step_read taken
      cases wsReadMessage json s.manager s.clientInfo message with
      | skipped => exact h
      | replied res clientInfo =>
          cases written with
          | false => exact h.of_same (.close s)
          | true => exact h.of_same (.of_eq rfl rfl rfl rfl rfl rfl)
      | forwarded m => exact h.of_same (.of_eq rfl rfl rfl rfl rfl rfl)
      | panicked => exact h.of_same (.close s)
  | readFails =>
      obtain ⟨-, rfl⟩ := step_readFails taken
      exact h.of_same (.close s)
  | manage manager =>
      obtain rfl := step_manage taken
      exact h.of_same (.of_eq rfl rfl rfl rfl rfl rfl)
  | receive =>
      obtain ⟨m, asked, -, -, rfl⟩ := step_receive taken
      exact h.of_same (.of_eq rfl rfl rfl rfl rfl rfl)
  | handle stream =>
      obtain ⟨m, hm, ⟨-, rfl⟩ | ⟨-, ⟨hkind, rfl⟩ | ⟨hkind, rfl⟩⟩⟩ := step_handle taken
      · exact h.of_same (.of_eq rfl rfl rfl rfl rfl rfl)
      · have hended : Registered { s.endSession m with handler := .selecting } :=
          (h.ended (hown m hm)).of_same (.of_eq rfl rfl rfl rfl rfl rfl)
        unfold Socket.handleLogRequest
        split
        · cases stream with
          | noClient => exact h.of_same (.of_eq rfl rfl rfl rfl rfl rfl)
          | failed => exact h.of_same (.of_eq rfl rfl rfl rfl rfl rfl)
          | opened =>
              refine h.opened (hown m hm) rfl rfl rfl rfl rfl fun hexec => ?_
              rw [hkind] at hexec
              cases hexec
        · exact hended
      · have hended : Registered { s.endSession m with handler := .selecting } :=
          (h.ended (hown m hm)).of_same (.of_eq rfl rfl rfl rfl rfl rfl)
        have hhand : ∀ offer, Registered (s.handTo m.key offer) := by
          intro offer
          unfold Socket.handTo
          split <;> exact h.of_same (.of_eq rfl rfl rfl rfl rfl rfl)
        unfold Socket.handleExecRequest
        split
        · refine h.opened (hown m hm) rfl rfl rfl rfl rfl fun _ => ?_
          show Function.update s.terminalSessions m.key _ = Function.update s.podRegistrations m.key _
          rw [h.shells hkind]
        · exact hended
        · exact hhand _
        · exact hhand _
        · exact h.of_same (.of_eq rfl rfl rfl rfl rfl rfl)
  | take =>
      obtain ⟨_, _, _, rfl⟩ := step_take taken
      exact h.of_same (.of_eq rfl rfl rfl rfl rfl rfl)
  | finish id =>
      obtain ⟨-, hrunning, rfl⟩ := step_finish taken
      refine h.of_same (.of_sessions fun other => ?_)
      by_cases he : other = id
      · rw [he, Function.update_self]
        exact ⟨rfl, rfl, fun _ => hrunning, fun hc => hc⟩
      · rw [Function.update_of_ne he]
        exact ⟨rfl, rfl, fun hr => hr, fun hc => hc⟩
  | cleanup id =>
      obtain ⟨-, -, rfl⟩ := step_cleanup taken
      exact h.cleaned hown rfl
  | delete id =>
      obtain ⟨-, rfl⟩ | ⟨-, -, rfl⟩ := step_delete taken
      · exact h.of_same (.of_eq rfl rfl rfl rfl rfl rfl)
      · exact h.of_same (.of_eq rfl rfl rfl rfl rfl rfl)
  | deleteNext id =>
      obtain rfl := step_deleteNext taken
      exact h.of_same (.of_eq rfl rfl rfl rfl rfl rfl)
  | handlerReturns =>
      obtain ⟨-, rfl⟩ | ⟨-, rfl⟩ := step_handlerReturns taken
      · exact h.of_same (.of_eq rfl rfl rfl rfl rfl rfl)
      · refine h.of_same (.of_sessions fun id => ?_)
        split
        · exact ⟨rfl, rfl, fun hr => hr, fun _ => rfl⟩
        · exact ⟨rfl, rfl, fun hr => hr, fun hc => hc⟩

theorem Registered.prepared {kind : SocketKind} (h : Prepared kind s) : Registered s := by
  have hnone : ∀ id, ¬ id < s.started := by
    rw [h.started]
    exact Nat.not_lt_zero
  refine ⟨fun id hid => absurd hid (hnone id), fun key id he => ?_, fun id hid => absurd hid (hnone id),
    fun id hid => absurd hid (hnone id), fun _ id hid => absurd hid (hnone id), fun _ => ?_⟩
  · rw [h.podRegistrations] at he
    cases he
  · rw [h.terminalSessions, h.podRegistrations]

/-! ### From keys to pods -/

/-- Among sessions of namespaces, the last one of a pod is the one that no session of its key replaced. -/
theorem Registered.latest_iff (h : Registered s) {id : Nat} (hid : id < s.started) {ns podName : Str}
    (hns : (s.session id).request.ns = ns) (hname : (s.session id).request.podName = podName) :
    s.Latest ns podName id ↔ ¬ s.Replaced id := by
  subst hns hname
  constructor
  · rintro ⟨-, -, -, hlast⟩ ⟨later, hlater, hlt, hkey⟩
    exact hlast later hlater hlt (podKey_inj (h.plain later hlater) (h.plain id hid) hkey)
  · refine fun hlast => ⟨hid, rfl, rfl, fun later hlater hlt ⟨hns, hname⟩ => hlast ⟨later, hlater, hlt, ?_⟩⟩
    rw [WSPodResourceRequest.key, hns, hname]
    rfl

theorem Registered.exact (h : Registered s) : Exact s where
  latest := by
    intro ns podName id hplain hentry
    obtain ⟨hid, hkey, hlast⟩ := h.entry _ id hentry
    obtain ⟨hns, hname⟩ := podKey_inj (h.plain id hid) hplain hkey
    exact (h.latest_iff hid hns hname).mpr hlast
  registered := by
    intro ns podName id hlatest hrunning hended
    have ⟨hid, hns, hname, _⟩ := hlatest
    have hlast := (h.latest_iff hid hns hname).mp hlatest
    have hreg := h.registered id hid hlast hrunning hended
    rw [WSPodResourceRequest.key, hns, hname] at hreg
    exact hreg
  stopped := by
    intro ns podName id hid hns hname hrunning hstopped
    rw [h.latest_iff hid hns hname, not_not] at hstopped
    exact h.stopped id hid hrunning hstopped
  closed := h.closed
  shells := h.shells

end Keep

/-! ## 4. Runs -/

/-- **The registry is exact** in a run whose steps meet the condition: for any requests about any pods and
    any order in which the sessions return and clean up. -/
theorem exact_of_own (json : Unmarshal) (kind : SocketKind) (s : Socket)
    (h : Reaches (Prepared kind) OwnCleanup (stepSocket json) s) : Exact s := by
  refine Registered.exact (h.invariant (I := Registered) (fun _ => .prepared) ?_)
  exact fun s i s' hs hown taken => hs.step hown taken

/-! ### Two shells of one pod -/

/-- A second shell of the pod web replaces the first one, and one of the pod db is started. The second one returns and
    cleans up, and then the first one. -/
theorem exact_shellSocket : ∃ s, Exact s ∧ s.started = 3 ∧ s.podRegistrations (podKey (str "shop") (str "web")) = none ∧
    s.podRegistrations (podKey (str "shop") (str "db")) = some 2 ∧ (s.session 0).phase = .gone ∧
      (s.session 1).phase = .gone ∧ (s.session 2).phase = .running := by
  have hstarts {s : Socket} {m : WSPodResourceRequest} (hhandling : s.handler = .handling m)
      (hplain : underscore ∉ m.ns) : OwnCleanup s (.handle .opened) := by
    intro m' hm
    rw [hhandling] at hm
    cases hm
    exact hplain
  have hshell : Reaches (Prepared .exec) OwnCleanup (stepSocket shellJson) shellSocket :=
    reaches_shellSocket (fun _ => ⟨trivial, trivial⟩) (hstarts rfl (by decide))
  have hpassed : Reaches (Prepared .exec) OwnCleanup (stepSocket shellJson)
      (shellSocket.passed (shellRequest .execStartSession [])) :=
    reaches_passed hshell (fun _ => ⟨trivial, trivial⟩) rfl rfl rfl forwarded_start
  have hagain := Reaches.step (i := SocketStep.handle .opened) hpassed (hstarts rfl (by decide)) rfl
  have hpassed := reaches_passed hagain (fun _ => ⟨trivial, trivial⟩) rfl rfl rfl forwarded_db
  have hdb := Reaches.step (i := SocketStep.handle .opened) hpassed (hstarts rfl (by decide)) rfl
  have hown {s : Socket} {id : Nat} (hentry : s.podRegistrations (s.session id).request.key = some id ∨
      s.podRegistrations (s.session id).request.key = none) : OwnCleanup s (.cleanup id) := by
    intro other ho
    obtain h | h := hentry
    · exact Option.some.inj (ho.symm.trans h)
    · rw [h] at ho
      cases ho
  -- the second shell
  have h1 := Reaches.step (i := SocketStep.finish 1) hdb trivial rfl
  have h2 := Reaches.step (i := SocketStep.delete 1) h1 trivial rfl
  have h3 := Reaches.step (i := SocketStep.deleteNext 1) h2 trivial rfl
  have h4 := Reaches.step (i := SocketStep.cleanup 1) h3 (hown (.inl rfl)) rfl
  -- the first one finds no entry
  have h5 := Reaches.step (i := SocketStep.finish 0) h4 trivial rfl
  have h6 := Reaches.step (i := SocketStep.delete 0) h5 trivial rfl
  have h7 := Reaches.step (i := SocketStep.deleteNext 0) h6 trivial rfl
  have h8 := Reaches.step (i := SocketStep.cleanup 0) h7 (hown (.inr rfl)) rfl
  exact ⟨_, exact_of_own shellJson .exec _ h8, rfl, rfl, rfl, rfl, rfl, rfl⟩

/-- **A session that was replaced deletes the entry of its successor** where it cleans up: the successor runs
    on, and no request can reach it. -/
theorem exact_fails :
    ¬ ∀ (json : Unmarshal) (kind : SocketKind) (s : Socket),
        Reaches (Prepared kind) anyStep (stepSocket json) s → Exact s := by
  intro h
  have hshell : Reaches (Prepared .exec) anyStep (stepSocket shellJson) shellSocket :=
    reaches_shellSocket (fun _ => ⟨trivial, trivial⟩) trivial
  have hpassed : Reaches (Prepared .exec) anyStep (stepSocket shellJson)
      (shellSocket.passed (shellRequest .execStartSession [])) :=
    reaches_passed hshell (fun _ => ⟨trivial, trivial⟩) rfl rfl rfl forwarded_start
  have hrun : Runs.runSteps (stepSocket shellJson) (shellSocket.passed (shellRequest .execStartSession []))
      [.handle .opened, .finish 0, .delete 0, .deleteNext 0, .cleanup 0] = some _ := rfl
  have hentry := (h shellJson .exec _ (hpassed.run hrun)).registered (str "shop") (str "web") 1 ?_ rfl rfl
  · cases hentry
  · refine ⟨Nat.lt_succ_self 1, rfl, rfl, fun later hlater hlt => ?_⟩
    have hlater : later < 2 := hlater
    omega

end Kalm
