/-
  File:      Kalm/Pods/Waits.lean
  Subject:   THE REQUEST HANDLER AND ITS SESSIONS: it does not panic, it does not wait for a session that
             has ended, and what reaches it was permitted.

  * `Unwedged` -- the property, of a state;
  * `Prompt` -- the condition on a step: a size that is handled has a comma, the session something is
    handed to still runs, and it does not end while the handler waits; nobody comes to a map that a session is
    deleting from;
  * `unwedged_of_prompt` -- the states reached by such steps have the property;
  * `authorized_of_reaches` -- that a request was permitted needs no condition;
  * `unwedged_fails` -- a size without a comma panics; a request that comes while a log cleans up kills the process.
-/
import Kalm.Pods.Socket

namespace Kalm

open Runs

/-! ## 1. The property -/

/-- The request was permitted for the client of the connection. -/
def Receipt.Authorized (r : Receipt) : Prop :=
  match r.request.type with
  | .subscribePodLog => ∃ client, r.clientInfo = some client ∧
      canView r.asked client r.request.ns (podObject r.request.podName) = some true
  | .execStartSession | .execStdin | .execResize => ∃ client, r.clientInfo = some client ∧
      canEdit r.asked client r.request.ns (podObject r.request.podName) = some true
  | _ => True

/-- **No client crashes or wedges the server.** -/
structure Unwedged (s : Socket) : Prop where
  alive : s.crashed = false
  notPanicked : s.handler ≠ .panicked
  waits : ∀ id offer, s.handler = .handing id offer → (s.session id).phase = .running
  authorized : ∀ r ∈ s.received, r.Authorized

/-- The session that is registered for the key runs. -/
def Socket.Runs (s : Socket) (key : Str) : Prop :=
  ∀ id, s.terminalSessions key = some id → (s.session id).phase = .running

/-- The handler takes its request in time, and the request can be handled. -/
def Socket.Takes (s : Socket) (stream : LogStream) (m : WSPodResourceRequest) : Prop :=
  match s.kind, m.type with
  | .log, .subscribePodLog => stream ≠ .noClient
  | .exec, .execStdin => s.Runs m.key
  | .exec, .execResize => s.Runs m.key ∧ (s.terminalSessions m.key ≠ none → comma ∈ m.data)
  | _, _ => True

/-- The steps that meet the condition. -/
def Prompt (s : Socket) : SocketStep → Prop
  | .handle stream => ∀ m, s.handler = .handling m →
      s.Takes stream m ∧ ∀ map, s.enters stream m = some map → s.deletes map = false
  | .finish id => ∀ offer, s.handler ≠ .handing id offer
  | .delete _ => s.kind = .log → s.cleaning = none
  | .handlerReturns => s.deletes .podRegistrations = false
  | _ => True

/-! ## 2. Permission -/

section Permission

variable {json : Unmarshal} {s s' : Socket}

/-- The check of the read loop decides. -/
theorem authorized_iff {m : WSPodResourceRequest} {client : ClientInfo} {P : PolicySet} :
    (⟨m, some client, P⟩ : Receipt).Authorized ↔
      ∀ allowed denial, m.check P client = some (allowed, denial) → allowed = some true := by
  unfold Receipt.Authorized WSPodResourceRequest.check
  cases m.type <;> simp

theorem wsReadAuth_ne_forwarded {manager : WSManager} {clientInfo : Option ClientInfo} {message : Str}
    {m : WSPodResourceRequest} : wsReadAuth json manager clientInfo message ≠ .forwarded m := by
  intro h
  unfold wsReadAuth at h
  split at h
  · cases h
  · split at h
    · cases h
    · split at h <;> cases h

/-- What the read loop passes on is a request about a pod. -/
theorem podResource_of_forwarded {manager : WSManager} {clientInfo : Option ClientInfo} {message : Str}
    {m : WSPodResourceRequest} (h : wsReadMessage json manager clientInfo message = .forwarded m) :
    wsReadPodResource json manager clientInfo message = .forwarded m := by
  unfold wsReadMessage at h
  split at h
  · cases h
  · split at h
    · exact absurd h wsReadAuth_ne_forwarded
    all_goals first | exact h | cases h

/-- **What the read loop passes on was permitted.** -/
theorem authorized_of_forwarded {manager : WSManager} {clientInfo : Option ClientInfo} {message : Str}
    {m : WSPodResourceRequest} (h : wsReadMessage json manager clientInfo message = .forwarded m) :
    (⟨m, clientInfo, manager.policies⟩ : Receipt).Authorized := by
  have h := podResource_of_forwarded h
  unfold wsReadPodResource at h
  split at h
  · cases h
  · rename_i client
    split at h
    · cases h
    · split at h
      · rename_i hcheck
        cases h
        refine authorized_iff.mpr fun allowed denial hsome => ?_
        rw [hcheck] at hsome
        cases hsome
      · rename_i hcheck
        split at h
        · cases h
        · cases h
        · cases h
          refine authorized_iff.mpr fun allowed denial hsome => ?_
          rw [hcheck] at hsome
          cases hsome
          rfl

/-- What has reached the handler, and what is on its way, was permitted. -/
structure Admissible (s : Socket) : Prop where
  received : ∀ r ∈ s.received, r.Authorized
  sending : ∀ m asked, s.reader = .sending m asked →
    (⟨m, s.clientInfo, asked⟩ : Receipt).Authorized

/-- A request that is handled changes neither what was received nor what is on its way. -/
theorem handled_frame (s : Socket) (m : WSPodResourceRequest) (stream : LogStream) :
    ((s.handleLogRequest m stream).received = s.received ∧
        (s.handleLogRequest m stream).reader = s.reader ∧
        (s.handleLogRequest m stream).clientInfo = s.clientInfo) ∧
      (s.handleExecRequest m).received = s.received ∧ (s.handleExecRequest m).reader = s.reader ∧
        (s.handleExecRequest m).clientInfo = s.clientInfo := by
  have hend : (s.endSession m).received = s.received ∧ (s.endSession m).reader = s.reader ∧
      (s.endSession m).clientInfo = s.clientInfo := by
    unfold Socket.endSession
    split <;> exact ⟨rfl, rfl, rfl⟩
  have hhand : ∀ offer, (s.handTo m.key offer).received = s.received ∧
      (s.handTo m.key offer).reader = s.reader ∧ (s.handTo m.key offer).clientInfo = s.clientInfo := by
    intro offer
    unfold Socket.handTo
    split <;> exact ⟨rfl, rfl, rfl⟩
  constructor
  · unfold Socket.handleLogRequest
    split
    · split <;> exact ⟨rfl, rfl, rfl⟩
    · exact hend
  · unfold Socket.handleExecRequest
    split
    · exact ⟨rfl, rfl, rfl⟩
    · exact hend
    · exact hhand _
    · exact hhand _
    · exact ⟨rfl, rfl, rfl⟩

theorem Admissible.step {i : SocketStep} (h : Admissible s) (taken : stepSocket json s i = some s') :
    Admissible s' := by
  obtain ⟨received, sending⟩ := h
  cases i with
  | read message written =>
      obtain ⟨hreading, rfl⟩ := step_read taken
      have hclose : Admissible s.close := ⟨received, fun m asked hs => by cases hs⟩
      cases hr : wsReadMessage json s.manager s.clientInfo message with
      | skipped => exact ⟨received, sending⟩
      | replied res clientInfo =>
          cases written with
          | false => exact hclose
          | true =>
              refine ⟨received, fun m asked hs => ?_⟩
              have hs : s.reader = .sending m asked := hs
              rw [hreading] at hs
              cases hs
      | forwarded m =>
          refine ⟨received, fun m' asked hs => ?_⟩
          cases hs
          exact authorized_of_forwarded hr
      | panicked => exact hclose
  | readFails =>
      obtain ⟨-, rfl⟩ := step_readFails taken
      exact ⟨received, fun m asked hs => by cases hs⟩
  | manage manager =>
      obtain rfl := step_manage taken
      exact ⟨received, sending⟩
  | receive =>
      obtain ⟨m, asked, hs, -, rfl⟩ := step_receive taken
      refine ⟨fun r hr => ?_, fun m asked hs => by cases hs⟩
      rcases List.mem_append.mp hr with hr | hr
      · exact received r hr
      · rw [List.mem_singleton.mp hr]
        exact sending m asked hs
  | handle stream =>
      obtain ⟨m, -, ⟨-, rfl⟩ | ⟨-, hs | hs⟩⟩ := step_handle taken
      · exact ⟨received, sending⟩
      · obtain ⟨-, rfl⟩ := hs
        obtain ⟨⟨hr, hreader, hclient⟩, -⟩ := handled_frame s m stream
        refine ⟨by rw [hr]; exact received, ?_⟩
        rw [hreader, hclient]
        exact sending
      · obtain ⟨-, rfl⟩ := hs
        obtain ⟨-, hr, hreader, hclient⟩ := handled_frame s m stream
        refine ⟨by rw [hr]; exact received, ?_⟩
        rw [hreader, hclient]
        exact sending
  | take =>
      obtain ⟨_, _, _, rfl⟩ := step_take taken
      exact ⟨received, sending⟩
  | finish id =>
      obtain ⟨-, -, rfl⟩ := step_finish taken
      exact ⟨received, sending⟩
  | cleanup id =>
      obtain ⟨-, -, rfl⟩ := step_cleanup taken
      exact ⟨received, sending⟩
  | delete id =>
      obtain ⟨-, rfl⟩ | ⟨-, -, rfl⟩ := step_delete taken
      · exact ⟨received, sending⟩
      · exact ⟨received, sending⟩
  | deleteNext id =>
      obtain rfl := step_deleteNext taken
      exact ⟨received, sending⟩
  | handlerReturns =>
      obtain ⟨-, rfl⟩ | ⟨-, rfl⟩ := step_handlerReturns taken
      · exact ⟨received, sending⟩
      · exact ⟨received, sending⟩

theorem Admissible.prepared {kind : SocketKind} (h : Prepared kind s) : Admissible s := by
  constructor
  · rw [h.received]
    exact fun r hr => absurd hr List.not_mem_nil
  · rw [h.reader]
    exact fun m asked hs => by cases hs

/-- **Whatever reaches the handler was permitted**, in every order of the steps. -/
theorem authorized_of_reaches {kind : SocketKind} {meets : Socket → SocketStep → Prop}
    (h : Reaches (Prepared kind) meets (stepSocket json) s) : ∀ r ∈ s.received, r.Authorized :=
  (h.invariant (I := Admissible) (fun _ => .prepared) fun _ _ _ hs _ taken => hs.step taken).received

end Permission

/-! ## 3. Waiting -/

section Waiting

variable {json : Unmarshal} {s s' : Socket}

/-- What the handler is at does not hang. -/
structure Live (s : Socket) : Prop where
  alive : s.crashed = false
  notPanicked : s.handler ≠ .panicked
  waits : ∀ id offer, s.handler = .handing id offer → (s.session id).phase = .running

/-- At its select it waits for no session. -/
theorem Live.of_selecting (halive : s.crashed = false) (h : s.handler = .selecting) : Live s := by
  refine ⟨halive, ?_, ?_⟩
  · rw [h]
    exact fun he => HandlerState.noConfusion he
  · rw [h]
    exact fun id offer he => HandlerState.noConfusion he

/-- Where the sessions run on and the handler is where it was, it waits for one that runs. -/
theorem Live.of_same (h : Live s) (halive : s'.crashed = s.crashed) (hhandler : s'.handler = s.handler)
    (hphase : ∀ id offer, s.handler = .handing id offer → (s.session id).phase = .running →
      (s'.session id).phase = .running) : Live s' := by
  refine ⟨halive.trans h.alive, ?_, fun id offer he => ?_⟩
  · rw [hhandler]
    exact h.notPanicked
  · rw [hhandler] at he
    exact hphase id offer he (h.waits id offer he)

theorem Live.handTo {key : Str} {offer : Nat → HandlerState} (halive : s.crashed = false) (hruns : s.Runs key)
    (hoffer : ∀ id, s.terminalSessions key = some id → ∃ o, offer id = .handing id o) :
    Live (s.handTo key offer) := by
  unfold Socket.handTo
  split
  · exact .of_selecting halive rfl
  · rename_i id hid
    obtain ⟨o, ho⟩ := hoffer id hid
    rw [ho]
    refine ⟨halive, fun he => HandlerState.noConfusion he, fun id' o' he => ?_⟩
    cases he
    exact hruns id hid

theorem Live.handled {m : WSPodResourceRequest} {stream : LogStream} (halive : s.crashed = false)
    (htakes : s.Takes stream m) :
    (s.kind = .log → Live (s.handleLogRequest m stream)) ∧
      (s.kind = .exec → Live (s.handleExecRequest m)) := by
  have hended : Live { s.endSession m with handler := .selecting } := by
    refine .of_selecting ?_ rfl
    unfold Socket.endSession
    split <;> exact halive
  constructor
  · intro hkind
    unfold Socket.handleLogRequest
    split
    · rename_i htype
      unfold Socket.Takes at htakes
      rw [hkind, htype] at htakes
      cases stream with
      | noClient => exact absurd rfl htakes
      | failed => exact .of_selecting halive rfl
      | opened => exact .of_selecting halive rfl
    · exact hended
  · intro hkind
    unfold Socket.Takes at htakes
    unfold Socket.handleExecRequest
    split
    · exact .of_selecting halive rfl
    · exact hended
    · rename_i htype
      rw [hkind, htype] at htakes
      exact .handTo halive htakes fun id _ => ⟨_, rfl⟩
    · rename_i htype
      rw [hkind, htype] at htakes
      refine .handTo halive htakes.1 fun id hid => ?_
      have hcomma : comma ∈ m.data := htakes.2 (by rw [hid]; exact Option.some_ne_none id)
      obtain ⟨width, height, rest, hsplit⟩ := Fields.exists_splitOn_of_mem hcomma
      rw [hsplit]
      exact ⟨_, rfl⟩
    · exact .of_selecting halive rfl

theorem Live.step {i : SocketStep} (h : Live s) (hprompt : Prompt s i)
    (taken : stepSocket json s i = some s') : Live s' := by
  cases i with
  | read message written =>
      obtain ⟨-, rfl⟩ := step_read taken
      cases wsReadMessage json s.manager s.clientInfo message with
      | skipped => exact h
      | replied res clientInfo =>
          cases written with
          | false => exact h.of_same rfl rfl fun _ _ _ hr => hr
          | true => exact h.of_same rfl rfl fun _ _ _ hr => hr
      | forwarded m => exact h.of_same rfl rfl fun _ _ _ hr => hr
      | panicked => exact h.of_same rfl rfl fun _ _ _ hr => hr
  | readFails =>
      obtain ⟨-, rfl⟩ := step_readFails taken
      exact h.of_same rfl rfl fun _ _ _ hr => hr
  | manage manager =>
      obtain rfl := step_manage taken
      exact h.of_same rfl rfl fun _ _ _ hr => hr
  | receive =>
      obtain ⟨m, asked, -, -, rfl⟩ := step_receive taken
      exact ⟨h.alive, fun he => HandlerState.noConfusion he, fun id offer he => HandlerState.noConfusion he⟩
  | handle stream =>
      obtain ⟨m, hm, ⟨hdeletes, -⟩ | ⟨-, ⟨hkind, rfl⟩ | ⟨hkind, rfl⟩⟩⟩ := step_handle taken
      · cases hmap : s.enters stream m with
        | none =>
            rw [hmap] at hdeletes
            cases hdeletes
        | some map =>
            rw [hmap, Option.any_some, (hprompt m hm).2 map hmap] at hdeletes
            cases hdeletes
      · exact (Live.handled h.alive (hprompt m hm).1).1 hkind
      · exact (Live.handled h.alive (hprompt m hm).1).2 hkind
  | take =>
      obtain ⟨_, _, _, rfl⟩ := step_take taken
      exact .of_selecting h.alive rfl
  | finish id =>
      obtain ⟨-, -, rfl⟩ := step_finish taken
      refine h.of_same rfl rfl fun id' offer he hr => ?_
      have hne : id' ≠ id := fun e => hprompt offer (by rw [← e]; exact he)
      show (Function.update s.session id _ id').phase = .running
      rw [Function.update_of_ne hne]
      exact hr
  | cleanup id =>
      obtain ⟨-, hfinished, rfl⟩ := step_cleanup taken
      refine h.of_same rfl rfl fun id' offer _ hr => ?_
      have hne : id' ≠ id := by
        intro e
        rw [e, hfinished] at hr
        cases hr
      show (Function.update s.session id _ id').phase = .running
      rw [Function.update_of_ne hne]
      exact hr
  | delete id =>
      obtain ⟨-, rfl⟩ | ⟨hkind, hcleaning, -⟩ := step_delete taken
      · exact h.of_same rfl rfl fun _ _ _ hr => hr
      · exact absurd (hprompt hkind) hcleaning
  | deleteNext id =>
      obtain rfl := step_deleteNext taken
      exact h.of_same rfl rfl fun _ _ _ hr => hr
  | handlerReturns =>
      obtain ⟨hdeletes, -⟩ | ⟨-, rfl⟩ := step_handlerReturns taken
      · rw [hprompt] at hdeletes
        cases hdeletes
      · exact ⟨h.alive, fun he => HandlerState.noConfusion he, fun id offer he => HandlerState.noConfusion he⟩

/-- **A step that does not meet the condition goes wrong at once.** -/
theorem Live.prompt {i : SocketStep} (h : Live s') (taken : stepSocket json s i = some s') : Prompt s i := by
  cases i with
  | handle stream =>
      intro m hm
      obtain ⟨m', hm', ⟨-, rfl⟩ | ⟨hapart, hs⟩⟩ := step_handle taken
      · have halive := h.alive
        cases halive
      rw [hm] at hm'
      cases hm'
      refine ⟨?_, fun map hmap => ?_⟩
      swap
      · rwa [hmap, Option.any_some] at hapart
      unfold Socket.Takes
      obtain ⟨hkind, rfl⟩ | ⟨hkind, rfl⟩ := hs
      · rw [hkind]
        cases htype : m.type with
        | subscribePodLog =>
            rintro rfl
            refine h.notPanicked ?_
            rw [Socket.handleLogRequest, if_pos htype]
        | _ => trivial
      · rw [hkind]
        unfold Socket.handleExecRequest Socket.handTo at h
        cases htype : m.type with
        | execStdin =>
            intro id hid
            rw [htype] at h
            dsimp only at h
            rw [hid] at h
            exact h.waits id _ rfl
        | execResize =>
            rw [htype] at h
            dsimp only at h
            constructor
            · intro id hid
              rw [hid] at h
              dsimp only at h
              split at h
              · exact h.waits id _ rfl
              · exact absurd rfl h.notPanicked
            · intro hsome
              obtain ⟨id, hid⟩ := Option.ne_none_iff_exists'.mp hsome
              rw [hid] at h
              dsimp only at h
              by_contra hcomma
              rw [List.splitOn_eq_singleton hcomma] at h
              exact h.notPanicked rfl
        | _ => trivial
  | finish id =>
      obtain ⟨-, -, rfl⟩ := step_finish taken
      intro offer he
      have hphase := h.waits id offer he
      have hphase : (Function.update s.session id _ id).phase = .running := hphase
      rw [Function.update_self] at hphase
      cases hphase
  | delete id =>
      intro hkind
      obtain ⟨hnone, -⟩ | ⟨-, -, rfl⟩ := step_delete taken
      · exact hnone
      · have halive := h.alive
        cases halive
  | handlerReturns =>
      obtain ⟨-, rfl⟩ | ⟨hapart, -⟩ := step_handlerReturns taken
      · have halive := h.alive
        cases halive
      · exact hapart
  | _ => trivial

end Waiting

/-! ## 4. Runs -/

/-- **No websocket client crashes or wedges the server** in a run whose steps meet the condition: for any
    messages, any changes of the client manager and any order of the read loop, the handler and the
    sessions. -/
theorem unwedged_of_prompt (json : Unmarshal) (kind : SocketKind) (s : Socket)
    (h : Reaches (Prepared kind) Prompt (stepSocket json) s) : Unwedged s := by
  have hlive : Live s := by
    refine h.invariant (I := Live) (fun s hs => .of_selecting hs.crashed hs.handler) ?_
    exact fun s i s' hs hprompt taken => hs.step hprompt taken
  exact ⟨hlive.alive, hlive.notPanicked, hlive.waits, authorized_of_reaches h⟩

/-! ### A shell -/

/-- A shell is started, its streams return, and it cleans up. -/
theorem unwedged_shellSocket : ∃ s, Unwedged s ∧ s.started = 1 ∧ (s.session 0).phase = .gone := by
  have hshell : Reaches (Prepared .exec) Prompt (stepSocket shellJson) shellSocket := by
    refine reaches_shellSocket (fun _ => ⟨trivial, trivial⟩) ?_
    intro m hm
    cases hm
    exact ⟨trivial, fun _ _ => rfl⟩
  have h1 := Reaches.step (i := SocketStep.finish 0) hshell (fun _ he => HandlerState.noConfusion he) rfl
  have h2 := Reaches.step (i := SocketStep.delete 0) h1 (fun _ => rfl) rfl
  have h3 := Reaches.step (i := SocketStep.deleteNext 0) h2 trivial rfl
  have h4 := Reaches.step (i := SocketStep.cleanup 0) h3 trivial rfl
  exact ⟨_, unwedged_of_prompt shellJson .exec _ h4, rfl, rfl⟩

/-- **A size without a comma panics the handler**, and a session that is started while another one deletes its entry
    kills the process. -/
theorem unwedged_fails :
    (¬ ∀ (json : Unmarshal) (kind : SocketKind) (s : Socket),
        Reaches (Prepared kind) anyStep (stepSocket json) s → Unwedged s) ∧
      ∃ s, Reaches (Prepared .exec) anyStep (stepSocket shellJson) s ∧ s.crashed = true := by
  have hshell : Reaches (Prepared .exec) anyStep (stepSocket shellJson) shellSocket :=
    reaches_shellSocket (fun _ => ⟨trivial, trivial⟩) trivial
  constructor
  · intro h
    have hpassed : Reaches (Prepared .exec) anyStep (stepSocket shellJson)
        (shellSocket.passed (shellRequest .execResize (str "80"))) :=
      reaches_passed hshell (fun _ => ⟨trivial, trivial⟩) rfl rfl rfl forwarded_resize
    have hresized := Reaches.step (i := SocketStep.handle .opened) hpassed trivial rfl
    refine (h shellJson .exec _ hresized).notPanicked ?_
    rfl
  · have hfinished := Reaches.step (i := SocketStep.finish 0) hshell trivial rfl
    have hdeletes := Reaches.step (i := SocketStep.delete 0) hfinished trivial rfl
    have hpassed := reaches_passed hdeletes (fun _ => ⟨trivial, trivial⟩) rfl rfl rfl forwarded_start
    exact ⟨_, .step (i := SocketStep.handle .opened) hpassed trivial rfl, rfl⟩

end Kalm
