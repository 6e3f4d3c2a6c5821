/-
  File:      Kalm/Pods/Socket.lean
  Subject:   THE WEBSOCKETS of the pods, for logs and for shells: api/handler/websocket.go.

  * `wsReadMessage` -- one turn of `wsReadLoop`: a message is answered, or passed on to the request handler
    over a channel without a buffer;
  * `handleLogRequest`, `handleExecRequest` -- one request in `handleLogRequests`, `handleExecRequests`;
  * `Session` -- the goroutine of a started log or shell, with the context that stops it;
  * `stepSocket` -- the read loop, the handler and the sessions, in any order. Each goes from one channel
    operation, lock or map operation to the next in one step. A map that is read or written while another goroutine
    writes it kills the process.
-/
import Mathlib.Logic.Function.Basic
import Kalm.Go.Parse
import Kalm.Lib.Runs
import Kalm.Rbac.Client

namespace Kalm

/-! ## 1. Messages -/

/-- `WSRequestType` -/
inductive WSRequestType where
  | auth
  | authStatus
  | subscribePodLog
  | unsubscribePodLog
  | execStartSession
  | execEndSession
  | execStdin
  | execResize
  | other (text : Str)
  deriving DecidableEq

/-- The type a text names. -/
def WSRequestType.ofText (text : Str) : WSRequestType :=
  if text = str "auth" then .auth
  else if text = str "authStatus" then .authStatus
  else if text = str "subscribePodLog" then .subscribePodLog
  else if text = str "unsubscribePodLog" then .unsubscribePodLog
  else if text = str "execStartSession" then .execStartSession
  else if text = str "execEndSession" then .execEndSession
  else if text = str "stdin" then .execStdin
  else if text = str "resize" then .execResize
  else .other text

/-- The type is one of a request about a pod. -/
def WSRequestType.isPodResource : WSRequestType → Bool
  | .auth | .authStatus | .other _ => false
  | _ => true

/-- `WSClientAuthRequest` -/
structure WSClientAuthRequest where
  authToken : Str
  impersonation : Str

/-- `WSPodResourceRequest` -/
structure WSPodResourceRequest where
  type : WSRequestType
  podName : Str
  container : Str
  tailLines : Int
  timestamps : Bool
  follow : Bool
  previous : Bool
  ns : Str
  data : Str

/-- The key of a pod's session: `fmt.Sprintf("%s___%s", m.Namespace, m.PodName)`. -/
def podKey (ns podName : Str) : Str := ns ++ str "___" ++ podName

def WSPodResourceRequest.key (m : WSPodResourceRequest) : Str := podKey m.ns m.podName

/-- What `json.Unmarshal` makes of a text: the type of a `WSRequest`, and the two requests. -/
structure Unmarshal where
  request : Str → Option Str
  auth : Str → Option WSClientAuthRequest
  podResource : Str → Option WSPodResourceRequest

/-- `StatusValue` -/
inductive StatusValue where
  | ok
  | error

/-- The response types of the read loop. -/
inductive WSResponseType where
  | common
  | authResult
  | authStatus

/-- `WSResponse` -/
structure WSResponse where
  type : WSResponseType
  status : StatusValue
  message : Str

/-! ## 2. The read loop -/

/-- The client manager at one moment: the policies of its enforcer, and the clients of the access tokens
    that are there and have not expired. -/
structure WSManager where
  policies : PolicySet
  getClientInfoFromToken : Str → Option ClientInfo

/-- The text before the last `sep`, and the text after it. -/
def cutLast (sep : Str) : Str → Option (Str × Str)
  | [] => none
  | b :: s =>
    match cutLast sep s with
    | some (before, after) => some (b :: before, after)
    | none => if sep.isPrefixOf (b :: s) then some ([], (b :: s).drop sep.length) else none

/-- `parseImpersonationString`: the first match of `subject=(.*); type=(.*)`. A dot is any byte but a
    newline, and the first group takes as much as it can. -/
def parseImpersonationString : Str → Option (Str × Str)
  | [] => none
  | b :: s =>
    if (str "subject=").isPrefixOf (b :: s) then
      match cutLast (str "; type=") (((b :: s).drop (str "subject=").length).takeWhile (· ≠ newline)) with
      | some groups => some groups
      | none => parseImpersonationString s
    else parseImpersonationString s

/-- `SetImpersonation`; `none` where the check panics. -/
def setImpersonation (P : PolicySet) (clientInfo : ClientInfo) (rawImpersonation : Str) :
    Option ClientInfo :=
  if rawImpersonation = [] then some clientInfo
  else
    match canManageCluster P clientInfo with
    | none => none
    | some false => some clientInfo
    | some true =>
      match parseImpersonationString rawImpersonation with
      | none => some clientInfo
      | some (impersonation, impersonationType) =>
        some { clientInfo with impersonation := impersonation, impersonationType := impersonationType }

/-- What the read loop does with a message. -/
inductive ReadResult where
  | skipped
  | replied (res : WSResponse) (clientInfo : Option ClientInfo)
  | forwarded (m : WSPodResourceRequest)
  | panicked

/-- The object of a pod: `"pods/" + m.PodName`. -/
def podObject (podName : Str) : Str := str "pods/" ++ podName

/-- The permission a request asks for, and the answer without it: `NoObjectViewerRoleError`,
    `NoObjectEditorRoleError`. `none` where nothing is asked. -/
def WSPodResourceRequest.check (m : WSPodResourceRequest) (P : PolicySet) (clientInfo : ClientInfo) :
    Option (Option Bool × Str) :=
  match m.type with
  | .subscribePodLog => some (canView P clientInfo m.ns (podObject m.podName),
      str "Require viewer role. [obj: " ++ podObject m.podName ++ str ", application: " ++ m.ns ++ str "]")
  | .execStartSession | .execStdin | .execResize =>
    some (canEdit P clientInfo m.ns (podObject m.podName),
      str "Require editor role. [obj " ++ podObject m.podName ++ str ", application " ++ m.ns ++ str "]")
  | _ => none

variable (json : Unmarshal) (manager : WSManager) (clientInfo : Option ClientInfo)

/-- The branch of `auth`. -/
def wsReadAuth (message : Str) : ReadResult :=
  match json.auth message with
  | none => .skipped
  | some m =>
    match manager.getClientInfoFromToken m.authToken with
    | none => .replied ⟨.authResult, .error, str "Invalid Auth Token"⟩ clientInfo
    | some client =>
      match setImpersonation manager.policies client m.impersonation with
      | none => .panicked
      | some client => .replied ⟨.authResult, .ok, str "Auth Successfully"⟩ (some client)

/-- The branch of the requests about pods. -/
def wsReadPodResource (message : Str) : ReadResult :=
  match clientInfo with
  | none => .replied ⟨.common, .error, str "Unauthorized, Please verify yourself first."⟩ none
  | some client =>
    match json.podResource message with
    | none => .skipped
    | some m =>
      match m.check manager.policies client with
      | none => .forwarded m
      | some (allowed, denial) =>
        match allowed with
        | none => .panicked
        | some false => .replied ⟨.common, .error, denial⟩ (some client)
        | some true => .forwarded m

/-- One message in `wsReadLoop`. -/
def wsReadMessage (message : Str) : ReadResult :=
  match json.request message with
  | none => .skipped
  | some type =>
    match WSRequestType.ofText type with
    | .auth => wsReadAuth json manager clientInfo message
    | .subscribePodLog | .unsubscribePodLog | .execStartSession | .execEndSession | .execStdin
    | .execResize => wsReadPodResource json manager clientInfo message
    | .authStatus =>
      .replied (match clientInfo with
        | some _ => ⟨.authStatus, .ok, str "You are authorized"⟩
        | none => ⟨.authStatus, .error, str "You are not authorized"⟩) clientInfo
    | .other _ => .replied ⟨.common, .error, str "Unknown Message Type"⟩ clientInfo

/-! ## 3. Sessions -/

/-- Where a session is: its streams run, they have returned, its clean-up is done. -/
inductive SessionPhase where
  | running
  | finished
  | gone
  deriving DecidableEq

/-- A started log or shell: its request, whether its context is done, its phase. The handler has `ended`
    it where a request to end it came. -/
structure Session where
  request : WSPodResourceRequest
  cancelled : Bool
  phase : SessionPhase
  ended : Bool

/-- What the handler hands to a shell. -/
inductive Offer where
  | stdin (data : Str)
  | resize (width height : Nat)

/-- Where the read loop is: it reads, it waits to send a request (the policies are those it has asked), it
    has returned. -/
inductive ReaderState where
  | reading
  | sending (m : WSPodResourceRequest) (asked : PolicySet)
  | returned

/-- Where the request handler is: at its select, with a request, waiting to hand something to a session,
    panicked, returned. -/
inductive HandlerState where
  | selecting
  | handling (m : WSPodResourceRequest)
  | handing (id : Nat) (offer : Offer)
  | panicked
  | returned

/-- A request that has reached the handler, with the client of the connection at that moment and the
    policies it was checked against. -/
structure Receipt where
  request : WSPodResourceRequest
  clientInfo : Option ClientInfo
  asked : PolicySet

/-- The two sockets. -/
inductive SocketKind where
  | log
  | exec
  deriving DecidableEq

/-- The maps of the handler. -/
inductive RegistryMap where
  | podRegistrations
  | terminalSessions
  deriving DecidableEq

/-- A connection, with its read loop, its handler, its `started` sessions, and the requests `received`. The
    cancel function of a session stands in a map as its number. Of the session that is `cleaning` up, the map its
    delete is in; `crashed` where the process has died of a map that two goroutines were in. -/
structure Socket where
  kind : SocketKind
  manager : WSManager
  clientInfo : Option ClientInfo
  reader : ReaderState
  handler : HandlerState
  ctxDone : Bool
  started : Nat
  session : Nat → Session
  podRegistrations : Str → Option Nat
  terminalSessions : Str → Option Nat
  received : List Receipt
  cleaning : Option (Nat × RegistryMap)
  crashed : Bool

/-- A connection that is prepared: the client of its first request may be known. -/
structure Prepared (kind : SocketKind) (s : Socket) : Prop where
  kind : s.kind = kind
  reader : s.reader = .reading
  handler : s.handler = .selecting
  ctxDone : s.ctxDone = false
  started : s.started = 0
  podRegistrations : s.podRegistrations = fun _ => none
  terminalSessions : s.terminalSessions = fun _ => none
  received : s.received = []
  cleaning : s.cleaning = none
  crashed : s.crashed = false

/-! ## 4. Requests -/

/-- A cancel function. -/
def Session.stop (session : Session) : Session := { session with cancelled := true }

/-- A cancel function of a map is called, if there is one. -/
def Socket.stopOld (s : Socket) (old : Option Nat) : Nat → Session :=
  match old with
  | none => s.session
  | some id => Function.update s.session id (s.session id).stop

/-- A session starts: the old one of its key is stopped, and it is registered. -/
def Socket.openSession (s : Socket) (m : WSPodResourceRequest) : Socket :=
  { s with
    started := s.started + 1
    session := Function.update (s.stopOld (s.podRegistrations m.key)) s.started
      ⟨m, s.ctxDone, .running, false⟩
    podRegistrations := Function.update s.podRegistrations m.key (some s.started) }

/-- The entries of a key are deleted. -/
def Socket.delete (s : Socket) (key : Str) : Socket :=
  { s with
    podRegistrations := Function.update s.podRegistrations key none
    terminalSessions := Function.update s.terminalSessions key none }

/-- A session ends by a request: the registered one of its key is stopped, and its entries are deleted. -/
def Socket.endSession (s : Socket) (m : WSPodResourceRequest) : Socket :=
  let session := fun id =>
    let session := s.stopOld (s.podRegistrations m.key) id
    { session with
      ended := session.ended || (session.request.ns = m.ns && session.request.podName = m.podName) }
  match s.podRegistrations m.key with
  | none => { s with session := session }
  | some _ => { s.delete m.key with session := session }

/-- What Kubernetes answers where a log is to be streamed: the configuration gives no client, the stream
    fails, the stream is there. -/
inductive LogStream where
  | noClient
  | failed
  | opened
  deriving DecidableEq

/-- One request in `handleLogRequests`. The error of `NewForConfig` is dropped, and the client used. -/
def Socket.handleLogRequest (s : Socket) (m : WSPodResourceRequest) (stream : LogStream) : Socket :=
  if m.type = .subscribePodLog then
    match stream with
    | .noClient => { s with handler := .panicked }
    | .failed => { s with handler := .selecting }
    | .opened => { s.openSession m with handler := .selecting }
  else { s.endSession m with handler := .selecting }

/-- `strconv.Atoi` where its error is dropped: zero for no number, the nearest one for a number out of
    range. -/
def atoiValue (s : Str) : Int :=
  match s with
  | 45 :: digits => ((decimal digits).map fun n => -((min n (2 ^ 63) : Nat) : Int)).getD 0
  | 43 :: digits => ((decimal digits).map fun n => ((min n (2 ^ 63 - 1) : Nat) : Int)).getD 0
  | digits => ((decimal digits).map fun n => ((min n (2 ^ 63 - 1) : Nat) : Int)).getD 0

/-- `uint16(n)` -/
def toUint16 (n : Int) : Nat := (n % 2 ^ 16).toNat

/-- The handler starts to hand something to the session of a key, if there is one. -/
def Socket.handTo (s : Socket) (key : Str) (offer : Nat → HandlerState) : Socket :=
  match s.terminalSessions key with
  | none => { s with handler := .selecting }
  | some id => { s with handler := offer id }

/-- One request in `handleExecRequests`. A size without a comma has no second part. -/
def Socket.handleExecRequest (s : Socket) (m : WSPodResourceRequest) : Socket :=
  match m.type with
  | .execStartSession =>
    { s.openSession m with
      terminalSessions := Function.update s.terminalSessions m.key (some s.started)
      handler := .selecting }
  | .execEndSession => { s.endSession m with handler := .selecting }
  | .execStdin => s.handTo m.key fun id => .handing id (.stdin m.data)
  | .execResize =>
    s.handTo m.key fun id =>
      match m.data.splitOn comma with
      | width :: height :: _ =>
        .handing id (.resize (toUint16 (atoiValue width)) (toUint16 (atoiValue height)))
      | _ => .panicked
  | _ => { s with handler := .selecting }

/-- The map that the handler of a request is in first: no lock is taken for it. -/
def Socket.enters (s : Socket) (stream : LogStream) (m : WSPodResourceRequest) : Option RegistryMap :=
  match s.kind, m.type with
  | .log, .subscribePodLog => if stream = .opened then some .podRegistrations else none
  | .log, _ => some .podRegistrations
  | .exec, .execStartSession | .exec, .execEndSession => some .podRegistrations
  | .exec, .execStdin | .exec, .execResize => some .terminalSessions
  | .exec, _ => none

/-- A session is in a delete of the map. -/
def Socket.deletes (s : Socket) (map : RegistryMap) : Bool := decide (s.cleaning.map Prod.snd = some map)

/-- The handler takes the lock for the request: to register a session, and to delete one that is registered. -/
def Socket.locks (s : Socket) (m : WSPodResourceRequest) : Bool :=
  match s.kind, m.type with
  | .exec, .execStartSession => true
  | .exec, .execEndSession => (s.podRegistrations m.key).isSome
  | _, _ => false

/-- The last map that a session cleans. -/
def SocketKind.lastMap : SocketKind → RegistryMap
  | .log => .podRegistrations
  | .exec => .terminalSessions

/-! ## 5. Steps -/

/-- The read loop returns, or panics: its deferred call cancels the context of the connection, and with it
    those of the sessions. -/
def Socket.close (s : Socket) : Socket :=
  { s with reader := .returned, ctxDone := true, session := fun id => (s.session id).stop }

/-- A step: the read loop reads a message and writes its answer, or fails; the manager changes; the handler
    takes a request from the channel, handles it, or returns; a session takes what is handed to it, its
    streams return, it begins to delete its entry, that of a shell goes on to the second map, its entries are
    deleted. -/
inductive SocketStep where
  | read (message : Str) (written : Bool)
  | readFails
  | manage (manager : WSManager)
  | receive
  | handle (stream : LogStream)
  | take
  | finish (id : Nat)
  | delete (id : Nat)
  | deleteNext (id : Nat)
  | cleanup (id : Nat)
  | handlerReturns

/-- The read loop has read a message. -/
def Socket.onRead (s : Socket) (written : Bool) : ReadResult → Socket
  | .skipped => s
  | .replied _ clientInfo => if written then { s with clientInfo := clientInfo } else s.close
  | .forwarded m => { s with reader := .sending m s.manager.policies }
  | .panicked => s.close

/-- One step of a process that is alive, if it is possible. -/
def stepAlive (s : Socket) : SocketStep → Option Socket
  | .read message written =>
    match s.reader with
    | .reading => some (s.onRead written (wsReadMessage json s.manager s.clientInfo message))
    | _ => none
  | .readFails =>
    match s.reader with
    | .reading => some s.close
    | _ => none
  | .manage manager => some { s with manager := manager }
  | .receive =>
    match s.reader, s.handler with
    | .sending m asked, .selecting =>
      some { s with
        reader := .reading
        handler := .handling m
        received := s.received ++ [⟨m, s.clientInfo, asked⟩] }
    | _, _ => none
  | .handle stream =>
    match s.handler with
    | .handling m =>
      if (s.enters stream m).any s.deletes then some { s with crashed := true }
      else if s.locks m && s.cleaning.isSome then none
      else
        some (match s.kind with
          | .log => s.handleLogRequest m stream
          | .exec => s.handleExecRequest m)
    | _ => none
  | .take =>
    match s.handler with
    | .handing id _ => if (s.session id).phase = .running then some { s with handler := .selecting } else none
    | _ => none
  | .finish id =>
    if id < s.started ∧ (s.session id).phase = .running then
      some { s with session := Function.update s.session id { s.session id with phase := .finished } }
    else none
  | .delete id =>
    if id < s.started ∧ (s.session id).phase = .finished then
      match s.cleaning with
      | none => some { s with cleaning := some (id, .podRegistrations) }
      | some (other, _) =>
        -- only the clean-up of a shell takes the lock
        if s.kind = .log ∧ other ≠ id then some { s with crashed := true } else none
    else none
  | .deleteNext id =>
    if s.kind = .exec ∧ s.cleaning = some (id, .podRegistrations) then
      some { s with cleaning := some (id, .terminalSessions) }
    else none
  | .cleanup id =>
    if id < s.started ∧ (s.session id).phase = .finished ∧ s.cleaning = some (id, s.kind.lastMap) then
      let s' := s.delete (s.session id).request.key
      some { s' with
        cleaning := none
        session := Function.update s.session id
          { s.session id with
            phase := .gone
            -- only the shell's goroutine calls its own cancel function
            cancelled := (s.session id).cancelled || s.kind = .exec } }
    else none
  | .handlerReturns =>
    match s.handler with
    | .selecting =>
      if s.ctxDone then
        if s.deletes .podRegistrations then some { s with crashed := true }
        else
          some { s with
            handler := .returned
            session := fun id =>
              if s.podRegistrations (s.session id).request.key = some id then (s.session id).stop
              else s.session id }
      else none
    | _ => none

/-- One step, if it is possible: a process that has died takes none. -/
def stepSocket (s : Socket) (i : SocketStep) : Option Socket :=
  if s.crashed then none else stepAlive json s i

/-! ## 6. What a step does -/

section Steps

variable {json : Unmarshal} {s s' : Socket}

theorem step_of_alive {i : SocketStep} (h : s.crashed = false) : stepSocket json s i = stepAlive json s i :=
  if_neg (Bool.eq_false_iff.mp h)

theorem step_alive {i : SocketStep} (h : stepSocket json s i = some s') :
    s.crashed = false ∧ stepAlive json s i = some s' := by
  obtain ⟨halive, h⟩ := Option.ite_none_left_eq_some.mp h
  exact ⟨Bool.eq_false_iff.mpr halive, h⟩

theorem step_read {message : Str} {written : Bool} (h : stepSocket json s (.read message written) = some s') :
    s.reader = .reading ∧
      s' = s.onRead written (wsReadMessage json s.manager s.clientInfo message) := by
  obtain ⟨-, h⟩ := step_alive h
  simp only [stepAlive] at h
  split at h
  · exact ⟨‹_›, (Option.some.inj h).symm⟩
  · cases h

theorem step_readFails (h : stepSocket json s .readFails = some s') :
    s.reader = .reading ∧ s' = s.close := by
  obtain ⟨-, h⟩ := step_alive h
  simp only [stepAlive] at h
  split at h
  · exact ⟨‹_›, (Option.some.inj h).symm⟩
  · cases h

theorem step_manage {manager : WSManager} (h : stepSocket json s (.manage manager) = some s') :
    s' = { s with manager := manager } := (Option.some.inj (step_alive h).2).symm

theorem step_receive (h : stepSocket json s .receive = some s') :
    ∃ m asked, s.reader = .sending m asked ∧ s.handler = .selecting ∧ s' = { s with
      reader := .reading
      handler := .handling m
      received := s.received ++ [⟨m, s.clientInfo, asked⟩] } := by
  obtain ⟨-, h⟩ := step_alive h
  simp only [stepAlive] at h
  split at h
  · exact ⟨_, _, ‹_›, ‹_›, (Option.some.inj h).symm⟩
  · cases h

/-- A request is handled, unless a session is in the map. -/
theorem step_handle {stream : LogStream} (h : stepSocket json s (.handle stream) = some s') :
    ∃ m, s.handler = .handling m ∧
      ((s.enters stream m).any s.deletes = true ∧ s' = { s with crashed := true } ∨
        (s.enters stream m).any s.deletes = false ∧
          (s.kind = .log ∧ s' = s.handleLogRequest m stream ∨
            s.kind = .exec ∧ s' = s.handleExecRequest m)) := by
  obtain ⟨-, h⟩ := step_alive h
  simp only [stepAlive] at h
  split at h
  · rename_i m hm
    refine ⟨m, hm, ?_⟩
    split at h
    · rename_i hdeletes
      exact .inl ⟨hdeletes, (Option.some.inj h).symm⟩
    · rename_i hapart
      obtain ⟨-, h⟩ := Option.ite_none_left_eq_some.mp h
      refine .inr ⟨Bool.eq_false_iff.mpr hapart, ?_⟩
      cases hk : s.kind with
      | log =>
          rw [hk] at h
          exact .inl ⟨rfl, (Option.some.inj h).symm⟩
      | exec =>
          rw [hk] at h
          exact .inr ⟨rfl, (Option.some.inj h).symm⟩
  · cases h

theorem step_take (h : stepSocket json s .take = some s') :
    ∃ id offer, s.handler = .handing id offer ∧ s' = { s with handler := .selecting } := by
  obtain ⟨-, h⟩ := step_alive h
  simp only [stepAlive] at h
  split at h
  · obtain ⟨-, h⟩ := Option.ite_none_right_eq_some.mp h
    exact ⟨_, _, ‹_›, (Option.some.inj h).symm⟩
  · cases h

theorem step_finish {id : Nat} (h : stepSocket json s (.finish id) = some s') :
    id < s.started ∧ (s.session id).phase = .running ∧
      s' = { s with session := Function.update s.session id { s.session id with phase := .finished } } := by
  obtain ⟨⟨hid, hrunning⟩, h⟩ := Option.ite_none_right_eq_some.mp (step_alive h).2
  exact ⟨hid, hrunning, (Option.some.inj h).symm⟩

/-- A clean-up begins, unless the log of another pod is cleaning up. -/
theorem step_delete {id : Nat} (h : stepSocket json s (.delete id) = some s') :
    s.cleaning = none ∧ s' = { s with cleaning := some (id, .podRegistrations) } ∨
      s.kind = .log ∧ s.cleaning ≠ none ∧ s' = { s with crashed := true } := by
  obtain ⟨-, h⟩ := Option.ite_none_right_eq_some.mp (step_alive h).2
  split at h
  · exact .inl ⟨‹_›, (Option.some.inj h).symm⟩
  · rename_i other map hcleaning
    obtain ⟨⟨hkind, -⟩, h⟩ := Option.ite_none_right_eq_some.mp h
    refine .inr ⟨hkind, ?_, (Option.some.inj h).symm⟩
    rw [hcleaning]
    exact Option.some_ne_none _

theorem step_deleteNext {id : Nat} (h : stepSocket json s (.deleteNext id) = some s') :
    s' = { s with cleaning := some (id, .terminalSessions) } :=
  (Option.some.inj (Option.ite_none_right_eq_some.mp (step_alive h).2).2).symm

theorem step_cleanup {id : Nat} (h : stepSocket json s (.cleanup id) = some s') :
    id < s.started ∧ (s.session id).phase = .finished ∧
      s' = { s.delete (s.session id).request.key with
        cleaning := none
        session := Function.update s.session id
          { s.session id with
            phase := .gone
            cancelled := (s.session id).cancelled || s.kind = .exec } } := by
  obtain ⟨⟨hid, hfinished, -⟩, h⟩ := Option.ite_none_right_eq_some.mp (step_alive h).2
  exact ⟨hid, hfinished, (Option.some.inj h).symm⟩

theorem step_handlerReturns (h : stepSocket json s .handlerReturns = some s') :
    s.deletes .podRegistrations = true ∧ s' = { s with crashed := true } ∨
      s.deletes .podRegistrations = false ∧ s' = { s with
        handler := .returned
        session := fun id =>
          if s.podRegistrations (s.session id).request.key = some id then (s.session id).stop
          else s.session id } := by
  obtain ⟨-, h⟩ := step_alive h
  simp only [stepAlive] at h
  split at h
  · obtain ⟨-, h⟩ := Option.ite_none_right_eq_some.mp h
    split at h
    · exact .inl ⟨‹_›, (Option.some.inj h).symm⟩
    · exact .inr ⟨Bool.eq_false_iff.mpr ‹_›, (Option.some.inj h).symm⟩
  · cases h

end Steps

/-! ## 7. The way of a request -/

section Way

variable {json : Unmarshal} {s : Socket} {manager : WSManager} {client : ClientInfo} {message : Str}
  {m : WSPodResourceRequest}

/-- The read loop passes a request on that it may. -/
theorem forwarded_of_check {type : Str} (hrequest : json.request message = some type)
    (htype : (WSRequestType.ofText type).isPodResource = true) (hpod : json.podResource message = some m)
    (hcheck : ∀ allowed denial, m.check manager.policies client = some (allowed, denial) →
      allowed = some true) :
    wsReadMessage json manager (some client) message = .forwarded m := by
  have hread : wsReadPodResource json manager (some client) message = .forwarded m := by
    unfold wsReadPodResource
    dsimp only
    rw [hpod]
    dsimp only
    cases hc : m.check manager.policies client with
    | none => rfl
    | some answer =>
        obtain ⟨allowed, denial⟩ := answer
        rw [hcheck allowed denial hc]
  rw [wsReadMessage, hrequest]
  dsimp only
  cases ht : WSRequestType.ofText type with
  | auth | authStatus | other =>
      rw [ht] at htype
      cases htype
  | _ => exact hread

/-- A request has come to the handler. -/
def Socket.passed (s : Socket) (m : WSPodResourceRequest) : Socket :=
  { s with
    reader := .reading
    handler := .handling m
    received := s.received ++ [⟨m, s.clientInfo, s.manager.policies⟩] }

/-- A request that is passed on comes to a handler at its select. -/
theorem reaches_passed {init : Socket → Prop} {meets : Socket → SocketStep → Prop}
    (h : Runs.Reaches init meets (stepSocket json) s) (hmeets : ∀ s,
      meets s (.read message true) ∧ meets s .receive) (hreader : s.reader = .reading)
    (hhandler : s.handler = .selecting) (halive : s.crashed = false)
    (hread : wsReadMessage json s.manager s.clientInfo message = .forwarded m) :
    Runs.Reaches init meets (stepSocket json) (s.passed m) := by
  have hsent : stepSocket json s (.read message true) =
      some { s with reader := .sending m s.manager.policies } := by
    rw [step_of_alive halive, stepAlive, hreader]
    dsimp only
    rw [hread]
    rfl
  refine .step (.step h (hmeets s).1 hsent) (hmeets _).2 ?_
  have hreceived : stepAlive json { s with reader := .sending m s.manager.policies } .receive = some (s.passed m) := by
    simp only [stepAlive, hhandler]
    rfl
  exact (if_neg (Bool.eq_false_iff.mp halive)).trans hreceived

end Way

/-! ## 8. A shell -/

/-- A request about the pod web. -/
def shellRequest (type : WSRequestType) (data : Str) : WSPodResourceRequest where
  type := type
  podName := str "web"
  container := str "web"
  tailLines := 0
  timestamps := false
  follow := false
  previous := false
  ns := str "shop"
  data := data

/-- The text of such a request. -/
def shellText (type data : Str) : Str :=
  str "\x7b\"type\":\"" ++ type ++ str "\",\"namespace\":\"shop\",\"podName\":\"web\"," ++
    str "\"container\":\"web\",\"data\":\"" ++ data ++ str "\"\x7d"

/-- A request about the pod db, and its text. -/
def dbRequest : WSPodResourceRequest := { shellRequest .execStartSession [] with podName := str "db" }

def dbText : Str :=
  str "\x7b\"type\":\"execStartSession\",\"namespace\":\"shop\",\"podName\":\"db\",\"container\":\"web\"\x7d"

/-- The texts of the three requests below. -/
def shellJson : Unmarshal where
  request := fun text =>
    if text = shellText (str "execStartSession") [] then some (str "execStartSession")
    else if text = shellText (str "resize") (str "80") then some (str "resize")
    else if text = dbText then some (str "execStartSession")
    else none
  auth := fun _ => none
  podResource := fun text =>
    if text = shellText (str "execStartSession") [] then some (shellRequest .execStartSession [])
    else if text = shellText (str "resize") (str "80") then some (shellRequest .execResize (str "80"))
    else if text = dbText then some dbRequest
    else none

/-- A connection of a client that may edit everything. -/
def plainSocket (kind : SocketKind) : Socket where
  kind := kind
  manager :=
    { policies := ⟨[[str "user-bob", str "edit", [star], [star]]], []⟩
      getClientInfoFromToken := fun _ => none }
  clientInfo := some ⟨str "bob", none, [], []⟩
  reader := .reading
  handler := .selecting
  ctxDone := false
  started := 0
  session := fun _ => ⟨shellRequest (.other []) [], false, .gone, false⟩
  podRegistrations := fun _ => none
  terminalSessions := fun _ => none
  received := []
  cleaning := none
  crashed := false

theorem prepared_plainSocket (kind : SocketKind) : Prepared kind (plainSocket kind) :=
  ⟨rfl, rfl, rfl, rfl, rfl, rfl, rfl, rfl, rfl, rfl⟩

theorem canEdit_shell : canEdit (plainSocket .exec).manager.policies ⟨str "bob", none, [], []⟩ (str "shop")
    (podObject (str "web")) = some true := by decide +kernel

theorem shellJson_start : shellJson.request (shellText (str "execStartSession") []) = some (str "execStartSession") ∧
    shellJson.podResource (shellText (str "execStartSession") []) = some (shellRequest .execStartSession []) := by
  simp only [shellJson, if_true, and_self]

theorem shellJson_resize : shellJson.request (shellText (str "resize") (str "80")) = some (str "resize") ∧
    shellJson.podResource (shellText (str "resize") (str "80")) =
      some (shellRequest .execResize (str "80")) := by
  have hne : shellText (str "resize") (str "80") ≠ shellText (str "execStartSession") [] := by decide
  simp only [shellJson, if_neg hne, if_true, and_self]

theorem shellJson_db : shellJson.request dbText = some (str "execStartSession") ∧
    shellJson.podResource dbText = some dbRequest := by
  have hstart : dbText ≠ shellText (str "execStartSession") [] := by decide
  have hresize : dbText ≠ shellText (str "resize") (str "80") := by decide
  simp only [shellJson, if_neg hstart, if_neg hresize, if_true, and_self]

theorem forwarded_start : wsReadMessage shellJson (plainSocket .exec).manager
    (some ⟨str "bob", none, [], []⟩) (shellText (str "execStartSession") []) =
      .forwarded (shellRequest .execStartSession []) := by
  refine forwarded_of_check shellJson_start.1 (by decide) shellJson_start.2 fun allowed denial h => ?_
  cases h
  exact canEdit_shell

theorem forwarded_resize : wsReadMessage shellJson (plainSocket .exec).manager
    (some ⟨str "bob", none, [], []⟩) (shellText (str "resize") (str "80")) =
      .forwarded (shellRequest .execResize (str "80")) := by
  refine forwarded_of_check shellJson_resize.1 (by decide) shellJson_resize.2 fun allowed denial h => ?_
  cases h
  exact canEdit_shell

theorem forwarded_db : wsReadMessage shellJson (plainSocket .exec).manager
    (some ⟨str "bob", none, [], []⟩) dbText = .forwarded dbRequest := by
  refine forwarded_of_check shellJson_db.1 (by decide) shellJson_db.2 fun allowed denial h => ?_
  cases h
  have hedit : canEdit (plainSocket .exec).manager.policies ⟨str "bob", none, [], []⟩ (str "shop")
      (podObject (str "db")) = some true := by decide +kernel
  exact hedit

/-- The shell of the pod runs. -/
def shellSocket : Socket :=
  ((plainSocket .exec).passed (shellRequest .execStartSession [])).handleExecRequest
    (shellRequest .execStartSession [])

theorem reaches_shellSocket {meets : Socket → SocketStep → Prop} (hmeets : ∀ s,
      meets s (.read (shellText (str "execStartSession") []) true) ∧ meets s .receive)
    (hhandle : meets ((plainSocket .exec).passed (shellRequest .execStartSession [])) (.handle .opened)) :
    Runs.Reaches (Prepared .exec) meets (stepSocket shellJson) shellSocket :=
  .step (reaches_passed (.start (prepared_plainSocket .exec)) hmeets rfl rfl rfl forwarded_start) hhandle rfl

end Kalm
