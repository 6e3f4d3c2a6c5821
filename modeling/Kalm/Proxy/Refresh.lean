/-
  File:      Kalm/Proxy/Refresh.lean
  Subject:   THE REFRESH OF A TOKEN by many requests at once: `refreshIDToken` and `doRefresh` of
             api/cmd/auth-proxy/main.go, over the contexts of api/auth_proxy/refresh.go.

  * `RefreshContext` -- the condition variable of a refresh and the fields its producer publishes;
  * `ProducerAt`, `ConsumerAt`, `ReaderAt` -- the statements a call stands at. What is done under
    `refreshLock` is one step;
  * `stepRefresh` -- the calls with one refresh token, and the removals of the map entry, in any order.
-/
import Mathlib.Logic.Function.Basic
import Kalm.Go.Strings
import Kalm.Lib.Runs

namespace Kalm

/-! ## 1. Contexts -/

/-- What a refresh yields: the verified ID token, its text, the next refresh token. -/
structure RefreshResult (ι : Type) where
  idToken : ι
  idTokenString : Str
  refreshToken : Str

/-- What the OIDC exchange of `doRefresh` comes to: the token source fails, its answer has no ID token, the
    ID token is not verified, all is well. -/
inductive Exchange (ι : Type) where
  | failed (err : Str)
  | noIDToken
  | notVerified
  | refreshed (result : RefreshResult ι)

/-- The result, or the error `doRefresh` returns. -/
def Exchange.outcome {ι : Type} : Exchange ι → Except Str (RefreshResult ι)
  | .failed err => .error err
  | .noIDToken => .error (str "no id_token in refresh token response")
  | .notVerified => .error (str
      "The jwt token is invalid, expired, revoked, or was issued to another client. (After refresh)")
  | .refreshed result => .ok result

/-- `RefreshContext`: whether the lock of its condition variable is held, and the published fields. Of the
    producer: its call, how often `doRefresh` was entered, what the exchange came to, whether it is past its
    Broadcast. -/
structure RefreshContext (ι : Type) where
  locked : Bool
  error : Option Str
  idToken : Option ι
  idTokenString : Str
  refreshToken : Str
  producer : Nat
  refreshes : Nat
  outcome : Option (Except Str (RefreshResult ι))
  broadcast : Bool

/-- A new context. -/
def RefreshContext.new (ι : Type) (producer : Nat) : RefreshContext ι :=
  ⟨false, none, none, [], [], producer, 0, none, false⟩

/-! ## 2. Calls -/

/-- The next statement of the producer. -/
inductive ProducerAt (ι : Type) where
  | logging
  | exchanging
  | locking (result : RefreshResult ι)
  | unlocking (result : RefreshResult ι)
  | settingIDToken (result : RefreshResult ι)
  | settingIDTokenString (result : RefreshResult ι)
  | settingRefreshToken (result : RefreshResult ι)
  | settingError (err : Str)
  | broadcasting (err : Option Str)
  | removing (err : Option Str)

/-- The next statement of a consumer: `waiting` is in front of its Wait, `parked` in it, `woken` waits for the
    lock again. -/
inductive ConsumerAt where
  | locking
  | logging
  | checking
  | waiting
  | parked
  | woken
  | readingError
  | unlocking (err : Option Str)

/-- The next statement of a call without an error: what it has read. -/
inductive ReaderAt where
  | idTokenString
  | refreshToken (idTokenString : Str)
  | idToken (idTokenString refreshToken : Str)

/-- A call of `refreshIDToken`, with the number of its context. It returns the ID token, and the two texts it
    has written into the cookie's token. -/
inductive CallState (ι : Type) where
  | fresh
  | producing (k : Nat) (p : ProducerAt ι)
  | consuming (k : Nat) (c : ConsumerAt)
  | reading (k : Nat) (r : ReaderAt)
  | returned (k : Nat) (result : Except Str (Option ι × Str × Str))
  | panicked

/-- The goroutine of `RemoveRefreshTokenCond`. -/
inductive Removal where
  | none
  | sleeping
  | done
  deriving DecidableEq

/-- The calls with one refresh token: its entry in `refreshCondMap`, the contexts `made` for it, the calls, the
    removals. -/
structure RefreshState (ι : Type) where
  token : Str
  entry : Option Nat
  made : Nat
  context : Nat → RefreshContext ι
  call : Nat → CallState ι
  removal : Nat → Removal

/-- No call yet. -/
def RefreshState.init (ι : Type) (token : Str) : RefreshState ι where
  token := token
  entry := none
  made := 0
  context := fun _ => .new ι 0
  call := fun _ => .fresh
  removal := fun _ => .none

variable {ι : Type}

/-- A call goes on. -/
def RefreshState.go (s : RefreshState ι) (id : Nat) (st : CallState ι) : RefreshState ι :=
  { s with call := Function.update s.call id st }

/-- A context is written. -/
def RefreshState.write (s : RefreshState ι) (k : Nat) (context : RefreshContext ι) : RefreshState ι :=
  { s with context := Function.update s.context k context }

/-- The lock of a context is taken or given back. -/
def RefreshState.lock (s : RefreshState ι) (k : Nat) (locked : Bool) : RefreshState ι :=
  s.write k { s.context k with locked := locked }

/-- `Broadcast`: the calls that are parked are woken. -/
def RefreshState.wake (s : RefreshState ι) (k : Nat) : RefreshState ι :=
  { s with
    call := fun id =>
      match s.call id with
      | .consuming k' .parked => .consuming k' (if k' = k then .woken else .parked)
      | st => st }

/-- `GetRefreshTokenCond`, and what the call is by it. -/
def RefreshState.start (s : RefreshState ι) (id : Nat) : RefreshState ι :=
  match s.entry with
  | some k => s.go id (.consuming k .locking)
  | none =>
    { s with
      entry := some s.made
      made := s.made + 1
      context := Function.update s.context s.made (.new ι id)
      call := Function.update s.call id (.producing s.made .logging) }

/-- A statement of the producer; a short refresh token has no first ten bytes to log. -/
def RefreshState.produce (s : RefreshState ι) (id k : Nat) : ProducerAt ι → Option (RefreshState ι)
  | .logging =>
    if s.token.length < 10 then some (s.go id .panicked)
    else
      some ((s.write k { s.context k with refreshes := (s.context k).refreshes + 1 }).go id
        (.producing k .exchanging))
  | .exchanging => none
  | .locking result =>
    if (s.context k).locked then none else some ((s.lock k true).go id (.producing k (.unlocking result)))
  | .unlocking result => some ((s.lock k false).go id (.producing k (.settingIDToken result)))
  | .settingIDToken result =>
    some ((s.write k { s.context k with idToken := some result.idToken }).go id
      (.producing k (.settingIDTokenString result)))
  | .settingIDTokenString result =>
    some ((s.write k { s.context k with idTokenString := result.idTokenString }).go id
      (.producing k (.settingRefreshToken result)))
  | .settingRefreshToken result =>
    some ((s.write k { s.context k with refreshToken := result.refreshToken }).go id
      (.producing k (.broadcasting none)))
  | .settingError err =>
    some ((s.write k { s.context k with error := some err }).go id (.producing k (.broadcasting (some err))))
  | .broadcasting err =>
    some (((s.wake k).write k { s.context k with broadcast := true }).go id (.producing k (.removing err)))
  | .removing err =>
    some ({ s with removal := Function.update s.removal k .sleeping }.go id
      (match err with
      | none => .reading k .idTokenString
      | some err => .returned k (.error err)))

/-- A statement of a consumer. -/
def RefreshState.consume (s : RefreshState ι) (id k : Nat) : ConsumerAt → Option (RefreshState ι)
  | .locking =>
    if (s.context k).locked then none else some ((s.lock k true).go id (.consuming k .logging))
  | .logging =>
    if s.token.length < 10 then some (s.go id .panicked) else some (s.go id (.consuming k .checking))
  | .checking =>
    if (s.context k).idToken.isNone && (s.context k).error.isNone then
      some (s.go id (.consuming k .waiting))
    else some (s.go id (.consuming k .readingError))
  | .waiting => some ((s.lock k false).go id (.consuming k .parked))
  | .parked => none
  | .woken =>
    if (s.context k).locked then none else some ((s.lock k true).go id (.consuming k .checking))
  | .readingError => some (s.go id (.consuming k (.unlocking (s.context k).error)))
  | .unlocking err =>
    some ((s.lock k false).go id
      (match err with
      | none => .reading k .idTokenString
      | some err => .returned k (.error err)))

/-- The end of a call without an error. -/
def RefreshState.readResult (s : RefreshState ι) (id k : Nat) : ReaderAt → RefreshState ι
  | .idTokenString => s.go id (.reading k (.refreshToken (s.context k).idTokenString))
  | .refreshToken idTokenString =>
    s.go id (.reading k (.idToken idTokenString (s.context k).refreshToken))
  | .idToken idTokenString refreshToken =>
    s.go id (.returned k (.ok ((s.context k).idToken, idTokenString, refreshToken)))

/-- A step: a call starts, goes on by a statement, gets the answer of the exchange; an entry is removed. -/
inductive RefreshStep (ι : Type) where
  | start (id : Nat)
  | advance (id : Nat)
  | exchange (id : Nat) (answer : Exchange ι)
  | remove (k : Nat)

/-- One step, if it is possible. -/
def stepRefresh (s : RefreshState ι) : RefreshStep ι → Option (RefreshState ι)
  | .start id =>
    match s.call id with
    | .fresh => some (s.start id)
    | _ => none
  | .advance id =>
    match s.call id with
    | .producing k p => s.produce id k p
    | .consuming k c => s.consume id k c
    | .reading k r => some (s.readResult id k r)
    | _ => none
  | .exchange id answer =>
    match s.call id with
    | .producing k .exchanging =>
      some ((s.write k { s.context k with outcome := some answer.outcome }).go id
        (match answer.outcome with
        | .ok result => .producing k (.locking result)
        | .error err => .producing k (.settingError err)))
    | _ => none
  | .remove k =>
    match s.removal k with
    | .sleeping => some { s with entry := none, removal := Function.update s.removal k .done }
    | _ => none

/-! ## 3. The property -/

/-- The call is in `doRefresh`. -/
def ProducerAt.inRefresh : ProducerAt ι → Bool
  | .logging | .removing _ => false
  | _ => true

/-- **Every waiter gets the producer's result**: a context is refreshed exactly once from the insertion of
    its entry to its removal, a call without an error returns all three values of the producer, and behind
    the Broadcast nobody is parked. -/
structure HandsOver (s : RefreshState ι) : Prop where
  inMap : ∀ k < s.made, s.entry = some k ∨ s.removal k = .done
  once : ∀ k < s.made, (s.context k).refreshes ≤ 1 ∧ (s.removal k = .done → (s.context k).refreshes = 1)
  during : ∀ id k p, s.call id = .producing k p → p.inRefresh = true → s.entry = some k
  complete : ∀ id k idToken idTokenString refreshToken,
    s.call id = .returned k (.ok (idToken, idTokenString, refreshToken)) →
      ∃ result, (s.context k).outcome = some (.ok result) ∧ idToken = some result.idToken ∧
        idTokenString = result.idTokenString ∧ refreshToken = result.refreshToken
  woken : ∀ id k, s.call id = .consuming k .parked → (s.context k).broadcast = false

/-- The producer has yet to write `IDTokenString`. -/
def ProducerAt.owesIDTokenString : ProducerAt ι → Bool
  | .logging | .exchanging | .locking _ | .unlocking _ | .settingIDToken _ | .settingIDTokenString _ => true
  | _ => false

/-- The producer has yet to write `RefreshToken`. -/
def ProducerAt.owesRefreshToken : ProducerAt ι → Bool
  | .settingRefreshToken _ => true
  | p => p.owesIDTokenString

/-- The steps that meet the condition: no consumer stands between its check and its Wait where the producer
    broadcasts, and no call reads a text that the producer has yet to write. -/
def Timely (s : RefreshState ι) : RefreshStep ι → Prop
  | .advance id =>
    match s.call id with
    | .producing k (.broadcasting _) => ∀ other, s.call other ≠ .consuming k .waiting
    | .reading k .idTokenString => ∀ other p, s.call other = .producing k p → p.owesIDTokenString = false
    | .reading k (.refreshToken _) => ∀ other p, s.call other = .producing k p → p.owesRefreshToken = false
    | _ => True
  | _ => True

end Kalm
