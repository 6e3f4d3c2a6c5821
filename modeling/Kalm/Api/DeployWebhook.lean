/-
  File:      Kalm/Api/DeployWebhook.lean
  Subject:   THE DEPLOY WEBHOOK: `handleDeployWebhookCall` of api/handler/webhook.go, any number of calls at once,
             each one call of the API server at a time.

  * `AccessTokenStatus`, `Crd` -- the token as a document, and what the declared sub-resource does to a patch;
  * `Phase`, `stepCall`, `step` -- the handler between its API calls, and the calls in any order;
  * `Counted` -- what the calls should leave of the token;
  * `Meets` -- a call counts: it is answered, and no other call has counted since it read the token;
  * `tokens_run_of_status` -- with the sub-resource declared no call changes a token;
  * `Exact`, `exact_run`, `atMost_run_of_not_meets` -- without it the count is exact as long as every step meets the
    condition, and stays below from the first that does not;
  * `counted_iff` -- so the uses are counted exactly when there is none, or the sub-resource is not declared, every
    step meets the condition, and the last to patch is the latest.
-/
import Kalm.Resources.Server
import Kalm.Proxy.Userinfo
import Kalm.Lib.Interleaved
import Kalm.Lib.Runs

namespace Kalm.DeployWebhook

open MergePatch (Json Patch patched diff delta fieldOf keysOf IsObj)
open Calls (Fault meet)
open Runs (Always)

/-! ## 1. Access tokens as documents -/

/-- What a patch of a token replaces as a whole. -/
inductive TokenScalar where
  | text (s : Str)
  | int (n : Int64)
  | raw (json : Str)
  deriving DecidableEq

/-- `v1alpha1.AccessToken` as JSON. -/
abbrev TokenDoc := Json Str TokenScalar

/-- The JSON names of the status and of its fields. -/
def statusField : Str := str "status"

@[inherit_doc statusField] def lastUsedAtField : Str := str "lastUsedAt"

@[inherit_doc statusField] def usedCountField : Str := str "usedCount"

/-- `AccessTokenStatus`; a Go `int` has 64 bits. -/
structure AccessTokenStatus where
  lastUsedAt : Int64
  usedCount : Int64
  deriving DecidableEq

/-- An integer of a document; a missing one reads as zero. -/
def intOf : Option TokenDoc → Int64
  | some (.leaf (.int n)) => n
  | _ => 0

/-- The status that a document holds. -/
def readStatus (status : Option TokenDoc) : AccessTokenStatus where
  lastUsedAt := intOf (fieldOf status lastUsedAtField)
  usedCount := intOf (fieldOf status usedCountField)

/-- The status of a token. -/
def statusOf (token : TokenDoc) : AccessTokenStatus := readStatus (token.field statusField)

/-- The fields of a status; both are always written. -/
def AccessTokenStatus.fields (status : AccessTokenStatus) (key : Str) : Option TokenDoc :=
  if key = lastUsedAtField then some (.leaf (.int status.lastUsedAt))
  else if key = usedCountField then some (.leaf (.int status.usedCount))
  else none

/-- A status as JSON. -/
def AccessTokenStatus.json (status : AccessTokenStatus) : TokenDoc :=
  .ofFields {lastUsedAtField, usedCountField} status.fields

/-- What `Get` leaves in an `AccessToken`, written as JSON again. -/
def typed (token : TokenDoc) : TokenDoc := token.setField statusField (statusOf token).json

/-- `copiedKey`: the use is counted. -/
def copiedKey (accessToken : TokenDoc) (updateTs : Int64) : TokenDoc :=
  accessToken.setField statusField
    { lastUsedAt := updateTs, usedCount := (statusOf accessToken).usedCount + 1 : AccessTokenStatus }.json

/-- `client.MergeFrom(&accessToken)` of `copiedKey` -/
def countPatch (accessToken : TokenDoc) (updateTs : Int64) : Option (Patch Str TokenScalar) :=
  diff accessToken (copiedKey accessToken updateTs)

/-! ## 2. The server of the tokens -/

/-- What the API server knows of the kind: whether the CRD declares the status sub-resource, and its schema. -/
structure Crd where
  status : Bool
  valid : TokenDoc → Bool

/-- A token with the status of another. -/
def withStatusOf (old new : TokenDoc) : TokenDoc :=
  .ofFields (insert statusField (old.keys ∪ new.keys))
    (Function.update new.field statusField (old.field statusField))

/-- What a write of the main resource stores. -/
def Crd.mainResource (crd : Crd) (old new : TokenDoc) : TokenDoc :=
  if crd.status = true then withStatusOf old new else new

/-- `core.kalm.dev_accesstokens.yaml`: the sub-resource is declared. -/
def accessTokenCrd (valid : TokenDoc → Bool) : Crd where
  status := true
  valid := valid

/-- The stored tokens, by name. -/
abbrev Tokens := Str → Option TokenDoc

/-- The calls of the handler about a token. -/
inductive TokenCall where
  | get (name : Str)
  | patch (name : Str) (patch : Option (Patch Str TokenScalar))

/-- What a call returns. -/
@[reducible] def TokenCall.Reply : TokenCall → Type
  | .get _ => TokenDoc
  | .patch .. => Unit

/-- The token that a patch leaves, if the server takes it. -/
def Crd.patchedToken (crd : Crd) (patch : Option (Patch Str TokenScalar)) (token : TokenDoc) : Option TokenDoc :=
  match patched patch (some token) with
  | none => none
  | some new => if crd.valid (crd.mainResource token new) = true then some (crd.mainResource token new) else none

/-- The answer to a call, and the tokens after it. -/
def Crd.serve (crd : Crd) : (c : TokenCall) → Tokens → Except ApiError c.Reply × Tokens
  | .get name, tokens =>
    match tokens name with
    | none => (.error .notFound, tokens)
    | some token => (.ok (typed token), tokens)
  | .patch name patch, tokens =>
    match tokens name with
    | none => (.error .notFound, tokens)
    | some token =>
      match crd.patchedToken patch token with
      | none => (.error .invalid, tokens)
      | some new => (.ok (), Function.update tokens name (some new))

/-! ## 3. The handler -/

/-- `DeployWebhookCallParams` -/
structure DeployWebhookCallParams where
  deployKey : Str
  ns : Str
  componentName : Str
  imageTag : Str
  deriving DecidableEq

/-- A request: its body, `none` where `Bind` fails, and its `Authorization` header. -/
structure DeployRequest where
  body : Option DeployWebhookCallParams
  authorization : Str

/-- What the handler returns an error for. -/
inductive WebhookError where
  | bind
  | message (text : Str)
  | unauthorized (text : Str)
  | noObjectEditorRole (ns obj : Str)
  | api (e : ApiError)
  | panicked

/-- The text of an error of the handler's own. -/
def WebhookError.text : WebhookError → Option Str
  | .message text => some text
  | .unauthorized text => some text
  | .noObjectEditorRole ns obj =>
    some (str "Require editor role. [obj " ++ obj ++ str ", application " ++ ns ++ str "]")
  | _ => none

/-- What the handler runs in: the manager of the clients, whether a resource manager can be built, and the two
    servers. -/
structure Environment where
  manager : SsoManager
  builds : Bool
  server : ApiServer
  crd : Crd

/-- `"components/" + callParams.ComponentName` -/
def DeployWebhookCallParams.object (callParams : DeployWebhookCallParams) : Str :=
  str "components/" ++ callParams.componentName

/-- The part before the first API call: who calls, and for what. -/
def authorize (env : Environment) (req : DeployRequest) :
    Except WebhookError (Str × DeployWebhookCallParams) :=
  match req.body with
  | none => .error .bind
  | some body =>
    let bearerToken := extractTokenFromHeader req.authorization
    let callParams := if bearerToken ≠ [] then { body with deployKey := bearerToken } else body
    if callParams.deployKey = [] then .error (.message (str "deployKey can't be blank"))
    else if callParams.ns = [] then .error (.message (str "application can't be blank"))
    else if callParams.componentName = [] then .error (.message (str "componentName can't be blank"))
    else
      match env.manager.getClientInfoFromToken callParams.deployKey with
      | .error text => .error (.unauthorized text)
      | .ok clientInfo =>
        if env.builds = false then .error (.message (str "invalid access token"))
        else
          match canEdit env.manager.policies clientInfo.toClientInfo callParams.ns callParams.object with
          | none => .error .panicked
          | some false => .error (.noObjectEditorRole callParams.ns callParams.object)
          | some true => .ok (clientInfo.name, callParams)

/-- `replaceImageTag` -/
def replaceImageTag (image tag : Str) : Str :=
  if colon ∉ image then image ++ colon :: tag
  else [colon].intercalate ((image.splitOn colon).dropLast ++ [tag])

/-- `AnnoLastUpdatedByWebhook` -/
def annoLastUpdatedByWebhook : Str := str "last-updated-by-webhook"

/-- A field of a document that may be missing, or the object without fields. -/
def fieldOrEmpty (obj : Doc) (key : Str) : Doc := (obj.field key).getD emptyDoc

/-- `Spec.Image` -/
def imageOf (component : Doc) : Str :=
  match (fieldOrEmpty component (str "spec")).field (str "image") with
  | some (.leaf (.text image)) => image
  | _ => []

/-- `copiedComp`: the tag of the image, and the time of the call. -/
def copiedComp (crdComp : Doc) (imageTag : Str) (updateTs : Int64) : Doc :=
  let tagged :=
    if imageTag = [] then crdComp
    else crdComp.setField (str "spec") ((fieldOrEmpty crdComp (str "spec")).setField (str "image")
      (Doc.text (replaceImageTag (imageOf crdComp) imageTag)))
  let metadata := fieldOrEmpty tagged (str "metadata")
  tagged.setField (str "metadata") (metadata.setField (str "annotations")
    ((fieldOrEmpty metadata (str "annotations")).setField annoLastUpdatedByWebhook
      (Doc.text (formatInt updateTs.toInt))))

/-- Where the handler is, between two API calls. -/
inductive Phase where
  | received
  | fetched (client : Str) (callParams : DeployWebhookCallParams) (crdComp : Doc)
  | updated (client : Str) (updateTs : Int64)
  | read (client : Str) (updateTs : Int64) (accessToken : TokenDoc)
  | answered (result : Except WebhookError Int64)

/-- A call of the webhook; the answer of one that succeeds is shown with its `updateTs`. -/
structure WebhookCall where
  request : DeployRequest
  phase : Phase

/-- One API call of one webhook call: which, what becomes of it, the clock, and the seed of admission. -/
structure Event where
  call : Nat
  fault : Fault
  now : Int64
  seed : Seed

/-- The cluster, and the calls of the webhook. -/
structure World where
  components : Cluster
  tokens : Tokens
  calls : List WebhookCall

/-- What an API call of a webhook call leaves: its next phase, the components and the tokens. -/
def stepCall (env : Environment) (w : World) (e : Event) (c : WebhookCall) : Phase × Cluster × Tokens :=
  match c.phase with
  | .received =>
    match authorize env c.request with
    | .error err => (.answered (.error err), w.components, w.tokens)
    | .ok (client, callParams) =>
      let r := meet (env.server.answer e.seed) .unavailable e.fault
        (.get .component (callParams.ns, callParams.componentName)) w.components
      match r.1 with
      | .error err => (.answered (.error (.api err)), r.2, w.tokens)
      | .ok crdComp => (.fetched client callParams crdComp, r.2, w.tokens)
  | .fetched client callParams crdComp =>
    let r := meet (env.server.answer e.seed) .unavailable e.fault
      (.patch .component (callParams.ns, callParams.componentName)
        (diff crdComp (copiedComp crdComp callParams.imageTag e.now))) w.components
    match r.1 with
    | .error err => (.answered (.error (.api err)), r.2, w.tokens)
    | .ok _ => (.updated client e.now, r.2, w.tokens)
  | .updated client updateTs =>
    let r := meet env.crd.serve .unavailable e.fault (.get client) w.tokens
    match r.1 with
    -- "fail to get access token" is logged, and the call succeeds
    | .error _ => (.answered (.ok updateTs), w.components, r.2)
    | .ok accessToken => (.read client updateTs accessToken, w.components, r.2)
  | .read client updateTs accessToken =>
    -- "fail update status of access token" is logged as well
    (.answered (.ok updateTs), w.components,
      (meet env.crd.serve .unavailable e.fault (.patch client (countPatch accessToken updateTs)) w.tokens).2)
  | .answered result => (.answered result, w.components, w.tokens)

/-- One step of the calls; a call that is not there does nothing. -/
def step (env : Environment) (w : World) (e : Event) : World :=
  match w.calls[e.call]? with
  | none => w
  | some c =>
    let r := stepCall env w e c
    { components := r.2.1, tokens := r.2.2, calls := w.calls.set e.call { c with phase := r.1 } }

/-- The calls in the order of the events. -/
def run (env : Environment) (w : World) (events : List Event) : World := events.foldl (step env) w

/-! ## 4. The statement -/

/-- The time of a call that succeeded. -/
def WebhookCall.time? (c : WebhookCall) : Option Int64 :=
  match c.phase with
  | .answered (.ok updateTs) => some updateTs
  | _ => none

/-- The calls come in with one access token, which is stored; stored tokens are objects. -/
structure Start (env : Environment) (name : Str) (w : World) : Prop where
  received : ∀ c ∈ w.calls, c.phase = .received
  oneToken : ∀ c ∈ w.calls, ∀ client callParams, authorize env c.request = .ok (client, callParams) → client = name
  stored : (w.tokens name).isSome
  objects : ∀ n token, w.tokens n = some token → IsObj (some token)

/-- The status of the token. -/
def tokenStatus (w : World) (name : Str) : AccessTokenStatus := readStatus (fieldOf (w.tokens name) statusField)

/-- A field of the token that is not of the count stays as it is, and so does every other token. -/
structure Framed (name : Str) (w w' : World) : Prop where
  others : ∀ n, n ≠ name → w'.tokens n = w.tokens n
  fields : ∀ key, key ≠ statusField → fieldOf (w'.tokens name) key = fieldOf (w.tokens name) key
  statusFields : ∀ key, key ≠ lastUsedAtField → key ≠ usedCountField →
    fieldOf (fieldOf (w'.tokens name) statusField) key = fieldOf (fieldOf (w.tokens name) statusField) key

/-- The latest of the times, or the start where there is none. -/
def IsLatest (times : List Int64) (start latest : Int64) : Prop :=
  if times = [] then latest = start else latest ∈ times ∧ ∀ t ∈ times, t.toInt ≤ latest.toInt

/-- **The uses are counted**: as many more as there are calls, the last use at the latest of their times, and nothing
    else of the tokens changes. -/
structure Counted (name : Str) (w w' : World) : Prop where
  usedCount : (tokenStatus w' name).usedCount.toInt = (tokenStatus w name).usedCount.toInt + w'.calls.length
  lastUsedAt : IsLatest (w'.calls.filterMap WebhookCall.time?) (tokenStatus w name).lastUsedAt
    (tokenStatus w' name).lastUsedAt
  framed : Framed name w w'

/-- What the step of a call must be like for the call to be counted, by its phase. -/
def Phase.Meets (env : Environment) (w : World) (e : Event) : Phase → Prop
  | .updated _ _ => e.fault = .served
  | .read client updateTs accessToken =>
    e.fault ≠ .refused ∧ (statusOf accessToken).usedCount = (tokenStatus w client).usedCount ∧
      (tokenStatus w client).usedCount.toInt + 1 < 2 ^ 63 ∧
      ∀ token ∈ w.tokens client, (env.crd.patchedToken (countPatch accessToken updateTs) token).isSome
  | .received => True
  | .fetched .. => True
  | .answered _ => True

instance (env : Environment) (w : World) (e : Event) : DecidablePred (Phase.Meets env w e)
  | .updated _ _ => inferInstanceAs (Decidable (e.fault = .served))
  | .read client updateTs accessToken =>
    inferInstanceAs (Decidable (e.fault ≠ .refused ∧
      (statusOf accessToken).usedCount = (tokenStatus w client).usedCount ∧
      (tokenStatus w client).usedCount.toInt + 1 < 2 ^ 63 ∧
      ∀ token ∈ w.tokens client, (env.crd.patchedToken (countPatch accessToken updateTs) token).isSome))
  | .received => isTrue trivial
  | .fetched .. => isTrue trivial
  | .answered _ => isTrue trivial

/-- **What a step must be like for its call to be counted**: the read of the token is answered; the patch comes through
    and is valid, no other call has counted since the read, and the count does not overflow. -/
def Meets (env : Environment) (w : World) (e : Event) : Prop := ∀ c ∈ w.calls[e.call]?, c.phase.Meets env w e

instance (env : Environment) (w : World) (e : Event) : Decidable (Meets env w e) :=
  inferInstanceAs (Decidable (∀ c ∈ w.calls[e.call]?, c.phase.Meets env w e))

/-- The time of the call that patches the token in a step. -/
def patchTime? (w : World) (e : Event) : Option Int64 :=
  match (w.calls[e.call]?).map WebhookCall.phase with
  | some (.read _ updateTs _) => some updateTs
  | _ => none

/-- The times of the calls in the order in which they patch the token. -/
def patchTimes (env : Environment) : World → List Event → List Int64
  | _, [] => []
  | w, e :: events => (patchTime? w e).toList ++ patchTimes env (step env w e) events

/-- The call that patches the token last is the latest. -/
def LatestLast (times : List Int64) : Prop := ∀ t ∈ times.getLast?, ∀ t' ∈ times, t'.toInt ≤ t.toInt

instance (times : List Int64) : Decidable (LatestLast times) :=
  letI (t : Int64) : Decidable (∀ t' ∈ times, t'.toInt ≤ t.toInt) := List.decidableBAll _ times
  Option.decidableForallMem times.getLast?

/-! ## 5. What a patch leaves of a token -/

theorem fields_isSome {status : AccessTokenStatus} {key : Str} (h : (status.fields key).isSome) :
    key ∈ ({lastUsedAtField, usedCountField} : Finset Str) := by
  rw [Finset.mem_insert, Finset.mem_singleton]
  unfold AccessTokenStatus.fields at h
  split at h
  · rename_i hkey
    exact Or.inl hkey
  split at h
  · rename_i hkey
    exact Or.inr hkey
  · cases h

theorem field_json (status : AccessTokenStatus) (key : Str) : status.json.field key = status.fields key :=
  Json.field_ofFields (fun _ h => fields_isSome h) key

theorem fields_lastUsedAt (status : AccessTokenStatus) :
    status.fields lastUsedAtField = some (.leaf (.int status.lastUsedAt)) := if_pos rfl

theorem fields_usedCount (status : AccessTokenStatus) :
    status.fields usedCountField = some (.leaf (.int status.usedCount)) :=
  (if_neg (by decide)).trans (if_pos rfl)

/-- A status is read as it is written. -/
theorem readStatus_json (status : AccessTokenStatus) : readStatus (some status.json) = status := by
  rw [readStatus, fieldOf, fieldOf, Option.bind_some, Option.bind_some, field_json, field_json, fields_lastUsedAt,
    fields_usedCount]
  rfl

theorem field_typed (token : TokenDoc) : (typed token).field statusField = some (statusOf token).json := by
  rw [typed, Json.field_setField, Function.update_self]

theorem statusOf_typed (token : TokenDoc) : statusOf (typed token) = statusOf token := by
  rw [statusOf, field_typed, readStatus_json]

theorem add_one_ne (n : Int64) : n + 1 ≠ n := by
  intro h
  have hint : (n + 1).toInt = n.toInt := congrArg Int64.toInt h
  have hlt := Int64.toInt_lt n
  have hle := Int64.le_toInt n
  rw [Int64.toInt_add] at hint
  simp only [Int64.reduceToInt, Int.bmod] at hint
  omega

/-- An integer of a patch is set where it differs. -/
theorem intOf_patched (a b : Int64) (x : Option TokenDoc) :
    intOf (patched (delta (some (.leaf (.int a))) (some (.leaf (.int b)))) x) = if a = b then intOf x else b := by
  rw [delta, diff]
  by_cases h : a = b
  · rw [if_pos (congrArg TokenScalar.int h), if_pos h]
    rfl
  · rw [if_neg fun e => h (TokenScalar.int.inj e), if_neg h]
    rfl

section Patch

variable {old new : AccessTokenStatus} {status : Option TokenDoc}

theorem fieldOf_patched_status (old new : AccessTokenStatus) (status : Option TokenDoc) (key : Str) :
    fieldOf (patched (delta (some old.json) (some new.json)) status) key =
      patched (delta (old.fields key) (new.fields key)) (fieldOf status key) := by
  have hfield : fieldOf (patched (delta (some old.json) (some new.json)) status) key =
      patched (delta (old.json.field key) (new.json.field key)) (fieldOf status key) :=
    MergePatch.fieldOf_diff old.json status key
  rw [hfield, field_json, field_json]

/-- **The status behind a patch of the count.** -/
theorem readStatus_patched (old new : AccessTokenStatus) (status : Option TokenDoc) :
    readStatus (patched (delta (some old.json) (some new.json)) status) =
      { lastUsedAt := if old.lastUsedAt = new.lastUsedAt then (readStatus status).lastUsedAt else new.lastUsedAt
        usedCount := if old.usedCount = new.usedCount then (readStatus status).usedCount else new.usedCount } := by
  rw [readStatus, fieldOf_patched_status, fieldOf_patched_status, fields_lastUsedAt, fields_lastUsedAt,
    fields_usedCount, fields_usedCount, intOf_patched, intOf_patched]
  rfl

/-- The other fields of a status are not named by the patch. -/
theorem fieldOf_patched_other {key : Str} (hlast : key ≠ lastUsedAtField) (hused : key ≠ usedCountField) :
    fieldOf (patched (delta (some old.json) (some new.json)) status) key = fieldOf status key := by
  have hnone (st : AccessTokenStatus) : st.fields key = none := (if_neg hlast).trans (if_neg hused)
  rw [fieldOf_patched_status, hnone, hnone]
  rfl

end Patch

section Token

variable {crd : Crd} {read token new : TokenDoc} {updateTs : Int64}

/-- The status that a call wants to leave. -/
def nextStatus (status : AccessTokenStatus) (updateTs : Int64) : AccessTokenStatus where
  lastUsedAt := updateTs
  usedCount := status.usedCount + 1

/-- The patch is about the status alone. -/
theorem fieldOf_countPatch (read : TokenDoc) (updateTs : Int64) (token : Option TokenDoc) :
    fieldOf (patched (countPatch (typed read) updateTs) token) =
      Function.update (fieldOf token) statusField
        (patched (delta (some (statusOf read).json) (some (nextStatus (statusOf read) updateTs).json))
          (fieldOf token statusField)) := by
  rw [countPatch, copiedKey, MergePatch.fieldOf_diff_setField, field_typed, statusOf_typed]
  rfl

theorem isObj_countPatch (read : TokenDoc) (updateTs : Int64) {token : Option TokenDoc} (h : IsObj token) :
    IsObj (patched (countPatch (typed read) updateTs) token) := by
  have hdiff : ∃ keys f, countPatch (typed read) updateTs = MergePatch.packed keys f := ⟨_, _, MergePatch.diff_obj⟩
  obtain ⟨keys, f, hdiff⟩ := hdiff
  rw [hdiff]
  exact MergePatch.isObj_packed h

/-- A token that the server has taken. -/
theorem patchedToken_eq_some {patch : Option (Patch Str TokenScalar)} :
    crd.patchedToken patch token = some new ↔
      ∃ full, patched patch (some token) = some full ∧ crd.valid (crd.mainResource token full) = true ∧
        crd.mainResource token full = new := by
  unfold Crd.patchedToken
  cases patched patch (some token) with
  | none => exact ⟨nofun, fun ⟨_, h, _⟩ => by cases h⟩
  | some full =>
      by_cases hvalid : crd.valid (crd.mainResource token full) = true
      · dsimp only
        rw [if_pos hvalid, Option.some_inj]
        exact ⟨fun h => ⟨full, rfl, hvalid, h⟩, fun ⟨_, h, _, hnew⟩ => Option.some.inj h ▸ hnew⟩
      · dsimp only
        rw [if_neg hvalid]
        exact ⟨nofun, fun ⟨_, h, hv, _⟩ => absurd (Option.some.inj h ▸ hv) hvalid⟩

/-- **With the sub-resource declared the patch of the count changes nothing.** -/
theorem patchedToken_declared (hcrd : crd.status = true) (hobj : IsObj (some token))
    (h : crd.patchedToken (countPatch (typed read) updateTs) token = some new) : new = token := by
  obtain ⟨full, hfull, _, rfl⟩ := patchedToken_eq_some.mp h
  have hfields := fieldOf_countPatch read updateTs (some token)
  rw [hfull] at hfields
  rw [Crd.mainResource, if_pos hcrd]
  have hsome (key : Str) (hk : (Function.update full.field statusField (token.field statusField) key).isSome) :
      key ∈ insert statusField (token.keys ∪ full.keys) := by
    rw [Finset.mem_insert, Finset.mem_union]
    by_cases hkey : key = statusField
    · exact Or.inl hkey
    · rw [Function.update_of_ne hkey, Json.field_isSome] at hk
      exact Or.inr (Or.inr hk)
  refine Option.some.inj (IsObj.ext ⟨_, _, rfl⟩ hobj fun key => ?_)
  have hfield : fieldOf (some (withStatusOf token full)) key =
      Function.update full.field statusField (token.field statusField) key := Json.field_ofFields hsome key
  rw [hfield]
  by_cases hkey : key = statusField
  · rw [hkey, Function.update_self]
    rfl
  · rw [Function.update_of_ne hkey]
    have hother : fieldOf (some full) key = fieldOf (some token) key := by
      rw [hfields, Function.update_of_ne hkey]
    exact hother

/-- Without it the fields of the status are set. -/
theorem patchedToken_undeclared (hcrd : crd.status = false)
    (h : crd.patchedToken (countPatch (typed read) updateTs) token = some new) :
    patched (countPatch (typed read) updateTs) (some token) = some new := by
  obtain ⟨full, hfull, _, hnew⟩ := patchedToken_eq_some.mp h
  have hmain : crd.mainResource token full = full := by
    rw [Crd.mainResource, if_neg]
    rw [hcrd]
    exact Bool.false_ne_true
  rw [hfull, ← hnew, hmain]

/-- **The status behind a count**: one more than was read, and the time, unless that was read already. -/
theorem readStatus_patchedToken (hcrd : crd.status = false)
    (h : crd.patchedToken (countPatch (typed read) updateTs) token = some new) :
    readStatus (fieldOf (some new) statusField) =
      { lastUsedAt := if (statusOf read).lastUsedAt = updateTs then (statusOf token).lastUsedAt else updateTs
        usedCount := (statusOf read).usedCount + 1 } := by
  rw [← patchedToken_undeclared hcrd h, fieldOf_countPatch, Function.update_self, readStatus_patched]
  have hne : ¬ (statusOf read).usedCount = (nextStatus (statusOf read) updateTs).usedCount :=
    fun e => add_one_ne _ e.symm
  rw [if_neg hne]
  rfl

theorem isObj_patchedToken (hobj : IsObj (some token))
    (h : crd.patchedToken (countPatch (typed read) updateTs) token = some new) : IsObj (some new) := by
  by_cases hcrd : crd.status = true
  · rw [patchedToken_declared hcrd hobj h]
    exact hobj
  · rw [← patchedToken_undeclared (Bool.not_eq_true _ ▸ hcrd) h]
    exact isObj_countPatch read updateTs hobj

/-- **What is not of the count stays.** -/
theorem framed_patchedToken (hobj : IsObj (some token))
    (h : crd.patchedToken (countPatch (typed read) updateTs) token = some new) :
    (∀ key, key ≠ statusField → fieldOf (some new) key = fieldOf (some token) key) ∧
      ∀ key, key ≠ lastUsedAtField → key ≠ usedCountField →
        fieldOf (fieldOf (some new) statusField) key = fieldOf (fieldOf (some token) statusField) key := by
  by_cases hcrd : crd.status = true
  · rw [patchedToken_declared hcrd hobj h]
    exact ⟨fun _ _ => rfl, fun _ _ _ => rfl⟩
  · rw [← patchedToken_undeclared (Bool.not_eq_true _ ▸ hcrd) h, fieldOf_countPatch]
    refine ⟨fun key hkey => Function.update_of_ne hkey .., fun key hlast hused => ?_⟩
    rw [Function.update_self]
    exact fieldOf_patched_other hlast hused

end Token

/-! ## 6. What a step does -/

/-- What the handler knows is about the token. -/
def Phase.OfToken (name : Str) : Phase → Prop
  | .received => True
  | .fetched client _ _ => client = name
  | .updated client _ => client = name
  | .read client _ accessToken => client = name ∧ ∃ read, accessToken = typed read
  | .answered _ => True

/-- A phase without a copy of the token, and not that of a call that succeeded. -/
def Phase.plain : Phase → Bool
  | .read .. => false
  | .answered (.ok _) => false
  | _ => true

/-- The status of the copy. -/
def Phase.copy : Phase → Option AccessTokenStatus
  | .read _ _ accessToken => some (statusOf accessToken)
  | _ => none

/-- The token is there, and every call is about it. -/
structure Well (env : Environment) (name : Str) (w : World) : Prop where
  requests : ∀ c ∈ w.calls, ∀ client callParams, authorize env c.request = .ok (client, callParams) → client = name
  phases : ∀ c ∈ w.calls, c.phase.OfToken name
  stored : (w.tokens name).isSome
  objects : ∀ n token, w.tokens n = some token → IsObj (some token)

theorem Start.well {env : Environment} {name : Str} {w : World} (h : Start env name w) : Well env name w where
  requests := h.oneToken
  phases c hc := by
    rw [h.received c hc]
    trivial
  stored := h.stored
  objects := h.objects

/-- The ways in which a call of the webhook goes on. -/
inductive Move (env : Environment) (name : Str) (w : World) (e : Event) : Phase → Phase → Tokens → Prop
  | quiet {p q : Phase} (hp : p.plain = true) (hnot : ∀ client updateTs, p ≠ .updated client updateTs)
      (hq : q.plain = true) (hof : q.OfToken name) : Move env name w e p q w.tokens
  | ended (updateTs : Int64) : Move env name w e (.answered (.ok updateTs)) (.answered (.ok updateTs)) w.tokens
  | gets {token : TokenDoc} (updateTs : Int64) (hserved : e.fault = .served) (hstored : w.tokens name = some token) :
      Move env name w e (.updated name updateTs) (.read name updateTs (typed token)) w.tokens
  | misses (updateTs : Int64) (hfault : e.fault ≠ .served) :
      Move env name w e (.updated name updateTs) (.answered (.ok updateTs)) w.tokens
  | drops {token read : TokenDoc} (updateTs : Int64) (hstored : w.tokens name = some token)
      (hwhy : e.fault = .refused ∨ env.crd.patchedToken (countPatch (typed read) updateTs) token = none) :
      Move env name w e (.read name updateTs (typed read)) (.answered (.ok updateTs)) w.tokens
  | counts {token read new : TokenDoc} (updateTs : Int64) (hfault : e.fault ≠ .refused)
      (hstored : w.tokens name = some token)
      (hnew : env.crd.patchedToken (countPatch (typed read) updateTs) token = some new) :
      Move env name w e (.read name updateTs (typed read)) (.answered (.ok updateTs))
        (Function.update w.tokens name (some new))

section Step

variable {env : Environment} {name : Str} {w : World} {e : Event} {c : WebhookCall}

theorem meet_getToken (crd : Crd) (fault : Fault) (name : Str) (tokens : Tokens) :
    (meet crd.serve .unavailable fault (.get name) tokens).2 = tokens := by
  rcases Calls.meet_state crd.serve .unavailable fault (.get name) tokens with h | h
  · exact h
  · rw [h, Crd.serve]
    split <;> rfl

/-- **A call goes on in one of these ways.** -/
theorem move_stepCall (hw : Well env name w) (hc : c ∈ w.calls) :
    Move env name w e c.phase (stepCall env w e c).1 (stepCall env w e c).2.2 := by
  have hof := hw.phases c hc
  obtain ⟨token, hstored⟩ := Option.isSome_iff_exists.mp hw.stored
  cases hphase : c.phase with
  | received =>
      rw [stepCall, hphase]
      dsimp only
      cases hauth : authorize env c.request with
      | error err => exact .quiet rfl (fun _ _ h => by cases h) rfl trivial
      | ok found =>
          obtain ⟨client, callParams⟩ := found
          have hclient := hw.requests c hc client callParams hauth
          dsimp only
          split
          · exact .quiet rfl (fun _ _ h => by cases h) rfl trivial
          · exact .quiet rfl (fun _ _ h => by cases h) rfl hclient
  | fetched client callParams crdComp =>
      rw [hphase] at hof
      rw [stepCall, hphase]
      dsimp only
      split
      · exact .quiet rfl (fun _ _ h => by cases h) rfl trivial
      · exact .quiet rfl (fun _ _ h => by cases h) rfl hof
  | updated client updateTs =>
      rw [hphase] at hof
      obtain rfl : client = name := hof
      rw [stepCall, hphase]
      dsimp only
      rw [meet_getToken]
      cases hfault : e.fault with
      | served =>
          have hanswer : (meet env.crd.serve .unavailable .served (.get client) w.tokens).1 = .ok (typed token) := by
            rw [meet, Crd.serve, hstored]
          rw [hanswer]
          exact .gets updateTs hfault hstored
      | refused => exact .misses updateTs (by rw [hfault]; intro h; cases h)
      | lost => exact .misses updateTs (by rw [hfault]; intro h; cases h)
  | read client updateTs accessToken =>
      rw [hphase] at hof
      obtain ⟨rfl, read, rfl⟩ := hof
      rw [stepCall, hphase]
      dsimp only
      have hserve : (env.crd.serve (.patch client (countPatch (typed read) updateTs)) w.tokens).2 =
          match env.crd.patchedToken (countPatch (typed read) updateTs) token with
          | none => w.tokens
          | some new => Function.update w.tokens client (some new) := by
        rw [Crd.serve, hstored]
        dsimp only
        split <;> rfl
      by_cases hfault : e.fault = .refused
      · rw [hfault]
        exact .drops updateTs hstored (Or.inl hfault)
      · have hmeet : (meet env.crd.serve .unavailable e.fault (.patch client (countPatch (typed read) updateTs))
            w.tokens).2 = (env.crd.serve (.patch client (countPatch (typed read) updateTs)) w.tokens).2 := by
          cases hf : e.fault with
          | served => rfl
          | refused => exact absurd hf hfault
          | lost => rfl
        rw [hmeet, hserve]
        cases hnew : env.crd.patchedToken (countPatch (typed read) updateTs) token with
        | none => exact .drops updateTs hstored (Or.inr hnew)
        | some new => exact .counts updateTs hfault hstored hnew
  | answered result =>
      rw [stepCall, hphase]
      cases result with
      | error err => exact .quiet rfl (fun _ _ h => by cases h) rfl trivial
      | ok updateTs => exact .ended updateTs

/-- The step of a call that is there. -/
theorem step_eq (h : w.calls[e.call]? = some c) :
    step env w e =
      { components := (stepCall env w e c).2.1
        tokens := (stepCall env w e c).2.2
        calls := w.calls.set e.call { c with phase := (stepCall env w e c).1 } } := by
  rw [step, h]

/-- What the way of a call does to the tokens. -/
theorem Move.tokens_cases {p q : Phase} {tokens : Tokens} (h : Move env name w e p q tokens) :
    tokens = w.tokens ∨ ∃ token read new updateTs, w.tokens name = some token ∧
      env.crd.patchedToken (countPatch (typed read) updateTs) token = some new ∧
      tokens = Function.update w.tokens name (some new) := by
  cases h with
  | counts updateTs _ hstored hnew => exact Or.inr ⟨_, _, _, updateTs, hstored, hnew, rfl⟩
  | _ => exact Or.inl rfl

theorem Move.ofToken {p q : Phase} {tokens : Tokens} (h : Move env name w e p q tokens) : q.OfToken name := by
  cases h with
  | quiet _ _ _ hof => exact hof
  | gets => exact ⟨rfl, _, rfl⟩
  | _ => trivial

/-- **The token stays, and every call stays about it.** -/
theorem well_step (hw : Well env name w) (e : Event) : Well env name (step env w e) := by
  cases hget : w.calls[e.call]? with
  | none =>
      rw [step, hget]
      exact hw
  | some c =>
      have hc : c ∈ w.calls := List.mem_of_getElem? hget
      have hmove := move_stepCall (e := e) hw hc
      rw [step_eq hget]
      have hset {p : WebhookCall → Prop} (hold : ∀ c ∈ w.calls, p c)
          (hnew : p { c with phase := (stepCall env w e c).1 }) :
          ∀ d ∈ w.calls.set e.call { c with phase := (stepCall env w e c).1 }, p d := by
        intro d hd
        rcases List.mem_or_eq_of_mem_set hd with hd | rfl
        · exact hold d hd
        · exact hnew
      refine ⟨hset hw.requests (hw.requests c hc), hset hw.phases hmove.ofToken, ?_, ?_⟩
      · rcases hmove.tokens_cases with htokens | ⟨token, read, new, updateTs, _, _, htokens⟩
        · rw [htokens]
          exact hw.stored
        · rw [htokens]
          dsimp only
          rw [Function.update_self]
          rfl
      · rcases hmove.tokens_cases with htokens | ⟨token, read, new, updateTs, hstored, hnew, htokens⟩
        · rw [htokens]
          exact hw.objects
        · intro n t ht
          rw [htokens] at ht
          dsimp only at ht
          by_cases hn : n = name
          · subst hn
            rw [Function.update_self] at ht
            rw [← ht]
            exact isObj_patchedToken (hw.objects n token hstored) hnew
          · rw [Function.update_of_ne hn] at ht
            exact hw.objects n t ht

theorem Framed.refl (name : Str) (w : World) : Framed name w w :=
  ⟨fun _ _ => rfl, fun _ _ => rfl, fun _ _ _ => rfl⟩

theorem Framed.trans {w' w'' : World} (h : Framed name w w') (h' : Framed name w' w'') : Framed name w w'' where
  others n hn := (h'.others n hn).trans (h.others n hn)
  fields key hkey := (h'.fields key hkey).trans (h.fields key hkey)
  statusFields key hlast hused := (h'.statusFields key hlast hused).trans (h.statusFields key hlast hused)

/-- **A step changes nothing but the count.** -/
theorem framed_step (hw : Well env name w) (e : Event) : Framed name w (step env w e) := by
  cases hget : w.calls[e.call]? with
  | none =>
      rw [step, hget]
      exact .refl name w
  | some c =>
      rw [step_eq hget]
      rcases (move_stepCall (e := e) hw (List.mem_of_getElem? hget)).tokens_cases with
        htokens | ⟨token, read, new, updateTs, hstored, hnew, htokens⟩
      · rw [htokens]
        exact ⟨fun _ _ => rfl, fun _ _ => rfl, fun _ _ _ => rfl⟩
      · obtain ⟨hfields, hstatus⟩ := framed_patchedToken (hw.objects name token hstored) hnew
        rw [htokens]
        refine ⟨fun n hn => Function.update_of_ne hn .., fun key hkey => ?_, fun key hlast hused => ?_⟩
        · dsimp only
          rw [Function.update_self, hstored]
          exact hfields key hkey
        · dsimp only
          rw [Function.update_self, hstored]
          exact hstatus key hlast hused

theorem framed_run (hw : Well env name w) (events : List Event) : Framed name w (run env w events) := by
  induction events generalizing w with
  | nil => exact .refl name w
  | cons e events ih => exact (framed_step hw e).trans (ih (well_step hw e))

/-- **With the sub-resource declared no step changes a token.** -/
theorem tokens_step_of_status (hcrd : env.crd.status = true) (hw : Well env name w) (e : Event) :
    (step env w e).tokens = w.tokens := by
  cases hget : w.calls[e.call]? with
  | none => rw [step, hget]
  | some c =>
      rw [step_eq hget]
      rcases (move_stepCall (e := e) hw (List.mem_of_getElem? hget)).tokens_cases with
        htokens | ⟨token, read, new, updateTs, hstored, hnew, htokens⟩
      · exact htokens
      · rw [patchedToken_declared hcrd (hw.objects name token hstored) hnew] at htokens
        exact htokens.trans (Function.update_eq_self_iff.mpr hstored.symm)

theorem tokens_run_of_status (hcrd : env.crd.status = true) (hw : Well env name w) (events : List Event) :
    (run env w events).tokens = w.tokens := by
  induction events generalizing w with
  | nil => rfl
  | cons e events ih => exact (ih (well_step hw e)).trans (tokens_step_of_status hcrd hw e)

end Step

/-! ## 7. Counting without the sub-resource -/

theorem toInt_add_one_le (n : Int64) : (n + 1).toInt ≤ n.toInt + 1 := by
  have hlt := Int64.toInt_lt n
  have hle := Int64.le_toInt n
  rw [Int64.toInt_add]
  simp only [Int64.reduceToInt, Int.bmod]
  omega

theorem toInt_add_one {n : Int64} (h : n.toInt + 1 < 2 ^ 63) : (n + 1).toInt = n.toInt + 1 := by
  have hle := Int64.le_toInt n
  rw [Int64.toInt_add]
  simp only [Int64.reduceToInt, Int.bmod]
  omega

/-- A count that overflows is not above the old one. -/
theorem toInt_add_one_overflow {n : Int64} (h : ¬ n.toInt + 1 < 2 ^ 63) : (n + 1).toInt ≤ n.toInt := by
  have hlt := Int64.toInt_lt n
  rw [Int64.toInt_add]
  simp only [Int64.reduceToInt, Int.bmod]
  omega

theorem set_getElem? {α : Type} {l : List α} {i : Nat} {a : α} (h : l[i]? = some a) : l.set i a = l := by
  obtain ⟨hi, hget⟩ := List.getElem?_eq_some_iff.mp h
  rw [← hget, List.set_getElem_self]

/-- One element is replaced that was left out. -/
theorem perm_filterMap_set {α β : Type} {f : α → Option β} {l : List α} {i : Nat} {a : α} (h : l[i]? = some a)
    (ha : f a = none) (b : α) : ((l.set i b).filterMap f).Perm ((f b).toList ++ l.filterMap f) := by
  obtain ⟨hi, hget⟩ := List.getElem?_eq_some_iff.mp h
  have hnew := (List.set_perm_cons_eraseIdx hi b).filterMap f
  have hold := (List.getElem_cons_eraseIdx_perm hi).filterMap f
  rw [hget, List.filterMap_cons_none ha] at hold
  refine hnew.trans ?_
  cases hb : f b with
  | none =>
      rw [List.filterMap_cons_none hb]
      exact hold
  | some t =>
      rw [List.filterMap_cons_some hb]
      exact hold.cons t

/-- The times of the calls that have succeeded. -/
def times (w : World) : List Int64 := w.calls.filterMap WebhookCall.time?

/-- The count, and every copy of it, is at most `b`. -/
structure AtMost (name : Str) (b : Int) (w : World) : Prop where
  count : (tokenStatus w name).usedCount.toInt ≤ b
  copies : ∀ c ∈ w.calls, ∀ status, c.phase.copy = some status → status.usedCount.toInt ≤ b

/-- **Every call that has succeeded is counted**, and a copy with the current count is current. -/
structure Exact (name : Str) (start : Int) (w : World) : Prop where
  count : (tokenStatus w name).usedCount.toInt = start + (times w).length
  atMost : AtMost name (start + (times w).length) w
  fresh : ∀ c ∈ w.calls, ∀ status, c.phase.copy = some status →
    status.usedCount = (tokenStatus w name).usedCount → status.lastUsedAt = (tokenStatus w name).lastUsedAt

section Count

variable {env : Environment} {name : Str} {w : World} {e : Event} {c : WebhookCall} {start : Int}

theorem tokenStatus_congr {w' : World} (h : w'.tokens = w.tokens) : tokenStatus w' name = tokenStatus w name := by
  rw [tokenStatus, h, tokenStatus]

theorem tokenStatus_eq {token : TokenDoc} (h : w.tokens name = some token) : tokenStatus w name = statusOf token := by
  rw [tokenStatus, h]
  rfl

/-- The phases of a step: of a call, and its next one. -/
structure Stepped (env : Environment) (name : Str) (w : World) (e : Event) (c : WebhookCall) (q : Phase) : Prop where
  get : w.calls[e.call]? = some c
  calls : (step env w e).calls = w.calls.set e.call { c with phase := q }
  move : Move env name w e c.phase q (step env w e).tokens

theorem stepped (hw : Well env name w) (hget : w.calls[e.call]? = some c) :
    ∃ q, Stepped env name w e c q := by
  refine ⟨(stepCall env w e c).1, hget, ?_, ?_⟩
  · rw [step_eq hget]
  · rw [step_eq hget]
    exact move_stepCall hw (List.mem_of_getElem? hget)

theorem step_of_none (hget : w.calls[e.call]? = none) : step env w e = w := by rw [step, hget]

variable {q : Phase}

/-- What holds of the calls and of the new phase holds of the calls behind the step. -/
theorem Stepped.forall_calls (h : Stepped env name w e c q) {p : WebhookCall → Prop} (hold : ∀ c ∈ w.calls, p c)
    (hnew : p { c with phase := q }) : ∀ d ∈ (step env w e).calls, p d := by
  intro d hd
  rw [h.calls] at hd
  rcases List.mem_or_eq_of_mem_set hd with hd | rfl
  · exact hold d hd
  · exact hnew

theorem Stepped.times_perm (h : Stepped env name w e c q) (hnone : c.time? = none) :
    (times (step env w e)).Perm (({ c with phase := q } : WebhookCall).time?.toList ++ times w) := by
  rw [times, h.calls]
  exact perm_filterMap_set h.get hnone _

/-- A phase without a time. -/
theorem time?_of_plain {c : WebhookCall} (h : c.phase.plain = true) : c.time? = none := by
  unfold WebhookCall.time?
  cases hphase : c.phase with
  | answered result =>
      cases result with
      | ok updateTs =>
          rw [hphase] at h
          cases h
      | error err => rfl
  | _ => rfl

theorem copy_of_plain {p : Phase} (h : p.plain = true) : p.copy = none := by
  cases p with
  | read => cases h
  | _ => rfl

/-- What a step is to the token, and to the times of the calls. -/
inductive Effect (env : Environment) (name : Str) (w : World) (e : Event) (w' : World) : Prop
  | idle (hstatus : tokenStatus w' name = tokenStatus w name) (htimes : (times w').Perm (times w))
      (hpatch : patchTime? w e = none) (hmeets : Meets env w e)
  | uncounted (updateTs : Int64) (hstatus : tokenStatus w' name = tokenStatus w name)
      (htimes : (times w').Perm (updateTs :: times w)) (hmeets : ¬ Meets env w e)
  | counted (updateTs : Int64) (read : AccessTokenStatus) (hcopy : ∃ c ∈ w.calls, c.phase.copy = some read)
      (hstatus : tokenStatus w' name =
        { lastUsedAt := if read.lastUsedAt = updateTs then (tokenStatus w name).lastUsedAt else updateTs
          usedCount := read.usedCount + 1 })
      (htimes : (times w').Perm (updateTs :: times w)) (hpatch : patchTime? w e = some updateTs)
      (hmeets : Meets env w e ↔
        read.usedCount = (tokenStatus w name).usedCount ∧ (tokenStatus w name).usedCount.toInt + 1 < 2 ^ 63)

theorem meets_iff (hget : w.calls[e.call]? = some c) : Meets env w e ↔ c.phase.Meets env w e := by
  rw [Meets, hget]
  exact ⟨fun h => h c rfl, fun h d hd => Option.mem_some.mp hd ▸ h⟩

/-- **A step has one of these effects.** -/
theorem Stepped.effect (hcrd : env.crd.status = false) (h : Stepped env name w e c q) :
    Effect env name w e (step env w e) := by
  obtain ⟨hget, hcalls, hmove⟩ := h
  have hphase : (w.calls[e.call]?).map WebhookCall.phase = some c.phase := by
    rw [hget]
    rfl
  have hmeets : Meets env w e ↔ c.phase.Meets env w e := meets_iff hget
  have hperm (hnone : c.time? = none) := Stepped.times_perm ⟨hget, hcalls, hmove⟩ hnone
  generalize htokens : (step env w e).tokens = tokens at hmove
  generalize hp : c.phase = p at hmove hphase hmeets
  have hcopied (read : AccessTokenStatus) (hread : p.copy = some read) : ∃ c ∈ w.calls, c.phase.copy = some read :=
    ⟨c, List.mem_of_getElem? hget, hp ▸ hread⟩
  cases hmove with
  | quiet hplain hnot hq hof =>
      have htime : ({ c with phase := q } : WebhookCall).time? = none := time?_of_plain hq
      have htimes := hperm (time?_of_plain (hp ▸ hplain))
      rw [htime] at htimes
      refine .idle (tokenStatus_congr htokens) htimes ?_ ?_
      · rw [patchTime?, hphase]
        cases p with
        | read => cases hplain
        | _ => rfl
      · rw [hmeets]
        cases p with
        | read => cases hplain
        | updated client updateTs => exact absurd rfl (hnot client updateTs)
        | _ => trivial
  | ended updateTs =>
      have hsame : ({ c with phase := .answered (.ok updateTs) } : WebhookCall) = c := by rw [← hp]
      refine .idle (tokenStatus_congr htokens) ?_ ?_ ?_
      · rw [times, times, hcalls, hsame, set_getElem? hget]
      · rw [patchTime?, hphase]
      · rw [hmeets]
        trivial
  | gets updateTs hserved hstored =>
      refine .idle (tokenStatus_congr htokens) (hperm ?_) ?_ ?_
      · rw [WebhookCall.time?, hp]
      · rw [patchTime?, hphase]
      · rw [hmeets]
        exact hserved
  | misses updateTs hfault =>
      refine .uncounted updateTs (tokenStatus_congr htokens) (hperm ?_) ?_
      · rw [WebhookCall.time?, hp]
      · rw [hmeets]
        exact hfault
  | drops updateTs hstored hwhy =>
      refine .uncounted updateTs (tokenStatus_congr htokens) (hperm ?_) ?_
      · rw [WebhookCall.time?, hp]
      · rw [hmeets]
        intro ⟨hfault, _, _, hvalid⟩
        rcases hwhy with hrefused | hnone
        · exact hfault hrefused
        · have hsome := hvalid _ hstored
          rw [hnone] at hsome
          cases hsome
  | @counts token read new updateTs hfault hstored hnew =>
      have hread : Phase.copy (.read name updateTs (typed read)) = some (statusOf read) := by
        rw [Phase.copy, statusOf_typed]
      refine .counted updateTs (statusOf read) (hcopied _ hread) ?_ (hperm ?_) ?_ ?_
      · rw [tokenStatus_eq hstored, tokenStatus, htokens, Function.update_self]
        exact readStatus_patchedToken hcrd hnew
      · rw [WebhookCall.time?, hp]
      · rw [patchTime?, hphase]
      · rw [hmeets, Phase.Meets, statusOf_typed]
        refine ⟨fun ⟨_, hcurrent, hlt, _⟩ => ⟨hcurrent, hlt⟩, fun ⟨hcurrent, hlt⟩ => ⟨hfault, hcurrent, hlt, ?_⟩⟩
        intro token' htoken'
        obtain rfl : token = token' := Option.some.inj (hstored.symm.trans htoken')
        rw [hnew]
        rfl

/-- The effect of any step. -/
theorem effect_step (hcrd : env.crd.status = false) (hw : Well env name w) (e : Event) :
    Effect env name w e (step env w e) := by
  cases hget : w.calls[e.call]? with
  | none =>
      rw [step_of_none hget]
      refine .idle rfl (.refl _) ?_ ?_
      · rw [patchTime?, hget]
        rfl
      · rw [Meets, hget]
        exact nofun
  | some c =>
      obtain ⟨q, hstepped⟩ := stepped hw hget
      exact hstepped.effect hcrd

/-- A copy behind a step is one from before it, or that of the status read in it. -/
theorem copies_step (hw : Well env name w) (e : Event) {p : AccessTokenStatus → Prop}
    (hold : ∀ c ∈ w.calls, ∀ status, c.phase.copy = some status → p status)
    (hnew : (tokenStatus (step env w e) name) = tokenStatus w name → p (tokenStatus w name)) :
    ∀ c ∈ (step env w e).calls, ∀ status, c.phase.copy = some status → p status := by
  cases hget : w.calls[e.call]? with
  | none =>
      rw [step_of_none hget]
      exact hold
  | some c =>
      obtain ⟨q, hstepped⟩ := stepped hw hget
      refine hstepped.forall_calls hold fun status hcopy => ?_
      have hmove := hstepped.move
      generalize htokens : (step env w e).tokens = tokens at hmove
      generalize c.phase = p' at hmove
      cases hmove with
      | quiet hplain hnot hq =>
          rw [copy_of_plain hq] at hcopy
          cases hcopy
      | gets updateTs hserved hstored =>
          have hread : status = tokenStatus w name := by
            rw [Phase.copy, statusOf_typed] at hcopy
            rw [tokenStatus_eq hstored]
            exact (Option.some.inj hcopy).symm
          rw [hread]
          exact hnew (tokenStatus_congr htokens)
      | _ => cases hcopy

/-- **The bound is kept**: a step that counts adds one to a copy, and one to the calls that have succeeded. -/
theorem atMost_step (hcrd : env.crd.status = false) (hw : Well env name w) (e : Event)
    (h : AtMost name (start + (times w).length) w) :
    AtMost name (start + (times (step env w e)).length) (step env w e) := by
  have hle : (times w).length ≤ (times (step env w e)).length := by
    cases effect_step hcrd hw e with
    | idle _ htimes => exact htimes.length_eq.ge
    | uncounted _ _ htimes => exact htimes.length_eq ▸ Nat.le_succ _
    | counted _ _ _ _ htimes => exact htimes.length_eq ▸ Nat.le_succ _
  have hbound : start + ((times w).length : Int) ≤ start + (times (step env w e)).length := by omega
  refine ⟨?_, copies_step hw e (fun c hc status hcopy => (h.copies c hc status hcopy).trans hbound)
    fun _ => h.count.trans hbound⟩
  cases effect_step hcrd hw e with
  | idle hstatus => exact hstatus ▸ h.count.trans hbound
  | uncounted _ hstatus => exact hstatus ▸ h.count.trans hbound
  | counted updateTs read hcopy hstatus htimes =>
      obtain ⟨c, hc, hcopy⟩ := hcopy
      have hread := h.copies c hc read hcopy
      have hadd := toInt_add_one_le read.usedCount
      rw [hstatus, htimes.length_eq, List.length_cons]
      dsimp only
      omega

/-- **A step that meets the condition keeps the count exact**, and the last use at its time. -/
theorem exact_step (hcrd : env.crd.status = false) (hw : Well env name w) (h : Exact name start w)
    (hmeets : Meets env w e) :
    Exact name start (step env w e) ∧ (times (step env w e)).Perm ((patchTime? w e).toList ++ times w) ∧
      (tokenStatus (step env w e) name).lastUsedAt = (patchTime? w e).getD (tokenStatus w name).lastUsedAt := by
  have hbound := atMost_step hcrd hw e h.atMost
  cases effect_step hcrd hw e with
  | idle hstatus htimes hpatch =>
      rw [hpatch, hstatus]
      refine ⟨⟨?_, hbound, ?_⟩, htimes, rfl⟩
      · rw [hstatus, htimes.length_eq]
        exact h.count
      · rw [hstatus]
        exact copies_step hw e h.fresh fun _ _ => rfl
  | uncounted _ _ _ hnot => exact absurd hmeets hnot
  | counted updateTs read hcopy hstatus htimes hpatch hiff =>
      obtain ⟨hcurrent, hlt⟩ := hiff.mp hmeets
      obtain ⟨c, hc, hcopy⟩ := hcopy
      have hlast : (tokenStatus (step env w e) name).lastUsedAt = updateTs := by
        rw [hstatus]
        dsimp only
        split
        · rename_i heq
          rw [← h.fresh c hc read hcopy hcurrent, heq]
        · rfl
      have hcount : (tokenStatus (step env w e) name).usedCount.toInt = (tokenStatus w name).usedCount.toInt + 1 := by
        rw [hstatus, ← toInt_add_one hlt]
        exact congrArg (fun n : Int64 => (n + 1).toInt) hcurrent
      refine ⟨⟨?_, hbound, ?_⟩, hpatch ▸ htimes, hpatch ▸ hlast⟩
      · rw [hcount, h.count, htimes.length_eq, List.length_cons]
        omega
      · -- no copy is as new as the count
        refine copies_step hw e (fun c hc status hcopy heq => ?_) fun hsame => ?_
        · have hcopy := h.atMost.copies c hc status hcopy
          have hint := congrArg Int64.toInt heq
          have hold := h.count
          omega
        · rw [hsame] at hcount
          omega

/-- **A step that does not meet it loses one.** -/
theorem atMost_of_not_meets (hcrd : env.crd.status = false) (hw : Well env name w) (h : Exact name start w)
    (hmeets : ¬ Meets env w e) :
    AtMost name (start - 1 + (times (step env w e)).length) (step env w e) := by
  have hcount := h.count
  have hsucc : (times (step env w e)).length = (times w).length + 1 := by
    cases effect_step hcrd hw e with
    | idle _ _ _ hyes => exact absurd hyes hmeets
    | uncounted _ _ htimes => exact htimes.length_eq
    | counted _ _ _ _ htimes => exact htimes.length_eq
  have hbound : start + ((times w).length : Int) = start - 1 + (times (step env w e)).length := by omega
  refine ⟨?_, copies_step hw e (fun c hc status hcopy => hbound ▸ h.atMost.copies c hc status hcopy)
    fun _ => hbound ▸ h.atMost.count⟩
  rw [← hbound]
  cases effect_step hcrd hw e with
  | idle _ _ _ hyes => exact absurd hyes hmeets
  | uncounted _ hstatus => exact hstatus ▸ h.atMost.count
  | counted updateTs read hcopy hstatus _ _ hiff =>
      obtain ⟨c, hc, hcopy⟩ := hcopy
      have hread := h.atMost.copies c hc read hcopy
      rw [hstatus]
      dsimp only
      by_cases hcurrent : read.usedCount = (tokenStatus w name).usedCount
      · have hover : ¬ (tokenStatus w name).usedCount.toInt + 1 < 2 ^ 63 :=
          fun hlt => hmeets (hiff.mpr ⟨hcurrent, hlt⟩)
        have hle := toInt_add_one_overflow hover
        rw [hcurrent]
        omega
      · have hne : read.usedCount.toInt ≠ (tokenStatus w name).usedCount.toInt :=
          fun heq => hcurrent (Int64.toInt_inj.mp heq)
        have hadd := toInt_add_one_le read.usedCount
        omega

/-! ## 8. Runs -/

theorem exact_run (hcrd : env.crd.status = false) (hw : Well env name w) (h : Exact name start w)
    {events : List Event} (hmeets : Always (step env) (Meets env) w events) :
    Exact name start (run env w events) ∧
      (times (run env w events)).Perm (patchTimes env w events ++ times w) ∧
      (tokenStatus (run env w events) name).lastUsedAt =
        (patchTimes env w events).getLast?.getD (tokenStatus w name).lastUsedAt := by
  induction events generalizing w with
  | nil => exact ⟨h, .refl _, rfl⟩
  | cons e events ih =>
      obtain ⟨hexact, htimes, hlast⟩ := exact_step hcrd hw h hmeets.1
      obtain ⟨hrun, hruntimes, hrunlast⟩ := ih (well_step hw e) hexact hmeets.2
      refine ⟨hrun, ?_, ?_⟩
      · rw [patchTimes]
        refine hruntimes.trans ((htimes.append_left _).trans ?_)
        rw [← List.append_assoc]
        exact List.perm_append_comm.append_right _
      · have hrun' : run env w (e :: events) = run env (step env w e) events := rfl
        rw [hrun', hrunlast, hlast, patchTimes, List.getLast?_append]
        cases (patchTimes env (step env w e) events).getLast? with
        | some t => rfl
        | none => cases patchTime? w e <;> rfl

theorem atMost_run (hcrd : env.crd.status = false) (hw : Well env name w) (events : List Event)
    (h : AtMost name (start + (times w).length) w) :
    AtMost name (start + (times (run env w events)).length) (run env w events) := by
  induction events generalizing w with
  | nil => exact h
  | cons e events ih => exact ih (well_step hw e) (atMost_step hcrd hw e h)

/-- **A run with a step that does not meet the condition loses a use.** -/
theorem atMost_run_of_not_meets (hcrd : env.crd.status = false) (hw : Well env name w) (h : Exact name start w)
    {events : List Event} (hmeets : ¬ Always (step env) (Meets env) w events) :
    AtMost name (start - 1 + (times (run env w events)).length) (run env w events) := by
  induction events generalizing w with
  | nil => exact absurd trivial hmeets
  | cons e events ih =>
      by_cases hfirst : Meets env w e
      · exact ih (well_step hw e) (exact_step hcrd hw h hfirst).1 fun hrest => hmeets ⟨hfirst, hrest⟩
      · exact atMost_run hcrd (well_step hw e) events (atMost_of_not_meets hcrd hw h hfirst)

theorem calls_step_length (env : Environment) (w : World) (e : Event) :
    (step env w e).calls.length = w.calls.length := by
  rw [step]
  split
  · rfl
  · exact List.length_set

theorem calls_run_length (env : Environment) (w : World) (events : List Event) :
    (run env w events).calls.length = w.calls.length := by
  induction events generalizing w with
  | nil => rfl
  | cons e events ih => exact (ih (step env w e)).trans (calls_step_length env w e)

/-- Where every call has succeeded there are as many times as calls. -/
theorem times_length (h : ∀ c ∈ w.calls, (c.time?).isSome) : (times w).length = w.calls.length :=
  List.filterMap_length_eq_length.mpr h

theorem Start.times_eq_nil (h : Start env name w) : times w = [] := by
  refine List.filterMap_eq_nil_iff.mpr fun c hc => ?_
  rw [WebhookCall.time?, h.received c hc]

theorem Start.exact (h : Start env name w) : Exact name (tokenStatus w name).usedCount.toInt w := by
  have hcopies (p : WebhookCall → AccessTokenStatus → Prop) :
      ∀ c ∈ w.calls, ∀ status, c.phase.copy = some status → p c status := by
    intro c hc status hcopy
    rw [h.received c hc] at hcopy
    cases hcopy
  have hsame : (tokenStatus w name).usedCount.toInt + ((times w).length : Int) =
      (tokenStatus w name).usedCount.toInt := by
    rw [h.times_eq_nil]
    exact Int.add_zero _
  exact ⟨hsame.symm, ⟨hsame.ge, hcopies _⟩, hcopies fun _ status =>
    status.usedCount = (tokenStatus w name).usedCount → status.lastUsedAt = (tokenStatus w name).lastUsedAt⟩

/-- The last of the times is the latest. -/
theorem isLatest_getLast? {l m : List Int64} (hperm : m.Perm l) (start : Int64) :
    IsLatest m start (l.getLast?.getD start) ↔ LatestLast l := by
  unfold IsLatest LatestLast
  cases hlast : l.getLast? with
  | none =>
      obtain rfl := List.getLast?_eq_none_iff.mp hlast
      rw [if_pos hperm.eq_nil]
      exact ⟨fun _ _ ht => (Option.not_mem_none _ ht).elim, fun _ => rfl⟩
  | some t =>
      have hmem : t ∈ l := List.mem_of_getLast? hlast
      have hne : m ≠ [] := by
        rintro rfl
        rw [hperm.symm.eq_nil] at hmem
        cases hmem
      rw [if_neg hne]
      constructor
      · intro ⟨_, hmax⟩ t' ht' t'' ht''
        obtain rfl := Option.mem_some.mp ht'
        exact hmax t'' (hperm.symm.mem_iff.mp ht'')
      · intro h
        exact ⟨hperm.mem_iff.mpr hmem, fun t' ht' => h t rfl t' (hperm.mem_iff.mp ht')⟩

/-- Without a call nothing happens. -/
theorem counted_of_nil (hcalls : w.calls = []) (events : List Event) :
    Counted name w (run env w events) := by
  have hidle : run env w events = w := by
    induction events with
    | nil => rfl
    | cons e events ih =>
        have hnone : w.calls[e.call]? = none := hcalls ▸ rfl
        rw [run, List.foldl_cons, step_of_none hnone]
        exact ih
  rw [hidle]
  refine ⟨?_, ?_, .refl name w⟩
  · rw [hcalls]
    exact (Int.add_zero _).symm
  · rw [hcalls, List.filterMap_nil, IsLatest, if_pos rfl]

/-- With the sub-resource declared no call is counted. -/
theorem not_counted_of_status (hcrd : env.crd.status = true) (hw : Well env name w) (hcalls : w.calls ≠ [])
    (events : List Event) : ¬ Counted name w (run env w events) := by
  intro hcounted
  have hpos : 0 < w.calls.length := List.length_pos_iff.mpr hcalls
  have hcount := hcounted.usedCount
  rw [calls_run_length, tokenStatus_congr (tokens_run_of_status hcrd hw events)] at hcount
  omega

end Count

/-! ## 9. When the uses are counted -/

variable {env : Environment} {name : Str} {w : World} {events : List Event}

/-- **The uses are counted exactly when there is none**, with the sub-resource declared as it is; without it they are
    counted when no two calls overlap in their read and patch, both of which come through, and the latest is last. -/
theorem counted_iff (hstart : Start env name w) (hdone : ∀ c ∈ (run env w events).calls, (c.time?).isSome) :
    Counted name w (run env w events) ↔
      w.calls = [] ∨ (env.crd.status = false ∧ Always (step env) (Meets env) w events ∧
        LatestLast (patchTimes env w events)) := by
  have hw := hstart.well
  have hlength : (times (run env w events)).length = w.calls.length :=
    (times_length hdone).trans (calls_run_length env w events)
  constructor
  · intro hcounted
    by_cases hcalls : w.calls = []
    · exact Or.inl hcalls
    cases hcrd : env.crd.status with
    | true => exact absurd hcounted (not_counted_of_status hcrd hw hcalls events)
    | false =>
        have hcount := hcounted.usedCount
        rw [calls_run_length] at hcount
        have halways : Always (step env) (Meets env) w events := by
          by_contra hnot
          have hmost := (atMost_run_of_not_meets hcrd hw hstart.exact hnot).count
          rw [hlength] at hmost
          omega
        obtain ⟨_, htimes, hlast⟩ := exact_run hcrd hw hstart.exact halways
        rw [hstart.times_eq_nil, List.append_nil] at htimes
        have hlatest := hcounted.lastUsedAt
        rw [hlast] at hlatest
        exact Or.inr ⟨rfl, halways, (isLatest_getLast? htimes _).mp hlatest⟩
  · intro h
    rcases h with hcalls | ⟨hcrd, halways, hlatest⟩
    · exact counted_of_nil hcalls events
    · obtain ⟨hexact, htimes, hlast⟩ := exact_run hcrd hw hstart.exact halways
      rw [hstart.times_eq_nil, List.append_nil] at htimes
      refine ⟨?_, ?_, framed_run hw events⟩
      · rw [hexact.count, hlength, calls_run_length]
      · rw [hlast]
        exact (isLatest_getLast? htimes _).mpr hlatest

/-! ### Two calls -/

/-- A manager that knows one deploy key, of a token that may edit `shop`. -/
def deployManager : SsoManager where
  policies := ⟨[[str "user-deploy", str "edit", str "shop", [star]]], []⟩
  getClientInfoFromToken _ := .ok
    { email := str "deploy", groups := some [], impersonation := [], impersonationType := [], name := str "deploy"
      preferredUsername := [], emailVerified := false }

/-- An API server that takes everything; the sub-resource of the tokens is declared or is not. -/
def deployEnvironment (status : Bool) : Environment where
  manager := deployManager
  builds := true
  server := plainServer true
  crd := if status = true then accessTokenCrd fun _ => true else ⟨false, fun _ => true⟩

/-- A call for the component `web` of `shop`. -/
def deployRequest : DeployRequest where
  body := some ⟨str "key", str "shop", str "web", []⟩
  authorization := []

/-- Two calls have come in. -/
def deployWorld : World where
  components :=
    { objects := Function.update (fun _ => ∅) .component (AList.singleton (str "shop", str "web") emptyDoc)
      volumes := fun _ => none
      claims := [] }
  tokens name := if name = str "deploy" then some (.ofFields ∅ fun _ => none) else none
  calls := List.replicate 2 ⟨deployRequest, .received⟩

/-- Their API calls, all of them answered: the component is read and patched beside each other, the token one after
    the other. -/
def deployEvents : List Event :=
  [⟨0, .served, 7, 0⟩, ⟨1, .served, 7, 0⟩, ⟨0, .served, 7, 0⟩, ⟨1, .served, 7, 0⟩, ⟨0, .served, 7, 0⟩,
    ⟨0, .served, 7, 0⟩, ⟨1, .served, 8, 0⟩, ⟨1, .served, 8, 0⟩]

theorem succeeds_deploy (status : Bool) :
    ∀ c ∈ (run (deployEnvironment status) deployWorld deployEvents).calls, (c.time?).isSome := by
  cases status <;> decide

theorem authorize_deploy (status : Bool) :
    (authorize (deployEnvironment status) deployRequest).toOption =
      some (str "deploy", ⟨str "key", str "shop", str "web", []⟩) := by
  decide +revert

theorem start_deploy (status : Bool) : Start (deployEnvironment status) (str "deploy") deployWorld where
  received c hc := by
    obtain rfl := List.eq_of_mem_replicate hc
    rfl
  oneToken c hc client callParams h := by
    obtain rfl := List.eq_of_mem_replicate hc
    have hauth : (authorize (deployEnvironment status) deployRequest).toOption = some (client, callParams) :=
      congrArg Except.toOption h
    exact congrArg Prod.fst (Option.some.inj (hauth.symm.trans (authorize_deploy status)))
  stored := rfl
  objects n token h := by
    obtain ⟨_, htoken⟩ := Option.ite_none_right_eq_some.mp h
    exact ⟨_, _, htoken.symm⟩

/-- Without the sub-resource both are counted. -/
theorem counted_deploy :
    Counted (str "deploy") deployWorld (run (deployEnvironment false) deployWorld deployEvents) :=
  (counted_iff (start_deploy false) (succeeds_deploy false)).mpr (Or.inr ⟨rfl,
    ⟨by decide, by decide, by decide, by decide, by decide, by decide, by decide, by decide, trivial⟩, by decide⟩)

/-- **As it is declared, a call that succeeds is not counted.** -/
theorem counted_fails :
    ¬ ∀ (env : Environment) (name : Str) (w : World) (events : List Event), Start env name w →
      (∀ c ∈ (run env w events).calls, (c.time?).isSome) → Counted name w (run env w events) := by
  intro h
  exact not_counted_of_status rfl (start_deploy true).well (List.cons_ne_nil _ _) deployEvents
    (h (deployEnvironment true) (str "deploy") deployWorld deployEvents (start_deploy true) (succeeds_deploy true))

end Kalm.DeployWebhook
