/-
  File:      Kalm/Frontend/Login.lean
  Subject:   FROM THE LOGIN STATUS TO THE CLOSURES: handleLoginStatus (api/handler/auth.go), the way of
             its strings through JSON, and the middleware frontend/src/middlewares/casbin.ts.

  * `handleLoginStatus` -- the answer of a server that reaches its cluster; `none` where it panics;
  * `jsString` -- a Go string as the dashboard receives it;
  * `jsSubjects` -- the subjects of the middleware; `none` where it throws and installs no closure:
    an unknown subject type, and groups that are `null` because the server's slice is nil;
  * `openDashboard`, `Dashboard.can`, … -- the closures of `SET_AUTH_METHODS`.
-/
import Kalm.Frontend.Enforcer
import Kalm.Rbac.Client
import Kalm.Rbac.Partial

namespace Kalm

/-! ## 1. The server's answer -/

/-- `LoginStatusResponse`: what the middleware reads of it. -/
structure LoginStatus where
  email : Str
  groups : Option (List Str)
  impersonation : Str
  impersonationType : Str
  policies : Str
  deriving DecidableEq

/-- `handleLoginStatus`. The subjects it collects are those of the client. -/
def handleLoginStatus (P : PolicySet) (clientInfo : ClientInfo) : Option LoginStatus :=
  match clientInfo.subjects with
  | none => none
  | some subjects =>
    (P.getCompletePoliciesFor subjects).map fun policies =>
      { email := clientInfo.email
        groups := clientInfo.groups
        impersonation := clientInfo.impersonation
        impersonationType := if clientInfo.impersonation ≠ [] then clientInfo.impersonationType else []
        policies := policies }

/-! ## 2. The way through JSON -/

/-- The code points `encoding/json` writes for a string: an invalid byte becomes U+FFFD. -/
def decodeRunes : Nat → Str → List Char
  | 0, _ => []
  | n + 1, s =>
    if s = [] then []
    else
      match s.toByteArray.utf8DecodeChar? 0 with
      | some c => c :: decodeRunes n (s.drop c.utf8Size)
      | none => Char.ofNat 0xFFFD :: decodeRunes n (s.drop 1)

/-- A Go string as the dashboard receives it. -/
def jsString (s : Str) : JsStr := utf16.flat (decodeRunes s.length s)

theorem decodeRunes_flat (t : List Char) {n : Nat} (hn : (utf8.flat t).length ≤ n) :
    decodeRunes n (utf8.flat t) = t := by
  induction t generalizing n with
  | nil => cases n <;> simp [decodeRunes]
  | cons c t ih =>
      have hsize : (utf8.enc c).length = c.utf8Size := String.length_utf8EncodeChar c
      have hpos := c.utf8Size_pos
      rw [Code.flat_cons, List.length_append, hsize] at hn
      cases n with
      | zero => omega
      | succ n =>
          have hne : utf8.flat (c :: t) ≠ [] := fun e => by
            have := utf8.flat_eq_nil.mp e
            exact absurd this (List.cons_ne_nil c t)
          have hdec : (utf8.flat (c :: t)).toByteArray.utf8DecodeChar? 0 = some c := by
            rw [Code.flat_cons, List.toByteArray_append]
            exact ByteArray.utf8DecodeChar?_utf8EncodeChar_append
          rw [decodeRunes, if_neg hne, hdec]
          simp only
          rw [Code.flat_cons, ← hsize, List.drop_left, ih (by omega)]

/-- **A Unicode string arrives as it is**: the same code points in the other encoding. -/
theorem jsString_flat (t : List Char) : jsString (utf8.flat t) = utf16.flat t := by
  rw [jsString, decodeRunes_flat t (Nat.le_refl _)]

/-- The login status in the dashboard. -/
structure JsLoginStatus where
  email : JsStr
  groups : Option (List JsStr)
  impersonation : JsStr
  impersonationType : JsStr
  policies : JsStr
  deriving DecidableEq

/-- The response, received. -/
def LoginStatus.toJs (res : LoginStatus) : JsLoginStatus where
  email := jsString res.email
  groups := res.groups.map fun groups => groups.map jsString
  impersonation := jsString res.impersonation
  impersonationType := jsString res.impersonationType
  policies := jsString res.policies

/-! ## 3. The middleware -/

/-- `toSafeSubject` of the middleware: an unknown type throws. -/
def jsToSafeSubject (sub type : JsStr) : Option JsStr :=
  if type = jstr "user" then some (jstr "user-" ++ sub)
  else if type = jstr "group" then some (jstr "group-" ++ sub)
  else none

/-- The subjects of the middleware; `null` has no `map`. -/
def jsSubjects (clientInfo : JsLoginStatus) : Option (List JsStr) :=
  if clientInfo.impersonation ≠ [] then
    (jsToSafeSubject clientInfo.impersonation clientInfo.impersonationType).map fun s => [s]
  else
    clientInfo.groups.map fun groups =>
      (jstr "user-" ++ clientInfo.email) :: groups.map fun group => jstr "group-" ++ group

/-- What the closures close over. -/
structure Dashboard where
  policy : JsPolicy
  subjects : List JsStr

/-- The middleware on the login status of a client. -/
def openDashboard (P : PolicySet) (clientInfo : ClientInfo) : Option Dashboard :=
  match handleLoginStatus P clientInfo with
  | none => none
  | some res => (jsSubjects res.toJs).map fun subjects => ⟨jsLoadPolicy res.toJs.policies, subjects⟩

/-- `can`: `withSubjects` asks about one subject after the other. -/
def Dashboard.can (d : Dashboard) (action scope resource : JsStr) : Bool :=
  d.subjects.any fun subject => jsEnforce d.policy subject action scope resource

/-- `canView`. -/
def Dashboard.canView (d : Dashboard) (scope resource : JsStr) : Bool :=
  d.can (jstr "view") scope resource

/-- `canEdit`. -/
def Dashboard.canEdit (d : Dashboard) (scope resource : JsStr) : Bool :=
  d.can (jstr "edit") scope resource

/-- `canManage`. -/
def Dashboard.canManage (d : Dashboard) (scope resource : JsStr) : Bool :=
  d.can (jstr "manage") scope resource

end Kalm
