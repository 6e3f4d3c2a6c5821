/-
  File:      Kalm/Proxy/Untrusted.lean
  Subject:   UNTRUSTED TOKENS: when the auth proxy answers a request, whatever text was presented as a token, and
             whatever the other requests with its refresh token do.

  * `NeverCrashes` -- every text is decoded or refused, every request is answered, every token comes back;
  * `AuthProxy.Answers` -- a request is answered in the runs of the calls with its refresh token;
  * `WholeBlocks`, `Refreshable`, `Answerable`, `InTime` -- what this asks of a text, a token, a request, a step;
  * `crashes_iff` -- it asks no more; `expiredProxy_crashes` -- and no less.
-/
import Kalm.Proxy.ExtAuthz
import Kalm.Proxy.Resting

namespace Kalm

open Runs

/-! ## 1. The property -/

/-- `Encode`, and `Decode` of what it yields. -/
def AuthProxy.reread (p : AuthProxy) (t : ThinToken) : Option (Except Str ThinToken) :=
  match t.encode p.cipher p.stateEncryptKey with
  | none => none
  | some (.error err) => some (.error err)
  | some (.ok data) => ThinToken.decode p.cipher p.stateEncryptKey data

/-- What the provider answers in an exchange is verified by this proxy. -/
def AuthProxy.Verified (p : AuthProxy) (_ : RefreshState IDToken) : RefreshStep IDToken → Prop
  | .exchange _ answer => ∃ response, answer = p.exchange response
  | _ => True

/-- **A request is answered**, in every run of the calls with its refresh token whose steps meet a condition: in no
    state has it panicked, and at rest it has its answer. -/
structure AuthProxy.Answers (meets : RefreshState IDToken → RefreshStep IDToken → Prop) (refreshToken : Str)
    (handler : CallState IDToken → Handled) : Prop where
  calm : ∀ s id, Reaches (fun s => s = RefreshState.init IDToken refreshToken) meets stepRefresh s →
    handler (s.call id) ≠ .panicked
  answered : ∀ s id, Reaches (fun s => s = RefreshState.init IDToken refreshToken) meets stepRefresh s →
    s.AtRest → s.call id ≠ .fresh → ∃ answer, handler (s.call id) = .answered answer

/-- **The calls come to rest**: each step of a call leaves it fewer statements, and no step leaves another call
    more. -/
def AuthProxy.ComesToRest (meets : RefreshState IDToken → RefreshStep IDToken → Prop) (refreshToken : Str) : Prop :=
  ∀ s i s', Reaches (fun s => s = RefreshState.init IDToken refreshToken) meets stepRefresh s → meets s i →
    stepRefresh s i = some s' →
      ∀ id, s'.left id ≤ s.left id ∧ (i.of id = true → s'.left id < s.left id)

/-- The refresh token that a request presents, if any. -/
def AuthProxy.refreshTokenOf (p : AuthProxy) (req : ProxyRequest) : Str :=
  match p.getTokenFromRequest req with
  | some (.ok token) => token.refreshToken
  | _ => []

/-- **The proxy never crashes on a token.** -/
structure NeverCrashes (p : AuthProxy) : Prop where
  decodes : ∀ data, ThinToken.decode p.cipher p.stateEncryptKey data ≠ none
  answers : ∀ req now, AuthProxy.Answers p.Verified (p.refreshTokenOf req) fun call => p.handleExtAuthz call req now
  rereads : ∀ t, p.reread t = some (.ok t)

/-! ## 2. What it takes -/

/-- A text that is base64 stands for whole blocks. -/
def WholeBlocks (data : Str) : Prop := ∀ crypted, rawStdEncoding.decode data = .ok crypted → 16 ∣ crypted.length

/-- A token that has expired has a refresh token of ten bytes at least. -/
def AuthProxy.Refreshable (p : AuthProxy) (token : ThinToken) : Prop :=
  ∀ err, p.oidcVerifier.verify token.idTokenString = .error err → saysExpire err = true →
    10 ≤ token.refreshToken.length

/-- The text that a request presents is whole, and so is the token it stands for. -/
def AuthProxy.Answerable (p : AuthProxy) (req : ProxyRequest) : Prop :=
  p.configured = true →
    if req.queryParam kalmTokenKeyName ≠ [] then WholeBlocks (req.queryParam kalmTokenKeyName)
    else
      shouldLetPass req = false → ∀ tokenString, req.tokenString = .ok tokenString →
        WholeBlocks tokenString ∧
          ∀ token, ThinToken.decode p.cipher p.stateEncryptKey tokenString = some (.ok token) → p.Refreshable token

/-- No consumer misses the Broadcast, and no call reads a text that is not written yet. -/
def AuthProxy.InTime (p : AuthProxy) (s : RefreshState IDToken) (i : RefreshStep IDToken) : Prop :=
  Timely s i ∧ p.Verified s i

/-! ## 3. One function after the other -/

theorem decode_ne_none_iff (cipher : BlockCipher) (key : StateEncryptKey) (data : Str) :
    ThinToken.decode cipher key data ≠ none ↔ WholeBlocks data := by
  rw [Ne, decode_eq_none_iff, not_exists]
  refine forall_congr' fun crypted => ?_
  rw [not_and, not_not, Nat.dvd_iff_mod_eq_zero]

/-- The claims are put into the header, where the text has a dot. -/
theorem passVerified_answered (req : ProxyRequest) (headers : List (Str × HeaderValue)) (idToken : IDToken)
    (token : ThinToken) (hdot : dot ∈ token.idTokenString) :
    ∃ answer, passVerified req headers (some idToken) token = .answered answer := by
  rw [passVerified, if_neg fun h => absurd h.1 (Option.some_ne_none idToken)]
  split
  · exact ⟨_, rfl⟩
  · obtain ⟨first, second, rest, hsplit⟩ := Fields.exists_splitOn_of_mem hdot
    rw [hsplit]
    exact ⟨_, rfl⟩

/-- A text that was verified has a dot. -/
theorem OidcVerifier.dot_mem (v : OidcVerifier) {raw : Str} {idToken : IDToken}
    (h : v.verify raw = .ok idToken) : dot ∈ raw := by
  obtain ⟨part, hpart, _⟩ := v.verified_claims h
  by_contra hdot
  rw [List.splitOn_eq_singleton hdot] at hpart
  cases hpart

section Answers

variable {p : AuthProxy} {refreshToken : Str} {handler : CallState IDToken → Handled}
  {meets : RefreshState IDToken → RefreshStep IDToken → Prop}

/-- What is answered without a refresh. -/
theorem answers_of_answered (h : ∀ call, ∃ answer, handler call = .answered answer) :
    AuthProxy.Answers meets refreshToken handler := by
  refine ⟨fun s id _ hpanicked => ?_, fun s id _ _ _ => h _⟩
  obtain ⟨answer, hanswer⟩ := h (s.call id)
  rw [hanswer] at hpanicked
  cases hpanicked

theorem not_answers_of_panicked (h : ∀ call, handler call = .panicked) :
    ¬ AuthProxy.Answers meets refreshToken handler :=
  fun hall => hall.calm _ 0 (.start rfl) (h _)

/-- An ID token that an exchange hands over was verified. -/
theorem verified_of_reaches {s : RefreshState IDToken}
    (h : Reaches (fun s => s = RefreshState.init IDToken refreshToken) p.Verified stepRefresh s) {k : Nat}
    {result : RefreshResult IDToken} (ho : (s.context k).outcome = some (.ok result)) :
    p.oidcVerifier.verify result.idTokenString = .ok result.idToken := by
  induction h with
  | start hs =>
      rw [hs] at ho
      cases ho
  | step _ hverified taken ih =>
      obtain hbefore | ⟨id, answer, rfl, houtcome⟩ := outcome_of_step taken ho
      · exact ih hbefore
      · obtain ⟨response, rfl⟩ := hverified
        cases response with
        | failed err => cases houtcome
        | noIDToken => cases houtcome
        | answered rawIDToken refreshToken =>
            rw [AuthProxy.exchange] at houtcome
            split at houtcome
            · rename_i idToken hverify
              cases houtcome
              exact hverify
            · cases houtcome

/-- **A token that can be refreshed** is answered by whatever its call returns. -/
theorem AuthProxy.afterRefresh_returned {s : RefreshState IDToken}
    (h : Reaches (fun s => s = RefreshState.init IDToken refreshToken) p.InTime stepRefresh s) {id k : Nat}
    {result : Except Str (Option IDToken × Str × Str)} (hreturned : s.call id = .returned k result)
    (req : ProxyRequest) : ∃ answer, p.afterRefresh req (s.call id) = .answered answer := by
  rw [hreturned]
  cases result with
  | error err => exact ⟨_, rfl⟩
  | ok values =>
      obtain ⟨idToken, idTokenString, next⟩ := values
      have hall := (sound_of_timely (h.mono fun _ _ hi => hi.1)).1.handsOver
      obtain ⟨result, houtcome, rfl, rfl, rfl⟩ := hall.complete id k _ _ _ hreturned
      have hverified := verified_of_reaches (h.mono fun _ _ hi => hi.2) houtcome
      exact passVerified_answered req _ result.idToken ⟨result.refreshToken, result.idTokenString⟩
        (p.oidcVerifier.dot_mem hverified)

/-- A short refresh token has no first ten bytes to log: its first call panics. -/
theorem panics_of_short (p : AuthProxy) (refreshToken : Str) (hshort : refreshToken.length < 10) :
    ∃ s, Reaches (fun s => s = RefreshState.init IDToken refreshToken) p.InTime stepRefresh s ∧
      s.call 0 = .panicked := by
  have hinit : Reaches (fun s => s = RefreshState.init IDToken refreshToken) p.InTime stepRefresh
      (.init IDToken refreshToken) := .start rfl
  have hstart : Reaches (fun s => s = RefreshState.init IDToken refreshToken) p.InTime stepRefresh
      ((RefreshState.init IDToken refreshToken).start 0) :=
    .step (i := .start 0) hinit ⟨trivial, trivial⟩ rfl
  have hlogs : stepRefresh ((RefreshState.init IDToken refreshToken).start 0) (.advance 0) =
      some (((RefreshState.init IDToken refreshToken).start 0).go 0 .panicked) := if_pos hshort
  exact ⟨_, .step (i := .advance 0) hstart ⟨trivial, trivial⟩ hlogs, rfl⟩

/-- **A call of `refreshIDToken` is answered exactly where its refresh token can be logged.** -/
theorem AuthProxy.answers_afterRefresh_iff (p : AuthProxy) (req : ProxyRequest) :
    AuthProxy.Answers p.InTime refreshToken (p.afterRefresh req) ↔ 10 ≤ refreshToken.length := by
  constructor
  · intro h
    by_contra hshort
    obtain ⟨s, hreached, hpanicked⟩ := panics_of_short p refreshToken (Nat.not_le.mp hshort)
    refine h.calm s 0 hreached ?_
    rw [hpanicked]
    rfl
  · intro hlong
    have hunstuck {s : RefreshState IDToken} (hreached : Reaches (fun s => s = RefreshState.init IDToken refreshToken)
        p.InTime stepRefresh s) : Unstuck s := unstuck_of_timely hlong (hreached.mono fun _ _ hi => hi.1)
    refine ⟨fun s id hreached hpanicked => ?_, fun s id hreached hrest hstarted => ?_⟩
    · cases hst : s.call id with
      | panicked => exact (hunstuck hreached).calm id hst
      | returned k result =>
          obtain ⟨answer, hanswer⟩ := p.afterRefresh_returned hreached hst req
          rw [hanswer] at hpanicked
          cases hpanicked
      | fresh | producing | consuming | reading =>
          rw [hst] at hpanicked
          cases hpanicked
    · have hsound := (sound_of_timely (hreached.mono fun _ _ hi => hi.1)).1
      obtain ⟨k, result, hst⟩ := returned_of_rest hrest (hunstuck hreached) hsound hstarted
      exact p.afterRefresh_returned hreached hst req

/-- **A request with a token is answered exactly where the token can be refreshed.** -/
theorem AuthProxy.answers_authorize_iff (p : AuthProxy) (req : ProxyRequest) (token : ThinToken) :
    AuthProxy.Answers p.InTime token.refreshToken (fun call => p.authorize call req token) ↔ p.Refreshable token := by
  unfold AuthProxy.authorize AuthProxy.Refreshable
  cases hverify : p.oidcVerifier.verify token.idTokenString with
  | ok idToken =>
      refine iff_of_true (answers_of_answered fun _ => ?_) fun err h => by cases h
      exact passVerified_answered req [] idToken token (p.oidcVerifier.dot_mem hverify)
  | error err =>
      dsimp only
      by_cases hexpire : saysExpire err = true
      · simp only [if_pos hexpire]
        refine (p.answers_afterRefresh_iff req).trans ⟨fun h _ _ _ => h, fun h => h err rfl hexpire⟩
      · simp only [if_neg hexpire]
        refine iff_of_true (answers_of_answered fun _ => ⟨_, rfl⟩) fun err' h hexpire' => ?_
        cases h
        exact absurd hexpire' hexpire

/-- A token in the query is answered exactly where its text is whole. -/
theorem AuthProxy.answers_setIDToken_iff {p : AuthProxy} {req : ProxyRequest} :
    AuthProxy.Answers meets refreshToken (fun _ => p.setIDToken req) ↔
      WholeBlocks (req.queryParam kalmTokenKeyName) := by
  rw [← decode_ne_none_iff p.cipher p.stateEncryptKey]
  cases hdecode : ThinToken.decode p.cipher p.stateEncryptKey (req.queryParam kalmTokenKeyName) with
  | none =>
      refine iff_of_false (not_answers_of_panicked fun _ => ?_) fun h => h rfl
      rw [AuthProxy.setIDToken, hdecode]
  | some r =>
      refine iff_of_true (answers_of_answered fun _ => ?_) (Option.some_ne_none r)
      rw [AuthProxy.setIDToken, hdecode]
      cases r with
      | error err => exact ⟨_, rfl⟩
      | ok thinToken =>
          dsimp only
          split
          · exact ⟨_, rfl⟩
          · exact ⟨_, rfl⟩

/-- **A request is answered exactly where what it presents is whole.** -/
theorem AuthProxy.answers_handleExtAuthz_iff {p : AuthProxy} {req : ProxyRequest} {now : Str} :
    AuthProxy.Answers p.InTime (p.refreshTokenOf req) (fun call => p.handleExtAuthz call req now) ↔
      p.Answerable req := by
  unfold AuthProxy.handleExtAuthz AuthProxy.Answerable
  cases hconfigured : p.configured with
  | false => exact iff_of_true (answers_of_answered fun _ => ⟨_, if_pos rfl⟩) fun h => by cases h
  | true =>
      simp only [Bool.true_eq_false, if_false, true_implies]
      by_cases hparam : req.queryParam kalmTokenKeyName ≠ []
      · simp only [if_pos hparam]
        exact AuthProxy.answers_setIDToken_iff
      · simp only [if_neg hparam]
        cases hpass : shouldLetPass req with
        | true => exact iff_of_true (answers_of_answered fun _ => ⟨_, rfl⟩) fun h => by cases h
        | false =>
            simp only [if_neg Bool.false_ne_true, true_implies]
            rw [AuthProxy.refreshTokenOf, AuthProxy.getTokenFromRequest]
            cases htoken : req.tokenString with
            | error err =>
                exact iff_of_true (answers_of_answered fun _ => ⟨_, rfl⟩) fun _ h => by cases h
            | ok tokenString =>
                have hwhole := decode_ne_none_iff p.cipher p.stateEncryptKey tokenString
                dsimp only
                cases hdecode : ThinToken.decode p.cipher p.stateEncryptKey tokenString with
                | none =>
                    refine iff_of_false (not_answers_of_panicked fun _ => rfl) fun h => ?_
                    exact hwhole.mpr (h tokenString rfl).1 hdecode
                | some r =>
                    have hyes : WholeBlocks tokenString := hwhole.mp (by rw [hdecode]; exact Option.some_ne_none r)
                    cases r with
                    | error err =>
                        refine iff_of_true (answers_of_answered fun _ => ⟨_, rfl⟩) fun _ h => ?_
                        cases h
                        refine ⟨hyes, fun token h => ?_⟩
                        rw [hdecode] at h
                        cases h
                    | ok token =>
                        refine (AuthProxy.answers_authorize_iff p req token).trans ⟨fun h _ ht => ?_, fun h => ?_⟩
                        · cases ht
                          refine ⟨hyes, fun token' h' => ?_⟩
                          rw [hdecode] at h'
                          cases h'
                          exact h
                        · exact (h tokenString rfl).2 token hdecode

end Answers

/-- A token that can be refreshed: its calls come to rest. -/
theorem comesToRest_of_long (p : AuthProxy) {refreshToken : Str} (hlong : 10 ≤ refreshToken.length) :
    AuthProxy.ComesToRest p.InTime refreshToken := by
  intro s i s' hreached _ taken
  have htimely := hreached.mono fun _ _ hi => hi.1
  exact (unstuck_step (unstuck_of_timely hlong htimely) (sound_of_timely htimely).1 taken).2

/-- **A token comes back exactly where its fields are texts.** -/
theorem AuthProxy.reread_eq_iff {p : AuthProxy} {t : ThinToken} :
    p.reread t = some (.ok t) ↔ IsUtf8 t.refreshToken ∧ IsUtf8 t.idTokenString := by
  obtain ⟨data, hdata⟩ := encode_isSome p.cipher p.stateEncryptKey t
  have hdecode := decode_encode p.cipher p.stateEncryptKey hdata
  rw [AuthProxy.reread, hdata]
  dsimp only
  rw [hdecode, Option.some.injEq, Except.ok.injEq, ← jsonString_eq_self, ← jsonString_eq_self]
  constructor
  · intro h
    exact ⟨congrArg ThinToken.refreshToken h, congrArg ThinToken.idTokenString h⟩
  · intro h
    rw [h.1, h.2]

/-! ## 4. The tokens that crash it -/

/-- **What the proxy does with a token**: a text is decoded or refused exactly where it stands for whole blocks,
    a request is answered exactly where it presents such a text of a token that can be refreshed, and a token
    comes back exactly where its fields are texts. The calls of a refresh come to rest. -/
theorem crashes_iff (p : AuthProxy) :
    (∀ data, ThinToken.decode p.cipher p.stateEncryptKey data ≠ none ↔ WholeBlocks data) ∧
      (∀ req now, AuthProxy.Answers p.InTime (p.refreshTokenOf req) (fun call => p.handleExtAuthz call req now) ↔
        p.Answerable req) ∧
      (∀ req token, AuthProxy.Answers p.InTime token.refreshToken (fun call => p.authorize call req token) ↔
        p.Refreshable token) ∧
      (∀ refreshToken : Str, 10 ≤ refreshToken.length → AuthProxy.ComesToRest p.InTime refreshToken) ∧
      ∀ t, p.reread t = some (.ok t) ↔ IsUtf8 t.refreshToken ∧ IsUtf8 t.idTokenString :=
  ⟨decode_ne_none_iff p.cipher p.stateEncryptKey, fun _ _ => AuthProxy.answers_handleExtAuthz_iff,
    AuthProxy.answers_authorize_iff p, fun _ => comesToRest_of_long p, fun _ => AuthProxy.reread_eq_iff⟩

/-- A verifier for which every token has expired. -/
def expiredVerifier : OidcVerifier where
  verify _ := .error (str "oidc: token is expired (Token Expiry: 2020-07-22 00:00:00 +0000 UTC)")
  verified_claims h := by cases h

/-- A proxy at a time when every token has expired. -/
def expiredProxy : AuthProxy where
  configured := true
  authProxyURL := str "https://sso.shop.com"
  clientSecret := str "secret"
  cipher _ := Equiv.refl AesBlock
  sha256 _ := ⟨List.replicate 32 0, List.length_replicate⟩
  oidcVerifier := expiredVerifier

/-- A request whose cookie is no token. -/
def shortCookie : ProxyRequest where
  scheme := str "https"
  host := str "shop.com"
  requestURI := str "/ext_authz"
  query := []
  headers := []
  cookie := some (str "AA")

/-- A cookie of one octet is no block; a token without a refresh token cannot be logged; a byte that is no text
    does not come back. A consumer that misses the Broadcast is not answered. -/
theorem expiredProxy_crashes :
    ¬ NeverCrashes expiredProxy ∧
      (∀ call, expiredProxy.handleExtAuthz call shortCookie (str "1595376000000000000") = .panicked) ∧
      (∃ s, Reaches (fun s => s = RefreshState.init IDToken []) expiredProxy.Verified stepRefresh s ∧
        expiredProxy.authorize (s.call 0) shortCookie ⟨[], str "a.b.c"⟩ = .panicked) ∧
      expiredProxy.reread ⟨[255], []⟩ ≠ some (.ok ⟨[255], []⟩) ∧
      ∃ s, Reaches (fun s => s = RefreshState.init IDToken (str "0123456789")) expiredProxy.Verified stepRefresh s ∧
        s.AtRest ∧ expiredProxy.authorize (s.call 1) shortCookie ⟨str "0123456789", str "a.b.c"⟩ = .refreshing := by
  have hcookie (call : CallState IDToken) :
      expiredProxy.handleExtAuthz call shortCookie (str "1595376000000000000") = .panicked := rfl
  refine ⟨fun h => ?_, hcookie, ?_, fun h => ?_, ?_⟩
  · exact not_answers_of_panicked hcookie (h.answers shortCookie (str "1595376000000000000"))
  · obtain ⟨s, hreached, hpanicked⟩ := panics_of_short expiredProxy [] (by decide)
    refine ⟨s, hreached.mono fun _ _ hi => hi.2, ?_⟩
    rw [hpanicked]
    rfl
  · have htext : jsonString [255] = [255] := jsonString_eq_self.mpr (AuthProxy.reread_eq_iff.mp h).1
    exact absurd htext (by decide +kernel)
  · -- the consumer has found nothing; the producer fails, broadcasts and goes; the consumer waits
    have hrun : runSteps stepRefresh (RefreshState.init IDToken (str "0123456789")) [.start 0, .start 1,
      .advance 1, .advance 1, .advance 1, .advance 0, .exchange 0 .noIDToken, .advance 0, .advance 0,
      .advance 0, .remove 0, .advance 1] = some _ := rfl
    refine ⟨_, Reaches.run_of (.start rfl) (fun i hi _ => ?_) hrun, ⟨fun id => ?_, fun id answer => ?_⟩, rfl⟩
    · cases i with
      | exchange id answer =>
          simp only [List.mem_cons, List.not_mem_nil, or_false, reduceCtorEq, false_or,
            RefreshStep.exchange.injEq] at hi
          exact ⟨.noIDToken, hi.2⟩
      | _ => trivial
    · rcases id with _ | _ | id <;> rfl
    · rcases id with _ | _ | id <;> rfl

end Kalm
