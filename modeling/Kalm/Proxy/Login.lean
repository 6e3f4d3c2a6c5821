/-
  File:      Kalm/Proxy/Login.lean
  Subject:   LOGIN LINKS: the auth proxy signs the link that `redirectToAuthProxyUrl` sends a client to, and
             `handleOIDCLogin` of api/cmd/auth-proxy/main.go checks the signature.

  * `AuthProxy.refuseLogin`, `AuthProxy.handleOIDCLogin` -- the checks, and the way to the provider;
  * `World`, `Event`, `step` -- the links that the proxy has issued;
  * `Unforged` -- the signature is ideal: a text with its signature is one that the proxy has signed;
  * `Uncut` -- the time of a request is as long as that of the link with the same text;
  * `accepted_iff` -- a login request that passes belongs to an issued link where its time is uncut; with clocks of
    nineteen digits exactly where the time has nineteen bytes. `accepted_fails` -- not else: what is signed is the
    URL and the time, one behind the other, and the boundary between them is not.
-/
import Kalm.Lib.Runs
import Kalm.Proxy.ExtAuthz

namespace Kalm.Login

open Runs (Always)

/-! ## 1. The handler -/

/-- The checks of `handleOIDCLogin`: its answer where one fails. -/
def refuseLogin (p : AuthProxy) (req : ProxyRequest) : Option ProxyAnswer :=
  let originalURL := req.queryParam (str "original_url")
  let now := req.queryParam (str "now")
  let sign := req.queryParam (str "sign")
  if p.configured = false then some (stringAnswer 503 (str "Please configure KALM OIDC environments."))
  else if originalURL = [] then some (stringAnswer 400 (str "Require param original_url."))
  else if now = [] then some (stringAnswer 400 (str "Require param original_url."))
  else if sign = [] then some (stringAnswer 400 (str "Require sign."))
  else if sign ≠ p.getStringSignature (originalURL ++ now) then some (stringAnswer 400 (str "Wrong sign"))
  else none

/-- `OauthState`, as the encoder writes it. -/
def oauthState (nonce originalURL : Str) : Str :=
  marshalStrings [(str "Nonce", nonce), (str "OriginalURL", originalURL)] ++ [newline]

/-- `handleOIDCLogin`, with `AuthCodeURL` of the OAuth configuration and the nonce it draws; `none` where it
    panics. -/
def handleOIDCLogin (p : AuthProxy) (authCodeURL : Str → Str) (req : ProxyRequest) (nonce : Str) :
    Option ProxyAnswer :=
  match refuseLogin p req with
  | some answer => some answer
  | none =>
    match aesEncrypt p.cipher (oauthState nonce (req.queryParam (str "original_url"))) p.stateEncryptKey.val with
    | none => none
    | some (.error _) => some (failedAnswer [])
    | some (.ok encryptedState) => some (redirectAnswer [] (authCodeURL (rawStdEncoding.encode encryptedState)))

/-! ## 2. Runs -/

/-- The links that were issued: URL and time. -/
structure World where
  issued : List (Str × Str)

/-- What happens: a client is sent to the login, at a time, or comes to it. -/
inductive Event where
  | redirect (req : ProxyRequest) (time : Int)
  | login (req : ProxyRequest) (nonce : Str)

/-- The URL and the time of a login request. -/
def linkOf (req : ProxyRequest) : Str × Str := (req.queryParam (str "original_url"), req.queryParam (str "now"))

/-- What is signed of a link. -/
def signed (link : Str × Str) : Str := link.1 ++ link.2

/-- One step. -/
def step (p : AuthProxy) (w : World) : Event → World
  | .redirect req time =>
    if (p.redirectToAuthProxyUrl req (formatInt time)).status = 302 then
      ⟨(getOriginalURL req, formatInt time) :: w.issued⟩
    else w
  | .login .. => w

/-! ## 3. The statement -/

/-- A login request that passes the checks belongs to a link that was issued. -/
def IssuedOnly (p : AuthProxy) (w : World) (e : Event) : Prop :=
  ∀ req nonce, e = .login req nonce → refuseLogin p req = none → linkOf req ∈ w.issued

/-- **The signature is ideal**: a text with its signature is one that the proxy has signed. -/
def Unforged (p : AuthProxy) (w : World) (e : Event) : Prop :=
  ∀ req nonce, e = .login req nonce → req.queryParam (str "sign") = p.getStringSignature (signed (linkOf req)) →
    ∃ link ∈ w.issued, signed link = signed (linkOf req)

/-- The time of a login request is as long as that of each link with the same text. -/
def Uncut (w : World) (e : Event) : Prop :=
  ∀ req nonce, e = .login req nonce → ∀ link ∈ w.issued, signed link = signed (linkOf req) →
    (linkOf req).2.length = link.2.length

/-- The clock shows nineteen digits: nanoseconds from September 2001 to November 2286. -/
def Clock (_ : World) (e : Event) : Prop :=
  ∀ req time, e = .redirect req time → 10 ^ 18 ≤ time ∧ time < 10 ^ 19

/-! ## 4. Links that are not cut -/

theorem sign_of_refuseLogin {p : AuthProxy} {req : ProxyRequest} (h : refuseLogin p req = none) :
    req.queryParam (str "sign") = p.getStringSignature (signed (linkOf req)) := by
  unfold refuseLogin at h
  dsimp only at h
  split_ifs at h with _ _ _ _ hsign
  exact not_not.mp hsign

/-- A text is cut in one way, when the length of its end is known. -/
theorem link_eq {link link' : Str × Str} (h : signed link = signed link') (hlength : link'.2.length = link.2.length) :
    link = link' := by
  obtain ⟨hurl, hnow⟩ := List.append_inj' h hlength.symm
  exact Prod.ext hurl hnow

/-- **A request that passes belongs to an issued link**, where its time is uncut. -/
theorem issuedOnly_of_uncut {p : AuthProxy} {w : World} {e : Event} (hideal : Unforged p w e) (huncut : Uncut w e) :
    IssuedOnly p w e := by
  intro req nonce he hpasses
  obtain ⟨link, hlink, hsigned⟩ := hideal req nonce he (sign_of_refuseLogin hpasses)
  have heq := link_eq hsigned (huncut req nonce he link hlink hsigned)
  exact heq ▸ hlink

/-! ## 5. Clocks of nineteen digits -/

/-- A number has a byte for each digit. -/
theorem length_itoa (n : Nat) : (itoa n).length = (Nat.toDigits 10 n).length := by
  have hascii : ∀ c ∈ Nat.toDigits 10 n, (utf8.enc c).length = 1 := by
    intro c hc
    have hdigit := Nat.isDigit_of_mem_toDigits (by decide) (by decide) hc
    have hsize : (utf8.enc c).length = c.utf8Size := String.length_utf8EncodeChar c
    rw [hsize, Char.utf8Size_eq_one_iff]
    simp only [Char.isDigit, ge_iff_le, Bool.and_eq_true, decide_eq_true_eq] at hdigit
    exact UInt32.le_trans hdigit.2 (by decide)
  have hflat : ∀ l : List Char, (∀ c ∈ l, (utf8.enc c).length = 1) → (utf8.flat l).length = l.length := by
    intro l hl
    induction l with
    | nil => rfl
    | cons c l ih =>
        rw [Code.flat_cons, List.length_append, hl c List.mem_cons_self,
          ih fun d hd => hl d (List.mem_cons_of_mem c hd), List.length_cons, Nat.add_comm]
  exact hflat _ hascii

/-- The time of such a clock has nineteen bytes. -/
theorem length_formatInt {time : Int} (hlow : 10 ^ 18 ≤ time) (hhigh : time < 10 ^ 19) :
    (formatInt time).length = 19 := by
  have hlow' : 10 ^ 18 ≤ time.natAbs := by omega
  have hhigh' : time.natAbs < 10 ^ 19 := by omega
  rw [formatInt, if_neg (by omega), length_itoa]
  have hle := (Nat.length_toDigits_le_iff (b := 10) (n := time.natAbs) (k := 19) (by decide) (by decide)).mpr hhigh'
  have hgt := mt (Nat.length_toDigits_le_iff (b := 10) (n := time.natAbs) (k := 18) (by decide) (by decide)).mp
    (Nat.not_lt.mpr hlow')
  omega

/-- The links of the world have times of nineteen bytes. -/
def Nineteen (w : World) : Prop := ∀ link ∈ w.issued, link.2.length = 19

theorem nineteen_step {p : AuthProxy} {w : World} {e : Event} (hw : Nineteen w) (hclock : Clock w e) :
    Nineteen (step p w e) := by
  cases e with
  | redirect req time =>
      obtain ⟨hlow, hhigh⟩ := hclock req time rfl
      dsimp only [step]
      split
      · intro link hlink
        rcases List.mem_cons.mp hlink with rfl | hlink
        · exact length_formatInt hlow hhigh
        · exact hw link hlink
      · exact hw
  | login req nonce => exact hw

/-- **Logins and issued links**, along every run over an ideal signature. -/
theorem accepted_iff (p : AuthProxy) (w : World) (events : List Event) (hw : w.issued = [])
    (hideal : Always (step p) (Unforged p) w events) :
    (Always (step p) Uncut w events → Always (step p) (IssuedOnly p) w events) ∧
      (Always (step p) Clock w events → Always (step p) (fun w e => ∀ req nonce, e = .login req nonce →
        refuseLogin p req = none → (linkOf req ∈ w.issued ↔ (linkOf req).2.length = 19)) w events) := by
  refine ⟨fun huncut => (hideal.and huncut).mono fun _ _ h => issuedOnly_of_uncut h.1 h.2, fun hclock => ?_⟩
  have hstart : Nineteen w := by
    intro link hlink
    rw [hw] at hlink
    cases hlink
  refine Always.of_invariant (fun _ _ hn hmeets => nineteen_step hn hmeets.2) ?_ hstart (hideal.and hclock)
  intro w e hn hmeets req nonce he hpasses
  refine ⟨fun hlink => hn _ hlink, fun hlength => ?_⟩
  obtain ⟨link, hlink, hsigned⟩ := hmeets.1 req nonce he (sign_of_refuseLogin hpasses)
  exact link_eq hsigned (hlength.trans (hn link hlink).symm) ▸ hlink

/-! ## 6. A link, and where it is cut -/

/-- The page of an application. -/
def pageRequest : ProxyRequest := ⟨str "https", str "app.example.com", [slash], [], [], none⟩

/-- A time in September 2020. -/
def pageTime : Int := 1600000000000000000

/-- SHA-256 of the two texts that are hashed here. -/
def pageSha256 (data : Str) : { sum : Str // sum.length = 32 } :=
  if data = str "s3cr3t" then
    ⟨[78, 115, 140, 165, 86, 60, 6, 207, 208, 1, 130, 153, 147, 61, 88, 219,
      29, 216, 191, 151, 246, 151, 61, 201, 155, 246, 205, 198, 75, 85, 80, 189], by decide⟩
  else
    ⟨[23, 14, 70, 25, 158, 110, 132, 174, 236, 245, 50, 183, 219, 62, 100, 230,
      189, 22, 185, 77, 217, 181, 175, 70, 59, 75, 75, 66, 244, 110, 23, 182], by decide⟩

/-- A proxy for the application. -/
def pageProxy : AuthProxy where
  configured := true
  authProxyURL := str "https://auth.example.com"
  clientSecret := str "s3cr3t"
  cipher := fun _ => Equiv.refl _
  sha256 := pageSha256
  oidcVerifier := ⟨fun _ => .error [], nofun⟩

/-- A login request with the signature of the link of the page. -/
def loginRequest (originalURL now : Str) : ProxyRequest :=
  ⟨str "https", str "auth.example.com", str "/oidc/login",
    [(str "original_url", originalURL), (str "now", now),
      (str "sign", pageProxy.getStringSignature (str "https://app.example.com/1600000000000000000"))], [], none⟩

/-- The client is sent to the login, and one comes to it. -/
def pageRun (originalURL now : Str) : List Event :=
  [.redirect pageRequest pageTime, .login (loginRequest originalURL now) []]

/-- The link of the page. -/
theorem issued_page : (step pageProxy ⟨[]⟩ (.redirect pageRequest pageTime)).issued =
    [(str "https://app.example.com/", str "1600000000000000000")] := by decide

/-- The signature is that of the link, wherever it is cut. -/
theorem unforged_pageRun {originalURL now : Str}
    (h : signed (linkOf (loginRequest originalURL now)) = str "https://app.example.com/1600000000000000000") :
    Always (step pageProxy) (Unforged pageProxy) ⟨[]⟩ (pageRun originalURL now) := by
  refine ⟨nofun, fun req nonce he _ => ?_, trivial⟩
  cases he
  rw [h, issued_page]
  exact ⟨_, List.mem_cons_self, by decide⟩

/-- The client comes with the link; the time is there as a whole. -/
theorem accepted_page :
    Always (step pageProxy) (IssuedOnly pageProxy) ⟨[]⟩
      (pageRun (str "https://app.example.com/") (str "1600000000000000000")) := by
  refine (accepted_iff pageProxy ⟨[]⟩ _ rfl (unforged_pageRun (by decide))).1 ?_
  refine ⟨nofun, fun req nonce he link hlink _ => ?_, trivial⟩
  cases he
  rw [issued_page, List.mem_singleton] at hlink
  rw [hlink]
  decide

/-- The link is cut before the end of the host: nobody asked for that URL. -/
theorem accepted_fails :
    ¬ ∀ (p : AuthProxy) (w : World) (events : List Event), w.issued = [] →
      Always (step p) (Unforged p) w events → Always (step p) (IssuedOnly p) w events := by
  intro h
  have hrun := h pageProxy ⟨[]⟩ (pageRun (str "https://app.example.co") (str "m/1600000000000000000")) rfl
    (unforged_pageRun (by decide))
  have hlink := hrun.2.1 _ _ rfl (by decide)
  rw [issued_page, List.mem_singleton] at hlink
  revert hlink
  decide

end Kalm.Login
