/-
  File:      Kalm/Certs/Upload.lean
  Subject:   UPLOADED CERTIFICATES: `CreateSelfManagedHttpsCert` and `UpdateSelfManagedCert` of
             api/resources/https_cert.go. A certificate is in two objects, the secret with its content and the
             `HttpsCert` with its domains.

  * `serveCerts` -- the webhook sees every write of an `HttpsCert`;
  * `createSelfManagedHttpsCert` -- one object behind the other; `updateSecret`, `updateDomains` -- two goroutines,
    joined in `Updates`;
  * `InStep` -- both objects are of one certificate, or neither is there;
  * `UpdateConsistent`, `CreateConsistent` -- what is returned has been stored, and an error leaves them in step;
  * `uploads_iff` -- that is so exactly where the writes that take effect leave the domains of the stored certificate.
-/
import Kalm.Certs.Naming
import Kalm.Certs.Status
import Kalm.K8s.Names
import Kalm.Lib.Joined

namespace Kalm.Tls

open Calls (Action Fault Outcome meet run)
open Certs (Iteration)
open Joined (Half Thread)
open Objects (Creatable Error Schema State Task Versioned)

/-! ## 1. Two stores -/

/-- The secrets. -/
@[reducible] def secretSchema : Schema where
  Kind := Unit
  Key := Str × Str
  Obj := fun _ => Secret
  key := fun secret => (secret.ns, secret.name)
  valid := fun secret => isDNS1123Subdomain secret.name
  decObj := fun _ => inferInstance

/-- The certificates. -/
@[reducible] def httpsCertSchema : Schema where
  Kind := Unit
  Key := Str
  Obj := fun _ => HttpsCert
  key := HttpsCert.name
  valid := fun c => isDNS1123Subdomain c.name && Kind.valid .httpsCert c
  decObj := fun _ => inferInstance

/-- The secrets that are stored. -/
abbrev Secrets := State secretSchema

/-- The certificates that are stored. -/
abbrev HttpsCerts := State httpsCertSchema

/-- The API server with the webhook of the certificates, whose map is ranged over in the order `it`. -/
def serveCerts (it : Iteration) : (c : Objects.Call httpsCertSchema) → HttpsCerts →
    Except Error c.Reply × HttpsCerts
  | .list k, s => Objects.serve (.list k) s
  | .get k name, s => Objects.serve (.get k name) s
  | .delete k name, s => Objects.serve (.delete k name) s
  | .create k c, s => Objects.serve (.create k (HttpsCert.default it c)) s
  | .update k v, s =>
    if httpsCertSchema.valid (k := ()) (HttpsCert.default it v.obj) = false then (.error .invalid, s)
    else Objects.serve (.update k ⟨HttpsCert.default it v.obj, v.version⟩) s

/-! ## 2. The programs -/

/-- `getDomainsInCert`. -/
def getDomainsInCert (x509Cert : X509) : List Str :=
  if x509Cert.dnsNames.length > 0 then x509Cert.dnsNames
  else if x509Cert.commonName ≠ [] then [x509Cert.commonName]
  else []

/-- `checkPrivateKey`: nothing is checked yet. -/
def checkPrivateKey (_cert : X509) (_prvKey : Str) : Bool := true

/-- `nsIstioSystem`. -/
def nsIstioSystem : Str := str "istio-system"

/-- `strings.Join` with a comma. -/
def joinDomains (domains : List Str) : Str := (str ",").intercalate domains

namespace HttpsCertResource

variable (cert : HttpsCertResource)

/-- `getSecNameForSelfManagedCert`. -/
def getSecNameForSelfManagedCert : Str := str "kalm-self-managed-" ++ cert.name

/-- The key of the secret. -/
def secretKey : Str × Str := (nsIstioSystem, cert.getSecNameForSelfManagedCert)

/-- The data of a secret, with the pair that is uploaded. -/
def addPair (data : ObjectLabels) : ObjectLabels :=
  (data.insert (str "tls.crt") cert.selfManagedCertContent).insert (str "tls.key") cert.selfManagedCertPrvKey

/-- A secret with the pair. -/
def paired (secret : Secret) : Secret := { secret with data := cert.addPair secret.data }

/-- The secret of `createCertSecretInNSIstioSystem`. -/
def certSecret : Secret := ⟨nsIstioSystem, cert.getSecNameForSelfManagedCert, cert.addPair ∅⟩

/-- The certificate that is created. -/
def selfManaged (x509Cert : X509) : HttpsCert where
  name := cert.name
  spec := ⟨true, cert.getSecNameForSelfManagedCert, [], getDomainsInCert x509Cert⟩
  status := ⟨[], 0, false⟩

end HttpsCertResource

/-- A certificate with other domains. -/
def HttpsCert.withDomains (c : HttpsCert) (domains : List Str) : HttpsCert :=
  { c with spec := { c.spec with domains := domains } }

/-- The text for a certificate without a name. -/
def noDomain : Failure := .text (str "fail to find domain name in cert")

section Program

variable (env : Outside) (it : Iteration) (cert : HttpsCertResource)

/-- `CreateSelfManagedHttpsCert`: what it returns, and both stores behind it. -/
def createSelfManagedHttpsCert (f g : Fault) (secrets : Secrets) (certs : HttpsCerts) :
    Except Failure HttpsCertResource × Secrets × HttpsCerts :=
  match parseCert env cert.selfManagedCertContent with
  | .error e => (.error (.text e), secrets, certs)
  | .ok x509Cert =>
    if (getDomainsInCert x509Cert).length ≤ 0 then (.error noDomain, secrets, certs)
    else if checkPrivateKey x509Cert cert.selfManagedCertPrvKey = false then
      (.error (.text (str "privateKey and cert not match")), secrets, certs)
    else
      match meet Objects.serve .unavailable f (.create (S := secretSchema) () cert.certSecret) secrets with
      | (.error e, x) => (.error (.api e), x, certs)
      | (.ok _, x) =>
        match meet (serveCerts it) .unavailable g (.create () (cert.selfManaged x509Cert)) certs with
        | (.error e, y) => (.error (.api e), x, y)
        | (.ok _, y) => (.ok { cert with domains := x509Cert.dnsNames }, x, y)

/-- The first goroutine of `UpdateSelfManagedCert`. -/
def updateSecret : Task secretSchema Unit := do
  let sec ← Objects.invoke (.get () cert.secretKey)
  Objects.invoke (.update () ⟨cert.paired sec.obj, sec.version⟩)

/-- The second one. -/
def updateDomains (x509Cert : X509) : Task httpsCertSchema Unit := do
  let res ← Objects.invoke (.get () cert.name)
  if joinDomains res.obj.spec.domains = joinDomains (getDomainsInCert x509Cert) then pure ()
  else Objects.invoke (.update () ⟨res.obj.withDomains x509Cert.dnsNames, res.version⟩)

/-- `err1` and `err2`. -/
structure Errs where
  err1 : Option Error
  err2 : Option Error
  deriving DecidableEq

/-- The error of a goroutine. -/
def errorOf : Outcome Error Unit → Option Error
  | .failed e => some e
  | _ => none

/-- The first goroutine and its server. -/
def secretHalf : Half (Objects.Call secretSchema) Objects.Call.Reply Error Unit Secrets Errs :=
  ⟨Objects.serve, .unavailable, fun o v => { v with err1 := errorOf o }⟩

/-- The second one. -/
def certHalf : Half (Objects.Call httpsCertSchema) Objects.Call.Reply Error Unit HttpsCerts Errs :=
  ⟨serveCerts it, .unavailable, fun o v => { v with err2 := errorOf o }⟩

/-- What is returned behind both `Wait()`. -/
def Errs.result (v : Errs) : Except Failure HttpsCertResource :=
  match v.err1 with
  | some e => .error (.api e)
  | none =>
    match v.err2 with
    | some e => .error (.api e)
    | none => .ok cert

/-- `UpdateSelfManagedCert` can return `result` and leave `x` and `y`, when its calls meet these faults. -/
def Updates (f g : List Fault) (secrets : Secrets) (certs : HttpsCerts) (x : Secrets) (y : HttpsCerts)
    (result : Except Failure HttpsCertResource) : Prop :=
  match parseCert env cert.selfManagedCertContent with
  | .error e => result = .error (.text e) ∧ x = secrets ∧ y = certs
  | .ok x509Cert =>
    if (getDomainsInCert x509Cert).length ≤ 0 then result = .error noDomain ∧ x = secrets ∧ y = certs
    else
      ∃ v, Joined.Ends secretHalf (certHalf it) ⟨some (updateSecret cert), f, secrets⟩
        ⟨some (updateDomains cert x509Cert), g, certs⟩ ⟨none, none⟩ x y v ∧ result = v.result cert

/-! ## 3. What it is for -/

/-- The secret of an upload, as it is stored. -/
def secretOf (secrets : Secrets) : Option Secret := secrets.objAt () cert.secretKey

/-- The certificate of an upload, as it is stored. -/
def certOf (certs : HttpsCerts) : Option HttpsCert := certs.objAt () cert.name

/-- **What was uploaded is stored**: the pair, and the domains of its certificate. -/
def Uploaded (secrets : Secrets) (certs : HttpsCerts) : Prop :=
  ∃ secret c x509Cert, secretOf cert secrets = some secret ∧ certOf cert certs = some c ∧
    secret.data.lookup (str "tls.crt") = some cert.selfManagedCertContent ∧
    secret.data.lookup (str "tls.key") = some cert.selfManagedCertPrvKey ∧
    parseCert env cert.selfManagedCertContent = .ok x509Cert ∧ c.spec.domains = getDomainsInCert x509Cert

/-- Neither object is there. -/
def Free (secrets : Secrets) (certs : HttpsCerts) : Prop := secretOf cert secrets = none ∧ certOf cert certs = none

/-- **Both objects are in step**: neither is there, or they are of one certificate. -/
def InStep (secrets : Secrets) (certs : HttpsCerts) : Prop :=
  Free cert secrets certs ∨ ∃ secret c x509Cert, secretOf cert secrets = some secret ∧ certOf cert certs = some c ∧
    parseCert env secret.tlsCert = .ok x509Cert ∧ c.spec.domains = getDomainsInCert x509Cert

/-- An update stores what it returns for, and leaves both in step where it returns an error. -/
structure UpdateConsistent (f g : List Fault) (secrets : Secrets) (certs : HttpsCerts) : Prop where
  ok : ∀ x y made, Updates env it cert f g secrets certs x y (.ok made) → Uploaded env cert x y
  error : ∀ x y e, Updates env it cert f g secrets certs x y (.error e) → InStep env cert secrets certs →
    InStep env cert x y

/-- So does a creation, and behind an error it can be tried again. -/
structure CreateConsistent (f g : Fault) (secrets : Secrets) (certs : HttpsCerts) : Prop where
  ok : ∀ made x y, createSelfManagedHttpsCert env it cert f g secrets certs = (.ok made, x, y) →
    Uploaded env cert x y
  error : ∀ e x y, createSelfManagedHttpsCert env it cert f g secrets certs = (.error e, x, y) →
    InStep env cert secrets certs → InStep env cert x y
  again : ∀ e x y, createSelfManagedHttpsCert env it cert f g secrets certs = (.error e, x, y) →
    Free cert secrets certs → Free cert x y

/-! ## 4. What takes effect -/

/-- The domains behind the webhook, where the DNS names are written. -/
def writtenDomains (x509Cert : X509) : List Str := it.order (uniqDomains x509Cert.dnsNames)

/-- The certificate as the webhook takes it. -/
def rewritten (x509Cert : X509) (c : HttpsCert) : HttpsCert :=
  HttpsCert.default it (c.withDomains x509Cert.dnsNames)

/-- The domains are other ones. -/
def Differs (x509Cert : X509) (c : HttpsCert) : Prop :=
  joinDomains c.spec.domains ≠ joinDomains (getDomainsInCert x509Cert)

/-- The webhook takes the DNS names. -/
def Takes (x509Cert : X509) (c : HttpsCert) : Prop :=
  httpsCertSchema.valid (k := ()) (rewritten it x509Cert c) = true

/-- The secret is written. -/
def SecretWritten (f : List Fault) : Prop := f.getD 0 .served = .served ∧ f.getD 1 .served ≠ .refused

/-- The domains are written. -/
def DomainsWritten (x509Cert : X509) (g : List Fault) (c : HttpsCert) : Prop :=
  g.getD 0 .served = .served ∧ Differs x509Cert c ∧ g.getD 1 .served ≠ .refused ∧ Takes it x509Cert c

/-- Both goroutines are answered without an error. -/
def Answered (x509Cert : X509) (f g : List Fault) (c : HttpsCert) : Prop :=
  (f.getD 0 .served = .served ∧ f.getD 1 .served = .served) ∧ g.getD 0 .served = .served ∧
    (Differs x509Cert c → g.getD 1 .served = .served ∧ Takes it x509Cert c)

instance (x509Cert : X509) (g : List Fault) (c : HttpsCert) : Decidable (DomainsWritten it x509Cert g c) := by
  unfold DomainsWritten Differs Takes
  infer_instance

/-- The domains behind an update. -/
def domainsBehind (x509Cert : X509) (g : List Fault) (c : HttpsCert) : List Str :=
  if DomainsWritten it x509Cert g c then writtenDomains it x509Cert else c.spec.domains

/-- **The condition on an update**: where the secret comes to hold the new certificate, the domains that are written
    are those of it, or else the stored ones are; where it does not, what is written is what was stored. -/
def UpdateFits (f g : List Fault) (secrets : Secrets) (certs : HttpsCerts) : Prop :=
  ∀ x509Cert c, parseCert env cert.selfManagedCertContent = .ok x509Cert → getDomainsInCert x509Cert ≠ [] →
    (secretOf cert secrets).isSome → certOf cert certs = some c →
    (Answered it x509Cert f g c ∨ InStep env cert secrets certs ∧ SecretWritten f →
      (DomainsWritten it x509Cert g c → writtenDomains it x509Cert = getDomainsInCert x509Cert) ∧
      (¬ DomainsWritten it x509Cert g c → c.spec.domains = getDomainsInCert x509Cert)) ∧
    (InStep env cert secrets certs → ¬ SecretWritten f → DomainsWritten it x509Cert g c →
      writtenDomains it x509Cert = c.spec.domains)

/-- **The condition on a creation** that stores its secret where there is no certificate: both calls are answered, the
    certificate is taken, and the webhook leaves its domains as they are. -/
def CreateFits (f g : Fault) (secrets : Secrets) (certs : HttpsCerts) : Prop :=
  ∀ x509Cert, parseCert env cert.selfManagedCertContent = .ok x509Cert → getDomainsInCert x509Cert ≠ [] →
    f ≠ .refused → Creatable (S := secretSchema) (k := ()) secrets cert.certSecret → certOf cert certs = none →
    f = .served ∧ g = .served ∧
      httpsCertSchema.valid (k := ()) (HttpsCert.default it (cert.selfManaged x509Cert)) = true ∧
      it.order (uniqDomains (getDomainsInCert x509Cert)) = getDomainsInCert x509Cert

end Program

/-! ## 5. The goroutines -/

section Fetch

variable {S : Schema} {k : S.Kind} {serve : (c : Objects.Call S) → State S → Except Error c.Reply × State S}

/-- The server answers a get with what is stored. -/
def ReadsAlike (k : S.Kind) (serve : (c : Objects.Call S) → State S → Except Error c.Reply × State S) : Prop :=
  ∀ key s, serve (.get k key) s = Objects.serve (.get k key) s

theorem readsAlike_serve (k : S.Kind) : ReadsAlike k Objects.serve := fun _ _ => rfl

/-- A program that begins with a get: it goes on with the object, or it ends. -/
theorem run_fetch (hserve : ReadsAlike k serve) (key : S.Key) (p : Versioned S k → Task S Unit) (faults : List Fault)
    (s : State S) :
    (∃ v, s.get k key = some v ∧ faults.getD 0 .served = .served ∧
      run serve .unavailable (Objects.invoke (.get k key) >>= p) faults s =
        run serve .unavailable (p v) faults.tail s) ∨
    ((s.get k key = none ∨ faults.getD 0 .served ≠ .served) ∧
      ∃ e, run serve .unavailable (Objects.invoke (.get k key) >>= p) faults s = (.failed e, s)) := by
  have hrun := Calls.run_invoke serve Error.unavailable (.get k key) p faults s
  rw [Calls.headD_eq_getD] at hrun
  cases hfault : faults.getD 0 .served with
  | served =>
      rw [hfault, meet, hserve, Objects.serve_get_eq] at hrun
      cases hget : s.get k key with
      | none =>
          rw [hget] at hrun
          rcases hrun with ⟨v, hv, _⟩ | ⟨e, _, hrun⟩
          · cases hv
          · exact Or.inr ⟨Or.inl rfl, e, hrun⟩
      | some v =>
          rw [hget] at hrun
          rcases hrun with ⟨w, hw, hrun⟩ | ⟨e, he, _⟩
          · obtain rfl := Except.ok.inj hw
            exact Or.inl ⟨v, rfl, rfl, hrun⟩
          · cases he
  | refused =>
      rw [hfault, meet] at hrun
      rcases hrun with ⟨v, hv, _⟩ | ⟨e, _, hrun⟩
      · cases hv
      · exact Or.inr ⟨Or.inr (by decide), e, hrun⟩
  | lost =>
      rw [hfault, meet, hserve, Objects.serve_get_eq] at hrun
      rcases hrun with ⟨v, hv, _⟩ | ⟨e, _, hrun⟩
      · cases hv
      · exact Or.inr ⟨Or.inr (by decide), e, hrun⟩

/-- The last call of a program, if the server takes it. -/
theorem run_last {c : Objects.Call S} {r : c.Reply} {s t : State S} (h : serve c s = (.ok r, t))
    (faults : List Fault) : run serve .unavailable (Objects.invoke c) faults s =
      match faults.getD 0 .served with
      | .served => (.returned r, t)
      | .refused => (.failed .unavailable, s)
      | .lost => (.failed .unavailable, t) := by
  rw [Objects.invoke, Calls.run_invoke_end, Calls.headD_eq_getD]
  cases faults.getD 0 .served with
  | served => rw [meet, h, Calls.answered]
  | refused => rfl
  | lost => rw [meet, h, Calls.answered]

/-- The last call of a program, if the server does not take it. -/
theorem run_last_error {c : Objects.Call S} {e : Error} {s : State S} (h : serve c s = (.error e, s))
    (faults : List Fault) : ∃ e', run serve .unavailable (Objects.invoke c) faults s = (.failed e', s) := by
  rw [Objects.invoke, Calls.run_invoke_end]
  cases faults.headD .served with
  | served => exact ⟨e, by rw [meet, h, Calls.answered]⟩
  | refused => exact ⟨_, rfl⟩
  | lost => exact ⟨.unavailable, by rw [meet, h, Calls.answered]⟩

end Fetch

variable {env : Outside} {it : Iteration} {cert : HttpsCertResource} {x509Cert : X509} {f g : List Fault}
  {secrets : Secrets} {certs : HttpsCerts}

theorem lookup_crt (data : ObjectLabels) :
    (cert.addPair data).lookup (str "tls.crt") = some cert.selfManagedCertContent := by
  rw [HttpsCertResource.addPair, Finmap.lookup_insert_of_ne _ (by decide), Finmap.lookup_insert]

theorem lookup_key (data : ObjectLabels) :
    (cert.addPair data).lookup (str "tls.key") = some cert.selfManagedCertPrvKey := by
  rw [HttpsCertResource.addPair, Finmap.lookup_insert]

theorem tlsCert_paired (secret : Secret) : (cert.paired secret).tlsCert = cert.selfManagedCertContent := by
  rw [Secret.tlsCert, HttpsCertResource.paired, lookup_crt, Option.getD_some]

/-- What the first goroutine comes to. -/
def leftRun (cert : HttpsCertResource) (f : List Fault) (secrets : Secrets) : Outcome Error Unit × Secrets :=
  run Objects.serve .unavailable (updateSecret cert) f secrets

/-- What the second one comes to. -/
def rightRun (it : Iteration) (cert : HttpsCertResource) (x509Cert : X509) (g : List Fault) (certs : HttpsCerts) :
    Outcome Error Unit × HttpsCerts :=
  run (serveCerts it) .unavailable (updateDomains cert x509Cert) g certs

theorem readsAlike_serveCerts (it : Iteration) : ReadsAlike () (serveCerts it) := fun _ _ => rfl

theorem leftRun_of_none (h : secretOf cert secrets = none) :
    errorOf (leftRun cert f secrets).1 ≠ none ∧ (leftRun cert f secrets).2 = secrets := by
  unfold leftRun updateSecret
  rcases run_fetch (readsAlike_serve ()) cert.secretKey _ f secrets with ⟨v, hget, _⟩ | ⟨_, e, hrun⟩
  · rw [secretOf, State.objAt, hget] at h
    cases h
  · rw [hrun]
    exact ⟨Option.some_ne_none e, rfl⟩

/-- **The secret of an update**: it has the new pair exactly where it is written. -/
theorem leftRun_of_some {secret : Secret} (h : secretOf cert secrets = some secret) :
    (errorOf (leftRun cert f secrets).1 = none ↔ f.getD 0 .served = .served ∧ f.getD 1 .served = .served) ∧
      (SecretWritten f → secretOf cert (leftRun cert f secrets).2 = some (cert.paired secret)) ∧
        (¬ SecretWritten f → secretOf cert (leftRun cert f secrets).2 = some secret) := by
  unfold leftRun updateSecret SecretWritten
  rcases run_fetch (readsAlike_serve ()) cert.secretKey _ f secrets with
    ⟨v, hget, hfault, hrun⟩ | ⟨hnone, e, hrun⟩
  · have hobj : v.obj = secret := by
      rw [secretOf, State.objAt, hget] at h
      exact Option.some.inj h
    have hkey : secretSchema.key (k := ()) (cert.paired v.obj) = cert.secretKey := (State.get_eq_some.mp hget).2
    have hbehind : secretOf cert (secrets.updated v (cert.paired v.obj)) = some (cert.paired secret) := by
      rw [secretOf, State.objAt_updated hget hkey, hobj]
    have hlast := run_last (Objects.serve_updated hget hkey) f.tail
    rw [Calls.tail_getD] at hlast
    rw [hrun.trans hlast, hfault]
    cases f.getD 1 .served with
    | served =>
        exact ⟨iff_of_true rfl ⟨rfl, rfl⟩, fun _ => hbehind, fun hnot => absurd ⟨rfl, by decide⟩ hnot⟩
    | refused =>
        exact ⟨iff_of_false (Option.some_ne_none _) fun e => (by cases e.2), fun hw => absurd rfl hw.2, fun _ => h⟩
    | lost =>
        exact ⟨iff_of_false (Option.some_ne_none _) fun e => (by cases e.2), fun _ => hbehind,
          fun hnot => absurd ⟨rfl, by decide⟩ hnot⟩
  · have hfault : f.getD 0 .served ≠ .served := by
      refine hnone.resolve_left fun hget => ?_
      rw [secretOf, State.objAt, hget] at h
      cases h
    rw [hrun]
    exact ⟨iff_of_false (Option.some_ne_none e) fun ha => hfault ha.1, fun hw => absurd hw.1 hfault, fun _ => h⟩

theorem rightRun_of_none (h : certOf cert certs = none) :
    errorOf (rightRun it cert x509Cert g certs).1 ≠ none ∧ (rightRun it cert x509Cert g certs).2 = certs := by
  unfold rightRun updateDomains
  rcases run_fetch (readsAlike_serveCerts it) cert.name _ g certs with ⟨v, hget, _⟩ | ⟨_, e, hrun⟩
  · rw [certOf, State.objAt, hget] at h
    cases h
  · rw [hrun]
    exact ⟨Option.some_ne_none e, rfl⟩

theorem domainsBehind_eq_iff {c : HttpsCert} {domains : List Str} : domainsBehind it x509Cert g c = domains ↔
    (DomainsWritten it x509Cert g c → writtenDomains it x509Cert = domains) ∧
      (¬ DomainsWritten it x509Cert g c → c.spec.domains = domains) := by
  unfold domainsBehind
  split <;> simp [*]

/-- **The certificate of an update.** -/
theorem rightRun_of_some {c : HttpsCert} (h : certOf cert certs = some c) :
    (errorOf (rightRun it cert x509Cert g certs).1 = none ↔
      g.getD 0 .served = .served ∧ (Differs x509Cert c → g.getD 1 .served = .served ∧ Takes it x509Cert c)) ∧
    ∃ c', certOf cert (rightRun it cert x509Cert g certs).2 = some c' ∧
      c'.spec.domains = domainsBehind it x509Cert g c := by
  have hkept : ¬ DomainsWritten it x509Cert g c → ∃ c', certOf cert certs = some c' ∧
      c'.spec.domains = domainsBehind it x509Cert g c := by
    intro hnot
    exact ⟨c, h, (if_neg hnot).symm⟩
  unfold rightRun updateDomains
  rcases run_fetch (readsAlike_serveCerts it) cert.name _ g certs with
    ⟨v, hget, hfault, hrun⟩ | ⟨hnone, e, hrun⟩
  · have hobj : v.obj = c := by
      rw [certOf, State.objAt, hget] at h
      exact Option.some.inj h
    rw [hrun, hfault]
    by_cases hsame : joinDomains v.obj.spec.domains = joinDomains (getDomainsInCert x509Cert)
    · rw [if_pos hsame]
      have hdiffers : ¬ Differs x509Cert c := fun hd => hd (hobj ▸ hsame)
      exact ⟨iff_of_true rfl ⟨rfl, fun hd => absurd hd hdiffers⟩, hkept fun hw => hdiffers hw.2.1⟩
    have hdiffers : Differs x509Cert c := fun e => hsame (hobj ▸ e)
    rw [if_neg hsame]
    by_cases htakes : Takes it x509Cert c
    · have hkey : httpsCertSchema.key (k := ()) (rewritten it x509Cert v.obj) = cert.name :=
        (State.get_eq_some.mp hget).2
      have hserve : serveCerts it (.update () ⟨v.obj.withDomains x509Cert.dnsNames, v.version⟩) certs =
          (.ok (), certs.updated v (rewritten it x509Cert v.obj)) := by
        have hvalid : ¬ httpsCertSchema.valid (k := ()) (rewritten it x509Cert v.obj) = false := by
          rw [hobj, htakes]
          exact Bool.noConfusion
        exact (if_neg hvalid).trans (Objects.serve_updated hget hkey)
      have hwritten : DomainsWritten it x509Cert g c → ∃ c', certOf cert
          (certs.updated v (rewritten it x509Cert v.obj)) = some c' ∧
            c'.spec.domains = domainsBehind it x509Cert g c := by
        intro hw
        refine ⟨rewritten it x509Cert v.obj, State.objAt_updated hget hkey, ?_⟩
        rw [domainsBehind, if_pos hw]
        rfl
      have hlast := run_last hserve g.tail
      rw [Calls.tail_getD] at hlast
      rw [hlast]
      cases hsecond : g.getD 1 .served with
      | served =>
          refine ⟨iff_of_true rfl ⟨rfl, fun _ => ⟨rfl, htakes⟩⟩, hwritten ⟨hfault, hdiffers, ?_, htakes⟩⟩
          rw [hsecond]
          decide
      | refused =>
          exact ⟨iff_of_false (Option.some_ne_none _) fun ha => (by cases (ha.2 hdiffers).1),
            hkept fun hw => hw.2.2.1 hsecond⟩
      | lost =>
          refine ⟨iff_of_false (Option.some_ne_none _) fun ha => (by cases (ha.2 hdiffers).1),
            hwritten ⟨hfault, hdiffers, ?_, htakes⟩⟩
          rw [hsecond]
          decide
    · have hserve : serveCerts it (.update () ⟨v.obj.withDomains x509Cert.dnsNames, v.version⟩) certs =
          (.error .invalid, certs) := by
        refine if_pos ?_
        rw [hobj]
        exact Bool.not_eq_true _ ▸ htakes
      obtain ⟨e, hlast⟩ := run_last_error hserve g.tail
      rw [hlast]
      exact ⟨iff_of_false (Option.some_ne_none _) fun ha => htakes (ha.2 hdiffers).2, hkept fun hw => htakes hw.2.2.2⟩
  · have hfault : g.getD 0 .served ≠ .served := by
      refine hnone.resolve_left fun hget => ?_
      rw [certOf, State.objAt, hget] at h
      cases h
    rw [hrun]
    exact ⟨iff_of_false (Option.some_ne_none e) fun ha => hfault ha.1, hkept fun hw => hfault hw.1⟩

/-! ## 6. Both goroutines -/

/-- **An update comes to what its goroutines come to.** -/
theorem updates_iff (hparse : parseCert env cert.selfManagedCertContent = .ok x509Cert)
    (hdomains : getDomainsInCert x509Cert ≠ []) {x : Secrets} {y : HttpsCerts}
    {result : Except Failure HttpsCertResource} : Updates env it cert f g secrets certs x y result ↔
      x = (leftRun cert f secrets).2 ∧ y = (rightRun it cert x509Cert g certs).2 ∧
        result = Errs.result cert
          ⟨errorOf (leftRun cert f secrets).1, errorOf (rightRun it cert x509Cert g certs).1⟩ := by
  have hlength : ¬ (getDomainsInCert x509Cert).length ≤ 0 := fun h =>
    hdomains (List.length_eq_zero_iff.mp (Nat.le_zero.mp h))
  unfold Updates
  rw [hparse]
  simp only
  rw [if_neg hlength]
  simp only [Joined.ends_iff]
  constructor
  · intro h
    obtain ⟨v, ⟨hx, hy, rfl | rfl⟩, hresult⟩ := h
    · exact ⟨hx, hy, hresult⟩
    · exact ⟨hx, hy, hresult⟩
  · intro h
    obtain ⟨hx, hy, hresult⟩ := h
    exact ⟨_, ⟨hx, hy, Or.inl rfl⟩, hresult⟩

/-- No error is returned where neither goroutine has one. -/
theorem result_eq_ok_iff {v : Errs} {made : HttpsCertResource} :
    .ok made = v.result cert ↔ made = cert ∧ v.err1 = none ∧ v.err2 = none := by
  obtain ⟨err1, err2⟩ := v
  cases err1 with
  | some e => exact iff_of_false (fun h => by cases h) fun h => by cases h.2.1
  | none =>
      cases err2 with
      | some e => exact iff_of_false (fun h => by cases h) fun h => by cases h.2.2
      | none => exact ⟨fun h => ⟨Except.ok.inj h, rfl, rfl⟩, fun h => congrArg Except.ok h.1⟩

/-- An update keeps both objects in step, in the stores behind it. -/
theorem updateConsistent_iff_behind (hparse : parseCert env cert.selfManagedCertContent = .ok x509Cert)
    (hdomains : getDomainsInCert x509Cert ≠ []) {x : Secrets} {y : HttpsCerts} {answered : Prop}
    (hx : x = (leftRun cert f secrets).2) (hy : y = (rightRun it cert x509Cert g certs).2)
    (hanswered : answered ↔ errorOf (leftRun cert f secrets).1 = none ∧
      errorOf (rightRun it cert x509Cert g certs).1 = none) :
    UpdateConsistent env it cert f g secrets certs ↔
      (answered → Uploaded env cert x y) ∧
        (¬ answered → InStep env cert secrets certs → InStep env cert x y) := by
  have hiff := fun x' y' result => @updates_iff env it cert x509Cert f g secrets certs hparse hdomains x' y' result
  constructor
  · intro h
    refine ⟨fun ha => ?_, fun hnot hstep => ?_⟩
    · exact h.ok x y cert ((hiff _ _ _).mpr ⟨hx, hy, result_eq_ok_iff.mpr ⟨rfl, hanswered.mp ha⟩⟩)
    · cases hresult : Errs.result cert
          ⟨errorOf (leftRun cert f secrets).1, errorOf (rightRun it cert x509Cert g certs).1⟩ with
      | ok made => exact absurd (hanswered.mpr (result_eq_ok_iff.mp hresult.symm).2) hnot
      | error e => exact h.error x y e ((hiff _ _ _).mpr ⟨hx, hy, hresult.symm⟩) hstep
  · intro h
    refine ⟨fun x' y' made hupdates => ?_, fun x' y' e hupdates hstep => ?_⟩
    · obtain ⟨hx', hy', hresult⟩ := (hiff _ _ _).mp hupdates
      rw [hx', hy', ← hx, ← hy]
      exact h.1 (hanswered.mpr (result_eq_ok_iff.mp hresult).2)
    · obtain ⟨hx', hy', hresult⟩ := (hiff _ _ _).mp hupdates
      rw [hx', hy', ← hx, ← hy]
      refine h.2 (fun ha => ?_) hstep
      have hok : .ok cert = Errs.result cert
          ⟨errorOf (leftRun cert f secrets).1, errorOf (rightRun it cert x509Cert g certs).1⟩ :=
        result_eq_ok_iff.mpr ⟨rfl, hanswered.mp ha⟩
      rw [← hok] at hresult
      cases hresult

/-- Both objects are in step where they are of one certificate. -/
theorem inStep_iff {secret : Secret} {c : HttpsCert} (hsecret : secretOf cert secrets = some secret)
    (hc : certOf cert certs = some c) : InStep env cert secrets certs ↔
      ∃ x509Cert, parseCert env secret.tlsCert = .ok x509Cert ∧ c.spec.domains = getDomainsInCert x509Cert := by
  constructor
  · intro h
    rcases h with h | ⟨secret', c', x509Cert, hsecret', hc', hrest⟩
    · rw [Free, hsecret] at h
      cases h.1
    · obtain rfl := Option.some.inj (hsecret.symm.trans hsecret')
      obtain rfl := Option.some.inj (hc.symm.trans hc')
      exact ⟨x509Cert, hrest⟩
  · intro h
    obtain ⟨x509Cert, hrest⟩ := h
    exact Or.inr ⟨secret, c, x509Cert, hsecret, hc, hrest⟩

/-- With one of the objects only they are in step if neither is there. -/
theorem not_inStep_of_none (h : secretOf cert secrets = none ∧ certOf cert certs ≠ none ∨
    secretOf cert secrets ≠ none ∧ certOf cert certs = none) : ¬ InStep env cert secrets certs := by
  intro hstep
  rcases hstep with hfree | ⟨secret, c, _, hsecret, hc, _⟩
  · rcases h with h | h
    · exact h.2 hfree.2
    · exact h.1 hfree.1
  · rcases h with h | h
    · rw [h.1] at hsecret
      cases hsecret
    · rw [h.2] at hc
      cases hc

/-- Where both objects are there, an update keeps them in step exactly where the domains fit. -/
theorem updateConsistent_iff_of_some (hparse : parseCert env cert.selfManagedCertContent = .ok x509Cert)
    (hdomains : getDomainsInCert x509Cert ≠ []) {secret : Secret} {c : HttpsCert}
    (hsecret : secretOf cert secrets = some secret) (hc : certOf cert certs = some c) :
    UpdateConsistent env it cert f g secrets certs ↔
      (Answered it x509Cert f g c ∨ InStep env cert secrets certs ∧ SecretWritten f →
        domainsBehind it x509Cert g c = getDomainsInCert x509Cert) ∧
      (InStep env cert secrets certs → ¬ SecretWritten f → domainsBehind it x509Cert g c = c.spec.domains) := by
  obtain ⟨hleft, hpaired, hkept⟩ := leftRun_of_some (f := f) hsecret
  obtain ⟨hright, c', hc', hbehind⟩ := @rightRun_of_some it cert x509Cert g certs c hc
  have hanswered : Answered it x509Cert f g c ↔ errorOf (leftRun cert f secrets).1 = none ∧
      errorOf (rightRun it cert x509Cert g certs).1 = none := by
    rw [hleft, hright]
    rfl
  have hwrites : Answered it x509Cert f g c → SecretWritten f := by
    intro ha
    refine ⟨ha.1.1, ?_⟩
    rw [ha.1.2]
    decide
  rw [updateConsistent_iff_behind hparse hdomains rfl rfl hanswered]
  by_cases hw : SecretWritten f
  · -- the secret is the one that was uploaded, so that both ends ask for its domains
    have hsecret' := hpaired hw
    have huploaded : Uploaded env cert (leftRun cert f secrets).2 (rightRun it cert x509Cert g certs).2 ↔
        domainsBehind it x509Cert g c = getDomainsInCert x509Cert := by
      rw [← hbehind]
      constructor
      · intro h
        obtain ⟨_, d, other, _, hd, _, _, hother, hsame⟩ := h
        obtain rfl := Option.some.inj (hc'.symm.trans hd)
        rw [hsame, Except.ok.inj (hparse.symm.trans hother)]
      · intro h
        exact ⟨_, c', x509Cert, hsecret', hc', lookup_crt _, lookup_key _, hparse, h⟩
    have hstep : InStep env cert (leftRun cert f secrets).2 (rightRun it cert x509Cert g certs).2 ↔
        domainsBehind it x509Cert g c = getDomainsInCert x509Cert := by
      rw [inStep_iff hsecret' hc', tlsCert_paired, hparse, ← hbehind]
      constructor
      · intro h
        obtain ⟨other, hother, hsame⟩ := h
        rw [hsame, Except.ok.inj hother]
      · exact fun h => ⟨x509Cert, rfl, h⟩
    rw [huploaded, hstep]
    by_cases ha : Answered it x509Cert f g c
    · simp [ha, hw]
    · simp [ha, hw]
  · have hsecret' := hkept hw
    have ha : ¬ Answered it x509Cert f g c := fun ha => hw (hwrites ha)
    have hstep : InStep env cert secrets certs →
        (InStep env cert (leftRun cert f secrets).2 (rightRun it cert x509Cert g certs).2 ↔
          domainsBehind it x509Cert g c = c.spec.domains) := by
      intro h
      obtain ⟨old, hold, hsame⟩ := (inStep_iff hsecret hc).mp h
      rw [inStep_iff hsecret' hc', hold, hsame, ← hbehind]
      constructor
      · intro h
        obtain ⟨other, hother, hsame'⟩ := h
        rw [hsame', Except.ok.inj hother]
      · exact fun h => ⟨old, rfl, h⟩
    constructor
    · intro h
      exact ⟨fun h' => (h'.elim ha fun h' => hw h'.2).elim, fun hin _ => (hstep hin).mp (h.2 ha hin)⟩
    · intro h
      exact ⟨fun h' => absurd h' ha, fun _ hin => (hstep hin).mpr (h.2 hin hw)⟩

/-- An update that is refused leaves both objects as they are. -/
theorem updateConsistent_of_refused {e : Failure}
    (h : ∀ x y result, Updates env it cert f g secrets certs x y result →
      result = .error e ∧ x = secrets ∧ y = certs) : UpdateConsistent env it cert f g secrets certs := by
  refine ⟨fun x y made hupdates => ?_, fun x y e' hupdates hstep => ?_⟩
  · cases (h _ _ _ hupdates).1
  · obtain ⟨_, rfl, rfl⟩ := h _ _ _ hupdates
    exact hstep

/-- **An update is consistent exactly where the domains fit the certificate.** -/
theorem updateConsistent_iff :
    UpdateConsistent env it cert f g secrets certs ↔ UpdateFits env it cert f g secrets certs := by
  cases hparse : parseCert env cert.selfManagedCertContent with
  | error e =>
      have hupdates : ∀ x y result, Updates env it cert f g secrets certs x y result →
          result = .error (.text e) ∧ x = secrets ∧ y = certs := by
        intro x y result h
        rwa [Updates, hparse] at h
      refine iff_of_true (updateConsistent_of_refused hupdates) fun x509Cert c hother => ?_
      rw [hparse] at hother
      cases hother
  | ok x509Cert =>
      by_cases hdomains : getDomainsInCert x509Cert = []
      · have hlength : (getDomainsInCert x509Cert).length ≤ 0 := by
          rw [hdomains]
          exact Nat.le_refl 0
        have hupdates : ∀ x y result, Updates env it cert f g secrets certs x y result →
            result = .error noDomain ∧ x = secrets ∧ y = certs := by
          intro x y result h
          rw [Updates, hparse] at h
          simp only at h
          rwa [if_pos hlength] at h
        refine iff_of_true (updateConsistent_of_refused hupdates) fun other c hother hne => ?_
        rw [← Except.ok.inj (hparse.symm.trans hother)] at hne
        exact absurd hdomains hne
      cases hsecret : secretOf cert secrets with
      | none =>
          obtain ⟨hleft, hsecrets⟩ := leftRun_of_none (f := f) hsecret
          have hfits : UpdateFits env it cert f g secrets certs := by
            intro _ c _ _ hsome
            rw [hsecret] at hsome
            cases hsome
          refine iff_of_true ((updateConsistent_iff_behind hparse hdomains rfl rfl (Iff.refl _)).mpr
            ⟨fun ha => absurd ha.1 hleft, fun _ hstep => ?_⟩) hfits
          cases hc : certOf cert certs with
          | none => rwa [hsecrets, (rightRun_of_none hc).2]
          | some c =>
              refine absurd hstep (not_inStep_of_none (Or.inl ⟨hsecret, ?_⟩))
              rw [hc]
              exact Option.some_ne_none c
      | some secret =>
          cases hc : certOf cert certs with
          | none =>
              have hfits : UpdateFits env it cert f g secrets certs := by
                intro _ c _ _ _ hsome
                rw [hc] at hsome
                cases hsome
              refine iff_of_true ((updateConsistent_iff_behind hparse hdomains rfl rfl (Iff.refl _)).mpr
                ⟨fun ha => absurd ha.2 (rightRun_of_none hc).1, fun _ hstep => ?_⟩) hfits
              refine absurd hstep (not_inStep_of_none (Or.inr ⟨?_, hc⟩))
              rw [hsecret]
              exact Option.some_ne_none secret
          | some c =>
              rw [updateConsistent_iff_of_some hparse hdomains hsecret hc]
              simp only [domainsBehind_eq_iff, implies_true, and_true]
              constructor
              · intro h other d hother _ _ hd
                obtain rfl := Except.ok.inj (hparse.symm.trans hother)
                obtain rfl := Option.some.inj (hc.symm.trans hd)
                exact h
              · intro h
                refine h x509Cert c hparse hdomains ?_ hc
                rw [hsecret]
                rfl

/-! ## 7. A creation -/

section Create

variable {f g : Fault} {x : Secrets} {y : HttpsCerts}

/-- The certificate behind the webhook. -/
def created (it : Iteration) (cert : HttpsCertResource) (x509Cert : X509) : HttpsCert :=
  HttpsCert.default it (cert.selfManaged x509Cert)

theorem meet_createCert (it : Iteration) (g : Fault) (certs : HttpsCerts) :
    meet (serveCerts it) .unavailable g (.create () (cert.selfManaged x509Cert)) certs =
      meet Objects.serve .unavailable g (.create (S := httpsCertSchema) () (created it cert x509Cert)) certs := by
  cases g <;> rfl

/-- The secret is not created. -/
theorem create_of_secret_error (hparse : parseCert env cert.selfManagedCertContent = .ok x509Cert)
    (hdomains : getDomainsInCert x509Cert ≠ []) {e : Error}
    (hsecret : meet Objects.serve .unavailable f (.create (S := secretSchema) () cert.certSecret) secrets =
      (.error e, x)) :
    createSelfManagedHttpsCert env it cert f g secrets certs = (.error (.api e), x, certs) := by
  have hlength : ¬ (getDomainsInCert x509Cert).length ≤ 0 := fun h =>
    hdomains (List.length_eq_zero_iff.mp (Nat.le_zero.mp h))
  have hkey : ¬ checkPrivateKey x509Cert cert.selfManagedCertPrvKey = false := Bool.noConfusion
  rw [createSelfManagedHttpsCert, hparse]
  simp only
  rw [if_neg hlength, if_neg hkey, hsecret]

/-- The secret is created, and what becomes of the certificate decides. -/
theorem create_of_secret_ok (hparse : parseCert env cert.selfManagedCertContent = .ok x509Cert)
    (hdomains : getDomainsInCert x509Cert ≠ []) {r : Unit}
    (hsecret : meet Objects.serve .unavailable f (.create (S := secretSchema) () cert.certSecret) secrets =
      (.ok r, x)) :
    (∀ e y, meet Objects.serve .unavailable g (.create (S := httpsCertSchema) () (created it cert x509Cert)) certs =
        (.error e, y) → createSelfManagedHttpsCert env it cert f g secrets certs = (.error (.api e), x, y)) ∧
    ∀ r y, meet Objects.serve .unavailable g (.create (S := httpsCertSchema) () (created it cert x509Cert)) certs =
        (.ok r, y) → createSelfManagedHttpsCert env it cert f g secrets certs =
          (.ok { cert with domains := x509Cert.dnsNames }, x, y) := by
  have hlength : ¬ (getDomainsInCert x509Cert).length ≤ 0 := fun h =>
    hdomains (List.length_eq_zero_iff.mp (Nat.le_zero.mp h))
  have hkey : ¬ checkPrivateKey x509Cert cert.selfManagedCertPrvKey = false := Bool.noConfusion
  rw [createSelfManagedHttpsCert, hparse]
  simp only
  rw [if_neg hlength, if_neg hkey, hsecret, ← meet_createCert]
  refine ⟨fun e y h => ?_, fun r y h => ?_⟩
  · rw [h]
  · rw [h]

/-- A creation that returns an error. -/
theorem createConsistent_iff_of_error {e : Failure}
    (h : createSelfManagedHttpsCert env it cert f g secrets certs = (.error e, x, y)) :
    CreateConsistent env it cert f g secrets certs ↔
      (InStep env cert secrets certs → InStep env cert x y) ∧ (Free cert secrets certs → Free cert x y) := by
  constructor
  · intro hcreate
    exact ⟨hcreate.error e x y h, hcreate.again e x y h⟩
  · intro hcreate
    refine ⟨fun made x' y' h' => ?_, fun e' x' y' h' => ?_, fun e' x' y' h' => ?_⟩
    · cases h.symm.trans h'
    · cases h.symm.trans h'
      exact hcreate.1
    · cases h.symm.trans h'
      exact hcreate.2

/-- A creation that changes nothing. -/
theorem createConsistent_of_kept {e : Failure}
    (h : createSelfManagedHttpsCert env it cert f g secrets certs = (.error e, secrets, certs)) :
    CreateConsistent env it cert f g secrets certs :=
  (createConsistent_iff_of_error h).mpr ⟨fun hstep => hstep, fun hfree => hfree⟩

/-- A creation that returns without an error. -/
theorem createConsistent_iff_of_ok {made : HttpsCertResource}
    (h : createSelfManagedHttpsCert env it cert f g secrets certs = (.ok made, x, y)) :
    CreateConsistent env it cert f g secrets certs ↔ Uploaded env cert x y := by
  constructor
  · exact fun hcreate => hcreate.ok made x y h
  · intro huploaded
    refine ⟨fun made' x' y' h' => ?_, fun e' x' y' h' => ?_, fun e' x' y' h' => ?_⟩
    · cases h.symm.trans h'
      exact huploaded
    · cases h.symm.trans h'
    · cases h.symm.trans h'

/-- Behind a secret without a certificate, nothing is in step. -/
theorem createConsistent_iff_of_secretOnly {e : Failure} (hfree : secretOf cert secrets = none)
    (h : createSelfManagedHttpsCert env it cert f g secrets certs = (.error e, x, certs))
    (hx : secretOf cert x ≠ none) :
    CreateConsistent env it cert f g secrets certs ↔ certOf cert certs ≠ none := by
  rw [createConsistent_iff_of_error h]
  constructor
  · intro hcreate hnone
    exact hx (hcreate.2 ⟨hfree, hnone⟩).1
  · intro hsome
    refine ⟨fun hstep => absurd hstep (not_inStep_of_none (Or.inl ⟨hfree, hsome⟩)), fun hnone => ?_⟩
    exact absurd hnone.2 hsome

/-- **A creation is consistent exactly where its writes fit.** -/
theorem createConsistent_iff :
    CreateConsistent env it cert f g secrets certs ↔ CreateFits env it cert f g secrets certs := by
  cases hparse : parseCert env cert.selfManagedCertContent with
  | error e =>
      have hcreate : createSelfManagedHttpsCert env it cert f g secrets certs =
          (.error (.text e), secrets, certs) := by
        rw [createSelfManagedHttpsCert, hparse]
      refine iff_of_true (createConsistent_of_kept hcreate) fun x509Cert hother => ?_
      rw [hparse] at hother
      cases hother
  | ok x509Cert =>
      by_cases hdomains : getDomainsInCert x509Cert = []
      · have hcreate : createSelfManagedHttpsCert env it cert f g secrets certs =
            (.error noDomain, secrets, certs) := by
          rw [createSelfManagedHttpsCert, hparse]
          simp only [hdomains]
          rfl
        refine iff_of_true (createConsistent_of_kept hcreate) fun other hother hne => ?_
        rw [← Except.ok.inj (hparse.symm.trans hother)] at hne
        exact absurd hdomains hne
      have hfits : CreateFits env it cert f g secrets certs ↔
          (f ≠ .refused ∧ Creatable (S := secretSchema) (k := ()) secrets cert.certSecret → certOf cert certs = none →
            f = .served ∧ g = .served ∧ httpsCertSchema.valid (k := ()) (created it cert x509Cert) = true ∧
              it.order (uniqDomains (getDomainsInCert x509Cert)) = getDomainsInCert x509Cert) := by
        constructor
        · exact fun h hf hnone => h x509Cert hparse hdomains hf.1 hf.2 hnone
        · intro h other hother _ hf hcreatable hnone
          rw [← Except.ok.inj (hparse.symm.trans hother)]
          exact h ⟨hf, hcreatable⟩ hnone
      rw [hfits]
      have hthere : secretOf cert (secrets.put (k := ()) cert.certSecret) = some cert.certSecret :=
        State.objAt_put_self rfl
      have hput : secretOf cert (secrets.put (k := ()) cert.certSecret) ≠ none := by
        rw [hthere]
        exact Option.some_ne_none _
      have hbefore : Creatable (S := secretSchema) (k := ()) secrets cert.certSecret → secretOf cert secrets = none :=
        fun h => congrArg (Option.map Versioned.obj) h.2
      rcases Objects.meet_create_cases (S := secretSchema) (k := ()) cert.certSecret f secrets with
        ⟨rfl, hcreatable, hsecret⟩ | ⟨rfl, hcreatable, hsecret⟩ | ⟨hnot, e, hsecret⟩
      · obtain ⟨herror, hok⟩ :=
          @create_of_secret_ok env it cert x509Cert secrets certs .served g _ hparse hdomains _ hsecret
        rcases Objects.meet_create_cases (S := httpsCertSchema) (k := ()) (created it cert x509Cert) g certs with
          ⟨rfl, hnew, hcert⟩ | ⟨rfl, hnew, hcert⟩ | ⟨hnot, e, hcert⟩
        · have hnone : certOf cert certs = none := congrArg (Option.map Versioned.obj) hnew.2
          have hcertOf : certOf cert (certs.put (k := ()) (created it cert x509Cert)) =
              some (created it cert x509Cert) := State.objAt_put_self rfl
          rw [createConsistent_iff_of_ok (hok _ _ hcert)]
          constructor
          · intro huploaded _ _
            obtain ⟨_, c, other, _, hc, _, _, hother, hsame⟩ := huploaded
            obtain rfl := Option.some.inj (hcertOf.symm.trans hc)
            obtain rfl := Except.ok.inj (hparse.symm.trans hother)
            exact ⟨rfl, rfl, hnew.1, hsame⟩
          · intro h
            obtain ⟨_, _, _, hsame⟩ := h ⟨by decide, hcreatable⟩ hnone
            exact ⟨_, _, x509Cert, hthere, hcertOf, lookup_crt _, lookup_key _, hparse, hsame⟩
        · have hnone : certOf cert certs = none := congrArg (Option.map Versioned.obj) hnew.2
          rw [createConsistent_iff_of_error (herror _ _ hcert)]
          refine iff_of_false (fun h => hput (h.2 ⟨hbefore hcreatable, hnone⟩).1) fun h => ?_
          cases (h ⟨by decide, hcreatable⟩ hnone).2.1
        · rw [createConsistent_iff_of_secretOnly (hbefore hcreatable) (herror _ _ hcert) hput]
          constructor
          · exact fun hsome _ hnone => absurd hnone hsome
          · intro h hnone
            obtain ⟨_, rfl, hvalid, _⟩ := h ⟨by decide, hcreatable⟩ hnone
            exact hnot ⟨by decide, hvalid, Option.map_eq_none_iff.mp hnone⟩
      · have hcreate := @create_of_secret_error env it cert x509Cert secrets certs .lost g _ hparse hdomains _ hsecret
        rw [createConsistent_iff_of_secretOnly (hbefore hcreatable) hcreate hput]
        constructor
        · exact fun hsome _ hnone => absurd hnone hsome
        · intro h hnone
          cases (h ⟨by decide, hcreatable⟩ hnone).1
      · have hcreate := @create_of_secret_error env it cert x509Cert secrets certs f g _ hparse hdomains _ hsecret
        exact iff_of_true (createConsistent_of_kept hcreate) fun hf => absurd hf hnot

end Create

/-- **Uploads are consistent exactly where what takes effect fits the certificate**: an update where the domains that
    are stored behind it are those of the certificate in the secret; a creation where it stores nothing, or both
    objects, with the domains as they are in the certificate, and is answered. -/
theorem uploads_iff (env : Outside) (it : Iteration) (cert : HttpsCertResource) (secrets : Secrets)
    (certs : HttpsCerts) :
    (∀ f g, UpdateConsistent env it cert f g secrets certs ↔ UpdateFits env it cert f g secrets certs) ∧
      ∀ f g, CreateConsistent env it cert f g secrets certs ↔ CreateFits env it cert f g secrets certs :=
  ⟨fun _ _ => updateConsistent_iff, fun _ _ => createConsistent_iff⟩

/-- A certificate for a host of the local network. -/
@[irreducible] def localPem : Str :=
  str "-----BEGIN CERTIFICATE-----\n" ++
    str "MIH4MIGroAMCAQICFAJUoLKtTAHiKIZZP3NarOH/8YuWMAUGAytlcDAAMB4XDTI2\n" ++
    str "MTExOTE4MDMyN1oXDTI3MTExOTE4MDMyN1owADAqMAUGAytlcAMhAPIMjjH2iBYh\n" ++
    str "xwkHOnSz1RziDdBrR8SfxzKE2r9gOVLkozcwNTAUBgNVHREEDTALgglsb2NhbGhv\n" ++
    str "c3QwHQYDVR0OBBYEFMZeubqwsUtxZ+E42Vnx1kUMbAUxMAUGAytlcANBALi7EyPF\n" ++
    str "Z4IKEGxySi2zv8ZiOuJe4KG5Ec4MDyb95AD9LQAGrU+UVxaLFAAVmuu1ZQv21R4l\n" ++
    str "RzddEHmssR4k8g4=\n" ++
    str "-----END CERTIFICATE-----\n"

/-- What is in it. -/
def localhost : X509 := ⟨[str "localhost"], [], 1826647407, []⟩

/-- It is the one that is read; its block is not looked into. -/
def localCert : Outside where
  pemDecode content := if content = localPem then some content else none
  parseCertificate _ := .ok localhost
  errorText _ := []

/-- The upload of it. -/
def localUpload : HttpsCertResource := ⟨str "local", true, localPem, str "key", [], []⟩

theorem parse_localUpload : parseCert localCert localUpload.selfManagedCertContent = .ok localhost := by
  have hdecode : localCert.pemDecode localUpload.selfManagedCertContent = some localPem := if_pos rfl
  rw [parseCert, hdecode]
  rfl

/-- **The webhook refuses the certificate and its secret stays**, so that the creation cannot be tried again. -/
theorem uploads_fails : ¬ ∀ (env : Outside) (it : Iteration) (cert : HttpsCertResource) (secrets : Secrets)
    (certs : HttpsCerts), (∀ f g, UpdateConsistent env it cert f g secrets certs) ∧
      ∀ f g, CreateConsistent env it cert f g secrets certs := by
  intro h
  have hcreate := (h localCert ⟨id, List.Perm.refl⟩ localUpload ⟨fun _ => .empty, 0⟩ ⟨fun _ => .empty, 0⟩).2
    .served .served
  have hname : isDNS1123Subdomain (str "kalm-self-managed-local") = true := by decide
  obtain ⟨_, _, hvalid, _⟩ := createConsistent_iff.mp hcreate localhost parse_localUpload (by decide) (by decide)
    ⟨hname, rfl⟩ rfl
  exact absurd hvalid (by decide)

end Kalm.Tls
