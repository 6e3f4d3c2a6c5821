/-
  File:      Kalm/Certs/Status.lean
  Subject:   STATUS OF A CERTIFICATE: `HttpsCertReconciler.Reconcile` of
             controller/controllers/httpscert_controller.go, for certificates that are uploaded and for certificates
             that cert-manager asks for.

  * `Outside` -- what is not the controller's: PEM, X.509 and the texts of errors; `parseCert`;
  * `reconcileSelfManaged`, `reconcileAutoManaged`, `reconcile` -- the controller; the second of them looks at a
    certificate that did not parse;
  * `Reads` -- the secret that a run reads; `timesOf` -- what its content says;
  * `Reports` -- no run crashes, and both kinds say what the content of the secret says;
  * `reports_iff` -- that is so exactly where the secret of a ready certificate parses.
-/
import Kalm.Certs.HttpsCerts
import Kalm.Lib.Served

namespace Kalm.Tls

open Calls (Action Fault Outcome run)
open Certs (defaultDNS01IssuerName)
open Objects (Error State Versioned)

/-! ## 1. What is read -/

/-- `x509.Certificate`: the names that it is for, its end in seconds, and the common name of its issuer. -/
structure X509 where
  dnsNames : List Str
  commonName : Str
  notAfter : Int
  issuer : Str
  deriving DecidableEq

/-- `pem.Decode`, `x509.ParseCertificate`, and `Error()`. -/
structure Outside where
  pemDecode : Str → Option (List UInt8)
  parseCertificate : List UInt8 → Except Str X509
  errorText : Error → Str

section Program

variable (env : Outside)

/-- `ParseCert`. -/
def parseCert (certPEM : Str) : Except Str X509 :=
  match env.pemDecode certPEM with
  | none => .error (str "failed to parse certificate PEM")
  | some block => env.parseCertificate block

/-- `checkIfIssuerIsTrusted`. -/
def checkIfIssuerIsTrusted (issuer : Str) : Bool :=
  [str "Let's Encrypt Authority"].any fun one => one <:+: issuer

/-- `certSec.Data[SecretKeyOfTLSCert]`. -/
def Secret.tlsCert (secret : Secret) : Str := (secret.data.lookup (str "tls.crt")).getD []

/-- `genConditionWithErr`. -/
def genConditionWithErr (e : Error) : HttpsCertCondition := ⟨str "False", str "APIFail", env.errorText e⟩

/-- `transCertCondition`. -/
def transCertCondition (cond : CertificateCondition) : HttpsCertCondition := ⟨cond.status, cond.reason, cond.message⟩

/-- `isACMEServerReadyForWildcardCert`, of the servers that are listed. -/
def isACMEServerReady : List ACMEServer → Bool
  | [server] => server.ready
  | _ => false

/-- The first condition of type `Ready`. -/
def readyCondition (conditions : List CertificateCondition) : Option CertificateCondition :=
  conditions.find? fun cond => cond.type = str "Ready"

/-! ## 2. The controller -/

/-- A certificate with a status. -/
def HttpsCert.withStatus (c : HttpsCert) (status : HttpsCertStatus) : HttpsCert := { c with status := status }

/-- `r.Status().Update`; its error is dropped. -/
def updateStatus (v : Stored .httpsCert) (status : HttpsCertStatus) : TlsTask Unit := do
  let _ ← Action.tryCall (.update (S := schema) .httpsCert ⟨v.obj.withStatus status, v.version⟩)
  pure ()

/-- The status of a certificate that is uploaded. -/
def uploadedStatus (secret : Secret) : HttpsCertStatus :=
  let ready : List HttpsCertCondition := [⟨str "True", [], []⟩]
  match parseCert env secret.tlsCert with
  | .error _ => ⟨ready, 0, false⟩
  | .ok cert => ⟨ready, cert.notAfter, checkIfIssuerIsTrusted cert.issuer⟩

/-- A certificate that is uploaded. -/
def reconcileSelfManaged (v : Stored .httpsCert) : TlsTask Unit := do
  match ← Objects.attemptGet (S := schema) .secret (istioNamespace, v.obj.certSecretName) with
  | .error e => do
    updateStatus v ⟨[genConditionWithErr env e], 0, false⟩
    Action.fail e
  | .ok secret => updateStatus v (uploadedStatus env secret.obj)

/-- The `Certificate` of a certificate. -/
def HttpsCert.desiredCert (c : HttpsCert) : Certificate := ⟨c.name, some c.name, c.certificateSpec, []⟩

/-- The one that is stored, with the spec of the certificate. -/
def HttpsCert.updatedCert (c : HttpsCert) (cert : Certificate) : Certificate :=
  { cert with spec := c.certificateSpec }

/-- It is created, or its spec is updated. -/
def writeCertificate (c : HttpsCert) (loaded : Option (Stored .certificate)) : TlsTask (Except Error Unit) :=
  Objects.attemptSave (S := schema) .certificate loaded c.desiredCert c.updatedCert

/-- A certificate behind its `Certificate` as it is read again. -/
def reportCertificate (v : Stored .httpsCert) (cert : Certificate) : TlsTask Unit :=
  match readyCondition cert.conditions with
  | none => updateStatus v v.obj.status
  | some cond =>
    if cond.status = str "True" then do
      let secret ← call (.get .secret (istioNamespace, cert.spec.secretName))
      match parseCert env secret.obj.tlsCert with
      -- the error is not looked at, and the certificate is `nil`
      | .error _ => Action.crash
      | .ok x => updateStatus v ⟨[transCertCondition cond], x.notAfter, checkIfIssuerIsTrusted x.issuer⟩
    else updateStatus v ⟨[transCertCondition cond], 0, false⟩

/-- `reconcileForAutoManagedHttpsCert`. -/
def reconcileAutoManaged (v : Stored .httpsCert) : TlsTask Unit := do
  let loaded ← Objects.find (S := schema) .certificate (istioNamespace, v.obj.name)
  match ← writeCertificate v.obj loaded with
  | .error e => do
    updateStatus v { v.obj.status with conditions := [genConditionWithErr env e] }
    Action.fail e
  | .ok _ => do
    match ← Objects.attemptGet (S := schema) .certificate (istioNamespace, v.obj.name) with
    | .error e => updateStatus v { v.obj.status with conditions := [genConditionWithErr env e] }
    | .ok cert => reportCertificate env v cert.obj

/-- `HttpsCertReconciler.Reconcile`. -/
def reconcile (name : Str) : TlsTask Unit := do
  match ← Objects.find (S := schema) .httpsCert ([], name) with
  | none => pure ()
  | some v =>
    if v.obj.spec.isSelfManaged then reconcileSelfManaged env v
    else if v.obj.spec.httpsCertIssuer = defaultDNS01IssuerName then do
      let servers ← call (.list .acmeServer)
      if isACMEServerReady (servers.map fun server => server.obj) then reconcileAutoManaged env v else pure ()
    else reconcileAutoManaged env v

/-! ## 3. What it is for -/

/-- The end of the certificate, and whether its issuer is trusted. -/
def HttpsCertStatus.times (status : HttpsCertStatus) : Int × Bool :=
  (status.expireTimestamp, status.isSignedByPublicTrustedCA)

/-- **What the content of a secret says**: zero and false where it does not parse. -/
def timesOf (content : Str) : Int × Bool :=
  match parseCert env content with
  | .error _ => (0, false)
  | .ok x => (x.notAfter, checkIfIssuerIsTrusted x.issuer)

/-- The certificate is not held back for the ACME server. -/
def Proceeds (s : Cluster) (c : HttpsCert) : Prop :=
  c.spec.httpsCertIssuer = defaultDNS01IssuerName →
    isACMEServerReady ((s.list .acmeServer).map fun server => server.obj) = true

/-- Its `Certificate` is ready. -/
def IsReady (s : Cluster) (c : HttpsCert) : Prop :=
  ∃ cert cond, s.objAt .certificate (istioNamespace, c.name) = some cert ∧
    readyCondition cert.conditions = some cond ∧ cond.status = str "True"

/-- The secret that is read: that of a certificate that was uploaded, or of one that is ready. -/
def Reads (s : Cluster) (c : HttpsCert) (secret : Secret) : Prop :=
  s.objAt .secret (istioNamespace, c.certSecretName) = some secret ∧
    (c.spec.isSelfManaged = true ∨ Proceeds s c ∧ IsReady s c)

/-- What a run leaves of a certificate: it is as it was, or says that a call has failed, or what the secret says. -/
def Leaves (c : HttpsCert) (content : Str) (stored : Option HttpsCert) : Prop :=
  ∃ c', stored = some c' ∧
    (c' = c ∨ (∃ e, c'.status.conditions = [genConditionWithErr env e]) ∨ c'.status.times = timesOf env content)

/-- **The status is reported**: no run crashes; of both kinds, a run stores what the content of the secret says, if it
    stores anything but an error, and without failing calls it does. -/
structure Reports (name : Str) (s : Cluster) : Prop where
  safe : ∀ faults, (run Objects.serve .unavailable (reconcile env name) faults s).1 ≠ .crashed
  leaves : ∀ c secret, s.objAt .httpsCert ([], name) = some c → Reads s c secret → ∀ faults,
    Leaves env c secret.tlsCert
      ((run Objects.serve .unavailable (reconcile env name) faults s).2.objAt .httpsCert ([], name))
  stores : ∀ c secret, s.objAt .httpsCert ([], name) = some c → Reads s c secret →
    Objects.Returns (reconcile env name) s fun _ t =>
      (t.objAt .httpsCert ([], name)).map (fun c' => c'.status.times) = some (timesOf env secret.tlsCert)

/-- The secret of a ready certificate does not parse. -/
def Unreadable (name : Str) (s : Cluster) : Prop :=
  ∃ c secret, s.objAt .httpsCert ([], name) = some c ∧ c.spec.isSelfManaged = false ∧ Reads s c secret ∧
    ∃ e, parseCert env secret.tlsCert = .error e

end Program

/-! ## 4. Parts of a run -/

variable {env : Outside} {name : Str} {s u : Cluster} {key : Str × Str} {v : Stored .httpsCert} {c : HttpsCert}
  {status : HttpsCertStatus}

/-- The key of a stored certificate is kept. -/
theorem key_withStatus (hv : u.get .httpsCert key = some v) :
    schema.key (k := .httpsCert) (v.obj.withStatus status) = key := (State.get_eq_some.mp hv).2

/-- **A status is written or not**, and the run goes on. -/
theorem holds_updateStatus (hv : u.get .httpsCert key = some v) {Q : Outcome Error Unit → Cluster → Prop}
    (hwritten : Q (.returned ()) (u.updated v (v.obj.withStatus status))) (hkept : Q (.returned ()) u) :
    Calls.Holds Objects.serve .unavailable (updateStatus v status) u Q := by
  unfold updateStatus
  have hserve := Objects.serve_updated hv (@key_withStatus _ _ _ status hv)
  refine Calls.holds_bind.mpr ((Objects.holds_attempt hserve).mpr ⟨?_, ?_, ?_⟩)
  · exact Calls.holds_done.mpr hwritten
  · exact Calls.holds_done.mpr hkept
  · exact Calls.holds_done.mpr hwritten

theorem returns_updateStatus (hv : u.get .httpsCert key = some v) {Q : Unit → Cluster → Prop}
    (hQ : Q () (u.updated v (v.obj.withStatus status))) : Objects.Returns (updateStatus v status) u Q := by
  unfold updateStatus
  refine Objects.returns_bind.mpr ?_
  unfold Action.tryCall
  rw [Objects.Returns, Calls.returns_call, Objects.serve_updated hv (key_withStatus hv)]
  exact Calls.returns_done.mpr (Calls.returns_done.mpr hQ)

/-- The state behind the `Certificate`. -/
def certified (s : Cluster) (c : HttpsCert) : Cluster :=
  s.saved (k := .certificate) (istioNamespace, c.name) c.desiredCert c.updatedCert

theorem holds_writeCertificate {Q : Outcome Error (Except Error Unit) → Cluster → Prop} :
    Calls.Holds Objects.serve .unavailable (writeCertificate c (s.get .certificate (istioNamespace, c.name))) s Q ↔
      Q (.returned (.ok ())) (certified s c) ∧ Q (.returned (.error .unavailable)) s ∧
        Q (.returned (.error .unavailable)) (certified s c) := by
  unfold writeCertificate certified
  refine Objects.holds_attemptSave ?_ ?_ ?_
  · rfl
  · rfl
  · exact fun _ hkey => hkey

theorem returns_writeCertificate {Q : Except Error Unit → Cluster → Prop} (hQ : Q (.ok ()) (certified s c)) :
    Objects.Returns (writeCertificate c (s.get .certificate (istioNamespace, c.name))) s Q := by
  unfold writeCertificate
  refine Objects.returns_attemptSave ?_ ?_ ?_ hQ
  · rfl
  · rfl
  · exact fun _ hkey => hkey

theorem get_certified {k : schema.Kind} (hk : k ≠ .certificate) (key : Str × Str) :
    (certified s c).get k key = s.get k key := by
  have hbut : Objects.SameBut (S := schema) .certificate (istioNamespace, c.name) s (certified s c) :=
    Objects.sameBut_saved rfl fun _ hkey => hkey
  exact hbut k key fun e => hk e.1

/-- **The `Certificate` that is read again**: its spec is that of the certificate, its conditions are those from
    before. -/
theorem get_certificate_certified (s : Cluster) (c : HttpsCert) :
    ∃ cert, (certified s c).get .certificate (istioNamespace, c.name) = some cert ∧
      cert.obj.spec = c.certificateSpec ∧
        cert.obj.conditions =
          (s.objAt .certificate (istioNamespace, c.name)).elim [] fun stored => stored.conditions := by
  have hobj : (certified s c).objAt .certificate (istioNamespace, c.name) =
      some ((s.objAt .certificate (istioNamespace, c.name)).elim c.desiredCert c.updatedCert) :=
    Objects.objAt_saved (S := schema) rfl fun _ hkey => hkey
  obtain ⟨cert, hget, hcert⟩ := Option.map_eq_some_iff.mp hobj
  refine ⟨cert, hget, ?_, ?_⟩
  · rw [hcert]
    cases s.objAt .certificate (istioNamespace, c.name) <;> rfl
  · rw [hcert]
    cases s.objAt .certificate (istioNamespace, c.name) <;> rfl

/-- A certificate is ready where the conditions of its `Certificate` say so. -/
theorem isReady_iff {conditions : List CertificateCondition}
    (h : conditions = (s.objAt .certificate (istioNamespace, c.name)).elim [] fun stored => stored.conditions) :
    IsReady s c ↔ ∃ cond, readyCondition conditions = some cond ∧ cond.status = str "True" := by
  unfold IsReady
  rw [h]
  cases s.objAt .certificate (istioNamespace, c.name) with
  | none => simp [readyCondition]
  | some cert => simp

/-- Of a certificate that is not uploaded, a secret is read once it is ready. -/
theorem Reads.ready {secret : Secret} (h : Reads s c secret) (hself : c.spec.isSelfManaged = false) :
    Proceeds s c ∧ IsReady s c := by
  rcases h.2 with htrue | hready
  · rw [hself] at htrue
    cases htrue
  · exact hready

/-! ## 5. Every run -/

/-- How a run may end. -/
def Fine (env : Outside) (s : Cluster) (key : Str × Str) (c : HttpsCert) (o : Outcome Error Unit) (t : Cluster) :
    Prop :=
  o ≠ .crashed ∧ ∀ secret, Reads s c secret → Leaves env c secret.tlsCert (t.objAt .httpsCert key)

theorem fine_kept {o : Outcome Error Unit} (ho : o ≠ .crashed) (hu : u.get .httpsCert key = some v) :
    Fine env s key v.obj o u := by
  refine ⟨ho, fun secret _ => ⟨v.obj, ?_, Or.inl rfl⟩⟩
  rw [State.objAt, hu, Option.map_some]

theorem fine_written {o : Outcome Error Unit} (ho : o ≠ .crashed) (hu : u.get .httpsCert key = some v)
    (h : ∀ secret, Reads s v.obj secret →
      (∃ e, status.conditions = [genConditionWithErr env e]) ∨ status.times = timesOf env secret.tlsCert) :
    Fine env s key v.obj o (u.updated v (v.obj.withStatus status)) :=
  ⟨ho, fun secret hsecret => ⟨_, State.objAt_updated hu (key_withStatus hu), Or.inr (h secret hsecret)⟩⟩

/-- A status is written. -/
theorem fine_updateStatus (hu : u.get .httpsCert key = some v)
    (h : ∀ secret, Reads s v.obj secret →
      (∃ e, status.conditions = [genConditionWithErr env e]) ∨ status.times = timesOf env secret.tlsCert) :
    Calls.Holds Objects.serve .unavailable (updateStatus v status) u (Fine env s key v.obj) :=
  holds_updateStatus hu (fine_written (fun e => by cases e) hu h) (fine_kept (fun e => by cases e) hu)

/-- An error is written and returned. -/
theorem fine_failed (hu : u.get .httpsCert key = some v) {e e' : Error}
    (h : status.conditions = [genConditionWithErr env e]) :
    Calls.Holds Objects.serve .unavailable (updateStatus v status >>= fun _ => Action.fail e') u
      (Fine env s key v.obj) := by
  refine Calls.holds_bind.mpr (holds_updateStatus hu ?_ ?_)
  · exact Calls.holds_fail.mpr (fine_written (fun e => by cases e) hu fun _ _ => Or.inl ⟨e, h⟩)
  · exact Calls.holds_fail.mpr (fine_kept (fun e => by cases e) hu)

/-- What is written of a certificate that parses. -/
theorem timesOf_ok {content : Str} {x : X509} (h : parseCert env content = .ok x) :
    timesOf env content = (x.notAfter, checkIfIssuerIsTrusted x.issuer) := by
  rw [timesOf, h]

/-- **The status of a certificate that is uploaded says what the content does.** -/
theorem times_uploadedStatus (secret : Secret) :
    (uploadedStatus env secret).times = timesOf env secret.tlsCert := by
  unfold uploadedStatus timesOf
  cases parseCert env secret.tlsCert <;> rfl

theorem fine_reconcileSelfManaged (hv : s.get .httpsCert key = some v) :
    Calls.Holds Objects.serve .unavailable (reconcileSelfManaged env v) s (Fine env s key v.obj) := by
  unfold reconcileSelfManaged
  refine Calls.holds_bind.mpr (Objects.holds_attemptGet.mpr ⟨?_, fine_failed hv rfl⟩)
  cases hget : s.get .secret (istioNamespace, v.obj.certSecretName) with
  | none => exact fine_failed hv rfl
  | some stored =>
      refine fine_updateStatus hv fun secret hreads => Or.inr ?_
      have hsecret := hreads.1
      rw [State.objAt, hget] at hsecret
      rw [times_uploadedStatus, Option.some.inj hsecret]

theorem returns_reconcileSelfManaged (hv : s.get .httpsCert key = some v) {secret : Secret}
    (hsecret : s.objAt .secret (istioNamespace, v.obj.certSecretName) = some secret) :
    Objects.Returns (reconcileSelfManaged env v) s fun _ t =>
      (t.objAt .httpsCert key).map (fun c' => c'.status.times) = some (timesOf env secret.tlsCert) := by
  obtain ⟨stored, hget, hstored⟩ := Option.map_eq_some_iff.mp hsecret
  unfold reconcileSelfManaged
  refine Objects.returns_bind.mpr (Objects.returns_attemptGet.mpr ?_)
  rw [hget, Option.elim_some]
  simp only [hstored]
  refine returns_updateStatus hv ?_
  rw [State.objAt_updated hv (key_withStatus hv), Option.map_some, HttpsCert.withStatus, times_uploadedStatus]

section Report

variable {cert : Certificate} (hself : v.obj.spec.isSelfManaged = false)
  (hspec : cert.spec = v.obj.certificateSpec)
  (hconditions : cert.conditions =
    (s.objAt .certificate (istioNamespace, v.obj.name)).elim [] fun stored => stored.conditions)

include hself hspec hconditions

/-- **A certificate is reported**, if a secret that is read parses. -/
theorem fine_reportCertificate (hu : u.get .httpsCert key = some v)
    (hsecrets : ∀ key, u.get .secret key = s.get .secret key) (hproceeds : Proceeds s v.obj)
    (hreadable : ∀ secret, Reads s v.obj secret → ∃ x, parseCert env secret.tlsCert = .ok x) :
    Calls.Holds Objects.serve .unavailable (reportCertificate env v cert) u (Fine env s key v.obj) := by
  have hready := isReady_iff hconditions
  have hnot : ¬ IsReady s v.obj → ∀ secret, ¬ Reads s v.obj secret :=
    fun hunready secret hreads => hunready (hreads.ready hself).2
  unfold reportCertificate
  cases hcond : readyCondition cert.conditions with
  | none =>
      refine fine_updateStatus hu fun secret hreads => (hnot (fun h => ?_) secret hreads).elim
      obtain ⟨cond, hsome, _⟩ := hready.mp h
      rw [hcond] at hsome
      cases hsome
  | some cond =>
      simp only
      split
      · rename_i htrue
        have hreads : ∀ secret, s.objAt .secret (istioNamespace, v.obj.certSecretName) = some secret →
            Reads s v.obj secret :=
          fun secret h => ⟨h, Or.inr ⟨hproceeds, hready.mpr ⟨cond, hcond, htrue⟩⟩⟩
        have hname : cert.spec.secretName = v.obj.certSecretName := by
          rw [hspec]
          rfl
        rw [hname]
        refine Calls.holds_bind.mpr (Objects.holds_get.mpr ⟨?_, fine_kept (fun e => by cases e) hu⟩)
        rw [hsecrets]
        cases hget : s.get .secret (istioNamespace, v.obj.certSecretName) with
        | none => exact fine_kept (fun e => by cases e) hu
        | some stored =>
            have hstored : s.objAt .secret (istioNamespace, v.obj.certSecretName) = some stored.obj := by
              rw [State.objAt, hget, Option.map_some]
            obtain ⟨x, hx⟩ := hreadable _ (hreads _ hstored)
            rw [Option.elim_some]
            simp only [hx]
            refine fine_updateStatus hu fun secret hsecret => Or.inr ?_
            have hsame := hsecret.1
            rw [hstored] at hsame
            rw [← Option.some.inj hsame, timesOf_ok hx]
            rfl
      · rename_i hfalse
        refine fine_updateStatus hu fun secret hreads => (hnot (fun h => ?_) secret hreads).elim
        obtain ⟨other, hsome, htrue⟩ := hready.mp h
        rw [hcond] at hsome
        exact hfalse (Option.some.inj hsome ▸ htrue)

/-- **Without failing calls a ready certificate stores what the secret says.** -/
theorem returns_reportCertificate (hu : u.get .httpsCert key = some v)
    (hsecrets : ∀ key, u.get .secret key = s.get .secret key) {secret : Secret} (hreads : Reads s v.obj secret)
    {x : X509} (hx : parseCert env secret.tlsCert = .ok x) :
    Objects.Returns (reportCertificate env v cert) u fun _ t =>
      (t.objAt .httpsCert key).map (fun c' => c'.status.times) = some (timesOf env secret.tlsCert) := by
  obtain ⟨cond, hcond, htrue⟩ := (isReady_iff hconditions).mp (hreads.ready hself).2
  obtain ⟨stored, hget, hstored⟩ := Option.map_eq_some_iff.mp hreads.1
  have hname : cert.spec.secretName = v.obj.certSecretName := by
    rw [hspec]
    rfl
  unfold reportCertificate
  rw [hcond]
  simp only
  rw [if_pos htrue, hname]
  refine Objects.returns_bind.mpr (Objects.returns_get.mpr ⟨stored, by rw [hsecrets, hget], ?_⟩)
  rw [hstored]
  simp only [hx]
  refine returns_updateStatus hu ?_
  rw [State.objAt_updated hu (key_withStatus hu), timesOf_ok hx]
  rfl

/-- **It crashes where the secret does not parse.** -/
theorem crashes_reportCertificate (hsecrets : ∀ key, u.get .secret key = s.get .secret key) {secret : Secret}
    (hreads : Reads s v.obj secret) {e : Str} (hx : parseCert env secret.tlsCert = .error e) :
    ¬ Calls.Holds Objects.serve .unavailable (reportCertificate env v cert) u fun o _ => o ≠ .crashed := by
  obtain ⟨cond, hcond, htrue⟩ := (isReady_iff hconditions).mp (hreads.ready hself).2
  obtain ⟨stored, hget, hstored⟩ := Option.map_eq_some_iff.mp hreads.1
  have hname : cert.spec.secretName = v.obj.certSecretName := by
    rw [hspec]
    rfl
  unfold reportCertificate
  rw [hcond]
  simp only
  rw [if_pos htrue, hname]
  intro h
  have hread := (Objects.holds_get.mp (Calls.holds_bind.mp h)).1
  rw [hsecrets, hget, Option.elim_some] at hread
  simp only [hstored, hx] at hread
  exact Calls.holds_crash.mp hread rfl

end Report

/-- What is stored of a certificate behind its `Certificate`. -/
theorem get_httpsCert_certified (hv : s.get .httpsCert key = some v) :
    (certified s v.obj).get .httpsCert key = some v := by
  rw [get_certified (fun e => by cases e), hv]

theorem fine_reconcileAutoManaged (hself : v.obj.spec.isSelfManaged = false) (hv : s.get .httpsCert key = some v)
    (hproceeds : Proceeds s v.obj)
    (hreadable : ∀ secret, Reads s v.obj secret → ∃ x, parseCert env secret.tlsCert = .ok x) :
    Calls.Holds Objects.serve .unavailable (reconcileAutoManaged env v) s (Fine env s key v.obj) := by
  obtain ⟨cert, hcert, hspec, hconditions⟩ := get_certificate_certified s v.obj
  have hbehind := get_httpsCert_certified hv
  unfold reconcileAutoManaged
  refine Calls.holds_bind.mpr (Objects.holds_find.mpr ⟨?_, fine_kept (fun e => by cases e) hv⟩)
  refine Calls.holds_bind.mpr (holds_writeCertificate.mpr ⟨?_, fine_failed hv rfl, fine_failed hbehind rfl⟩)
  refine Calls.holds_bind.mpr (Objects.holds_attemptGet.mpr ⟨?_, ?_⟩)
  · rw [hcert, Option.elim_some]
    exact fine_reportCertificate hself hspec hconditions hbehind (fun key => get_certified (fun e => by cases e) key)
      hproceeds hreadable
  · exact fine_updateStatus hbehind fun _ _ => Or.inl ⟨_, rfl⟩

theorem returns_reconcileAutoManaged (hself : v.obj.spec.isSelfManaged = false) (hv : s.get .httpsCert key = some v)
    {secret : Secret} (hreads : Reads s v.obj secret) {x : X509} (hx : parseCert env secret.tlsCert = .ok x) :
    Objects.Returns (reconcileAutoManaged env v) s fun _ t =>
      (t.objAt .httpsCert key).map (fun c' => c'.status.times) = some (timesOf env secret.tlsCert) := by
  obtain ⟨cert, hcert, hspec, hconditions⟩ := get_certificate_certified s v.obj
  unfold reconcileAutoManaged
  refine Objects.returns_bind.mpr (Objects.returns_find.mpr (Objects.returns_bind.mpr (returns_writeCertificate ?_)))
  refine Objects.returns_bind.mpr (Objects.returns_attemptGet.mpr ?_)
  rw [hcert, Option.elim_some]
  exact returns_reportCertificate hself hspec hconditions (get_httpsCert_certified hv)
    (fun key => get_certified (fun e => by cases e) key) hreads hx

theorem crashes_reconcileAutoManaged (hself : v.obj.spec.isSelfManaged = false) {secret : Secret}
    (hreads : Reads s v.obj secret) {e : Str} (hx : parseCert env secret.tlsCert = .error e) :
    ¬ Calls.Holds Objects.serve .unavailable (reconcileAutoManaged env v) s fun o _ => o ≠ .crashed := by
  obtain ⟨cert, hcert, hspec, hconditions⟩ := get_certificate_certified s v.obj
  unfold reconcileAutoManaged
  intro h
  have hfound := (Objects.holds_find.mp (Calls.holds_bind.mp h)).1
  have hwritten := (holds_writeCertificate.mp (Calls.holds_bind.mp hfound)).1
  have hread := (Objects.holds_attemptGet.mp (Calls.holds_bind.mp hwritten)).1
  rw [hcert, Option.elim_some] at hread
  exact crashes_reportCertificate hself hspec hconditions (fun key => get_certified (fun e => by cases e) key)
    hreads hx hread

/-! ## 6. The whole run -/

theorem serve_listServers (s : Cluster) :
    Objects.serve (.list (S := schema) .acmeServer) s = (.ok (s.list .acmeServer), s) := rfl

theorem fine_reconcile (hv : s.get .httpsCert ([], name) = some v)
    (hreadable : v.obj.spec.isSelfManaged = false →
      ∀ secret, Reads s v.obj secret → ∃ x, parseCert env secret.tlsCert = .ok x) :
    Calls.Holds Objects.serve .unavailable (reconcile env name) s (Fine env s ([], name) v.obj) := by
  unfold reconcile
  refine Calls.holds_bind.mpr (Objects.holds_find.mpr ⟨?_, fine_kept (fun e => by cases e) hv⟩)
  rw [hv]
  simp only
  split
  · exact fine_reconcileSelfManaged hv
  rename_i hself
  rw [Bool.not_eq_true] at hself
  split
  · rename_i hissuer
    refine Calls.holds_bind.mpr ((Objects.holds_invoke (serve_listServers s)).mpr ⟨?_, ?_, ?_⟩)
    · simp only
      split
      · rename_i hserver
        exact fine_reconcileAutoManaged hself hv (fun _ => hserver) (hreadable hself)
      · exact Calls.holds_done.mpr (fine_kept (fun e => by cases e) hv)
    · exact fine_kept (fun e => by cases e) hv
    · exact fine_kept (fun e => by cases e) hv
  · rename_i hissuer
    exact fine_reconcileAutoManaged hself hv (fun e => absurd e hissuer) (hreadable hself)

/-- **A run that reads a secret without failing calls stores what the secret says.** -/
theorem returns_reconcile (hv : s.get .httpsCert ([], name) = some v) {secret : Secret}
    (hreads : Reads s v.obj secret)
    (hreadable : v.obj.spec.isSelfManaged = false → ∃ x, parseCert env secret.tlsCert = .ok x) :
    Objects.Returns (reconcile env name) s fun _ t =>
      (t.objAt .httpsCert ([], name)).map (fun c' => c'.status.times) = some (timesOf env secret.tlsCert) := by
  unfold reconcile
  refine Objects.returns_bind.mpr (Objects.returns_find.mpr ?_)
  rw [hv]
  simp only
  split
  · exact returns_reconcileSelfManaged hv hreads.1
  rename_i hself
  rw [Bool.not_eq_true] at hself
  obtain ⟨x, hx⟩ := hreadable hself
  have hauto := returns_reconcileAutoManaged hself hv hreads hx
  split
  · rename_i hissuer
    refine Objects.returns_bind.mpr (Objects.returns_list.mpr ?_)
    rwa [if_pos ((hreads.ready hself).1 hissuer)]
  · exact hauto

/-- **A run crashes where the secret of a ready certificate does not parse.** -/
theorem crashes_reconcile (hv : s.get .httpsCert ([], name) = some v) (hself : v.obj.spec.isSelfManaged = false)
    {secret : Secret} (hreads : Reads s v.obj secret) {e : Str} (hx : parseCert env secret.tlsCert = .error e) :
    ¬ Calls.Holds Objects.serve .unavailable (reconcile env name) s fun o _ => o ≠ .crashed := by
  intro h
  refine crashes_reconcileAutoManaged hself hreads hx ?_
  have hfound := (Objects.holds_find.mp (Calls.holds_bind.mp h)).1
  simp only [hv, hself, Bool.false_eq_true, if_false] at hfound
  split at hfound
  · rename_i hissuer
    have hlist := ((Objects.holds_invoke (serve_listServers s)).mp (Calls.holds_bind.mp hfound)).1
    simp only at hlist
    rwa [if_pos ((hreads.ready hself).1 hissuer)] at hlist
  · exact hfound

/-- **The status is reported exactly where the secret of a ready certificate parses.** -/
theorem reports_iff (env : Outside) (name : Str) (s : Cluster) : Reports env name s ↔ ¬ Unreadable env name s := by
  constructor
  · intro h hunreadable
    obtain ⟨c, secret, hc, hself, hreads, e, hx⟩ := hunreadable
    obtain ⟨v, hv, rfl⟩ := Option.map_eq_some_iff.mp hc
    exact crashes_reconcile hv hself hreads hx h.safe
  · intro h
    cases hget : s.get .httpsCert ([], name) with
    | none =>
        have hnone : ∀ c, s.objAt .httpsCert ([], name) ≠ some c := by
          intro c hc
          rw [State.objAt, hget] at hc
          cases hc
        refine ⟨?_, fun c _ hc => absurd hc (hnone c), fun c _ hc => absurd hc (hnone c)⟩
        have hsafe : Calls.Holds Objects.serve .unavailable (reconcile env name) s fun o _ => o ≠ .crashed := by
          unfold reconcile
          refine Calls.holds_bind.mpr (Objects.holds_find.mpr ⟨?_, fun e => by cases e⟩)
          rw [hget]
          exact Calls.holds_done.mpr fun e => by cases e
        exact hsafe
    | some v =>
        have hobj : s.objAt .httpsCert ([], name) = some v.obj := by
          rw [State.objAt, hget, Option.map_some]
        have hreadable : v.obj.spec.isSelfManaged = false →
            ∀ secret, Reads s v.obj secret → ∃ x, parseCert env secret.tlsCert = .ok x := by
          intro hself secret hreads
          cases hparse : parseCert env secret.tlsCert with
          | ok x => exact ⟨x, rfl⟩
          | error e => exact absurd ⟨v.obj, secret, hobj, hself, hreads, e, hparse⟩ h
        have hfine : Calls.Holds Objects.serve .unavailable (reconcile env name) s (Fine env s ([], name) v.obj) :=
          fine_reconcile hget hreadable
        refine ⟨fun faults => (hfine faults).1, fun c secret hc hreads faults => ?_, fun c secret hc hreads => ?_⟩
        · obtain rfl := Option.some.inj (hobj.symm.trans hc)
          exact (hfine faults).2 secret hreads
        · obtain rfl := Option.some.inj (hobj.symm.trans hc)
          exact returns_reconcile hget hreads fun hself => hreadable hself secret hreads

/-- Nothing parses. -/
def noCerts : Outside := ⟨fun _ => none, fun _ => .error [], fun _ => []⟩

/-- A certificate whose `Certificate` is ready and whose secret is empty. -/
def readyWithoutContent : Cluster where
  objects := fun
    | .httpsCert => .single ⟨shopCert, 1⟩
    | .certificate => .single
        ⟨⟨str "shop", some (str "shop"), shopCert.certificateSpec, [⟨str "Ready", str "True", [], []⟩]⟩, 2⟩
    | .secret => .single ⟨⟨istioNamespace, str "shop", ∅⟩, 3⟩
    | .acmeServer => .empty
    | .gateway => .empty
  revision := 3

/-- **A secret without a certificate crashes the controller.** -/
theorem reports_fails : ¬ ∀ (env : Outside) (name : Str) (s : Cluster), Reports env name s := by
  intro h
  refine (reports_iff noCerts (str "shop") readyWithoutContent).mp (h _ _ _) ?_
  refine ⟨shopCert, ⟨istioNamespace, str "shop", ∅⟩, rfl, rfl, ⟨rfl, Or.inr ⟨fun e => ?_, ?_⟩⟩, _, rfl⟩
  · exact absurd e (by decide)
  · exact ⟨_, _, rfl, rfl, rfl⟩

end Kalm.Tls
