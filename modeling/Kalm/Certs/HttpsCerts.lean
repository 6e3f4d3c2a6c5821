/-
  File:      Kalm/Certs/HttpsCerts.lean
  Subject:   CERTIFICATES OF THE CLUSTER: `HttpsCert` of controller/api/v1alpha1/httpscert_types.go with its webhook
             httpscert_webhook.go, and what is written for it.

  * `HttpsCert.default`, `HttpsCert.validate` -- the webhook; the defaults come out of a map, in the order `it`;
  * `schema` -- the objects of the cluster: certificates, what cert-manager is given for them, their secrets, the ACME
    server and the gateway;
  * `HttpsCert.certificateSpec` -- the common name and the DNS names of the `Certificate` that is asked for;
  * `stable_iff` -- a certificate that is saved again stays as it is exactly where it has at most one domain.
-/
import Kalm.Certs.Objects
import Kalm.Route.Envoy
import Kalm.Route.Objects

namespace Kalm.Tls

open Certs (Iteration defaultDNS01IssuerName)
open Objects (Schema State Task Versioned)

/-! ## 1. Types -/

/-- `HttpsCertSpec`. -/
structure HttpsCertSpec where
  isSelfManaged : Bool
  selfManagedCertSecretName : Str
  httpsCertIssuer : Str
  domains : List Str
  deriving DecidableEq

/-- `HttpsCertCondition`; its type is always `Ready`. -/
structure HttpsCertCondition where
  status : Str
  reason : Str
  message : Str
  deriving DecidableEq

/-- `HttpsCertStatus`. -/
structure HttpsCertStatus where
  conditions : List HttpsCertCondition
  expireTimestamp : Int
  isSignedByPublicTrustedCA : Bool
  deriving DecidableEq

/-- `HttpsCert`. -/
structure HttpsCert where
  name : Str
  spec : HttpsCertSpec
  status : HttpsCertStatus
  deriving DecidableEq

/-- `CertificateSpec` of cert-manager; the issuer is a `ClusterIssuer`. -/
structure CertificateSpec where
  secretName : Str
  commonName : Str
  dnsNames : List Str
  issuer : Str
  deriving DecidableEq

/-- `CertificateCondition`. -/
structure CertificateCondition where
  type : Str
  status : Str
  reason : Str
  message : Str
  deriving DecidableEq

/-- `Certificate` of cert-manager, in `istio-system`; `owner` is the certificate that is its controller. -/
structure Certificate where
  name : Str
  owner : Option Str
  spec : CertificateSpec
  conditions : List CertificateCondition
  deriving DecidableEq

/-- `Secret`. -/
structure Secret where
  ns : Str
  name : Str
  data : ObjectLabels
  deriving DecidableEq

/-- `ACMEServer`; of its status, whether it is ready. -/
structure ACMEServer where
  name : Str
  acmeDomain : Str
  nsDomain : Str
  ready : Bool
  deriving DecidableEq

/-- `Server` of a gateway, with its port and its TLS settings. -/
structure Server where
  hosts : List Str
  number : Nat
  protocol : Str
  portName : Str
  credentialName : Str
  deriving DecidableEq

/-- `Gateway`. -/
structure Gateway where
  ns : Str
  name : Str
  selector : ObjectLabels
  servers : List Server
  deriving DecidableEq

/-! ## 2. The webhook -/

/-- `DefaultHTTP01IssuerName`. -/
def defaultHTTP01IssuerName : Str := str "default-http01-issuer"

/-- `DefaultCAIssuerName`. -/
def defaultCAIssuerName : Str := str "default-cert-issuer"

/-- The keys of `uniqDomainMap`. -/
def uniqDomains (domains : List Str) : List Str := ((domains.map trimSpace).filter fun domain => domain ≠ []).dedup

/-- `HttpsCert.Default`. -/
def HttpsCert.default (it : Iteration) (c : HttpsCert) : HttpsCert :=
  { c with spec := { c.spec with domains := it.order (uniqDomains c.spec.domains) } }

/-- `isValidDomainInCert`. -/
def isValidDomainInCert (s : Str) : Bool := isValidDomain s || isValidWildcardDomain s

/-- The checks of the domains. -/
def validateDomains (domains : List Str) : List KalmValidateError :=
  domains.zipIdx.flatMap fun x =>
    reportIf (isValidDomainInCert x.1 = false ∧ x.1 ≠ [star])
      ⟨str "invalid domain:" ++ x.1, str "spec.domains[" ++ itoa x.2 ++ str "]"⟩

/-- The issuers as they are written in a message. -/
def issuersText : Str :=
  str "[" ++ defaultDNS01IssuerName ++ str " " ++ defaultHTTP01IssuerName ++ str " " ++ defaultCAIssuerName ++ str "]"

/-- The checks of a certificate that is issued. -/
def validateIssuer (spec : HttpsCertSpec) : List KalmValidateError :=
  if spec.httpsCertIssuer = defaultHTTP01IssuerName then
    reportIf (spec.domains.length ≤ 0) ⟨str "http01 cert should have at lease 1 domain", str "spec.domains"⟩ ++
    spec.domains.flatMap fun d =>
      reportIf (star ∈ d) ⟨str "http01 cert should not have '*' in domain: " ++ d, str "spec.domains"⟩
  else if spec.httpsCertIssuer = defaultDNS01IssuerName then []
  else if spec.httpsCertIssuer = defaultCAIssuerName then []
  else
    [⟨str "for auto managed cert, httpsCertIssuer should be one of: " ++ issuersText ++ str ", but: " ++
      spec.httpsCertIssuer, str "spec.httpsCertIssuer"⟩]

/-- `HttpsCert.validate`. -/
def HttpsCert.validate (c : HttpsCert) : List KalmValidateError :=
  validateDomains c.spec.domains ++
    if c.spec.isSelfManaged then
      reportIf (c.spec.selfManagedCertSecretName = [])
        ⟨str "need secretName for selfManaged cert", str "spec.selfManagedCertSecretName"⟩
    else validateIssuer c.spec

/-- `ACMEServer.validate`. -/
def ACMEServer.validate (s : ACMEServer) : List KalmValidateError :=
  reportIf (s.acmeDomain = []) ⟨str "should not be empty", str "spec.acmeDomain"⟩ ++
  reportIf (isValidDomain s.acmeDomain = false)
    ⟨str "is not valid domain:" ++ s.acmeDomain, str "spec.acmeDomain"⟩ ++
  reportIf (s.nsDomain = []) ⟨str "should not be empty", str "spec.nsDomain"⟩ ++
  reportIf (isValidDomain s.nsDomain = false) ⟨str "is not valid domain:" ++ s.nsDomain, str "spec.nsDomain"⟩

/-! ## 3. The cluster -/

/-- `istioNamespace`. -/
def istioNamespace : Str := str "istio-system"

/-- The kinds of objects. -/
inductive Kind where
  | httpsCert
  | certificate
  | secret
  | acmeServer
  | gateway
  deriving DecidableEq

namespace Kind

/-- The objects of a kind. -/
@[reducible] def Obj : Kind → Type
  | httpsCert => HttpsCert
  | certificate => Certificate
  | secret => Secret
  | acmeServer => ACMEServer
  | gateway => Gateway

/-- Namespace and name. -/
def key : (k : Kind) → k.Obj → Str × Str
  | httpsCert, v => ([], v.name)
  | certificate, v => (istioNamespace, v.name)
  | secret, v => (v.ns, v.name)
  | acmeServer, v => ([], v.name)
  | gateway, v => (v.ns, v.name)

/-- What the schemas and the webhooks take. -/
def valid : (k : Kind) → k.Obj → Bool
  -- the schema of the resource wants one domain at least
  | httpsCert, v => v.spec.domains ≠ [] && v.validate = []
  | acmeServer, v => v.validate = []
  | _, _ => true

instance : (k : Kind) → DecidableEq k.Obj
  | httpsCert => inferInstanceAs (DecidableEq HttpsCert)
  | certificate => inferInstanceAs (DecidableEq Certificate)
  | secret => inferInstanceAs (DecidableEq Secret)
  | acmeServer => inferInstanceAs (DecidableEq ACMEServer)
  | gateway => inferInstanceAs (DecidableEq Gateway)

end Kind

/-- The API server. -/
@[reducible] def schema : Schema where
  Kind := Kind
  Key := Str × Str
  Obj := Kind.Obj
  key := fun {k} obj => k.key obj
  valid := fun {k} obj => k.valid obj

/-- What is stored. -/
abbrev Cluster := State schema

/-- An object as it is stored. -/
abbrev Stored (k : Kind) := Versioned schema k

/-- A program on the cluster. -/
abbrev TlsTask := Task schema

/-- A call. -/
abbrev call (c : Objects.Call schema) : TlsTask c.Reply := Objects.invoke c

/-! ## 4. What is asked of cert-manager -/

/-- The name of the secret of a certificate, by `getCertAndCertSecretName`. -/
def HttpsCert.certSecretName (c : HttpsCert) : Str :=
  if c.spec.isSelfManaged then c.spec.selfManagedCertSecretName else c.name

/-- `getDNSNames`. -/
def HttpsCert.dnsNames (c : HttpsCert) : List Str := c.spec.domains

/-- `pickCommonName`. -/
def pickCommonName (names : List Str) : Str := names.head?.getD []

/-- The spec of the `Certificate` of a certificate. -/
def HttpsCert.certificateSpec (c : HttpsCert) : CertificateSpec where
  secretName := c.certSecretName
  commonName := pickCommonName c.dnsNames
  dnsNames := c.dnsNames
  issuer := c.spec.httpsCertIssuer

/-! ## 5. Saving again -/

/-- **The defaults are stable**: one list of domains whatever the order, which is kept by the defaults, and so one
    `Certificate`; the list has the trimmed domains that are not empty, each once. -/
structure Stable (c : HttpsCert) : Prop where
  same : ∀ it it', (c.default it).spec.domains = (c.default it').spec.domains
  idempotent : ∀ it it', (c.default it).default it' = c.default it
  certificate : ∀ it it', ((c.default it).default it').certificateSpec = (c.default it).certificateSpec
  trimmed : ∀ it domain, domain ∈ (c.default it).spec.domains ↔
    domain ≠ [] ∧ ∃ d ∈ c.spec.domains, trimSpace d = domain
  distinct : ∀ it, (c.default it).spec.domains.Nodup

variable {c : HttpsCert} {it it' : Iteration} {domains : List Str}

theorem mem_uniqDomains {domain : Str} :
    domain ∈ uniqDomains domains ↔ domain ≠ [] ∧ ∃ d ∈ domains, trimSpace d = domain := by
  simp [uniqDomains, and_comm]

/-- **The domains behind the defaults**, up to their order. -/
theorem default_domains_perm : ((c.default it).spec.domains).Perm (uniqDomains c.spec.domains) := it.perm _

/-- What the defaults have made is kept, up to its order. -/
theorem uniqDomains_eq_self {list : List Str} (h : domains.Perm (uniqDomains list)) :
    uniqDomains domains = domains := by
  have hnodup : domains.Nodup := h.nodup_iff.mpr (List.nodup_dedup _)
  have hmem : ∀ d ∈ domains, d ≠ [] ∧ trimSpace d = d := by
    intro d hd
    obtain ⟨hne, x, _, rfl⟩ := mem_uniqDomains.mp (h.mem_iff.mp hd)
    exact ⟨hne, trimSpace_trimSpace x⟩
  have htrim : domains.map trimSpace = domains :=
    (List.map_congr_left fun d hd => (hmem d hd).2).trans (List.map_id' domains)
  rw [uniqDomains, htrim, List.filter_eq_self.mpr fun d hd => decide_eq_true (hmem d hd).1, hnodup.dedup]

/-- Short lists have one order. -/
theorem order_eq (h : domains.length ≤ 1) : it.order domains = domains := by
  have hperm := it.perm domains
  match domains, h with
  | [], _ => exact hperm.eq_nil
  | [domain], _ => exact List.perm_singleton.mp hperm

/-- Two elements, forwards and backwards. -/
theorem length_le_of_reverse {l : List Str} (hnodup : l.Nodup) (h : l.reverse = l) : l.length ≤ 1 := by
  match l with
  | [] => simp
  | first :: rest =>
      rcases List.eq_nil_or_concat rest with rfl | ⟨front, last, rfl⟩
      · simp
      · have hlast : last = first := by simpa using congrArg List.head? h
        rw [hlast] at hnodup
        exact absurd (List.nodup_cons.mp hnodup).1 (by simp)

theorem default_default (h : (uniqDomains c.spec.domains).length ≤ 1) :
    (c.default it).default it' = c.default it := by
  have hdomains : (c.default it).spec.domains = uniqDomains c.spec.domains := order_eq h
  have hkept : uniqDomains (c.default it).spec.domains = (c.default it).spec.domains :=
    uniqDomains_eq_self default_domains_perm
  have horder : it'.order (uniqDomains (c.default it).spec.domains) = (c.default it).spec.domains := by
    rw [hkept]
    exact order_eq (hdomains ▸ h)
  rw [HttpsCert.default, horder]

/-- **A certificate that is saved again stays as it is exactly where it has at most one domain.** -/
theorem stable_iff : Stable c ↔ (uniqDomains c.spec.domains).length ≤ 1 := by
  constructor
  · intro h
    have hsame := h.same ⟨List.reverse, fun keys => List.reverse_perm keys⟩ ⟨id, List.Perm.refl⟩
    exact length_le_of_reverse (List.nodup_dedup _) hsame
  · intro h
    have hdomains : ∀ it : Iteration, (c.default it).spec.domains = uniqDomains c.spec.domains := fun it => order_eq h
    refine ⟨fun it it' => (hdomains it).trans (hdomains it').symm, fun it it' => default_default h,
      fun it it' => by rw [default_default h], fun it domain => ?_, fun it => ?_⟩
    · rw [hdomains]
      exact mem_uniqDomains
    · rw [hdomains]
      exact List.nodup_dedup _

/-- A certificate of two domains. -/
def shopCert : HttpsCert where
  name := str "shop"
  spec := ⟨false, [], defaultHTTP01IssuerName, [str "shop.com", str "www.shop.com"]⟩
  status := ⟨[], 0, false⟩

/-- **Its common name changes when it is saved again.** -/
theorem stable_fails : ¬ ∀ c : HttpsCert, c.validate = [] → Stable c := by
  intro h
  have hstable := h shopCert (by decide +kernel)
  have hlength := length_le_of_reverse (List.nodup_dedup _)
    (hstable.same ⟨List.reverse, fun keys => List.reverse_perm keys⟩ ⟨id, List.Perm.refl⟩)
  exact absurd hlength (by decide +kernel)

end Kalm.Tls
