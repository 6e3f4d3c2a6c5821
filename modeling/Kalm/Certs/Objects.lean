/-
  File:      Kalm/Certs/Objects.lean
  Subject:   CERTIFICATES AND THEIR ISSUERS: the types of controller/api/v1alpha1/httpscert_types.go and
             httpscertissuer_types.go, and what cert-manager is given for them.

  * `IssuerSpec`, `IssuerSpec.validate` -- an issuer of one of four kinds, and its webhook;
  * `Cert`, `trimPrefixOfWildcardDomain` -- a certificate, and the domain that is challenged for a wildcard;
  * `ClusterIssuerSpec` -- the issuers of cert-manager that are written;
  * `schema` -- the objects of the cluster;
  * `Iteration` -- the order in which Go comes to the keys of a map.
-/
import Kalm.Api.Edits
import Kalm.Lib.Mirror
import Kalm.Lib.Objects

namespace Kalm.Certs

open Mirror (Table)
open Objects (Schema State Task Versioned)

/-! ## 1. Issuers -/

/-- `DNS01IssuerConfig`: what the ACME-DNS server answers to a registration. -/
structure DNS01IssuerConfig where
  userName : Str
  password : Str
  fullDomain : Str
  subDomain : Str
  allowFrom : List Str
  deriving DecidableEq

/-- `DNS01Issuer`. -/
structure DNS01Issuer where
  baseACMEDomain : Str
  configs : Table Str DNS01IssuerConfig

-- maps are compared by their entries, so that an update can be evaluated
instance : DecidableEq DNS01Issuer := fun a b =>
  decidable_of_iff (a.baseACMEDomain = b.baseACMEDomain ∧ a.configs.entries = b.configs.entries) <| by
    rw [DNS01Issuer.mk.injEq, AList.ext_iff]

/-- `HttpsCertIssuerSpec`. -/
structure IssuerSpec where
  caForTest : Bool
  acmeCloudFlare : Option ACMECloudFlareIssuer
  http01 : Option Str
  dns01 : Option DNS01Issuer
  deriving DecidableEq

/-- The number of the kinds that are set. -/
def IssuerSpec.setConfigCnt (spec : IssuerSpec) : Nat :=
  spec.acmeCloudFlare.toList.length + (if spec.caForTest then 1 else 0) + spec.http01.toList.length +
    spec.dns01.toList.length

/-- `HttpsCertIssuer.validate` -/
def IssuerSpec.validate (adm : Admission) (spec : IssuerSpec) : List KalmValidateError :=
  reportIf (spec.setConfigCnt = 0)
    ⟨str "should provide at least 1 among: acmeCloudFlare, caForTest, http01 and dns01", str "spec"⟩ ++
  reportIf (1 < spec.setConfigCnt)
    ⟨str "should provide at most 1 among: acmeCloudFlare, caForTest, http01 and dns01", str "spec"⟩ ++
  (spec.http01.toList.flatMap fun email =>
    reportIf (email ≠ [] ∧ adm.isValidEmail email = false)
      ⟨str "invalid email:" ++ email, str "spec.http01.email"⟩) ++
  spec.acmeCloudFlare.toList.flatMap fun acme =>
    reportIf (isValidResourceName acme.apiTokenSecretName = false)
      ⟨str "invalid secret name", str "spec.acmeCloudFlare.apiTokenSecretName"⟩ ++
    reportIf (adm.isValidEmail acme.email = false)
      ⟨str "invalid email:" ++ acme.email, str "spec.acmeCloudFlare.email"⟩

/-- `HttpsCertIssuer`; `owner` is its controller, `ok` its status. -/
structure Issuer where
  name : Str
  owner : Option Str
  spec : IssuerSpec
  ok : Bool
  deriving DecidableEq

/-- `DefaultDNS01IssuerName`. -/
def defaultDNS01IssuerName : Str := str "default-dns01-issuer"

/-! ## 2. Certificates -/

/-- `HttpsCert`, with the fields that are read here; `challengeDomains` is the `WildcardCertDNSChallengeDomainMap` of
    its status. -/
structure Cert where
  name : Str
  httpsCertIssuer : Str
  domains : List Str
  challengeDomains : Table Str Str

instance : DecidableEq Cert := fun a b =>
  decidable_of_iff (a.name = b.name ∧ a.httpsCertIssuer = b.httpsCertIssuer ∧ a.domains = b.domains ∧
    a.challengeDomains.entries = b.challengeDomains.entries) <| by
    rw [Cert.mk.injEq, AList.ext_iff]

/-- `*.example.com` and `example.com` are challenged as one. -/
def trimPrefixOfWildcardDomain (domain : Str) : Str :=
  if (str "*.").isPrefixOf domain then domain.drop 2 else domain

/-- The order in which Go comes to the keys of a map. -/
structure Iteration where
  order : List Str → List Str
  perm : ∀ keys, (order keys).Perm keys

/-- `trimPrefixOfWildcardDomains`. -/
def trimPrefixOfWildcardDomains (it : Iteration) (domains : List Str) : List Str :=
  it.order (domains.map trimPrefixOfWildcardDomain).dedup

/-- **It has the trimmed domains**, in some order. -/
theorem mem_trimPrefixOfWildcardDomains {it : Iteration} {domains : List Str} {domain : Str} :
    domain ∈ trimPrefixOfWildcardDomains it domains ↔ domain ∈ domains.map trimPrefixOfWildcardDomain := by
  rw [trimPrefixOfWildcardDomains, (it.perm _).mem_iff, List.mem_dedup]

/-! ## 3. What cert-manager is given -/

/-- `ACMEChallengeSolver`. -/
inductive Solver where
  | cloudflare (email apiTokenSecretName apiTokenKey : Str)
  | http01Ingress (ingressClass : Str)
  | acmeDNS (host accountSecretName accountKey : Str)
  deriving DecidableEq

/-- `IssuerSpec` of cert-manager. -/
inductive ClusterIssuerSpec where
  | ca (secretName : Str)
  | acme (email server privateKey : Str) (solver : Solver)
  deriving DecidableEq

/-- `ClusterIssuer`; `owner` is the issuer that is its controller. -/
structure ClusterIssuer where
  name : Str
  owner : Option Str
  spec : ClusterIssuerSpec
  deriving DecidableEq

/-- `Secret`; a value can be nil. -/
structure CertSecret where
  ns : Str
  name : Str
  owner : Option Str
  data : Table Str (Option Str)

instance : DecidableEq CertSecret := fun a b =>
  decidable_of_iff (a.ns = b.ns ∧ a.name = b.name ∧ a.owner = b.owner ∧ a.data.entries = b.data.entries) <| by
    rw [CertSecret.mk.injEq, AList.ext_iff]

/-! ## 4. The cluster -/

/-- The kinds of objects. -/
inductive Kind where
  | ns
  | issuer
  | cert
  | clusterIssuer
  | secret
  deriving DecidableEq

namespace Kind

/-- The objects of a kind; of a namespace, the name is read. -/
@[reducible] def Obj : Kind → Type
  | ns => Str
  | issuer => Issuer
  | cert => Cert
  | clusterIssuer => ClusterIssuer
  | secret => CertSecret

/-- Namespace and name. -/
def key : (k : Kind) → k.Obj → Str × Str
  | ns, v => ([], v)
  | issuer, v => ([], v.name)
  | cert, v => ([], v.name)
  | clusterIssuer, v => ([], v.name)
  | secret, v => (v.ns, v.name)

instance : (k : Kind) → DecidableEq k.Obj
  | ns => inferInstanceAs (DecidableEq Str)
  | issuer => inferInstanceAs (DecidableEq Issuer)
  | cert => inferInstanceAs (DecidableEq Cert)
  | clusterIssuer => inferInstanceAs (DecidableEq ClusterIssuer)
  | secret => inferInstanceAs (DecidableEq CertSecret)

end Kind

/-- The API server. -/
@[reducible] def schema : Schema where
  Kind := Kind
  Key := Str × Str
  Obj := Kind.Obj
  key := fun {k} obj => k.key obj
  valid := fun _ => true

/-- What is stored. -/
abbrev Cluster := State schema

/-- A program of the controllers. -/
abbrev ControllerTask := Task schema

/-- A stored issuer. -/
abbrev StoredIssuer := Versioned schema Kind.issuer

/-- A stored certificate. -/
abbrev StoredCert := Versioned schema Kind.cert

end Kalm.Certs
