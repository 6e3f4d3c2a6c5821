/-
  File:      Kalm/Certs/AcmeServer.lean
  Subject:   THE ACME SERVER THAT IS INSTALLED: the first part of `ACMEServerReconciler.Reconcile` in
             controller/controllers/acmeserver_controller.go.

  * `acmeServerFor`, `installACMEServer` -- the domains of the server are made from the first domain of a certificate;
  * `reconcileACMEServer` -- without a server one is installed for the first certificate with a DNS01 issuer; what is
    done for the server that is there is in `Certs/Challenges`;
  * `isValidDomain_label_append` -- a label in front of a domain, in the grammar of the webhook;
  * `installs_iff` -- the webhook of the server takes it exactly where that first domain is no wildcard.
-/
import Kalm.Certs.HttpsCerts
import Kalm.Lib.Fields
import Kalm.Lib.Served

namespace Kalm.Tls

open Certs (defaultDNS01IssuerName)

/-! ## 1. The program -/

/-- `sha1.Sum`. -/
abbrev Sha1 := Str → Vector UInt8 20

/-- `sha1String`. -/
def sha1String (sha1 : Sha1) (s : Str) : Str := hexEncode (sha1 s).toList

/-- `ACMEServerName`. -/
def acmeServerName : Str := str "acme-server"

/-- The server of a base domain. -/
def acmeServerFor (sha1 : Sha1) (baseDomain : Str) : ACMEServer where
  name := acmeServerName
  acmeDomain := str "acme-" ++ (sha1String sha1 baseDomain).take 6 ++ str "." ++ baseDomain
  nsDomain := str "name-server-" ++ (sha1String sha1 baseDomain).take 6 ++ str "." ++ baseDomain
  ready := false

/-- `installACMEServer`. -/
def installACMEServer (sha1 : Sha1) (cert : HttpsCert) : TlsTask (Except Str Unit) :=
  match cert.spec.domains with
  | [] => pure (.error (str "spec.domains is empty"))
  | baseDomain :: _ => do
    call (.create .acmeServer (acmeServerFor sha1 baseDomain))
    pure (.ok ())

/-- `findWildcardCerts`: the certificates with the DNS01 issuer. -/
def wildcardCerts (certs : List HttpsCert) : List HttpsCert :=
  certs.filter fun cert => cert.spec.httpsCertIssuer = defaultDNS01IssuerName

/-- `ACMEServerReconciler.Reconcile`, up to the work for a server that is there. -/
def reconcileACMEServer (sha1 : Sha1) : TlsTask (Except Str Unit) := do
  let acmeServers ← call (.list .acmeServer)
  if acmeServers.length ≤ 0 then
    let certs ← call (.list .httpsCert)
    match wildcardCerts (certs.map fun v => v.obj) with
    | [] => pure (.ok ())
    | cert :: _ => installACMEServer sha1 cert
  else if 1 < acmeServers.length then
    pure (.error (str "at most 1 cofig for acmeServer, see: " ++ itoa acmeServers.length))
  else pure (.ok ())

/-- The certificates with the DNS01 issuer that are stored. -/
def wildcardCertsOf (s : Cluster) : List HttpsCert :=
  wildcardCerts ((s.list .httpsCert).map fun v => v.obj)

/-- **The server is installed**: the reconcile returns, with a server of these domains that its webhook takes. -/
def Installs (sha1 : Sha1) (s : Cluster) : Prop :=
  Objects.Returns (reconcileACMEServer sha1) s fun r t => r = .ok () ∧
    ∃ cert ∈ wildcardCertsOf s, ∃ domain ∈ cert.spec.domains,
      t.objAt .acmeServer ([], acmeServerName) = some (acmeServerFor sha1 domain) ∧
        (acmeServerFor sha1 domain).validate = []

/-! ## 2. A label in front of a domain -/

section Domains

variable {label base s : Str}

/-- The pieces of a domain, after the first label. -/
def validLabels (labels : List Str) : Bool :=
  labels.dropLast.all isDomainLabel &&
    labels.getLast?.any fun tld => 2 ≤ tld.length && tld.all fun b => 97 ≤ b && b ≤ 122

theorem isValidDomain_eq :
    isValidDomain s = (decide (2 ≤ (s.splitOn dot).length) && validLabels (s.splitOn dot)) := by
  rw [isValidDomain, validLabels, Bool.and_assoc]

theorem splitOn_label_append (hdot : dot ∉ label) :
    (label ++ dot :: base).splitOn dot = label :: base.splitOn dot := by
  rw [Fields.splitOn_closed_append, List.splitOn_eq_singleton hdot, List.singleton_append]

/-- **A label in front of a text**: the rest has to be a domain, or its last piece. -/
theorem isValidDomain_label_append (hdot : dot ∉ label) (hlabel : isDomainLabel label = true) :
    isValidDomain (label ++ dot :: base) = validLabels (base.splitOn dot) := by
  obtain ⟨first, rest, hpieces⟩ := List.exists_cons_of_ne_nil (List.splitOn_ne_nil dot base)
  rw [isValidDomain_eq, splitOn_label_append hdot, hpieces, validLabels, validLabels, List.dropLast_cons_cons,
    List.getLast?_cons_cons, List.all_cons, hlabel, Bool.true_and, List.length_cons, List.length_cons,
    decide_eq_true (by omega), Bool.true_and]

theorem star_not_mem_of_isDomainLabel (h : isDomainLabel label = true) : star ∉ label := by
  intro hmem
  obtain ⟨piece, hpiece, hstar⟩ := Fields.exists_piece_of_mem (a := dash) hmem (by decide)
  have hall := List.all_eq_true.mp h piece hpiece
  have hlower := List.all_eq_true.mp (Bool.and_eq_true_iff.mp hall).2 star hstar
  exact absurd hlower (by decide)

/-- **No wildcard is a domain.** -/
theorem star_not_mem_of_validLabels (h : validLabels (base.splitOn dot) = true) : star ∉ base := by
  intro hmem
  obtain ⟨piece, hpiece, hstar⟩ := Fields.exists_piece_of_mem (a := dot) hmem (by decide)
  obtain ⟨hlabels, hlast⟩ := Bool.and_eq_true_iff.mp h
  obtain ⟨tld, htld, hletters⟩ := (Option.any_eq_true _ _).mp hlast
  obtain ⟨front, hfront⟩ := List.getLast?_eq_some_iff.mp htld
  rw [hfront, List.dropLast_concat] at hlabels
  rw [hfront] at hpiece
  rcases List.mem_append.mp hpiece with hpiece | hpiece
  · exact star_not_mem_of_isDomainLabel (List.all_eq_true.mp hlabels piece hpiece) hstar
  · obtain rfl := List.mem_singleton.mp hpiece
    have hlower := List.all_eq_true.mp (Bool.and_eq_true_iff.mp hletters).2 star hstar
    exact absurd hlower (by decide)

theorem star_mem_of_isValidWildcardDomain (h : isValidWildcardDomain s = true) : star ∈ s := by
  unfold isValidWildcardDomain at h
  split at h
  · rename_i hs
    rw [hs]
    exact List.mem_singleton.mpr rfl
  · simp only at h
    split at h
    · cases h
    · have hhead : (s.splitOn dot).head? = some [star] := of_decide_eq_true (Bool.and_eq_true_iff.mp h).1
      exact Fields.mem_of_mem_splitOn (List.mem_of_head? hhead) (List.mem_singleton.mpr rfl)

/-- A domain of a certificate that is behind a label. -/
theorem isValidDomain_prefixed_iff (hdot : dot ∉ label) (hlabel : isDomainLabel label = true)
    (hbase : isValidDomainInCert base = true ∨ base = [star]) :
    isValidDomain (label ++ dot :: base) = true ↔ isValidDomain base = true := by
  rw [isValidDomain_label_append hdot hlabel]
  constructor
  · intro h
    have hstar : star ∉ base := star_not_mem_of_validLabels h
    rcases hbase with hbase | rfl
    · rcases Bool.or_eq_true_iff.mp hbase with hvalid | hwildcard
      · exact hvalid
      · exact absurd (star_mem_of_isValidWildcardDomain hwildcard) hstar
    · exact absurd (List.mem_singleton.mpr rfl) hstar
  · intro h
    rw [isValidDomain_eq] at h
    exact (Bool.and_eq_true_iff.mp h).2

end Domains

/-! ## 3. The domains of the server -/

section Server

variable {sha1 : Sha1} {label domain digits : Str}

theorem isLowerAlnum_of_mem_hexEncode {bs : List UInt8} {b : UInt8} (h : b ∈ hexEncode bs) :
    isLowerAlnum b = true := by
  rcases hexEncode_range h with ⟨hlow, hhigh⟩ | ⟨hlow, hhigh⟩
  · simp [isLowerAlnum, hlow, hhigh]
  · have hz : b ≤ 122 := UInt8.le_trans hhigh (by decide)
    simp [isLowerAlnum, hlow, hz]

/-- The digits at the front of a hash. -/
theorem digits_eq (sha1 : Sha1) (domain : Str) : (sha1String sha1 domain).take 6 ≠ [] ∧
    ∀ b ∈ (sha1String sha1 domain).take 6, isLowerAlnum b = true := by
  constructor
  · intro hnil
    have hlength := congrArg List.length hnil
    rw [List.length_take, sha1String, length_hexEncode, Vector.length_toList, List.length_nil] at hlength
    omega
  · exact fun b hb => isLowerAlnum_of_mem_hexEncode (List.mem_of_mem_take hb)

/-- **Digits behind a label and a dash** make a label without a dot. -/
theorem isDomainLabel_digits (hlabel : isDomainLabel label = true) (hdot : dot ∉ label) (hdigits : digits ≠ [])
    (hlower : ∀ b ∈ digits, isLowerAlnum b = true) :
    isDomainLabel (label ++ dash :: digits) = true ∧ dot ∉ label ++ dash :: digits := by
  have hnot : ∀ c : UInt8, isLowerAlnum c = false → c ∉ digits := by
    intro c hc hmem
    rw [hlower c hmem] at hc
    cases hc
  constructor
  · unfold isDomainLabel at hlabel ⊢
    have hone : digits.splitOn dash = [digits] := List.splitOn_eq_singleton (hnot dash (by decide))
    rw [Fields.splitOn_closed_append, List.all_append, hlabel, Bool.true_and, hone, List.all_cons, List.all_nil,
      Bool.and_true, decide_eq_true hdigits, Bool.true_and]
    exact List.all_eq_true.mpr hlower
  · intro hmem
    rcases List.mem_append.mp hmem with hmem | hmem
    · exact hdot hmem
    · rcases List.mem_cons.mp hmem with hmem | hmem
      · exact absurd hmem (by decide)
      · exact hnot dot (by decide) hmem

/-- A generated domain, by the domain it is made from. -/
theorem isValidDomain_generated_iff (hlabel : isDomainLabel label = true) (hdot : dot ∉ label)
    (hdomain : isValidDomainInCert domain = true ∨ domain = [star]) :
    isValidDomain (label ++ [dash] ++ (sha1String sha1 domain).take 6 ++ [dot] ++ domain) = true ↔
      isValidDomain domain = true := by
  obtain ⟨hne, hlower⟩ := digits_eq sha1 domain
  obtain ⟨hfront, hfrontDot⟩ := isDomainLabel_digits hlabel hdot hne hlower
  rw [List.append_assoc _ [dot], List.append_assoc label, List.singleton_append, List.singleton_append]
  exact isValidDomain_prefixed_iff hfrontDot hfront hdomain

theorem ne_nil_of_isValidDomain (h : isValidDomain domain = true) : domain ≠ [] := by
  rintro rfl
  exact absurd h (by decide)

/-- Both domains of a server are asked for. -/
theorem ACMEServer.validate_eq_nil_iff {server : ACMEServer} :
    server.validate = [] ↔ isValidDomain server.acmeDomain = true ∧ isValidDomain server.nsDomain = true := by
  simp only [ACMEServer.validate, List.append_eq_nil_iff, reportIf_eq_nil, Bool.not_eq_false]
  constructor
  · exact fun h => ⟨h.1.1.2, h.2⟩
  · exact fun h => ⟨⟨⟨ne_nil_of_isValidDomain h.1, h.1⟩, ne_nil_of_isValidDomain h.2⟩, h.2⟩

/-- **The webhook takes the server exactly where its base domain is a domain.** -/
theorem validate_acmeServerFor_iff (hdomain : isValidDomainInCert domain = true ∨ domain = [star]) :
    (acmeServerFor sha1 domain).validate = [] ↔ isValidDomain domain = true := by
  have hlabel : isDomainLabel (str "acme") = true ∧ isDomainLabel (str "name-server") = true := by decide
  have hacme : isValidDomain (str "acme" ++ [dash] ++ (sha1String sha1 domain).take 6 ++ [dot] ++ domain) = true ↔
      isValidDomain domain = true := isValidDomain_generated_iff hlabel.1 (by decide) hdomain
  have hns : isValidDomain (str "name-server" ++ [dash] ++ (sha1String sha1 domain).take 6 ++ [dot] ++ domain) = true ↔
      isValidDomain domain = true := isValidDomain_generated_iff hlabel.2 (by decide) hdomain
  rw [ACMEServer.validate_eq_nil_iff]
  exact (and_congr hacme hns).trans and_self_iff

/-! ## 4. The reconcile -/

theorem domain_of_validate {cert : HttpsCert} (h : cert.validate = []) (hdomain : domain ∈ cert.spec.domains) :
    isValidDomainInCert domain = true ∨ domain = [star] := by
  have hdomains : validateDomains cert.spec.domains = [] := (List.append_eq_nil_iff.mp h).1
  have hall := (flatMap_zipIdx_reportIf_eq_nil
    (p := fun d => isValidDomainInCert d = false ∧ d ≠ [star])).mp hdomains domain hdomain
  by_cases hstar : domain = [star]
  · exact Or.inr hstar
  · exact Or.inl (Bool.not_eq_false _ ▸ fun hinvalid => hall ⟨hinvalid, hstar⟩)

variable {s : Cluster} {cert : HttpsCert} {rest : List HttpsCert}

/-- What the reconcile comes to without a server. -/
theorem returns_reconcileACMEServer {Q : Except Str Unit → Cluster → Prop} (hnone : s.list .acmeServer = [])
    (hcerts : wildcardCertsOf s = cert :: rest) :
    Objects.Returns (reconcileACMEServer sha1) s Q ↔ Objects.Returns (installACMEServer sha1 cert) s Q := by
  unfold reconcileACMEServer
  unfold wildcardCertsOf at hcerts
  rw [Objects.returns_bind, Objects.returns_list, hnone, List.length_nil, if_pos (Nat.le_refl 0),
    Objects.returns_bind, Objects.returns_list, hcerts]

/-- What the installation comes to. -/
theorem returns_installACMEServer {Q : Except Str Unit → Cluster → Prop} (hnone : s.list .acmeServer = [])
    {domains : List Str} (hdomains : cert.spec.domains = domain :: domains) :
    Objects.Returns (installACMEServer sha1 cert) s Q ↔
      (acmeServerFor sha1 domain).validate = [] ∧ Q (.ok ()) (s.put .acmeServer (acmeServerFor sha1 domain)) := by
  have hfree : s.get .acmeServer (schema.key (k := .acmeServer) (acmeServerFor sha1 domain)) = none := by
    rw [Option.eq_none_iff_forall_ne_some]
    intro v hv
    have hmem := (Objects.State.get_eq_some.mp hv).1
    rw [hnone] at hmem
    exact absurd hmem List.not_mem_nil
  unfold installACMEServer
  rw [hdomains]
  refine Objects.returns_bind.trans (Objects.returns_create.trans ?_)
  rw [and_iff_right hfree]
  exact and_congr decide_eq_true_iff Calls.returns_done

/-- **A server can be installed exactly where the first domain of the first certificate is no wildcard.** -/
theorem installs_iff (hnone : s.list .acmeServer = []) (haccepted : ∀ cert ∈ wildcardCertsOf s, cert.validate = [])
    (hcerts : wildcardCertsOf s = cert :: rest) :
    Installs sha1 s ↔ ∃ domain, cert.spec.domains.head? = some domain ∧ isValidDomain domain = true := by
  have hcert : cert ∈ wildcardCertsOf s := by
    rw [hcerts]
    exact List.mem_cons_self
  refine (returns_reconcileACMEServer hnone hcerts).trans ?_
  cases hdomains : cert.spec.domains with
  | nil =>
      refine iff_of_false (fun h => ?_) fun h => ?_
      · rw [installACMEServer, hdomains] at h
        cases (Calls.returns_done.mp h).1
      · obtain ⟨domain, hhead, _⟩ := h
        cases hhead
  | cons domain domains =>
      have hmem : domain ∈ cert.spec.domains := by
        rw [hdomains]
        exact List.mem_cons_self
      have hvalid : (acmeServerFor sha1 domain).validate = [] ↔ isValidDomain domain = true :=
        validate_acmeServerFor_iff (domain_of_validate (haccepted cert hcert) hmem)
      rw [returns_installACMEServer hnone hdomains]
      constructor
      · exact fun h => ⟨domain, rfl, hvalid.mp h.1⟩
      · intro h
        obtain ⟨first, hfirst, h⟩ := h
        obtain rfl := Option.some.inj hfirst
        refine ⟨hvalid.mpr h, rfl, cert, hcert, domain, hmem, ?_, hvalid.mpr h⟩
        have hkey : schema.key (k := .acmeServer) (acmeServerFor sha1 domain) = ([], acmeServerName) := rfl
        rw [Objects.State.objAt, Objects.State.get_put, if_pos hkey.symm]
        rfl

end Server

/-- A certificate for a domain and what is under it. -/
def dns01Cert (domains : List Str) : HttpsCert where
  name := str "shop"
  spec := ⟨false, [], defaultDNS01IssuerName, domains⟩
  status := ⟨[], 0, false⟩

/-- A cluster with one certificate. -/
def withCert (cert : HttpsCert) : Cluster where
  objects
    | .httpsCert => ⟨[⟨cert, 1⟩], List.nodup_singleton _⟩
    | _ => .empty
  revision := 1

/-- The hashes of `shop.com` and `*.shop.com`. -/
def sampleSha1 : Sha1 := fun domain =>
  if domain = str "shop.com" then
    #v[61, 147, 72, 228, 185, 55, 25, 117, 165, 135, 45, 5, 91, 190, 27, 132, 15, 123, 184, 83]
  else #v[86, 254, 149, 61, 214, 41, 26, 123, 92, 115, 41, 80, 97, 43, 201, 32, 38, 238, 102, 58]

/-- It is valid for valid domains. -/
theorem validate_dns01Cert {domains : List Str} (h : validateDomains domains = []) :
    (dns01Cert domains).validate = [] := by
  have hissuer : validateIssuer (dns01Cert domains).spec = [] := by
    have hhttp : (dns01Cert domains).spec.httpsCertIssuer ≠ defaultHTTP01IssuerName := by
      show defaultDNS01IssuerName ≠ defaultHTTP01IssuerName
      decide
    have hdns : (dns01Cert domains).spec.httpsCertIssuer = defaultDNS01IssuerName := rfl
    rw [validateIssuer, if_neg hhttp, if_pos hdns]
  have hself : ¬ (dns01Cert domains).spec.isSelfManaged = true := Bool.false_ne_true
  rw [HttpsCert.validate, if_neg hself, hissuer, List.append_nil]
  exact h

/-- With the domain in front, the server is installed. -/
theorem installs_shop : Installs sampleSha1 (withCert (dns01Cert [str "shop.com", str "*.shop.com"])) := by
  refine (installs_iff rfl ?_ rfl).mpr ⟨str "shop.com", rfl, by decide⟩
  intro cert hcert
  obtain rfl := List.mem_singleton.mp (show cert ∈ [dns01Cert [str "shop.com", str "*.shop.com"]] from hcert)
  exact validate_dns01Cert (by decide)

/-- **With the wildcard in front, it is never installed.** -/
theorem installs_fails : ¬ ∀ (sha1 : Sha1) (s : Cluster), s.list .acmeServer = [] → wildcardCertsOf s ≠ [] →
    (∀ cert ∈ wildcardCertsOf s, cert.validate = [] ∧ cert.spec.domains ≠ []) → Installs sha1 s := by
  intro h
  have hinstalls := h sampleSha1 (withCert (dns01Cert [str "*.shop.com", str "shop.com"])) rfl
    (List.cons_ne_nil _ []) fun cert hcert => by
      obtain rfl := List.mem_singleton.mp (show cert ∈ [dns01Cert [str "*.shop.com", str "shop.com"]] from hcert)
      exact ⟨validate_dns01Cert (by decide), List.cons_ne_nil _ _⟩
  have hreturns := (returns_reconcileACMEServer rfl rfl).mp hinstalls
  have hcert : (dns01Cert [str "*.shop.com", str "shop.com"]).spec.domains = [str "*.shop.com", str "shop.com"] :=
    rfl
  have hvalid := ((returns_installACMEServer rfl hcert).mp hreturns).1
  exact absurd ((validate_acmeServerFor_iff (Or.inl (by decide))).mp hvalid) (by decide)

end Kalm.Tls
