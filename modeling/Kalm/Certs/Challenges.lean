/-
  File:      Kalm/Certs/Challenges.lean
  Subject:   DNS CHALLENGES: `reconcileIssuer` of controller/controllers/acmeserver_controller.go registers the
             domains of the certificates with the ACME-DNS server, and tells the certificates how they are challenged.

  * `registerACMEDNS`, `lastAnswer` -- the registrations; the last answer for a domain counts;
  * `registerDomainsInACMEServer`, `updateStatusOfCertsUsingDNSIssuer`, `reconcileIssuer` -- the reconcile;
  * `Mirrors`, `Kept` -- the issuer and the certificates are in step, and what was registered stays;
  * `returns_reconcileIssuer` -- what a reconcile does;
  * `mirrors_iff` -- they are in step behind every reconcile of a run, exactly where the first answers name the domain
    of the server, and no certificate loses a domain that it has been told of.
-/
import Kalm.Certs.Objects
import Kalm.Lib.Runs
import Kalm.Lib.Served
import Kalm.Lib.Tables

namespace Kalm.Certs

open Calls (Fault Strict)
open Mirror (Table)
open Objects (Returns State Versioned find invoke)
open Runs (Always)

/-! ## 1. Registrations -/

/-- What the ACME-DNS server answers to the registrations, one after the other; `none` where it does not. -/
abbrev Answers := Nat → Option DNS01IssuerConfig

/-- `registerACMEDNS`, behind `i` registrations. -/
def registerACMEDNS (answers : Answers) :
    List Str → Nat → Table Str DNS01IssuerConfig → Option (Table Str DNS01IssuerConfig)
  | [], _, configs => some configs
  | domain :: domains, i, configs =>
    match answers i with
    | none => none
    | some config => registerACMEDNS answers domains (i + 1) (configs.insert domain config)

/-- The last answer for a domain. -/
def lastAnswer (answers : Answers) (domain : Str) : List Str → Nat → Option DNS01IssuerConfig
  | [], _ => none
  | first :: domains, i => (lastAnswer answers domain domains (i + 1)).or (if first = domain then answers i else none)

/-! ## 2. The reconcile -/

/-- The certificate is one of the issuer. -/
def usesDNSIssuer (cert : Cert) : Bool := cert.httpsCertIssuer = defaultDNS01IssuerName

/-- `getCertsUsingDNSIssuer`. -/
def getCertsUsingDNSIssuer : ControllerTask (List StoredCert) := do
  let certs ← invoke (Objects.Call.list (S := schema) Kind.cert)
  pure (certs.filter fun v => usesDNSIssuer v.obj)

/-- The domains that are challenged for certificates. -/
def domainsOf (it : Iteration) (certs : List StoredCert) : List Str :=
  certs.flatMap fun v => trimPrefixOfWildcardDomains it (Cert.domains v.obj)

/-- The domains of certificates that are not registered, one after the other; two certificates can have the same. -/
def needRegisterDomains (it : Iteration) (certs : List StoredCert) (configs : Table Str DNS01IssuerConfig) :
    List Str :=
  (domainsOf it certs).filter fun domain => domain ∉ configs

/-- The domains that are registered for no certificate. -/
def needCleanDomains (it : Iteration) (certs : List StoredCert) (configs : Table Str DNS01IssuerConfig) : List Str :=
  configs.keys.filter fun domain => domain ∉ domainsOf it certs

/-- `registerDomainsInACMEServer`: the new configs, and the domains that are to go. -/
def registerDomainsInACMEServer (it : Iteration) (answers : Answers) (dns01 : Option DNS01Issuer) :
    ControllerTask (Table Str DNS01IssuerConfig × List Str) := do
  let certs ← getCertsUsingDNSIssuer
  match dns01 with
  | none => .crash
  | some dns01 =>
    match registerACMEDNS answers (needRegisterDomains it certs dns01.configs) 0 ∅ with
    | none => .fail .unavailable
    | some configs => pure (configs, needCleanDomains it certs dns01.configs)

/-- The domain of a challenge. -/
def challengeDomain (acmeDomain : Str) (config : DNS01IssuerConfig) : Str := config.subDomain ++ dot :: acmeDomain

/-- The full domain of a config is made right. -/
def withFullDomain (acmeDomain : Str) (config : DNS01IssuerConfig) : DNS01IssuerConfig :=
  { config with fullDomain := challengeDomain acmeDomain config }

/-- The entries of a map. -/
def entriesOf {V : Type} (t : Table Str V) : List (Str × V) := t.entries.map fun e => (e.1, e.2)

/-- The configs of an issuer that is there. -/
def updatedConfigs (acmeDomain : Str) (configs newly : Table Str DNS01IssuerConfig) (needClean : List Str) :
    Table Str DNS01IssuerConfig :=
  Tables.rewriteAll (withFullDomain acmeDomain) (Tables.eraseAll (Tables.setAll configs (entriesOf newly)) needClean)

/-- A certificate with the domains of its challenges; one without domains stays as it is. -/
def withChallenges (it : Iteration) (dns01 : DNS01Issuer) (cert : Cert) : Cert :=
  if cert.domains = [] then cert
  else
    { cert with
      challengeDomains := Tables.setAll cert.challengeDomains
        ((trimPrefixOfWildcardDomains it cert.domains).filterMap fun domain =>
          (dns01.configs.lookup domain).map fun config => (domain, challengeDomain dns01.baseACMEDomain config)) }

/-- The status of a certificate with domains is updated. -/
def updateCert (it : Iteration) (dns01 : DNS01Issuer) (v : StoredCert) : ControllerTask Unit :=
  if Cert.domains v.obj = [] then pure ()
  else invoke (Objects.Call.update (S := schema) Kind.cert ⟨withChallenges it dns01 v.obj, v.version⟩)

/-- The status of the certificates is updated, one after the other. -/
def updateCerts (it : Iteration) (dns01 : DNS01Issuer) : List StoredCert → ControllerTask Unit
  | [] => pure ()
  | v :: certs => do
    updateCert it dns01 v
    updateCerts it dns01 certs

/-- `updateStatusOfCertsUsingDNSIssuer`. -/
def updateStatusOfCertsUsingDNSIssuer (it : Iteration) (dns01 : DNS01Issuer) : ControllerTask Unit := do
  let certs ← getCertsUsingDNSIssuer
  updateCerts it dns01 certs

/-- The key of the issuer. -/
def dnsIssuerKey : Str × Str := ([], defaultDNS01IssuerName)

/-- The issuer is created. -/
def createIssuer (server : Str) (dns01 : DNS01Issuer) : ControllerTask DNS01Issuer := do
  invoke (Objects.Call.create (S := schema) Kind.issuer
    ⟨defaultDNS01IssuerName, some server, ⟨false, none, none, some dns01⟩, false⟩)
  pure dns01

/-- The spec of the issuer is patched. -/
def patchIssuer (v : StoredIssuer) (dns01 : DNS01Issuer) : ControllerTask DNS01Issuer := do
  invoke (Objects.Call.update (S := schema) Kind.issuer
    ⟨{ (v.obj : Issuer) with spec := { Issuer.spec v.obj with dns01 := some dns01 } }, v.version⟩)
  pure dns01

/-- `reconcileIssuer`, for a server and its domain. -/
def reconcileIssuer (server acmeDomain : Str) (it : Iteration) (answers : Answers) : ControllerTask Unit := do
  match ← find (S := schema) Kind.issuer dnsIssuerKey with
  | none => do
    let (newly, _) ← registerDomainsInACMEServer it answers (some ⟨[], ∅⟩)
    let dns01 ← createIssuer server ⟨acmeDomain, newly⟩
    updateStatusOfCertsUsingDNSIssuer it dns01
  | some v => do
    let (newly, needClean) ← registerDomainsInACMEServer it answers (Issuer.spec v.obj).dns01
    match (Issuer.spec v.obj).dns01 with
    | none => .crash
    | some dns01 => do
      let dns01 ← patchIssuer v ⟨acmeDomain, updatedConfigs acmeDomain dns01.configs newly needClean⟩
      updateStatusOfCertsUsingDNSIssuer it dns01

/-! ## 3. What is intended -/

/-- What the cluster has, and the domain of the ACME server. -/
structure World where
  cluster : Cluster
  acmeDomain : Str

/-- What the issuer has registered. -/
def configsOf (s : Cluster) : Option (Table Str DNS01IssuerConfig) :=
  ((s.get Kind.issuer dnsIssuerKey).bind fun v => (Issuer.spec v.obj).dns01).map DNS01Issuer.configs

/-- A domain is challenged for a certificate. -/
def InUse (s : Cluster) (domain : Str) : Prop :=
  ∃ key cert, s.objAt Kind.cert key = some cert ∧ usesDNSIssuer cert = true ∧
    domain ∈ (Cert.domains cert).map trimPrefixOfWildcardDomain

/-- A certificate knows the challenges of its own domains, and no others. -/
def Told (acmeDomain : Str) (configs : Table Str DNS01IssuerConfig) (cert : Cert) : Prop :=
  ∀ domain, cert.challengeDomains.lookup domain =
    if domain ∈ cert.domains.map trimPrefixOfWildcardDomain then
      (configs.lookup domain).map (challengeDomain acmeDomain)
    else none

/-- **The challenges mirror the certificates.** -/
structure Mirrors (w : World) (configs : Table Str DNS01IssuerConfig) : Prop where
  registered : configsOf w.cluster = some configs
  keys : ∀ domain, domain ∈ configs ↔ InUse w.cluster domain
  full : ∀ domain config, configs.lookup domain = some config →
    config.fullDomain = challengeDomain w.acmeDomain config
  told : ∀ key cert, w.cluster.objAt Kind.cert key = some cert → usesDNSIssuer cert = true →
    Told w.acmeDomain configs cert

/-- The credentials of a registration. -/
def credentials (config : DNS01IssuerConfig) : Str × Str × Str × List Str :=
  (config.userName, config.password, config.subDomain, config.allowFrom)

/-- **What is registered and stays in use keeps its credentials.** -/
def Kept (s t : Cluster) (configs : Table Str DNS01IssuerConfig) : Prop :=
  ∀ old domain config, configsOf s = some old → old.lookup domain = some config → InUse t domain →
    ∃ config', configs.lookup domain = some config' ∧ credentials config' = credentials config

/-! ## 4. Registered domains -/

variable {s t : Cluster} {it : Iteration} {answers : Answers} {acmeDomain server domain : Str}

/-- **The last answer for a domain is registered.** -/
theorem lookup_registerACMEDNS {domains : List Str} {i : Nat} {configs configs' : Table Str DNS01IssuerConfig}
    (h : registerACMEDNS answers domains i configs = some configs') (domain : Str) :
    configs'.lookup domain = (lastAnswer answers domain domains i).or (configs.lookup domain) := by
  induction domains generalizing i configs with
  | nil =>
      rw [← Option.some.inj h]
      exact (Option.none_or).symm
  | cons first domains ih =>
      rw [registerACMEDNS] at h
      split at h
      · cases h
      · rename_i config hanswer
        rw [ih h, lastAnswer, Option.or_assoc]
        congr 1
        by_cases hfirst : first = domain
        · rw [if_pos hfirst, hanswer, Option.some_or, hfirst, AList.lookup_insert]
        · rw [if_neg hfirst, Option.none_or, AList.lookup_insert_ne fun e => hfirst e.symm]

theorem mem_registerACMEDNS {domains : List Str} {i : Nat} {configs configs' : Table Str DNS01IssuerConfig}
    (h : registerACMEDNS answers domains i configs = some configs') (domain : Str) :
    domain ∈ configs' ↔ domain ∈ domains ∨ domain ∈ configs := by
  induction domains generalizing i configs with
  | nil =>
      rw [← Option.some.inj h]
      exact (or_iff_right List.not_mem_nil).symm
  | cons first domains ih =>
      rw [registerACMEDNS] at h
      split at h
      · cases h
      · rw [ih h, AList.mem_insert, List.mem_cons]
        tauto

/-- A last answer is an answer. -/
theorem exists_of_lastAnswer {domains : List Str} {i : Nat} {config : DNS01IssuerConfig}
    (h : lastAnswer answers domain domains i = some config) : ∃ j, answers j = some config := by
  induction domains generalizing i with
  | nil => cases h
  | cons first domains ih =>
      rcases Option.or_eq_some_iff.mp h with h | ⟨_, h⟩
      · exact ih h
      · split at h
        · exact ⟨i, h⟩
        · cases h

theorem lookup_entriesOf {V : Type} (t u : Table Str V) (key : Str) :
    (Tables.setAll t (entriesOf u)).lookup key = (u.lookup key).or (t.lookup key) := by
  have hmem : key ∈ (entriesOf u).map Prod.fst ↔ key ∈ u := by
    rw [entriesOf, List.map_map, AList.mem_keys]
    exact Iff.rfl
  cases hlookup : u.lookup key with
  | none =>
      rw [Option.none_or]
      exact Tables.lookup_setAll_of_not_mem fun h => AList.lookup_eq_none.mp hlookup (hmem.mp h)
  | some v =>
      have hthere : key ∈ u := AList.lookup_isSome.mp (by rw [hlookup]; rfl)
      obtain ⟨w, hw, hset⟩ := Tables.exists_lookup_setAll (t := t) (hmem.mpr hthere)
      obtain ⟨⟨k, x⟩, hx, heq⟩ := List.mem_map.mp hw
      obtain ⟨rfl, rfl⟩ := Prod.mk.inj heq
      have hsame := AList.mem_lookup_iff.mpr hx
      rw [Option.mem_def, hlookup] at hsame
      rw [hset, Option.some_or, Option.some.inj hsame]

/-- **The configs of an issuer that was there.** -/
theorem lookup_updatedConfigs (acmeDomain : Str) (configs newly : Table Str DNS01IssuerConfig)
    (needClean : List Str) (domain : Str) :
    (updatedConfigs acmeDomain configs newly needClean).lookup domain =
      (if domain ∈ needClean then none else (newly.lookup domain).or (configs.lookup domain)).map
        (withFullDomain acmeDomain) := by
  rw [updatedConfigs, Tables.lookup_rewriteAll, Tables.lookup_eraseAll, lookup_entriesOf]
  by_cases hclean : domain ∈ needClean
  · rw [if_pos hclean, if_pos hclean]
  · rw [if_neg hclean, if_neg hclean]

theorem mem_domainsOf {certs : List StoredCert} :
    domain ∈ domainsOf it certs ↔
      ∃ v ∈ certs, domain ∈ (Cert.domains v.obj).map trimPrefixOfWildcardDomain := by
  rw [domainsOf, List.mem_flatMap]
  simp only [mem_trimPrefixOfWildcardDomains]

/-- The certificates of the issuer. -/
def dnsCerts (s : Cluster) : List StoredCert := (s.list Kind.cert).filter fun v => usesDNSIssuer v.obj

theorem mem_dnsCerts {v : StoredCert} :
    v ∈ dnsCerts s ↔ s.get Kind.cert v.key = some v ∧ usesDNSIssuer v.obj = true := by
  rw [dnsCerts, List.mem_filter, State.mem_list_iff]

theorem inUse_iff (it : Iteration) : InUse s domain ↔ domain ∈ domainsOf it (dnsCerts s) := by
  rw [mem_domainsOf]
  constructor
  · rintro ⟨key, cert, hcert, huses, hdomain⟩
    obtain ⟨v, hv, rfl⟩ := Option.map_eq_some_iff.mp hcert
    obtain ⟨_, hkey⟩ := State.get_eq_some.mp hv
    rw [← hkey] at hv
    exact ⟨v, mem_dnsCerts.mpr ⟨hv, huses⟩, hdomain⟩
  · rintro ⟨v, hv, hdomain⟩
    obtain ⟨hget, huses⟩ := mem_dnsCerts.mp hv
    exact ⟨v.key, v.obj, by rw [State.objAt, hget]; rfl, huses, hdomain⟩

/-- A domain is to go when it is registered, and not in use. -/
theorem mem_needCleanDomains {configs : Table Str DNS01IssuerConfig} :
    domain ∈ needCleanDomains it (dnsCerts s) configs ↔ domain ∈ configs ∧ ¬ InUse s domain := by
  rw [needCleanDomains, List.mem_filter, ← AList.mem_keys, decide_eq_true_eq, inUse_iff it]

/-- A domain is registered when it is in use, and was not registered. -/
theorem mem_needRegisterDomains {configs : Table Str DNS01IssuerConfig} :
    domain ∈ needRegisterDomains it (dnsCerts s) configs ↔ InUse s domain ∧ domain ∉ configs := by
  rw [needRegisterDomains, List.mem_filter, decide_eq_true_eq, inUse_iff it]

/-! ## 5. The status of the certificates -/

/-- The certificates of the issuer know their challenges; all else is as it was. -/
structure CertsTold (it : Iteration) (dns01 : DNS01Issuer) (s t : Cluster) : Prop where
  others : ∀ l key, l ≠ Kind.cert → t.get l key = s.get l key
  certs : ∀ key, t.objAt Kind.cert key = (s.objAt Kind.cert key).map fun cert =>
    if usesDNSIssuer cert then withChallenges it dns01 cert else cert

theorem name_withChallenges (dns01 : DNS01Issuer) (cert : Cert) :
    (withChallenges it dns01 cert).name = cert.name := by
  unfold withChallenges
  split <;> rfl

/-- **One certificate is told.** -/
theorem returns_updateCert {dns01 : DNS01Issuer} {v : StoredCert} (hv : s.get Kind.cert v.key = some v)
    {Q : Unit → Cluster → Prop} (h : Returns (updateCert it dns01 v) s Q) :
    ∃ t, Q () t ∧ Objects.SameBut (S := schema) Kind.cert v.key s t ∧
      t.objAt Kind.cert v.key = some (withChallenges it dns01 v.obj) := by
  unfold updateCert at h
  split at h
  · rename_i hempty
    have hQ := Calls.returns_done.mp h
    refine ⟨s, hQ, fun _ _ _ => rfl, ?_⟩
    rw [State.objAt, hv, withChallenges, if_pos hempty]
    rfl
  · exact Objects.returns_updated hv (congrArg (Prod.mk []) (name_withChallenges dns01 v.obj)) h

/-- **All of them are told**, one after the other. -/
theorem returns_updateCerts {dns01 : DNS01Issuer} {certs : List StoredCert} {Q : Unit → Cluster → Prop}
    (h : Returns (updateCerts it dns01 certs) s Q) (hnodup : (certs.map Versioned.key).Nodup)
    (hthere : ∀ v ∈ certs, s.get Kind.cert v.key = some v) :
    ∃ t, Q () t ∧ (∀ l key, l ≠ Kind.cert → t.get l key = s.get l key) ∧
      (∀ key, key ∉ certs.map Versioned.key → t.get Kind.cert key = s.get Kind.cert key) ∧
      ∀ v ∈ certs, t.objAt Kind.cert v.key = some (withChallenges it dns01 v.obj) := by
  induction certs generalizing s with
  | nil =>
      have hQ := Calls.returns_done.mp h
      exact ⟨s, hQ, fun _ _ _ => rfl, fun _ _ => rfl, fun _ hv => absurd hv List.not_mem_nil⟩
  | cons v certs ih =>
      rw [List.map_cons, List.nodup_cons] at hnodup
      obtain ⟨hnew, hnodup⟩ := hnodup
      unfold updateCerts at h
      rw [Objects.returns_bind] at h
      obtain ⟨s', h, hbut, hfirst⟩ := returns_updateCert (hthere v List.mem_cons_self) h
      have hothers (u : StoredCert) (hu : u ∈ certs) : u.key ≠ v.key := fun e =>
        hnew (e ▸ List.mem_map_of_mem hu)
      obtain ⟨t, hQ, hkinds, hkeys, htold⟩ := ih h hnodup fun u hu => by
        rw [hbut Kind.cert u.key fun e => hothers u hu e.2]
        exact hthere u (List.mem_cons_of_mem v hu)
      refine ⟨t, hQ, fun l key hl => ?_, fun key hkey => ?_, fun u hu => ?_⟩
      · rw [hkinds l key hl, hbut l key fun e => hl e.1]
      · rw [List.map_cons, List.mem_cons, not_or] at hkey
        rw [hkeys key hkey.2, hbut Kind.cert key fun e => hkey.1 e.2]
      · rcases List.mem_cons.mp hu with rfl | hu
        · rw [State.objAt, hkeys _ hnew, ← State.objAt, hfirst]
        · exact htold u hu

/-- **The certificates are told.** -/
theorem returns_updateStatus {dns01 : DNS01Issuer} {Q : Unit → Cluster → Prop}
    (h : Returns (updateStatusOfCertsUsingDNSIssuer it dns01) s Q) : ∃ t, Q () t ∧ CertsTold it dns01 s t := by
  unfold updateStatusOfCertsUsingDNSIssuer getCertsUsingDNSIssuer at h
  rw [Objects.returns_bind, Objects.returns_bind, Objects.returns_list] at h
  have h := Calls.returns_done.mp h
  have hnodup : ((dnsCerts s).map Versioned.key).Nodup :=
    (List.filter_sublist.map _).nodup (s.objects Kind.cert).distinct
  obtain ⟨t, hQ, hothers, hkeys, htold⟩ := returns_updateCerts h hnodup fun v hv => (mem_dnsCerts.mp hv).1
  refine ⟨t, hQ, hothers, fun key => ?_⟩
  cases hget : s.get Kind.cert key with
  | none =>
      have hnot : key ∉ (dnsCerts s).map Versioned.key := by
        intro hmem
        obtain ⟨v, hv, rfl⟩ := List.mem_map.mp hmem
        rw [(mem_dnsCerts.mp hv).1] at hget
        cases hget
      rw [State.objAt, hkeys key hnot, State.objAt, hget]
      rfl
  | some v =>
      obtain ⟨_, hkey⟩ := State.get_eq_some.mp hget
      subst hkey
      have hbefore : s.objAt Kind.cert v.key = some v.obj := by
        rw [State.objAt, hget]
        rfl
      rw [hbefore, Option.map_some]
      by_cases huses : usesDNSIssuer v.obj = true
      · rw [if_pos huses]
        exact htold v (mem_dnsCerts.mpr ⟨hget, huses⟩)
      · have hnot : v.key ∉ (dnsCerts s).map Versioned.key := by
          intro hmem
          obtain ⟨u, hu, hkey⟩ := List.mem_map.mp hmem
          obtain ⟨hu, huses'⟩ := mem_dnsCerts.mp hu
          rw [hkey, hget] at hu
          rw [Option.some.inj hu] at huses
          exact huses huses'
        rw [if_neg huses, State.objAt, hkeys _ hnot, hget]
        rfl

/-! ## 6. One reconcile -/

/-- The new configs, and the domains that are to go. -/
theorem returns_registerDomains {dns01 : Option DNS01Issuer}
    {Q : Table Str DNS01IssuerConfig × List Str → Cluster → Prop}
    (h : Returns (registerDomainsInACMEServer it answers dns01) s Q) :
    ∃ old newly, dns01 = some old ∧
      registerACMEDNS answers (needRegisterDomains it (dnsCerts s) old.configs) 0 ∅ = some newly ∧
      Q (newly, needCleanDomains it (dnsCerts s) old.configs) s := by
  unfold registerDomainsInACMEServer getCertsUsingDNSIssuer at h
  rw [Objects.returns_bind, Objects.returns_bind, Objects.returns_list] at h
  have h := Calls.returns_done.mp h
  cases dns01 with
  | none => exact absurd h Calls.not_returns_crash
  | some old =>
      simp only at h
      split at h
      · exact absurd h Calls.not_returns_fail
      · rename_i newly hnewly
        have hQ := Calls.returns_done.mp h
        exact ⟨old, newly, rfl, hnewly, hQ⟩

/-- The certificates are those of the state before. -/
theorem certsTold_of_sameBut {dns01 : DNS01Issuer} {s' : Cluster}
    (hbut : Objects.SameBut (S := schema) Kind.issuer dnsIssuerKey s s') (h : CertsTold it dns01 s' t)
    (key : Str × Str) :
    t.objAt Kind.cert key = (s.objAt Kind.cert key).map fun cert =>
      if usesDNSIssuer cert then withChallenges it dns01 cert else cert := by
  have hsame : s'.objAt Kind.cert key = s.objAt Kind.cert key := by
    rw [State.objAt, hbut Kind.cert key fun e => absurd e.1 (by decide), State.objAt]
  rw [h.certs key, hsame]

theorem CertsTold.objAt_issuer {dns01 : DNS01Issuer} (h : CertsTold it dns01 s t) :
    t.objAt Kind.issuer dnsIssuerKey = s.objAt Kind.issuer dnsIssuerKey := by
  rw [State.objAt, h.others Kind.issuer dnsIssuerKey (by decide), State.objAt]

theorem configsOf_eq {issuer : Issuer} {dns01 : DNS01Issuer} (h : s.objAt Kind.issuer dnsIssuerKey = some issuer)
    (hdns01 : issuer.spec.dns01 = some dns01) : configsOf s = some dns01.configs := by
  obtain ⟨v, hv, rfl⟩ := Option.map_eq_some_iff.mp h
  rw [configsOf, hv, Option.bind_some, hdns01]
  rfl

/-- **A reconcile that returns**: the issuer has the configs, and the certificates have been told. -/
structure Reconciled (it : Iteration) (answers : Answers) (acmeDomain : Str) (s t : Cluster)
    (configs newly : Table Str DNS01IssuerConfig) : Prop where
  registered : configsOf t = some configs
  certs : ∀ key, t.objAt Kind.cert key = (s.objAt Kind.cert key).map fun cert =>
    if usesDNSIssuer cert then withChallenges it ⟨acmeDomain, configs⟩ cert else cert
  answered : registerACMEDNS answers
    (needRegisterDomains it (dnsCerts s) ((configsOf s).getD ∅)) 0 ∅ = some newly
  created : s.get Kind.issuer dnsIssuerKey = none → configs = newly
  patched : ∀ old, configsOf s = some old →
    configs = updatedConfigs acmeDomain old newly (needCleanDomains it (dnsCerts s) old)
  cases : s.get Kind.issuer dnsIssuerKey = none ∨ (configsOf s).isSome

theorem returns_reconcileIssuer {Q : Unit → Cluster → Prop}
    (h : Returns (reconcileIssuer server acmeDomain it answers) s Q) :
    ∃ t configs newly, Q () t ∧ Reconciled it answers acmeDomain s t configs newly := by
  unfold reconcileIssuer at h
  rw [Objects.returns_bind, Objects.returns_find] at h
  cases hissuer : s.get Kind.issuer dnsIssuerKey with
  | none =>
      rw [hissuer] at h
      simp only at h
      rw [Objects.returns_bind] at h
      obtain ⟨old, newly, hold, hnewly, h⟩ := returns_registerDomains h
      obtain rfl := Option.some.inj hold
      simp only at h
      unfold createIssuer at h
      rw [Objects.returns_bind, Objects.returns_bind] at h
      obtain ⟨s', h, _, hbut, hcreated⟩ := Objects.returns_created h
      have h := Calls.returns_done.mp h
      obtain ⟨t, hQ, htold⟩ := returns_updateStatus h
      have hnone : configsOf s = none := by
        rw [configsOf, hissuer]
        rfl
      have hregistered := configsOf_eq (htold.objAt_issuer.trans hcreated) rfl
      refine ⟨t, newly, newly, hQ, hregistered, certsTold_of_sameBut hbut htold, ?_, fun _ => rfl, fun old h => ?_,
        Or.inl hissuer⟩
      · rw [hnone]
        exact hnewly
      · rw [hnone] at h
        cases h
  | some v =>
      rw [hissuer] at h
      simp only at h
      rw [Objects.returns_bind] at h
      obtain ⟨old, newly, hold, hnewly, h⟩ := returns_registerDomains h
      rw [hold] at h
      simp only at h
      unfold patchIssuer at h
      rw [Objects.returns_bind, Objects.returns_bind] at h
      have hkey : schema.key (k := Kind.issuer)
          ({ (v.obj : Issuer) with
            spec := { Issuer.spec v.obj with
              dns01 := some ⟨acmeDomain, updatedConfigs acmeDomain old.configs newly
                (needCleanDomains it (dnsCerts s) old.configs)⟩ } } : Issuer) = dnsIssuerKey :=
        (State.get_eq_some.mp hissuer).2
      obtain ⟨s', h, hbut, hpatched⟩ := Objects.returns_updated hissuer hkey h
      have h := Calls.returns_done.mp h
      obtain ⟨t, hQ, htold⟩ := returns_updateStatus h
      have hsome : configsOf s = some old.configs := by
        rw [configsOf, hissuer, Option.bind_some, hold]
        rfl
      refine ⟨t, _, newly, hQ, configsOf_eq (htold.objAt_issuer.trans hpatched) rfl, certsTold_of_sameBut hbut htold,
        ?_, fun h => (by rw [hissuer] at h; cases h), fun old' h => ?_, Or.inr (by rw [hsome]; rfl)⟩
      · rw [hsome]
        exact hnewly
      · rw [hsome] at h
        rw [← Option.some.inj h]

theorem strict_updateCert (dns01 : DNS01Issuer) (v : StoredCert) : Strict .unavailable (updateCert it dns01 v) := by
  unfold updateCert
  split
  · trivial
  · exact Calls.strict_invoke _

theorem strict_updateCerts (dns01 : DNS01Issuer) (certs : List StoredCert) :
    Strict .unavailable (updateCerts it dns01 certs) := by
  induction certs with
  | nil => trivial
  | cons v certs ih => exact Calls.strict_bind (strict_updateCert dns01 v) fun _ => ih

theorem strict_getCerts : Strict .unavailable getCertsUsingDNSIssuer :=
  Calls.strict_bind (Calls.strict_invoke _) fun _ => trivial

theorem strict_updateStatus (dns01 : DNS01Issuer) :
    Strict .unavailable (updateStatusOfCertsUsingDNSIssuer it dns01) :=
  Calls.strict_bind strict_getCerts fun certs => strict_updateCerts dns01 certs

theorem strict_registerDomains (dns01 : Option DNS01Issuer) :
    Strict .unavailable (registerDomainsInACMEServer it answers dns01) := by
  refine Calls.strict_bind strict_getCerts fun certs => ?_
  cases dns01 with
  | none => trivial
  | some dns01 =>
      simp only
      split <;> trivial

/-- After a call that fails, the reconcile fails. -/
theorem strict_reconcileIssuer : Strict .unavailable (reconcileIssuer server acmeDomain it answers) := by
  refine Calls.strict_bind (Objects.strict_find _ _) fun v? => ?_
  cases v? with
  | none =>
      refine Calls.strict_bind (strict_registerDomains _) fun _ => ?_
      refine Calls.strict_bind (Calls.strict_bind (Calls.strict_invoke _) fun _ => trivial) fun _ => ?_
      exact strict_updateStatus _
  | some v =>
      refine Calls.strict_bind (strict_registerDomains _) fun _ => ?_
      cases (Issuer.spec v.obj).dns01 with
      | none => trivial
      | some dns01 =>
          refine Calls.strict_bind (Calls.strict_bind (Calls.strict_invoke _) fun _ => trivial) fun _ => ?_
          exact strict_updateStatus _

/-! ## 7. In step -/

variable {configs newly : Table Str DNS01IssuerConfig}

theorem usesDNSIssuer_withChallenges (dns01 : DNS01Issuer) (cert : Cert) :
    usesDNSIssuer (withChallenges it dns01 cert) = usesDNSIssuer cert := by
  unfold withChallenges
  split <;> rfl

theorem domains_withChallenges (dns01 : DNS01Issuer) (cert : Cert) :
    (withChallenges it dns01 cert).domains = cert.domains := by
  unfold withChallenges
  split <;> rfl

/-- **A certificate is told of its own domains**, and forgets none. -/
theorem lookup_withChallenges {cert : Cert}
    (hthere : ∀ domain ∈ cert.domains.map trimPrefixOfWildcardDomain, domain ∈ configs) (domain : Str) :
    (withChallenges it ⟨acmeDomain, configs⟩ cert).challengeDomains.lookup domain =
      if domain ∈ cert.domains.map trimPrefixOfWildcardDomain then
        (configs.lookup domain).map (challengeDomain acmeDomain)
      else cert.challengeDomains.lookup domain := by
  unfold withChallenges
  split
  · rename_i hempty
    rw [hempty, List.map_nil, if_neg List.not_mem_nil]
  · generalize hes : ((trimPrefixOfWildcardDomains it cert.domains).filterMap fun domain =>
      (configs.lookup domain).map fun config => (domain, challengeDomain acmeDomain config)) = es
    have hmem (d x : Str) : (d, x) ∈ es ↔ d ∈ cert.domains.map trimPrefixOfWildcardDomain ∧
        (configs.lookup d).map (challengeDomain acmeDomain) = some x := by
      rw [← hes, List.mem_filterMap]
      constructor
      · rintro ⟨d', hd', heq⟩
        obtain ⟨config, hconfig, heq⟩ := Option.map_eq_some_iff.mp heq
        obtain ⟨rfl, rfl⟩ := Prod.mk.inj heq
        exact ⟨mem_trimPrefixOfWildcardDomains.mp hd', by rw [hconfig]; rfl⟩
      · rintro ⟨hd, heq⟩
        obtain ⟨config, hconfig, rfl⟩ := Option.map_eq_some_iff.mp heq
        exact ⟨d, mem_trimPrefixOfWildcardDomains.mpr hd, by rw [hconfig]; rfl⟩
    by_cases hdomain : domain ∈ cert.domains.map trimPrefixOfWildcardDomain
    · obtain ⟨config, hconfig⟩ := Option.isSome_iff_exists.mp (AList.lookup_isSome.mpr (hthere domain hdomain))
      have hwritten : domain ∈ es.map Prod.fst :=
        List.mem_map.mpr ⟨(domain, challengeDomain acmeDomain config),
          (hmem _ _).mpr ⟨hdomain, by rw [hconfig]; rfl⟩, rfl⟩
      obtain ⟨x, hx, hlookup⟩ := Tables.exists_lookup_setAll (t := cert.challengeDomains) hwritten
      rw [if_pos hdomain, ((hmem _ _).mp hx).2]
      exact hlookup
    · rw [if_neg hdomain]
      refine Tables.lookup_setAll_of_not_mem fun h => ?_
      obtain ⟨⟨d, x⟩, hx, rfl⟩ := List.mem_map.mp h
      exact hdomain ((hmem d x).mp hx).1

namespace Reconciled

variable (h : Reconciled it answers acmeDomain s t configs newly)
include h

/-- The domains in use are those from before. -/
theorem inUse : InUse t domain ↔ InUse s domain := by
  constructor
  · rintro ⟨key, cert, hcert, huses, hdomain⟩
    rw [h.certs] at hcert
    obtain ⟨before, hbefore, heq⟩ := Option.map_eq_some_iff.mp hcert
    refine ⟨key, before, hbefore, ?_⟩
    split at heq
    · subst heq
      rw [usesDNSIssuer_withChallenges] at huses
      rw [domains_withChallenges] at hdomain
      exact ⟨huses, hdomain⟩
    · subst heq
      exact ⟨huses, hdomain⟩
  · rintro ⟨key, cert, hcert, huses, hdomain⟩
    refine ⟨key, withChallenges it ⟨acmeDomain, configs⟩ cert, ?_, ?_, ?_⟩
    · rw [h.certs, hcert, Option.map_some, if_pos huses]
    · rw [usesDNSIssuer_withChallenges, huses]
    · rwa [domains_withChallenges]

/-- **What is registered is in use**, and the other way round. -/
theorem mem_configs : domain ∈ configs ↔ InUse s domain := by
  have hnewly := mem_registerACMEDNS h.answered domain
  rw [mem_needRegisterDomains, or_iff_left (AList.notMem_empty domain)] at hnewly
  rcases h.cases with hnone | hsome
  · have hconfigs : configsOf s = none := by
      rw [configsOf, hnone]
      rfl
    rw [h.created hnone, hnewly, hconfigs]
    exact and_iff_left (AList.notMem_empty domain)
  · obtain ⟨old, hold⟩ := Option.isSome_iff_exists.mp hsome
    rw [hold, Option.getD_some] at hnewly
    rw [← AList.lookup_isSome, h.patched old hold, lookup_updatedConfigs, Option.isSome_map]
    by_cases huse : InUse s domain
    · rw [if_neg fun hclean => (mem_needCleanDomains.mp hclean).2 huse, Option.isSome_or, Bool.or_eq_true,
        AList.lookup_isSome, AList.lookup_isSome, hnewly]
      tauto
    · refine iff_of_false ?_ huse
      split
      · exact Bool.false_ne_true
      · rename_i hclean
        rw [mem_needCleanDomains, not_and, not_not] at hclean
        rw [Option.isSome_or, Bool.or_eq_true, AList.lookup_isSome, AList.lookup_isSome, hnewly]
        tauto

/-- What is registered and stays in use keeps its credentials. -/
theorem kept : Kept s t configs := by
  intro old domain config hold hlookup huse
  have hthere : domain ∈ old := AList.lookup_isSome.mp (by rw [hlookup]; rfl)
  have hanswered := h.answered
  rw [hold, Option.getD_some] at hanswered
  have hnot : newly.lookup domain = none := by
    rw [AList.lookup_eq_none, mem_registerACMEDNS hanswered, mem_needRegisterDomains]
    rintro (⟨_, hnew⟩ | hempty)
    · exact hnew hthere
    · exact AList.notMem_empty domain hempty
  refine ⟨withFullDomain acmeDomain config, ?_, rfl⟩
  rw [h.patched old hold, lookup_updatedConfigs, hnot, hlookup,
    if_neg fun hclean => (mem_needCleanDomains.mp hclean).2 (h.inUse.mp huse)]
  rfl

/-- **The full domains are right** in an issuer that was there, and in a new one exactly where the answers are. -/
theorem full_iff :
    (∀ domain config, configs.lookup domain = some config → config.fullDomain = challengeDomain acmeDomain config) ↔
      (s.get Kind.issuer dnsIssuerKey = none → ∀ domain config,
        lastAnswer answers domain (needRegisterDomains it (dnsCerts s) ∅) 0 = some config →
          config.fullDomain = challengeDomain acmeDomain config) := by
  rcases h.cases with hnone | hsome
  · have hanswered := h.answered
    have hconfigs : configsOf s = none := by
      rw [configsOf, hnone]
      rfl
    rw [hconfigs, Option.getD_none] at hanswered
    rw [h.created hnone, forall_prop_of_true hnone]
    simp only [lookup_registerACMEDNS hanswered, AList.lookup_empty, Option.or_none]
  · obtain ⟨old, hold⟩ := Option.isSome_iff_exists.mp hsome
    refine iff_of_true (fun domain config hlookup => ?_) fun hnone => ?_
    · rw [h.patched old hold, lookup_updatedConfigs] at hlookup
      obtain ⟨before, _, rfl⟩ := Option.map_eq_some_iff.mp hlookup
      rfl
    · rw [configsOf, hnone] at hold
      cases hold

/-- **The certificates know their own challenges exactly where they knew no others.** -/
theorem told_iff :
    (∀ key cert, t.objAt Kind.cert key = some cert → usesDNSIssuer cert = true → Told acmeDomain configs cert) ↔
      ∀ key cert, s.objAt Kind.cert key = some cert → usesDNSIssuer cert = true →
        ∀ domain ∈ Cert.challengeDomains cert, domain ∈ (Cert.domains cert).map trimPrefixOfWildcardDomain := by
  have hone (key : Str × Str) (cert : Cert) (hcert : s.objAt Kind.cert key = some cert)
      (huses : usesDNSIssuer cert = true) : Told acmeDomain configs (withChallenges it ⟨acmeDomain, configs⟩ cert) ↔
        ∀ domain ∈ cert.challengeDomains, domain ∈ cert.domains.map trimPrefixOfWildcardDomain := by
    unfold Told
    refine forall_congr' fun domain => ?_
    rw [lookup_withChallenges fun d hd => h.mem_configs.mpr ⟨key, cert, hcert, huses, hd⟩, domains_withChallenges]
    by_cases hdomain : domain ∈ cert.domains.map trimPrefixOfWildcardDomain
    · rw [if_pos hdomain, if_pos hdomain]
      exact iff_of_true rfl fun _ => hdomain
    · rw [if_neg hdomain, if_neg hdomain, AList.lookup_eq_none]
      exact ⟨fun hnot hthere => absurd hthere hnot, fun hall hthere => hdomain (hall hthere)⟩
  constructor
  · intro hall key cert hcert huses
    refine (hone key cert hcert huses).mp (hall key _ ?_ ?_)
    · rw [h.certs, hcert, Option.map_some, if_pos huses]
    · rw [usesDNSIssuer_withChallenges, huses]
  · intro hall key cert hcert huses
    rw [h.certs] at hcert
    obtain ⟨before, hbefore, heq⟩ := Option.map_eq_some_iff.mp hcert
    split at heq
    · rename_i hused
      subst heq
      exact (hone key before hbefore hused).mpr (hall key before hbefore hused)
    · rename_i hnot
      subst heq
      exact absurd huses hnot

end Reconciled

/-! ## 8. Runs -/

/-- What happens to the certificates, and to the ACME server. -/
inductive Event where
  | saveCert (name httpsCertIssuer : Str) (domains : List Str)
  | deleteCert (name : Str)
  | setDomain (acmeDomain : Str)

/-- The state behind an event; a certificate that is saved keeps its status. -/
def Event.apply : Event → World → World
  | saveCert name httpsCertIssuer domains, w =>
    ⟨State.put (S := schema) w.cluster Kind.cert
      ⟨name, httpsCertIssuer, domains, ((w.cluster.objAt Kind.cert ([], name)).map Cert.challengeDomains).getD ∅⟩,
      w.acmeDomain⟩
  | deleteCert name, w => ⟨w.cluster.remove Kind.cert ([], name), w.acmeDomain⟩
  | setDomain acmeDomain, w => ⟨w.cluster, acmeDomain⟩

/-- An event, and the reconcile behind it. -/
structure Step where
  event : Event
  it : Iteration
  answers : Answers
  faults : List Fault

/-- The run of the reconcile. -/
def Step.outcome (server : Str) (w : World) (i : Step) : Calls.Outcome Objects.Error Unit × Cluster :=
  Calls.run Objects.serve .unavailable (reconcileIssuer server (i.event.apply w).acmeDomain i.it i.answers) i.faults
    (i.event.apply w).cluster

/-- The state behind it. -/
def step (server : Str) (w : World) (i : Step) : World := ⟨(i.outcome server w).2, (i.event.apply w).acmeDomain⟩

/-- The reconcile returns. -/
def Successful (server : Str) (w : World) (i : Step) : Prop := (i.outcome server w).1 = .returned ()

/-- **Behind a step**, the challenges mirror the certificates, and what stays in use keeps its credentials. -/
def Follows (server : Str) (w : World) (i : Step) : Prop :=
  ∃ configs, Mirrors (step server w i) configs ∧ Kept w.cluster (step server w i).cluster configs

/-- **The condition of a step**: where there is no issuer, the last answers for the domains name the domain of the
    server; and a certificate has been told of none but its own domains. -/
structure Meets (w : World) (i : Step) : Prop where
  answers : (i.event.apply w).cluster.get Kind.issuer dnsIssuerKey = none → ∀ domain config,
    lastAnswer i.answers domain (needRegisterDomains i.it (dnsCerts (i.event.apply w).cluster) ∅) 0 = some config →
      config.fullDomain = challengeDomain (i.event.apply w).acmeDomain config
  told : ∀ key cert, (i.event.apply w).cluster.objAt Kind.cert key = some cert → usesDNSIssuer cert = true →
    ∀ domain ∈ Cert.challengeDomains cert, domain ∈ (Cert.domains cert).map trimPrefixOfWildcardDomain

/-- The events leave the issuer. -/
theorem configsOf_apply (e : Event) (w : World) : configsOf (e.apply w).cluster = configsOf w.cluster := by
  cases e with
  | saveCert name httpsCertIssuer domains =>
      rw [configsOf, Event.apply, State.get_put_of_ne (S := schema) (by decide), configsOf]
  | deleteCert name => rw [configsOf, Event.apply, State.get_remove_of_ne (S := schema) (by decide), configsOf]
  | setDomain acmeDomain => rfl

/-- **One step.** -/
theorem follows_step_iff {w : World} {i : Step} (hi : Successful server w i) : Follows server w i ↔ Meets w i := by
  have hreturns : Returns (reconcileIssuer server (i.event.apply w).acmeDomain i.it i.answers)
      (i.event.apply w).cluster fun _ t => t = (step server w i).cluster :=
    (strict_reconcileIssuer.returns (Prod.ext hi rfl)).mono fun _ _ h => h.2
  obtain ⟨_, configs, newly, rfl, h⟩ := returns_reconcileIssuer hreturns
  constructor
  · rintro ⟨configs', hmirrors, _⟩
    have hsame := hmirrors.registered
    rw [h.registered] at hsame
    obtain rfl := Option.some.inj hsame
    exact ⟨h.full_iff.mp hmirrors.full, h.told_iff.mp hmirrors.told⟩
  · intro hmeets
    refine ⟨configs, ?_, fun old domain config hold => h.kept old domain config (by rw [configsOf_apply, hold])⟩
    exact ⟨h.registered, fun domain => h.mem_configs.trans h.inUse.symm, h.full_iff.mpr hmeets.answers,
      h.told_iff.mpr hmeets.told⟩

/-- **The challenges mirror the certificates behind every step of a run** in which every reconcile returns, exactly
    where the first answers name the domain of the server, and no certificate has been told of a domain that it does
    not have. -/
theorem mirrors_iff (server : Str) (w : World) (steps : List Step)
    (hok : Always (step server) (Successful server) w steps) :
    Always (step server) (Follows server) w steps ↔ Always (step server) Meets w steps :=
  hok.iff_of_invariant (I := fun _ => True) trivial (fun _ _ _ hi => follows_step_iff hi) fun _ _ _ _ _ => trivial

/-- Nothing is there. -/
def nothing : World := ⟨⟨fun _ => ⟨[], List.nodup_nil⟩, 0⟩, str "acme.kalm.dev"⟩

/-- The keys in the order in which they come. -/
def asTheyCome : Iteration := ⟨id, List.Perm.refl⟩

/-- A registration. -/
def registration : DNS01IssuerConfig := ⟨str "u", str "p", str "sub.acme.kalm.dev", str "sub", []⟩

/-- A certificate is saved with domains. -/
def saving (domains : List Str) : Step :=
  ⟨.saveCert (str "web") defaultDNS01IssuerName domains, asTheyCome, fun _ => some registration, []⟩

/-- A certificate with one wildcard domain. -/
theorem mirrors_saved :
    Always (step (str "acme-server")) (Follows (str "acme-server")) nothing [saving [str "*.a.io"]] := by
  refine (mirrors_iff (str "acme-server") nothing [saving [str "*.a.io"]] ⟨rfl, trivial⟩).mpr ⟨⟨?_, ?_⟩, trivial⟩
  · intro _ domain config hlast
    obtain ⟨_, hanswer⟩ := exists_of_lastAnswer hlast
    rw [← Option.some.inj hanswer]
    rfl
  · intro key cert hcert _ domain hdomain
    obtain ⟨v, hv, rfl⟩ := Option.map_eq_some_iff.mp hcert
    have hput := (State.get_put (S := schema) (k := Kind.cert) key).symm.trans hv
    split at hput
    · rw [← Option.some.inj hput] at hdomain
      exact absurd hdomain (AList.notMem_empty domain)
    · cases hput

/-- It has lost a domain that it has been told of. -/
theorem mirrors_fails :
    ¬ ∀ (server : Str) (w : World) (steps : List Step), Always (step server) (Successful server) w steps →
      Always (step server) (Follows server) w steps := by
  intro h
  obtain ⟨_, ⟨_, hmirrors, _⟩, _⟩ := h (str "acme-server") nothing
    [saving [str "a.io", str "b.io"], saving [str "a.io"]] ⟨rfl, rfl, trivial⟩
  have htold := hmirrors.told ([], str "web") _ rfl rfl (str "b.io")
  exact Bool.noConfusion (congrArg Option.isSome htold : true = false)

end Kalm.Certs
