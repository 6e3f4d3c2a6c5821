/-
  File:      Kalm/Certs/ClusterIssuers.lean
  Subject:   CLUSTER ISSUERS: `Reconcile` of controller/controllers/httpscertissuer_controller.go gives cert-manager a
             ClusterIssuer for every HttpsCertIssuer, and the accounts of the ACME-DNS server.

  * `marshalConfigs`, `secKey` -- the text of the accounts; the key of an API token that the iteration ends with;
  * `reconcileCAForTest`, `reconcileACMECloudFlare`, `reconcileHTTP01`, `reconcileDNS01` -- the four kinds;
  * `wantedSpec`, `Right`, `Followed` -- the ClusterIssuer that an issuer alone decides, and controls;
  * `returns_reconcileCAForTest` and its siblings -- what a reconcile does, for each kind;
  * `clusterIssuersFollow_iff` -- the cluster issuers follow the issuers along a run exactly where every event meets a
    condition of its kind.
-/
import Kalm.Certs.Objects
import Kalm.Go.Json
import Kalm.Lib.Runs
import Kalm.Lib.Served
import Mathlib.Data.List.Sort

namespace Kalm.Certs

open Calls (Attentive Ends Fault)
open Mirror (Table)
open Objects (Returns SameBut State find invoke save)
open Runs (Always)

/-! ## 1. Texts and keys -/

/-- A JSON object whose values are marshalled. -/
def marshalObject (members : List (Str × Str)) : Str :=
  123 :: [comma].intercalate (members.map fun m => stringLiteral m.1 ++ colon :: m.2) ++ [125]

/-- `json.Marshal` of a config; `allowfrom` is left out when it is empty. -/
def marshalConfig (config : DNS01IssuerConfig) : Str :=
  marshalObject ([(str "username", stringLiteral config.userName), (str "password", stringLiteral config.password),
    (str "fulldomain", stringLiteral config.fullDomain), (str "subdomain", stringLiteral config.subDomain)] ++
    if config.allowFrom = [] then []
    else [(str "allowfrom", 91 :: [comma].intercalate (config.allowFrom.map stringLiteral) ++ [93])])

/-- `json.Marshal` of the configs: the keys are sorted. -/
def marshalConfigs (configs : Table Str DNS01IssuerConfig) : Str :=
  marshalObject ((configs.entries.map fun e => (e.1, marshalConfig e.2)).insertionSort fun a b => a.1 ≤ b.1)

/-- The keys that have a value. -/
def keysWithValue (data : Table Str (Option Str)) : List Str := data.keys.filter fun k => (data.lookup k).join.isSome

/-- `secKey`: the last key with a value, as the keys come; empty where there is none. -/
def secKey (it : Iteration) (data : Table Str (Option Str)) : Str :=
  ((it.order data.keys).filter fun k => (data.lookup k).join.isSome).getLastD []

/-! ## 2. The four kinds -/

/-- The environment of the controller: `letsEncryptACMEIssuerServerURL`, and `ACME_DNS_HOST`. -/
structure Environment where
  serverURL : Str
  acmeDNSHost : Str

/-- `CertManagerNamespace`. -/
def certManagerNamespace : Str := str "cert-manager"

/-- `getPrvKeyNameForIssuer`. -/
def getPrvKeyNameForIssuer (name : Str) : Str := str "kalm-prvkey-" ++ name

/-- `getSVCNameForACMEDNS`. -/
def getSVCNameForACMEDNS (env : Environment) : Str :=
  if env.acmeDNSHost ≠ [] then env.acmeDNSHost else str "acme-server.kalm-system.svc.cluster.local"

/-- The secret of the accounts, and the key in it. -/
def acmeSecretName : Str := str "cert-manager-acme-secret"
def acmeSecretKey : Str × Str := (certManagerNamespace, acmeSecretName)
def acmeAccountsKey : Str := str "acmedns.json"

/-- The ClusterIssuers that are expected, for each kind. -/
def caSpec (name : Str) : ClusterIssuerSpec := .ca name

def cloudFlareSpec (env : Environment) (name : Str) (acme : ACMECloudFlareIssuer) (key : Str) : ClusterIssuerSpec :=
  .acme acme.email env.serverURL (getPrvKeyNameForIssuer name) (.cloudflare acme.email acme.apiTokenSecretName key)

def http01Spec (env : Environment) (name email : Str) : ClusterIssuerSpec :=
  .acme email env.serverURL (getPrvKeyNameForIssuer name) (.http01Ingress (str "istio"))

def dns01Spec (env : Environment) (name : Str) : ClusterIssuerSpec :=
  .acme [] env.serverURL (getPrvKeyNameForIssuer name)
    (.acmeDNS (str "http://" ++ getSVCNameForACMEDNS env) acmeSecretName acmeAccountsKey)

/-- The ClusterIssuer is created, or gets the spec. -/
def saveClusterIssuer (name : Str) (owner : Option Str) (spec : ClusterIssuerSpec) : ControllerTask Unit := do
  let loaded ← find (S := schema) Kind.clusterIssuer ([], name)
  save (S := schema) Kind.clusterIssuer loaded ⟨name, owner, spec⟩ fun c => { (c : ClusterIssuer) with spec := spec }

/-- The secret of a CA, with the key and the certificate that are generated. -/
def caSecret (generated : Str × Str) (name : Str) : CertSecret :=
  ⟨certManagerNamespace, name, some name,
    ((∅ : Table Str (Option Str)).insert (str "tls.key") (some generated.1)).insert (str "tls.crt")
      (some generated.2)⟩

/-- `ReconcileCAForTest`. The controller reference is set on `expectedClusterIssuer`, behind the copy that is created.
    A ClusterIssuer that is there stays as it is: the update stands in the branch of a failed get, and without a
    resource version it is refused. -/
def reconcileCAForTest (generated : Str × Str) (issuer : Issuer) : ControllerTask Unit := do
  Objects.ensure (S := schema) Kind.secret (caSecret generated issuer.name)
  Objects.ensure (S := schema) Kind.clusterIssuer ⟨issuer.name, none, caSpec issuer.name⟩

/-- The status is not OK; what becomes of the update is not looked at. -/
def markFailed (v : StoredIssuer) : ControllerTask Unit :=
  if (v.obj : Issuer).ok then
    .call (.update Kind.issuer ⟨{ (v.obj : Issuer) with ok := false }, v.version⟩) fun _ => .done ()
  else .done ()

/-- `ReconcileACMECloudFlare`. -/
def reconcileACMECloudFlare (env : Environment) (it : Iteration) (v : StoredIssuer) (acme : ACMECloudFlareIssuer) :
    ControllerTask Unit :=
  .call (.get Kind.secret (certManagerNamespace, acme.apiTokenSecretName)) fun
    | .error e => do
      markFailed v
      .fail e
    | .ok sec =>
      if secKey it (sec.obj : CertSecret).data = [] then do
        markFailed v
        .fail .invalid
      else do
        saveClusterIssuer (v.obj : Issuer).name (some (v.obj : Issuer).name)
          (cloudFlareSpec env (v.obj : Issuer).name acme (secKey it (sec.obj : CertSecret).data))
        invoke (Objects.Call.update (S := schema) Kind.issuer ⟨{ (v.obj : Issuer) with ok := true }, v.version⟩)

/-- `ReconcileHTTP01`: no controller reference is set. -/
def reconcileHTTP01 (env : Environment) (issuer : Issuer) (email : Str) : ControllerTask Unit :=
  saveClusterIssuer issuer.name none (http01Spec env issuer.name email)

/-- `reconcileSecForDNS01Issuer`. -/
def reconcileSecForDNS01Issuer (issuer : Issuer) (dns01 : DNS01Issuer) : ControllerTask Unit := do
  let loaded ← find (S := schema) Kind.secret acmeSecretKey
  let data := (∅ : Table Str (Option Str)).insert acmeAccountsKey (some (marshalConfigs dns01.configs))
  save (S := schema) Kind.secret loaded ⟨certManagerNamespace, acmeSecretName, some issuer.name, data⟩
    fun sec => { (sec : CertSecret) with data := data }

/-- `ReconcileDNS01`. -/
def reconcileDNS01 (env : Environment) (issuer : Issuer) (dns01 : DNS01Issuer) : ControllerTask Unit := do
  saveClusterIssuer issuer.name (some issuer.name) (dns01Spec env issuer.name)
  reconcileSecForDNS01Issuer issuer dns01

/-- The branch of an issuer. -/
def reconcileSpec (env : Environment) (it : Iteration) (generated : Str × Str) (v : StoredIssuer) :
    ControllerTask Unit :=
  if (Issuer.spec v.obj).caForTest then reconcileCAForTest generated v.obj
  else
    match (Issuer.spec v.obj).acmeCloudFlare, (Issuer.spec v.obj).http01, (Issuer.spec v.obj).dns01 with
    | some acme, _, _ => reconcileACMECloudFlare env it v acme
    | none, some email, _ => reconcileHTTP01 env v.obj email
    | none, none, some dns01 => reconcileDNS01 env v.obj dns01
    | none, none, none => pure ()

/-- `HttpsCertIssuerReconciler.Reconcile`. -/
def reconcile (env : Environment) (it : Iteration) (generated : Str × Str) (name : Str) : ControllerTask Unit := do
  match ← find (S := schema) Kind.ns ([], certManagerNamespace) with
  | none => pure ()
  | some _ => do
    match ← find (S := schema) Kind.issuer ([], name) with
    | none => pure ()
    | some v => reconcileSpec env it generated v

/-! ## 3. What is intended -/

/-- The spec of the ClusterIssuer of an issuer, decided by the name and the spec of the issuer alone; `tokenKey` is
    the key of the API token in a secret of that name. -/
def wantedSpec (env : Environment) (tokenKey : Str → Str) (name : Str) (spec : IssuerSpec) :
    Option ClusterIssuerSpec :=
  if spec.caForTest then some (caSpec name)
  else
    match spec.acmeCloudFlare, spec.http01, spec.dns01 with
    | some acme, _, _ => some (cloudFlareSpec env name acme (tokenKey acme.apiTokenSecretName))
    | none, some email, _ => some (http01Spec env name email)
    | none, none, some _ => some (dns01Spec env name)
    | none, none, none => none

/-- The ClusterIssuer of a name. -/
def clusterIssuerOf (s : Cluster) (name : Str) : Option ClusterIssuer := s.objAt Kind.clusterIssuer ([], name)

/-- The spec of the issuer of a name. -/
def specOf (s : Cluster) (name : Str) : Option IssuerSpec := (s.objAt Kind.issuer ([], name)).map Issuer.spec

/-- The accounts that cert-manager is given for the ACME-DNS server. -/
def accountsOf (s : Cluster) : Option Str :=
  (s.objAt Kind.secret acmeSecretKey).bind fun sec => ((CertSecret.data sec).lookup acmeAccountsKey).join

/-- **The ClusterIssuer of an issuer is right**: it has the spec that the issuer decides, the issuer is its
    controller, and the accounts of a DNS01 issuer are its own. -/
structure Right (env : Environment) (tokenKey : Str → Str) (s : Cluster) (name : Str) (spec : IssuerSpec) : Prop where
  issued : ∃ c, wantedSpec env tokenKey name spec = some c ∧ clusterIssuerOf s name = some ⟨name, some name, c⟩
  accounts : ∀ dns01, spec.dns01 = some dns01 → accountsOf s = some (marshalConfigs dns01.configs)

/-- **The cluster issuers follow the issuers.** -/
def Followed (env : Environment) (tokenKey : Str → Str) (s : Cluster) : Prop :=
  ∀ name spec, specOf s name = some spec → Right env tokenKey s name spec

/-- The issuers have been accepted. -/
def Accepted (adm : Admission) (s : Cluster) : Prop :=
  ∀ name spec, specOf s name = some spec → spec.validate adm = []

/-- An issuer controls the ClusterIssuer of its name, if there is one. -/
def Controlled (s : Cluster) (name : Str) : Prop := ∀ c, clusterIssuerOf s name = some c → c.owner = some name

/-! ## 4. The key of a token -/

variable {env : Environment} {tokenKey : Str → Str} {it : Iteration} {s t : Cluster} {name : Str} {spec : IssuerSpec}

theorem nodup_keysWithValue (data : Table Str (Option Str)) : (keysWithValue data).Nodup :=
  List.Nodup.filter _ data.nodupKeys

/-- **Every iteration ends with the same key exactly where at most one key has a value.** -/
theorem secKey_eq_iff (data : Table Str (Option Str)) :
    (∀ it it', secKey it data = secKey it' data) ↔ (keysWithValue data).length ≤ 1 := by
  constructor
  · intro hall
    have hnodup := nodup_keysWithValue data
    have hreversed := hall ⟨id, List.Perm.refl⟩ ⟨List.reverse, List.reverse_perm⟩
    have hfirst : secKey ⟨id, List.Perm.refl⟩ data = (keysWithValue data).getLastD [] := rfl
    have hlast : secKey ⟨List.reverse, List.reverse_perm⟩ data = (keysWithValue data).reverse.getLastD [] := by
      rw [secKey, List.filter_reverse, keysWithValue]
    rw [hfirst, hlast] at hreversed
    cases hkeys : keysWithValue data with
    | nil => exact Nat.zero_le 1
    | cons a rest =>
        rcases rest.eq_nil_or_concat with rfl | ⟨init, b, rfl⟩
        · exact Nat.le_refl 1
        -- of two keys, the first and the last are different
        · rw [hkeys] at hreversed hnodup
          have hsame : b = a := by
            rw [List.concat_eq_append, List.reverse_cons, List.getLastD_concat, ← List.cons_append,
              List.getLastD_concat] at hreversed
            exact hreversed
          rw [List.nodup_cons, hsame] at hnodup
          exact absurd (by simp) hnodup.1
  · intro hlength it it'
    have hperm (it : Iteration) :
        ((it.order data.keys).filter fun k => (data.lookup k).join.isSome).Perm (keysWithValue data) :=
      (it.perm data.keys).filter _
    have hone (it : Iteration) : secKey it data = (keysWithValue data).getLastD [] := by
      unfold secKey
      cases hkeys : keysWithValue data with
      | nil =>
          have h := hperm it
          rw [hkeys] at h
          rw [h.eq_nil]
      | cons a rest =>
          have h := hperm it
          rw [hkeys] at h hlength
          obtain rfl : rest = [] := List.eq_nil_of_length_eq_zero (Nat.le_zero.mp (Nat.le_of_succ_le_succ hlength))
          rw [List.perm_singleton.mp h]
    rw [hone it, hone it']

/-! ## 5. The kinds -/

/-- **An issuer that is accepted is of one kind.** -/
theorem accepted_cases {adm : Admission} (h : spec.validate adm = []) :
    spec = ⟨true, none, none, none⟩ ∨ (∃ acme, spec = ⟨false, some acme, none, none⟩) ∨
      (∃ email, spec = ⟨false, none, some email, none⟩) ∨ ∃ dns01, spec = ⟨false, none, none, some dns01⟩ := by
  have hone : spec.setConfigCnt = 1 := by
    unfold IssuerSpec.validate at h
    simp only [List.append_eq_nil_iff, reportIf_eq_nil] at h
    omega
  obtain ⟨caForTest, acmeCloudFlare, http01, dns01⟩ := spec
  cases caForTest <;> cases acmeCloudFlare <;> cases http01 <;> cases dns01 <;>
    simp [IssuerSpec.setConfigCnt] at hone ⊢

/-! ## 6. What a reconcile leaves -/

/-- The specs of the issuers, and the ClusterIssuers of the others, stay. -/
structure Left (name : Str) (s t : Cluster) : Prop where
  specs : ∀ n, specOf t n = specOf s n
  others : ∀ n, n ≠ name → clusterIssuerOf t n = clusterIssuerOf s n

theorem Left.trans {u : Cluster} (hst : Left name s t) (htu : Left name t u) : Left name s u :=
  ⟨fun n => (htu.specs n).trans (hst.specs n), fun n hn => (htu.others n hn).trans (hst.others n hn)⟩

theorem specOf_of_sameBut {k : Kind} {key : Str × Str} (h : SameBut (S := schema) k key s t) (hk : k ≠ Kind.issuer)
    (n : Str) : specOf t n = specOf s n := by
  rw [specOf, State.objAt, h Kind.issuer ([], n) fun e => hk e.1.symm, specOf, State.objAt]

theorem accountsOf_of_sameBut {k : Kind} {key : Str × Str} (h : SameBut (S := schema) k key s t)
    (hne : ¬ (Kind.secret = k ∧ acmeSecretKey = key)) : accountsOf t = accountsOf s := by
  rw [accountsOf, State.objAt, h Kind.secret acmeSecretKey hne, accountsOf, State.objAt]

theorem clusterIssuerOf_of_sameBut {k : Kind} {key : Str × Str} (h : SameBut (S := schema) k key s t) {n : Str}
    (hne : ¬ (Kind.clusterIssuer = k ∧ ([], n) = key)) : clusterIssuerOf t n = clusterIssuerOf s n := by
  rw [clusterIssuerOf, State.objAt, h Kind.clusterIssuer ([], n) hne, clusterIssuerOf, State.objAt]

theorem left_of_clusterIssuer (h : SameBut (S := schema) Kind.clusterIssuer ([], name) s t) : Left name s t := by
  refine ⟨specOf_of_sameBut h (by decide), fun n hn => clusterIssuerOf_of_sameBut h fun e => hn ?_⟩
  exact congrArg Prod.snd e.2

theorem left_of_secret {key : Str × Str} (h : SameBut (S := schema) Kind.secret key s t) : Left name s t :=
  ⟨specOf_of_sameBut h (by decide), fun _ _ => clusterIssuerOf_of_sameBut h fun e => absurd e.1 (by decide)⟩

/-- **The ClusterIssuer is created, or gets the spec**, and nothing else has changed. -/
theorem returns_saveClusterIssuer {owner : Option Str} {c : ClusterIssuerSpec} {Q : Unit → Cluster → Prop}
    (h : Returns (saveClusterIssuer name owner c) s Q) :
    ∃ t, Q () t ∧ SameBut (S := schema) Kind.clusterIssuer ([], name) s t ∧
      clusterIssuerOf t name =
        some ((clusterIssuerOf s name).elim ⟨name, owner, c⟩ fun old => { old with spec := c }) := by
  unfold saveClusterIssuer at h
  rw [Objects.returns_bind, Objects.returns_find] at h
  have hnew : schema.key (k := Kind.clusterIssuer) (⟨name, owner, c⟩ : ClusterIssuer) = ([], name) := rfl
  have hupdated (obj : ClusterIssuer) (hobj : schema.key (k := Kind.clusterIssuer) obj = ([], name)) :
      schema.key (k := Kind.clusterIssuer) ({ obj with spec := c } : ClusterIssuer) = ([], name) := hobj
  obtain ⟨_, hQ⟩ := (Objects.returns_save hnew hupdated).mp h
  exact ⟨_, hQ, Objects.sameBut_saved hnew hupdated, Objects.objAt_saved hnew hupdated⟩

/-- The secret of another object is created, if it is not there: accounts that are there stay. -/
theorem accountsOf_ensured {sec : CertSecret} {text : Str} (h : accountsOf s = some text) :
    accountsOf (s.ensured (S := schema) (k := Kind.secret) sec) = some text := by
  by_cases hkey : acmeSecretKey = schema.key (k := Kind.secret) sec
  · obtain ⟨old, hold, _⟩ := Option.bind_eq_some_iff.mp h
    have hensured := Objects.objAt_ensured (S := schema) s Kind.secret sec
    rw [← hkey, hold] at hensured
    rw [accountsOf, hold] at h
    rw [accountsOf, hensured]
    exact h
  · rw [accountsOf_of_sameBut (Objects.sameBut_ensured (S := schema) s Kind.secret sec) fun e => hkey e.2, h]

theorem returns_reconcileCAForTest {generated : Str × Str} {issuer : Issuer} {Q : Unit → Cluster → Prop}
    (h : Returns (reconcileCAForTest generated issuer) s Q) :
    ∃ t, Q () t ∧ Left issuer.name s t ∧
      clusterIssuerOf t issuer.name =
        some ((clusterIssuerOf s issuer.name).getD ⟨issuer.name, none, caSpec issuer.name⟩) ∧
      ∀ text, accountsOf s = some text → accountsOf t = some text := by
  unfold reconcileCAForTest at h
  rw [Objects.returns_bind, Objects.returns_ensure rfl, Objects.returns_ensure rfl] at h
  have hsecret := Objects.sameBut_ensured (S := schema) s Kind.secret (caSecret generated issuer.name)
  have hissuer := Objects.sameBut_ensured (S := schema)
    (s.ensured (S := schema) (k := Kind.secret) (caSecret generated issuer.name)) Kind.clusterIssuer
    ⟨issuer.name, none, caSpec issuer.name⟩
  refine ⟨_, h, (left_of_secret hsecret).trans (left_of_clusterIssuer hissuer), ?_, fun text htext => ?_⟩
  · rw [← clusterIssuerOf_of_sameBut hsecret fun e => absurd e.1 (by decide)]
    exact Objects.objAt_ensured (S := schema) _ Kind.clusterIssuer ⟨issuer.name, none, caSpec issuer.name⟩
  · rw [accountsOf_of_sameBut hissuer fun e => absurd e.1 (by decide)]
    exact accountsOf_ensured htext

theorem returns_reconcileHTTP01 {issuer : Issuer} {email : Str} {Q : Unit → Cluster → Prop}
    (h : Returns (reconcileHTTP01 env issuer email) s Q) :
    ∃ t, Q () t ∧ Left issuer.name s t ∧
      clusterIssuerOf t issuer.name = some ((clusterIssuerOf s issuer.name).elim
        ⟨issuer.name, none, http01Spec env issuer.name email⟩
        fun old => { old with spec := http01Spec env issuer.name email }) ∧
      accountsOf t = accountsOf s := by
  obtain ⟨t, hQ, hbut, hissued⟩ := returns_saveClusterIssuer h
  exact ⟨t, hQ, left_of_clusterIssuer hbut, hissued, accountsOf_of_sameBut hbut fun e => absurd e.1 (by decide)⟩

/-- **The accounts are those of the issuer** that was reconciled last. -/
theorem returns_reconcileDNS01 {issuer : Issuer} {dns01 : DNS01Issuer} {Q : Unit → Cluster → Prop}
    (h : Returns (reconcileDNS01 env issuer dns01) s Q) :
    ∃ t, Q () t ∧ Left issuer.name s t ∧
      clusterIssuerOf t issuer.name = some ((clusterIssuerOf s issuer.name).elim
        ⟨issuer.name, some issuer.name, dns01Spec env issuer.name⟩
        fun old => { old with spec := dns01Spec env issuer.name }) ∧
      accountsOf t = some (marshalConfigs dns01.configs) := by
  unfold reconcileDNS01 at h
  rw [Objects.returns_bind] at h
  obtain ⟨s', h, hbut, hissued⟩ := returns_saveClusterIssuer h
  unfold reconcileSecForDNS01Issuer at h
  rw [Objects.returns_bind, Objects.returns_find] at h
  generalize hdata : (∅ : Table Str (Option Str)).insert acmeAccountsKey (some (marshalConfigs dns01.configs)) = data
    at h
  have hnew : schema.key (k := Kind.secret)
      (⟨certManagerNamespace, acmeSecretName, some issuer.name, data⟩ : CertSecret) = acmeSecretKey := rfl
  have hupdated (obj : CertSecret) (hobj : schema.key (k := Kind.secret) obj = acmeSecretKey) :
      schema.key (k := Kind.secret) ({ obj with data := data } : CertSecret) = acmeSecretKey := hobj
  obtain ⟨_, hQ⟩ := (Objects.returns_save hnew hupdated).mp h
  have hsecret := Objects.sameBut_saved (s := s') hnew hupdated
  refine ⟨_, hQ, (left_of_clusterIssuer hbut).trans (left_of_secret hsecret), ?_, ?_⟩
  · rw [clusterIssuerOf_of_sameBut hsecret fun e => absurd e.1 (by decide), hissued]
  · have hlookup : (data.lookup acmeAccountsKey).join = some (marshalConfigs dns01.configs) := by
      rw [← hdata, AList.lookup_insert]
      rfl
    rw [accountsOf, Objects.objAt_saved hnew hupdated, Option.bind_some]
    cases s'.objAt Kind.secret acmeSecretKey with
    | none => exact hlookup
    | some old => exact hlookup

theorem not_returns_markFailed {v : StoredIssuer} {e : Objects.Error} {Q : Unit → Cluster → Prop} :
    ¬ Returns (markFailed v >>= fun _ => (.fail e : ControllerTask Unit)) s Q := by
  rintro ⟨a, t, hrun, _⟩
  have hends : Ends (markFailed v >>= fun _ => (.fail e : ControllerTask Unit)) := Calls.ends_bind fun _ => trivial
  exact hends.not_returned [] a (congrArg Prod.fst hrun)

theorem returns_reconcileACMECloudFlare {v : StoredIssuer} {acme : ACMECloudFlareIssuer} {Q : Unit → Cluster → Prop}
    (hv : s.get Kind.issuer ([], (v.obj : Issuer).name) = some v)
    (h : Returns (reconcileACMECloudFlare env it v acme) s Q) :
    ∃ t sec, Q () t ∧ Left (v.obj : Issuer).name s t ∧
      s.objAt Kind.secret (certManagerNamespace, acme.apiTokenSecretName) = some sec ∧
      clusterIssuerOf t (v.obj : Issuer).name = some ((clusterIssuerOf s (v.obj : Issuer).name).elim
        ⟨(v.obj : Issuer).name, some (v.obj : Issuer).name,
          cloudFlareSpec env (v.obj : Issuer).name acme (secKey it (CertSecret.data sec))⟩
        fun old =>
          { old with spec := cloudFlareSpec env (v.obj : Issuer).name acme (secKey it (CertSecret.data sec)) }) ∧
      accountsOf t = accountsOf s := by
  unfold reconcileACMECloudFlare at h
  rw [Returns, Calls.returns_call] at h
  cases hsec : s.get Kind.secret (certManagerNamespace, acme.apiTokenSecretName) with
  | none =>
      have hserve : Objects.serve (.get Kind.secret (certManagerNamespace, acme.apiTokenSecretName)) s =
          (.error .notFound, s) := by
        rw [Objects.serve, hsec]
      rw [hserve] at h
      exact absurd h not_returns_markFailed
  | some sec =>
      have hserve : Objects.serve (.get Kind.secret (certManagerNamespace, acme.apiTokenSecretName)) s =
          (.ok sec, s) := by
        rw [Objects.serve, hsec]
      rw [hserve] at h
      simp only at h
      split at h
      · exact absurd h not_returns_markFailed
      · have h := Objects.returns_bind.mp h
        obtain ⟨s', h, hbut, hissued⟩ := returns_saveClusterIssuer h
        have hv' : s'.get Kind.issuer ([], (v.obj : Issuer).name) = some v := by
          rw [hbut Kind.issuer _ fun e => absurd e.1 (by decide), hv]
        have hkey : schema.key (k := Kind.issuer) ({ (v.obj : Issuer) with ok := true } : Issuer) =
            ([], (v.obj : Issuer).name) := rfl
        obtain ⟨t, hQ, hstatus, hmarked⟩ := Objects.returns_updated hv' hkey h
        have hleft : Left (v.obj : Issuer).name s' t := by
          refine ⟨fun n => ?_, fun n _ => clusterIssuerOf_of_sameBut hstatus fun e => absurd e.1 (by decide)⟩
          by_cases hn : n = (v.obj : Issuer).name
          · rw [specOf, hn, hmarked, specOf, State.objAt, hv']
            rfl
          · rw [specOf, State.objAt, hstatus Kind.issuer ([], n) fun e => hn (congrArg Prod.snd e.2), specOf,
              State.objAt]
        refine ⟨t, sec.obj, hQ, (left_of_clusterIssuer hbut).trans hleft, by rw [State.objAt, hsec]; rfl, ?_, ?_⟩
        · rw [clusterIssuerOf_of_sameBut hstatus fun e => absurd e.1 (by decide), hissued]
        · rw [accountsOf_of_sameBut hstatus fun e => absurd e.1 (by decide),
            accountsOf_of_sameBut hbut fun e => absurd e.1 (by decide)]

/-! ## 7. One reconcile -/

theorem attentive_saveClusterIssuer (name : Str) (owner : Option Str) (c : ClusterIssuerSpec) :
    Attentive .unavailable (saveClusterIssuer name owner c) :=
  (Calls.strict_bind (Objects.strict_find _ _) fun _ => Objects.strict_save _ _ _ _).attentive

theorem attentive_reconcileACMECloudFlare (v : StoredIssuer) (acme : ACMECloudFlareIssuer) :
    Attentive .unavailable (reconcileACMECloudFlare env it v acme) := by
  have hends (e : Objects.Error) : Ends (markFailed v >>= fun _ => (.fail e : ControllerTask Unit)) :=
    Calls.ends_bind fun _ => trivial
  refine ⟨hends .unavailable, fun r => ?_⟩
  cases r with
  | error e => exact (hends e).attentive
  | ok sec =>
      simp only
      split
      · exact (hends .invalid).attentive
      · exact Calls.attentive_bind (attentive_saveClusterIssuer _ _ _) fun _ => (Calls.strict_invoke _).attentive

/-- After a call that fails, the reconcile does not return. -/
theorem attentive_reconcile (generated : Str × Str) (name : Str) :
    Attentive .unavailable (reconcile env it generated name) := by
  refine Calls.attentive_bind (Objects.strict_find _ _).attentive fun ns => ?_
  cases ns with
  | none => trivial
  | some _ =>
      refine Calls.attentive_bind (Objects.strict_find _ _).attentive fun v? => ?_
      cases v? with
      | none => trivial
      | some v =>
          simp only
          unfold reconcileSpec
          split
          · exact Calls.attentive_bind (Objects.strict_ensure _ _).attentive fun _ =>
              (Objects.strict_ensure _ _).attentive
          · split
            · exact attentive_reconcileACMECloudFlare v _
            · exact attentive_saveClusterIssuer _ _ _
            · exact Calls.attentive_bind (attentive_saveClusterIssuer _ _ _) fun _ =>
                (Calls.strict_bind (Objects.strict_find _ _) fun _ => Objects.strict_save _ _ _ _).attentive
            · trivial

/-- **What another issuer needs** is left alone, but for the accounts. -/
theorem followed_iff_of_left (hleft : Left name s t) (hspec : specOf s name = some spec)
    (hothers : ∀ n spec', n ≠ name → specOf s n = some spec' → Right env tokenKey s n spec') :
    Followed env tokenKey t ↔ Right env tokenKey t name spec ∧
      ∀ n spec' dns01, n ≠ name → specOf s n = some spec' → spec'.dns01 = some dns01 →
        accountsOf t = some (marshalConfigs dns01.configs) := by
  constructor
  · intro h
    refine ⟨h name spec (by rw [hleft.specs, hspec]), fun n spec' dns01 _ hspec' hdns01 => ?_⟩
    exact (h n spec' (by rw [hleft.specs, hspec'])).accounts dns01 hdns01
  · rintro ⟨hown, haccounts⟩ n spec' hspec'
    rw [hleft.specs] at hspec'
    by_cases hn : n = name
    · subst hn
      rw [hspec] at hspec'
      rwa [← Option.some.inj hspec']
    · obtain ⟨c, hc, hissued⟩ := (hothers n spec' hn hspec').issued
      exact ⟨⟨c, hc, by rw [hleft.others n hn, hissued]⟩, fun dns01 => haccounts n spec' dns01 hn hspec'⟩

/-- The accounts are as they were. -/
theorem followed_iff_of_accounts (hleft : Left name s t) (hspec : specOf s name = some spec)
    (hothers : ∀ n spec', n ≠ name → specOf s n = some spec' → Right env tokenKey s n spec')
    (haccounts : ∀ text, accountsOf s = some text → accountsOf t = some text) :
    Followed env tokenKey t ↔ Right env tokenKey t name spec := by
  refine (followed_iff_of_left hleft hspec hothers).trans (and_iff_left ?_)
  exact fun n spec' dns01 hn hspec' hdns01 => haccounts _ ((hothers n spec' hn hspec').accounts dns01 hdns01)

/-- A ClusterIssuer has its name. -/
theorem name_of_clusterIssuerOf {c : ClusterIssuer} (h : clusterIssuerOf s name = some c) : c.name = name := by
  obtain ⟨v, hv, rfl⟩ := Option.map_eq_some_iff.mp h
  exact congrArg Prod.snd (State.get_eq_some.mp hv).2

/-- **A ClusterIssuer that is saved is the one of the issuer** exactly where it has the spec, and the one that was
    there was controlled by the issuer, or the new one is. -/
theorem saved_eq_iff (s : Cluster) (name : Str) (owner : Option Str) (c c' : ClusterIssuerSpec) :
    (clusterIssuerOf s name).elim (⟨name, owner, c⟩ : ClusterIssuer) (fun old => { old with spec := c }) =
        ⟨name, some name, c'⟩ ↔
      c = c' ∧ (clusterIssuerOf s name = none → owner = some name) ∧ Controlled s name := by
  unfold Controlled
  cases hissued : clusterIssuerOf s name with
  | none =>
      rw [Option.elim_none, ClusterIssuer.mk.injEq]
      constructor
      · rintro ⟨_, howner, hc⟩
        exact ⟨hc, fun _ => howner, fun _ hnone => (by cases hnone)⟩
      · exact fun h => ⟨rfl, h.2.1 rfl, h.1⟩
  | some old =>
      rw [Option.elim_some, ClusterIssuer.mk.injEq]
      constructor
      · rintro ⟨_, howner, hc⟩
        refine ⟨hc, fun hnone => (by cases hnone), fun c' hold => ?_⟩
        rw [← Option.some.inj hold, howner]
      · exact fun h => ⟨name_of_clusterIssuerOf hissued, h.2.2 old rfl, h.1⟩

/-- **The condition of a reconcile**, for each kind. -/
structure MeetsSpec (env : Environment) (tokenKey : Str → Str) (s : Cluster) (it : Iteration) (name : Str)
    (spec : IssuerSpec) : Prop where
  caForTest : spec.caForTest = true → clusterIssuerOf s name = some ⟨name, some name, caSpec name⟩
  acmeCloudFlare : ∀ acme, spec.acmeCloudFlare = some acme → Controlled s name ∧
    ∀ sec, s.objAt Kind.secret (certManagerNamespace, acme.apiTokenSecretName) = some sec →
      secKey it (CertSecret.data sec) = tokenKey acme.apiTokenSecretName
  http01 : ∀ email, spec.http01 = some email → clusterIssuerOf s name ≠ none ∧ Controlled s name
  dns01 : ∀ dns01, spec.dns01 = some dns01 → Controlled s name ∧
    ∀ n spec' dns01', specOf s n = some spec' → spec'.dns01 = some dns01' →
      marshalConfigs dns01'.configs = marshalConfigs dns01.configs

theorem meetsSpec_caForTest :
    MeetsSpec env tokenKey s it name ⟨true, none, none, none⟩ ↔
      clusterIssuerOf s name = some ⟨name, some name, caSpec name⟩ :=
  ⟨fun h => h.caForTest rfl, fun h => ⟨fun _ => h, fun _ h => (by cases h), fun _ h => (by cases h),
    fun _ h => (by cases h)⟩⟩

theorem meetsSpec_acmeCloudFlare {acme : ACMECloudFlareIssuer} :
    MeetsSpec env tokenKey s it name ⟨false, some acme, none, none⟩ ↔ Controlled s name ∧
      ∀ sec, s.objAt Kind.secret (certManagerNamespace, acme.apiTokenSecretName) = some sec →
        secKey it (CertSecret.data sec) = tokenKey acme.apiTokenSecretName := by
  refine ⟨fun h => h.acmeCloudFlare acme rfl, fun h => ⟨fun h => (by cases h), fun _ he => ?_,
    fun _ h => (by cases h), fun _ h => (by cases h)⟩⟩
  rwa [← Option.some.inj he]

theorem meetsSpec_http01 {email : Str} :
    MeetsSpec env tokenKey s it name ⟨false, none, some email, none⟩ ↔
      clusterIssuerOf s name ≠ none ∧ Controlled s name :=
  ⟨fun h => h.http01 email rfl, fun h => ⟨fun h => (by cases h), fun _ h => (by cases h), fun _ _ => h,
    fun _ h => (by cases h)⟩⟩

theorem meetsSpec_dns01 {dns01 : DNS01Issuer} :
    MeetsSpec env tokenKey s it name ⟨false, none, none, some dns01⟩ ↔ Controlled s name ∧
      ∀ n spec' dns01', specOf s n = some spec' → spec'.dns01 = some dns01' →
        marshalConfigs dns01'.configs = marshalConfigs dns01.configs := by
  refine ⟨fun h => h.dns01 dns01 rfl, fun h => ⟨fun h => (by cases h), fun _ h => (by cases h),
    fun _ h => (by cases h), fun _ he => ?_⟩⟩
  rwa [← Option.some.inj he]

/-- The ClusterIssuer of an issuer without accounts. -/
theorem right_iff_of_issued {c : ClusterIssuerSpec} {issued : ClusterIssuer}
    (hwanted : wantedSpec env tokenKey name spec = some c) (hdns01 : spec.dns01 = none)
    (hissued : clusterIssuerOf t name = some issued) :
    Right env tokenKey t name spec ↔ issued = ⟨name, some name, c⟩ := by
  constructor
  · rintro ⟨⟨c', hc', h⟩, _⟩
    rw [hissued] at h
    rw [hwanted] at hc'
    rw [Option.some.inj h, Option.some.inj hc']
  · intro h
    refine ⟨⟨c, hwanted, by rw [hissued, h]⟩, fun dns01 h => ?_⟩
    rw [hdns01] at h
    cases h

/-- **What a reconcile of an issuer leaves is right exactly where it meets the condition.** -/
theorem followed_reconcileSpec_iff {adm : Admission} {generated : Str × Str} {v : StoredIssuer}
    (hv : s.get Kind.issuer ([], name) = some v) (haccepted : (Issuer.spec v.obj).validate adm = [])
    (hothers : ∀ n spec', n ≠ name → specOf s n = some spec' → Right env tokenKey s n spec')
    {Q : Unit → Cluster → Prop} (h : Returns (reconcileSpec env it generated v) s Q) :
    ∃ t, Q () t ∧ (∀ n, specOf t n = specOf s n) ∧
      (Followed env tokenKey t ↔ MeetsSpec env tokenKey s it name (Issuer.spec v.obj)) := by
  have hname : (v.obj : Issuer).name = name := congrArg Prod.snd (State.get_eq_some.mp hv).2
  have hspec : specOf s name = some (Issuer.spec v.obj) := by
    rw [specOf, State.objAt, hv]
    rfl
  generalize hkind : Issuer.spec v.obj = spec at haccepted hspec
  unfold reconcileSpec at h
  rw [hkind] at h
  subst hname
  rcases accepted_cases haccepted with rfl | ⟨acme, rfl⟩ | ⟨email, rfl⟩ | ⟨dns01, rfl⟩
  · obtain ⟨t, hQ, hleft, hissued, haccounts⟩ := returns_reconcileCAForTest h
    refine ⟨t, hQ, hleft.specs, (followed_iff_of_accounts hleft hspec hothers haccounts).trans ?_⟩
    rw [right_iff_of_issued rfl rfl hissued, meetsSpec_caForTest]
    cases hbefore : clusterIssuerOf s (v.obj : Issuer).name with
    | none =>
        refine iff_of_false (fun e => ?_) fun e => by cases e
        exact absurd (congrArg ClusterIssuer.owner e) fun e => by cases e
    | some old => exact Option.some_inj.symm
  · obtain ⟨t, sec, hQ, hleft, hsec, hissued, haccounts⟩ := returns_reconcileACMECloudFlare hv h
    refine ⟨t, hQ, hleft.specs, (followed_iff_of_accounts hleft hspec hothers fun _ h => haccounts.trans h).trans ?_⟩
    rw [right_iff_of_issued rfl rfl hissued, saved_eq_iff, meetsSpec_acmeCloudFlare, hsec]
    constructor
    · rintro ⟨hkey, _, hcontrolled⟩
      refine ⟨hcontrolled, fun sec' hsec' => ?_⟩
      injection hkey with _ _ _ hsolver
      rw [← Option.some.inj hsec']
      exact (Solver.cloudflare.inj hsolver).2.2
    · rintro ⟨hcontrolled, hkey⟩
      exact ⟨by rw [hkey sec rfl], fun _ => rfl, hcontrolled⟩
  · obtain ⟨t, hQ, hleft, hissued, haccounts⟩ := returns_reconcileHTTP01 h
    refine ⟨t, hQ, hleft.specs, (followed_iff_of_accounts hleft hspec hothers fun _ h => haccounts.trans h).trans ?_⟩
    rw [right_iff_of_issued rfl rfl hissued, saved_eq_iff, meetsSpec_http01, and_iff_right rfl]
    exact and_congr_left fun _ => ⟨fun h hnone => (by cases h hnone), fun h hnone => absurd hnone h⟩
  · obtain ⟨t, hQ, hleft, hissued, haccounts⟩ := returns_reconcileDNS01 h
    refine ⟨t, hQ, hleft.specs, (followed_iff_of_left hleft hspec hothers).trans ?_⟩
    rw [meetsSpec_dns01, haccounts]
    constructor
    · rintro ⟨⟨⟨c, hc, h⟩, _⟩, hall⟩
      rw [hissued, Option.some_inj] at h
      refine ⟨((saved_eq_iff s _ _ _ c).mp h).2.2, fun n spec' dns01' hspec' hdns01' => ?_⟩
      by_cases hn : n = (v.obj : Issuer).name
      · rw [hn, hspec, Option.some_inj] at hspec'
        rw [← hspec', Option.some_inj] at hdns01'
        rw [hdns01']
      · exact (Option.some.inj (hall n spec' dns01' hn hspec' hdns01')).symm
    · rintro ⟨hcontrolled, hall⟩
      refine ⟨⟨⟨_, rfl, ?_⟩, fun dns01' h => ?_⟩, fun n spec' dns01' _ hspec' hdns01' => ?_⟩
      · rw [hissued, Option.some_inj, saved_eq_iff]
        exact ⟨rfl, fun _ => rfl, hcontrolled⟩
      · rw [haccounts, Option.some.inj h]
      · rw [hall n spec' dns01' hspec' hdns01']

/-! ## 8. Runs -/

/-- What happens to an issuer: it is created or updated, or it is only looked at again. -/
inductive IssuerEvent where
  | save (name : Str) (spec : IssuerSpec)
  | resync (name : Str)

namespace IssuerEvent

/-- The issuer that is reconciled behind the event. -/
def issuer : IssuerEvent → Str
  | save name _ => name
  | resync name => name

/-- The state behind an event; the webhook refuses what it does not accept. -/
def apply (adm : Admission) : IssuerEvent → Cluster → Cluster
  | save name spec, s =>
    if spec.validate adm = [] then
      State.put (S := schema) s Kind.issuer
        ⟨name, (s.objAt Kind.issuer ([], name)).bind Issuer.owner, spec,
          ((s.objAt Kind.issuer ([], name)).map Issuer.ok).getD false⟩
    else s
  | resync _, s => s

end IssuerEvent

/-- An event, and the reconcile behind it. -/
structure IssuerStep where
  event : IssuerEvent
  it : Iteration
  generated : Str × Str
  faults : List Fault

variable {adm : Admission} {i : IssuerStep}

/-- The run of the reconcile. -/
def IssuerStep.outcome (env : Environment) (adm : Admission) (s : Cluster) (i : IssuerStep) :
    Calls.Outcome Objects.Error Unit × Cluster :=
  Calls.run Objects.serve .unavailable (reconcile env i.it i.generated i.event.issuer) i.faults (i.event.apply adm s)

/-- The state behind it. -/
def stepIssuer (env : Environment) (adm : Admission) (s : Cluster) (i : IssuerStep) : Cluster :=
  (i.outcome env adm s).2

/-- The reconcile returns. -/
def Reconciles (env : Environment) (adm : Admission) (s : Cluster) (i : IssuerStep) : Prop :=
  (i.outcome env adm s).1 = .returned ()

/-- **The condition of a step**: without the namespace of cert-manager, the issuer was right before; with it, the
    reconcile meets the condition of its kind. -/
structure Allowed (env : Environment) (tokenKey : Str → Str) (adm : Admission) (s : Cluster) (i : IssuerStep) :
    Prop where
  skipped : (i.event.apply adm s).get Kind.ns ([], certManagerNamespace) = none →
    ∀ spec, specOf (i.event.apply adm s) i.event.issuer = some spec →
      Right env tokenKey (i.event.apply adm s) i.event.issuer spec
  reconciled : (i.event.apply adm s).get Kind.ns ([], certManagerNamespace) ≠ none →
    ∀ spec, specOf (i.event.apply adm s) i.event.issuer = some spec →
      MeetsSpec env tokenKey (i.event.apply adm s) i.it i.event.issuer spec

/-- The cluster issuers follow the issuers, and these have been accepted. -/
structure Settled (env : Environment) (tokenKey : Str → Str) (adm : Admission) (s : Cluster) : Prop where
  followed : Followed env tokenKey s
  accepted : Accepted adm s

/-- **An event changes one issuer**, and that to what is accepted. -/
theorem specOf_apply (adm : Admission) (e : IssuerEvent) (s : Cluster) (n : Str) :
    specOf (e.apply adm s) n = specOf s n ∨
      n = e.issuer ∧ ∃ spec, specOf (e.apply adm s) n = some spec ∧ spec.validate adm = [] := by
  cases e with
  | resync name => exact Or.inl rfl
  | save name spec =>
      rw [IssuerEvent.apply]
      split
      · rename_i haccepted
        rw [specOf, State.objAt, State.get_put]
        split
        · rename_i hkey
          exact Or.inr ⟨congrArg Prod.snd hkey, spec, rfl, haccepted⟩
        · exact Or.inl rfl
      · exact Or.inl rfl

theorem get_apply_of_ne (adm : Admission) (e : IssuerEvent) (s : Cluster) {k : Kind} (hk : k ≠ Kind.issuer)
    (key : Str × Str) : (e.apply adm s).get k key = s.get k key := by
  cases e with
  | resync name => rfl
  | save name spec =>
      rw [IssuerEvent.apply]
      split
      · exact State.get_put_of_ne (S := schema) hk key
      · rfl

/-- An issuer that is right stays right behind the event of another. -/
theorem right_apply {n : Str} {e : IssuerEvent} (h : Right env tokenKey s n spec) :
    Right env tokenKey (e.apply adm s) n spec := by
  obtain ⟨c, hc, hissued⟩ := h.issued
  refine ⟨⟨c, hc, ?_⟩, fun dns01 hdns01 => ?_⟩
  · rwa [clusterIssuerOf, State.objAt, get_apply_of_ne adm e s (by decide)]
  · rw [accountsOf, State.objAt, get_apply_of_ne adm e s (by decide)]
    exact h.accounts dns01 hdns01

theorem Settled.accepted_apply (hs : Settled env tokenKey adm s) (e : IssuerEvent) :
    Accepted adm (e.apply adm s) := by
  intro n spec hspec
  rcases specOf_apply adm e s n with hsame | ⟨_, spec', hspec', haccepted⟩
  · exact hs.accepted n spec (hsame ▸ hspec)
  · rw [hspec', Option.some_inj] at hspec
    rwa [← hspec]

theorem Settled.others_apply (hs : Settled env tokenKey adm s) (e : IssuerEvent) (n : Str) (spec : IssuerSpec)
    (hn : n ≠ e.issuer) (hspec : specOf (e.apply adm s) n = some spec) :
    Right env tokenKey (e.apply adm s) n spec := by
  refine right_apply (hs.followed n spec ?_)
  rw [← (specOf_apply adm e s n).resolve_right fun h => hn h.1, hspec]

/-- What a step leaves. -/
theorem stepIssuer_spec (hs : Settled env tokenKey adm s) (hi : Reconciles env adm s i) :
    (∀ n, specOf (stepIssuer env adm s i) n = specOf (i.event.apply adm s) n) ∧
      (Followed env tokenKey (stepIssuer env adm s i) ↔ Allowed env tokenKey adm s i) := by
  have hreturns : Returns (reconcile env i.it i.generated i.event.issuer) (i.event.apply adm s) fun _ t =>
      t = stepIssuer env adm s i :=
    ((attentive_reconcile i.generated i.event.issuer).returns (Prod.ext hi rfl)).mono fun _ _ h => h.2
  have hothers := hs.others_apply i.event
  have haccepted := hs.accepted_apply i.event
  generalize stepIssuer env adm s i = t at hreturns ⊢
  unfold reconcile at hreturns
  rw [Objects.returns_bind, Objects.returns_find] at hreturns
  cases hns : (i.event.apply adm s).get Kind.ns ([], certManagerNamespace) with
  | none =>
      rw [hns] at hreturns
      obtain rfl := Calls.returns_done.mp hreturns
      refine ⟨fun _ => rfl, ?_⟩
      constructor
      · exact fun h => ⟨fun _ spec hspec => h _ spec hspec, fun hsome => absurd hns hsome⟩
      · intro h n spec hspec
        by_cases hn : n = i.event.issuer
        · subst hn
          exact h.skipped hns spec hspec
        · exact hothers n spec hn hspec
  | some ns =>
      rw [hns] at hreturns
      simp only at hreturns
      rw [Objects.returns_bind, Objects.returns_find] at hreturns
      have hthere : (i.event.apply adm s).get Kind.ns ([], certManagerNamespace) ≠ none := by
        rw [hns]
        exact Option.some_ne_none ns
      cases hissuer : (i.event.apply adm s).get Kind.issuer ([], i.event.issuer) with
      | none =>
          rw [hissuer] at hreturns
          obtain rfl := Calls.returns_done.mp hreturns
          have hnone : specOf (i.event.apply adm s) i.event.issuer = none := by
            rw [specOf, State.objAt, hissuer]
            rfl
          refine ⟨fun _ => rfl, iff_of_true (fun n spec hspec => hothers n spec ?_ hspec) ⟨?_, ?_⟩⟩
          · intro hn
            rw [hn, hnone] at hspec
            cases hspec
          · intro _ spec hspec
            rw [hnone] at hspec
            cases hspec
          · intro _ spec hspec
            rw [hnone] at hspec
            cases hspec
      | some v =>
          rw [hissuer] at hreturns
          simp only at hreturns
          have hspec : specOf (i.event.apply adm s) i.event.issuer = some (Issuer.spec v.obj) := by
            rw [specOf, State.objAt, hissuer]
            rfl
          obtain ⟨_, rfl, hspecs, hiff⟩ := followed_reconcileSpec_iff hissuer (haccepted _ _ hspec) hothers hreturns
          refine ⟨hspecs, hiff.trans ?_⟩
          constructor
          · refine fun h => ⟨fun hnone => absurd hnone hthere, fun _ spec' hspec' => ?_⟩
            rw [hspec, Option.some_inj] at hspec'
            rwa [← hspec']
          · exact fun h => h.reconciled hthere _ hspec

/-- **The cluster issuers follow the issuers along a run** from a state in which they do, in which every reconcile
    returns, exactly where every event is allowed; and the key of an API token is the same for every iteration exactly
    where at most one key has a value. -/
theorem clusterIssuersFollow_iff (env : Environment) (tokenKey : Str → Str) (adm : Admission) :
    (∀ s steps, Settled env tokenKey adm s → Always (stepIssuer env adm) (Reconciles env adm) s steps →
      (Always (stepIssuer env adm) (fun s i => Followed env tokenKey (stepIssuer env adm s i)) s steps ↔
        Always (stepIssuer env adm) (Allowed env tokenKey adm) s steps)) ∧
    ∀ data, (∀ it it', secKey it data = secKey it' data) ↔ (keysWithValue data).length ≤ 1 := by
  refine ⟨fun s steps hs hok => ?_, secKey_eq_iff⟩
  refine hok.iff_of_invariant (I := Settled env tokenKey adm) hs (fun s i hs hi => (stepIssuer_spec hs hi).2)
    fun s i hs hi hp => ⟨hp, fun n spec hspec => hs.accepted_apply i.event n spec ?_⟩
  rw [← (stepIssuer_spec hs hi).1 n, hspec]

/-- The namespace of cert-manager, and nothing else. -/
def onlyCertManager : Cluster := State.put (S := schema) ⟨fun _ => .empty, 0⟩ Kind.ns certManagerNamespace

theorem settled_onlyCertManager : Settled env tokenKey adm onlyCertManager :=
  ⟨fun _ _ h => (by cases h), fun _ _ h => (by cases h)⟩

/-- An issuer is saved. -/
def savingIssuer (name : Str) (spec : IssuerSpec) : IssuerStep :=
  ⟨.save name spec, ⟨id, List.Perm.refl⟩, (str "key", str "crt"), []⟩

/-- The environment without variables. -/
def plainEnv : Environment := ⟨str "https://acme-v02.api.letsencrypt.org/directory", []⟩

/-- A DNS01 issuer with the account of one domain. -/
def accountsSpec : IssuerSpec :=
  ⟨false, none, none, some ⟨str "acme.kalm.dev", AList.singleton (str "shop.io")
    ⟨str "user", str "secret", str "d42.acme.kalm.dev", str "d42", []⟩⟩⟩

def dns01Saving : IssuerStep := savingIssuer defaultDNS01IssuerName accountsSpec

/-- A second one, with the same accounts. -/
def dns01Staging : IssuerStep := savingIssuer (str "staging") accountsSpec

/-- Two DNS01 issuers, one after the other. -/
theorem clusterIssuersFollow_dns01 :
    Always (stepIssuer plainEnv permissive) (fun s i => Followed plainEnv id (stepIssuer plainEnv permissive s i))
      onlyCertManager [dns01Saving, dns01Staging] := by
  have hfirst : ∀ n spec, specOf (dns01Saving.event.apply permissive onlyCertManager) n = some spec →
      spec = accountsSpec := by
    intro n spec h
    rcases specOf_apply permissive dns01Saving.event onlyCertManager n with hsame | ⟨rfl, _⟩
    · rw [hsame] at h
      cases h
    · exact (Option.some.inj h).symm
  have hsecond : ∀ n spec, specOf (dns01Staging.event.apply permissive
      (stepIssuer plainEnv permissive onlyCertManager dns01Saving)) n = some spec → spec = accountsSpec := by
    intro n spec h
    rcases specOf_apply permissive dns01Staging.event (stepIssuer plainEnv permissive onlyCertManager dns01Saving) n
      with hsame | ⟨rfl, _⟩
    · have hsettled : Settled plainEnv id permissive onlyCertManager := settled_onlyCertManager
      have hstep : Reconciles plainEnv permissive onlyCertManager dns01Saving := rfl
      rw [hsame, (stepIssuer_spec hsettled hstep).1] at h
      exact hfirst n spec h
    · exact (Option.some.inj h).symm
  have hmeets {s : Cluster} {it : Iteration} {name : Str} (hc : Controlled s name)
      (hall : ∀ n spec, specOf s n = some spec → spec = accountsSpec) :
      MeetsSpec plainEnv id s it name accountsSpec := by
    refine meetsSpec_dns01.mpr ⟨hc, fun n spec' dns01' hspec' hdns01' => ?_⟩
    obtain rfl := hall n spec' hspec'
    rw [← Option.some.inj hdns01']
  refine ((clusterIssuersFollow_iff plainEnv id permissive).1 onlyCertManager [dns01Saving, dns01Staging]
    settled_onlyCertManager ⟨rfl, rfl, trivial⟩).mpr ⟨⟨fun hnone => (by cases hnone), fun _ spec hspec => ?_⟩,
      ⟨fun hnone => (by cases hnone), fun _ spec hspec => ?_⟩, trivial⟩
  · exact hfirst _ spec hspec ▸ hmeets (fun c hc => (by cases hc)) hfirst
  · exact hsecond _ spec hspec ▸ hmeets (fun c hc => (by cases hc)) hsecond

/-- The ClusterIssuer of an HTTP01 issuer has no controller. -/
theorem clusterIssuersFollow_fails :
    ¬ ∀ (env : Environment) (tokenKey : Str → Str) (adm : Admission) (s : Cluster) (steps : List IssuerStep),
      Settled env tokenKey adm s → Always (stepIssuer env adm) (Reconciles env adm) s steps →
        Always (stepIssuer env adm) (fun s i => Followed env tokenKey (stepIssuer env adm s i)) s steps := by
  intro h
  have hfollowed := (h plainEnv id permissive onlyCertManager
    [savingIssuer (str "letsencrypt") ⟨false, none, some [], none⟩] settled_onlyCertManager ⟨rfl, trivial⟩).1
  obtain ⟨_, _, hissued⟩ := (hfollowed (str "letsencrypt") _ rfl).issued
  cases Option.some.inj (congrArg (Option.map ClusterIssuer.owner) hissued)

end Kalm.Certs
