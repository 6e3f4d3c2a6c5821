/-
  File:      Kalm/Api/Edits.lean
  Subject:   UPDATES OF OBJECTS WITH A HIDDEN SECRET: the update handlers of the single sign-on, the
             registries and the certificate issuers (api/handler), what they write (api/resources), and the
             webhooks that are asked (controller/api/v1alpha1).

  * `Admission` -- what the webhooks take from the libraries: URLs, e-mails, the decoding of a config;
  * `updateSSOConfig`, `updateDockerRegistry`, `updateHttpsCertIssuer` -- the updates;
  * `Environment.withUpdates` -- the routes with these updates behind their checks;
  * `Edit` -- an object that was got, and the object that is sent back. What was hidden was dropped,
    blanked or masked;
  * `keeps_iff` -- when an edit of what can be seen leaves the rest.
-/
import Kalm.Api.Shown

namespace Kalm

open Keyed (Store)

/-! ## 1. Webhooks -/

/-- The config of a connector, as the webhook decodes it. -/
structure ConnectorConfig where
  clientID : Str
  clientSecret : Str
  orgs : List Str
  groups : List Str

/-- `url.Parse` with a scheme and a host, `emailRegex`, and `json.Unmarshal` of a config that is there, into
    the one of the connector's type. -/
structure Admission where
  isValidURL : Str → Bool
  isValidEmail : Str → Bool
  decode : Str → Doc → Option ConnectorConfig

variable (adm : Admission)

/-- The config of a connector; `null` leaves the zero value. -/
def DexConnector.decoded (connector : DexConnector) : Option ConnectorConfig :=
  match connector.config with
  | none => some ⟨[], [], [], []⟩
  | some config => adm.decode connector.type config

/-- The checks of a connector of a type whose members are `members`. -/
def DexConnector.validateConfig (connector : DexConnector) (path members : Str)
    (names : ConnectorConfig → List Str) : List KalmValidateError :=
  match connector.decoded adm with
  | none => [⟨str "Unmarshal to json failed.", path⟩]
  | some config =>
    reportIf (config.clientID = []) ⟨str "Can't be blank", path ++ str ".config.clientID"⟩ ++
    reportIf (config.clientSecret = []) ⟨str "Can't be blank", path ++ str ".config.clientSecret"⟩ ++
    reportIf (names config = []) ⟨str "Can't be blank", path ++ str ".config." ++ members⟩ ++
    (names config).zipIdx.flatMap fun (name, j) =>
      reportIf (name = []) ⟨str "Can't be blank", path ++ str ".config." ++ members ++ dot :: itoa j⟩

/-- The checks of a connector. -/
def DexConnector.validate (connector : DexConnector) (path : Str) : List KalmValidateError :=
  if connector.type = str "github" then
    connector.validateConfig adm path (str "orgs") ConnectorConfig.orgs
  else if connector.type = str "gitlab" then
    connector.validateConfig adm path (str "groups") ConnectorConfig.groups
  else [⟨str "Unsupport connector type: " ++ connector.type, path⟩]

/-- `SingleSignOnConfig.commonValidate` -/
def SingleSignOnConfigSpec.commonValidate (spec : SingleSignOnConfigSpec) : List KalmValidateError :=
  reportIf (spec.domain = [] ∧ spec.issuer = [])
    ⟨str "Domain or issuer can't be blank at the same time.", str "spec.domain"⟩ ++
  reportIf (spec.connectors = [] ∧ spec.temporaryUser.isNone)
    ⟨str "Connectors and TemporaryUser can't be blank at the same time.", str "spec"⟩ ++
  spec.connectors.zipIdx.flatMap fun (connector, i) =>
    connector.validate adm (str "spec.connectors." ++ itoa i)

/-- `SingleSignOnConfig.Default` -/
def SingleSignOnConfigSpec.default (spec : SingleSignOnConfigSpec) : SingleSignOnConfigSpec :=
  match spec.idTokenExpirySeconds with
  | none => { spec with idTokenExpirySeconds := some 300 }
  | some _ => spec

theorem SingleSignOnConfigSpec.default_defaulted (spec : SingleSignOnConfigSpec) :
    spec.default.idTokenExpirySeconds ≠ none := by
  unfold SingleSignOnConfigSpec.default
  split
  · exact Option.some_ne_none 300
  · rename_i h
    rw [h]
    exact Option.some_ne_none _

/-- `DockerRegistry.validate` -/
def DockerRegistrySpec.validate (spec : DockerRegistrySpec) : List KalmValidateError :=
  reportIf (spec.host ≠ [] ∧ adm.isValidURL spec.host = false) ⟨str "invalid url", str "spec.host"⟩ ++
  reportIf (spec.poolingIntervalSeconds.any fun interval => interval ≤ 0)
    ⟨str "should be positive int", str "spec.poolingIntervalSeconds"⟩

/-- `HttpsCertIssuer.validate` -/
def HttpsCertIssuerSpec.validate (spec : HttpsCertIssuerSpec) : List KalmValidateError :=
  let setConfigCnt := spec.acmeCloudFlare.toList.length + spec.caForTest.toList.length +
    spec.http01.toList.length + spec.dns01.toList.length
  reportIf (setConfigCnt = 0)
    ⟨str "should provide at least 1 among: acmeCloudFlare, caForTest, http01 and dns01", str "spec"⟩ ++
  reportIf (1 < setConfigCnt)
    ⟨str "should provide at most 1 among: acmeCloudFlare, caForTest, http01 and dns01", str "spec"⟩ ++
  (spec.http01.toList.flatMap fun email =>
    reportIf (email ≠ [] ∧ adm.isValidEmail email = false)
      ⟨str "invalid email:" ++ email, str "spec.http01.email"⟩) ++
  spec.acmeCloudFlare.toList.flatMap fun acme =>
    reportIf (isValidResourceName acme.apiTokenSecretName = false)
      ⟨str "invalid secret name", str "spec.acmeCloudFlare.apiTokenSecretName"⟩ ++
    reportIf (adm.isValidEmail acme.email = false)
      ⟨str "invalid email:" ++ acme.email, str "spec.acmeCloudFlare.email"⟩

/-! ## 2. Updates -/

/-- `CertManagerNamespace` -/
def certManagerNamespace : Str := str "cert-manager"

/-- The data of a registry's secret. -/
def credentials (username password : Str) (key : Str) : Option Str :=
  if key = str "username" then some username
  else if key = str "password" then some password
  else none

/-- The data of an issuer's secret. -/
def tokenContent (token : Str) (key : Str) : Option Str := if key = str "content" then some token else none

variable {sum256 : Str → List UInt8}

/-- A secret is stored under its key: an existing one keeps what `update` keeps of it, a new one needs a
    valid name. `none` where the API server refuses. -/
def storeSecret (s : ApiState sum256) (ns name : Str) (labels : Labels) (data : Str → Option Str)
    (update : Secret → Secret) : Option (ApiState sum256) :=
  match s.secrets.find (ns, name) with
  | some secret => some { s with secrets := s.secrets.replace (update secret) }
  | none =>
    if isDNS1123Subdomain name then some { s with secrets := s.secrets.insert ⟨ns, name, labels, data⟩ }
    else none

/-- `UpdateSSOConfig` -/
def updateSSOConfig (body : Option SingleSignOnConfigSpec) : Handler sum256 := fun s =>
  match s.ssoConfigs.find (kalmSystemNamespace, ssoName) with
  | none => (.error .notFound, s)
  | some sso =>
    match body with
    | none => (.panicked, s)
    | some spec =>
      if spec.default.commonValidate adm ≠ [] then (.error .refused, s)
      else
        (.ok (.items [.ssoConfig spec.default]), { s with
          ssoConfigs := s.ssoConfigs.replace ⟨sso.ns, sso.name, spec.default, spec.default_defaulted⟩ })

/-- `UpdateDockerRegistry`: the registry is written before its secret. -/
def updateDockerRegistry (registry : DockerRegistry) : Handler sum256 := fun s =>
  match s.dockerRegistries.find registry.name with
  | none => (.error .notFound, s)
  | some dockerRegistry =>
    let spec := registry.spec.getD dockerRegistry.spec
    if spec.validate adm ≠ [] then (.error .refused, s)
    else
      let s' := { s with dockerRegistries := s.dockerRegistries.replace { dockerRegistry with spec := spec } }
      let data := credentials registry.username registry.password
      match storeSecret s' kalmSystemNamespace (getRegistryAuthenticationName registry.name) [] data
          fun secret => { secret with data := data } with
      | none => (.error .refused, s')
      | some s'' =>
        (.ok (.items [.registry { registry with
          spec := some spec, status := some dockerRegistry.status, password := [] }]), s'')

/-- The spec of `UpdateHttpsCertIssuer`. -/
def HttpsCertIssuerSpec.edited (spec : HttpsCertIssuerSpec) (hcIssuer : HttpsCertIssuer) :
    HttpsCertIssuerSpec :=
  { spec with
    caForTest := hcIssuer.caForTest
    http01 := hcIssuer.http01
    acmeCloudFlare :=
      match hcIssuer.acmeCloudFlare, spec.acmeCloudFlare with
      | some account, some acme => some ⟨account.account, acme.apiTokenSecretName⟩
      | _, old => old }

/-- `ReconcileSecretForIssuer`, called where a token is sent. -/
def reconcileSecretForIssuer (s : ApiState sum256) (secName secret : Str) : Option (ApiState sum256) :=
  let labels := [(kalmManaged, str "true")]
  storeSecret s certManagerNamespace secName labels (tokenContent secret) fun sec =>
    { sec with labels := labels, data := tokenContent secret }

/-- `UpdateHttpsCertIssuer`: the secret is written before the issuer; an empty token is ignored. -/
def updateHttpsCertIssuer (hcIssuer : HttpsCertIssuer) : Handler sum256 := fun s =>
  match s.httpsCertIssuers.find hcIssuer.name with
  | none => (.error .notFound, s)
  | some res =>
    if res.spec.caForTest.isNone ≠ hcIssuer.caForTest.isNone ∨
        res.spec.acmeCloudFlare.isNone ≠ hcIssuer.acmeCloudFlare.isNone ∨
        res.spec.http01.isNone ≠ hcIssuer.http01.isNone then
      (.error (.badRequest (str "can not change type of HttpsCertIssuer")), s)
    else
      let reconciled := match hcIssuer.acmeCloudFlare, res.spec.acmeCloudFlare with
        | some account, some acme =>
          if account.secret = [] then some s
          else reconcileSecretForIssuer s acme.apiTokenSecretName account.secret
        | _, _ => some s
      match reconciled with
      | none => (.error .refused, s)
      | some s' =>
        if (res.spec.edited hcIssuer).validate adm ≠ [] then (.error .refused, s')
        else
          (.ok (.items [.httpsCertIssuer hcIssuer]), { s' with
            httpsCertIssuers := s'.httpsCertIssuers.replace ⟨res.name, res.spec.edited hcIssuer⟩ })

/-- The routes with these updates behind their checks. -/
def Environment.withUpdates (env : Environment sum256) : Environment sum256 :=
  { env with
    behind := fun req c =>
      match req with
      | .updateSSOConfig body => bindBody body (updateSSOConfig adm)
      | .updateRegistry body => bindBody body (updateDockerRegistry adm)
      | .updateHttpsCertIssuer body => bindBody body (updateHttpsCertIssuer adm)
      | req => env.behind req c }

/-! ## 3. Edits -/

/-- What the client got, and what is sent back. -/
inductive Edit where
  | sso (got body : SingleSignOnConfigSpec)
  | registry (got body : DockerRegistry)
  | issuer (got body : HttpsCertIssuer)

/-- The list or get request has answered the object. -/
def Edit.Got (env : Environment sum256) (c : Caller) (s : ApiState sum256) : Edit → Prop
  | .sso got _ => (serveRequest env c .listSSOConfig s).1.Holds (.ssoConfig got)
  | .registry got _ => ∃ r ∈ s.dockerRegistries.items, got.name = r.name ∧
      ((serveRequest env c .listRegistries s).1.Holds (.registry got) ∨
        (serveRequest env c (.getRegistry r.name) s).1.Holds (.registry got))
  | .issuer got _ => (serveRequest env c .getHttpsCertIssuer s).1.Holds (.httpsCertIssuer got)

/-- The name, and what stands for the secret, are sent back as they were got. -/
def Edit.OnlyVisible : Edit → Prop
  | .sso got body => body.connectors.map DexConnector.config = got.connectors.map DexConnector.config
  | .registry got body =>
    body.name = got.name ∧ body.username = got.username ∧ body.password = got.password
  | .issuer got body => body.name = got.name ∧
    body.acmeCloudFlare.map AccountAndSecret.secret = got.acmeCloudFlare.map AccountAndSecret.secret

/-- The request that sends it back. -/
def Edit.request : Edit → HttpRequest
  | .sso _ body => .updateSSOConfig (some (some body))
  | .registry _ body => .updateRegistry (some body)
  | .issuer _ body => .updateHttpsCertIssuer (some body)

/-- The stored connectors keep their configs. -/
def SingleSignOnConfigSpec.restoring (body old : SingleSignOnConfigSpec) : SingleSignOnConfigSpec :=
  SingleSignOnConfigSpec.default { body with
    connectors := List.zipWith (fun new old => { new with config := old.config })
      body.connectors old.connectors }

/-- The data of every secret is what it was. -/
def SecretsKept (s s' : ApiState sum256) : Prop :=
  ∀ key, (s'.secrets.find key).map Secret.data = (s.secrets.find key).map Secret.data

/-- **The edit keeps what was hidden**: the other objects and the data of all secrets are what they were,
    and the spec is the stored one, or the stored one with what the client has changed in it. -/
def Edit.Keeps (s s' : ApiState sum256) : Edit → Prop
  | .sso got body => s' = { s with ssoConfigs := s'.ssoConfigs } ∧
      ∀ key old, s.ssoConfigs.find key = some old → ∃ new, s'.ssoConfigs.find key = some new ∧
        (new.spec = old.spec ∨
          key = (kalmSystemNamespace, ssoName) ∧ body ≠ got ∧ new.spec = body.restoring old.spec)
  | .registry got body =>
      s' = { s with dockerRegistries := s'.dockerRegistries, secrets := s'.secrets } ∧ SecretsKept s s' ∧
      ∀ name old, s.dockerRegistries.find name = some old →
        ∃ new, s'.dockerRegistries.find name = some new ∧ new.status = old.status ∧
          (new.spec = old.spec ∨ name = got.name ∧ body ≠ got ∧ new.spec = body.spec.getD old.spec)
  | .issuer got body =>
      s' = { s with httpsCertIssuers := s'.httpsCertIssuers, secrets := s'.secrets } ∧ SecretsKept s s' ∧
      ∀ name old, s.httpsCertIssuers.find name = some old →
        ∃ new, s'.httpsCertIssuers.find name = some new ∧
          (new.spec = old.spec ∨ name = got.name ∧ body ≠ got ∧ new.spec = old.spec.edited body)

/-- To store this data changes no secret: it is there already, or cannot be stored. -/
def SecretHolds (s : ApiState sum256) (ns name : Str) (data : Str → Option Str) : Prop :=
  match s.secrets.find (ns, name) with
  | some secret => secret.data = data
  | none => isDNS1123Subdomain name = false

/-- Where an edit keeps what was hidden. -/
def Edit.Spared (s : ApiState sum256) : Edit → Prop
  | .sso _ _ => True
  | .registry got body => ∀ old, s.dockerRegistries.find got.name = some old →
      (body.spec.getD old.spec).validate adm ≠ [] ∨
        SecretHolds s kalmSystemNamespace (getRegistryAuthenticationName got.name)
          (credentials got.username [])
  | .issuer got body => ∀ old acme, s.httpsCertIssuers.find got.name = some old →
      old.spec.acmeCloudFlare = some acme →
        old.spec.caForTest.isNone ≠ body.caForTest.isNone ∨
          old.spec.http01.isNone ≠ body.http01.isNone ∨
          SecretHolds s certManagerNamespace acme.apiTokenSecretName (tokenContent (str "***"))

/-! ### Secrets -/

section Secrets

variable {s s' : ApiState sum256} {ns name : Str} {labels : Labels} {data : Str → Option Str}
  {update : Secret → Secret}

theorem storeSecret_frame (h : storeSecret s ns name labels data update = some s') :
    s' = { s with secrets := s'.secrets } := by
  unfold storeSecret at h
  split at h
  · cases h
    rfl
  · split at h
    · cases h
      rfl
    · cases h

/-- **A secret that is stored is kept where it holds the data already.** -/
theorem secretsKept_storeSecret (hupdate : ∀ secret, (update secret).ns = secret.ns ∧
      (update secret).name = secret.name ∧ (update secret).data = data) :
    SecretsKept s ((storeSecret s ns name labels data update).getD s) ↔ SecretHolds s ns name data := by
  unfold storeSecret SecretHolds
  cases hf : s.secrets.find (ns, name) with
  | some secret =>
      obtain ⟨hns, hname, hdata⟩ := hupdate secret
      have hkey : ((update secret).ns, (update secret).name) = (ns, name) := by
        rw [hns, hname]
        exact (Store.find_eq_some.mp hf).2
      have hfind : ∀ k, (s.secrets.replace (update secret)).find k =
          if k = (ns, name) then some (update secret) else s.secrets.find k := by
        intro k
        rw [Store.find_replace (u := secret) (by rw [hkey]; exact hf), hkey]
      constructor
      · intro hkept
        have h := hkept (ns, name)
        rw [hf] at h
        simp only [Option.getD_some, hfind, if_true, Option.map_some, hdata] at h
        exact (Option.some.inj h).symm
      · intro hd k
        simp only [Option.getD_some, hfind]
        split
        · rename_i hk
          rw [hk, hf, Option.map_some, Option.map_some, hdata, hd]
        · rfl
  | none =>
      simp only
      split
      · rename_i hvalid
        refine iff_of_false (fun hkept => ?_) (by rw [hvalid]; decide)
        have h := hkept (ns, name)
        have hfind : (s.secrets.insert ⟨ns, name, labels, data⟩).find (ns, name) =
            some ⟨ns, name, labels, data⟩ := by
          rw [Store.find_insert (v := (⟨ns, name, labels, data⟩ : Secret)) hf, if_pos rfl]
        simp only [Option.getD_some] at h
        rw [hfind, hf] at h
        cases h
      · rename_i hvalid
        exact iff_of_true (fun _ => rfl) (Bool.eq_false_iff.mpr hvalid)

end Secrets

/-! ### The single sign-on -/

section Sso

variable {env : Environment sum256} {c : Caller} {s : ApiState sum256}

/-- A connector without its config is refused, whatever its type is. -/
theorem validate_of_config_none {connector : DexConnector} (h : connector.config = none) (path : Str) :
    connector.validate adm path ≠ [] := by
  have hdecoded : connector.decoded adm = some ⟨[], [], [], []⟩ := by rw [DexConnector.decoded, h]
  have hblank : ∀ members names,
      connector.validateConfig adm path members names ≠ [] := by
    intro members names
    rw [DexConnector.validateConfig, hdecoded]
    exact List.cons_ne_nil _ _
  unfold DexConnector.validate
  split
  · exact hblank _ _
  · split
    · exact hblank _ _
    · exact List.cons_ne_nil _ _

/-- A spec that is accepted and has no configs has no connectors. -/
theorem connectors_of_commonValidate {spec : SingleSignOnConfigSpec}
    (hnone : ∀ connector ∈ spec.connectors, connector.config = none)
    (hvalid : spec.commonValidate adm = []) : spec.connectors = [] := by
  cases hc : spec.connectors with
  | nil => rfl
  | cons connector rest =>
      have hnone := hnone connector (by rw [hc]; exact List.mem_cons_self)
      have hall := (List.append_eq_nil_iff.mp hvalid).2
      rw [hc, List.zipIdx_cons, List.flatMap_cons] at hall
      exact absurd (List.append_eq_nil_iff.mp hall).1 (validate_of_config_none adm hnone _)

theorem default_connectors (spec : SingleSignOnConfigSpec) :
    spec.default.connectors = spec.connectors := by
  unfold SingleSignOnConfigSpec.default
  split <;> rfl

theorem default_eq_self {spec : SingleSignOnConfigSpec} (h : spec.idTokenExpirySeconds ≠ none) :
    spec.default = spec := by
  unfold SingleSignOnConfigSpec.default
  split
  · rename_i hnone
    exact absurd hnone h
  · rfl

/-- A shown spec has no configs. -/
theorem config_hideConnectors {spec body : SingleSignOnConfigSpec}
    (h : body.connectors.map DexConnector.config =
      (hideConnectors spec).connectors.map DexConnector.config) :
    ∀ connector ∈ body.connectors, connector.config = none := by
  intro connector hconnector
  have hmem : connector.config ∈ (hideConnectors spec).connectors.map DexConnector.config := by
    rw [← h]
    exact List.mem_map_of_mem hconnector
  obtain ⟨shown, hshown, heq⟩ := List.mem_map.mp hmem
  obtain ⟨_, _, rfl⟩ := List.mem_map.mp hshown
  exact heq.symm

/-- **An update of the single sign-on keeps the configs**: the webhook refuses connectors without them. -/
theorem keeps_updateSSOConfig {got body : SingleSignOnConfigSpec} (hgot : (Edit.sso got body).Got env c s)
    (hvisible : (Edit.sso got body).OnlyVisible) :
    (Edit.sso got body).Keeps s (updateSSOConfig adm (some body) s).2 := by
  obtain ⟨-, spec, hspec, hshown⟩ := readable_of_holds rfl hgot
  obtain ⟨sso, hfind, hsso⟩ := Option.map_eq_some_iff.mp hspec
  subst hsso hshown
  have hsame : (Edit.sso (hideConnectors sso.spec) body).Keeps s s :=
    ⟨rfl, fun _ old hold => ⟨old, hold, .inl rfl⟩⟩
  unfold updateSSOConfig
  rw [hfind]
  dsimp only
  split
  · exact hsame
  · rename_i hvalid
    have hnone := config_hideConnectors hvisible
    have hempty : body.connectors = [] := by
      rw [← default_connectors]
      refine connectors_of_commonValidate adm ?_ (not_not.mp hvalid)
      rw [default_connectors]
      exact hnone
    -- without connectors nothing was hidden
    have hold : sso.spec.connectors = [] := by
      have h : body.connectors.map DexConnector.config =
          (hideConnectors sso.spec).connectors.map DexConnector.config := hvisible
      rw [hempty, List.map_nil, eq_comm, List.map_eq_nil_iff] at h
      exact List.map_eq_nil_iff.mp h
    have hself : hideConnectors sso.spec = sso.spec := by
      unfold hideConnectors
      rw [hold, List.map_nil, ← hold]
    have hkey : (sso.ns, sso.name) = (kalmSystemNamespace, ssoName) := (Store.find_eq_some.mp hfind).2
    refine ⟨rfl, fun key old hfound => ?_⟩
    rw [Store.find_replace (u := sso) (by rw [hkey]; exact hfind)]
    dsimp only
    split
    · rename_i hk
      have hold' : old = sso := by
        rw [hk, hkey, hfind] at hfound
        exact (Option.some.inj hfound).symm
      subst hold'
      refine ⟨_, rfl, ?_⟩
      by_cases hbody : body = hideConnectors old.spec
      · left
        rw [hbody, hself]
        exact default_eq_self old.defaulted
      · right
        refine ⟨hk.trans hkey, hbody, ?_⟩
        unfold SingleSignOnConfigSpec.restoring
        rw [hempty, List.zipWith_nil_left, ← hempty]
    · exact ⟨old, hfound, .inl rfl⟩

end Sso

/-! ### The registries -/

section Registry

variable {env : Environment sum256} {c : Caller} {s : ApiState sum256}

/-- What was got of a registry: its spec, and no password. -/
theorem registry_of_got {got body : DockerRegistry} (hgot : (Edit.registry got body).Got env c s) :
    ∃ old, s.dockerRegistries.find got.name = some old ∧ got.spec = some old.spec ∧
      got.password = [] := by
  obtain ⟨r, hr, hname, hlist | hget⟩ := hgot
  · obtain ⟨-, hlist⟩ := holds_requires.mp hlist
    obtain ⟨x, hx, heq⟩ := List.mem_map.mp (holds_items.mp hlist)
    cases heq
    obtain ⟨old, hold, hbuilt⟩ := List.mem_map.mp hx
    subst hbuilt
    exact ⟨old, Store.find_self hold, rfl, rfl⟩
  · obtain ⟨-, hget⟩ := holds_requires.mp hget
    obtain ⟨x, hx, hin⟩ := holds_getting.mp hget
    have heq : Item.registry got = .registry x := List.mem_singleton.mp (holds_items.mp hin)
    cases heq
    obtain ⟨-, hbuilt⟩ := getDockerRegistry_eq_some.mp hx
    have hfind : s.dockerRegistries.find r.name = some r := Store.find_self hr
    rw [hfind] at hbuilt
    refine ⟨r, by rw [hname]; exact hfind, ?_⟩
    subst hbuilt
    exact ⟨rfl, rfl⟩

/-- Where the registry is written and nothing else but secrets, the secrets decide. -/
theorem keeps_registry_of_written {got body : DockerRegistry} {r : DockerRegistryObject}
    {s' : ApiState sum256} (hfind : s.dockerRegistries.find got.name = some r)
    (hspec : got.spec = some r.spec)
    (hs' : s' = { s with
      dockerRegistries := s.dockerRegistries.replace { r with spec := body.spec.getD r.spec }
      secrets := s'.secrets }) :
    (Edit.registry got body).Keeps s s' ↔ SecretsKept s s' := by
  have hkey : r.name = got.name := (Store.find_eq_some.mp hfind).2
  have hregistries : s'.dockerRegistries =
      s.dockerRegistries.replace { r with spec := body.spec.getD r.spec } := by rw [hs']
  constructor
  · exact fun h => h.2.1
  · refine fun hkept => ⟨?_, hkept, fun name old hold => ?_⟩
    · rw [hregistries]
      exact hs'
    · rw [hregistries, Store.find_replace (u := r) (by rw [hkey]; exact hfind)]
      dsimp only
      split
      · rename_i hk
        rw [hk, hkey, hfind] at hold
        cases hold
        refine ⟨_, rfl, rfl, ?_⟩
        by_cases hbody : body = got
        · left
          rw [hbody, hspec]
          rfl
        · exact .inr ⟨hk.trans hkey, hbody, rfl⟩
      · exact ⟨old, hold, rfl, .inl rfl⟩

/-- **An update of a registry keeps the credentials** where it is refused, and where the secret holds the
    shown user name and no password. -/
theorem keeps_updateDockerRegistry {got body : DockerRegistry}
    (hgot : (Edit.registry got body).Got env c s) (hvisible : (Edit.registry got body).OnlyVisible) :
    (Edit.registry got body).Keeps s (updateDockerRegistry adm body s).2 ↔
      (Edit.registry got body).Spared adm s := by
  obtain ⟨r, hfind, hspec, hpassword⟩ := registry_of_got hgot
  obtain ⟨hname, husername, hsame⟩ := hvisible
  have hspared : (Edit.registry got body).Spared adm s ↔ ((body.spec.getD r.spec).validate adm ≠ [] ∨
      SecretHolds s kalmSystemNamespace (getRegistryAuthenticationName got.name)
        (credentials got.username [])) := by
    constructor
    · exact fun h => h r hfind
    · intro h old hold
      rw [hfind] at hold
      cases hold
      exact h
  rw [hspared]
  unfold updateDockerRegistry
  rw [hname, hfind]
  dsimp only
  split
  · rename_i hrefused
    exact iff_of_true ⟨rfl, fun _ => rfl, fun _ old hold => ⟨old, hold, rfl, .inl rfl⟩⟩ (.inl hrefused)
  · rename_i hvalid
    rw [or_iff_right hvalid, husername, hsame, hpassword]
    let s₁ : ApiState sum256 :=
      { s with dockerRegistries := s.dockerRegistries.replace { r with spec := body.spec.getD r.spec } }
    let data := credentials got.username []
    have hstored : SecretsKept s ((storeSecret s₁ kalmSystemNamespace
        (getRegistryAuthenticationName got.name) [] data fun secret => { secret with data := data }).getD
          s₁) ↔ SecretHolds s kalmSystemNamespace (getRegistryAuthenticationName got.name) data :=
      secretsKept_storeSecret (s := s₁) fun _ => ⟨rfl, rfl, rfl⟩
    split
    · rename_i hsec
      rw [hsec] at hstored
      exact Iff.trans (keeps_registry_of_written hfind hspec rfl) hstored
    · rename_i s' hsec
      rw [hsec] at hstored
      exact Iff.trans (keeps_registry_of_written hfind hspec (storeSecret_frame hsec)) hstored

end Registry

/-! ### The certificate issuers -/

section Issuer

variable {env : Environment sum256} {c : Caller} {s : ApiState sum256}

/-- What was got of an issuer. -/
theorem issuer_of_got {got body : HttpsCertIssuer} (hgot : (Edit.issuer got body).Got env c s) :
    ∃ old, s.httpsCertIssuers.find got.name = some old ∧ got = buildHttpsCertIssuer old := by
  obtain ⟨-, hlist⟩ := holds_requires.mp hgot
  obtain ⟨old, hold, hbuilt⟩ := List.mem_map.mp (holds_items.mp hlist)
  cases hbuilt
  exact ⟨old, Store.find_self hold, rfl⟩

/-- To send an issuer back as it is shown writes its spec again. -/
theorem edited_buildHttpsCertIssuer (issuer : HttpsCertIssuerObject) :
    issuer.spec.edited (buildHttpsCertIssuer issuer) = issuer.spec := by
  unfold HttpsCertIssuerSpec.edited buildHttpsCertIssuer
  obtain ⟨_, _ | acme, _, _⟩ := issuer.spec
  · rfl
  · rfl

/-- Where the issuer is written, or left, and nothing else but secrets is, the secrets decide. -/
theorem keeps_issuer_of_written {got body : HttpsCertIssuer} {old : HttpsCertIssuerObject}
    {s' : ApiState sum256} (hfind : s.httpsCertIssuers.find got.name = some old)
    (hgot : got = buildHttpsCertIssuer old)
    (hissuers : s'.httpsCertIssuers = s.httpsCertIssuers ∨
      s'.httpsCertIssuers = s.httpsCertIssuers.replace ⟨old.name, old.spec.edited body⟩)
    (hs' : s' = { s with httpsCertIssuers := s'.httpsCertIssuers, secrets := s'.secrets }) :
    (Edit.issuer got body).Keeps s s' ↔ SecretsKept s s' := by
  constructor
  · exact fun h => h.2.1
  · refine fun hkept => ⟨hs', hkept, fun name issuer hissuer => ?_⟩
    obtain hleft | hwritten := hissuers
    · rw [hleft]
      exact ⟨issuer, hissuer, .inl rfl⟩
    · have hkey : old.name = got.name := (Store.find_eq_some.mp hfind).2
      rw [hwritten, Store.find_replace (u := old) (by rw [hkey]; exact hfind)]
      dsimp only
      split
      · rename_i hk
        rw [hk, hkey, hfind] at hissuer
        cases hissuer
        refine ⟨_, rfl, ?_⟩
        by_cases hbody : body = got
        · left
          rw [hbody, hgot]
          exact edited_buildHttpsCertIssuer old
        · exact .inr ⟨hk.trans hkey, hbody, rfl⟩
      · exact ⟨issuer, hissuer, .inl rfl⟩

/-- **An update of an issuer keeps its token** where it is refused for its type, where it has none, and
    where the token is the mask itself: the mask is not empty, so it is written. -/
theorem keeps_updateHttpsCertIssuer {got body : HttpsCertIssuer}
    (hgot : (Edit.issuer got body).Got env c s) (hvisible : (Edit.issuer got body).OnlyVisible) :
    (Edit.issuer got body).Keeps s (updateHttpsCertIssuer adm body s).2 ↔
      (Edit.issuer got body).Spared adm s := by
  obtain ⟨res, hfind, hshown⟩ := issuer_of_got hgot
  obtain ⟨hname, hsecret⟩ := hvisible
  have hsecret : body.acmeCloudFlare.map AccountAndSecret.secret =
      res.spec.acmeCloudFlare.map fun _ => str "***" := by
    rw [hsecret, hshown]
    exact Option.map_map _ _ _
  have hspared : (Edit.issuer got body).Spared adm s ↔ ∀ acme, res.spec.acmeCloudFlare = some acme →
      res.spec.caForTest.isNone ≠ body.caForTest.isNone ∨
        res.spec.http01.isNone ≠ body.http01.isNone ∨
        SecretHolds s certManagerNamespace acme.apiTokenSecretName (tokenContent (str "***")) := by
    constructor
    · exact fun h acme hacme => h res acme hfind hacme
    · intro h old acme hold
      rw [hfind] at hold
      cases hold
      exact h acme
  have hkeeps : ∀ {s' : ApiState sum256}, s' = { s with secrets := s'.secrets } →
      ((Edit.issuer got body).Keeps s s' ↔ SecretsKept s s') := fun {s'} hs' =>
    keeps_issuer_of_written hfind hshown (.inl (by rw [hs'])) (hs'.trans (by rw [hs']))
  have hsame : (Edit.issuer got body).Keeps s s := (hkeeps rfl).mpr fun _ => rfl
  rw [hspared]
  unfold updateHttpsCertIssuer
  rw [hname, hfind]
  dsimp only
  split
  · rename_i htype
    refine iff_of_true hsame fun acme hacme => ?_
    obtain hca | hcf | hhttp := htype
    · exact .inl hca
    · -- the mask tells whether there is a token
      refine absurd ?_ hcf
      have h := congrArg Option.isNone hsecret
      simpa using h.symm
    · exact .inr (.inl hhttp)
  · rename_i htype
    obtain ⟨hca, -, hhttp⟩ : res.spec.caForTest.isNone = body.caForTest.isNone ∧
        res.spec.acmeCloudFlare.isNone = body.acmeCloudFlare.isNone ∧
        res.spec.http01.isNone = body.http01.isNone := by
      simpa using htype
    cases hacme : res.spec.acmeCloudFlare with
    | none =>
        refine iff_of_true ?_ fun _ h => nomatch h
        rw [hacme] at hsecret
        have hnone : body.acmeCloudFlare = none := Option.map_eq_none_iff.mp hsecret
        rw [hnone]
        dsimp only
        split
        · exact hsame
        · exact (keeps_issuer_of_written hfind hshown (.inr rfl) rfl).mpr fun _ => rfl
    | some acme =>
        rw [hacme] at hsecret
        obtain ⟨account, haccount, hmask⟩ := Option.map_eq_some_iff.mp hsecret
        have hstored : SecretsKept s ((reconcileSecretForIssuer s acme.apiTokenSecretName
            (str "***")).getD s) ↔
            SecretHolds s certManagerNamespace acme.apiTokenSecretName (tokenContent (str "***")) :=
          secretsKept_storeSecret fun _ => ⟨rfl, rfl, rfl⟩
        have hne : account.secret ≠ [] := by
          rw [hmask]
          show str "***" ≠ []
          decide
        have hright : (∀ a, some acme = some a → res.spec.caForTest.isNone ≠ body.caForTest.isNone ∨
            res.spec.http01.isNone ≠ body.http01.isNone ∨
            SecretHolds s certManagerNamespace a.apiTokenSecretName (tokenContent (str "***"))) ↔
            SecretHolds s certManagerNamespace acme.apiTokenSecretName (tokenContent (str "***")) := by
          constructor
          · exact fun h => ((h acme rfl).resolve_left (not_not.mpr hca)).resolve_left (not_not.mpr hhttp)
          · intro h a ha
            cases ha
            exact .inr (.inr h)
        rw [hright, haccount]
        dsimp only
        rw [if_neg hne, hmask]
        cases hrec : reconcileSecretForIssuer s acme.apiTokenSecretName (str "***") with
        | none =>
            rw [hrec] at hstored
            exact Iff.trans (hkeeps rfl) hstored
        | some s' =>
            rw [hrec] at hstored
            have hframe : s' = { s with secrets := s'.secrets } := storeSecret_frame hrec
            dsimp only
            split
            · exact Iff.trans (hkeeps hframe) hstored
            · refine Iff.trans (keeps_issuer_of_written hfind hshown (.inr ?_) ?_) hstored
              · rw [hframe]
              · rw [hframe]

end Issuer

/-! ## 4. What an edit keeps -/

/-- **An edit of what can be seen leaves the rest**: a client that may edit the cluster got an object and
    sends it back, with its name and with what stands for the secret as he got them. The hidden part is kept
    always for the single sign-on; for a registry, where its secret has the empty password; for an issuer,
    where it has no token. -/
theorem keeps_iff (env : Environment sum256) (adm : Admission) (c : Caller) (s : ApiState sum256) (e : Edit)
    (hcan : canEditCluster c.policies c.client = some true) (hgot : e.Got (env.withUpdates adm) c s)
    (hvisible : e.OnlyVisible) :
    e.Keeps s (serveRequest (env.withUpdates adm) c e.request s).2 ↔ e.Spared adm s := by
  have hserve : ∀ next : Handler sum256,
      requires (canEditCluster c.policies c.client) .noClusterEditorRole next s = next s := by
    intro next
    rw [hcan]
    rfl
  cases e with
  | sso got body =>
      refine iff_of_true ?_ trivial
      show (Edit.sso got body).Keeps s (requires _ _ (updateSSOConfig adm (some body)) s).2
      rw [hserve]
      exact keeps_updateSSOConfig adm hgot hvisible
  | registry got body =>
      show (Edit.registry got body).Keeps s (requires _ _ (updateDockerRegistry adm body) s).2 ↔ _
      rw [hserve]
      exact keeps_updateDockerRegistry adm hgot hvisible
  | issuer got body =>
      show (Edit.issuer got body).Keeps s (requires _ _ (updateHttpsCertIssuer adm body) s).2 ↔ _
      rw [hserve]
      exact keeps_updateHttpsCertIssuer adm hgot hvisible

/-! ### A registry with a password -/

/-- Webhooks that accept everything. -/
def permissive : Admission := ⟨fun _ => true, fun _ => true, fun _ _ => none⟩

/-- A client that may edit everything. -/
def clusterEditor : Caller where
  policies := ⟨[[str "user-bob", str "view", [star], [star]], [str "user-bob", str "edit", [star], [star]]], []⟩
  client := ⟨str "bob", none, [], []⟩
  name := str "bob"

/-- A registry. -/
def hubRegistry : DockerRegistryObject := ⟨str "hub", ⟨[], none⟩, ⟨true, []⟩⟩

/-- Its secret. -/
def hubSecret (password : Str) : Secret :=
  ⟨kalmSystemNamespace, getRegistryAuthenticationName (str "hub"), [], credentials (str "u") password⟩

/-- Its cluster. -/
def hubCluster (password : Str) : ApiState (fun _ => []) :=
  { ApiState.empty (fun _ => []) with
    dockerRegistries := .single hubRegistry
    secrets := .single (hubSecret password) }

/-- The registry, as it is shown, is sent back unchanged. -/
def hubEdit (password : Str) : Edit :=
  .registry (buildDockerRegistryFromResource hubRegistry (some (hubSecret password)))
    (buildDockerRegistryFromResource hubRegistry (some (hubSecret password)))

theorem canEditCluster_clusterEditor :
    canEditCluster clusterEditor.policies clusterEditor.client = some true := by decide +kernel

theorem got_hubEdit (password : Str) :
    (hubEdit password).Got (plainEnvironment.withUpdates permissive) clusterEditor
      (hubCluster password) := by
  have hcan : canViewRegistries clusterEditor = some true := by decide +kernel
  refine ⟨hubRegistry, List.mem_cons_self, rfl, .inr ?_⟩
  exact holds_requires.mpr ⟨hcan, holds_getting.mpr ⟨_, rfl, holds_items.mpr List.mem_cons_self⟩⟩

theorem keeps_hub :
    (hubEdit []).Keeps (hubCluster []) (serveRequest (plainEnvironment.withUpdates permissive) clusterEditor
      (hubEdit []).request (hubCluster [])).2 :=
  (keeps_iff plainEnvironment permissive clusterEditor (hubCluster []) (hubEdit [])
    canEditCluster_clusterEditor (got_hubEdit []) ⟨rfl, rfl, rfl⟩).mpr fun _ _ => .inr rfl

/-- **A registry that is sent back as it was got loses its password.** -/
theorem keeps_fails :
    ¬ ∀ (sum256 : Str → List UInt8) (env : Environment sum256) (adm : Admission) (c : Caller)
        (s : ApiState sum256) (e : Edit), canEditCluster c.policies c.client = some true →
          e.Got (env.withUpdates adm) c s → e.OnlyVisible →
            e.Keeps s (serveRequest (env.withUpdates adm) c e.request s).2 := by
  intro h
  have hkeeps := h (fun _ => []) plainEnvironment permissive clusterEditor (hubCluster (str "p"))
    (hubEdit (str "p")) canEditCluster_clusterEditor (got_hubEdit (str "p")) ⟨rfl, rfl, rfl⟩
  have hserve : ∀ body s, serveRequest (plainEnvironment.withUpdates permissive) clusterEditor
      (.updateRegistry (some body)) s = updateDockerRegistry permissive body s := by
    intro body s
    show requires (canEditCluster clusterEditor.policies clusterEditor.client) .noClusterEditorRole _ _ = _
    rw [canEditCluster_clusterEditor]
    rfl
  have hsecret := hkeeps.2.1 (kalmSystemNamespace, getRegistryAuthenticationName (str "hub"))
  rw [hubEdit, Edit.request, hserve] at hsecret
  have hdata : credentials (str "u") [] = credentials (str "u") (str "p") := Option.some.inj hsecret
  exact absurd (congrFun hdata (str "password")) (by decide)

end Kalm
