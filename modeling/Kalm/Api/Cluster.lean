/-
  File:      Kalm/Api/Cluster.lean
  Subject:   A CLUSTER IS INITIALIZED: `handleInitializeCluster` and `handleResetCluster` of api/handler/cluster.go
             over an API server where any call can fail.

  * `Kind`, `schema` -- the objects; which of them the server and its webhooks take is a parameter;
  * `getClusterInfo`, `handleInitializeCluster`, `handleResetCluster` -- the handlers;
  * `Fresh` -- none of the objects of an initialization is there; `Complete` -- all of them are, for the domain;
  * `returns_initialize_iff` -- an initialization in which nothing fails succeeds exactly from a fresh cluster;
  * `retried_iff` -- so it can be retried exactly where the first one has created nothing, after a reset exactly
    where the role binding of the domain is not there, and what it leaves is complete exactly where the service of
    the gateway was read, or the certificate is the domain's already.
-/
import Kalm.Api.RoleBindings
import Kalm.Go.Parse
import Kalm.Lib.Served

namespace Kalm.Setup

open Calls (Action Fault meet)
open Objects (Error Schema State Task invoke)
open RoleBindings (Caller getNameBaseOnRoleAndSubject)

/-! ## 1. Objects -/

/-- The service of the gateway: address and host name of each ingress of its load balancer. -/
structure IngressService where
  ns : Str
  name : Str
  ingress : List (Str × Str)
  deriving DecidableEq

/-- `HttpsCert`. -/
structure HttpsCert where
  name : Str
  httpsCertIssuer : Str
  domains : List Str
  deriving DecidableEq

/-- `HttpRoute`; of a destination the host and the weight. -/
structure HttpRoute where
  ns : Str
  name : Str
  hosts : List Str
  paths : List Str
  schemes : List Str
  methods : List Str
  httpRedirectToHttps : Bool
  destinations : List (Str × Nat)
  deriving DecidableEq

/-- `ProtectedEndpoint`. -/
structure ProtectedEndpoint where
  ns : Str
  name : Str
  endpointName : Str
  ports : List Nat
  allowToPassIfHasBearerToken : Bool
  deriving DecidableEq

/-- `TemporaryDexUser`. -/
structure TemporaryDexUser where
  username : Str
  passwordHash : Str
  userID : Str
  email : Str
  deriving DecidableEq

/-- `SingleSignOnConfig`. -/
structure SingleSignOnConfig where
  ns : Str
  name : Str
  domain : Str
  useHttp : Bool
  port : Option Nat
  temporaryUser : TemporaryDexUser
  deriving DecidableEq

/-- `RoleBinding`. -/
structure RoleBinding where
  ns : Str
  name : Str
  subject : Str
  subjectType : SubjectType
  role : Role
  creator : Str
  deriving DecidableEq

/-- The kinds of objects. -/
inductive Kind where
  | service
  | cert
  | route
  | endpoint
  | sso
  | binding
  deriving DecidableEq

namespace Kind

/-- The objects of a kind. -/
@[reducible] def Obj : Kind → Type
  | service => IngressService
  | cert => HttpsCert
  | route => HttpRoute
  | endpoint => ProtectedEndpoint
  | sso => SingleSignOnConfig
  | binding => RoleBinding

/-- Namespace and name; the namespace is empty where the kind has none. -/
def key : (k : Kind) → k.Obj → Str × Str
  | service, v => (v.ns, v.name)
  | cert, v => ([], v.name)
  | route, v => (v.ns, v.name)
  | endpoint, v => (v.ns, v.name)
  | sso, v => (v.ns, v.name)
  | binding, v => (v.ns, v.name)

instance : (k : Kind) → DecidableEq k.Obj
  | service => inferInstanceAs (DecidableEq IngressService)
  | cert => inferInstanceAs (DecidableEq HttpsCert)
  | route => inferInstanceAs (DecidableEq HttpRoute)
  | endpoint => inferInstanceAs (DecidableEq ProtectedEndpoint)
  | sso => inferInstanceAs (DecidableEq SingleSignOnConfig)
  | binding => inferInstanceAs (DecidableEq RoleBinding)

end Kind

/-- The API server, with what it and its webhooks take. -/
@[reducible] def schema (valid : (k : Kind) → k.Obj → Bool) : Schema where
  Kind := Kind
  Key := Str × Str
  Obj := Kind.Obj
  key := fun {k} obj => k.key obj
  valid := fun {k} obj => valid k obj

section Handlers

variable (valid : (k : Kind) → k.Obj → Bool)

/-- What is stored. -/
abbrev Cluster := State (schema valid)

/-- A program of a handler. -/
abbrev ClusterTask := Task (schema valid)

/-- A call whose error the handler returns. -/
abbrev call (c : Objects.Call (schema valid)) : ClusterTask valid c.Reply := invoke c

/-- A call whose error the handler looks at. -/
abbrev attempt (c : Objects.Call (schema valid)) : ClusterTask valid (Except Error c.Reply) := Action.tryCall c

/-! ## 2. The state of a cluster -/

/-- `strconv.ParseUint(s, 0, 64)`; an error is `none`. -/
def parseUint (s : Str) : Option Nat :=
  if s = [] then none
  else
    let r := parseUintLoop (basePrefix s).1 (2 ^ 64 - 1) 0 (basePrefix s).2
    if r.2 = false ∨ (95 ∈ s ∧ underscoreOK s = false) then none else some r.1

/-- `strconv.ParseInt(s, 0, 0)`; an error is `none`. -/
def parseInt (s : Str) : Option Int :=
  match s with
  | 45 :: digits => (parseUint digits).bind fun n => if n ≤ 2 ^ 63 then some (-(n : Int)) else none
  | 43 :: digits => (parseUint digits).bind fun n => if n < 2 ^ 63 then some (n : Int) else none
  | digits => (parseUint digits).bind fun n => if n < 2 ^ 63 then some (n : Int) else none

/-- `isPrivateIP`. -/
def isPrivateIP (ip : Str) : Bool :=
  match ip.splitOn dot with
  | [part0, part1, _, _] =>
    if part0 = str "10" ∨ (part0 = str "192" ∧ part1 = str "168") then true
    else if part0 = str "172" then
      match parseInt part1 with
      | none => false
      | some part2 => 16 ≤ part2 && part2 ≤ 31
    else false
  | _ => false

/-- `ClusterInfo`; the versions are left out. -/
structure ClusterInfo where
  ingressIP : Str
  ingressHostname : Str
  isProduction : Bool
  httpPort : Nat
  httpsPort : Nat
  tlsPort : Nat
  canBeInitialized : Bool
  deriving DecidableEq

/-- `KalmRouteCertName`. -/
def kalmRouteCertName : Str := str "kalm-cert"

/-- `KalmRouteName`. -/
def kalmRouteName : Str := str "kalm-route"

/-- `KalmProtectedEndpointName`. -/
def kalmProtectedEndpointName : Str := str "kalm"

/-- `SSO_NAME`. -/
def ssoName : Str := str "sso"

/-- `KALM_DEX_NAMESPACE`. -/
def kalmDexNamespace : Str := str "kalm-system"

/-- The key of the service of the gateway. -/
def gatewayKey : Str × Str := (str "istio-system", str "istio-ingressgateway")

/-- Address and host name of the first ingress. -/
def ingressOf : Except Error (Objects.Versioned (schema valid) Kind.service) → Str × Str
  | .error _ => ([], [])
  | .ok v => (IngressService.ingress v.obj).headD ([], [])

/-- The cluster is in production: its gateway has a public address. -/
def isProductionIP (ip : Str) : Bool := ip ≠ [] && !isPrivateIP ip

/-- `errors.IsNotFound`. -/
def isNotFound {α : Type} : Except Error α → Bool
  | .error .notFound => true
  | _ => false

/-- What is made of the answers in `getClusterInfo`; the address is for those who can see the cluster. -/
def clusterInfoOf (canView : Bool) (ingress : Str × Str) (certNotFound routeNotFound ssoNotFound : Bool) :
    ClusterInfo where
  ingressIP := if canView then ingress.1 else []
  ingressHostname := if canView then ingress.2 else []
  isProduction := isProductionIP ingress.1
  httpPort := 80
  httpsPort := 443
  tlsPort := 15443
  canBeInitialized :=
    if isProductionIP ingress.1 then certNotFound && routeNotFound && ssoNotFound else routeNotFound && ssoNotFound

/-- `getClusterInfo`. -/
def getClusterInfo (canView : Bool) : ClusterTask valid ClusterInfo := do
  let ingressService ← attempt valid (.get .service gatewayKey)
  let cert ← attempt valid (.get .cert ([], kalmRouteCertName))
  let route ← attempt valid (.get .route (kalmDexNamespace, kalmRouteName))
  let sso ← attempt valid (.get .sso (kalmDexNamespace, ssoName))
  pure (clusterInfoOf canView (ingressOf valid ingressService) (isNotFound cert) (isNotFound route) (isNotFound sso))

/-! ## 3. The objects of an initialization -/

/-- `utils.RandPassword`, its hash, and `uuid.New()`. -/
structure Secrets where
  password : Str
  passwordHash : Str
  userID : Str

/-- `TemporaryAdmin`. -/
structure TemporaryAdmin where
  username : Str
  email : Str
  password : Str
  deriving DecidableEq

/-- The e-mail of the temporary user. -/
def adminEmail (domain : Str) : Str := str "admin@" ++ domain

/-- The certificate. -/
def kalmCert (domain : Str) : HttpsCert := ⟨kalmRouteCertName, str "default-http01-issuer", [domain]⟩

/-- The route. -/
def kalmRoute (isProduction : Bool) (domain : Str) : HttpRoute where
  ns := kalmSystemNamespace
  name := kalmRouteName
  hosts := [domain]
  paths := [[slash]]
  schemes := if isProduction then [str "https", str "http"] else [str "http"]
  methods := [str "GET", str "HEAD", str "POST", str "PUT", str "PATCH", str "DELETE", str "OPTIONS", str "TRACE",
    str "CONNECT"]
  httpRedirectToHttps := isProduction
  destinations := [(str "kalm.kalm-system.svc.cluster.local:80", 1)]

/-- `getProtectedEndpointCRDNameFromEndpointName`. -/
def endpointCRDName (endpointName : Str) : Str := str "component-" ++ endpointName

/-- The protected endpoint. -/
def kalmEndpoint : ProtectedEndpoint :=
  ⟨kalmSystemNamespace, endpointCRDName kalmProtectedEndpointName, kalmProtectedEndpointName, [3001], true⟩

/-- The SSO config. -/
def kalmSSO (isProduction : Bool) (secrets : Secrets) (domain : Str) : SingleSignOnConfig where
  ns := kalmDexNamespace
  name := ssoName
  domain := domain
  useHttp := !isProduction
  port := if isProduction then none else some 80
  temporaryUser := ⟨str "admin", secrets.passwordHash, secrets.userID, adminEmail domain⟩

/-- The role binding of the temporary user. -/
def ownerBinding (md5 : Str → Str) (creator domain : Str) : RoleBinding where
  ns := kalmSystemNamespace
  name := getNameBaseOnRoleAndSubject md5 kalmSystemNamespace Role.clusterOwner.value (adminEmail domain)
  subject := adminEmail domain
  subjectType := .user
  role := .clusterOwner
  creator := creator

/-! ## 4. The handlers -/

/-- The errors of the handlers that no call returns. -/
inductive Refusal where
  | noClusterOwnerRole
  | alreadyInitialized
  | bind
  deriving DecidableEq

/-- `SetupClusterResponse`. -/
structure SetupClusterResponse where
  cert : HttpsCert
  route : HttpRoute
  sso : SingleSignOnConfig
  temporaryUser : TemporaryAdmin
  clusterInfo : ClusterInfo

/-- The objects behind the certificate are created, one after the other. -/
def createOthers (md5 : Str → Str) (c : Caller) (secrets : Secrets) (info : ClusterInfo) (domain : Str) :
    ClusterTask valid (Except Refusal SetupClusterResponse) := do
  call valid (.create .route (kalmRoute info.isProduction domain))
  call valid (.create .endpoint kalmEndpoint)
  call valid (.create .sso (kalmSSO info.isProduction secrets domain))
  call valid (.create .binding (ownerBinding md5 c.name domain))
  pure (.ok ⟨kalmCert domain, kalmRoute info.isProduction domain, kalmSSO info.isProduction secrets domain,
    ⟨str "admin", adminEmail domain, secrets.password⟩, info⟩)

/-- The objects are created. -/
def setupCluster (md5 : Str → Str) (c : Caller) (secrets : Secrets) (info : ClusterInfo) (domain : Str) :
    ClusterTask valid (Except Refusal SetupClusterResponse) := do
  if info.isProduction then
    call valid (.create .cert (kalmCert domain))
    createOthers valid md5 c secrets info domain
  else createOthers valid md5 c secrets info domain

/-- `handleInitializeCluster`; the body is `none` where `Bind` fails. -/
def handleInitializeCluster (md5 : Str → Str) (P : PolicySet) (c : Caller) (secrets : Secrets) (body : Option Str) :
    ClusterTask valid (Except Refusal SetupClusterResponse) :=
  match canManageCluster P c.client with
  | none => .crash
  | some false => pure (.error .noClusterOwnerRole)
  | some true => do
    let info ← getClusterInfo valid ((canViewCluster P c.client).getD false)
    if info.canBeInitialized = false then pure (.error .alreadyInitialized)
    else
      match body with
      | none => pure (.error .bind)
      | some domain => setupCluster valid md5 c secrets info domain

/-- `handleResetCluster`: what the deletes return is ignored. -/
def handleResetCluster (P : PolicySet) (c : Caller) : ClusterTask valid (Except Refusal Unit) :=
  match canManageCluster P c.client with
  | none => .crash
  | some false => pure (.error .noClusterOwnerRole)
  | some true => do
    let _ ← attempt valid (.delete .route (kalmSystemNamespace, kalmRouteName))
    let _ ← attempt valid (.delete .cert ([], kalmRouteCertName))
    let _ ← attempt valid (.delete .sso (kalmDexNamespace, ssoName))
    let _ ← attempt valid (.delete .endpoint (kalmSystemNamespace, endpointCRDName kalmProtectedEndpointName))
    pure (.ok ())

end Handlers

/-! ## 5. Fresh clusters -/

variable {valid : (k : Kind) → k.Obj → Bool} {α : Type}

/-- A run of a program. -/
abbrev runTask (p : ClusterTask valid α) (faults : List Fault) (s : Cluster valid) :
    Calls.Outcome Error α × Cluster valid :=
  Calls.run Objects.serve .unavailable p faults s

/-- The answer to a read that meets a fault. -/
def answer (fault : Fault) (k : Kind) (key : Str × Str) (s : Cluster valid) :
    Except Error (Objects.Versioned (schema valid) k) :=
  (meet Objects.serve .unavailable fault (.get k key) s).1

/-- The cluster is in production. -/
def isProduction (s : Cluster valid) : Bool :=
  isProductionIP (ingressOf valid (answer .served .service gatewayKey s)).1

/-- The key of the role binding for a domain. -/
def bindingKey (md5 : Str → Str) (domain : Str) : Str × Str :=
  (kalmSystemNamespace,
    getNameBaseOnRoleAndSubject md5 kalmSystemNamespace Role.clusterOwner.value (adminEmail domain))

/-- None of the objects of an initialization is there. -/
structure Fresh (md5 : Str → Str) (domain : Str) (s : Cluster valid) : Prop where
  cert : isProduction s = true → s.get .cert ([], kalmRouteCertName) = none
  route : s.get .route (kalmSystemNamespace, kalmRouteName) = none
  endpoint : s.get .endpoint (kalmSystemNamespace, endpointCRDName kalmProtectedEndpointName) = none
  sso : s.get .sso (kalmDexNamespace, ssoName) = none
  binding : s.get .binding (bindingKey md5 domain) = none

/-- The API server and its webhooks take the objects for a domain. -/
structure Accepted (valid : (k : Kind) → k.Obj → Bool) (md5 : Str → Str) (domain : Str) : Prop where
  cert : valid .cert (kalmCert domain) = true
  route : ∀ production, valid .route (kalmRoute production domain) = true
  endpoint : valid .endpoint kalmEndpoint = true
  sso : ∀ production secrets, valid .sso (kalmSSO production secrets domain) = true
  binding : ∀ creator, valid .binding (ownerBinding md5 creator domain) = true

/-! ## 6. What is read -/

/-- What `getClusterInfo` returns. -/
def infoRead (canView : Bool) (faults : List Fault) (s : Cluster valid) : ClusterInfo :=
  clusterInfoOf canView (ingressOf valid (answer (faults.getD 0 .served) .service gatewayKey s))
    (isNotFound (answer (faults.getD 1 .served) .cert ([], kalmRouteCertName) s))
    (isNotFound (answer (faults.getD 2 .served) .route (kalmDexNamespace, kalmRouteName) s))
    (isNotFound (answer (faults.getD 3 .served) .sso (kalmDexNamespace, ssoName) s))

/-- **The reads change nothing.** -/
theorem run_getClusterInfo (canView : Bool) (k : ClusterInfo → ClusterTask valid α) (faults : List Fault)
    (s : Cluster valid) :
    runTask (getClusterInfo valid canView >>= k) faults s =
      runTask (k (infoRead canView faults s)) faults.tail.tail.tail.tail s := by
  refine (Calls.run_call Objects.serve Error.unavailable (.get Kind.service gatewayKey) _ faults s).trans ?_
  rw [Objects.meet_get]
  refine (Calls.run_call Objects.serve Error.unavailable (.get Kind.cert ([], kalmRouteCertName)) _ _ s).trans ?_
  rw [Objects.meet_get]
  refine (Calls.run_call Objects.serve Error.unavailable (.get Kind.route (kalmDexNamespace, kalmRouteName)) _ _
    s).trans ?_
  rw [Objects.meet_get]
  refine (Calls.run_call Objects.serve Error.unavailable (.get Kind.sso (kalmDexNamespace, ssoName)) _ _ s).trans ?_
  rw [Objects.meet_get]
  simp only [Calls.headD_eq_getD, Calls.tail_getD]
  rfl

/-- A client that cannot manage the cluster changes nothing and gets no answer. -/
theorem run_initialize_refused {md5 : Str → Str} {P : PolicySet} {c : Caller}
    (h : canManageCluster P c.client ≠ some true) (secrets : Secrets) (body : Option Str) (faults : List Fault)
    (s : Cluster valid) :
    (∀ resp, (runTask (handleInitializeCluster valid md5 P c secrets body) faults s).1 ≠ .returned (.ok resp)) ∧
      (runTask (handleInitializeCluster valid md5 P c secrets body) faults s).2 = s := by
  unfold handleInitializeCluster
  split
  · exact ⟨nofun, rfl⟩
  · exact ⟨nofun, rfl⟩
  · exact absurd ‹_› h

/-- What `getClusterInfo` returns for a client. -/
abbrev infoFor (P : PolicySet) (c : Caller) (faults : List Fault) (s : Cluster valid) : ClusterInfo :=
  infoRead ((canViewCluster P c.client).getD false) faults s

/-- A cluster that cannot be initialized is left as it is. -/
theorem run_initialize_initialized {md5 : Str → Str} {P : PolicySet} {c : Caller}
    (h : canManageCluster P c.client = some true) (secrets : Secrets) (body : Option Str) {faults : List Fault}
    {s : Cluster valid} (hinfo : (infoFor P c faults s).canBeInitialized = false) :
    runTask (handleInitializeCluster valid md5 P c secrets body) faults s =
      (.returned (.error .alreadyInitialized), s) := by
  unfold handleInitializeCluster
  rw [h]
  refine (run_getClusterInfo _ _ faults s).trans ?_
  rw [if_pos hinfo]
  rfl

/-- A cluster that can be initialized is set up. -/
theorem run_initialize_setup (md5 : Str → Str) {P : PolicySet} {c : Caller}
    (h : canManageCluster P c.client = some true) (secrets : Secrets) (domain : Str) {faults : List Fault}
    {s : Cluster valid} (hinfo : (infoFor P c faults s).canBeInitialized = true) :
    runTask (handleInitializeCluster valid md5 P c secrets (some domain)) faults s =
      runTask (setupCluster valid md5 c secrets (infoFor P c faults s) domain) faults.tail.tail.tail.tail s := by
  have hne : ¬ (infoFor P c faults s).canBeInitialized = false := by
    rw [hinfo]
    exact Bool.noConfusion
  unfold handleInitializeCluster
  rw [h]
  refine (run_getClusterInfo _ _ faults s).trans ?_
  rw [if_neg hne]

/-! ## 7. What is created -/

/-- The objects behind the certificate are there. -/
def withOthers (md5 : Str → Str) (c : Caller) (secrets : Secrets) (info : ClusterInfo) (domain : Str)
    (s : Cluster valid) : Cluster valid :=
  (((s.put Kind.route (kalmRoute info.isProduction domain)).put Kind.endpoint kalmEndpoint).put Kind.sso
    (kalmSSO info.isProduction secrets domain)).put Kind.binding (ownerBinding md5 c.name domain)

/-- The objects behind the certificate can be created. -/
structure OthersCreatable (md5 : Str → Str) (c : Caller) (secrets : Secrets) (info : ClusterInfo) (domain : Str)
    (s : Cluster valid) : Prop where
  route : Objects.Creatable (k := Kind.route) s (kalmRoute info.isProduction domain)
  endpoint : Objects.Creatable (k := Kind.endpoint) s kalmEndpoint
  sso : Objects.Creatable (k := Kind.sso) s (kalmSSO info.isProduction secrets domain)
  binding : Objects.Creatable (k := Kind.binding) s (ownerBinding md5 c.name domain)

variable {md5 : Str → Str} {c : Caller} {secrets : Secrets} {info : ClusterInfo} {domain : Str} {s t : Cluster valid}
  {faults : List Fault}

/-- A program that creates an object of one kind leaves those of another to be created. -/
theorem creatable_put {k l : Kind} (hkind : k ≠ l) (obj : k.Obj) (other : l.Obj) (s : Cluster valid) :
    Objects.Creatable (S := schema valid) (k := k) (State.put (S := schema valid) s l other) obj ↔
      Objects.Creatable (S := schema valid) (k := k) s obj :=
  Objects.creatable_put (S := schema valid) hkind other

theorem returned_createOthers {r : Except Refusal SetupClusterResponse}
    (h : runTask (createOthers valid md5 c secrets info domain) faults s = (.returned r, t)) :
    OthersCreatable md5 c secrets info domain s ∧ (∃ resp, r = .ok resp) ∧
      t = withOthers md5 c secrets info domain s := by
  obtain ⟨hroute, h⟩ := Objects.returned_create h
  obtain ⟨hendpoint, h⟩ := Objects.returned_create h
  obtain ⟨hsso, h⟩ := Objects.returned_create h
  obtain ⟨hbinding, h⟩ := Objects.returned_create h
  obtain ⟨hr, ht⟩ := Prod.mk.inj h
  rw [creatable_put (by decide)] at hendpoint
  rw [creatable_put (by decide), creatable_put (by decide)] at hsso
  rw [creatable_put (by decide), creatable_put (by decide), creatable_put (by decide)] at hbinding
  exact ⟨⟨hroute, hendpoint, hsso, hbinding⟩, ⟨_, (Calls.Outcome.returned.inj hr).symm⟩, ht.symm⟩

theorem run_createOthers (h : OthersCreatable md5 c secrets info domain s) :
    ∃ resp, runTask (createOthers valid md5 c secrets info domain) [] s =
      (.returned (.ok resp), withOthers md5 c secrets info domain s) := by
  have hendpoint := h.endpoint
  have hsso := h.sso
  have hbinding := h.binding
  rw [← creatable_put (l := .route) (by decide) _ (kalmRoute info.isProduction domain)] at hendpoint hsso hbinding
  rw [← creatable_put (l := .endpoint) (by decide) _ kalmEndpoint] at hsso hbinding
  rw [← creatable_put (l := .sso) (by decide) _ (kalmSSO info.isProduction secrets domain)] at hbinding
  have hrun := ((Objects.run_create_nil _ h.route).trans ((Objects.run_create_nil _ hendpoint).trans
    ((Objects.run_create_nil _ hsso).trans (Objects.run_create_nil (Action.done (Except.ok (ε := Refusal)
      (⟨kalmCert domain, kalmRoute info.isProduction domain, kalmSSO info.isProduction secrets domain,
        ⟨str "admin", adminEmail domain, secrets.password⟩, info⟩ : SetupClusterResponse))) hbinding))))
  exact ⟨_, hrun⟩

/-- The objects of another kind are as they were. -/
theorem get_withOthers (s : Cluster valid) {k : Kind} (hroute : k ≠ .route) (hendpoint : k ≠ .endpoint)
    (hsso : k ≠ .sso) (hbinding : k ≠ .binding) (key : Str × Str) :
    (withOthers md5 c secrets info domain s).get k key = s.get k key := by
  unfold withOthers
  rw [State.get_put_of_ne (S := schema valid) hbinding, State.get_put_of_ne (S := schema valid) hsso,
    State.get_put_of_ne (S := schema valid) hendpoint, State.get_put_of_ne (S := schema valid) hroute]

/-- The certificate is there, where the cluster is in production. -/
def withCert (info : ClusterInfo) (domain : Str) (s : Cluster valid) : Cluster valid :=
  if info.isProduction then s.put Kind.cert (kalmCert domain) else s

/-- All objects can be created. -/
structure AllCreatable (md5 : Str → Str) (c : Caller) (secrets : Secrets) (info : ClusterInfo) (domain : Str)
    (s : Cluster valid) : Prop where
  cert : info.isProduction = true → Objects.Creatable (k := Kind.cert) s (kalmCert domain)
  others : OthersCreatable md5 c secrets info domain s

theorem othersCreatable_withCert :
    OthersCreatable md5 c secrets info domain (withCert info domain s) ↔
      OthersCreatable md5 c secrets info domain s := by
  unfold withCert
  split
  · have hroute : (Kind.route : (schema valid).Kind) ≠ Kind.cert := nofun
    have hendpoint : (Kind.endpoint : (schema valid).Kind) ≠ Kind.cert := nofun
    have hsso : (Kind.sso : (schema valid).Kind) ≠ Kind.cert := nofun
    have hbinding : (Kind.binding : (schema valid).Kind) ≠ Kind.cert := nofun
    constructor
    · intro h
      exact ⟨(Objects.creatable_put hroute _).mp h.route, (Objects.creatable_put hendpoint _).mp h.endpoint,
        (Objects.creatable_put hsso _).mp h.sso, (Objects.creatable_put hbinding _).mp h.binding⟩
    · intro h
      exact ⟨(Objects.creatable_put hroute _).mpr h.route, (Objects.creatable_put hendpoint _).mpr h.endpoint,
        (Objects.creatable_put hsso _).mpr h.sso, (Objects.creatable_put hbinding _).mpr h.binding⟩
  · exact Iff.rfl

/-- **A setup that returns has created all objects.** -/
theorem returned_setupCluster {r : Except Refusal SetupClusterResponse}
    (h : runTask (setupCluster valid md5 c secrets info domain) faults s = (.returned r, t)) :
    AllCreatable md5 c secrets info domain s ∧ (∃ resp, r = .ok resp) ∧
      t = withOthers md5 c secrets info domain (withCert info domain s) := by
  unfold setupCluster at h
  split at h
  · rename_i hproduction
    obtain ⟨hcert, h⟩ := Objects.returned_create h
    obtain ⟨hothers, hr, ht⟩ := returned_createOthers h
    have hwith : withCert info domain s = s.put Kind.cert (kalmCert domain) := if_pos hproduction
    rw [← hwith] at hothers ht
    exact ⟨⟨fun _ => hcert, othersCreatable_withCert.mp hothers⟩, hr, ht⟩
  · rename_i hproduction
    obtain ⟨hothers, hr, ht⟩ := returned_createOthers h
    have hwith : withCert info domain s = s := if_neg hproduction
    rw [← hwith] at ht
    exact ⟨⟨fun h => absurd h hproduction, hothers⟩, hr, ht⟩

/-- **A setup in which nothing fails returns**, where all objects can be created. -/
theorem run_setupCluster (h : AllCreatable md5 c secrets info domain s) :
    ∃ resp t, runTask (setupCluster valid md5 c secrets info domain) [] s = (.returned (.ok resp), t) := by
  unfold setupCluster
  split
  · rename_i hproduction
    have hwith : withCert info domain s = s.put Kind.cert (kalmCert domain) := if_pos hproduction
    have hothers := othersCreatable_withCert.mpr h.others
    rw [hwith] at hothers
    obtain ⟨resp, hrun⟩ := run_createOthers hothers
    exact ⟨resp, _, (Objects.run_create_nil _ (h.cert hproduction)).trans hrun⟩
  · obtain ⟨resp, hrun⟩ := run_createOthers h.others
    exact ⟨resp, _, hrun⟩

/-! ## 8. When an initialization succeeds -/

theorem answer_served (k : Kind) (key : Str × Str) (s : Cluster valid) :
    answer .served k key s = match s.get k key with
      | some v => .ok v
      | none => .error .notFound := by
  unfold answer
  rw [meet, Objects.serve]
  cases s.get k key <;> rfl

theorem answer_of_ne {fault : Fault} (h : fault ≠ .served) (k : Kind) (key : Str × Str) (s : Cluster valid) :
    answer fault k key s = .error .unavailable := by
  cases fault with
  | served => exact absurd rfl h
  | refused => rfl
  | lost => rfl

/-- A read says that there is no object where there is none, and the read is served. -/
theorem isNotFound_answer {fault : Fault} {k : Kind} {key : Str × Str} {s : Cluster valid} :
    isNotFound (answer fault k key s) = true ↔ fault = .served ∧ s.get k key = none := by
  by_cases hfault : fault = .served
  · rw [hfault, answer_served]
    cases s.get k key with
    | none => exact ⟨fun _ => ⟨rfl, rfl⟩, fun _ => rfl⟩
    | some v => exact ⟨fun h => (by cases h), fun h => (by cases h.2)⟩
  · rw [answer_of_ne hfault]
    exact ⟨fun h => (by cases h), fun h => absurd h.1 hfault⟩

/-- The cluster is seen to be in production where it is, and the service of the gateway is read. -/
theorem isProduction_infoRead {canView : Bool} {faults : List Fault} {s : Cluster valid} :
    (infoRead canView faults s).isProduction = true ↔ isProduction s = true ∧ faults.getD 0 .served = .served := by
  by_cases hfault : faults.getD 0 .served = .served
  · unfold infoRead
    rw [hfault]
    exact (and_iff_left rfl).symm
  · unfold infoRead
    rw [answer_of_ne hfault]
    exact ⟨fun h => (by cases h), fun h => absurd h.2 hfault⟩

/-- **When the cluster can be initialized.** -/
theorem canBeInitialized_infoRead {canView : Bool} {faults : List Fault} {s : Cluster valid} :
    (infoRead canView faults s).canBeInitialized = true ↔
      ((infoRead canView faults s).isProduction = true →
        faults.getD 1 .served = .served ∧ s.get .cert ([], kalmRouteCertName) = none) ∧
      (faults.getD 2 .served = .served ∧ s.get .route (kalmDexNamespace, kalmRouteName) = none) ∧
      (faults.getD 3 .served = .served ∧ s.get .sso (kalmDexNamespace, ssoName) = none) := by
  have hdef : (infoRead canView faults s).canBeInitialized =
      if (infoRead canView faults s).isProduction then
        isNotFound (answer (faults.getD 1 .served) .cert ([], kalmRouteCertName) s) &&
          isNotFound (answer (faults.getD 2 .served) .route (kalmDexNamespace, kalmRouteName) s) &&
          isNotFound (answer (faults.getD 3 .served) .sso (kalmDexNamespace, ssoName) s)
      else
        isNotFound (answer (faults.getD 2 .served) .route (kalmDexNamespace, kalmRouteName) s) &&
          isNotFound (answer (faults.getD 3 .served) .sso (kalmDexNamespace, ssoName) s) := rfl
  rw [hdef]
  cases (infoRead canView faults s).isProduction with
  | true =>
      rw [if_pos rfl, Bool.and_eq_true, Bool.and_eq_true, isNotFound_answer, isNotFound_answer, isNotFound_answer,
        and_assoc]
      exact and_congr_left' ⟨fun h _ => h, fun h => h rfl⟩
  | false =>
      rw [if_neg Bool.false_ne_true, Bool.and_eq_true, isNotFound_answer, isNotFound_answer]
      exact (and_iff_right fun h => absurd h Bool.false_ne_true).symm

/-- Of a fresh cluster all objects can be created. -/
theorem Fresh.allCreatable (haccepted : Accepted valid md5 domain) (h : Fresh md5 domain s)
    (hinfo : info.isProduction = true → isProduction s = true) :
    AllCreatable md5 c secrets info domain s where
  cert := fun hproduction => ⟨haccepted.cert, h.cert (hinfo hproduction)⟩
  others := {
    route := ⟨haccepted.route _, h.route⟩
    endpoint := ⟨haccepted.endpoint, h.endpoint⟩
    sso := ⟨haccepted.sso _ _, h.sso⟩
    binding := ⟨haccepted.binding _, h.binding⟩ }

/-- An initialization that returns an answer has set the cluster up. -/
theorem initialize_eq_ok {P : PolicySet} {resp : SetupClusterResponse}
    (h : (runTask (handleInitializeCluster valid md5 P c secrets (some domain)) faults s).1 = .returned (.ok resp)) :
    canManageCluster P c.client = some true ∧ AllCreatable md5 c secrets (infoFor P c faults s) domain s ∧
      (runTask (handleInitializeCluster valid md5 P c secrets (some domain)) faults s).2 =
        withOthers md5 c secrets (infoFor P c faults s) domain (withCert (infoFor P c faults s) domain s) := by
  by_cases hcan : canManageCluster P c.client = some true
  · cases hinfo : (infoFor P c faults s).canBeInitialized with
    | false =>
        rw [run_initialize_initialized hcan secrets (some domain) hinfo] at h
        cases h
    | true =>
        have hrun := run_initialize_setup md5 hcan secrets domain hinfo
        rw [hrun] at h ⊢
        obtain ⟨hall, _, ht⟩ := returned_setupCluster (Prod.ext h rfl)
        exact ⟨hcan, hall, ht⟩
  · exact absurd h ((run_initialize_refused hcan secrets (some domain) faults s).1 resp)

/-- **An initialization in which nothing fails** succeeds exactly from a fresh cluster. -/
theorem returns_initialize_iff (haccepted : Accepted valid md5 domain) (P : PolicySet) (c : Caller)
    (secrets : Secrets) (s : Cluster valid) :
    (∃ resp, (runTask (handleInitializeCluster valid md5 P c secrets (some domain)) [] s).1 = .returned (.ok resp)) ↔
      canManageCluster P c.client = some true ∧ Fresh md5 domain s := by
  have hproduction : (infoFor P c [] s).isProduction = true ↔ _ := isProduction_infoRead
  constructor
  · rintro ⟨resp, h⟩
    obtain ⟨hcan, hall, _⟩ := initialize_eq_ok h
    refine ⟨hcan, fun hs => (hall.cert (hproduction.mpr ⟨hs, rfl⟩)).2, hall.others.route.2, hall.others.endpoint.2,
      hall.others.sso.2, hall.others.binding.2⟩
  · rintro ⟨hcan, hfresh⟩
    have hinfo : (infoFor P c [] s).canBeInitialized = true :=
      canBeInitialized_infoRead.mpr ⟨fun h => ⟨rfl, hfresh.cert (hproduction.mp h).1⟩, ⟨rfl, hfresh.route⟩,
        ⟨rfl, hfresh.sso⟩⟩
    have hall : AllCreatable md5 c secrets (infoFor P c [] s) domain s :=
      Fresh.allCreatable haccepted hfresh fun h => (hproduction.mp h).1
    obtain ⟨resp, t, hrun⟩ := run_setupCluster hall
    exact ⟨resp, congrArg Prod.fst ((run_initialize_setup md5 hcan secrets domain hinfo).trans hrun)⟩

/-! ## 9. What a failed initialization leaves -/

/-- The calls of an initialization: it reads and creates, and leaves the service of the gateway alone. -/
def ReadsOrCreates (c : Objects.Call (schema valid)) : Prop :=
  (∀ k, Objects.DeletesOnly k (fun _ => False) c) ∧ Objects.LeavesKind (S := schema valid) Kind.service c

theorem readsOrCreates_get (k : Kind) (key : Str × Str) :
    ReadsOrCreates (Objects.Call.get k key : Objects.Call (schema valid)) :=
  ⟨fun _ _ h => (by cases h), fun _ h => (by cases h), fun _ h => (by cases h), fun _ h => (by cases h)⟩

theorem readsOrCreates_create {k : Kind} (hkind : k ≠ .service) (obj : k.Obj) :
    ReadsOrCreates (Objects.Call.create k obj : Objects.Call (schema valid)) :=
  ⟨fun _ _ h => (by cases h), fun _ h => (by cases h; exact hkind rfl), fun _ h => (by cases h),
    fun _ h => (by cases h)⟩

theorem uses_createOthers : Calls.Uses ReadsOrCreates (createOthers valid md5 c secrets info domain) := by
  refine Calls.uses_bind (Calls.uses_invoke (readsOrCreates_create (by decide) _)) fun _ => ?_
  refine Calls.uses_bind (Calls.uses_invoke (readsOrCreates_create (by decide) _)) fun _ => ?_
  refine Calls.uses_bind (Calls.uses_invoke (readsOrCreates_create (by decide) _)) fun _ => ?_
  exact Calls.uses_bind (Calls.uses_invoke (readsOrCreates_create (by decide) _)) fun _ => trivial

theorem uses_setupCluster : Calls.Uses ReadsOrCreates (setupCluster valid md5 c secrets info domain) := by
  unfold setupCluster
  split
  · exact Calls.uses_bind (Calls.uses_invoke (readsOrCreates_create (by decide) _)) fun _ => uses_createOthers
  · exact uses_createOthers

theorem uses_getClusterInfo (canView : Bool) : Calls.Uses ReadsOrCreates (getClusterInfo valid canView) := by
  refine Calls.uses_tryCall (readsOrCreates_get _ _) fun _ => ?_
  refine Calls.uses_tryCall (readsOrCreates_get _ _) fun _ => ?_
  refine Calls.uses_tryCall (readsOrCreates_get _ _) fun _ => ?_
  exact Calls.uses_tryCall (readsOrCreates_get _ _) fun _ => trivial

theorem uses_handleInitializeCluster (P : PolicySet) (body : Option Str) :
    Calls.Uses ReadsOrCreates (handleInitializeCluster valid md5 P c secrets body) := by
  unfold handleInitializeCluster
  split
  · trivial
  · trivial
  · refine Calls.uses_bind (uses_getClusterInfo _) fun info => ?_
    split
    · trivial
    · split
      · trivial
      · exact uses_setupCluster

/-- **What is there stays there.** -/
theorem isSome_of_readsOrCreates {p : ClusterTask valid α} (hp : Calls.Uses ReadsOrCreates p) {k : Kind}
    {key : Str × Str} (h : (s.get k key).isSome) : ((runTask p faults s).2.get k key).isSome :=
  Objects.get_isSome_of_uses (hp.mono fun _ hc => hc.1 k) key id faults h

theorem none_of_readsOrCreates {p : ClusterTask valid α} (hp : Calls.Uses ReadsOrCreates p) {k : Kind}
    {key : Str × Str} (h : (runTask p faults s).2.get k key = none) : s.get k key = none := by
  by_contra hsome
  have hstays : ((runTask p faults s).2.get k key).isSome :=
    isSome_of_readsOrCreates hp (Option.isSome_iff_ne_none.mpr hsome)
  rw [h] at hstays
  cases hstays

/-- **The cluster is in production as before.** -/
theorem isProduction_of_readsOrCreates {p : ClusterTask valid α} (hp : Calls.Uses ReadsOrCreates p) :
    isProduction (runTask p faults s).2 = isProduction s := by
  have hservice : (runTask p faults s).2.get .service gatewayKey = s.get .service gatewayKey :=
    Objects.get_eq_of_uses (hp.mono fun _ hc => hc.2) gatewayKey faults s
  unfold isProduction
  rw [answer_served, answer_served, hservice]

/-- A cluster that is fresh behind an initialization has been fresh before. -/
theorem Fresh.of_run {p : ClusterTask valid α} (hp : Calls.Uses ReadsOrCreates p)
    (h : Fresh md5 domain (runTask p faults s).2) : Fresh md5 domain s where
  cert := fun hs => none_of_readsOrCreates hp (h.cert (by rwa [isProduction_of_readsOrCreates hp]))
  route := none_of_readsOrCreates hp h.route
  endpoint := none_of_readsOrCreates hp h.endpoint
  sso := none_of_readsOrCreates hp h.sso
  binding := none_of_readsOrCreates hp h.binding

/-- An initialization of a fresh cluster comes to its first create: the reads it needs are served. -/
structure Started (P : PolicySet) (c : Caller) (faults : List Fault) (s : Cluster valid) : Prop where
  manages : canManageCluster P c.client = some true
  route : faults.getD 2 .served = .served
  sso : faults.getD 3 .served = .served
  cert : isProduction s = true → faults.getD 0 .served = .served → faults.getD 1 .served = .served

theorem started_iff {P : PolicySet} (hfresh : Fresh md5 domain s) :
    Started P c faults s ↔
      canManageCluster P c.client = some true ∧ (infoFor P c faults s).canBeInitialized = true := by
  rw [canBeInitialized_infoRead, isProduction_infoRead]
  constructor
  · intro h
    exact ⟨h.manages, fun hproduction => ⟨h.cert hproduction.1 hproduction.2, hfresh.cert hproduction.1⟩,
      ⟨h.route, hfresh.route⟩, ⟨h.sso, hfresh.sso⟩⟩
  · intro ⟨hcan, hcert, hroute, hsso⟩
    exact ⟨hcan, hroute.1, hsso.1, fun hproduction hserved => (hcert ⟨hproduction, hserved⟩).1⟩

/-- A setup whose first create is refused leaves the cluster as it is. -/
theorem setupCluster_refused (h : faults.headD .served = .refused) :
    (runTask (setupCluster valid md5 c secrets info domain) faults s).2 = s := by
  unfold setupCluster
  split
  · exact Objects.run_create_refused _ _ s h
  · exact Objects.run_create_refused _ _ s h

/-- **A setup whose first create is not refused** leaves an object that is in the way. -/
theorem setupCluster_not_fresh (hall : AllCreatable md5 c secrets info domain s)
    (hinfo : info.isProduction = true → isProduction s = true) (h : faults.headD .served ≠ .refused) :
    ¬ Fresh md5 domain (runTask (setupCluster valid md5 c secrets info domain) faults s).2 := by
  intro hfresh
  have huses : Calls.Uses ReadsOrCreates (createOthers valid md5 c secrets info domain) := uses_createOthers
  by_cases hproduction : info.isProduction = true
  · have hsome := Objects.run_create_isSome (huses.mono fun _ hc => hc.1 Kind.cert) id (hall.cert hproduction) h
    have hcert := hfresh.cert
    rw [isProduction_of_readsOrCreates uses_setupCluster] at hcert
    have hnone := hcert (hinfo hproduction)
    unfold setupCluster at hnone
    rw [if_pos hproduction] at hnone
    exact Option.isSome_iff_ne_none.mp hsome hnone
  · have htail := huses.2 (.ok ())
    have hsome := Objects.run_create_isSome (htail.mono fun _ hc => hc.1 Kind.route) id hall.others.route h
    have hnone := hfresh.route
    unfold setupCluster at hnone
    rw [if_neg hproduction] at hnone
    exact Option.isSome_iff_ne_none.mp hsome hnone

/-- **After an initialization**, failed or not: the next one succeeds exactly where the cluster was fresh, and the
    first create was not reached or was refused. -/
theorem returns_retry_iff (haccepted : Accepted valid md5 domain) {P : PolicySet} {c : Caller} {secrets : Secrets}
    {faults : List Fault} {s : Cluster valid} (P' : PolicySet) (c' : Caller) (secrets' : Secrets) :
    (∃ resp, (runTask (handleInitializeCluster valid md5 P' c' secrets' (some domain)) []
        (runTask (handleInitializeCluster valid md5 P c secrets (some domain)) faults s).2).1 =
          .returned (.ok resp)) ↔
      canManageCluster P' c'.client = some true ∧ Fresh md5 domain s ∧
        (Started P c faults s → faults.getD 4 .served = .refused) := by
  rw [returns_initialize_iff haccepted]
  refine and_congr_right fun _ => ?_
  constructor
  · intro hfresh
    have hbefore := Fresh.of_run (uses_handleInitializeCluster P (some domain)) hfresh
    refine ⟨hbefore, fun hstarted => ?_⟩
    obtain ⟨hcan, hinfo⟩ := (started_iff hbefore).mp hstarted
    rw [run_initialize_setup md5 hcan secrets domain hinfo] at hfresh
    by_contra hfault
    have hhead : faults.tail.tail.tail.tail.headD .served ≠ .refused := by
      simpa only [Calls.headD_eq_getD, Calls.tail_getD] using hfault
    exact setupCluster_not_fresh (Fresh.allCreatable haccepted hbefore fun h => (isProduction_infoRead.mp h).1)
      (fun h => (isProduction_infoRead.mp h).1) hhead hfresh
  · intro ⟨hbefore, hrefused⟩
    have hsame : (runTask (handleInitializeCluster valid md5 P c secrets (some domain)) faults s).2 = s := by
      by_cases hcan : canManageCluster P c.client = some true
      · cases hinfo : (infoFor P c faults s).canBeInitialized with
        | false => rw [run_initialize_initialized hcan secrets (some domain) hinfo]
        | true =>
            rw [run_initialize_setup md5 hcan secrets domain hinfo]
            refine setupCluster_refused ?_
            have hfault := hrefused ((started_iff hbefore).mpr ⟨hcan, hinfo⟩)
            simpa only [Calls.headD_eq_getD, Calls.tail_getD] using hfault
      · exact (run_initialize_refused hcan secrets (some domain) faults s).2
    rwa [hsame]

/-! ## 10. After a reset -/

/-- What a reset leaves. -/
def afterReset (s : Cluster valid) : Cluster valid :=
  (((s.cleared .route (kalmSystemNamespace, kalmRouteName)).cleared .cert ([], kalmRouteCertName)).cleared .sso
    (kalmDexNamespace, ssoName)).cleared .endpoint (kalmSystemNamespace, endpointCRDName kalmProtectedEndpointName)

theorem run_reset {P : PolicySet} {c : Caller} (h : canManageCluster P c.client = some true) (s : Cluster valid) :
    runTask (handleResetCluster valid P c) [] s = (.returned (.ok ()), afterReset s) := by
  unfold handleResetCluster
  rw [h]
  refine (Objects.run_attempt_delete (S := schema valid) Kind.route _ _ s).trans ?_
  refine (Objects.run_attempt_delete (S := schema valid) Kind.cert _ _ _).trans ?_
  refine (Objects.run_attempt_delete (S := schema valid) Kind.sso _ _ _).trans ?_
  exact Objects.run_attempt_delete (S := schema valid) Kind.endpoint _ _ _

theorem get_cleared_of_ne {k l : Kind} (h : l ≠ k) (s : Cluster valid) (key key' : Str × Str) :
    State.get (S := schema valid) (State.cleared (S := schema valid) s k key) l key' = s.get l key' :=
  Objects.get_cleared_of_ne (S := schema valid) h s key key'

/-- **After a reset the cluster is fresh**, except for the role binding. -/
theorem fresh_afterReset : Fresh md5 domain (afterReset s) ↔ s.get .binding (bindingKey md5 domain) = none := by
  have hbinding : (afterReset s).get .binding (bindingKey md5 domain) = s.get .binding (bindingKey md5 domain) := by
    unfold afterReset
    rw [get_cleared_of_ne (by decide), get_cleared_of_ne (by decide), get_cleared_of_ne (by decide),
      get_cleared_of_ne (by decide)]
  constructor
  · intro h
    rw [← hbinding]
    exact h.binding
  · intro h
    refine ⟨fun _ => ?_, ?_, ?_, ?_, hbinding.trans h⟩
    · unfold afterReset
      rw [get_cleared_of_ne (by decide), get_cleared_of_ne (by decide)]
      exact Objects.get_cleared
    · unfold afterReset
      rw [get_cleared_of_ne (by decide), get_cleared_of_ne (by decide), get_cleared_of_ne (by decide)]
      exact Objects.get_cleared
    · exact Objects.get_cleared
    · unfold afterReset
      rw [get_cleared_of_ne (by decide)]
      exact Objects.get_cleared

/-! ## 11. What a successful initialization leaves -/

/-- The objects of an initialization are there, for this domain. -/
structure Complete (md5 : Str → Str) (domain : Str) (s : Cluster valid) : Prop where
  cert : isProduction s = true → ∃ v, s.get .cert ([], kalmRouteCertName) = some v ∧
    HttpsCert.domains v.obj = [domain]
  route : ∃ v, s.get .route (kalmSystemNamespace, kalmRouteName) = some v ∧ HttpRoute.hosts v.obj = [domain]
  endpoint : ∃ v, s.get .endpoint (kalmSystemNamespace, endpointCRDName kalmProtectedEndpointName) = some v ∧
    ProtectedEndpoint.endpointName v.obj = kalmProtectedEndpointName
  sso : ∃ v, s.get .sso (kalmDexNamespace, ssoName) = some v ∧ SingleSignOnConfig.domain v.obj = domain ∧
    (SingleSignOnConfig.temporaryUser v.obj).email = adminEmail domain
  binding : ∃ v, s.get .binding (bindingKey md5 domain) = some v ∧ RoleBinding.subject v.obj = adminEmail domain ∧
    RoleBinding.role v.obj = .clusterOwner

theorem get_put_self (s : Cluster valid) (k : Kind) (obj : k.Obj) :
    ∃ v, State.get (S := schema valid) (State.put (S := schema valid) s k obj) k (k.key obj) = some v ∧
      Objects.Versioned.obj v = obj := by
  rw [State.get_put, if_pos rfl]
  exact ⟨_, rfl, rfl⟩

theorem get_put_of_ne {k l : Kind} (h : l ≠ k) (s : Cluster valid) (obj : k.Obj) (key : Str × Str) :
    State.get (S := schema valid) (State.put (S := schema valid) s k obj) l key = s.get l key :=
  State.get_put_of_ne (S := schema valid) h key

/-- **What a setup leaves is complete** where the certificate is this domain's. -/
theorem complete_withOthers (hs : isProduction t = isProduction s)
    (ht : t = withOthers md5 c secrets info domain (withCert info domain s)) :
    Complete md5 domain t ↔
      (isProduction s = true → info.isProduction = true ∨
        ∃ v, s.get .cert ([], kalmRouteCertName) = some v ∧ HttpsCert.domains v.obj = [domain]) := by
  have hcert : t.get .cert ([], kalmRouteCertName) = (withCert info domain s).get .cert ([], kalmRouteCertName) := by
    rw [ht]
    exact get_withOthers _ (by decide) (by decide) (by decide) (by decide) _
  constructor
  · intro h hproduction
    by_cases hinfo : info.isProduction = true
    · exact Or.inl hinfo
    · have hwith : withCert info domain s = s := if_neg hinfo
      rw [hwith] at hcert
      rw [← hcert]
      exact Or.inr (h.cert (hs.trans hproduction))
  · intro h
    refine ⟨fun hproduction => ?_, ?_, ?_, ?_, ?_⟩
    · rw [hcert]
      by_cases hinfo : info.isProduction = true
      · have hwith : withCert info domain s = s.put Kind.cert (kalmCert domain) := if_pos hinfo
        obtain ⟨v, hv, hobj⟩ := get_put_self s Kind.cert (kalmCert domain)
        exact ⟨v, by rw [hwith]; exact hv, by rw [hobj]; rfl⟩
      · have hwith : withCert info domain s = s := if_neg hinfo
        rw [hwith]
        exact (h (hs.symm.trans hproduction)).resolve_left hinfo
    · rw [ht]
      unfold withOthers
      rw [get_put_of_ne (by decide), get_put_of_ne (by decide), get_put_of_ne (by decide)]
      obtain ⟨v, hv, hobj⟩ := get_put_self (withCert info domain s) Kind.route (kalmRoute info.isProduction domain)
      exact ⟨v, hv, by rw [hobj]; rfl⟩
    · rw [ht]
      unfold withOthers
      rw [get_put_of_ne (by decide), get_put_of_ne (by decide)]
      obtain ⟨v, hv, hobj⟩ := get_put_self _ Kind.endpoint kalmEndpoint
      exact ⟨v, hv, by rw [hobj]; rfl⟩
    · rw [ht]
      unfold withOthers
      rw [get_put_of_ne (by decide)]
      obtain ⟨v, hv, hobj⟩ := get_put_self _ Kind.sso (kalmSSO info.isProduction secrets domain)
      exact ⟨v, hv, by rw [hobj]; rfl, by rw [hobj]; rfl⟩
    · rw [ht]
      obtain ⟨v, hv, hobj⟩ := get_put_self _ Kind.binding (ownerBinding md5 c.name domain)
      exact ⟨v, hv, by rw [hobj]; rfl, by rw [hobj]; rfl⟩

/-- **A successful initialization is complete** exactly where the service of the gateway was read, or the certificate
    that is there is this domain's. -/
theorem complete_of_returned {P : PolicySet} {resp : SetupClusterResponse}
    (h : (runTask (handleInitializeCluster valid md5 P c secrets (some domain)) faults s).1 = .returned (.ok resp)) :
    Complete md5 domain (runTask (handleInitializeCluster valid md5 P c secrets (some domain)) faults s).2 ↔
      (isProduction s = true → faults.getD 0 .served = .served ∨
        ∃ v, s.get .cert ([], kalmRouteCertName) = some v ∧ HttpsCert.domains v.obj = [domain]) := by
  obtain ⟨_, _, ht⟩ := initialize_eq_ok h
  rw [complete_withOthers (isProduction_of_readsOrCreates (uses_handleInitializeCluster P (some domain))) ht]
  refine forall_congr' fun hproduction => or_congr_left ?_
  rw [isProduction_infoRead]
  exact and_iff_right hproduction

/-! ## 12. Initialization and reset -/

/-- **An initialization can be retried**, whatever has become of the one before, exactly where the cluster was fresh
    and the first create was not reached or was refused; **after a reset** it succeeds exactly where the role binding
    of the domain is not there; and **what a successful one leaves** is complete exactly where the service of the
    gateway was read, or the certificate that is there is this domain's. -/
theorem retried_iff {valid : (k : Kind) → k.Obj → Bool} {md5 : Str → Str} {domain : Str}
    (haccepted : Accepted valid md5 domain) (P P' : PolicySet) (c c' : Caller) (secrets secrets' : Secrets)
    (faults : List Fault) (s : Cluster valid) :
    ((∃ resp, (runTask (handleInitializeCluster valid md5 P' c' secrets' (some domain)) []
        (runTask (handleInitializeCluster valid md5 P c secrets (some domain)) faults s).2).1 =
          .returned (.ok resp)) ↔
      canManageCluster P' c'.client = some true ∧ Fresh md5 domain s ∧
        (Started P c faults s → faults.getD 4 .served = .refused)) ∧
    (canManageCluster P c.client = some true →
      ((∃ resp, (runTask (handleInitializeCluster valid md5 P' c' secrets' (some domain)) []
        (runTask (handleResetCluster valid P c) [] s).2).1 = .returned (.ok resp)) ↔
      canManageCluster P' c'.client = some true ∧ s.get .binding (bindingKey md5 domain) = none)) ∧
    ∀ resp, (runTask (handleInitializeCluster valid md5 P c secrets (some domain)) faults s).1 =
        .returned (.ok resp) →
      (Complete md5 domain (runTask (handleInitializeCluster valid md5 P c secrets (some domain)) faults s).2 ↔
        (isProduction s = true → faults.getD 0 .served = .served ∨
          ∃ v, s.get .cert ([], kalmRouteCertName) = some v ∧ HttpsCert.domains v.obj = [domain])) := by
  refine ⟨returns_retry_iff haccepted P' c' secrets', fun hcan => ?_, fun resp h => complete_of_returned h⟩
  rw [run_reset hcan, returns_initialize_iff haccepted, fresh_afterReset]

/-- A server that takes every object. -/
abbrev takesAll : (k : Kind) → k.Obj → Bool := fun _ _ => true

/-- Olga can manage the cluster. -/
def olga : Caller := ⟨⟨str "olga", some [], [], []⟩, str "olga"⟩

/-- The policies of the cluster. -/
def olgaPolicies : PolicySet := ⟨[[str "user-olga", str "manage", [star], [star]]], []⟩

/-- The gateway has a public address, and there is nothing else. -/
def publicGateway : Cluster takesAll :=
  State.put (S := schema takesAll) ⟨fun _ => .empty, 0⟩ Kind.service
    ⟨str "istio-system", str "istio-ingressgateway", [(str "8.8.8.8", [])]⟩

theorem fresh_publicGateway (md5 : Str → Str) (domain : Str) : Fresh md5 domain publicGateway :=
  ⟨fun _ => rfl, rfl, rfl, rfl, rfl⟩

theorem isProduction_publicGateway : isProduction publicGateway = true := by decide

theorem accepted_takesAll (md5 : Str → Str) (domain : Str) : Accepted takesAll md5 domain :=
  ⟨rfl, fun _ => rfl, rfl, fun _ _ => rfl, fun _ => rfl⟩

/-- Secrets. -/
def someSecrets : Secrets := ⟨str "password", str "hash", str "id"⟩

/-- The certificate cannot be read at first. -/
theorem retried_olga :
    ∃ resp, (runTask (handleInitializeCluster takesAll id olgaPolicies olga someSecrets (some (str "example.com"))) []
      (runTask (handleInitializeCluster takesAll id olgaPolicies olga someSecrets (some (str "example.com")))
        [.served, .refused] publicGateway).2).1 = .returned (.ok resp) :=
  (retried_iff (accepted_takesAll id (str "example.com")) olgaPolicies olgaPolicies olga olga someSecrets someSecrets
    [.served, .refused] publicGateway).1.mpr
    ⟨by decide, fresh_publicGateway _ _,
      fun h => absurd (h.cert isProduction_publicGateway rfl) (fun e => Fault.noConfusion e)⟩

/-- The route is refused behind the certificate: the cluster counts as initialized. -/
theorem retried_fails :
    ¬ ∀ (P : PolicySet) (c : Caller) (secrets : Secrets) (domain : Str) (faults : List Fault) (s : Cluster takesAll),
      canManageCluster P c.client = some true →
      (∀ resp, (runTask (handleInitializeCluster takesAll id P c secrets (some domain)) faults s).1 ≠
        .returned (.ok resp)) →
      ∃ resp, (runTask (handleInitializeCluster takesAll id P c secrets (some domain)) []
        (runTask (handleInitializeCluster takesAll id P c secrets (some domain)) faults s).2).1 =
          .returned (.ok resp) := by
  intro h
  have hcan : canManageCluster olgaPolicies olga.client = some true := by decide
  have hfails : (runTask (handleInitializeCluster takesAll id olgaPolicies olga someSecrets
      (some (str "example.com"))) [.served, .served, .served, .served, .served, .refused] publicGateway).1 =
        .failed .unavailable := rfl
  have hretried := h olgaPolicies olga someSecrets (str "example.com")
    [.served, .served, .served, .served, .served, .refused] publicGateway hcan
    fun resp e => by rw [hfails] at e; cases e
  have hrefused := ((returns_retry_iff (accepted_takesAll id _) _ _ _).mp hretried).2.2
    ⟨hcan, rfl, rfl, fun _ _ => rfl⟩
  cases hrefused

end Kalm.Setup
