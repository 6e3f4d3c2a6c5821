/-
  File:      Kalm/Docker/Registries.lean
  Subject:   DOCKER REGISTRIES of the API server: `GetDockerRegistry` and `CreateDockerRegistry` of
             api/resources/docker_registry.go. A registry is in two objects, itself and the secret with its
             credentials; two goroutines see to them and assign one error variable.

  * `Registry`, `Secret`, `registrySchema`, `secretSchema` -- the objects;
  * `getLeft`, `getRight`, `createLeft`, `createRight` -- the goroutines;
  * `GetReported`, `CreateReported` -- no error is lost, and what failed leaves nothing behind;
  * `reported_iff` -- that is so exactly where both calls come to the same.
-/
import Kalm.Api.Objects
import Kalm.Go.Url
import Kalm.Lib.Joined
import Kalm.Lib.Served
import Kalm.Route.Envoy

namespace Kalm.Docker

open Calls (Action Fault Outcome meet)
open Joined (Half Thread)
open Objects (Error Schema State Task Versioned Creatable)

/-! ## 1. Objects -/

/-- `RepositoryTag`. -/
structure RepositoryTag where
  name : Str
  manifest : Str
  timeCreatedMs : Str
  timeUploadedMs : Str
  deriving DecidableEq

/-- `Repository`. -/
structure Repository where
  name : Str
  tags : List RepositoryTag
  deriving DecidableEq

/-- `DockerRegistryStatus`. -/
structure RegistryStatus where
  authenticationVerified : Bool
  repositories : List Repository
  deriving DecidableEq

/-- `v1alpha1.DockerRegistry`. -/
structure Registry where
  name : Str
  spec : DockerRegistrySpec
  status : RegistryStatus
  deriving DecidableEq

/-- `Secret`; `owner` is its controller, by kind and name. -/
structure Secret where
  ns : Str
  name : Str
  labels : ObjectLabels
  type : Str
  data : ObjectLabels
  owner : Option (Str × Str)
  deriving DecidableEq

/-- `Namespace`; `terminating` where it has a deletion timestamp. -/
structure Namespace where
  name : Str
  labels : ObjectLabels
  terminating : Bool
  deriving DecidableEq

/-- `resources.DockerRegistry`; its spec is a pointer. -/
structure RegistryResource where
  spec : Option DockerRegistrySpec
  status : Option RegistryStatus
  name : Str
  username : Str
  password : Str
  deriving DecidableEq

/-- `isValidURL`. -/
def isValidURL (s : Str) : Bool := (URL.parse s).any fun u => u.scheme ≠ [] && u.host ≠ []

/-- `DockerRegistry.validate` finds nothing. -/
def validSpec (spec : DockerRegistrySpec) : Bool :=
  (spec.host = [] || isValidURL spec.host) && !(spec.poolingIntervalSeconds.any fun interval => interval ≤ 0)

/-- The registries. -/
@[reducible] def registrySchema : Schema where
  Kind := Unit
  Key := Str
  Obj := fun _ => Registry
  key := Registry.name
  valid := fun registry => validSpec registry.spec
  decObj := fun _ => inferInstance

/-- The kinds of the other objects. -/
inductive Kind where
  | ns
  | secret
  deriving DecidableEq

namespace Kind

/-- The objects of a kind. -/
@[reducible] def Obj : Kind → Type
  | ns => Namespace
  | secret => Secret

/-- Namespace and name. -/
def key : (k : Kind) → k.Obj → Str × Str
  | ns, v => ([], v.name)
  | secret, v => (v.ns, v.name)

instance : (k : Kind) → DecidableEq k.Obj
  | ns => inferInstanceAs (DecidableEq Namespace)
  | secret => inferInstanceAs (DecidableEq Secret)

end Kind

/-- The secrets and their namespaces. The type of a secret, which cannot change, is left out. -/
@[reducible] def secretSchema : Schema where
  Kind := Kind
  Key := Str × Str
  Obj := Kind.Obj
  key := fun {k} obj => k.key obj
  valid := fun _ => true

/-- The registries that are stored. -/
abbrev Registries := State registrySchema

/-- The secrets that are stored. -/
abbrev Secrets := State secretSchema

/-! ## 2. The goroutines -/

/-- The variables that the goroutines share. -/
structure Shared where
  registry : Registry
  secret : Secret
  err : Option Error

/-- An error is assigned, `nil` as well. -/
def Shared.assignErr {α : Type} (o : Outcome Error α) (v : Shared) : Shared :=
  match o with
  | .returned _ => { v with err := none }
  | .failed e => { v with err := some e }
  | .crashed => v

/-- The registry that is read, and the error. -/
def Shared.assignRegistry (o : Outcome Error (Versioned registrySchema ())) (v : Shared) : Shared :=
  match o with
  | .returned found => { v with registry := found.obj, err := none }
  | o => v.assignErr o

/-- The secret that is read, and the error. -/
def Shared.assignSecret (o : Outcome Error (Versioned secretSchema .secret)) (v : Shared) : Shared :=
  match o with
  | .returned found => { v with secret := found.obj, err := none }
  | o => v.assignErr o

/-- A registry and a secret that were not read. -/
def unread : Shared := ⟨⟨[], ⟨[], none⟩, ⟨false, []⟩⟩, ⟨[], [], ∅, [], ∅, none⟩, none⟩

/-- The key of the credentials of a registry. -/
def authenticationKey (name : Str) : Str × Str := (kalmSystemNamespace, getRegistryAuthenticationName name)

/-- The registry is read. -/
def getLeft : Half (Objects.Call registrySchema) Objects.Call.Reply Error (Versioned registrySchema ()) Registries
    Shared :=
  ⟨Objects.serve, .unavailable, Shared.assignRegistry⟩

/-- The secret is read. -/
def getRight : Half (Objects.Call secretSchema) Objects.Call.Reply Error (Versioned secretSchema .secret) Secrets
    Shared :=
  ⟨Objects.serve, .unavailable, Shared.assignSecret⟩

/-- The registry is created. -/
def createLeft : Half (Objects.Call registrySchema) Objects.Call.Reply Error Unit Registries Shared :=
  ⟨Objects.serve, .unavailable, Shared.assignErr⟩

/-- The secret is created. -/
def createRight : Half (Objects.Call secretSchema) Objects.Call.Reply Error Unit Secrets Shared :=
  ⟨Objects.serve, .unavailable, Shared.assignErr⟩

/-- A call of `GetDockerRegistry`. -/
abbrev getRegistry (name : Str) : Objects.Call registrySchema := .get () name

/-- The other one. -/
abbrev getSecret (name : Str) : Objects.Call secretSchema := .get (S := secretSchema) .secret (authenticationKey name)

/-- A goroutine of one call, and what becomes of the call. -/
def single {S : Schema} (c : Objects.Call S) (fault : Fault) (s : State S) :
    Thread (Objects.Call S) Objects.Call.Reply Error c.Reply (State S) :=
  ⟨some (Objects.invoke c), [fault], s⟩

/-- The registry of a request. -/
def RegistryResource.toRegistry (r : RegistryResource) : Registry where
  name := r.name
  spec := r.spec.getD ⟨[], none⟩
  status := ⟨false, []⟩

/-- The secret of a request. -/
def RegistryResource.toSecret (r : RegistryResource) : Secret where
  ns := kalmSystemNamespace
  name := getRegistryAuthenticationName r.name
  labels := ∅
  type := []
  data := ((∅ : ObjectLabels).insert (str "username") r.username).insert (str "password") r.password
  owner := none

/-- A call of `CreateDockerRegistry`. -/
abbrev createRegistry (r : RegistryResource) : Objects.Call registrySchema := .create () r.toRegistry

/-- The other one. -/
abbrev createSecret (r : RegistryResource) : Objects.Call secretSchema :=
  .create (S := secretSchema) .secret r.toSecret

/-- `buildDockerRegistryFromResource`: the password is left out. -/
def buildRegistryResource (registry : Registry) (secret : Secret) : RegistryResource where
  spec := some registry.spec
  status := some registry.status
  name := registry.name
  username := (secret.data.lookup (str "username")).getD []
  password := []

/-- What `GetDockerRegistry` returns behind its `wg.Wait()`. -/
def Shared.result (v : Shared) : Except Error RegistryResource :=
  match v.err with
  | some e => .error e
  | none => .ok (buildRegistryResource v.registry v.secret)

/-- What `CreateDockerRegistry` returns behind its `wg.Wait()`. -/
def Shared.created (v : Shared) (r : RegistryResource) : Except Error RegistryResource :=
  match v.err with
  | some e => .error e
  | none => .ok (buildRegistryResource r.toRegistry r.toSecret)

/-- `GetDockerRegistry` can return `result`, when its calls meet these faults. -/
def Gets (name : Str) (f g : Fault) (registries : Registries) (secrets : Secrets)
    (result : Except Error RegistryResource) : Prop :=
  ∃ x y v, Joined.Ends getLeft getRight (single (getRegistry name) f registries)
    (single (getSecret name) g secrets) unread x y v ∧ v.result = result

/-- `CreateDockerRegistry` can return `result` and leave `x` and `y`. -/
def Creates (r : RegistryResource) (f g : Fault) (registries : Registries) (secrets : Secrets) (x : Registries)
    (y : Secrets) (result : Except Error RegistryResource) : Prop :=
  ∃ v, Joined.Ends createLeft createRight (single (createRegistry r) f registries)
    (single (createSecret r) g secrets) unread x y v ∧ v.created r = result

/-! ## 3. What it is for -/

/-- A call is answered without an error. -/
def Succeeds {S : Schema} (c : Objects.Call S) (fault : Fault) (s : State S) : Prop :=
  ∃ v, (meet Objects.serve .unavailable fault c s).1 = .ok v

/-- `GetDockerRegistry` returns without an error only where both calls have. -/
def GetReported (name : Str) (f g : Fault) (registries : Registries) (secrets : Secrets) : Prop :=
  ∀ resource, Gets name f g registries secrets (.ok resource) →
    Succeeds (getRegistry name) f registries ∧ Succeeds (getSecret name) g secrets

/-- `CreateDockerRegistry` returns without an error only where both calls have; with an error it leaves nothing
    behind, and where the names were free the request can be made again. -/
structure CreateReported (r : RegistryResource) (f g : Fault) (registries : Registries) (secrets : Secrets) :
    Prop where
  ok : ∀ x y resource, Creates r f g registries secrets x y (.ok resource) →
    Succeeds (createRegistry r) f registries ∧ Succeeds (createSecret r) g secrets
  nothing : ∀ x y e, Creates r f g registries secrets x y (.error e) → x = registries ∧ y = secrets
  again : ∀ x y e, Creates r f g registries secrets x y (.error e) →
    Creatable (S := registrySchema) (k := ()) registries r.toRegistry →
    Creatable (S := secretSchema) (k := .secret) secrets r.toSecret →
    ∀ x' y' result, Creates r .served .served x y x' y' result → ∃ resource, result = .ok resource

/-! ## 4. One call -/

section Single

variable {S : Schema} {k : S.Kind} {c : Objects.Call S} {obj : S.Obj k} {fault : Fault} {s : State S}

/-- The call writes the object, whether or not it is answered. -/
def Stores (obj : S.Obj k) (fault : Fault) (s : State S) : Prop := fault ≠ .refused ∧ Creatable s obj

theorem result_single (assign : Outcome Error c.Reply → Shared → Shared) :
    (single c fault s).result ⟨Objects.serve, .unavailable, assign⟩ =
      (some (Calls.answered (meet Objects.serve .unavailable fault c s).1),
        (meet Objects.serve .unavailable fault c s).2) := by
  have hrun := Calls.run_invoke_only Objects.serve Error.unavailable c fault s
  exact congrArg (fun x => (some (Prod.fst x), Prod.snd x)) hrun

theorem put_ne : s.put k obj ≠ s := fun h => absurd (congrArg State.revision h) (Nat.succ_ne_self _)

/-- **A create** is answered, or its answer is lost, or it stores nothing. -/
theorem meet_create_cases (obj : S.Obj k) (fault : Fault) (s : State S) :
    (Stores obj fault s ∧ meet Objects.serve .unavailable fault (.create k obj) s = (.ok (), s.put k obj)) ∨
      (Stores obj fault s ∧ meet Objects.serve .unavailable fault (.create k obj) s =
        (.error .unavailable, s.put k obj)) ∨
      (¬ Stores obj fault s ∧ ∃ e, meet Objects.serve .unavailable fault (.create k obj) s = (.error e, s)) := by
  rcases Objects.meet_create_cases obj fault s with ⟨rfl, hcreatable, hmeet⟩ | ⟨rfl, hcreatable, hmeet⟩ | h
  · exact Or.inl ⟨⟨by decide, hcreatable⟩, hmeet⟩
  · exact Or.inr (Or.inl ⟨⟨by decide, hcreatable⟩, hmeet⟩)
  · exact Or.inr (Or.inr h)

end Single

/-! ## 5. Both calls -/

variable {name : Str} {r : RegistryResource} {f g : Fault} {registries x : Registries} {secrets y : Secrets}

/-- The variables behind a get. -/
theorem ends_get_iff {v : Shared} : Joined.Ends getLeft getRight (single (getRegistry name) f registries)
      (single (getSecret name) g secrets) unread x y v ↔
    x = (meet Objects.serve .unavailable f (getRegistry name) registries).2 ∧
    y = (meet Objects.serve .unavailable g (getSecret name) secrets).2 ∧
    (v = Shared.assignSecret (Calls.answered (meet Objects.serve .unavailable g (getSecret name) secrets).1)
        (unread.assignRegistry
          (Calls.answered (meet Objects.serve .unavailable f (getRegistry name) registries).1)) ∨
      v = Shared.assignRegistry (Calls.answered (meet Objects.serve .unavailable f (getRegistry name) registries).1)
        (unread.assignSecret (Calls.answered (meet Objects.serve .unavailable g (getSecret name) secrets).1))) := by
  have hleft : (single (getRegistry name) f registries).result getLeft =
      (some (Calls.answered (meet Objects.serve .unavailable f (getRegistry name) registries).1),
        (meet Objects.serve .unavailable f (getRegistry name) registries).2) :=
    result_single (c := getRegistry name) Shared.assignRegistry
  have hright : (single (getSecret name) g secrets).result getRight =
      (some (Calls.answered (meet Objects.serve .unavailable g (getSecret name) secrets).1),
        (meet Objects.serve .unavailable g (getSecret name) secrets).2) :=
    result_single (c := getSecret name) Shared.assignSecret
  rw [Joined.ends_iff, hleft, hright]
  rfl

/-- **A get is answered without an error** where one of its calls is: that goroutine may be the last. -/
theorem gets_ok_iff : (∃ resource, Gets name f g registries secrets (.ok resource)) ↔
    Succeeds (getRegistry name) f registries ∨ Succeeds (getSecret name) g secrets := by
  simp only [Gets, ends_get_iff, Succeeds]
  cases (meet Objects.serve .unavailable f (getRegistry name) registries).1 with
  | ok registry =>
      refine iff_of_true ?_ (Or.inl ⟨registry, rfl⟩)
      cases (meet Objects.serve .unavailable g (getSecret name) secrets).1 with
      | ok secret => exact ⟨_, _, _, _, ⟨rfl, rfl, Or.inr rfl⟩, rfl⟩
      | error e => exact ⟨_, _, _, _, ⟨rfl, rfl, Or.inr rfl⟩, rfl⟩
  | error e =>
      cases (meet Objects.serve .unavailable g (getSecret name) secrets).1 with
      | ok secret => exact iff_of_true ⟨_, _, _, _, ⟨rfl, rfl, Or.inl rfl⟩, rfl⟩ (Or.inr ⟨secret, rfl⟩)
      | error e' =>
          refine iff_of_false (fun h => ?_) fun h => ?_
          · obtain ⟨resource, x, y, v, ⟨_, _, rfl | rfl⟩, hresult⟩ := h
            · cases hresult
            · cases hresult
          · rcases h with ⟨v, hv⟩ | ⟨v, hv⟩
            · cases hv
            · cases hv

/-- What `CreateDockerRegistry` makes of the last answer. -/
def madeOf (r : RegistryResource) : Except Error Unit → Except Error RegistryResource
  | .ok _ => .ok (buildRegistryResource r.toRegistry r.toSecret)
  | .error e => .error e

theorem created_assignErr (answer : Except Error Unit) (v : Shared) :
    (v.assignErr (Calls.answered answer)).created r = madeOf r answer := by
  cases answer <;> rfl

/-- **A create comes to what the last of the goroutines has been answered.** -/
theorem creates_iff {result : Except Error RegistryResource} : Creates r f g registries secrets x y result ↔
    x = (meet Objects.serve .unavailable f (createRegistry r) registries).2 ∧
    y = (meet Objects.serve .unavailable g (createSecret r) secrets).2 ∧
    (result = madeOf r (meet Objects.serve .unavailable f (createRegistry r) registries).1 ∨
      result = madeOf r (meet Objects.serve .unavailable g (createSecret r) secrets).1) := by
  have hleft : (single (createRegistry r) f registries).result createLeft =
      (some (Calls.answered (meet Objects.serve .unavailable f (createRegistry r) registries).1),
        (meet Objects.serve .unavailable f (createRegistry r) registries).2) := result_single Shared.assignErr
  have hright : (single (createSecret r) g secrets).result createRight =
      (some (Calls.answered (meet Objects.serve .unavailable g (createSecret r) secrets).1),
        (meet Objects.serve .unavailable g (createSecret r) secrets).2) := result_single Shared.assignErr
  unfold Creates
  simp only [Joined.ends_iff, hleft, hright]
  constructor
  · intro h
    obtain ⟨v, ⟨hx, hy, rfl | rfl⟩, rfl⟩ := h
    · exact ⟨hx, hy, Or.inr (created_assignErr _ _)⟩
    · exact ⟨hx, hy, Or.inl (created_assignErr _ _)⟩
  · intro h
    obtain ⟨hx, hy, rfl | rfl⟩ := h
    · exact ⟨_, ⟨hx, hy, Or.inr rfl⟩, created_assignErr _ _⟩
    · exact ⟨_, ⟨hx, hy, Or.inl rfl⟩, created_assignErr _ _⟩

/-- Nothing is lost of a get exactly where both calls come to the same. -/
theorem getReported_iff : GetReported name f g registries secrets ↔
    (Succeeds (getRegistry name) f registries ↔ Succeeds (getSecret name) g secrets) := by
  constructor
  · intro h
    constructor
    · intro hregistry
      obtain ⟨resource, hgets⟩ := gets_ok_iff.mpr (Or.inl hregistry)
      exact (h resource hgets).2
    · intro hsecret
      obtain ⟨resource, hgets⟩ := gets_ok_iff.mpr (Or.inr hsecret)
      exact (h resource hgets).1
  · intro h resource hgets
    rcases gets_ok_iff.mp ⟨resource, hgets⟩ with hregistry | hsecret
    · exact ⟨hregistry, h.mp hregistry⟩
    · exact ⟨h.mpr hsecret, hsecret⟩

/-- A call without an answer. -/
theorem answer_of_not_succeeds {S : Schema} {c : Objects.Call S} {fault : Fault} {s : State S}
    (h : ¬ Succeeds c fault s) : ∃ e, (meet Objects.serve .unavailable fault c s).1 = .error e := by
  cases hanswer : (meet Objects.serve .unavailable fault c s).1 with
  | ok v => exact absurd ⟨v, hanswer⟩ h
  | error e => exact ⟨e, rfl⟩

/-- What a create writes without an answer. -/
theorem not_stores_of_eq {S : Schema} {k : S.Kind} {obj : S.Obj k} {fault : Fault} {s : State S}
    (hsame : (meet Objects.serve .unavailable fault (.create k obj) s).2 = s) : ¬ Stores obj fault s := by
  rcases meet_create_cases obj fault s with ⟨_, hmeet⟩ | ⟨_, hmeet⟩ | ⟨hnot, _⟩
  · rw [hmeet] at hsame
    exact absurd hsame put_ne
  · rw [hmeet] at hsame
    exact absurd hsame put_ne
  · exact hnot

theorem meet_of_not_stores {S : Schema} {k : S.Kind} {obj : S.Obj k} {fault : Fault} {s : State S}
    (h : ¬ Stores obj fault s) : ∃ e, meet Objects.serve .unavailable fault (.create k obj) s = (.error e, s) := by
  rcases meet_create_cases obj fault s with ⟨hstores, _⟩ | ⟨hstores, _⟩ | ⟨_, hmeet⟩
  · exact absurd hstores h
  · exact absurd hstores h
  · exact hmeet

/-- Without faults a request whose names are free is answered. -/
theorem creates_served {result : Except Error RegistryResource}
    (hregistry : Creatable (S := registrySchema) (k := ()) registries r.toRegistry)
    (hsecret : Creatable (S := secretSchema) (k := .secret) secrets r.toSecret)
    (h : Creates r .served .served registries secrets x y result) : ∃ resource, result = .ok resource := by
  have hleft : meet Objects.serve .unavailable .served (createRegistry r) registries = (.ok (), _) :=
    Objects.serve_create hregistry
  have hright : meet Objects.serve .unavailable .served (createSecret r) secrets = (.ok (), _) :=
    Objects.serve_create hsecret
  obtain ⟨_, _, hresult⟩ := creates_iff.mp h
  rw [hleft, hright] at hresult
  exact ⟨_, hresult.elim (fun e => e) fun e => e⟩

/-- A create leaves nothing of a request behind and reports what failed exactly where both calls are answered, or
    neither of them stores anything. -/
theorem createReported_iff : CreateReported r f g registries secrets ↔
    (Succeeds (createRegistry r) f registries ∧ Succeeds (createSecret r) g secrets) ∨
      (¬ Stores (S := registrySchema) (k := ()) r.toRegistry f registries ∧
        ¬ Stores (S := secretSchema) (k := .secret) r.toSecret g secrets) := by
  constructor
  · intro h
    by_cases hregistry : Succeeds (createRegistry r) f registries
    · obtain ⟨u, hu⟩ := id hregistry
      exact Or.inl (h.ok _ _ (buildRegistryResource r.toRegistry r.toSecret)
        (creates_iff.mpr ⟨rfl, rfl, Or.inl (by rw [hu]; rfl)⟩))
    by_cases hsecret : Succeeds (createSecret r) g secrets
    · obtain ⟨u, hu⟩ := id hsecret
      exact Or.inl (h.ok _ _ (buildRegistryResource r.toRegistry r.toSecret)
        (creates_iff.mpr ⟨rfl, rfl, Or.inr (by rw [hu]; rfl)⟩))
    obtain ⟨e, he⟩ := answer_of_not_succeeds hregistry
    obtain ⟨hx, hy⟩ := h.nothing _ _ e (creates_iff.mpr ⟨rfl, rfl, Or.inl (by rw [he]; rfl)⟩)
    exact Or.inr ⟨not_stores_of_eq hx, not_stores_of_eq hy⟩
  · intro h
    rcases h with ⟨hregistry, hsecret⟩ | ⟨hregistry, hsecret⟩
    · have hok : ∀ x y result, Creates r f g registries secrets x y result → ∃ resource, result = .ok resource := by
        intro x y result hcreates
        obtain ⟨_, hu⟩ := id hregistry
        obtain ⟨_, hv⟩ := id hsecret
        obtain ⟨_, _, hresult⟩ := creates_iff.mp hcreates
        rw [hu, hv] at hresult
        exact ⟨_, hresult.elim (fun e => e) fun e => e⟩
      refine ⟨fun _ _ _ _ => ⟨hregistry, hsecret⟩, fun x y e hcreates => ?_, fun x y e hcreates => ?_⟩
      · obtain ⟨resource, he⟩ := hok x y _ hcreates
        cases he
      · obtain ⟨resource, he⟩ := hok x y _ hcreates
        cases he
    · obtain ⟨e, hleft⟩ := meet_of_not_stores hregistry
      obtain ⟨e', hright⟩ := meet_of_not_stores hsecret
      have hends : ∀ x y result, Creates r f g registries secrets x y result →
          x = registries ∧ y = secrets ∧ ∀ resource, result ≠ .ok resource := by
        intro x y result hcreates
        obtain ⟨hx, hy, hresult⟩ := creates_iff.mp hcreates
        rw [hleft] at hx hresult
        rw [hright] at hy hresult
        refine ⟨hx, hy, fun resource hok => ?_⟩
        rw [hok] at hresult
        rcases hresult with he | he
        · cases he
        · cases he
      refine ⟨fun x y resource hcreates => absurd rfl ((hends x y _ hcreates).2.2 resource), fun x y e hcreates => ?_,
        fun x y e hcreates hfree hfree' x' y' result hagain => ?_⟩
      · exact ⟨(hends x y _ hcreates).1, (hends x y _ hcreates).2.1⟩
      · obtain ⟨rfl, rfl, _⟩ := hends x y _ hcreates
        exact creates_served hfree hfree' hagain

/-- **A failed half is reported exactly where both calls come to the same**: a get where both are answered or
    neither is; a create where both are answered, or neither stores anything. -/
theorem reported_iff (name : Str) (r : RegistryResource) (f g : Fault) (registries : Registries) (secrets : Secrets) :
    (GetReported name f g registries secrets ↔
      (Succeeds (getRegistry name) f registries ↔ Succeeds (getSecret name) g secrets)) ∧
    (CreateReported r f g registries secrets ↔
      (Succeeds (createRegistry r) f registries ∧ Succeeds (createSecret r) g secrets) ∨
        (¬ Stores (S := registrySchema) (k := ()) r.toRegistry f registries ∧
          ¬ Stores (S := secretSchema) (k := .secret) r.toSecret g secrets)) :=
  ⟨getReported_iff, createReported_iff⟩

/-- A request for the registry of the hub. -/
def hubRequest : RegistryResource := ⟨none, none, str "hub", str "ana", str "secret"⟩

/-- **The secret is refused and the registry is created last**: no error is returned. -/
theorem reported_fails : ¬ ∀ (name : Str) (r : RegistryResource) (f g : Fault) (registries : Registries)
    (secrets : Secrets), GetReported name f g registries secrets ∧ CreateReported r f g registries secrets := by
  intro h
  have hcreate := (h [] hubRequest .served .refused ⟨fun _ => .empty, 0⟩ ⟨fun _ => .empty, 0⟩).2
  rcases createReported_iff.mp hcreate with ⟨_, v, hv⟩ | ⟨hregistry, _⟩
  · cases hv
  · exact hregistry ⟨by decide, by decide, rfl⟩

end Kalm.Docker
