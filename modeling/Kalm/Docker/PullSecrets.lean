/-
  File:      Kalm/Docker/PullSecrets.lean
  Subject:   PULL SECRETS: `DistributeSecrets` of controller/controllers/docker_registry_controller.go writes the
             credentials of a registry into the namespaces of the applications.

  * `dockerConfigJson`, `pullSecret` -- what is written; `parse_dockerConfigJson` -- what is read of it;
  * `distribute`, `distributeSecrets` -- the loop over the namespaces; it returns behind the first secret that it
    creates;
  * `distributed`, `returns_distribute_iff` -- the state behind a run that returns `nil`;
  * `Distributed` -- every application has the secret; `reaches_iff` -- that is so exactly where no namespace behind
    the first that lacked it was in want of it.
-/
import Kalm.Api.Objects
import Kalm.Docker.Registries
import Kalm.Go.Plain

namespace Kalm.Docker

open Calls (run Strict)
open Objects (State Task Versioned)

/-! ## 1. What is written -/

/-- `getImagePullSecretName`. -/
def getImagePullSecretName (registryName : Str) : Str := registryName ++ str "-image-pull-secret"

/-- The key of the secret in a namespace. -/
def pullKey (registryName ns : Str) : Str × Str := (ns, getImagePullSecretName registryName)

/-- `SecretTypeDockerConfigJson`. -/
def dockerConfigJsonType : Str := str "kubernetes.io/dockerconfigjson"

/-- The key of its data. -/
def dockerConfigJsonKey : Str := str ".dockerconfigjson"

/-- `string(r.secret.Data["username"])`. -/
def Secret.username (secret : Secret) : Str := (secret.data.lookup (str "username")).getD []

/-- `string(r.secret.Data["password"])`. -/
def Secret.password (secret : Secret) : Str := (secret.data.lookup (str "password")).getD []

/-- The host; the empty one is that of the hub. -/
def Registry.host (registry : Registry) : Str :=
  if registry.spec.host = [] then str "https://index.docker.io/v1/" else registry.spec.host

/-- The base64 of user and password. -/
def authOf (username password : Str) : Str := stdEncode (username ++ str ":" ++ password)

/-- What the encoder writes. -/
def dockerConfigJson (host username password : Str) : Str :=
  str "\x7b\"auths\":\x7b" ++ plainLiteral host ++ str ":\x7b\"username\":" ++ plainLiteral username ++
    str ",\"password\":" ++ plainLiteral password ++ str ",\"auth\":" ++ plainLiteral (authOf username password) ++
    str "\x7d\x7d\x7d\n"

/-- The registry as an owner. -/
def Registry.asOwner (registry : Registry) : Str × Str := (str "DockerRegistry", registry.name)

/-- The secret of a namespace, from the one that was found. -/
def pullSecret (registry : Registry) (secret : Secret) (ns : Str) (found : Option Secret) : Secret where
  ns := ns
  name := getImagePullSecretName registry.name
  labels := ((found.elim ∅ Secret.labels).insert (str "kalm-docker-registry") registry.name).insert
    (str "kalm-docker-registry-image-pull-secret") (str "true")
  type := dockerConfigJsonType
  data := (found.elim ∅ Secret.data).insert dockerConfigJsonKey
    (dockerConfigJson registry.host secret.username secret.password)
  owner := some registry.asOwner

/-- `SetControllerReference` fails: another object is the controller. -/
def ownedElsewhere (registry : Registry) (found : Option Secret) : Bool :=
  found.any fun secret => secret.owner ≠ none && secret.owner ≠ some registry.asOwner

/-! ## 2. The loop -/

/-- `AlreadyOwnedError`. -/
structure AlreadyOwned where
  secret : Str × Str
  deriving DecidableEq

/-- The namespace is one of an application. -/
def Namespace.enabled (ns : Namespace) : Bool :=
  !ns.terminating && ns.labels.lookup kalmEnableLabelName = some (str "true")

section Loop

variable (registry : Registry) (secret : Secret)

/-- The loop of `DistributeSecrets`. -/
def distribute : List Namespace → Task secretSchema (Except AlreadyOwned Unit)
  | [] => pure (.ok ())
  | ns :: rest =>
    if ns.terminating then distribute rest
    else if ns.labels.lookup kalmEnableLabelName ≠ some (str "true") then distribute rest
    else do
      let loaded ← Objects.find (S := secretSchema) .secret (pullKey registry.name ns.name)
      let found := loaded.map fun v => v.obj
      if ownedElsewhere registry found then pure (.error ⟨pullKey registry.name ns.name⟩)
      else
        match loaded with
        | none => do
          Objects.invoke (.create (S := secretSchema) .secret (pullSecret registry secret ns.name found))
          -- `return nil`, in the middle of the loop
          pure (.ok ())
        | some v => do
          Objects.invoke (.update (S := secretSchema) .secret
            ⟨pullSecret registry secret ns.name found, v.version⟩)
          distribute rest

end Loop

/-- `DistributeSecrets`, with the secret of the registry if there is one. -/
def distributeSecrets (registry : Registry) :
    Option Secret → Task secretSchema (Except AlreadyOwned Unit)
  | none => pure (.ok ())
  | some secret => do
    let nsList ← Objects.invoke (.list (S := secretSchema) .ns)
    distribute registry secret (nsList.map fun v => v.obj)

/-! ## 3. What it is for -/

/-- A text says so: it is a JSON text with these credentials for this host. -/
def SaysCredentials (host username password content : Str) : Prop :=
  ∃ v, parseJson content = .ok v ∧
    (v.at [str "auths", host, str "username"] = some (.string username) ∧
      v.at [str "auths", host, str "password"] = some (.string password)) ∧
    v.at [str "auths", host, str "auth"] = some (.string (authOf username password))

/-- The secret that is stored is the pull secret of the registry, as it is now. -/
def IsCurrent (registry : Registry) (secret : Secret) (stored : Option Secret) : Prop :=
  ∃ found content, stored = some found ∧ found.type = dockerConfigJsonType ∧
    found.data.lookup dockerConfigJsonKey = some content ∧
    SaysCredentials registry.host secret.username secret.password content

/-- The namespaces that are listed. -/
def namespacesOf (s : Secrets) : List Namespace := (s.list .ns).map fun v => v.obj

/-- The secret of a registry in a namespace. -/
def pullSecretOf (s : Secrets) (registry : Registry) (ns : Namespace) : Option Secret :=
  s.objAt .secret (pullKey registry.name ns.name)

/-- **Every application has the secret**, and nothing else has changed. -/
structure Distributed (registry : Registry) (secret : Secret) (s t : Secrets) : Prop where
  every : ∀ ns ∈ namespacesOf s, ns.enabled = true → IsCurrent registry secret (pullSecretOf t registry ns)
  others : ∀ (k : secretSchema.Kind) (key : Str × Str), (∀ ns ∈ namespacesOf s, ns.enabled = true →
    ¬ (k = .secret ∧ key = pullKey registry.name ns.name)) → t.get k key = s.get k key

/-- A run that returns `nil` has distributed the secret. -/
def Reaches (registry : Registry) (secret : Secret) (s : Secrets) : Prop :=
  ∀ faults t, run Objects.serve .unavailable (distributeSecrets registry (some secret)) faults s =
    (.returned (.ok ()), t) → Distributed registry secret s t

/-! ## 4. What is read -/

section Read

variable {host username password : Str}

/-- The frames around the credentials. -/
def openFrames (host : Str) : List Frame := [.member [] (jsonString host), .member [] (str "auths")]

theorem scan_front (host rest : Str) :
    Scanner.run ⟨[], .beginValue⟩ (str "\x7b\"auths\":\x7b" ++ (plainLiteral host ++ colon :: rest)) =
      Scanner.run ⟨openFrames host, .beginValue⟩ rest := by
  have hfront : Scanner.run ⟨[], .beginValue⟩ (str "\x7b\"auths\":\x7b" ++ (plainLiteral host ++ colon :: rest)) =
      Scanner.run ⟨[.member [] (str "auths")], .beginStringOrEmpty⟩ (plainLiteral host ++ colon :: rest) := rfl
  rw [hfront, scan_firstKey]
  rfl

/-- A member of the credentials, behind its key. -/
theorem scan_credential {stack : List Frame} (s rest : Str) (members : List (Str × JsonValue)) (key : Str) :
    Scanner.run ⟨.member members key :: stack, .beginValue⟩ (plainLiteral s ++ comma :: rest) =
      Scanner.run ⟨stack, .beginString (members ++ [(key, .string (jsonString s))])⟩ rest := by
  rw [scan_value]
  rfl

/-- **What the encoder writes is read again.** -/
theorem parse_dockerConfigJson : parseJson (dockerConfigJson host username password) =
    .ok (.object [(str "auths", .object [(jsonString host, .object
      [(str "username", .string (jsonString username)), (str "password", .string (jsonString password)),
        (str "auth", .string (jsonString (authOf username password)))])])]) := by
  have hwritten : dockerConfigJson host username password =
      str "\x7b\"auths\":\x7b" ++ (plainLiteral host ++ colon :: (str "\x7b\"username\":" ++
        (plainLiteral username ++ comma :: (str "\"password\":" ++
          (plainLiteral password ++ comma :: (str "\"auth\":" ++
            (plainLiteral (authOf username password) ++ str "\x7d\x7d\x7d\n"))))))) := by
    simp only [dockerConfigJson, List.append_assoc]
    rfl
  have husername : ∀ rest, Scanner.run ⟨openFrames host, .beginValue⟩ (str "\x7b\"username\":" ++ rest) =
      Scanner.run ⟨.member [] (str "username") :: openFrames host, .beginValue⟩ rest := fun _ => rfl
  have hpassword : ∀ (members : List (Str × JsonValue)) rest,
      Scanner.run ⟨openFrames host, .beginString members⟩ (str "\"password\":" ++ rest) =
        Scanner.run ⟨.member members (str "password") :: openFrames host, .beginValue⟩ rest := fun _ _ => rfl
  have hauth : ∀ (members : List (Str × JsonValue)) rest,
      Scanner.run ⟨openFrames host, .beginString members⟩ (str "\"auth\":" ++ rest) =
        Scanner.run ⟨.member members (str "auth") :: openFrames host, .beginValue⟩ rest := fun _ _ => rfl
  rw [parseJson, hwritten, scan_front, husername, scan_credential, hpassword, scan_credential, hauth, scan_value]
  rfl

/-- The credentials under their path. -/
theorem at_credentials {members : List (Str × JsonValue)} (key : Str) :
    JsonValue.at (.object [(str "auths", .object [(jsonString host, .object members)])]) [str "auths", host, key] =
      if jsonString host = host then (JsonValue.object members).member key else none := by
  have hauths :
      (JsonValue.object [(str "auths", .object [(jsonString host, .object members)])]).member (str "auths") =
        some (.object [(jsonString host, .object members)]) := rfl
  rw [JsonValue.at, hauths, Option.bind_some, JsonValue.at, JsonValue.member]
  split
  · rename_i h
    simp [h, JsonValue.at]
  · rename_i h
    simp [h]

/-- **The secret says what it is to say exactly where host, user and password are texts.** -/
theorem saysCredentials_iff : SaysCredentials host username password (dockerConfigJson host username password) ↔
    IsUtf8 host ∧ IsUtf8 username ∧ IsUtf8 password := by
  have hauth : jsonString (authOf username password) = authOf username password :=
    jsonString_eq_self.mpr (isUtf8_stdEncode _)
  have hsaid : SaysCredentials host username password (dockerConfigJson host username password) ↔
      jsonString host = host ∧ jsonString username = username ∧ jsonString password = password := by
    unfold SaysCredentials
    rw [parse_dockerConfigJson]
    constructor
    · intro h
      obtain ⟨v, hv, ⟨husername, hpassword⟩, _⟩ := h
      obtain rfl := Except.ok.inj hv
      rw [at_credentials] at husername hpassword
      split at husername
      · rename_i hhost
        rw [if_pos hhost] at hpassword
        have huser : some (JsonValue.string (jsonString username)) = some (.string username) := husername
        have hpass : some (JsonValue.string (jsonString password)) = some (.string password) := hpassword
        exact ⟨hhost, JsonValue.string.inj (Option.some.inj huser), JsonValue.string.inj (Option.some.inj hpass)⟩
      · cases husername
    · intro h
      obtain ⟨hhost, huser, hpass⟩ := h
      refine ⟨_, rfl, ⟨?_, ?_⟩, ?_⟩
      · rw [at_credentials, if_pos hhost, huser]
        rfl
      · rw [at_credentials, if_pos hhost, hpass]
        rfl
      · rw [at_credentials, if_pos hhost, hauth]
        rfl
  rw [hsaid, jsonString_eq_self, jsonString_eq_self, jsonString_eq_self]

end Read

/-! ## 5. The loop -/

section Reached

variable {registry : Registry} {secret : Secret} {s t start : Secrets} {nss : List Namespace}

/-- The state behind the namespaces of applications, if `nil` is returned. -/
def distributed (registry : Registry) (secret : Secret) : List Namespace → Secrets → Option Secrets
  | [], s => some s
  | ns :: rest, s =>
    if ownedElsewhere registry (pullSecretOf s registry ns) then none
    else
      match s.get .secret (pullKey registry.name ns.name) with
      | none => some (s.put .secret (pullSecret registry secret ns.name none))
      | some v =>
        let written := pullSecret registry secret ns.name (some v.obj)
        distributed registry secret rest (if v.obj = written then s else s.put .secret written)

theorem strict_distribute (nss : List Namespace) : Strict .unavailable (distribute registry secret nss) := by
  induction nss with
  | nil => trivial
  | cons ns rest ih =>
      unfold distribute
      split
      · exact ih
      split
      · exact ih
      · refine Calls.strict_bind (Objects.strict_find _ _) fun loaded => ?_
        simp only
        split
        · trivial
        · cases loaded with
          | none => exact Calls.strict_bind (Calls.strict_invoke _) fun _ => trivial
          | some v => exact Calls.strict_bind (Calls.strict_invoke _) fun _ => ih

/-- **A run that returns `nil`** leaves the state behind the applications. -/
theorem returns_distribute_iff : Objects.Returns (distribute registry secret nss) s (fun r u => r = .ok () ∧ u = t) ↔
    distributed registry secret (nss.filter Namespace.enabled) s = some t := by
  induction nss generalizing s with
  | nil =>
      refine Calls.returns_done.trans ?_
      rw [List.filter_nil, distributed, and_iff_right rfl, Option.some_inj]
  | cons ns rest ih =>
      rw [distribute]
      by_cases hterminating : ns.terminating = true
      · have hout : ¬ ns.enabled = true := by simp [Namespace.enabled, hterminating]
        rw [if_pos hterminating, List.filter_cons_of_neg hout]
        exact ih
      by_cases hlabel : ns.labels.lookup kalmEnableLabelName ≠ some (str "true")
      · have hout : ¬ ns.enabled = true := by simp [Namespace.enabled, hlabel]
        rw [if_neg hterminating, if_pos hlabel, List.filter_cons_of_neg hout]
        exact ih
      have hin : ns.enabled = true := by
        simp only [Namespace.enabled, Bool.and_eq_true, Bool.not_eq_true', decide_eq_true_eq]
        exact ⟨Bool.not_eq_true _ ▸ hterminating, not_not.mp hlabel⟩
      rw [if_neg hterminating, if_neg hlabel, List.filter_cons_of_pos hin, distributed, Objects.returns_bind,
        Objects.returns_find]
      have hfound : (s.get .secret (pullKey registry.name ns.name)).map (fun v => v.obj) =
          pullSecretOf s registry ns := rfl
      simp only [hfound]
      split
      · refine iff_of_false (fun h => ?_) fun h => by cases h
        cases (Calls.returns_done.mp h).1
      · cases hget : s.get .secret (pullKey registry.name ns.name) with
        | none =>
            refine Objects.returns_bind.trans (Objects.returns_create.trans ?_)
            refine Iff.trans ⟨fun h => (Calls.returns_done.mp h.2.2).2, fun h => ?_⟩ Option.some_inj.symm
            exact ⟨rfl, by rw [hget.symm]; rfl, Calls.returns_done.mpr ⟨rfl, h⟩⟩
        | some v =>
            refine Objects.returns_bind.trans (Objects.returns_update.trans ?_)
            rw [← ih]
            constructor
            · intro h
              obtain ⟨current, hcurrent, _, hrest⟩ := h
              obtain rfl := Option.some.inj (hget.symm.trans hcurrent)
              exact hrest
            · exact fun h => ⟨v, hget, rfl, h⟩

/-- The namespaces up to the first without a secret. -/
def visited (registry : Registry) (s : Secrets) : List Namespace → List Namespace
  | [] => []
  | ns :: rest => if (pullSecretOf s registry ns).isSome then ns :: visited registry s rest else [ns]

/-- The namespaces behind the first without a secret. -/
def behind (registry : Registry) (s : Secrets) : List Namespace → List Namespace
  | [] => []
  | ns :: rest => if (pullSecretOf s registry ns).isSome then behind registry s rest else rest

theorem visited_append_behind (s : Secrets) (nss : List Namespace) :
    visited registry s nss ++ behind registry s nss = nss := by
  induction nss with
  | nil => rfl
  | cons ns rest ih =>
      rw [visited, behind]
      split
      · rw [List.cons_append, ih]
      · rfl

theorem visited_ne_nil (h : nss ≠ []) : visited registry s nss ≠ [] := by
  obtain ⟨ns, rest, rfl⟩ := List.exists_cons_of_ne_nil h
  rw [visited]
  split <;> exact List.cons_ne_nil _ _

/-- A secret is written, if that says something new. -/
def writeSecret (s : Secrets) (old new : Secret) : Secrets := if old = new then s else s.put .secret new

theorem get_writeSecret_of_ne {old new : Secret} {k : secretSchema.Kind} {key : Str × Str}
    (hkey : ¬ (k = .secret ∧ key = (new.ns, new.name))) : (writeSecret s old new).get k key = s.get k key := by
  unfold writeSecret
  split
  · rfl
  · exact Objects.sameBut_put (S := secretSchema) (k := .secret) s new k key hkey

theorem objAt_writeSecret {v : Versioned secretSchema .secret} {new : Secret}
    (hv : s.get .secret (new.ns, new.name) = some v) :
    (writeSecret s v.obj new).objAt .secret (new.ns, new.name) = some new := by
  unfold writeSecret State.objAt
  split
  · rename_i hsame
    rw [hv, Option.map_some, hsame]
  · have hkey : secretSchema.key (k := .secret) new = (new.ns, new.name) := rfl
    rw [State.get_put, if_pos hkey.symm]
    rfl

theorem pullSecretOf_eq {ns : Namespace} {found : Option (Versioned secretSchema .secret)}
    (h : s.get .secret (pullKey registry.name ns.name) = found) :
    pullSecretOf s registry ns = found.map fun v => v.obj := by
  rw [pullSecretOf, State.objAt, h]

/-- What was found in the namespaces that come is found after a write in this one. -/
theorem agrees_write {ns : Namespace} {rest : List Namespace} {old : Secret} {found : Option Secret}
    (hagree : ∀ other ∈ rest, s.get .secret (pullKey registry.name other.name) =
      start.get .secret (pullKey registry.name other.name))
    (hnot : ns.name ∉ rest.map Namespace.name) : ∀ other ∈ rest,
      (writeSecret s old (pullSecret registry secret ns.name found)).get .secret (pullKey registry.name other.name) =
        start.get .secret (pullKey registry.name other.name) := by
  intro other hother
  refine (get_writeSecret_of_ne fun h => ?_).trans (hagree other hother)
  have hname : other.name = ns.name := congrArg Prod.fst h.2
  exact hnot (hname ▸ List.mem_map_of_mem hother)

/-- It ends with an error where another object owns a secret that is visited. -/
theorem distributed_eq_none_iff (hagree : ∀ ns ∈ nss, s.get .secret (pullKey registry.name ns.name) =
      start.get .secret (pullKey registry.name ns.name)) (hnodup : (nss.map Namespace.name).Nodup) :
    distributed registry secret nss s = none ↔
      ∃ ns ∈ visited registry start nss, ownedElsewhere registry (pullSecretOf start registry ns) = true := by
  induction nss generalizing s with
  | nil => simp [distributed, visited]
  | cons ns rest ih =>
      obtain ⟨hnot, hnodup⟩ := List.nodup_cons.mp hnodup
      have hhere : s.get .secret (pullKey registry.name ns.name) =
          start.get .secret (pullKey registry.name ns.name) := hagree ns List.mem_cons_self
      have hrest := fun other hother => hagree other (List.mem_cons_of_mem ns hother)
      have hpull : pullSecretOf s registry ns = pullSecretOf start registry ns := pullSecretOf_eq hhere
      rw [distributed, visited, hpull]
      by_cases howned : ownedElsewhere registry (pullSecretOf start registry ns) = true
      · rw [if_pos howned]
        refine iff_of_true rfl ⟨ns, ?_, howned⟩
        split <;> exact List.mem_cons_self
      rw [if_neg howned]
      cases hget : s.get .secret (pullKey registry.name ns.name) with
      | none =>
          have hfound : pullSecretOf start registry ns = none := pullSecretOf_eq (hhere.symm.trans hget)
          rw [hfound]
          refine iff_of_false (fun h => by cases h) fun h => ?_
          obtain ⟨other, hother, hbad⟩ := h
          obtain rfl := List.mem_singleton.mp hother
          exact howned hbad
      | some v =>
          have hfound : pullSecretOf start registry ns = some v.obj := pullSecretOf_eq (hhere.symm.trans hget)
          rw [hfound]
          refine (ih (s := writeSecret s v.obj (pullSecret registry secret ns.name (some v.obj)))
            (agrees_write hrest hnot) hnodup).trans ⟨fun h => ?_, fun h => ?_⟩
          · obtain ⟨other, hother, hbad⟩ := h
            exact ⟨other, List.mem_cons_of_mem _ hother, hbad⟩
          · obtain ⟨other, hother, hbad⟩ := h
            rcases List.mem_cons.mp hother with rfl | hother
            · exact absurd hbad howned
            · exact ⟨other, hother, hbad⟩

/-- The secrets that a run does not write stay as they are. -/
theorem get_distributed {k : secretSchema.Kind} {key : Str × Str}
    (hother : ∀ ns ∈ nss, ¬ (k = .secret ∧ key = pullKey registry.name ns.name))
    (h : distributed registry secret nss s = some t) : t.get k key = s.get k key := by
  induction nss generalizing s with
  | nil => rw [Option.some.inj h]
  | cons ns rest ih =>
      have hhere := hother ns List.mem_cons_self
      rw [distributed] at h
      split at h
      · cases h
      split at h
      · obtain rfl := Option.some.inj h
        exact Objects.sameBut_put (S := secretSchema) (k := .secret) s _ k key hhere
      · rename_i v _
        have hrest := ih (s := writeSecret s v.obj (pullSecret registry secret ns.name (some v.obj)))
          (fun other h => hother other (List.mem_cons_of_mem ns h)) h
        exact hrest.trans (get_writeSecret_of_ne hhere)

/-- **What a run that returns `nil` has written**: the secrets up to the first that was missing. -/
theorem distributed_spec (hagree : ∀ ns ∈ nss, s.get .secret (pullKey registry.name ns.name) =
      start.get .secret (pullKey registry.name ns.name)) (hnodup : (nss.map Namespace.name).Nodup)
    (h : distributed registry secret nss s = some t) :
    (∀ ns ∈ visited registry start nss, pullSecretOf t registry ns =
      some (pullSecret registry secret ns.name (pullSecretOf start registry ns))) ∧
    ∀ ns ∈ behind registry start nss, pullSecretOf t registry ns = pullSecretOf start registry ns := by
  induction nss generalizing s with
  | nil => exact ⟨fun ns hns => (List.not_mem_nil hns).elim, fun ns hns => (List.not_mem_nil hns).elim⟩
  | cons ns rest ih =>
      obtain ⟨hnot, hnodup⟩ := List.nodup_cons.mp hnodup
      have hhere : s.get .secret (pullKey registry.name ns.name) =
          start.get .secret (pullKey registry.name ns.name) := hagree ns List.mem_cons_self
      have hrest := fun other hother => hagree other (List.mem_cons_of_mem ns hother)
      have hkey : ∀ other ∈ rest, pullKey registry.name other.name ≠ pullKey registry.name ns.name := by
        intro other hother hsame
        have hname : other.name = ns.name := congrArg Prod.fst hsame
        exact hnot (hname ▸ List.mem_map_of_mem hother)
      rw [distributed] at h
      split at h
      · cases h
      cases hget : s.get .secret (pullKey registry.name ns.name) with
      | none =>
          have hfound : pullSecretOf start registry ns = none := pullSecretOf_eq (hhere.symm.trans hget)
          simp only [hget] at h
          obtain rfl := Option.some.inj h
          rw [visited, behind, hfound]
          refine ⟨fun other hother => ?_, fun other hother => ?_⟩
          · obtain rfl := List.mem_singleton.mp hother
            have hkeys : pullKey registry.name other.name =
                secretSchema.key (k := .secret) (pullSecret registry secret other.name none) := rfl
            rw [hfound, pullSecretOf, State.objAt, State.get_put, if_pos hkeys]
            rfl
          · have hsame : (s.put .secret (pullSecret registry secret ns.name none)).get .secret
                (pullKey registry.name other.name) = s.get .secret (pullKey registry.name other.name) :=
              Objects.sameBut_put (S := secretSchema) (k := .secret) s _ .secret _ fun e => hkey other hother e.2
            exact pullSecretOf_eq (hsame.trans (hrest other hother))
      | some v =>
          have hfound : pullSecretOf start registry ns = some v.obj := pullSecretOf_eq (hhere.symm.trans hget)
          simp only [hget] at h
          have hrun := ih (s := writeSecret s v.obj (pullSecret registry secret ns.name (some v.obj)))
            (agrees_write hrest hnot) hnodup h
          have hkept : t.get .secret (pullKey registry.name ns.name) = _ :=
            get_distributed (fun other hother e => hkey other hother e.2.symm) h
          have hwritten : pullSecretOf t registry ns = some (pullSecret registry secret ns.name (some v.obj)) := by
            rw [pullSecretOf, State.objAt, hkept]
            exact @objAt_writeSecret _ v (pullSecret registry secret ns.name (some v.obj)) hget
          rw [visited, behind, hfound]
          refine ⟨fun other hother => ?_, hrun.2⟩
          rcases List.mem_cons.mp hother with rfl | hother
          · rw [hfound]
            exact hwritten
          · exact hrun.1 other hother

/-- The namespaces of the applications. -/
def applications (s : Secrets) : List Namespace := (namespacesOf s).filter Namespace.enabled

theorem nodup_applications (s : Secrets) : ((applications s).map Namespace.name).Nodup := by
  have hkeys : ((s.list .ns).map Versioned.key).Nodup := (s.objects .ns).distinct
  have hnames : ((namespacesOf s).map Namespace.name).Nodup := by
    have hmap : (s.list .ns).map Versioned.key =
        ((namespacesOf s).map Namespace.name).map fun name => (([] : Str), name) := by
      rw [namespacesOf, List.map_map, List.map_map]
      rfl
    rw [hmap] at hkeys
    exact hkeys.of_map _
  exact hnames.sublist ((List.filter_sublist).map _)

/-- A run that returns `nil`, from the state that it begins in. -/
theorem run_distributeSecrets_iff : (∃ faults, run Objects.serve .unavailable
      (distributeSecrets registry (some secret)) faults s = (.returned (.ok ()), t)) ↔
    distributed registry secret (applications s) s = some t := by
  have hstrict : Strict .unavailable (distributeSecrets registry (some secret)) :=
    Calls.strict_bind (Calls.strict_invoke _) fun _ => strict_distribute _
  rw [applications, ← returns_distribute_iff]
  constructor
  · intro h
    obtain ⟨faults, hrun⟩ := h
    exact Objects.returns_list.mp (Objects.returns_bind.mp (hstrict.returns hrun))
  · intro h
    have hreturns : Objects.Returns (distributeSecrets registry (some secret)) s (fun r u => r = .ok () ∧ u = t) :=
      Objects.returns_bind.mpr (Objects.returns_list.mpr h)
    obtain ⟨r, u, hrun, rfl, rfl⟩ := hreturns
    exact ⟨[], hrun⟩

/-- A secret that has been written is the current one. -/
theorem isCurrent_pullSecret {name : Str} {found : Option Secret} :
    IsCurrent registry secret (some (pullSecret registry secret name found)) ↔
      IsUtf8 registry.host ∧ IsUtf8 secret.username ∧ IsUtf8 secret.password := by
  rw [← saysCredentials_iff]
  have hlookup : (pullSecret registry secret name found).data.lookup dockerConfigJsonKey =
      some (dockerConfigJson registry.host secret.username secret.password) := Finmap.lookup_insert _
  constructor
  · intro h
    obtain ⟨_, content, hstored, _, hcontent, hsaid⟩ := h
    obtain rfl := Option.some.inj hstored
    rw [hlookup] at hcontent
    rwa [Option.some.inj hcontent]
  · exact fun h => ⟨_, _, rfl, rfl, hlookup, h⟩

/-- **When the secret reaches every application**: no run returns `nil` as another object owns a secret on the way,
or no namespace behind the first without the secret is in want of it, and the credentials are texts. -/
theorem reaches_iff (registry : Registry) (secret : Secret) (s : Secrets) : Reaches registry secret s ↔
    (∃ ns ∈ visited registry s (applications s), ownedElsewhere registry (pullSecretOf s registry ns) = true) ∨
      (applications s ≠ [] → IsUtf8 registry.host ∧ IsUtf8 secret.username ∧ IsUtf8 secret.password) ∧
        ∀ ns ∈ behind registry s (applications s), IsCurrent registry secret (pullSecretOf s registry ns) := by
  have hnone : distributed registry secret (applications s) s = none ↔ ∃ ns ∈ visited registry s (applications s),
      ownedElsewhere registry (pullSecretOf s registry ns) = true :=
    distributed_eq_none_iff (fun ns _ => rfl) (nodup_applications s)
  cases hdistributed : distributed registry secret (applications s) s with
  | none =>
      refine iff_of_true (fun faults t hrun => ?_) (Or.inl (hnone.mp hdistributed))
      have h := run_distributeSecrets_iff.mp ⟨faults, hrun⟩
      rw [hdistributed] at h
      cases h
  | some t =>
      have hrun : ∀ u, (∃ faults, run Objects.serve .unavailable (distributeSecrets registry (some secret)) faults s =
          (.returned (.ok ()), u)) ↔ t = u := by
        intro u
        rw [run_distributeSecrets_iff, hdistributed, Option.some_inj]
      have hgood : ¬ ∃ ns ∈ visited registry s (applications s),
          ownedElsewhere registry (pullSecretOf s registry ns) = true := by
        rw [← hnone, hdistributed]
        exact Option.some_ne_none t
      obtain ⟨hvisited, hbehind⟩ := distributed_spec (fun ns _ => rfl) (nodup_applications s) hdistributed
      have hreaches : Reaches registry secret s ↔ Distributed registry secret s t := by
        constructor
        · intro h
          obtain ⟨faults, hfaults⟩ := (hrun t).mpr rfl
          exact h faults t hfaults
        · intro h faults u hu
          obtain rfl := (hrun u).mp ⟨faults, hu⟩
          exact h
      have hsplit : visited registry s (applications s) ++ behind registry s (applications s) = applications s :=
        visited_append_behind s (applications s)
      rw [hreaches, or_iff_right hgood]
      constructor
      · intro h
        have hcurrent : ∀ ns ∈ applications s, IsCurrent registry secret (pullSecretOf t registry ns) := by
          intro ns hns
          exact h.every ns (List.mem_filter.mp hns).1 (List.mem_filter.mp hns).2
        constructor
        · intro hne
          obtain ⟨ns, hns⟩ := List.exists_mem_of_ne_nil _ (visited_ne_nil hne)
          have hns' : ns ∈ applications s := hsplit ▸ List.mem_append_left _ hns
          have hwritten := hcurrent ns hns'
          rw [hvisited ns hns] at hwritten
          exact isCurrent_pullSecret.mp hwritten
        · intro ns hns
          have hns' : ns ∈ applications s := hsplit ▸ List.mem_append_right _ hns
          rw [← hbehind ns hns]
          exact hcurrent ns hns'
      · intro h
        obtain ⟨htexts, hcurrent⟩ := h
        refine ⟨fun ns hns henabled => ?_, fun k key hother => ?_⟩
        · have hmem : ns ∈ visited registry s (applications s) ++ behind registry s (applications s) := by
            rw [hsplit]
            exact List.mem_filter.mpr ⟨hns, henabled⟩
          rcases List.mem_append.mp hmem with hns' | hns'
          · rw [hvisited ns hns']
            refine isCurrent_pullSecret.mpr (htexts fun hnil => ?_)
            rw [hnil] at hns'
            cases hns'
          · rw [hbehind ns hns']
            exact hcurrent ns hns'
        · refine get_distributed (fun ns hns => ?_) hdistributed
          exact hother ns (List.mem_filter.mp hns).1 (List.mem_filter.mp hns).2

end Reached

/-- The labels of the namespace of an application. -/
def enabledLabels : ObjectLabels := Finmap.insert kalmEnableLabelName (str "true") ∅

/-- Two applications; neither has the secret. -/
def twoApplications : Secrets where
  objects := fun
    | .ns => ⟨[⟨⟨str "shop", enabledLabels, false⟩, 1⟩, ⟨⟨str "wiki", enabledLabels, false⟩, 2⟩], by decide⟩
    | .secret => .empty
  revision := 2

/-- The registry of the hub. -/
def hub : Registry := ⟨str "hub", ⟨[], none⟩, ⟨false, []⟩⟩

/-- Its credentials. -/
def hubSecret : Secret := ⟨kalmSystemNamespace, getRegistryAuthenticationName (str "hub"), ∅, str "Opaque",
  Finmap.insert (str "username") (str "ana") (Finmap.insert (str "password") (str "secret") ∅), none⟩

/-- **The second application waits for its secret**: `nil` is returned as soon as the first has been given one. -/
theorem reaches_fails : ¬ ∀ (registry : Registry) (secret : Secret) (s : Secrets), Reaches registry secret s := by
  intro h
  have hbehind : behind hub twoApplications (applications twoApplications) =
      [⟨str "wiki", enabledLabels, false⟩] := by
    decide
  rcases (reaches_iff hub hubSecret twoApplications).mp (h hub hubSecret twoApplications) with hbad | ⟨_, hgood⟩
  · obtain ⟨ns, _, howned⟩ := hbad
    cases howned
  · rw [hbehind] at hgood
    obtain ⟨found, _, hfound, _⟩ := hgood _ List.mem_cons_self
    cases hfound

end Kalm.Docker
