/-
  File:      Kalm/Sso/Modes.lean
  Subject:   THE MODES OF SINGLE SIGN-ON: dex or another issuer, an auth-proxy in the cluster or outside, and what a
             reconcile leaves of the one when a config asks for the other.

  * `Needed`, `Gone`, `Configured` -- what is intended;
  * `returns_saveManaged`, `returns_deleteManaged`, `returns_reconcileAuthProxy` -- what the steps do, and leave;
  * `strict_run`, `crashless_reconcileResources` -- faults;
  * `reconciles_iff` -- when no object that is missing is dereferenced, when the URLs of the auth-proxy are complete,
    and when nothing of an abandoned mode is left;
  * `emptied_iff` -- without a config, nothing is deleted.
-/
import Kalm.Api.Edits
import Kalm.Sso.Config
import Kalm.Sso.Urls

namespace Kalm.Sso

open Calls (Outcome Strict Crashless)
open Components (ComponentSpec EnvVar)
open Objects (Returns State Versioned)

/-! ## 1. What is intended -/

/-- The value of a variable of a component. -/
def envValue (spec : ComponentSpec) (name : Str) : Option Str :=
  (spec.env.find? fun e => e.name = name).map EnvVar.value

/-- **The auth-proxy is configured** with an issuer and an external URL that have a scheme and a host, if it is
    there. -/
def Configured (t : Cluster) : Prop :=
  ∀ w, getManaged t .authProxyComponent = some w → ∃ issuer url,
    envValue (Owned.spec (r := .component) w.obj) providerUrlEnv = some issuer ∧
    envValue (Owned.spec (r := .component) w.obj) authProxyUrlEnv = some url ∧
    HasSchemeAndHost issuer ∧ HasSchemeAndHost url

/-- The modes of a config need an object: dex, or an auth-proxy in the cluster, or one outside. -/
def Needed (spec : SingleSignOnConfigSpec) : Managed → Prop
  | .dexSecret => spec.issuer = [] ∨ spec.externalEnvoyExtAuthz = none
  | .dexComponent => spec.issuer = []
  | .dexRoute => spec.issuer = []
  | .authProxyComponent => spec.externalEnvoyExtAuthz = none
  | .authProxyRoute => spec.externalEnvoyExtAuthz = none
  | .externalEnvoyExtAuthz => spec.externalEnvoyExtAuthz ≠ none

/-- **What only an abandoned mode needs is gone.** -/
def Gone (spec : SingleSignOnConfigSpec) (t : Cluster) : Prop := ∀ m, ¬ Needed spec m → ¬ Has t m

/-- A spec that the webhook has taken. -/
def Accepted (adm : Admission) (spec : SingleSignOnConfigSpec) : Prop := spec.commonValidate adm = []

/-! ## 2. Steps -/

variable {env : Surroundings} {sso : Config} {s t u : Cluster} {m : Managed}

/-- Of the objects that are managed, only these have changed. -/
def Leaves (ms : List Managed) (s t : Cluster) : Prop := ∀ m, m ∉ ms → getManaged t m = getManaged s m

theorem Leaves.refl (s : Cluster) : Leaves [] s s := fun _ _ => rfl

theorem Leaves.trans {ms ns : List Managed} (h : Leaves ms s t) (h' : Leaves ns t u) : Leaves (ms ++ ns) s u := by
  intro m hm
  rw [List.mem_append, not_or] at hm
  rw [h' m hm.2, h m hm.1]

/-- Two of them have different keys. -/
theorem managed_injective {m m' : Managed} (hkind : m.kind = m'.kind) (hkey : m.key = m'.key) : m = m' := by
  cases m <;> cases m' <;> first | rfl | exact absurd hkind (by decide) | exact absurd hkey (by decide)

theorem leaves_of_sameBut (h : Objects.SameBut (S := schema) m.kind m.key s t) : Leaves [m] s t := by
  intro m' hm'
  exact h m'.kind m'.key fun ⟨hkind, hkey⟩ => hm' (List.mem_singleton.mpr (managed_injective hkind hkey))

/-- **What was loaded is saved**: it has the spec, and its neighbours are left alone. -/
theorem returns_saveManaged {spec : m.resource.Spec} {Q : Unit → Cluster → Prop}
    (h : Returns (saveManaged env sso m spec (getManaged s m)) s Q) :
    ∃ t, Q () t ∧ Leaves [m] s t ∧ ∃ w, getManaged t m = some w ∧ Owned.spec (r := m.resource) w.obj = spec := by
  unfold saveManaged at h
  split at h
  · have hupdated : ∀ old : schema.Obj m.kind, schema.key (k := m.kind) old = m.key →
        schema.key (k := m.kind) (sso.adopted spec old) = m.key := fun _ hold => hold
    have hnew : schema.key (k := m.kind) (⟨m.name, some sso.name, spec⟩ : Owned m.resource) = m.key := rfl
    obtain ⟨_, hQ⟩ := (Objects.returns_save hnew hupdated).mp h
    refine ⟨_, hQ, leaves_of_sameBut (Objects.sameBut_saved hnew hupdated), ?_⟩
    obtain ⟨w, hw, hobj⟩ := Objects.get_saved (s := s) hnew hupdated
    refine ⟨w, hw, ?_⟩
    rcases hobj with hobj | ⟨v, _, hobj⟩
    · rw [hobj]
    · rw [hobj]
      rfl
  · exact absurd h Calls.not_returns_fail

/-- **What was loaded is deleted.** -/
theorem returns_deleteManaged {Q : Unit → Cluster → Prop}
    (h : Returns (deleteManaged m (getManaged s m)) s Q) :
    ∃ t, Q () t ∧ Leaves [m] s t ∧ ¬ Has t m := by
  have hQ := (Objects.returns_deleteLoaded (S := schema) (k := m.kind)).mp h
  refine ⟨_, hQ, leaves_of_sameBut Objects.sameBut_cleared, ?_⟩
  unfold Has getManaged
  rw [Objects.get_cleared (S := schema)]
  exact Bool.false_ne_true

/-- What the loader finds. -/
def loadedOf (s : Cluster) : Loaded where
  secret := getManaged s .dexSecret
  dexComponent := getManaged s .dexComponent
  authProxyComponent := getManaged s .authProxyComponent
  dexRoute := getManaged s .dexRoute
  authProxyRoute := getManaged s .authProxyRoute
  externalEnvoyExtAuthz := getManaged s .externalEnvoyExtAuthz

theorem returns_loadResources {Q : Loaded → Cluster → Prop} :
    Returns loadResources s Q ↔ Q (loadedOf s) s := by
  unfold loadResources
  rw [Objects.returns_bind, Objects.returns_find, Objects.returns_bind, Objects.returns_find, Objects.returns_bind,
    Objects.returns_find, Objects.returns_bind, Objects.returns_find, Objects.returns_bind, Objects.returns_find,
    Objects.returns_bind, Objects.returns_find]
  exact Calls.returns_done

/-- **The part of dex** writes the secret, dex and its route, and nothing where there is another issuer. -/
theorem returns_reconcileDex {Q : Option (List (Str × Str)) → Cluster → Prop}
    (h : Returns (reconcileDex env sso (loadedOf s)) s Q) :
    ∃ secret t, Q secret t ∧ Leaves [.dexSecret, .dexComponent, .dexRoute] s t ∧ (sso.spec.issuer ≠ [] → t = s) := by
  unfold reconcileDex at h
  split at h
  · rename_i hissuer
    rw [Objects.returns_bind] at h
    obtain ⟨data, s₁, h, hsecret⟩ : ∃ data s₁, Returns (do
        reconcileDexComponent env sso (loadedOf s) data
        reconcileDexRoute env sso (loadedOf s)
        pure (some data) : ControllerTask (Option (List (Str × Str)))) s₁ Q ∧ Leaves [.dexSecret] s s₁ := by
      unfold reconcileSecret at h
      cases hloaded : (loadedOf s).secret with
      | some v =>
          rw [hloaded] at h
          have hrest := Calls.returns_done.mp h
          exact ⟨_, s, hrest, fun _ _ => rfl⟩
      | none =>
          rw [hloaded] at h
          have hnone : (none : Option (StoredManaged .dexSecret)) = getManaged s .dexSecret := hloaded.symm
          simp only at h
          rw [Objects.returns_bind, hnone] at h
          obtain ⟨s₁, h, hleaves, _⟩ := returns_saveManaged h
          have hrest := Calls.returns_done.mp h
          exact ⟨_, s₁, hrest, hleaves⟩
    have hcomponent : (loadedOf s).dexComponent = getManaged s₁ .dexComponent := (hsecret _ (by decide)).symm
    unfold reconcileDexComponent at h
    rw [Objects.returns_bind, hcomponent] at h
    split at h
    · exact absurd h Calls.not_returns_fail
    obtain ⟨s₂, h, hleaves, _⟩ := returns_saveManaged h
    have hleaves₂ := hsecret.trans hleaves
    have hroute : (loadedOf s).dexRoute = getManaged s₂ .dexRoute := (hleaves₂ _ (by decide)).symm
    unfold reconcileDexRoute at h
    rw [Objects.returns_bind, hroute] at h
    obtain ⟨s₃, h, hleaves, _⟩ := returns_saveManaged h
    exact ⟨_, s₃, Calls.returns_done.mp h, hleaves₂.trans hleaves, fun hne => absurd hissuer hne⟩
  · exact ⟨_, s, Calls.returns_done.mp h, fun _ _ => rfl, fun _ => rfl⟩

/-- **The part of the auth-proxy** deletes what the other mode has, and writes what its own mode has. -/
theorem returns_reconcileAuthProxy (hs : Leaves [.dexSecret, .dexComponent, .dexRoute] s t)
    {secret : Option (List (Str × Str))} {Q : Unit → Cluster → Prop}
    (h : Returns (reconcileAuthProxy env sso (loadedOf s) secret) t Q) :
    ∃ u, Q () u ∧ Leaves [.authProxyComponent, .authProxyRoute, .externalEnvoyExtAuthz] t u ∧
      (sso.spec.externalEnvoyExtAuthz ≠ none → ¬ Has u .authProxyComponent ∧ ¬ Has u .authProxyRoute) ∧
      (sso.spec.externalEnvoyExtAuthz = none → ¬ Has u .externalEnvoyExtAuthz ∧ ∃ data w,
        getManaged u .authProxyComponent = some w ∧ Owned.spec (r := .component) w.obj =
          (authProxyComponentSpec env.kalmVersion sso.spec data).default env.genPVCName) := by
  have hloaded (m : Managed) (hm : m ∉ [Managed.dexSecret, .dexComponent, .dexRoute]) :
      getManaged s m = getManaged t m := (hs m hm).symm
  unfold reconcileAuthProxy at h
  cases hext : sso.spec.externalEnvoyExtAuthz with
  | some ext =>
      rw [hext] at h
      have hcomponent : (loadedOf s).authProxyComponent = getManaged t .authProxyComponent := hloaded _ (by decide)
      simp only at h
      rw [Objects.returns_bind, hcomponent] at h
      obtain ⟨t₁, h, hleaves₁, hgone₁⟩ := returns_deleteManaged h
      have hroute : (loadedOf s).authProxyRoute = getManaged t₁ .authProxyRoute := by
        rw [hleaves₁ _ (by decide)]
        exact hloaded _ (by decide)
      rw [Objects.returns_bind, hroute] at h
      obtain ⟨t₂, h, hleaves₂, hgone₂⟩ := returns_deleteManaged h
      have hentry : (loadedOf s).externalEnvoyExtAuthz = getManaged t₂ .externalEnvoyExtAuthz := by
        rw [(hleaves₁.trans hleaves₂) _ (by decide)]
        exact hloaded _ (by decide)
      unfold reconcileExternalAuthProxyServiceEntry at h
      rw [hentry] at h
      obtain ⟨u, hQ, hleaves₃, _⟩ := returns_saveManaged h
      refine ⟨u, hQ, (hleaves₁.trans hleaves₂).trans hleaves₃, fun _ => ⟨?_, ?_⟩, fun hnone => by cases hnone⟩
      · rw [Has, (hleaves₂.trans hleaves₃) _ (by decide)]
        exact hgone₁
      · rw [Has, hleaves₃ _ (by decide)]
        exact hgone₂
  | none =>
      rw [hext] at h
      have hentry : (loadedOf s).externalEnvoyExtAuthz = getManaged t .externalEnvoyExtAuthz := hloaded _ (by decide)
      simp only at h
      rw [Objects.returns_bind, hentry] at h
      obtain ⟨t₁, h, hleaves₁, hgone⟩ := returns_deleteManaged h
      have hcomponent : (loadedOf s).authProxyComponent = getManaged t₁ .authProxyComponent := by
        rw [hleaves₁ _ (by decide)]
        exact hloaded _ (by decide)
      cases secret with
      | none => exact absurd h (by rw [Objects.returns_bind]; exact Calls.not_returns_crash)
      | some data =>
          unfold reconcileInternalAuthProxyComponent at h
          rw [Objects.returns_bind, hcomponent] at h
          obtain ⟨t₂, h, hleaves₂, w, hw, hspec⟩ := returns_saveManaged h
          have hroute : (loadedOf s).authProxyRoute = getManaged t₂ .authProxyRoute := by
            rw [(hleaves₁.trans hleaves₂) _ (by decide)]
            exact hloaded _ (by decide)
          unfold reconcileInternalAuthProxyRoute at h
          rw [hroute] at h
          obtain ⟨u, hQ, hleaves₃, _⟩ := returns_saveManaged h
          have hleaves : Leaves [.externalEnvoyExtAuthz, .authProxyComponent, .authProxyRoute] t u :=
            (hleaves₁.trans hleaves₂).trans hleaves₃
          refine ⟨u, hQ, fun m hm => hleaves m ?_, fun hsome => absurd rfl hsome, fun _ => ⟨?_, data, w, ?_, hspec⟩⟩
          · cases m <;> first | decide | exact absurd hm (by decide)
          · rw [Has, (hleaves₂.trans hleaves₃) _ (by decide)]
            exact hgone
          · rw [hleaves₃ _ (by decide)]
            exact hw

/-- **The certificate** is none of the objects that are loaded. -/
theorem returns_reconcileDexRouteCert {Q : Unit → Cluster → Prop}
    (h : Returns (reconcileDexRouteCert env sso) s Q) : ∃ t, Q () t ∧ Leaves [] s t := by
  unfold reconcileDexRouteCert at h
  split at h
  · exact ⟨s, Calls.returns_done.mp h, Leaves.refl s⟩
  split at h
  · exact ⟨s, Calls.returns_done.mp h, Leaves.refl s⟩
  rw [Objects.returns_bind, Objects.returns_find] at h
  split at h
  · exact ⟨s, Calls.returns_done.mp h, Leaves.refl s⟩
  split at h
  · refine ⟨_, (Objects.returns_create.mp h).2.2, fun m _ => ?_⟩
    exact State.get_put_of_ne (S := schema) (by cases m <;> decide) _
  · exact absurd h Calls.not_returns_fail

/-! ## 3. Faults -/

theorem strict_saveManaged (spec : m.resource.Spec) (loaded : Option (StoredManaged m)) :
    Strict .unavailable (saveManaged env sso m spec loaded) := by
  unfold saveManaged
  split
  · exact Objects.strict_save ..
  · trivial

theorem strict_loadResources : Strict .unavailable loadResources :=
  Calls.strict_bind (Objects.strict_find ..) fun _ =>
  Calls.strict_bind (Objects.strict_find ..) fun _ =>
  Calls.strict_bind (Objects.strict_find ..) fun _ =>
  Calls.strict_bind (Objects.strict_find ..) fun _ =>
  Calls.strict_bind (Objects.strict_find ..) fun _ =>
  Calls.strict_bind (Objects.strict_find ..) fun _ => trivial

theorem strict_reconcileDex (loaded : Loaded) : Strict .unavailable (reconcileDex env sso loaded) := by
  unfold reconcileDex
  split
  · refine Calls.strict_bind ?_ fun data => Calls.strict_bind ?_ fun _ =>
      Calls.strict_bind (strict_saveManaged ..) fun _ => trivial
    · unfold reconcileSecret
      split
      · trivial
      · exact Calls.strict_bind (strict_saveManaged ..) fun _ => trivial
    · unfold reconcileDexComponent
      split
      · trivial
      · exact strict_saveManaged ..
  · trivial

theorem strict_reconcileAuthProxy (loaded : Loaded) (secret : Option (List (Str × Str))) :
    Strict .unavailable (reconcileAuthProxy env sso loaded secret) := by
  unfold reconcileAuthProxy
  split
  · exact Calls.strict_bind (Objects.strict_deleteLoaded ..) fun _ =>
      Calls.strict_bind (Objects.strict_deleteLoaded ..) fun _ => strict_saveManaged ..
  · refine Calls.strict_bind (Objects.strict_deleteLoaded ..) fun _ =>
      Calls.strict_bind ?_ fun _ => strict_saveManaged ..
    unfold reconcileInternalAuthProxyComponent
    split
    · trivial
    · exact strict_saveManaged ..

theorem strict_reconcileDexRouteCert : Strict .unavailable (reconcileDexRouteCert env sso) := by
  unfold reconcileDexRouteCert
  split
  · trivial
  split
  · trivial
  refine Calls.strict_bind (Objects.strict_find ..) fun found => ?_
  split
  · trivial
  split
  · exact Calls.strict_invoke _
  · trivial

theorem strict_deleteResources (loaded : Loaded) : Strict .unavailable (deleteResources loaded) :=
  Calls.strict_bind (Objects.strict_deleteLoaded ..) fun _ =>
  Calls.strict_bind (Objects.strict_deleteLoaded ..) fun _ =>
  Calls.strict_bind (Objects.strict_deleteLoaded ..) fun _ => Objects.strict_deleteLoaded ..

/-- **A reconcile fails when a call does.** -/
theorem strict_run : Strict .unavailable (run env) := by
  refine Calls.strict_bind (Calls.strict_invoke _) fun configs => ?_
  split
  · exact strict_deleteResources _
  · exact Calls.strict_bind strict_loadResources fun loaded =>
      Calls.strict_bind (strict_reconcileDex loaded) fun secret =>
      Calls.strict_bind (strict_reconcileAuthProxy loaded secret) fun _ => strict_reconcileDexRouteCert
  · trivial

theorem crashless_saveManaged (spec : m.resource.Spec) (loaded : Option (StoredManaged m)) :
    Crashless (saveManaged env sso m spec loaded) := by
  unfold saveManaged
  split
  · exact Objects.crashless_save ..
  · trivial

/-- **It does not crash** where a secret has been loaded, or is not needed. -/
theorem crashless_reconcileResources {loaded : Loaded}
    (h : sso.spec.issuer ≠ [] → sso.spec.externalEnvoyExtAuthz = none → loaded.secret.isSome) :
    Crashless (reconcileResources env sso loaded) := by
  have hproxy (secret : Option (List (Str × Str)))
      (hsecret : sso.spec.externalEnvoyExtAuthz = none → secret.isSome) :
      Crashless (reconcileAuthProxy env sso loaded secret) := by
    unfold reconcileAuthProxy
    split
    · exact Calls.crashless_bind (Objects.crashless_deleteLoaded ..) fun _ =>
        Calls.crashless_bind (Objects.crashless_deleteLoaded ..) fun _ => crashless_saveManaged ..
    · rename_i hext
      obtain ⟨data, rfl⟩ := Option.isSome_iff_exists.mp (hsecret hext)
      exact Calls.crashless_bind (Objects.crashless_deleteLoaded ..) fun _ =>
        Calls.crashless_bind (crashless_saveManaged ..) fun _ => crashless_saveManaged ..
  have hcert : Crashless (reconcileDexRouteCert env sso) := by
    unfold reconcileDexRouteCert
    split
    · trivial
    split
    · trivial
    refine Calls.crashless_bind (Objects.crashless_find _ _) fun found => ?_
    split
    · trivial
    split
    · exact Calls.crashless_invoke _
    · trivial
  have hrest (secret : Option (List (Str × Str)))
      (hsecret : sso.spec.externalEnvoyExtAuthz = none → secret.isSome) :
      Crashless (do
        reconcileAuthProxy env sso loaded secret
        reconcileDexRouteCert env sso : ControllerTask Unit) :=
    Calls.crashless_bind (hproxy secret hsecret) fun _ => hcert
  unfold reconcileResources reconcileDex
  split
  · rw [Calls.Action.bind_assoc]
    refine Calls.crashless_bind ?_ fun data => ?_
    · unfold reconcileSecret
      split
      · trivial
      · exact Calls.crashless_bind (crashless_saveManaged ..) fun _ => trivial
    rw [Calls.Action.bind_assoc]
    refine Calls.crashless_bind ?_ fun _ => ?_
    · unfold reconcileDexComponent
      split
      · trivial
      · exact crashless_saveManaged ..
    rw [Calls.Action.bind_assoc]
    exact Calls.crashless_bind (crashless_saveManaged ..) fun _ => hrest (some data) fun _ => rfl
  · rename_i hissuer
    refine hrest _ fun hext => ?_
    rw [Option.isSome_map]
    exact h hissuer hext

/-! ## 4. One config -/

/-- **A reconcile of one config** that returns: of what is managed it has left what its modes do not concern, and the
    auth-proxy is as its mode wants it. -/
theorem returns_run {v : Versioned schema .config} (hv : s.list .config = [v]) {Q : Unit → Cluster → Prop}
    (h : Returns (run env) s Q) :
    ∃ t u, Q () u ∧ Leaves [.dexSecret, .dexComponent, .dexRoute] s t ∧
      ((Config.spec v.obj).issuer ≠ [] → t = s) ∧
      Leaves [.authProxyComponent, .authProxyRoute, .externalEnvoyExtAuthz] t u ∧
      ((Config.spec v.obj).externalEnvoyExtAuthz ≠ none → ¬ Has u .authProxyComponent ∧ ¬ Has u .authProxyRoute) ∧
      ((Config.spec v.obj).externalEnvoyExtAuthz = none → ¬ Has u .externalEnvoyExtAuthz ∧ ∃ data w,
        getManaged u .authProxyComponent = some w ∧ Owned.spec (r := .component) w.obj =
          (authProxyComponentSpec env.kalmVersion (Config.spec v.obj) data).default env.genPVCName) := by
  unfold run at h
  rw [Objects.returns_bind, Objects.returns_list, hv] at h
  simp only at h
  rw [Objects.returns_bind, returns_loadResources] at h
  unfold reconcileResources at h
  rw [Objects.returns_bind] at h
  obtain ⟨secret, t, h, hdex, hsame⟩ := returns_reconcileDex h
  rw [Objects.returns_bind] at h
  obtain ⟨u, h, hproxy, hext, hinternal⟩ := returns_reconcileAuthProxy hdex h
  obtain ⟨w, hQ, hcert⟩ := returns_reconcileDexRouteCert h
  have hlast (m : Managed) : getManaged w m = getManaged u m := hcert m List.not_mem_nil
  refine ⟨t, w, hQ, hdex, hsame, fun m hm => (hlast m).trans (hproxy m hm), ?_, ?_⟩
  · unfold Has
    rw [hlast, hlast]
    exact hext
  · unfold Has
    rw [hlast, hlast]
    exact hinternal

/-- **It crashes** where the auth-proxy needs a secret that no mode has made. -/
theorem dereferences_iff {v : Versioned schema .config} (hv : s.list .config = [v]) :
    Calls.Holds Objects.serve .unavailable (run env) s (fun o _ => o ≠ .crashed) ↔
      ((Config.spec v.obj).issuer ≠ [] → (Config.spec v.obj).externalEnvoyExtAuthz = none → Has s .dexSecret) := by
  have hlist : Returns (Objects.invoke (Objects.Call.list (S := schema) .config)) s
      fun r t => r = s.list .config ∧ t = s := Objects.returns_list.mpr ⟨rfl, rfl⟩
  have hload : Returns loadResources s fun loaded t => loaded = loadedOf s ∧ t = s :=
    returns_loadResources.mpr ⟨rfl, rfl⟩
  constructor
  · intro h hissuer hext
    unfold run at h
    obtain ⟨configs, t, ⟨rfl, rfl⟩, h⟩ := h.behind hlist
    rw [hv] at h
    obtain ⟨loaded, u, ⟨rfl, rfl⟩, h⟩ := h.behind hload
    by_contra hnone
    have hsecret : getManaged u .dexSecret = none := Option.not_isSome_iff_eq_none.mp hnone
    unfold reconcileResources reconcileDex reconcileAuthProxy at h
    rw [if_neg hissuer, hext] at h
    have hsecret' : (loadedOf u).secret = none := hsecret
    rw [hsecret', Option.map_none] at h
    have hdelete : Returns (deleteManaged .externalEnvoyExtAuthz (loadedOf u).externalEnvoyExtAuthz) u
        fun _ _ => True :=
      (Objects.returns_deleteLoaded (S := schema) (k := Managed.externalEnvoyExtAuthz.kind)).mpr trivial
    rw [Calls.Action.pure_eq, Calls.Action.done_bind, Calls.Action.bind_assoc] at h
    obtain ⟨_, w, _, h⟩ := h.behind hdelete
    exact Calls.holds_crash.mp h rfl
  · intro h
    refine (Calls.strict_invoke _).holds_bind hlist (fun _ _ => by rintro ⟨⟩) ?_
    rintro configs t ⟨rfl, rfl⟩
    rw [hv]
    refine strict_loadResources.holds_bind hload (fun _ _ => by rintro ⟨⟩) ?_
    rintro loaded u ⟨rfl, rfl⟩
    exact (crashless_reconcileResources h).holds

/-- The variables of the auth-proxy, as they are stored. -/
theorem envValue_authProxy (kalmVersion genPVCName : Str) (spec : SingleSignOnConfigSpec) (data : List (Str × Str)) :
    envValue ((authProxyComponentSpec kalmVersion spec data).default genPVCName) providerUrlEnv =
        some (getOIDCProviderInfo spec).issuer ∧
      envValue ((authProxyComponentSpec kalmVersion spec data).default genPVCName) authProxyUrlEnv =
        some (getOIDCProviderInfo spec).authProxyExternalUrl := ⟨rfl, rfl⟩

/-- **Configs**: a reconcile of the one config dereferences no missing object exactly where the secret is there or is
    not needed by an auth-proxy beside another issuer; one that returns has configured the auth-proxy exactly where it
    runs beside dex, on a domain that names a host, or outside; and it leaves nothing of another mode exactly where
    nothing of dex was there that another issuer does not need. -/
theorem reconciles_iff {env : Surroundings} {s : Cluster} {v : Versioned schema .config} (hv : s.list .config = [v]) :
    ((∀ faults, (Calls.run Objects.serve .unavailable (run env) faults s).1 ≠ .crashed) ↔
      ((Config.spec v.obj).issuer ≠ [] → (Config.spec v.obj).externalEnvoyExtAuthz = none → Has s .dexSecret)) ∧
    ∀ faults t, Calls.run Objects.serve .unavailable (run env) faults s = (.returned (), t) →
      (Configured t ↔ ((Config.spec v.obj).externalEnvoyExtAuthz = none →
        (Config.spec v.obj).issuer = [] ∧ NamesHost (Config.spec v.obj).domain)) ∧
      (Gone (Config.spec v.obj) t ↔ ((Config.spec v.obj).issuer ≠ [] →
        ¬ Has s .dexComponent ∧ ¬ Has s .dexRoute ∧
          ((Config.spec v.obj).externalEnvoyExtAuthz ≠ none → ¬ Has s .dexSecret))) := by
  refine ⟨dereferences_iff hv, fun faults t hrun => ?_⟩
  obtain ⟨u, w, ⟨_, rfl⟩, hdex, hsame, hproxy, hext, hinternal⟩ := returns_run hv (strict_run.returns hrun)
  constructor
  · cases hmode : (Config.spec v.obj).externalEnvoyExtAuthz with
    | some ext =>
        refine iff_of_true (fun c hc => ?_) fun hnone => by cases hnone
        have hgone := (hext (by rw [hmode]; exact Option.some_ne_none ext)).1
        rw [Has, hc] at hgone
        exact absurd rfl hgone
    | none =>
        obtain ⟨_, data, c, hc, hspec⟩ := hinternal hmode
        have henv := envValue_authProxy env.kalmVersion env.genPVCName (Config.spec v.obj) data
        rw [← hspec] at henv
        rw [forall_prop_of_true rfl, ← urls_iff hmode]
        constructor
        · intro h
          obtain ⟨issuer, url, hissuer, hurl, hok⟩ := h c hc
          rw [henv.1] at hissuer
          rw [henv.2] at hurl
          rw [Option.some.inj hissuer, Option.some.inj hurl]
          exact hok
        · intro h c' hc'
          obtain rfl := Option.some.inj (hc.symm.trans hc')
          exact ⟨_, _, henv.1, henv.2, h⟩
  · have hkept (hissuer : (Config.spec v.obj).issuer ≠ []) (m : Managed)
        (hm : m ∉ [Managed.authProxyComponent, .authProxyRoute, .externalEnvoyExtAuthz]) : Has w m ↔ Has s m := by
      rw [Has, hproxy m hm, hsame hissuer, Has]
    constructor
    · intro hgone hissuer
      refine ⟨?_, ?_, fun hmode => ?_⟩
      · rw [← hkept hissuer _ (by decide)]
        exact hgone _ hissuer
      · rw [← hkept hissuer _ (by decide)]
        exact hgone _ hissuer
      · rw [← hkept hissuer _ (by decide)]
        exact hgone .dexSecret fun hneeded => hneeded.elim hissuer hmode
    · intro h m hm
      cases m with
      | dexSecret =>
          have hissuer := fun e => hm (Or.inl e)
          rw [hkept hissuer _ (by decide)]
          exact (h hissuer).2.2 fun e => hm (Or.inr e)
      | dexComponent =>
          rw [hkept hm _ (by decide)]
          exact (h hm).1
      | dexRoute =>
          rw [hkept hm _ (by decide)]
          exact (h hm).2.1
      | authProxyComponent => exact (hext hm).1
      | authProxyRoute => exact (hext hm).2
      | externalEnvoyExtAuthz => exact (hinternal (not_not.mp hm)).1

/-- A config of a user and a domain. -/
def userSpec (issuer : Str) : SingleSignOnConfigSpec where
  issuer := issuer
  jwksUri := []
  domain := str "sso.shop.io"
  useHttp := false
  port := some 8443
  showApproveScreen := false
  alwaysShowLoginScreen := false
  connectors := []
  temporaryUser := some ⟨str "olga", str "$2y$10$", str "08a8", str "olga@shop.io"⟩
  externalEnvoyExtAuthz := none
  idTokenExpirySeconds := some 300

/-- There is one config, and nothing else. -/
def oneConfig (issuer : Str) : Cluster :=
  State.put (S := schema) ⟨fun _ => .empty, 0⟩ .config ⟨kalmDexNamespace, str "sso", userSpec issuer⟩

/-- Some surroundings. -/
def plainSurroundings : Surroundings where
  lower := toLower
  trimSpace := id
  yaml := fun config => config.issuer
  randString := str "s3cr3t"
  kalmVersion := str "v0.1.0"
  genPVCName := []
  admits := fun _ _ => true

/-- Beside dex no missing object is dereferenced, and a run configures the auth-proxy and leaves nothing behind. -/
theorem reconciles_dex :
    (∀ faults, (Calls.run Objects.serve .unavailable (run plainSurroundings) faults (oneConfig [])).1 ≠ .crashed) ∧
      ∃ t, Calls.run Objects.serve .unavailable (run plainSurroundings) [] (oneConfig []) = (.returned (), t) ∧
        Configured t ∧ Gone (userSpec []) t := by
  have hboth := @reconciles_iff plainSurroundings (oneConfig []) ⟨⟨kalmDexNamespace, str "sso", userSpec []⟩, 1⟩ rfl
  have hrun : Calls.run Objects.serve .unavailable (run plainSurroundings) [] (oneConfig []) = (.returned (), _) := rfl
  obtain ⟨hconfigured, hgone⟩ := hboth.2 [] _ hrun
  exact ⟨hboth.1.mpr fun h => absurd rfl h, _, hrun, hconfigured.mpr fun _ => ⟨rfl, 115, _, rfl, by decide⟩,
    hgone.mpr fun h => absurd rfl h⟩

/-- Beside another issuer the secret is missing. -/
theorem reconciles_fails :
    ¬ ∀ (adm : Admission) (env : Surroundings) (s : Cluster) (v : Versioned schema .config), s.list .config = [v] →
      Accepted adm (Config.spec v.obj) →
      (∀ faults, (Calls.run Objects.serve .unavailable (run env) faults s).1 ≠ .crashed) ∧
      ∀ faults t, Calls.run Objects.serve .unavailable (run env) faults s = (.returned (), t) →
        Configured t ∧ Gone (Config.spec v.obj) t := by
  intro h
  have hsafe := (h ⟨fun _ => true, fun _ => true, fun _ _ => none⟩ plainSurroundings
    (oneConfig (str "https://accounts.shop.io"))
    ⟨⟨kalmDexNamespace, str "sso", userSpec (str "https://accounts.shop.io")⟩, 1⟩ rfl rfl).1
  have hsecret := (dereferences_iff
    (v := ⟨⟨kalmDexNamespace, str "sso", userSpec (str "https://accounts.shop.io")⟩, 1⟩) rfl).mp hsafe (by decide) rfl
  exact Bool.false_ne_true hsecret

/-! ## 5. No config -/

/-- Without a config nothing is done: nothing has been loaded. -/
theorem returns_run_nil (hs : s.list .config = []) {Q : Unit → Cluster → Prop} :
    Returns (run env) s Q ↔ Q () s := by
  unfold run
  rw [Objects.returns_bind, Objects.returns_list, hs]
  exact Calls.returns_done

/-- Nothing of single sign-on is left. -/
def Emptied (s : Cluster) : Prop := ∀ m, ¬ Has s m

/-- **Nothing is left exactly where nothing was there.** -/
theorem emptied_iff (hs : s.list .config = []) {faults : List Calls.Fault}
    (h : Calls.run Objects.serve .unavailable (run env) faults s = (.returned (), t)) : Emptied t ↔ Emptied s := by
  obtain ⟨_, rfl⟩ := (returns_run_nil hs).mp (strict_run.returns h)
  exact Iff.rfl

end Kalm.Sso
