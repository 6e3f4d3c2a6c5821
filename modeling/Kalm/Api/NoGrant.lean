/-
  File:      Kalm/Api/NoGrant.lean
  Subject:   WHAT A CLIENT WITHOUT ANY GRANT LEARNS: two runs of one request, in two clusters.

  A check that asks about every element of a list says yes to the empty list, so a token without rules
  or a route without destinations would be everybody's. Their CRDs ask for an element: such objects are
  not stored, and the API server refuses to store them.

  * `NoGrant` -- nothing is allowed; `refuses_…`, `silent_…` -- what the handlers then do;
  * `Blind` -- the objects stay, and the two answers are errors or carry no data of the cluster;
  * `blind_iff` -- when that holds. A service account is answered to everybody, and the deletion of a
    route succeeds where there is none.
-/
import Kalm.Api.Handlers

namespace Kalm

open Keyed (Store filterInPlace)

/-! ## 1. The two runs -/

variable {sum256 : Str → List UInt8}

/-- `Can` is false on every request. -/
def NoGrant (c : Caller) : Prop :=
  ∀ action scope obj, can c.policies c.client action scope obj = some false

/-- An error, or no answer at all. -/
def Reply.IsError : Reply → Prop
  | .panicked | .error _ => True
  | .ok _ => False

/-- A body without data of the cluster: empty, an empty list, or what the client is told about
    itself. -/
def Body.NoClusterData : Body → Prop
  | .empty | .loginStatus _ => True
  | .items l => l = []

/-- A success without data of the cluster. -/
def Reply.IsSilent : Reply → Prop
  | .ok body => body.NoClusterData
  | .panicked | .error _ => False

/-- The handler leaves the objects as they are and answers an error. -/
def Refuses (h : Handler sum256) (s : ApiState sum256) : Prop := (h s).2 = s ∧ (h s).1.IsError

/-- The handler leaves the objects as they are and answers without data of the cluster. -/
def Silent (h : Handler sum256) (s : ApiState sum256) : Prop := (h s).2 = s ∧ (h s).1.IsSilent

/-- **Nothing is learned and nothing is changed**: in both clusters the objects stay as they are, and
    either both answers are errors or both carry no data of the cluster. -/
def Blind (env : Environment sum256) (c : Caller) (req : HttpRequest) (s s' : ApiState sum256) :
    Prop :=
  Refuses (serveRequest env c req) s ∧ Refuses (serveRequest env c req) s' ∨
    Silent (serveRequest env c req) s ∧ Silent (serveRequest env c req) s'

/-! ## 2. What the checks answer -/

section Checks

variable {c : Caller} (h : NoGrant c)

include h

theorem NoGrant.canManageRoleBinding (role ns : Str) :
    canManageRoleBinding c.policies c.client role ns = some false := by
  unfold Kalm.canManageRoleBinding
  split <;> exact h ..

/-- **Tuples are covered only where there is none.** -/
theorem NoGrant.coversPolicies {sub act scope obj : Str} {policies : List (List Str)} :
    coversPolicies c.policies c.client ([sub, act, scope, obj] :: policies) = some false := by
  rw [Kalm.coversPolicies, h act scope obj]

/-- A stored token has a rule. -/
theorem NoGrant.storedToken (t : StoredAccessToken sum256) :
    permissionsGreaterThanOrEqualAccessToken c.policies c.client t.toAccessToken = some false := by
  have hne := t.markers.rules
  rw [permissionsGreaterThanOrEqualAccessToken, getPoliciesFromAccessToken]
  cases hr : t.spec.rules with
  | nil => exact absurd hr hne
  | cons rule rules => exact h.coversPolicies

theorem NoGrant.coversRules {rules : List AccessTokenRuleBody} (name : Str) (hne : rules ≠ []) :
    coversRules c name rules = some false := by
  cases rules with
  | nil => exact absurd rfl hne
  | cons rule rules => exact h.coversPolicies

/-- **Destinations are allowed only where there is none.** -/
theorem NoGrant.destinations {action ns : Str} (ha : action = str "view" ∨ action = str "edit")
    (dest : HttpRouteDestination) (dests : List HttpRouteDestination) :
    canOperateDestinations c.policies c.client action ns (dest :: dests) = some false := by
  have hscope : ∀ scope, canOperateScope c.policies c.client action scope = some false := by
    intro scope
    rcases ha with rfl | rfl
    · rw [canOperateScope, if_pos rfl]
      exact h ..
    · rw [canOperateScope, if_neg (by decide), if_pos rfl]
      exact h ..
  rw [canOperateDestinations]
  cases authorizedNamespace ns dest.host with
  | none => rfl
  | some scope => simp only [hscope]

/-- A stored route has a destination. -/
theorem NoGrant.storedRoute {action : Str} (ha : action = str "view" ∨ action = str "edit")
    (r : StoredHttpRoute) :
    canOperateHttpRoute c.policies c.client action (buildHttpRouteFromResource r.toHttpRoute) =
      some false := by
  have hne := r.destinations_ne
  rw [canOperateHttpRoute, buildHttpRouteFromResource]
  cases hd : r.spec.destinations with
  | nil => exact absurd hd hne
  | cons dest dests =>
      simp only
      rw [hd]
      exact h.destinations ha dest dests

end Checks

/-! ## 3. What the handlers do -/

variable {s : ApiState sum256}

theorem refuses_failWith (e : HandlerError) : Refuses (failWith e) s := ⟨rfl, trivial⟩

theorem refuses_panicked : Refuses (answerWith .panicked) s := ⟨rfl, trivial⟩

/-- A check that does not pass. -/
theorem refuses_requires {allowed : Option Bool} (h : allowed = some false) (e : HandlerError)
    (next : Handler sum256) : Refuses (requires allowed e next) s := by
  rw [h]
  exact refuses_failWith e

/-- A check that passes leaves the rest. -/
theorem refuses_passed {allowed : Option Bool} (h : allowed = some true) {e : HandlerError}
    {next : Handler sum256} (hn : Refuses next s) : Refuses (requires allowed e next) s := by
  rw [h]
  exact hn

theorem refuses_bindBody {β : Type} {body : Option β} {next : β → Handler sum256}
    (h : ∀ b, body = some b → Refuses (next b) s) : Refuses (bindBody body next) s := by
  cases body with
  | none => exact refuses_failWith .bind
  | some b => exact h b rfl

theorem refuses_deref {β : Type} {p : Option β} {next : β → Handler sum256}
    (h : ∀ b, p = some b → Refuses (next b) s) : Refuses (deref p next) s := by
  cases p with
  | none => exact refuses_panicked
  | some b => exact h b rfl

theorem refuses_getting {β : Type} {o : Option β} {next : β → Handler sum256}
    (h : ∀ b, o = some b → Refuses (next b) s) : Refuses (getting o next) s := by
  cases o with
  | none => exact refuses_failWith .notFound
  | some b => exact h b rfl

/-- A list of which nothing is accepted. -/
theorem silent_listFiltered {β : Type} {keep : β → Option Bool} {item : β → Item} {l : List β}
    (h : ∀ x ∈ l, keep x = some false) : Silent (listFiltered keep item l) s := by
  rw [listFiltered, Keyed.filterInPlace_eq_nil h]
  exact ⟨rfl, rfl⟩

section NoGrant

variable {c : Caller} (h : NoGrant c) (env : Environment sum256)

/-- **A token without rules is refused by the API server.** -/
theorem refuses_createToken (labels : Labels) (creator token : Str) (expiredAt : Option Int) :
    Refuses (createToken labels creator token ([], expiredAt)) s := by
  rw [Refuses, createToken]
  simp only [typedRules]
  split
  · rename_i hm
    exact absurd rfl hm.1.rules
  · exact ⟨rfl, trivial⟩

/-- **A route without destinations is refused by the API server.** -/
theorem refuses_storeRoute {present : Bool} {route : HttpRouteResource}
    (hroute : ∀ spec, route.spec = some spec → spec.destinations = []) :
    Refuses (storeRoute env present route) s := by
  rw [Refuses, storeRoute]
  split
  · rename_i key spec hkey hspec
    dsimp only
    split
    · exact ⟨rfl, trivial⟩
    · split
      · rename_i hm
        exact absurd (hroute spec hspec) hm.2
      · exact ⟨rfl, trivial⟩
  · exact ⟨rfl, trivial⟩

include h

theorem refuses_createTokenWith (labels : Labels)
    (check : List AccessTokenRuleBody → Option HandlerError) (body : Option AccessTokenBody) :
    Refuses (createTokenWith env c labels check body) s := by
  refine refuses_bindBody fun body _ => refuses_deref fun spec _ => ?_
  obtain ⟨rules, expiredAt⟩ := spec
  by_cases hr : rules = []
  · subst hr
    refine refuses_passed rfl ?_
    split
    · exact refuses_failWith _
    · exact refuses_createToken ..
  · exact refuses_requires (h.coversRules body.name hr) ..

theorem refuses_writeRoute (present : Bool) (body : Option HttpRouteResource) :
    Refuses (writeRoute env c present body) s := by
  refine refuses_bindBody fun route _ => ?_
  rw [canOperateHttpRoute]
  cases hspec : route.spec with
  | none => exact refuses_panicked
  | some spec =>
      simp only
      cases hd : spec.destinations with
      | nil =>
          refine refuses_storeRoute env fun spec' hspec' => ?_
          rw [← Option.some.inj (hspec.symm.trans hspec'), hd]
      | cons dest dests => exact refuses_requires (h.destinations (Or.inr rfl) dest dests) ..

theorem silent_listVolumes : Silent (handleListVolumes c) s := by
  have hnil : ∀ l, listVolumes c s l = some [] := by
    intro l
    induction l with
    | nil => rfl
    | cons pvc l ih =>
        have hview : canViewNamespace c.policies c.client pvc.ns = some false := h ..
        rw [listVolumes, hview]
        exact ih
  rw [Silent, handleListVolumes, hnil]
  exact ⟨rfl, rfl⟩

theorem silent_getApplications : Silent (handleGetApplications env c) s := by
  have hnil : filterInPlace
      (fun n : NamespaceObject => canViewNamespace c.policies c.client n.name.val)
      s.namespaces.items = some [] :=
    Keyed.filterInPlace_eq_nil fun n _ => h ..
  rw [Silent, handleGetApplications, hnil]
  exact ⟨rfl, rfl⟩

theorem refuses_deleteRoleBinding (ns name : Str) : Refuses (handleDeleteRoleBinding c ns name) s :=
  refuses_getting fun _ _ => refuses_requires (h.canManageRoleBinding ..) ..

theorem refuses_deleteAccessToken (body : Option AccessTokenBody) :
    Refuses (handleDeleteAccessToken c body) s :=
  refuses_bindBody fun _ _ => refuses_getting fun _ _ => refuses_requires (h.storedToken _) ..

theorem refuses_availableVols (ns : Str) (rest : Handler sum256) :
    Refuses (availableVols c ns rest) s := by
  unfold availableVols
  split
  · exact refuses_failWith _
  · exact refuses_requires (h ..) ..

omit h in
/-- What a client is told about itself does not depend on the objects. -/
theorem loginStatus_cases (s s' : ApiState sum256) :
    Refuses (serveLoginStatus env c) s ∧ Refuses (serveLoginStatus env c) s' ∨
      Silent (serveLoginStatus env c) s ∧ Silent (serveLoginStatus env c) s' := by
  unfold serveLoginStatus
  split
  · exact Or.inr ⟨⟨rfl, trivial⟩, ⟨rfl, trivial⟩⟩
  · cases handleLoginStatus c.policies c.client with
    | none => exact Or.inl ⟨refuses_panicked, refuses_panicked⟩
    | some res => exact Or.inr ⟨⟨rfl, trivial⟩, ⟨rfl, trivial⟩⟩

end NoGrant

/-! ## 4. The two routes that tell -/

/-- The secret of a service account can be read. -/
def SecretReadable (name : Str) (s : ApiState sum256) : Prop :=
  ∃ account secretName secret, s.serviceAccounts.find (kalmSystemNamespace, name) = some account ∧
    account.secrets.head? = some secretName ∧
    s.secrets.find (kalmSystemNamespace, secretName) = some secret

/-- **A service account is answered to everybody.** -/
theorem getServiceAccount_cases (name : Str) (s : ApiState sum256) :
    (SecretReadable name s ∧ ¬ (handleGetServiceAccount name s).1.IsError ∧
        ¬ (handleGetServiceAccount name s).1.IsSilent) ∨
      (¬ SecretReadable name s ∧ Refuses (handleGetServiceAccount name) s) := by
  cases ha : s.serviceAccounts.find (kalmSystemNamespace, name) with
  | none =>
      refine Or.inr ⟨?_, ?_⟩
      · rintro ⟨account, _, _, hf, _⟩
        rw [ha] at hf
        cases hf
      · rw [Refuses, handleGetServiceAccount, ha]
        exact ⟨rfl, trivial⟩
  | some account =>
      cases hs : account.secrets.head? with
      | none =>
          refine Or.inr ⟨?_, ?_⟩
          · rintro ⟨account', _, _, hf, hhead, _⟩
            cases ha.symm.trans hf
            rw [hs] at hhead
            cases hhead
          · rw [Refuses, handleGetServiceAccount, ha]
            simp only [getting, hs]
            exact ⟨rfl, trivial⟩
      | some secretName =>
          cases hsec : s.secrets.find (kalmSystemNamespace, secretName) with
          | none =>
              refine Or.inr ⟨?_, ?_⟩
              · rintro ⟨account', _, _, hf, hhead, hfound⟩
                cases ha.symm.trans hf
                cases hs.symm.trans hhead
                rw [hsec] at hfound
                cases hfound
              · rw [Refuses, handleGetServiceAccount, ha]
                simp only [getting, hs, deref, hsec]
                exact ⟨rfl, trivial⟩
          | some secret =>
              refine Or.inl ⟨⟨account, secretName, secret, ha, hs, hsec⟩, ?_⟩
              rw [handleGetServiceAccount, ha]
              simp only [getting, hs, deref, hsec]
              exact ⟨id, fun hnil => nomatch hnil⟩

/-- **The deletion of a route succeeds where there is none.** -/
theorem deleteRoute_cases {c : Caller} (h : NoGrant c) (ns name : Str) (s : ApiState sum256) :
    (s.httpRoutes.find (ns, name) = none ∧ Silent (handleDeleteRoute c ns name) s ∧
        ¬ (handleDeleteRoute c ns name s).1.IsError) ∨
      ((s.httpRoutes.find (ns, name)).isSome ∧ Refuses (handleDeleteRoute c ns name) s ∧
        ¬ (handleDeleteRoute c ns name s).1.IsSilent) := by
  cases hf : s.httpRoutes.find (ns, name) with
  | none =>
      have habsent : handleDeleteRoute c ns name s = (.ok .empty, s) := by
        rw [handleDeleteRoute, hf]
      rw [Silent, habsent]
      exact Or.inl ⟨rfl, ⟨rfl, trivial⟩, id⟩
  | some route =>
      have hrefused : handleDeleteRoute c ns name s = failWith .insufficientPermissions s := by
        rw [handleDeleteRoute, hf]
        simp only [h.storedRoute (Or.inr rfl) route, requires]
      rw [Refuses, hrefused]
      exact Or.inr ⟨rfl, ⟨rfl, trivial⟩, id⟩

/-! ## 5. Every route -/

/-- Where the two runs tell nothing: the secret of a service account that is asked for can be read in
    neither cluster, a route that is to be deleted is in both or in none. -/
def Untold (req : HttpRequest) (s s' : ApiState sum256) : Prop :=
  match req with
  | .getServiceAccount name => ¬ SecretReadable name s ∧ ¬ SecretReadable name s'
  | .deleteRoute ns name =>
    (s.httpRoutes.find (ns, name)).isSome = (s'.httpRoutes.find (ns, name)).isSome
  | _ => True

/-- The other routes refuse, or answer nothing of the cluster. -/
theorem blind_of_other {c : Caller} (h : NoGrant c) (env : Environment sum256) {req : HttpRequest}
    (hplugins : req ≠ .listComponentPlugins) (haccount : ∀ name, req ≠ .getServiceAccount name)
    (hdelete : ∀ ns name, req ≠ .deleteRoute ns name) (s s' : ApiState sum256) :
    Blind env c req s s' := by
  have refuse : (∀ s, Refuses (serveRequest env c req) s) → Blind env c req s s' :=
    fun hr => Or.inl ⟨hr s, hr s'⟩
  have silent : (∀ s, Silent (serveRequest env c req) s) → Blind env c req s s' :=
    fun hr => Or.inr ⟨hr s, hr s'⟩
  cases req with
  | loginStatus => exact loginStatus_cases env s s'
  | listComponentPlugins => exact absurd rfl hplugins
  | getServiceAccount name => exact absurd rfl (haccount name)
  | deleteRoute ns name => exact absurd rfl (hdelete ns name)
  | getApplications => exact silent fun _ => silent_getApplications h env
  | listRoleBindings =>
      exact silent fun _ => silent_listFiltered fun _ _ => h.canManageRoleBinding ..
  | listAllRoutes => exact silent fun _ => silent_listFiltered fun r _ => h.storedRoute (Or.inl rfl) r
  | listRoutes ns => exact silent fun _ => silent_listFiltered fun r _ => h.storedRoute (Or.inl rfl) r
  | listVolumes => exact silent fun _ => silent_listVolumes h
  | listAccessTokens => exact silent fun _ => silent_listFiltered fun t _ => h.storedToken t
  | listDeployAccessTokens => exact silent fun _ => silent_listFiltered fun t _ => h.storedToken t
  | listProtectedEndpoints => exact silent fun _ => silent_listFiltered fun _ _ => h ..
  | listSettings => exact silent fun _ => ⟨rfl, trivial⟩
  | updateComponent ns name body =>
      exact refuse fun _ => refuses_bindBody fun _ _ => refuses_deref fun _ _ =>
        refuses_requires (h ..) ..
  | createRoleBinding body =>
      exact refuse fun _ => refuses_bindBody fun _ _ => refuses_deref fun _ _ =>
        refuses_requires (h.canManageRoleBinding ..) ..
  | updateRoleBinding body =>
      exact refuse fun _ => refuses_bindBody fun _ _ => refuses_deref fun _ _ =>
        refuses_requires (h.canManageRoleBinding ..) ..
  | deleteRoleBinding ns name => exact refuse fun _ => refuses_deleteRoleBinding h ns name
  | createRoute body => exact refuse fun _ => refuses_writeRoute h env false body
  | updateRoute body => exact refuse fun _ => refuses_writeRoute h env true body
  | availableVolsForSimpleWorkload ns current => exact refuse fun _ => refuses_availableVols h ..
  | availableVolsForSts ns => exact refuse fun _ => refuses_availableVols h ..
  | createAccessToken body => exact refuse fun _ => refuses_createTokenWith h env ..
  | createDeployAccessToken body => exact refuse fun _ => refuses_createTokenWith h env ..
  | deleteAccessToken body => exact refuse fun _ => refuses_deleteAccessToken h body
  | deleteProtectedEndpoints body =>
      exact refuse fun _ => refuses_bindBody fun _ _ => refuses_requires (h ..) ..
  | createProtectedEndpoints body =>
      exact refuse fun _ => refuses_bindBody fun _ _ => refuses_requires (h ..) ..
  | updateProtectedEndpoints body =>
      exact refuse fun _ => refuses_bindBody fun _ _ => refuses_requires (h ..) ..
  | _ => exact refuse fun _ => refuses_requires (h ..) ..

/-- **A client without any grant learns nothing and changes nothing, except by the two routes that
    tell.** -/
theorem blind_iff (env : Environment sum256) (c : Caller) (req : HttpRequest)
    (s s' : ApiState sum256) (h : NoGrant c) (hplugins : req ≠ .listComponentPlugins) :
    Blind env c req s s' ↔ Untold req s s' := by
  by_cases haccount : ∃ name, req = .getServiceAccount name
  · obtain ⟨name, rfl⟩ := haccount
    show _ ↔ ¬ SecretReadable name s ∧ ¬ SecretReadable name s'
    constructor
    · intro hblind
      have hunreadable : ∀ s : ApiState sum256, Refuses (handleGetServiceAccount name) s ∨
          Silent (handleGetServiceAccount name) s → ¬ SecretReadable name s := by
        intro s hs hread
        rcases getServiceAccount_cases name s with ⟨_, herr, hsilent⟩ | ⟨hno, _⟩
        · rcases hs with hs | hs
          · exact herr hs.2
          · exact hsilent hs.2
        · exact hno hread
      rcases hblind with ⟨hs, hs'⟩ | ⟨hs, hs'⟩
      · exact ⟨hunreadable s (Or.inl hs), hunreadable s' (Or.inl hs')⟩
      · exact ⟨hunreadable s (Or.inr hs), hunreadable s' (Or.inr hs')⟩
    · rintro ⟨hs, hs'⟩
      have hrefuses : ∀ s : ApiState sum256, ¬ SecretReadable name s →
          Refuses (handleGetServiceAccount name) s := by
        intro s hs
        rcases getServiceAccount_cases name s with ⟨hread, _⟩ | ⟨_, hr⟩
        · exact absurd hread hs
        · exact hr
      exact Or.inl ⟨hrefuses s hs, hrefuses s' hs'⟩
  · by_cases hdelete : ∃ ns name, req = .deleteRoute ns name
    · obtain ⟨ns, name, rfl⟩ := hdelete
      show _ ↔ (s.httpRoutes.find (ns, name)).isSome = (s'.httpRoutes.find (ns, name)).isSome
      rcases deleteRoute_cases h ns name s with ⟨hn, hsil, herr⟩ | ⟨hn, href, hnsil⟩ <;>
        rcases deleteRoute_cases h ns name s' with ⟨hn', hsil', herr'⟩ | ⟨hn', href', hnsil'⟩
      · exact iff_of_true (Or.inr ⟨hsil, hsil'⟩) (by rw [hn, hn'])
      · refine iff_of_false ?_ (by rw [hn, hn']; decide)
        rintro (⟨hr, _⟩ | ⟨_, hq⟩)
        · exact herr hr.2
        · exact hnsil' hq.2
      · refine iff_of_false ?_ (by rw [hn, hn']; decide)
        rintro (⟨_, hr⟩ | ⟨hq, _⟩)
        · exact herr' hr.2
        · exact hnsil hq.2
      · exact iff_of_true (Or.inl ⟨href, href'⟩) (by rw [hn, hn'])
    · refine iff_of_true (blind_of_other h env hplugins (fun name e => haccount ⟨name, e⟩)
        (fun ns name e => hdelete ⟨ns, name, e⟩) s s') ?_
      cases req with
      | getServiceAccount name => exact absurd ⟨name, rfl⟩ haccount
      | deleteRoute ns name => exact absurd ⟨ns, name, rfl⟩ hdelete
      | _ => trivial

/-! ## 6. A stranger -/

/-- A client of whom the policies say nothing. -/
def stranger : Caller where
  policies := ⟨[[str "user-ann", str "edit", [star], [star]]], []⟩
  client := ⟨str "bob", none, [], []⟩
  name := str "bob"

theorem noGrant_stranger : NoGrant stranger := by
  intro action scope obj
  have hdenied : enforce stranger.policies (str "user-bob") action scope obj = false := by
    refine Bool.eq_false_iff.mpr fun hal => ?_
    obtain ⟨_, psub, pact, pscope, pobj, hrule, hallows⟩ := enforce_iff.mp hal
    rw [PolicySet.evaluated_of_ne_nil (List.cons_ne_nil _ _)] at hrule
    have hself : psub = str "user-bob" :=
      Reach.reach_subset_of_closed (S := fun y => y = str "user-bob")
        (fun _ _ _ hl => absurd hl List.not_mem_nil) rfl (Reach.mem_reach_of_mem_grow hallows.link)
    have hann : psub = str "user-ann" := (List.cons.inj (List.mem_singleton.mp hrule)).1
    exact absurd (hann.symm.trans hself) (by decide)
  have hsubjects : stranger.client.subjects = some [str "user-bob"] := by decide
  simp only [can, wrapper, hsubjects, Option.map_some, List.any_cons, List.any_nil, Bool.or_false,
    hdenied]

/-- The cluster of a service account whose secret holds a token. -/
def accountCluster : ApiState (fun _ => []) :=
  { ApiState.empty (fun _ => []) with
    serviceAccounts := .single ⟨kalmSystemNamespace, str "kalm", [str "kalm-token"]⟩
    secrets := .single ⟨kalmSystemNamespace, str "kalm-token", [], fun _ => some (str "s3cr3t")⟩ }

theorem blind_empty : Blind plainEnvironment stranger (.deleteRoute (str "shop") (str "web"))
    (ApiState.empty fun _ => []) accountCluster :=
  (blind_iff plainEnvironment stranger (.deleteRoute (str "shop") (str "web")) _ _ noGrant_stranger
    nofun).mpr rfl

/-- **The token of a service account is given away.** -/
theorem blind_fails :
    ¬ ∀ (sum256 : Str → List UInt8) (env : Environment sum256) (c : Caller) (req : HttpRequest)
        (s s' : ApiState sum256), NoGrant c → req ≠ .listComponentPlugins → Blind env c req s s' := by
  intro h
  rcases h (fun _ => []) plainEnvironment stranger (.getServiceAccount (str "kalm")) accountCluster
    accountCluster noGrant_stranger nofun with ⟨hrefuses, _⟩ | ⟨hsilent, _⟩
  · exact hrefuses.2
  · exact nomatch hsilent.2

end Kalm
