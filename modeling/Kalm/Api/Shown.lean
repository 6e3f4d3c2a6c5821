/-
  File:      Kalm/Api/Shown.lean
  Subject:   WHAT THE TWO CHANNELS SHOW: the watch channel (Watch.lean) against the list and get requests
             of the REST API (Handlers.lean).

  * `Readable` -- the objects some list or get request answers, kind by kind; `answered_iff`;
  * `ShowsSame` -- a watched object is emitted if and only if some request answers it, with the data it is
    answered with, and no secret is among it;
  * `shows_iff` -- when that holds. The builder asks for another permission than the handler (services,
    registries, volumes), leaves out namespaces that can be read, and does not hide the configs of the
    connectors.
-/
import Kalm.Api.Watch

namespace Kalm

open Keyed (Store filterInPlace)

variable {sum256 : Str → List UInt8}

/-! ## 1. Reading -/

/-- The list and get requests of the objects that are watched, and of the issuers. -/
def HttpRequest.isRead : HttpRequest → Bool
  | .getApplications | .getApplicationDetails _ | .listComponents _ | .getComponent _ _
  | .listClusterServices | .listAllRoutes | .listRoutes _ | .listNodes | .getHttpsCerts
  | .getHttpsCertIssuer | .listRegistries | .getRegistry _ | .listVolumes | .listSSOConfig
  | .listProtectedEndpoints | .listAccessTokens | .listDeployAccessTokens | .listRoleBindings => true
  | _ => false

/-- A success that holds an object. -/
def Reply.Holds (r : Reply) (it : Item) : Prop := ∃ l, r = .ok (.items l) ∧ it ∈ l

/-- Some list or get request answers the object. -/
def Answered (env : Environment sum256) (c : Caller) (s : ApiState sum256) (it : Item) : Prop :=
  ∃ req : HttpRequest, req.isRead = true ∧ (serveRequest env c req s).1.Holds it

/-- What can be read: the object, and the permission its readers ask for. -/
def Readable (env : Environment sum256) (c : Caller) (s : ApiState sum256) : Item → Prop
  | .application a => ∃ n ∈ s.namespaces.items,
      canViewNamespace c.policies c.client n.name.val = some true ∧
        a = buildApplicationDetails env.observed n
  | .component ns d => ∃ comp ∈ s.components.items,
      canViewNamespace c.policies c.client comp.ns = some true ∧ ns = comp.ns ∧
        d = buildComponentDetails env.observed s comp
  | .service x => canViewCluster c.policies c.client = some true ∧
      ∃ svc ∈ s.services.items, x = buildServiceResponse svc
  | .httpRoute x => ∃ r ∈ s.httpRoutes.items,
      canOperateHttpRoute c.policies c.client (str "view")
        (buildHttpRouteFromResource r.toHttpRoute) = some true ∧
        x = buildHttpRouteFromResource r.toHttpRoute
  | .node x => canViewCluster c.policies c.client = some true ∧
      ∃ n ∈ s.nodes.items, x = buildNodeResponse env.observed s n
  | .httpsCert x => canViewCluster c.policies c.client = some true ∧
      ∃ cert ∈ s.httpsCerts.items, x = buildHttpsCertResponse cert
  | .httpsCertIssuer x => canViewCluster c.policies c.client = some true ∧
      ∃ issuer ∈ s.httpsCertIssuers.items, x = buildHttpsCertIssuer issuer
  | .registry x => canViewRegistries c = some true ∧
      (x ∈ getDockerRegistries s ∨ ∃ name, getDockerRegistry s env.secretLast name = some x)
  | .volume x => ∃ pvc ∈ s.claims.items, labelValue pvc.labels kalmManaged = str "true" ∧
      canViewNamespace c.policies c.client pvc.ns = some true ∧ x = buildVolumeResponse s pvc
  | .ssoConfig x => canViewCluster c.policies c.client = some true ∧
      ∃ spec, getSSOConfig s = some spec ∧ x = hideConnectors spec
  | .protectedEndpoint x => ∃ e ∈ s.protectedEndpoints.items,
      canViewNamespace c.policies c.client e.ns = some true ∧
        x = protectedEndpointCRDToProtectedEndpoint e
  | .accessToken x => ∃ t ∈ s.accessTokens.items,
      permissionsGreaterThanOrEqualAccessToken c.policies c.client t.toAccessToken = some true ∧
        x = t.toAccessToken
  | .roleBinding x => ∃ b ∈ s.roleBindings.items,
      canManageRoleBinding c.policies c.client b.spec.role.value b.ns.val = some true ∧
        x = buildRoleBinding b.toRoleBinding
  | .serviceAccount .. | .other _ => False

/-! ### The pieces of a handler -/

section Pieces

variable {s : ApiState sum256} {it : Item}

theorem holds_items {l : List Item} : (Reply.ok (.items l)).Holds it ↔ it ∈ l := by
  constructor
  · rintro ⟨_, hl, hit⟩
    cases hl
    exact hit
  · exact fun hit => ⟨l, rfl, hit⟩

theorem not_holds_error {e : HandlerError} : ¬ (Reply.error e).Holds it := by
  rintro ⟨_, hl, _⟩
  cases hl

theorem not_holds_panicked : ¬ Reply.panicked.Holds it := by
  rintro ⟨_, hl, _⟩
  cases hl

theorem holds_requires {allowed : Option Bool} {e : HandlerError} {next : Handler sum256} :
    (requires allowed e next s).1.Holds it ↔ allowed = some true ∧ (next s).1.Holds it := by
  rcases allowed with _ | _ | _
  · exact iff_of_false not_holds_panicked fun h => absurd h.1 (by decide)
  · exact iff_of_false not_holds_error fun h => absurd h.1 (by decide)
  · exact (and_iff_right rfl).symm

theorem holds_getting {β : Type} {o : Option β} {next : β → Handler sum256} :
    (getting o next s).1.Holds it ↔ ∃ x, o = some x ∧ (next x s).1.Holds it := by
  cases o with
  | none => exact iff_of_false not_holds_error fun h => nomatch h.choose_spec.1
  | some x =>
      constructor
      · exact fun h => ⟨x, rfl, h⟩
      · rintro ⟨_, hx, h⟩
        cases hx
        exact h

/-- What a filtered list holds was accepted. -/
theorem of_holds_listFiltered {β : Type} {keep : β → Option Bool} {item : β → Item} {l : List β}
    (h : (listFiltered keep item l s).1.Holds it) : ∃ x ∈ l, keep x = some true ∧ it = item x := by
  unfold listFiltered at h
  cases hf : filterInPlace keep l with
  | none =>
      rw [hf] at h
      exact absurd h not_holds_panicked
  | some kept =>
      rw [hf] at h
      obtain ⟨x, hx, rfl⟩ := List.mem_map.mp (holds_items.mp h)
      obtain ⟨hmem, hkeep⟩ := (Keyed.mem_filterLoop (Nat.le_refl _) hf x).mp hx
      exact ⟨x, hmem, hkeep, rfl⟩

/-- What is accepted is in the filtered list, if the check never panics. -/
theorem holds_listFiltered {β : Type} {keep : β → Option Bool} {item : β → Item} {l : List β}
    (hsome : ∀ x ∈ l, (keep x).isSome) {x : β} (hx : x ∈ l) (hkeep : keep x = some true) :
    (listFiltered keep item l s).1.Holds (item x) := by
  obtain ⟨kept, hf, hmem⟩ := Keyed.exists_filterInPlace hsome
  rw [listFiltered, hf]
  exact holds_items.mpr (List.mem_map_of_mem ((hmem x).mpr ⟨hx, hkeep⟩))

end Pieces

/-! ### The checks never panic for a client that one of them accepts -/

section Checks

variable {P : PolicySet} {client : ClientInfo}

theorem can_isSome {action scope obj : Str} :
    (can P client action scope obj).isSome ↔ client.subjects.isSome := by
  rw [can, wrapper, Option.isSome_map]

theorem subjects_of_can {action scope obj : Str} (h : can P client action scope obj = some true) :
    client.subjects.isSome := can_isSome.mp (by rw [h]; rfl)

theorem canManageRoleBinding_isSome {role ns : Str} :
    (canManageRoleBinding P client role ns).isSome ↔ client.subjects.isSome := by
  unfold canManageRoleBinding
  split <;> exact can_isSome

theorem covers_isSome (h : client.subjects.isSome) (accessToken : AccessToken) :
    (permissionsGreaterThanOrEqualAccessToken P client accessToken).isSome := by
  rw [permissionsGreaterThanOrEqualAccessToken, getPoliciesFromAccessToken]
  induction accessToken.spec.rules with
  | nil => rfl
  | cons rule rules ih =>
      rw [List.map_cons, AccessTokenRule.policy, coversPolicies]
      have hcan : (can P client rule.verb.value rule.ns rule.obj).isSome := can_isSome.mpr h
      obtain ⟨b, hb⟩ := Option.isSome_iff_exists.mp hcan
      rw [hb]
      cases b with
      | false => rfl
      | true => exact ih

theorem subjects_of_covers {t : StoredAccessToken sum256}
    (h : permissionsGreaterThanOrEqualAccessToken P client t.toAccessToken = some true) :
    client.subjects.isSome := by
  have hne := t.markers.rules
  rw [permissionsGreaterThanOrEqualAccessToken, getPoliciesFromAccessToken] at h
  cases hr : t.spec.rules with
  | nil => exact absurd hr hne
  | cons rule rules =>
      rw [hr] at h
      exact subjects_of_can (coversPolicies_eq_true h List.mem_cons_self)

theorem canView_destinations_isSome (h : client.subjects.isSome) (ns : Str)
    (dests : List HttpRouteDestination) :
    (canOperateDestinations P client (str "view") ns dests).isSome := by
  induction dests with
  | nil => rfl
  | cons dest dests ih =>
      rw [canOperateDestinations]
      cases authorizedNamespace ns dest.host with
      | none => rfl
      | some scope =>
          have hcan : (canOperateScope P client (str "view") scope).isSome := by
            rw [canOperateScope, if_pos rfl]
            exact can_isSome.mpr h
          obtain ⟨b, hb⟩ := Option.isSome_iff_exists.mp hcan
          simp only [hb]
          cases b with
          | false => rfl
          | true => exact ih

theorem subjects_of_canViewRoute {r : StoredHttpRoute}
    (h : canOperateHttpRoute P client (str "view") (buildHttpRouteFromResource r.toHttpRoute) =
      some true) : client.subjects.isSome := by
  have hne := r.destinations_ne
  simp only [canOperateHttpRoute, buildHttpRouteFromResource] at h
  cases hd : r.spec.destinations with
  | nil => exact absurd hd hne
  | cons dest dests =>
      rw [hd, canOperateDestinations] at h
      cases hns : authorizedNamespace r.ns.val dest.host with
      | none =>
          simp only [hns] at h
          cases h
      | some scope =>
          simp only [hns, canOperateScope, if_true] at h
          cases hcan : canViewNamespace P client scope with
          | none =>
              rw [hcan] at h
              cases h
          | some b =>
              exact can_isSome.mp (Option.isSome_iff_exists.mpr ⟨b, hcan⟩)

end Checks

/-! ### What the requests answer -/

section Answers

variable {env : Environment sum256} {c : Caller} {s : ApiState sum256} {it : Item}

theorem readable_of_volumes {l : List PersistentVolumeClaim} {items : List Item}
    (h : listVolumes c s l = some items) : it ∈ items ↔ ∃ pvc ∈ l,
      canViewNamespace c.policies c.client pvc.ns = some true ∧ it = .volume (buildVolumeResponse s pvc) := by
  induction l generalizing items with
  | nil =>
      cases h
      exact iff_of_false List.not_mem_nil fun ⟨_, hp, _⟩ => List.not_mem_nil hp
  | cons pvc l ih =>
      rw [List.exists_mem_cons_iff]
      unfold listVolumes at h
      cases hcan : canViewNamespace c.policies c.client pvc.ns with
      | none =>
          rw [hcan] at h
          cases h
      | some b =>
          rw [hcan] at h
          cases b with
          | false =>
              rw [ih h]
              exact (or_iff_right fun hf => absurd hf.1 (by decide)).symm
          | true =>
              obtain ⟨rest, hrest, rfl⟩ := Option.map_eq_some_iff.mp h
              rw [List.mem_cons, ih hrest]
              exact or_congr_left (and_iff_right rfl).symm

theorem listVolumes_isSome (h : c.client.subjects.isSome) (l : List PersistentVolumeClaim) :
    (listVolumes c s l).isSome := by
  induction l with
  | nil => rfl
  | cons pvc l ih =>
      have hcan : (canViewNamespace c.policies c.client pvc.ns).isSome := can_isSome.mpr h
      obtain ⟨b, hb⟩ := Option.isSome_iff_exists.mp hcan
      rw [listVolumes, hb]
      cases b with
      | false => exact ih
      | true =>
          rw [Option.isSome_map]
          exact ih

/-- What a request answers can be read. -/
theorem readable_of_holds {req : HttpRequest} (hread : req.isRead = true)
    (h : (serveRequest env c req s).1.Holds it) : Readable env c s it := by
  cases req with
  | getApplications =>
      change (handleGetApplications env c s).1.Holds it at h
      unfold handleGetApplications at h
      cases hf : filterInPlace (fun n : NamespaceObject =>
          canViewNamespace c.policies c.client n.name.val) s.namespaces.items with
      | none =>
          rw [hf] at h
          exact absurd h not_holds_panicked
      | some kept =>
          rw [hf] at h
          obtain ⟨n, hn, rfl⟩ := List.mem_map.mp (holds_items.mp h)
          obtain ⟨hmem, hcan⟩ :=
            (Keyed.mem_filterLoop (Nat.le_refl _) hf n).mp (List.mem_filter.mp hn).1
          exact ⟨n, hmem, hcan, rfl⟩
  | getApplicationDetails name =>
      obtain ⟨hcan, h⟩ := holds_requires.mp h
      obtain ⟨n, hn, hit⟩ := holds_getting.mp h
      obtain ⟨hmem, rfl⟩ := Store.find_eq_some.mp hn
      obtain rfl := List.mem_singleton.mp (holds_items.mp hit)
      exact ⟨n, hmem, hcan, rfl⟩
  | listComponents ns =>
      obtain ⟨hcan, h⟩ := holds_requires.mp h
      obtain ⟨comp, hcomp, rfl⟩ := List.mem_map.mp (holds_items.mp h)
      obtain ⟨hmem, hns⟩ := List.mem_filter.mp hcomp
      obtain rfl := of_decide_eq_true hns
      exact ⟨comp, hmem, hcan, rfl, rfl⟩
  | getComponent ns name =>
      obtain ⟨hcan, h⟩ := holds_requires.mp h
      obtain ⟨comp, hcomp, hit⟩ := holds_getting.mp h
      obtain ⟨hmem, hkey⟩ := Store.find_eq_some.mp hcomp
      obtain ⟨rfl, rfl⟩ := Prod.mk.inj hkey
      obtain rfl := List.mem_singleton.mp (holds_items.mp hit)
      exact ⟨comp, hmem, hcan, rfl, rfl⟩
  | listClusterServices =>
      obtain ⟨hcan, h⟩ := holds_requires.mp h
      obtain ⟨svc, hmem, rfl⟩ := List.mem_map.mp (holds_items.mp h)
      exact ⟨hcan, svc, hmem, rfl⟩
  | listAllRoutes =>
      obtain ⟨r, hmem, hcan, rfl⟩ := of_holds_listFiltered h
      exact ⟨r, hmem, hcan, rfl⟩
  | listRoutes ns =>
      obtain ⟨r, hmem, hcan, rfl⟩ := of_holds_listFiltered h
      exact ⟨r, (List.mem_filter.mp hmem).1, hcan, rfl⟩
  | listNodes =>
      obtain ⟨hcan, h⟩ := holds_requires.mp h
      obtain ⟨n, hmem, rfl⟩ := List.mem_map.mp (holds_items.mp h)
      exact ⟨hcan, n, hmem, rfl⟩
  | getHttpsCerts =>
      obtain ⟨hcan, h⟩ := holds_requires.mp h
      obtain ⟨cert, hmem, rfl⟩ := List.mem_map.mp (holds_items.mp h)
      exact ⟨hcan, cert, hmem, rfl⟩
  | getHttpsCertIssuer =>
      obtain ⟨hcan, h⟩ := holds_requires.mp h
      obtain ⟨issuer, hmem, rfl⟩ := List.mem_map.mp (holds_items.mp h)
      exact ⟨hcan, issuer, hmem, rfl⟩
  | listRegistries =>
      obtain ⟨hcan, h⟩ := holds_requires.mp h
      obtain ⟨x, hmem, rfl⟩ := List.mem_map.mp (holds_items.mp h)
      exact ⟨hcan, Or.inl hmem⟩
  | getRegistry name =>
      obtain ⟨hcan, h⟩ := holds_requires.mp h
      obtain ⟨x, hx, h⟩ := holds_getting.mp h
      obtain rfl := List.mem_singleton.mp (holds_items.mp h)
      exact ⟨hcan, Or.inr ⟨name, hx⟩⟩
  | listVolumes =>
      change (handleListVolumes c s).1.Holds it at h
      unfold handleListVolumes at h
      cases hl : listVolumes c s (s.claims.items.filter fun pvc =>
          labelValue pvc.labels kalmManaged = str "true") with
      | none =>
          rw [hl] at h
          exact absurd h not_holds_panicked
      | some items =>
          rw [hl] at h
          obtain ⟨pvc, hp, hcan, rfl⟩ := (readable_of_volumes hl).mp (holds_items.mp h)
          obtain ⟨hmem, hlabel⟩ := List.mem_filter.mp hp
          exact ⟨pvc, hmem, of_decide_eq_true hlabel, hcan, rfl⟩
  | listSSOConfig =>
      obtain ⟨hcan, h⟩ := holds_requires.mp h
      obtain ⟨spec, hmem, rfl⟩ := List.mem_map.mp (holds_items.mp h)
      exact ⟨hcan, spec, Option.mem_toList.mp hmem, rfl⟩
  | listProtectedEndpoints =>
      obtain ⟨e, hmem, hcan, rfl⟩ := of_holds_listFiltered h
      exact ⟨e, hmem, hcan, rfl⟩
  | listAccessTokens =>
      obtain ⟨t, hmem, hcan, rfl⟩ := of_holds_listFiltered h
      exact ⟨t, hmem, hcan, rfl⟩
  | listDeployAccessTokens =>
      obtain ⟨t, hmem, hcan, rfl⟩ := of_holds_listFiltered h
      exact ⟨t, (List.mem_filter.mp hmem).1, hcan, rfl⟩
  | listRoleBindings =>
      obtain ⟨b, hmem, hcan, rfl⟩ := of_holds_listFiltered h
      exact ⟨b, hmem, hcan, rfl⟩
  | _ => cases hread

/-- What can be read is answered by its list, or by the request for this object. -/
theorem answered_of_readable (h : Readable env c s it) : Answered env c s it := by
  cases it with
  | application a =>
      obtain ⟨n, hmem, hcan, rfl⟩ := h
      refine ⟨.getApplicationDetails n.name.val, rfl, holds_requires.mpr ⟨hcan, ?_⟩⟩
      exact holds_getting.mpr ⟨n, Store.find_self hmem, holds_items.mpr List.mem_cons_self⟩
  | component ns d =>
      obtain ⟨comp, hmem, hcan, rfl, rfl⟩ := h
      refine ⟨.getComponent comp.ns comp.name, rfl, holds_requires.mpr ⟨hcan, ?_⟩⟩
      exact holds_getting.mpr ⟨comp, Store.find_self hmem, holds_items.mpr List.mem_cons_self⟩
  | service x =>
      obtain ⟨hcan, svc, hmem, rfl⟩ := h
      exact ⟨.listClusterServices, rfl,
        holds_requires.mpr ⟨hcan, holds_items.mpr (List.mem_map_of_mem hmem)⟩⟩
  | httpRoute x =>
      obtain ⟨r, hmem, hcan, rfl⟩ := h
      refine ⟨.listAllRoutes, rfl, holds_listFiltered (fun r' _ => ?_) hmem hcan⟩
      exact canView_destinations_isSome (subjects_of_canViewRoute hcan) ..
  | node x =>
      obtain ⟨hcan, n, hmem, rfl⟩ := h
      exact ⟨.listNodes, rfl, holds_requires.mpr ⟨hcan, holds_items.mpr (List.mem_map_of_mem hmem)⟩⟩
  | httpsCert x =>
      obtain ⟨hcan, cert, hmem, rfl⟩ := h
      exact ⟨.getHttpsCerts, rfl,
        holds_requires.mpr ⟨hcan, holds_items.mpr (List.mem_map_of_mem hmem)⟩⟩
  | httpsCertIssuer x =>
      obtain ⟨hcan, issuer, hmem, rfl⟩ := h
      exact ⟨.getHttpsCertIssuer, rfl,
        holds_requires.mpr ⟨hcan, holds_items.mpr (List.mem_map_of_mem hmem)⟩⟩
  | registry x =>
      obtain ⟨hcan, hmem | ⟨name, hx⟩⟩ := h
      · exact ⟨.listRegistries, rfl,
          holds_requires.mpr ⟨hcan, holds_items.mpr (List.mem_map_of_mem hmem)⟩⟩
      · refine ⟨.getRegistry name, rfl, holds_requires.mpr ⟨hcan, ?_⟩⟩
        exact holds_getting.mpr ⟨x, hx, holds_items.mpr List.mem_cons_self⟩
  | volume x =>
      obtain ⟨pvc, hmem, hlabel, hcan, rfl⟩ := h
      obtain ⟨items, hl⟩ := Option.isSome_iff_exists.mp (listVolumes_isSome (s := s)
        (subjects_of_can hcan) (s.claims.items.filter fun pvc =>
          labelValue pvc.labels kalmManaged = str "true"))
      refine ⟨.listVolumes, rfl, ?_⟩
      show (handleListVolumes c s).1.Holds _
      rw [handleListVolumes, hl]
      exact holds_items.mpr ((readable_of_volumes hl).mpr
        ⟨pvc, List.mem_filter.mpr ⟨hmem, decide_eq_true hlabel⟩, hcan, rfl⟩)
  | ssoConfig x =>
      obtain ⟨hcan, spec, hspec, rfl⟩ := h
      exact ⟨.listSSOConfig, rfl, holds_requires.mpr
        ⟨hcan, holds_items.mpr (List.mem_map_of_mem (Option.mem_toList.mpr hspec))⟩⟩
  | protectedEndpoint x =>
      obtain ⟨e, hmem, hcan, rfl⟩ := h
      exact ⟨.listProtectedEndpoints, rfl,
        holds_listFiltered (fun _ _ => can_isSome.mpr (subjects_of_can hcan)) hmem hcan⟩
  | accessToken x =>
      obtain ⟨t, hmem, hcan, rfl⟩ := h
      exact ⟨.listAccessTokens, rfl,
        holds_listFiltered (fun _ _ => covers_isSome (subjects_of_covers hcan) _) hmem hcan⟩
  | roleBinding x =>
      obtain ⟨b, hmem, hcan, rfl⟩ := h
      have hsome := canManageRoleBinding_isSome.mp (Option.isSome_iff_exists.mpr ⟨true, hcan⟩)
      exact ⟨.listRoleBindings, rfl,
        holds_listFiltered (fun _ _ => canManageRoleBinding_isSome.mpr hsome) hmem hcan⟩
  | serviceAccount token crt => exact absurd h id
  | other json => exact absurd h id

/-- **What some list or get request answers.** -/
theorem answered_iff : Answered env c s it ↔ Readable env c s it :=
  ⟨fun ⟨_, hread, h⟩ => readable_of_holds hread h, answered_of_readable⟩

end Answers

/-! ## 2. Emitting -/

/-- An object of the cluster of a kind that both channels serve. -/
def Watched.Served (s : ApiState sum256) : Watched sum256 → Prop
  | .application n => n ∈ s.namespaces.items
  | .component comp => comp ∈ s.components.items
  | .service svc => svc ∈ s.services.items
  | .httpRoute r => r ∈ s.httpRoutes.items
  | .node n => n ∈ s.nodes.items
  | .httpsCert cert => cert ∈ s.httpsCerts.items
  | .registry r => r ∈ s.dockerRegistries.items
  | .volume pvc => pvc ∈ s.claims.items
  | .ssoConfig cfg => cfg ∈ s.ssoConfigs.items
  | .protectedEndpoint e => e ∈ s.protectedEndpoints.items
  | .accessToken t => t ∈ s.accessTokens.items ∧ t.isDeploy = true
  | .roleBinding b => b ∈ s.roleBindings.items
  | .componentCausedByService _ | .pod _ => False

/-- What is answered is the object: one kind and one name. The config of the single sign-on has no name
    in an answer; there is one. -/
def Item.IsOf : Watched sum256 → Item → Prop
  | .application n, .application a => a.name = n.name.val
  | .component comp, .component ns d => ns = comp.ns ∧ d.name = comp.name
  | .service svc, .service x => x.ns = svc.ns ∧ x.name = svc.name
  | .httpRoute r, .httpRoute x => x.ns = r.ns.val ∧ x.name = r.name.val
  | .node n, .node x => x.name = n.name
  | .httpsCert cert, .httpsCert x => x.name = cert.name
  | .registry r, .registry x => x.name = r.name
  | .volume pvc, .volume x => x.componentNamespace = pvc.ns ∧ x.name = pvc.name
  | .ssoConfig cfg, .ssoConfig _ => cfg.ns = kalmSystemNamespace ∧ cfg.name = ssoName
  | .protectedEndpoint e, .protectedEndpoint x => x.ns = e.ns ∧ x.name = e.name
  | .accessToken t, .accessToken x => x.name = t.name
  | .roleBinding b, .roleBinding x => x.ns = b.ns.val ∧ x.name = b.name.val
  | _, _ => False

/-- No connector config, no registry password, no issuer token. -/
def Item.SecretFree : Item → Prop
  | .ssoConfig x => ∀ conn ∈ x.connectors, conn.config = none
  | .registry x => x.password = []
  | .httpsCertIssuer x => ∀ acme, x.acmeCloudFlare = some acme → acme.secret = str "***"
  | _ => True

/-- A request answers the object. -/
def Returned (env : Environment sum256) (c : Caller) (s : ApiState sum256) (o : Watched sum256)
    (it : Item) : Prop := Answered env c s it ∧ it.IsOf o

/-- A call of which the maps are walked in this order. -/
def Environment.walking (env : Environment sum256) (order : WalkOrder) : Environment sum256 :=
  { env with observed := { env.observed with order := order } }

/-- What the watch finds: its maps are walked in another order than those of the request, and its reading goroutines
    are others. -/
def Environment.watching (env : Environment sum256) (order : WalkOrder) (secretLast : Bool) : Environment sum256 :=
  { env.walking order with secretLast := secretLast }

/-- The two channels show the same of an object, in these orders: it is emitted if and only if it is returned,
    what is emitted is returned, and neither channel shows a secret. -/
structure ShowsSame (env : Environment sum256) (order : WalkOrder) (secretLast : Bool) (c : Caller)
    (s : ApiState sum256) (action : WatchAction) (o : Watched sum256) : Prop where
  emitted : ∀ m, buildResMessage (env.watching order secretLast) c s action o = .message m →
    ∃ it, m.data = some it ∧ Returned env c s o it ∧ it.SecretFree
  returned : (∃ it, Returned env c s o it) →
    ∃ m, buildResMessage (env.watching order secretLast) c s action o = .message m
  secretFree : ∀ it, Answered env c s it → it.SecretFree

/-- **The two channels show the same** of an object, in whatever order each call walks its maps. -/
def ShowsAlways (env : Environment sum256) (secretLast : Bool) (c : Caller) (s : ApiState sum256)
    (action : WatchAction) (o : Watched sum256) : Prop :=
  ∀ asked watched : WalkOrder, ShowsSame (env.walking asked) watched secretLast c s action o

/-- The histories that are of the component are the same: those of its service and of its headless service. -/
def OneHistory (o : Observed sum256) (comp : ComponentObject) : Prop :=
  ∀ e ∈ o.istioMetrics comp.ns, ∀ e' ∈ o.istioMetrics comp.ns,
    comp.traffic.owns e.1 = true → comp.traffic.owns e'.1 = true → e.2 = e'.2

/-- Where the two channels show the same. -/
def Agreeable (env : Environment sum256) (secretLast : Bool) (c : Caller) (s : ApiState sum256) :
    Watched sum256 → Prop
  | .application n => canViewNamespace c.policies c.client n.name.val = some true →
      n.name.val ≠ kalmSystemNamespace ∧ (n.labels.lookup kalmEnableLabelName).isSome
  | .component comp => canViewNamespace c.policies c.client comp.ns = some true → OneHistory env.observed comp
  | .service svc => canViewNamespace c.policies c.client svc.ns = some true →
      canViewCluster c.policies c.client = some true
  | .registry r => canViewRegistries c = some true →
      canViewCluster c.policies c.client = some true ∧ (secretLast = true →
        (s.secrets.find (kalmSystemNamespace, getRegistryAuthenticationName r.name)).isSome)
  | .volume pvc => labelValue pvc.labels kalmManaged = str "true" →
      canViewNamespace c.policies c.client pvc.ns = some true →
        canViewCluster c.policies c.client = some true
  | .ssoConfig cfg => cfg.name = ssoName → canViewCluster c.policies c.client = some true →
      cfg.ns = kalmSystemNamespace ∧ ∀ conn ∈ cfg.spec.connectors, conn.config = none
  | _ => True

/-! ## 3. The comparison -/

section Compare

variable {env : Environment sum256} {order : WalkOrder} {secretLast : Bool} {c : Caller}
  {s : ApiState sum256} {action : WatchAction} {o : Watched sum256}

theorem permitted_eq_message {allowed : Option Bool} {m₀ m : ResMessage} :
    permitted allowed (.message m₀) = .message m ↔ allowed = some true ∧ m = m₀ := by
  rcases allowed with _ | _ | _
  · exact iff_of_false nofun fun h => absurd h.1 (by decide)
  · exact iff_of_false nofun fun h => absurd h.1 (by decide)
  · constructor
    · rintro ⟨⟩
      exact ⟨rfl, rfl⟩
    · rintro ⟨_, rfl⟩
      rfl

/-- What is read of a registry and its secret. -/
theorem getDockerRegistry_eq_some {last : Bool} {name : Str} {x : DockerRegistry} :
    getDockerRegistry s last name = some x ↔
      (if last then (s.secrets.find (kalmSystemNamespace, getRegistryAuthenticationName name)).isSome
        else (s.dockerRegistries.find name).isSome) = true ∧
      buildDockerRegistryFromResource ((s.dockerRegistries.find name).getD zeroRegistry)
        (s.secrets.find (kalmSystemNamespace, getRegistryAuthenticationName name)) = x :=
  Option.ite_none_right_eq_some.trans (and_congr_right fun _ => Option.some_inj)

/-- **No secret can be read.** -/
theorem secretFree_of_readable {it : Item} (h : Readable env c s it) : it.SecretFree := by
  cases it with
  | registry x =>
      obtain ⟨_, hmem | ⟨name, hx⟩⟩ := h
      · obtain ⟨r, _, rfl⟩ := List.mem_map.mp hmem
        rfl
      · obtain ⟨_, rfl⟩ := getDockerRegistry_eq_some.mp hx
        rfl
  | httpsCertIssuer x =>
      obtain ⟨_, issuer, _, rfl⟩ := h
      intro acme hacme
      obtain ⟨_, _, rfl⟩ := Option.map_eq_some_iff.mp hacme
      rfl
  | ssoConfig x =>
      obtain ⟨_, spec, _, rfl⟩ := h
      intro conn hconn
      obtain ⟨_, _, rfl⟩ := List.mem_map.mp hconn
      rfl
  | _ => trivial

/-- An object of which one message can be made: the message is returned, and what is returned is
    emitted. -/
theorem showsSame_iff {p : Prop} {m₀ : ResMessage}
    (hemit : ∀ m, buildResMessage (env.watching order secretLast) c s action o = .message m ↔
      p ∧ m = m₀) :
    ShowsSame env order secretLast c s action o ↔
      (p → ∃ it, m₀.data = some it ∧ Returned env c s o it) ∧
        ((∃ it, Returned env c s o it) → p) := by
  constructor
  · intro h
    refine ⟨fun hp => ?_, fun hret => ?_⟩
    · obtain ⟨it, hdata, hret, _⟩ := h.emitted m₀ ((hemit m₀).mpr ⟨hp, rfl⟩)
      exact ⟨it, hdata, hret⟩
    · obtain ⟨m, hm⟩ := h.returned hret
      exact ((hemit m).mp hm).1
  · rintro ⟨hto, hfrom⟩
    refine ⟨fun m hm => ?_, fun hret => ⟨m₀, (hemit m₀).mpr ⟨hfrom hret, rfl⟩⟩,
      fun it hit => secretFree_of_readable (answered_iff.mp hit)⟩
    obtain ⟨hp, rfl⟩ := (hemit m).mp hm
    obtain ⟨it, hdata, hret⟩ := hto hp
    exact ⟨it, hdata, hret, secretFree_of_readable (answered_iff.mp hret.1)⟩

/-- One item is emitted and one is returned: the two permissions have to agree, and the two items. -/
theorem showsSame_iff_items {p q : Prop} {m₀ : ResMessage} {d d' : Item}
    (hemit : ∀ m, buildResMessage (env.watching order secretLast) c s action o = .message m ↔
      p ∧ m = m₀) (hdata : m₀.data = some d)
    (hret : ∀ it, Returned env c s o it ↔ q ∧ it = d') :
    ShowsSame env order secretLast c s action o ↔ (p ↔ q) ∧ (p → d = d') := by
  rw [showsSame_iff hemit]
  constructor
  · rintro ⟨hto, hfrom⟩
    refine ⟨⟨fun hp => ?_, fun hq => hfrom ⟨d', (hret d').mpr ⟨hq, rfl⟩⟩⟩, fun hp => ?_⟩
    · obtain ⟨it, _, hit⟩ := hto hp
      exact ((hret it).mp hit).1
    · obtain ⟨it, hit, hret'⟩ := hto hp
      exact (Option.some.inj (hdata.symm.trans hit)).trans ((hret it).mp hret').2
  · rintro ⟨hpq, hsame⟩
    refine ⟨fun hp => ⟨d, hdata, (hret d).mpr ⟨hpq.mp hp, hsame hp⟩⟩, ?_⟩
    rintro ⟨it, hit⟩
    exact hpq.mpr ((hret it).mp hit).1

/-- One item is emitted and the same one returned: the two permissions have to agree. -/
theorem showsSame_iff_permissions {p q : Prop} {m₀ : ResMessage} {d : Item}
    (hemit : ∀ m, buildResMessage (env.watching order secretLast) c s action o = .message m ↔
      p ∧ m = m₀) (hdata : m₀.data = some d)
    (hret : ∀ it, Returned env c s o it ↔ q ∧ it = d) :
    ShowsSame env order secretLast c s action o ↔ (p ↔ q) :=
  (showsSame_iff_items hemit hdata hret).trans (and_iff_left fun _ => rfl)

/-- What is returned of a stored object: the objects that look like it have its key. -/
theorem returned_iff {V K : Type} {key : V → K} {S : Store V key} {v : V} (hv : v ∈ S.items)
    (q : V → Prop) (item : V → Item)
    (hread : ∀ it, it.IsOf o → Readable env c s it →
      ∃ w ∈ S.items, key w = key v ∧ q w ∧ it = item w)
    (hback : q v → Readable env c s (item v)) (hself : (item v).IsOf o) (it : Item) :
    Returned env c s o it ↔ q v ∧ it = item v := by
  constructor
  · rintro ⟨ha, hof⟩
    obtain ⟨w, hw, hkey, hq, rfl⟩ := hread it hof (answered_iff.mp ha)
    obtain rfl := Store.eq_of_key hw hv hkey
    exact ⟨hq, rfl⟩
  · rintro ⟨hq, rfl⟩
    exact ⟨answered_iff.mpr (hback hq), hself⟩

/-! ### The kinds -/

theorem shows_application {n : NamespaceObject} (hn : n ∈ s.namespaces.items) :
    ShowsSame env order secretLast c s action (.application n) ↔ Agreeable env secretLast c s (.application n) := by
  have hemit : ∀ m, buildResMessage (env.watching order secretLast) c s action
      (.application n) = .message m ↔ ((n.name.val ≠ kalmSystemNamespace ∧
        (n.labels.lookup kalmEnableLabelName).isSome) ∧
          canViewNamespace c.policies c.client n.name.val = some true) ∧
        m = ⟨[], .application, action, some (.application (buildApplicationDetails env.observed n))⟩ := by
    intro m
    show buildNamespaceResMessage _ c action n = .message m ↔ _
    unfold buildNamespaceResMessage
    split
    · rename_i hsys
      exact iff_of_false nofun fun h => h.1.1.1 hsys
    · rename_i hsys
      split
      · rename_i hlabel
        exact iff_of_false nofun fun h => Option.isSome_iff_ne_none.mp h.1.1.2
          (Option.isNone_iff_eq_none.mp hlabel)
      · rename_i hlabel
        have hsome : (n.labels.lookup kalmEnableLabelName).isSome :=
          Option.isSome_iff_ne_none.mpr fun e => hlabel (Option.isNone_iff_eq_none.mpr e)
        exact permitted_eq_message.trans
          (and_congr_left fun _ => (and_iff_right ⟨hsys, hsome⟩).symm)
  refine Iff.trans (showsSame_iff_permissions hemit rfl (returned_iff hn
    (fun w => canViewNamespace c.policies c.client w.name.val = some true)
    (fun w => .application (buildApplicationDetails env.observed w)) ?_ ?_ rfl)) ?_
  rotate_right
  · exact ⟨fun h hcan => (h.mpr hcan).1, fun h => ⟨fun hp => hp.2, fun hcan => ⟨h hcan, hcan⟩⟩⟩
  · intro it hof h
    cases it with
    | application a =>
        obtain ⟨w, hw, hcan, rfl⟩ := h
        exact ⟨w, hw, hof, hcan, rfl⟩
    | _ => exact absurd hof id
  · exact fun hcan => ⟨n, hn, hcan, rfl⟩

/-- **A component**: the histories that the two calls take have to be the same. -/
theorem shows_component {comp : ComponentObject} (hcomp : comp ∈ s.components.items) :
    ShowsSame env order secretLast c s action (.component comp) ↔
      (canViewNamespace c.policies c.client comp.ns = some true →
        buildComponentDetails (env.walking order).observed s comp =
          buildComponentDetails env.observed s comp) := by
  refine Iff.trans (showsSame_iff_items (fun _ => permitted_eq_message) rfl (returned_iff hcomp
    (fun w => canViewNamespace c.policies c.client w.ns = some true)
    (fun w => .component w.ns (buildComponentDetails env.observed s w)) ?_ ?_ ⟨rfl, rfl⟩)) ?_
  rotate_right
  · refine (and_iff_right Iff.rfl).trans (imp_congr_right fun _ => ?_)
    exact ⟨fun h => (Item.component.inj h).2, fun h => congrArg (Item.component comp.ns) h⟩
  · intro it hof h
    cases it with
    | component ns d =>
        obtain ⟨w, hw, hcan, rfl, rfl⟩ := h
        exact ⟨w, hw, Prod.ext hof.1 hof.2, hcan, rfl⟩
    | _ => exact absurd hof id
  · exact fun hcan => ⟨comp, hcomp, hcan, rfl, rfl⟩

/-- An order that begins with one of the entries. -/
def WalkOrder.startingAt (i : Nat) : WalkOrder where
  walk _ entries := if h : i < entries.length then entries[i] :: entries.eraseIdx i else entries
  perm _ entries := by
    split
    · rename_i h
      exact List.getElem_cons_eraseIdx_perm h
    · exact .refl _

/-- An entry of the component. -/
def ComponentObject.ownsEntry (comp : ComponentObject) (entry : Str × Traffic.IstioMetricHistories Doc) : Bool :=
  comp.traffic.owns entry.1

/-- The traffic is that of the first entry of the component. -/
theorem componentTraffic_eq (comp : ComponentObject) (entries : List (Str × Traffic.IstioMetricHistories Doc)) :
    Traffic.componentTraffic comp.traffic entries = ((entries.find? comp.ownsEntry).map Prod.snd).getD .empty := by
  have howns : (fun entry : Str × Traffic.IstioMetricHistories Doc => comp.traffic.owns entry.1) =
      comp.ownsEntry := rfl
  rw [Traffic.componentTraffic, howns]
  cases entries.find? comp.ownsEntry <;> rfl

/-- What is taken in some order. -/
theorem componentTraffic_startingAt {entries : List (Str × Traffic.IstioMetricHistories Doc)}
    {comp : ComponentObject} {e : Str × Traffic.IstioMetricHistories Doc} (he : e ∈ entries)
    (howns : comp.ownsEntry e = true) : ∃ i, ∀ key,
      Traffic.componentTraffic comp.traffic ((WalkOrder.startingAt i).walk key entries) = e.2 := by
  obtain ⟨i, hi, rfl⟩ := List.getElem_of_mem he
  refine ⟨i, fun key => ?_⟩
  have hwalk : (WalkOrder.startingAt i).walk key entries = entries[i] :: entries.eraseIdx i := dif_pos hi
  have hfirst : (entries[i] :: entries.eraseIdx i).find? comp.ownsEntry = some entries[i] :=
    List.find?_cons_of_pos howns
  rw [componentTraffic_eq, hwalk, hfirst]
  rfl

/-- **Every order takes the same history exactly where all that are of the component are the same.** -/
theorem oneHistory_iff {o : Observed sum256} {comp : ComponentObject} : OneHistory o comp ↔
    ∀ asked watched : WalkOrder,
      Traffic.componentTraffic comp.traffic (watched.walk (comp.ns, comp.name) (o.istioMetrics comp.ns)) =
        Traffic.componentTraffic comp.traffic (asked.walk (comp.ns, comp.name) (o.istioMetrics comp.ns)) := by
  constructor
  · intro hone asked watched
    have hmem (order : WalkOrder) {e : Str × Traffic.IstioMetricHistories Doc} :
        e ∈ order.walk (comp.ns, comp.name) (o.istioMetrics comp.ns) ↔ e ∈ o.istioMetrics comp.ns :=
      (order.perm _ _).mem_iff
    have hfind (order order' : WalkOrder) {e : Str × Traffic.IstioMetricHistories Doc}
        (h : (order.walk (comp.ns, comp.name) (o.istioMetrics comp.ns)).find? comp.ownsEntry = some e) :
        ∃ e', (order'.walk (comp.ns, comp.name) (o.istioMetrics comp.ns)).find? comp.ownsEntry = some e' ∧
          e'.2 = e.2 := by
      have he := (hmem order).mp (List.mem_of_find?_eq_some h)
      have howns := List.find?_some h
      obtain ⟨e', he'⟩ := Option.isSome_iff_exists.mp
        (List.find?_isSome.mpr ⟨e, (hmem order').mpr he, howns⟩)
      have howns' : comp.ownsEntry e' = true := List.find?_some he'
      exact ⟨e', he', hone e' ((hmem order').mp (List.mem_of_find?_eq_some he')) e he howns' howns⟩
    rw [componentTraffic_eq, componentTraffic_eq]
    cases hw : (watched.walk (comp.ns, comp.name) (o.istioMetrics comp.ns)).find? comp.ownsEntry with
    | some e =>
        obtain ⟨e', he', hsame⟩ := hfind watched asked hw
        rw [he']
        exact hsame.symm
    | none =>
        cases ha : (asked.walk (comp.ns, comp.name) (o.istioMetrics comp.ns)).find? comp.ownsEntry with
        | none => rfl
        | some e =>
            obtain ⟨e', he', _⟩ := hfind asked watched ha
            rw [hw] at he'
            cases he'
  · intro hsame e he e' he' howns howns'
    obtain ⟨i, hi⟩ := componentTraffic_startingAt he howns
    obtain ⟨j, hj⟩ := componentTraffic_startingAt he' howns'
    rw [← hi (comp.ns, comp.name), ← hj (comp.ns, comp.name)]
    exact hsame (.startingAt j) (.startingAt i)

/-- What the calls make of a component is the same in every order. -/
theorem details_iff {comp : ComponentObject} : OneHistory env.observed comp ↔ ∀ asked watched : WalkOrder,
    buildComponentDetails (env.walking watched).observed s comp =
      buildComponentDetails (env.walking asked).observed s comp := by
  rw [oneHistory_iff]
  refine forall₂_congr fun asked watched => ?_
  constructor
  · intro h
    unfold buildComponentDetails
    exact congrArg (fun traffic => ComponentDetails.mk comp.name traffic _) h
  · exact fun h => congrArg ComponentDetails.istioMetricHistories h

/-- Who can view the cluster can view every namespace. -/
theorem canViewNamespace_of_cluster (h : canViewCluster c.policies c.client = some true) (ns : Str) :
    canViewNamespace c.policies c.client ns = some true :=
  wrapper_mono (fun _ hs => enforce_pattern hs (Or.inr rfl) (objMatch_star [star])) h

/-- Who can view the cluster can view the registries. -/
theorem canViewRegistries_of_cluster (h : canViewCluster c.policies c.client = some true) :
    canViewRegistries c = some true :=
  wrapper_mono (fun _ hs => enforce_pattern hs (Or.inl rfl) (objMatch_star (str "registries"))) h

theorem shows_service {svc : ServiceObject} (hsvc : svc ∈ s.services.items) :
    ShowsSame env order secretLast c s action (.service svc) ↔ Agreeable env secretLast c s (.service svc) := by
  refine Iff.trans (showsSame_iff_permissions (fun _ => permitted_eq_message) rfl (returned_iff hsvc
    (fun _ => canViewCluster c.policies c.client = some true)
    (fun w => .service (buildServiceResponse w)) ?_ ?_ ⟨rfl, rfl⟩)) ?_
  rotate_right
  · exact ⟨fun h => h.mp, fun h => ⟨h, fun hcan => canViewNamespace_of_cluster hcan svc.ns⟩⟩
  · intro it hof h
    cases it with
    | service x =>
        obtain ⟨hcan, w, hw, rfl⟩ := h
        exact ⟨w, hw, Prod.ext hof.1 hof.2, hcan, rfl⟩
    | _ => exact absurd hof id
  · exact fun hcan => ⟨hcan, svc, hsvc, rfl⟩

theorem shows_httpRoute {r : StoredHttpRoute} (hr : r ∈ s.httpRoutes.items) :
    ShowsSame env order secretLast c s action (.httpRoute r) := by
  refine Iff.mpr (showsSame_iff_permissions (fun _ => permitted_eq_message) rfl (returned_iff hr
    (fun w => canOperateHttpRoute c.policies c.client (str "view")
      (buildHttpRouteFromResource w.toHttpRoute) = some true)
    (fun w => .httpRoute (buildHttpRouteFromResource w.toHttpRoute)) ?_ ?_ ⟨rfl, rfl⟩)) Iff.rfl
  · intro it hof h
    cases it with
    | httpRoute x =>
        obtain ⟨w, hw, hcan, rfl⟩ := h
        exact ⟨w, hw, Prod.ext hof.1 hof.2, hcan, rfl⟩
    | _ => exact absurd hof id
  · exact fun hcan => ⟨r, hr, hcan, rfl⟩

theorem shows_node {n : NodeObject} (hn : n ∈ s.nodes.items) :
    ShowsSame env order secretLast c s action (.node n) := by
  refine Iff.mpr (showsSame_iff_permissions (fun _ => permitted_eq_message) rfl (returned_iff hn
    (fun _ => canViewCluster c.policies c.client = some true)
    (fun w => .node (buildNodeResponse env.observed s w)) ?_ ?_ rfl)) Iff.rfl
  · intro it hof h
    cases it with
    | node x =>
        obtain ⟨hcan, w, hw, rfl⟩ := h
        exact ⟨w, hw, hof, hcan, rfl⟩
    | _ => exact absurd hof id
  · exact fun hcan => ⟨hcan, n, hn, rfl⟩

theorem shows_httpsCert {cert : HttpsCertObject} (hcert : cert ∈ s.httpsCerts.items) :
    ShowsSame env order secretLast c s action (.httpsCert cert) := by
  refine Iff.mpr (showsSame_iff_permissions (fun _ => permitted_eq_message) rfl (returned_iff hcert
    (fun _ => canViewCluster c.policies c.client = some true)
    (fun w => .httpsCert (buildHttpsCertResponse w)) ?_ ?_ rfl)) Iff.rfl
  · intro it hof h
    cases it with
    | httpsCert x =>
        obtain ⟨hcan, w, hw, rfl⟩ := h
        exact ⟨w, hw, hof, hcan, rfl⟩
    | _ => exact absurd hof id
  · exact fun hcan => ⟨hcan, cert, hcert, rfl⟩

theorem shows_volume {pvc : PersistentVolumeClaim} (hpvc : pvc ∈ s.claims.items) :
    ShowsSame env order secretLast c s action (.volume pvc) ↔ Agreeable env secretLast c s (.volume pvc) := by
  have hemit : ∀ m, buildResMessage (env.watching order secretLast) c s action
      (.volume pvc) = .message m ↔ (labelValue pvc.labels kalmManaged = str "true" ∧
          canViewCluster c.policies c.client = some true) ∧
        m = ⟨[], .volume, action, some (.volume (buildVolumeResponse s pvc))⟩ := by
    intro m
    show buildVolumeResMessage c s action pvc = .message m ↔ _
    unfold buildVolumeResMessage
    split
    · rename_i hlabel
      exact iff_of_false nofun fun h => hlabel h.1.1
    · rename_i hlabel
      rw [permitted_eq_message, and_iff_right (not_not.mp hlabel)]
  refine Iff.trans (showsSame_iff_permissions hemit rfl (returned_iff hpvc
    (fun w => labelValue w.labels kalmManaged = str "true" ∧
      canViewNamespace c.policies c.client w.ns = some true)
    (fun w => .volume (buildVolumeResponse s w)) ?_ ?_ ⟨rfl, rfl⟩)) ?_
  rotate_right
  · refine ⟨fun h hlabel hcan => (h.mpr ⟨hlabel, hcan⟩).2, fun h => ⟨?_, ?_⟩⟩
    · rintro ⟨hlabel, hcan⟩
      exact ⟨hlabel, canViewNamespace_of_cluster hcan pvc.ns⟩
    · rintro ⟨hlabel, hcan⟩
      exact ⟨hlabel, h hlabel hcan⟩
  · intro it hof h
    cases it with
    | volume x =>
        obtain ⟨w, hw, hlabel, hcan, rfl⟩ := h
        exact ⟨w, hw, Prod.ext hof.1 hof.2, ⟨hlabel, hcan⟩, rfl⟩
    | _ => exact absurd hof id
  · exact fun hq => ⟨pvc, hpvc, hq.1, hq.2, rfl⟩

theorem shows_protectedEndpoint {e : ProtectedEndpointObject} (he : e ∈ s.protectedEndpoints.items) :
    ShowsSame env order secretLast c s action (.protectedEndpoint e) := by
  refine Iff.mpr (showsSame_iff_permissions (fun _ => permitted_eq_message) rfl (returned_iff he
    (fun w => canViewNamespace c.policies c.client w.ns = some true)
    (fun w => .protectedEndpoint (protectedEndpointCRDToProtectedEndpoint w)) ?_ ?_
    ⟨rfl, rfl⟩)) Iff.rfl
  · intro it hof h
    cases it with
    | protectedEndpoint x =>
        obtain ⟨w, hw, hcan, rfl⟩ := h
        exact ⟨w, hw, Prod.ext hof.1 hof.2, hcan, rfl⟩
    | _ => exact absurd hof id
  · exact fun hcan => ⟨e, he, hcan, rfl⟩

theorem shows_accessToken {t : StoredAccessToken sum256} (ht : t ∈ s.accessTokens.items)
    (hdeploy : t.isDeploy = true) : ShowsSame env order secretLast c s action (.accessToken t) := by
  have hemit : ∀ m, buildResMessage (env.watching order secretLast) c s action
      (.accessToken t) = .message m ↔
      permissionsGreaterThanOrEqualAccessToken c.policies c.client t.toAccessToken = some true ∧
        m = ⟨[], .deployAccessToken, action, some (.accessToken t.toAccessToken)⟩ := by
    intro m
    show buildAccessTokenResMessage c action t = .message m ↔ _
    rw [buildAccessTokenResMessage, if_pos hdeploy, permitted_eq_message]
  refine Iff.mpr (showsSame_iff_permissions hemit rfl (returned_iff ht
    (fun w => permissionsGreaterThanOrEqualAccessToken c.policies c.client w.toAccessToken = some true)
    (fun w => .accessToken w.toAccessToken) ?_ ?_ rfl)) Iff.rfl
  · intro it hof h
    cases it with
    | accessToken x =>
        obtain ⟨w, hw, hcan, rfl⟩ := h
        exact ⟨w, hw, hof, hcan, rfl⟩
    | _ => exact absurd hof id
  · exact fun hcan => ⟨t, ht, hcan, rfl⟩

theorem shows_roleBinding {b : AcceptedRoleBinding} (hb : b ∈ s.roleBindings.items) :
    ShowsSame env order secretLast c s action (.roleBinding b) := by
  refine Iff.mpr (showsSame_iff_permissions (fun _ => permitted_eq_message) rfl (returned_iff hb
    (fun w => canManageRoleBinding c.policies c.client w.spec.role.value w.ns.val = some true)
    (fun w => .roleBinding (buildRoleBinding w.toRoleBinding)) ?_ ?_ ⟨rfl, rfl⟩)) Iff.rfl
  · intro it hof h
    cases it with
    | roleBinding x =>
        obtain ⟨w, hw, hcan, rfl⟩ := h
        exact ⟨w, hw, Prod.ext hof.1 hof.2, hcan, rfl⟩
    | _ => exact absurd hof id
  · exact fun hcan => ⟨b, hb, hcan, rfl⟩

/-- **Registries**: the watch reads the registry and its secret, and asks to view the cluster. -/
theorem shows_registry {r : DockerRegistryObject} (hr : r ∈ s.dockerRegistries.items) :
    ShowsSame env order secretLast c s action (.registry r) ↔ Agreeable env secretLast c s (.registry r) := by
  have hfind : s.dockerRegistries.find r.name = some r := Store.find_self hr
  generalize hsecret : s.secrets.find (kalmSystemNamespace, getRegistryAuthenticationName r.name) = secret
  have hget : ∀ {last : Bool} {x : DockerRegistry}, getDockerRegistry s last r.name = some x ↔
      (last = true → secret.isSome) ∧ buildDockerRegistryFromResource r secret = x := by
    intro last x
    rw [getDockerRegistry_eq_some, hfind, hsecret]
    cases last <;> simp
  have hemit : ∀ m, buildResMessage (env.watching order secretLast) c s action
      (.registry r) = .message m ↔ (canViewCluster c.policies c.client = some true ∧
          (secretLast = true → secret.isSome)) ∧
        m = ⟨[], .registry, action, some (.registry (buildDockerRegistryFromResource r secret))⟩ := by
    intro m
    show buildRegistryResMessage { env with secretLast := secretLast } c s action r = _ ↔ _
    rw [buildRegistryResMessage]
    cases hg : getDockerRegistry s secretLast r.name with
    | none =>
        have hno : ¬ (secretLast = true → secret.isSome) := fun hlast => by
          rw [hget.mpr ⟨hlast, rfl⟩] at hg
          cases hg
        refine iff_of_false ?_ fun h => hno h.1.2
        rcases canViewCluster c.policies c.client with _ | _ | _ <;> exact fun h => by cases h
    | some x =>
        obtain ⟨hlast, rfl⟩ := hget.mp hg
        rw [permitted_eq_message, and_iff_left hlast]
  have hreturned : (∃ it, Returned env c s (.registry r) it) ↔ canViewRegistries c = some true := by
    constructor
    · rintro ⟨it, ha, hof⟩
      cases it with
      | registry x => exact (answered_iff.mp ha).1
      | _ => exact absurd hof id
    · exact fun hcan => ⟨.registry _, answered_iff.mpr ⟨hcan, Or.inl (List.mem_map_of_mem hr)⟩, rfl⟩
  have hsame : canViewRegistries c = some true → (secretLast = true → secret.isSome) →
      Returned env c s (.registry r) (.registry (buildDockerRegistryFromResource r secret)) := by
    intro hcan _
    refine ⟨answered_iff.mpr ⟨hcan, ?_⟩, rfl⟩
    cases hs : secret with
    | none =>
        -- the list shows the registry without its secret
        refine Or.inl (List.mem_map.mpr ⟨r, hr, ?_⟩)
        rw [hsecret, hs]
        rfl
    | some sec => exact Or.inr ⟨r.name, hget.mpr ⟨fun _ => by rw [hs]; rfl, by rw [hs]⟩⟩
  rw [showsSame_iff hemit, hreturned]
  show _ ↔ (canViewRegistries c = some true → canViewCluster c.policies c.client = some true ∧
    (secretLast = true → (s.secrets.find (kalmSystemNamespace,
      getRegistryAuthenticationName r.name)).isSome))
  rw [hsecret]
  refine and_iff_right ?_
  rintro ⟨hcan, hlast⟩
  exact ⟨_, rfl, hsame (canViewRegistries_of_cluster hcan) hlast⟩

/-- The configs are hidden already. -/
theorem hideConnectors_eq_self {spec : SingleSignOnConfigSpec} :
    hideConnectors spec = spec ↔ ∀ conn ∈ spec.connectors, conn.config = none := by
  constructor
  · intro h conn hconn
    have hmap : spec.connectors.map (fun conn => { conn with config := none }) = spec.connectors :=
      congrArg SingleSignOnConfigSpec.connectors h
    rw [← hmap] at hconn
    obtain ⟨_, _, rfl⟩ := List.mem_map.mp hconn
    rfl
  · intro h
    have hmap : spec.connectors.map (fun conn => { conn with config := none }) = spec.connectors := by
      have hsame : ∀ conn ∈ spec.connectors, { conn with config := none } = id conn := by
        intro conn hconn
        rw [← h conn hconn]
        rfl
      rw [List.map_congr_left hsame, List.map_id]
    rw [hideConnectors, hmap]

/-- **The config of the single sign-on**: the watch reads one config, and does not hide what is in it. -/
theorem shows_ssoConfig {cfg : SingleSignOnConfig} (hcfg : cfg ∈ s.ssoConfigs.items) :
    ShowsSame env order secretLast c s action (.ssoConfig cfg) ↔ Agreeable env secretLast c s (.ssoConfig cfg) := by
  have hemit : ∀ m, buildResMessage (env.watching order secretLast) c s action
      (.ssoConfig cfg) = .message m ↔ (cfg.name = ssoName ∧
          canViewCluster c.policies c.client = some true) ∧
        m = ⟨[], .singleSignOnConfig, action, (getSSOConfig s).map .ssoConfig⟩ := by
    intro m
    show buildSSOConfigResMessage c s action cfg = .message m ↔ _
    unfold buildSSOConfigResMessage
    split
    · rename_i hname
      exact iff_of_false nofun fun h => hname h.1.1
    · rename_i hname
      rw [permitted_eq_message, and_iff_right (not_not.mp hname)]
  have hreturned : ∀ it, Returned env c s (.ssoConfig cfg) it ↔
      (cfg.ns = kalmSystemNamespace ∧ cfg.name = ssoName) ∧
        canViewCluster c.policies c.client = some true ∧ it = .ssoConfig (hideConnectors cfg.spec) := by
    intro it
    have hspec : cfg.ns = kalmSystemNamespace ∧ cfg.name = ssoName → getSSOConfig s = some cfg.spec := by
      rintro ⟨hns, hname⟩
      have hfind : s.ssoConfigs.find (cfg.ns, cfg.name) = some cfg := Store.find_self hcfg
      rw [getSSOConfig, ← hns, ← hname, hfind]
      rfl
    constructor
    · rintro ⟨ha, hof⟩
      cases it with
      | ssoConfig x =>
          obtain ⟨hcan, spec, hs, rfl⟩ := answered_iff.mp ha
          cases (hspec hof).symm.trans hs
          exact ⟨hof, hcan, rfl⟩
      | _ => exact absurd hof id
    · rintro ⟨hof, hcan, rfl⟩
      exact ⟨answered_iff.mpr ⟨hcan, cfg.spec, hspec hof, rfl⟩, hof⟩
  rw [showsSame_iff hemit]
  constructor
  · rintro ⟨hto, _⟩ hname hcan
    obtain ⟨it, hdata, hret⟩ := hto ⟨hname, hcan⟩
    obtain ⟨hof, _, rfl⟩ := (hreturned it).mp hret
    obtain ⟨spec, hs, he⟩ := Option.map_eq_some_iff.mp hdata
    have hfind : s.ssoConfigs.find (cfg.ns, cfg.name) = some cfg := Store.find_self hcfg
    rw [getSSOConfig, ← hof.1, ← hof.2, hfind] at hs
    cases hs
    exact ⟨hof.1, hideConnectors_eq_self.mp (Item.ssoConfig.inj he).symm⟩
  · intro h
    refine ⟨?_, ?_⟩
    · rintro ⟨hname, hcan⟩
      obtain ⟨hns, hconfigs⟩ := h hname hcan
      have hfind : s.ssoConfigs.find (cfg.ns, cfg.name) = some cfg := Store.find_self hcfg
      refine ⟨.ssoConfig cfg.spec, ?_, (hreturned _).mpr ⟨⟨hns, hname⟩, hcan, ?_⟩⟩
      · rw [getSSOConfig, ← hns, ← hname, hfind]
        rfl
      · rw [hideConnectors_eq_self.mpr hconfigs]
    · rintro ⟨it, hit⟩
      obtain ⟨hof, hcan, _⟩ := (hreturned it).mp hit
      exact ⟨hof.2, hcan⟩

/-- **The two channels show the same of an object exactly where their checks agree**, of the single sign-on where
    nothing is to hide, and of a component where its histories are one. -/
theorem shows_iff (env : Environment sum256) (secretLast : Bool) (c : Caller) (s : ApiState sum256)
    (action : WatchAction) (o : Watched sum256) (ho : o.Served s) :
    ShowsAlways env secretLast c s action o ↔ Agreeable env secretLast c s o := by
  have hevery {p : Prop} (h : ∀ asked watched, ShowsSame (env.walking asked) watched secretLast c s action o ↔ p) :
      ShowsAlways env secretLast c s action o ↔ p :=
    ⟨fun hall => (h env.observed.order env.observed.order).mp (hall _ _),
      fun hp asked watched => (h asked watched).mpr hp⟩
  cases o with
  | application n => exact hevery fun _ _ => shows_application ho
  | component comp =>
      refine (forall₂_congr fun asked watched => shows_component ho).trans ?_
      show _ ↔ (_ → _)
      rw [details_iff (s := s)]
      exact ⟨fun h hcan asked watched => h asked watched hcan, fun h asked watched hcan => h hcan asked watched⟩
  | service svc => exact hevery fun _ _ => shows_service ho
  | httpRoute r => exact hevery fun _ _ => iff_of_true (shows_httpRoute ho) trivial
  | node n => exact hevery fun _ _ => iff_of_true (shows_node ho) trivial
  | httpsCert cert => exact hevery fun _ _ => iff_of_true (shows_httpsCert ho) trivial
  | registry r => exact hevery fun _ _ => shows_registry ho
  | volume pvc => exact hevery fun _ _ => shows_volume ho
  | ssoConfig cfg => exact hevery fun _ _ => shows_ssoConfig ho
  | protectedEndpoint e => exact hevery fun _ _ => iff_of_true (shows_protectedEndpoint ho) trivial
  | accessToken t => exact hevery fun _ _ => iff_of_true (shows_accessToken ho.1 ho.2) trivial
  | roleBinding b => exact hevery fun _ _ => iff_of_true (shows_roleBinding ho) trivial
  | componentCausedByService svc => exact absurd ho id
  | pod pod => exact absurd ho id

end Compare

/-! ## 4. A viewer of the cluster -/

/-- A client that may view everything. -/
def clusterViewer : Caller where
  policies := ⟨[[str "user-bob", str "view", [star], [star]]], []⟩
  client := ⟨str "bob", none, [], []⟩
  name := str "bob"

/-- A single sign-on through one connector. -/
def githubConfig (config : Option Doc) : SingleSignOnConfig where
  ns := kalmSystemNamespace
  name := ssoName
  spec :=
    { issuer := [], jwksUri := [], domain := str "kalm.dev", useHttp := false, port := none
      showApproveScreen := false, alwaysShowLoginScreen := false
      connectors := [⟨str "github", str "gh", str "GitHub", config⟩]
      temporaryUser := none, externalEnvoyExtAuthz := none, idTokenExpirySeconds := some 300 }
  defaulted := Option.some_ne_none 300

/-- Its cluster. -/
def githubCluster (config : Option Doc) : ApiState (fun _ => []) :=
  { ApiState.empty (fun _ => []) with ssoConfigs := .single (githubConfig config) }

theorem shows_github : ShowsAlways plainEnvironment true clusterViewer (githubCluster none) .update
    (.ssoConfig (githubConfig none)) :=
  (shows_iff plainEnvironment true clusterViewer (githubCluster none) .update
    (.ssoConfig (githubConfig none)) List.mem_cons_self).mpr fun _ _ =>
      ⟨rfl, fun _ hconn => by rw [List.mem_singleton.mp hconn]⟩

/-- **The config of a connector, with its client secret, is pushed to a viewer.** -/
theorem shows_fails :
    ¬ ∀ (sum256 : Str → List UInt8) (env : Environment sum256) (secretLast : Bool) (c : Caller)
        (s : ApiState sum256) (action : WatchAction) (o : Watched sum256), action ≠ .delete →
          o.Served s → ShowsAlways env secretLast c s action o := by
  intro h
  have hcan : canViewCluster clusterViewer.policies clusterViewer.client = some true := by decide +kernel
  have hshows := h (fun _ => []) plainEnvironment true clusterViewer (githubCluster (some emptyDoc)) .add
    (.ssoConfig (githubConfig (some emptyDoc))) (by decide) List.mem_cons_self
    plainEnvironment.observed.order plainEnvironment.observed.order
  have hmessage : buildResMessage { plainEnvironment with secretLast := true } clusterViewer
      (githubCluster (some emptyDoc)) .add (.ssoConfig (githubConfig (some emptyDoc))) =
        .message ⟨[], .singleSignOnConfig, .add, some (.ssoConfig (githubConfig (some emptyDoc)).spec)⟩ := by
    show buildSSOConfigResMessage clusterViewer (githubCluster (some emptyDoc)) .add _ = _
    have hname : ¬ (githubConfig (some emptyDoc)).name ≠ ssoName := not_not.mpr rfl
    rw [buildSSOConfigResMessage, if_neg hname, permitted_eq_message]
    exact ⟨hcan, rfl⟩
  obtain ⟨it, hdata, _, hfree⟩ := hshows.emitted _ hmessage
  rw [← Option.some.inj hdata] at hfree
  exact absurd (hfree _ List.mem_cons_self) nofun

end Kalm
