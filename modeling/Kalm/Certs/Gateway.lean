/-
  File:      Kalm/Certs/Gateway.lean
  Subject:   THE GATEWAY OF ALL CERTIFICATES: `HttpsGateway` of controller/controllers/gateway_controller.go.

  * `httpsGateway` -- one gateway with a server for every certificate; without certificates it is deleted;
  * `WellFormed` -- what Istio asks of the servers of a gateway, which it takes or refuses as a whole;
  * `gatewayServes_iff` -- every run leaves the right gateway exactly where every certificate has a domain and no two
    certificates have the same secret; `gatewayServes_fails` -- the webhook accepts two that have.
-/
import Kalm.Certs.HttpsCerts
import Kalm.Lib.Served

namespace Kalm.Tls

open Calls (Outcome)
open Objects (Error State)

/-! ## 1. The program -/

/-- `HTTPS_GATEWAY_NAMESPACED_NAME`. -/
def httpsGatewayKey : Str × Str := (istioNamespace, str "kalm-https-gateway")

/-- The server of a certificate. -/
def serverOf (cert : HttpsCert) : Server where
  hosts := cert.spec.domains
  number := 443
  protocol := str "HTTPS"
  portName := str "https-" ++ cert.certSecretName
  credentialName := cert.certSecretName

/-- The gateway as it is written, from the one that was found. -/
def gatewayFor (found : Option Gateway) (certs : List HttpsCert) : Gateway where
  ns := httpsGatewayKey.1
  name := httpsGatewayKey.2
  selector := (found.elim ∅ Gateway.selector).insert (str "istio") (str "ingressgateway")
  servers := certs.map serverOf

/-- `updateGateway`; nothing is loaded where it is to be created. -/
def updateGateway (loaded : Option (Stored .gateway)) (gw : Gateway) : TlsTask Unit :=
  match loaded with
  | none => call (.create .gateway gw)
  | some v =>
    if gw.servers = [] then call (.delete .gateway (gw.ns, gw.name))
    else call (.update .gateway ⟨gw, v.version⟩)

/-- `HttpsGateway`. -/
def httpsGateway : TlsTask Unit := do
  let loaded ← Objects.find (S := schema) .gateway httpsGatewayKey
  let certs ← call (.list .httpsCert)
  if certs.length = 0 then Objects.deleteLoaded (S := schema) .gateway loaded
  else updateGateway loaded (gatewayFor (loaded.map fun v => v.obj) (certs.map fun v => v.obj))

/-! ## 2. What it is for -/

/-- What Istio asks of the servers of a gateway. -/
structure WellFormed (servers : List Server) : Prop where
  hosts : ∀ server ∈ servers, server.hosts ≠ []
  ports : (servers.map Server.portName).Nodup

/-- The gateway serves the certificates: one server for each, with its domains and its secret. -/
structure Serves (certs : List HttpsCert) (gw : Gateway) : Prop where
  wellFormed : WellFormed gw.servers
  each : List.Forall₂ (fun server cert => server.hosts = cert.spec.domains ∧
    server.credentialName = cert.certSecretName) gw.servers certs

/-- The gateway that is stored is the right one; without certificates there is none. -/
def Right (certs : List HttpsCert) (stored : Option Gateway) : Prop :=
  match certs with
  | [] => stored = none
  | _ :: _ => ∃ gw, stored = some gw ∧ Serves certs gw

/-- The certificates of the cluster. -/
def certsOf (s : Cluster) : List HttpsCert := (s.list .httpsCert).map fun v => v.obj

/-- The gateway of the cluster. -/
def gatewayOf (s : Cluster) : Option Gateway := s.objAt .gateway httpsGatewayKey

/-- **TLS for all of them**: whatever fails, a run leaves the gateway as it was, and fails, or it leaves the right
    one; where nothing fails it returns. -/
structure Reconciles (s : Cluster) : Prop where
  runs : Calls.Holds Objects.serve .unavailable httpsGateway s fun o t =>
    ((∃ e, o = .failed e) ∧ gatewayOf t = gatewayOf s) ∨ Right (certsOf s) (gatewayOf t)
  returns : Objects.Returns httpsGateway s fun _ _ => True

/-! ## 3. The servers -/

section Servers

variable {certs : List HttpsCert} {s : Cluster} {found : Option Gateway}

theorem nodup_portNames_iff :
    ((certs.map serverOf).map Server.portName).Nodup ↔ (certs.map HttpsCert.certSecretName).Nodup := by
  have hnames : (certs.map serverOf).map Server.portName =
      (certs.map HttpsCert.certSecretName).map fun secret => str "https-" ++ secret := by
    rw [List.map_map, List.map_map]
    rfl
  rw [hnames]
  exact List.nodup_map_iff fun _ _ h => List.append_cancel_left h

/-- **The servers are well formed** where every certificate has a domain and a secret of its own. -/
theorem wellFormedServers_iff : WellFormed (certs.map serverOf) ↔
    (∀ cert ∈ certs, cert.spec.domains ≠ []) ∧ (certs.map HttpsCert.certSecretName).Nodup := by
  constructor
  · intro h
    exact ⟨fun cert hcert => h.hosts _ (List.mem_map_of_mem hcert), nodup_portNames_iff.mp h.ports⟩
  · intro h
    refine ⟨fun server hserver => ?_, nodup_portNames_iff.mpr h.2⟩
    obtain ⟨cert, hcert, rfl⟩ := List.mem_map.mp hserver
    exact h.1 cert hcert

theorem forall₂_servers : List.Forall₂ (fun server cert => server.hosts = cert.spec.domains ∧
    server.credentialName = cert.certSecretName) (certs.map serverOf) certs := by
  rw [List.forall₂_map_left_iff, List.forall₂_same]
  exact fun cert _ => ⟨rfl, rfl⟩

theorem serves_gatewayFor_iff : Serves certs (gatewayFor found certs) ↔
    (∀ cert ∈ certs, cert.spec.domains ≠ []) ∧ (certs.map HttpsCert.certSecretName).Nodup :=
  Iff.trans ⟨fun h => h.wellFormed, fun h => ⟨h, forall₂_servers⟩⟩ wellFormedServers_iff

/-! ## 4. Every run -/

theorem key_gatewayFor : schema.key (k := .gateway) (gatewayFor found certs) = httpsGatewayKey := rfl

/-- Where there are certificates, what was loaded is saved. -/
theorem updateGateway_eq (loaded : Option (Stored .gateway)) (h : certs ≠ []) :
    updateGateway loaded (gatewayFor (loaded.map fun v => v.obj) certs) =
      Objects.save (S := schema) .gateway loaded (gatewayFor none certs) fun old => gatewayFor (some old) certs := by
  have hservers : certs.map serverOf ≠ [] := fun hnil => h (List.map_eq_nil_iff.mp hnil)
  cases loaded with
  | none => rfl
  | some v => exact if_neg hservers

/-- The state behind a run that is answered. -/
def reconciled (s : Cluster) : Cluster :=
  if certsOf s = [] then s.cleared .gateway httpsGatewayKey
  else
    s.saved (k := .gateway) httpsGatewayKey (gatewayFor none (certsOf s))
      fun old => gatewayFor (some old) (certsOf s)

theorem gatewayOf_reconciled (s : Cluster) : gatewayOf (reconciled s) =
    if certsOf s = [] then none else some (gatewayFor (gatewayOf s) (certsOf s)) := by
  unfold reconciled gatewayOf
  split
  · rw [State.objAt, Objects.get_cleared]
    rfl
  · rw [Objects.objAt_saved key_gatewayFor fun _ _ => key_gatewayFor]
    cases s.objAt .gateway httpsGatewayKey <;> rfl

/-- **The right gateway is left exactly where the certificates can be served.** -/
theorem right_reconciled_iff : Right (certsOf s) (gatewayOf (reconciled s)) ↔
    (∀ cert ∈ certsOf s, cert.spec.domains ≠ []) ∧ ((certsOf s).map HttpsCert.certSecretName).Nodup := by
  rw [gatewayOf_reconciled]
  cases hcerts : certsOf s with
  | nil => exact iff_of_true rfl ⟨fun cert hcert => absurd hcert List.not_mem_nil, List.nodup_nil⟩
  | cons cert rest =>
      have hserves := @serves_gatewayFor_iff (cert :: rest) (gatewayOf s)
      rw [if_neg (List.cons_ne_nil cert rest), ← hserves]
      constructor
      · intro h
        obtain ⟨gw, hgw, hserves⟩ := h
        rwa [← Option.some.inj hgw] at hserves
      · exact fun h => ⟨_, rfl, h⟩

theorem length_list_iff (s : Cluster) : (s.list .httpsCert).length = 0 ↔ certsOf s = [] := by
  rw [certsOf, List.map_eq_nil_iff, List.length_eq_zero_iff]

theorem holds_httpsGateway {Q : Outcome Error Unit → Cluster → Prop} (hreturned : Q (.returned ()) (reconciled s))
    (hbefore : Q (.failed .unavailable) s) (hbehind : Q (.failed .unavailable) (reconciled s)) :
    Calls.Holds Objects.serve .unavailable httpsGateway s Q := by
  unfold httpsGateway
  refine Calls.holds_bind.mpr (Objects.holds_find.mpr ⟨?_, hbefore⟩)
  refine Calls.holds_bind.mpr ((Objects.holds_invoke rfl).mpr ⟨?_, hbefore, hbefore⟩)
  unfold reconciled at hreturned hbehind
  by_cases hcerts : certsOf s = []
  · rw [if_pos hcerts] at hreturned hbehind
    simp only [if_pos ((length_list_iff s).mpr hcerts)]
    exact Objects.holds_deleteLoaded hreturned hbefore hbehind
  · rw [if_neg hcerts] at hreturned hbehind
    simp only [if_neg ((length_list_iff s).not.mpr hcerts)]
    rw [← certsOf, updateGateway_eq _ hcerts]
    exact (Objects.holds_save rfl key_gatewayFor fun _ _ => key_gatewayFor).mpr ⟨hreturned, hbefore, hbehind⟩

theorem returns_httpsGateway (s : Cluster) : Objects.Returns httpsGateway s fun _ t => t = reconciled s := by
  unfold httpsGateway reconciled
  refine Objects.returns_bind.mpr (Objects.returns_find.mpr (Objects.returns_bind.mpr (Objects.returns_list.mpr ?_)))
  by_cases hcerts : certsOf s = []
  · rw [if_pos hcerts, if_pos ((length_list_iff s).mpr hcerts)]
    exact Objects.returns_deleteLoaded.mpr rfl
  · rw [if_neg hcerts, if_neg ((length_list_iff s).not.mpr hcerts), ← certsOf, updateGateway_eq _ hcerts]
    exact (Objects.returns_save key_gatewayFor fun _ _ => key_gatewayFor).mpr ⟨fun _ => rfl, rfl⟩

/-- **The gateway is reconciled exactly where every certificate has a domain and a secret of its own.** -/
theorem gatewayServes_iff : Reconciles s ↔
    (∀ cert ∈ certsOf s, cert.spec.domains ≠ []) ∧ ((certsOf s).map HttpsCert.certSecretName).Nodup := by
  constructor
  · intro h
    obtain ⟨_, t, rfl, hrun⟩ := h.runs.returned (returns_httpsGateway s)
    rcases hrun with ⟨⟨e, he⟩, _⟩ | hright
    · cases he
    · exact right_reconciled_iff.mp hright
  · intro h
    have hright := right_reconciled_iff.mpr h
    exact ⟨holds_httpsGateway (Or.inr hright) (Or.inl ⟨⟨_, rfl⟩, rfl⟩) (Or.inr hright),
      (returns_httpsGateway s).mono fun _ _ _ => trivial⟩

end Servers

/-- A certificate that was uploaded. -/
def uploadedCert : HttpsCert where
  name := str "uploaded"
  spec := ⟨true, str "shop", [], [str "shop.org"]⟩
  status := ⟨[], 0, false⟩

/-- It names the secret into which the certificate `shop` is issued. -/
def sharedSecret : Cluster where
  objects
    | .httpsCert => ⟨[⟨shopCert, 1⟩, ⟨uploadedCert, 2⟩], by decide⟩
    | _ => .empty
  revision := 2

/-- **Two certificates with one secret**: the ports of their servers have one name. -/
theorem gatewayServes_fails : ¬ ∀ s : Cluster, (∀ cert ∈ certsOf s, cert.validate = []) → Reconciles s := by
  intro h
  have hcerts : certsOf sharedSecret = [shopCert, uploadedCert] := rfl
  have hright := (h sharedSecret (by rw [hcerts]; decide +kernel)).runs.returned (returns_httpsGateway sharedSecret)
  obtain ⟨_, t, rfl, hrun⟩ := hright
  rcases hrun with ⟨⟨e, he⟩, _⟩ | hright
  · cases he
  · have hnodup := (right_reconciled_iff.mp hright).2
    rw [hcerts] at hnodup
    exact absurd hnodup (by decide)

end Kalm.Tls
