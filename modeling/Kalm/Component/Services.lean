/-
  File:      Kalm/Component/Services.lean
  Subject:   THE SERVICES OF THE COMPONENTS OF ONE NAMESPACE: `ReconcileService` of
             controller/controllers/component_controller.go, behind `Component.Default` and `Component.validate`, and
             the check of the ports in frontend/src/forms/ComponentLike/index.tsx.

  * `Accepted` -- the markers, the defaults and the checks of the webhook, none of which compares two ports;
  * `validatePorts` -- the form compares the application protocol and the number of the ports;
  * `ServiceRun` -- a run of `ReconcileService`, whatever was loaded before it and whatever fails;
  * `serviceRun_frame` -- what it can write: the service, and the headless service of the component's name;
  * `ownServices_iff` -- the services are valid and each belongs to one component exactly when no component listens
    on a number twice with one transport protocol and no name is the headless name of another component.
-/
import Kalm.Component.Reconciled
import Kalm.Component.BindingOwners
import Kalm.Lib.Served
import Kalm.Sso.Urls

namespace Kalm.Controller

open Objects (State Versioned save deleteLoaded)
open Calls (Fault)
open Sso (append_itoa_inj)

/-! ## 1. Admission -/

/-- The markers of `Port`; a service port of 0 is one that is left out. -/
def Port.Marked (port : Port) : Prop :=
  1 ≤ port.containerPort ∧ port.containerPort ≤ 65535 ∧ port.servicePort ≤ 65535

/-- `Component.Default` on one port. -/
def Port.default (port : Port) : Port :=
  if port.servicePort = 0 then { port with servicePort := port.containerPort } else port

/-- `Component.Default`, as far as the ports and the replicas go. -/
def Component.default (c : Component) : Component :=
  { c with spec := { c.spec with replicas := c.spec.replicas.or (some 1), ports := c.spec.ports.map Port.default } }

/-- `Component.validate`: none of its checks reads the ports. -/
def Component.validate (checks : ComponentSpec → List KalmValidateError) (c : Component) : List KalmValidateError :=
  checks { c.spec with ports := [] }

/-- What the API server stores: a name, marked ports, the defaults, and no error of the webhook. -/
structure Accepted (checks : ComponentSpec → List KalmValidateError) (c : Component) : Prop where
  name : isDNS1123Subdomain c.name = true
  ports : ∀ port ∈ c.spec.ports, port.Marked
  default : c.default = c
  valid : c.validate checks = []

/-! ## 2. Valid ports -/

/-- What Kubernetes asks of the ports of a service. -/
structure ValidPorts (ports : List ServicePort) : Prop where
  names : (ports.map ServicePort.name).Nodup
  numbers : (ports.map fun port => (port.port, port.udp)).Nodup

/-- The number and the transport protocol of a port. -/
def Port.transport (port : Port) : Nat × Bool := (port.number, port.protocol = .udp)

/-- The name of a port. -/
def Port.serverPortName (port : Port) : Str := port.protocol.text ++ dash :: itoa port.number

theorem text_inj {p q : PortProtocol} (h : p.text = q.text) : p = q := by
  revert h
  cases p <;> cases q <;> decide

theorem serverPortName_inj {p q : Port} (h : p.serverPortName = q.serverPortName) :
    p.protocol = q.protocol ∧ p.number = q.number := by
  obtain ⟨htext, hnumber⟩ := append_itoa_inj h
  exact ⟨text_inj htext, hnumber⟩

/-- Ports of one name have one number and one transport protocol. -/
theorem transport_eq {p q : Port} (h : p.serverPortName = q.serverPortName) : p.transport = q.transport := by
  obtain ⟨hprotocol, hnumber⟩ := serverPortName_inj h
  rw [Port.transport, Port.transport, hprotocol, hnumber]

variable {c d : Component} {s t : Cluster} {key : Str × Str} {ports : List Port}

theorem nodup_names (h : (ports.map Port.transport).Nodup) : (ports.map Port.serverPortName).Nodup := by
  refine List.pairwise_map.mpr ((List.pairwise_map.mp h).imp ?_)
  intro p q hne heq
  exact hne (transport_eq heq)

/-- **The ports of a service are valid exactly when no number has one transport protocol twice.** -/
theorem validPorts_iff : ValidPorts c.servicePorts ↔ (c.spec.ports.map Port.transport).Nodup := by
  have hnames : c.servicePorts.map ServicePort.name = c.spec.ports.map Port.serverPortName := by
    simp [Component.servicePorts, Port.serverPortName]
  have hnumbers : (c.servicePorts.map fun port => (port.port, port.udp)) = c.spec.ports.map Port.transport := by
    simp [Component.servicePorts, Port.transport]
  constructor
  · intro h
    exact hnumbers ▸ h.numbers
  · intro h
    exact ⟨hnames ▸ nodup_names h, hnumbers ▸ h⟩

/-! ## 3. The form -/

/-- The message of the form. -/
def portsMessage (port : Port) : Str :=
  str "Listening port on a protocol should be unique.  " ++ port.protocol.text ++ str " - " ++ itoa port.number

/-- `validate` of the form: the loop over the ports, with the texts it has seen and the error it has found. -/
def validatePorts (protocolServicePorts : List Str) (error : Option Str) : List Port → Option Str
  | [] => error
  | port :: rest =>
    if port.number = 0 then validatePorts protocolServicePorts error rest
    else if port.serverPortName ∉ protocolServicePorts then
      validatePorts (port.serverPortName :: protocolServicePorts) error rest
    else if port.serverPortName ≠ [] then validatePorts protocolServicePorts (some (portsMessage port)) rest
    else validatePorts protocolServicePorts error rest

/-- The form accepts the ports. -/
def formAccepts (ports : List Port) : Prop := validatePorts [] none ports = none

/-- The ports the form compares. -/
def listening (ports : List Port) : List Port := ports.filter fun port => port.number ≠ 0

/-- An error stays, or is replaced by a later one. -/
theorem validatePorts_some (seen : List Str) (error : Str) : (validatePorts seen (some error) ports).isSome := by
  induction ports generalizing seen error with
  | nil => rfl
  | cons port rest ih =>
      rw [validatePorts]
      split
      · exact ih _ _
      split
      · exact ih _ _
      split
      · exact ih _ _
      · exact ih _ _

/-- **The loop finds no error exactly when the texts are distinct**, and distinct from those it has seen. -/
theorem validatePorts_eq_none_iff (seen : List Str) :
    validatePorts seen none ports = none ↔
      ((listening ports).map Port.serverPortName).Nodup ∧
        ∀ port ∈ listening ports, port.serverPortName ∉ seen := by
  induction ports generalizing seen with
  | nil => simp [validatePorts, listening]
  | cons port rest ih =>
      rw [validatePorts]
      by_cases hzero : port.number = 0
      · rw [if_pos hzero, ih, listening, listening, List.filter_cons_of_neg (by simp [hzero])]
      rw [if_neg hzero]
      have hlist : listening (port :: rest) = port :: listening rest :=
        List.filter_cons_of_pos (by simp [hzero])
      by_cases hseen : port.serverPortName ∈ seen
      · have hne : port.serverPortName ≠ [] := by simp [Port.serverPortName]
        rw [if_neg (not_not.mpr hseen), if_pos hne, hlist]
        have hsome : (validatePorts seen (some (portsMessage port)) rest).isSome := validatePorts_some _ _
        constructor
        · intro h
          rw [h] at hsome
          cases hsome
        · intro h
          exact absurd hseen (h.2 port List.mem_cons_self)
      · rw [if_pos hseen, ih, hlist]
        simp only [List.map_cons, List.nodup_cons, List.mem_cons, List.mem_map, not_or, forall_eq_or_imp]
        constructor
        · intro h
          obtain ⟨hnodup, hnew⟩ := h
          refine ⟨⟨?_, hnodup⟩, hseen, fun p hp => (hnew p hp).2⟩
          intro hsame
          obtain ⟨p, hp, heq⟩ := hsame
          exact (hnew p hp).1 heq
        · intro h
          obtain ⟨⟨hnew, hnodup⟩, _, hrest⟩ := h
          exact ⟨hnodup, fun p hp => ⟨fun heq => hnew ⟨p, hp, heq⟩, hrest p hp⟩⟩

/-- **What the form accepts**: no application protocol has a number twice. -/
theorem formAccepts_iff : formAccepts ports ↔ ((listening ports).map Port.serverPortName).Nodup := by
  rw [formAccepts, validatePorts_eq_none_iff]
  simp

/-- Valid ports are accepted. -/
theorem formAccepts_of_nodup (h : (ports.map Port.transport).Nodup) : formAccepts ports :=
  formAccepts_iff.mpr ((List.filter_sublist.map _).nodup (nodup_names h))

/-! ## 4. Runs of `ReconcileService` -/

/-- **A run of `ReconcileService`** from `s` to `t`: whatever was loaded under the keys of the component before it,
    in whatever state the calls find the server, and whatever becomes of them. -/
def ServiceRun (c : Component) (s t : Cluster) : Prop :=
  ∃ (enabled : Bool) (service headless : Option (Stored .service)) (rule : Option (Stored .destinationRule))
    (faults : List Fault), (∀ v, service = some v → v.key = c.key) ∧
      (∀ v, headless = some v → v.key = c.headlessKey) ∧ (∀ v, rule = some v → v.key = c.key) ∧
      (Calls.run Objects.serve .unavailable (reconcileService c enabled service headless rule) faults s).2 = t

/-- The services of a component: its headless service is written where it is asked for, and where it has no ports. -/
def Component.MayWrite (c : Component) (key : Str × Str) : Prop :=
  key = c.key ∨ (key = c.headlessKey ∧ (c.spec.ports = [] ∨ c.spec.asksForHeadless = true))

/-- A call on services is one on the services of the component, and writes its ports. -/
structure ServiceCall (c : Component) (call : Objects.Call schema) : Prop where
  create : ∀ obj : Service, call = .create (S := schema) .service obj →
    c.MayWrite (Kind.key .service obj) ∧ obj.ports = c.servicePorts
  update : ∀ v : Stored .service, call = .update .service v → c.MayWrite v.key ∧ Service.ports v.obj = c.servicePorts
  delete : ∀ key, call = .delete .service key → c.MayWrite key

/-- What becomes of one service: it is as it was, or the component may write it and it has its ports. -/
def Framed (c : Component) (s : Cluster) (key : Str × Str) (t : Cluster) : Prop :=
  t.get .service key = s.get .service key ∨
    (c.MayWrite key ∧ ∀ v, t.get .service key = some v → Service.ports v.obj = c.servicePorts)

/-- **What one call does.** -/
theorem framed_serve (call : Objects.Call schema) (hcall : ServiceCall c call) (u : Cluster)
    (h : Framed c s key u) : Framed c s key (Objects.serve call u).2 := by
  rcases Objects.get_serve call u .service key with hsame | ⟨obj, hcreate, hkey, _, hput⟩ |
    ⟨v, _, hupdate, hkey, _, _, hput⟩ | ⟨hdelete, hgone⟩
  · unfold Framed
    rwa [hsame]
  · obtain ⟨hmay, hports⟩ := hcall.create obj hcreate
    refine Or.inr ⟨hkey ▸ hmay, fun w hw => ?_⟩
    obtain rfl := Option.some.inj (hput.symm.trans hw)
    exact hports
  · obtain ⟨hmay, hports⟩ := hcall.update v hupdate
    refine Or.inr ⟨hkey ▸ hmay, fun w hw => ?_⟩
    obtain rfl := Option.some.inj (hput.symm.trans hw)
    exact hports
  · refine Or.inr ⟨hcall.delete key hdelete, fun w hw => ?_⟩
    rw [hgone] at hw
    cases hw

/-- A call on another kind, or one that reads. -/
theorem serviceCall_of_ne {call : Objects.Call schema}
    (hcreate : ∀ obj : Service, call ≠ .create (S := schema) .service obj)
    (hupdate : ∀ v : Stored .service, call ≠ .update .service v) (hdelete : ∀ key, call ≠ .delete .service key) :
    ServiceCall c call :=
  ⟨fun obj h => absurd h (hcreate obj), fun v h => absurd h (hupdate v), fun key h => absurd h (hdelete key)⟩

/-- The calls that save a service of the component. -/
theorem uses_saveService {loaded : Option (Stored .service)} {new : Service} (hmay : c.MayWrite key)
    (hloaded : ∀ v, loaded = some v → v.key = key) (hkey : Kind.key .service new = key)
    (hports : new.ports = c.servicePorts) :
    Calls.Uses (ServiceCall c) (save (S := schema) .service loaded new (Service.withPorts c.servicePorts)) := by
  refine Objects.uses_save ⟨?_, ?_, ?_⟩ fun v hv => ⟨?_, ?_, ?_⟩
  · intro obj h
    cases h
    exact ⟨hkey ▸ hmay, hports⟩
  · intro v h
    cases h
  · intro key h
    cases h
  · intro obj h
    cases h
  · intro w h
    cases h
    exact ⟨hloaded v hv ▸ hmay, rfl⟩
  · intro key h
    cases h

/-- The call that deletes a service of the component. -/
theorem uses_deleteService {loaded : Option (Stored .service)} (hmay : c.MayWrite key)
    (hloaded : ∀ v, loaded = some v → v.key = key) :
    Calls.Uses (ServiceCall c) (deleteLoaded (S := schema) .service loaded) := by
  refine Objects.uses_deleteLoaded fun v hv => ⟨?_, ?_, ?_⟩
  · intro obj h
    cases h
  · intro w h
    cases h
  · intro key h
    cases h
    exact hloaded v hv ▸ hmay

theorem serviceCall_get (k : Kind) (key : Str × Str) : ServiceCall c (.get (S := schema) k key) :=
  serviceCall_of_ne (fun _ h => by cases h) (fun _ h => by cases h) fun _ h => by cases h

theorem uses_loadService : Calls.Uses (ServiceCall c) (loadService c) :=
  Calls.uses_bind (Objects.uses_find (serviceCall_get .service c.key)) fun _ =>
    Calls.uses_bind (Objects.uses_find (serviceCall_get .service c.headlessKey)) fun _ => trivial

/-- The calls on the destination rule. -/
theorem uses_saveRule {loaded : Option (Stored .destinationRule)} {new : DestinationRule}
    {updated : DestinationRule → DestinationRule} :
    Calls.Uses (ServiceCall c) (save (S := schema) .destinationRule loaded new updated) :=
  Objects.uses_save
    (serviceCall_of_ne (fun _ h => by cases h) (fun _ h => by cases h) fun _ h => by cases h) fun _ _ =>
      serviceCall_of_ne (fun _ h => by cases h) (fun _ h => by cases h) fun _ h => by cases h

theorem uses_deleteRule {loaded : Option (Stored .destinationRule)} :
    Calls.Uses (ServiceCall c) (deleteLoaded (S := schema) .destinationRule loaded) :=
  Objects.uses_deleteLoaded fun _ _ =>
    serviceCall_of_ne (fun _ h => by cases h) (fun _ h => by cases h) fun _ h => by cases h

/-- **The calls of `ReconcileService`.** -/
theorem uses_reconcileService {enabled : Bool} {service headless : Option (Stored .service)}
    {rule : Option (Stored .destinationRule)} (hservice : ∀ v, service = some v → v.key = c.key)
    (hheadless : ∀ v, headless = some v → v.key = c.headlessKey) :
    Calls.Uses (ServiceCall c) (reconcileService c enabled service headless rule) := by
  have hown : c.MayWrite c.key := Or.inl rfl
  unfold reconcileService
  split
  · exact Calls.uses_bind (uses_deleteService hown hservice) fun _ => trivial
  split
  · refine Calls.uses_bind (uses_saveService hown hservice rfl rfl) fun _ => ?_
    by_cases hasks : c.spec.asksForHeadless = true
    · rw [if_pos hasks]
      have hother : c.MayWrite c.headlessKey := Or.inr ⟨rfl, Or.inr hasks⟩
      exact Calls.uses_bind (uses_saveService hother hheadless rfl rfl) fun _ =>
        Calls.uses_bind uses_saveRule fun _ => Calls.uses_bind uses_loadService fun _ => trivial
    · rw [if_neg hasks]
      exact Calls.uses_bind uses_saveRule fun _ => Calls.uses_bind uses_loadService fun _ => trivial
  · rename_i hports
    have hother : c.MayWrite c.headlessKey := Or.inr ⟨rfl, Or.inl (not_not.mp hports)⟩
    exact Calls.uses_bind (uses_deleteService hown hservice) fun _ =>
      Calls.uses_bind (uses_deleteService hother hheadless) fun _ =>
        Calls.uses_bind uses_deleteRule fun _ => Calls.uses_bind uses_loadService fun _ => trivial

/-- **What a run does to each service.** -/
theorem serviceRun_frame (h : ServiceRun c s t) (key : Str × Str) : Framed c s key t := by
  obtain ⟨enabled, service, headless, rule, faults, hservice, hheadless, _, rfl⟩ := h
  exact Calls.keeps_of_uses (fun call hcall u hu => framed_serve call hcall u hu)
    (uses_reconcileService hservice hheadless) s (Or.inl rfl) faults

/-! ## 5. Runs that write -/

/-- Some run changes the service under the key. -/
def WritesService (c : Component) (key : Str × Str) : Prop :=
  ∃ s t, ServiceRun c s t ∧ t.get .service key ≠ s.get .service key

theorem mayWrite_of_writes (h : WritesService c key) : c.MayWrite key := by
  obtain ⟨s, t, hrun, hne⟩ := h
  rcases serviceRun_frame hrun key with hsame | ⟨hmay, _⟩
  · exact absurd hsame hne
  · exact hmay

/-- A service of the component without ports. -/
def Component.bareService (c : Component) (name : Str) : Service where
  metadata := c.newMeta name ∅ ∅
  selector := ∅
  clusterIP := []
  ports := []

/-- A cluster with the services of the component, without ports, and its destination rule. -/
def stocked (c : Component) : Cluster :=
  ((emptyCluster.put Kind.service (c.bareService c.name)).put Kind.service
    (c.bareService (getNameForHeadlessService c.name))).put Kind.destinationRule c.newDestinationRule

theorem stocked_service : ∃ v, (stocked c).get .service c.key = some v ∧ Service.ports v.obj = [] := by
  have hne : c.key ≠ c.headlessKey := fun h => headlessKey_ne h.symm
  refine ⟨⟨c.bareService c.name, 1⟩, ?_, rfl⟩
  rw [stocked, State.get_put_of_ne Kind.noConfusion, State.get_put]
  refine (if_neg hne).trans ?_
  rw [State.get_put]
  exact if_pos rfl

theorem stocked_headless : ∃ v, (stocked c).get .service c.headlessKey = some v ∧ Service.ports v.obj = [] := by
  refine ⟨⟨c.bareService (getNameForHeadlessService c.name), 2⟩, ?_, rfl⟩
  rw [stocked, State.get_put_of_ne Kind.noConfusion, State.get_put]
  exact if_pos rfl

theorem stocked_rule : ∃ v, (stocked c).get .destinationRule c.key = some v := by
  refine ⟨⟨c.newDestinationRule, 3⟩, ?_⟩
  rw [stocked, State.get_put]
  exact if_pos rfl

/-- A run on what is stored, in which no call fails. -/
theorem serviceRun_of_returns {enabled : Bool} {Q : Option Service → Cluster → Prop}
    (h : Objects.Returns (reconcileService c enabled (s.get .service c.key) (s.get .service c.headlessKey)
      (s.get .destinationRule c.key)) s Q) : ∃ held t, ServiceRun c s t ∧ Q held t := by
  obtain ⟨held, t, hrun, hQ⟩ := h
  have hkey : ∀ {k : Kind} {key : Str × Str} (v : Stored k), s.get k key = some v → v.key = key :=
    fun v hv => (State.get_eq_some.mp hv).2
  exact ⟨held, t, ⟨enabled, _, _, _, [], hkey, hkey, hkey, by rw [hrun]⟩, hQ⟩

/-- An object that is there is updated. -/
theorem returns_saves {k : Kind} {new : k.Obj} {updated : k.Obj → k.Obj} {Q : Unit → Cluster → Prop}
    (hnew : k.key new = key) (hupdated : ∀ obj, k.key obj = key → k.key (updated obj) = key) {v : Stored k}
    (hv : s.get k key = some v)
    (h : ∀ t, Objects.SameBut (S := schema) k key s t → t.objAt k key = some (updated v.obj) → Q () t) :
    Objects.Returns (save (S := schema) k (s.get k key) new updated) s Q := by
  refine (Objects.returns_save (S := schema) hnew hupdated).mpr ⟨fun hnone => ?_, ?_⟩
  · rw [hv] at hnone
    cases hnone
  · refine h _ (Objects.sameBut_saved hnew hupdated) ?_
    rw [Objects.objAt_saved hnew hupdated, State.objAt, hv]
    rfl

/-- **A run on a stocked cluster** writes the ports into the service, and into the headless one it asks for. -/
theorem run_stocked (hports : c.spec.ports ≠ []) : ∃ t, ServiceRun c (stocked c) t ∧
    (t.objAt .service c.key).map Service.ports = some c.servicePorts ∧
      (c.spec.asksForHeadless = true →
        (t.objAt .service c.headlessKey).map Service.ports = some c.servicePorts) := by
  obtain ⟨v, hv, _⟩ := stocked_service (c := c)
  obtain ⟨w, hw, _⟩ := stocked_headless (c := c)
  obtain ⟨r, hr⟩ := stocked_rule (c := c)
  have hreturns : Objects.Returns (reconcileService c true ((stocked c).get .service c.key)
      ((stocked c).get .service c.headlessKey) ((stocked c).get .destinationRule c.key)) (stocked c)
      fun _ t => (t.objAt .service c.key).map Service.ports = some c.servicePorts ∧
        (c.spec.asksForHeadless = true →
          (t.objAt .service c.headlessKey).map Service.ports = some c.servicePorts) := by
    unfold reconcileService
    rw [if_neg Bool.noConfusion, if_pos hports]
    refine Objects.returns_bind.mpr (returns_saves rfl (fun _ h => h) hv fun t₁ hsame₁ hobj₁ => ?_)
    have hrule₁ : t₁.get .destinationRule c.key = (stocked c).get .destinationRule c.key :=
      hsame₁ _ _ fun h => Kind.noConfusion h.1
    have hheadless₁ : t₁.get .service c.headlessKey = (stocked c).get .service c.headlessKey :=
      hsame₁ _ _ fun h => headlessKey_ne h.2
    rw [← hrule₁, ← hheadless₁]
    by_cases hasks : c.spec.asksForHeadless = true
    · rw [if_pos hasks]
      refine Objects.returns_bind.mpr (returns_saves rfl (fun _ h => h) (hheadless₁.trans hw)
        fun t₂ hsame₂ hobj₂ => ?_)
      have hrule₂ : t₂.get .destinationRule c.key = t₁.get .destinationRule c.key :=
        hsame₂ _ _ fun h => Kind.noConfusion h.1
      have hservice₂ : t₂.get .service c.key = t₁.get .service c.key := hsame₂ _ _ fun h => headlessKey_ne h.2.symm
      rw [← hrule₂]
      refine Objects.returns_bind.mpr (returns_saves rfl (fun _ h => h) (hrule₂.trans (hrule₁.trans hr))
        fun t₃ hsame₃ _ => ?_)
      refine Objects.returns_bind.mpr (returns_loadService_iff.mpr (Calls.returns_done.mpr ⟨?_, fun _ => ?_⟩))
      · rw [State.objAt, hsame₃ _ _ fun h => Kind.noConfusion h.1, hservice₂, ← State.objAt, hobj₁]
        rfl
      · rw [State.objAt, hsame₃ _ _ fun h => Kind.noConfusion h.1, ← State.objAt, hobj₂]
        rfl
    · rw [if_neg hasks]
      refine Objects.returns_bind.mpr (returns_saves rfl (fun _ h => h) (hrule₁.trans hr) fun t₃ hsame₃ _ => ?_)
      refine Objects.returns_bind.mpr (returns_loadService_iff.mpr (Calls.returns_done.mpr
        ⟨?_, fun h => absurd h hasks⟩))
      rw [State.objAt, hsame₃ _ _ fun h => Kind.noConfusion h.1, ← State.objAt, hobj₁]
      rfl
  obtain ⟨_, t, hrun, hQ⟩ := serviceRun_of_returns hreturns
  exact ⟨t, hrun, hQ⟩

/-- **Every component writes the service of its name**: it deletes it where the namespace is disabled. -/
theorem writes_own : WritesService c c.key := by
  obtain ⟨v, hv, _⟩ := stocked_service (c := c)
  have hreturns : Objects.Returns (reconcileService c false ((stocked c).get .service c.key)
      ((stocked c).get .service c.headlessKey) ((stocked c).get .destinationRule c.key)) (stocked c)
      fun _ t => t.get .service c.key = none := by
    unfold reconcileService
    rw [if_pos rfl]
    exact Objects.returns_bind.mpr (Objects.returns_deleteLoaded.mpr (Calls.returns_done.mpr Objects.get_cleared))
  obtain ⟨_, t, hrun, hgone⟩ := serviceRun_of_returns hreturns
  refine ⟨_, t, hrun, ?_⟩
  rw [hgone, hv]
  exact (Option.some_ne_none v).symm

/-- **A component without ports deletes the service with its headless name.** -/
theorem writes_headless_of_nil (hports : c.spec.ports = []) : WritesService c c.headlessKey := by
  obtain ⟨v, hv, _⟩ := stocked_headless (c := c)
  have hreturns : Objects.Returns (reconcileService c true ((stocked c).get .service c.key)
      ((stocked c).get .service c.headlessKey) ((stocked c).get .destinationRule c.key)) (stocked c)
      fun _ t => t.get .service c.headlessKey = none := by
    unfold reconcileService
    rw [if_neg Bool.noConfusion, if_neg (not_not.mpr hports)]
    have hsame₁ : Objects.SameBut (S := schema) .service c.key (stocked c) ((stocked c).cleared .service c.key) :=
      Objects.sameBut_cleared
    have hsame₂ : Objects.SameBut (S := schema) .service c.headlessKey ((stocked c).cleared .service c.key)
        (((stocked c).cleared .service c.key).cleared .service c.headlessKey) := Objects.sameBut_cleared
    have hsame₃ : Objects.SameBut (S := schema) .destinationRule c.key
        (((stocked c).cleared .service c.key).cleared .service c.headlessKey)
        ((((stocked c).cleared .service c.key).cleared .service c.headlessKey).cleared .destinationRule c.key) :=
      Objects.sameBut_cleared
    refine Objects.returns_bind.mpr (Objects.returns_deleteLoaded.mpr ?_)
    rw [← hsame₁ .service c.headlessKey fun h => headlessKey_ne h.2]
    refine Objects.returns_bind.mpr (Objects.returns_deleteLoaded.mpr ?_)
    rw [← hsame₁ .destinationRule c.key fun h => Kind.noConfusion h.1,
      ← hsame₂ .destinationRule c.key fun h => Kind.noConfusion h.1]
    refine Objects.returns_bind.mpr (Objects.returns_deleteLoaded.mpr ?_)
    refine Objects.returns_bind.mpr (returns_loadService_iff.mpr (Calls.returns_done.mpr ?_))
    rw [hsame₃ .service c.headlessKey fun h => Kind.noConfusion h.1]
    exact Objects.get_cleared
  obtain ⟨_, t, hrun, hgone⟩ := serviceRun_of_returns hreturns
  refine ⟨_, t, hrun, ?_⟩
  rw [hgone, hv]
  exact (Option.some_ne_none v).symm

theorem servicePorts_ne_nil (hports : c.spec.ports ≠ []) : c.servicePorts ≠ [] :=
  fun h => hports (List.map_eq_nil_iff.mp h)

/-- A component with ports writes the headless service it asks for. -/
theorem writes_headless_of_asks (hports : c.spec.ports ≠ []) (hasks : c.spec.asksForHeadless = true) :
    WritesService c c.headlessKey := by
  obtain ⟨t, hrun, _, hheadless⟩ := run_stocked hports
  obtain ⟨v, hv, hbare⟩ := stocked_headless (c := c)
  refine ⟨_, t, hrun, fun hsame => ?_⟩
  have hobj := hheadless hasks
  rw [State.objAt, hsame, hv] at hobj
  exact servicePorts_ne_nil hports ((Option.some.inj hobj).symm.trans hbare)

/-- **What a component writes**, in some run. -/
theorem writesService_iff : WritesService c key ↔ c.MayWrite key := by
  constructor
  · exact mayWrite_of_writes
  · intro h
    rcases h with rfl | ⟨rfl, hports⟩
    · exact writes_own
    · by_cases hnil : c.spec.ports = []
      · exact writes_headless_of_nil hnil
      · rcases hports with hports | hasks
        · exact absurd hports hnil
        · exact writes_headless_of_asks hnil hasks

/-! ## 6. Services of their own -/

/-- **Every component gets its own valid service**: what a run stores has valid ports, no service is written for two
    components, and the form accepts the ports that are valid. -/
structure OwnServices (components : Set Component) : Prop where
  valid : ∀ c ∈ components, ∀ s t, ServiceRun c s t → ∀ key v, t.get .service key = some v →
    s.get .service key = some v ∨ ValidPorts (Service.ports v.obj)
  apart : ∀ c ∈ components, ∀ d ∈ components, c.name ≠ d.name → ∀ key,
    ¬ (WritesService c key ∧ WritesService d key)
  form : ∀ c ∈ components, formAccepts c.spec.ports ↔ ValidPorts c.servicePorts

/-- No number has one transport protocol twice. -/
def DistinctTransports (components : Set Component) : Prop :=
  ∀ c ∈ components, (c.spec.ports.map Port.transport).Nodup

/-- No component has the headless name of another one that writes the service of this name. -/
def DistinctNames (components : Set Component) : Prop :=
  ∀ c ∈ components, ∀ d ∈ components, c.spec.ports = [] ∨ c.spec.asksForHeadless = true →
    d.name ≠ getNameForHeadlessService c.name

variable {components : Set Component} {ns : Str}

theorem validPorts_of_run (hc : (c.spec.ports.map Port.transport).Nodup) (hrun : ServiceRun c s t)
    {v : Stored .service} (hv : t.get .service key = some v) :
    s.get .service key = some v ∨ ValidPorts (Service.ports v.obj) := by
  rcases serviceRun_frame hrun key with hsame | ⟨_, hports⟩
  · exact Or.inl (hsame ▸ hv)
  · right
    rw [hports v hv]
    exact validPorts_iff.mpr hc

/-- What a run stores shows whether the ports are valid. -/
theorem nodup_of_valid (h : ∀ s t, ServiceRun c s t → ∀ key v, t.get .service key = some v →
    s.get .service key = some v ∨ ValidPorts (Service.ports v.obj)) : (c.spec.ports.map Port.transport).Nodup := by
  by_cases hports : c.spec.ports = []
  · rw [hports]
    exact List.nodup_nil
  · obtain ⟨t, hrun, hservice, _⟩ := run_stocked hports
    obtain ⟨v, hv, hbare⟩ := stocked_service (c := c)
    rw [State.objAt, Option.map_map] at hservice
    obtain ⟨w, hw, hwritten⟩ := Option.map_eq_some_iff.mp hservice
    have hwritten : Service.ports w.obj = c.servicePorts := hwritten
    rcases h _ t hrun c.key w hw with hsame | hvalid
    · obtain rfl := Option.some.inj (hv.symm.trans hsame)
      exact absurd (hwritten.symm.trans hbare) (servicePorts_ne_nil hports)
    · rw [hwritten] at hvalid
      exact validPorts_iff.mp hvalid

theorem headlessName_ne (name : Str) : getNameForHeadlessService name ≠ name := by
  intro h
  have hnil := List.append_right_eq_self.mp h
  exact absurd hnil (by decide)

/-- A service that two components may write is the headless service of one and the service of the other. -/
theorem shared_cases (hname : c.name ≠ d.name) (hcw : c.MayWrite key) (hdw : d.MayWrite key) :
    (d.name = getNameForHeadlessService c.name ∧ (c.spec.ports = [] ∨ c.spec.asksForHeadless = true)) ∨
      (c.name = getNameForHeadlessService d.name ∧ (d.spec.ports = [] ∨ d.spec.asksForHeadless = true)) := by
  rcases hcw with rfl | ⟨rfl, hcw⟩
  · rcases hdw with hsame | ⟨hsame, hdw⟩
    · exact absurd (congrArg Prod.snd hsame) hname
    · exact Or.inr ⟨congrArg Prod.snd hsame, hdw⟩
  · rcases hdw with hsame | ⟨hsame, _⟩
    · exact Or.inl ⟨(congrArg Prod.snd hsame).symm, hcw⟩
    · exact absurd (List.append_cancel_right (congrArg Prod.snd hsame)) hname

/-- **The services are valid, and each belongs to one component**, exactly when no component listens on a number
    twice with one transport protocol and no name is the headless name of another component. -/
theorem ownServices_iff (hns : ∀ c ∈ components, c.ns = ns) :
    OwnServices components ↔ DistinctTransports components ∧ DistinctNames components := by
  constructor
  · intro h
    refine ⟨fun c hc => nodup_of_valid (h.valid c hc), ?_⟩
    intro c hc d hd hwrites heq
    have hne : c.name ≠ d.name := fun hname => headlessName_ne c.name (heq.symm.trans hname.symm)
    have hkey : c.headlessKey = d.key := Prod.ext ((hns c hc).trans (hns d hd).symm) heq.symm
    exact h.apart c hc d hd hne d.key
      ⟨writesService_iff.mpr (Or.inr ⟨hkey.symm, hwrites⟩), writesService_iff.mpr (Or.inl rfl)⟩
  · intro h
    obtain ⟨htransports, hnames⟩ := h
    refine ⟨fun c hc s t hrun key v hv => validPorts_of_run (htransports c hc) hrun hv, ?_, fun c hc => ?_⟩
    · intro c hc d hd hne key hboth
      obtain ⟨hcw, hdw⟩ := hboth
      rcases shared_cases hne (mayWrite_of_writes hcw) (mayWrite_of_writes hdw) with
        ⟨heq, hwrites⟩ | ⟨heq, hwrites⟩
      · exact hnames c hc d hd hwrites heq
      · exact hnames d hd c hc hwrites heq
    · exact iff_of_true (formAccepts_of_nodup (htransports c hc)) (validPorts_iff.mpr (htransports c hc))

/-- Another component. -/
def apiComponent : Component := { webComponent with name := str "api" }

/-- Two components with services of their own. -/
theorem ownServices_shop : OwnServices {webComponent, apiComponent} := by
  have hns : ∀ c ∈ ({webComponent, apiComponent} : Set Component), c.ns = str "shop" := by
    intro c hc
    rcases hc with rfl | rfl
    · rfl
    · rfl
  refine (ownServices_iff hns).mpr ⟨?_, ?_⟩
  · intro c hc
    rcases hc with rfl | rfl
    · decide
    · decide
  · intro c hc d hd _
    rcases hc with rfl | rfl <;> rcases hd with rfl | rfl <;> decide

/-- A component that serves HTTP and gRPC on one number. -/
def mixedComponent : Component :=
  { webComponent with
    spec := { webComponent.spec with replicas := some 1, ports := [⟨8080, 80, .http⟩, ⟨9090, 80, .grpc⟩] } }

/-- **Its service is not valid**: both ports are TCP ports. -/
theorem ownServices_fails :
    ¬ ∀ (checks : ComponentSpec → List KalmValidateError) (components : Set Component) (ns : Str),
      (∀ c ∈ components, c.ns = ns ∧ Accepted checks c) → OwnServices components := by
  intro hall
  have haccepted : Accepted (fun _ => []) mixedComponent := by
    refine ⟨by decide, ?_, rfl, rfl⟩
    intro port hport
    rcases List.mem_cons.mp hport with rfl | hport
    · exact ⟨by decide, by decide, by decide⟩
    · obtain rfl := List.mem_singleton.mp hport
      exact ⟨by decide, by decide, by decide⟩
  have hown := hall (fun _ => []) {mixedComponent} (str "shop") fun c hc => by
    obtain rfl := hc
    exact ⟨rfl, haccepted⟩
  have hnodup := nodup_of_valid (hown.valid mixedComponent rfl)
  exact absurd hnodup (by decide)

end Kalm.Controller
