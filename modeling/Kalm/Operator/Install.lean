/-
  File:      Kalm/Operator/Install.lean
  Subject:   WHAT THE OPERATOR INSTALLS: `Reconcile` and `reconcileResources` of
             operator/controllers/kalmoperatorconfig_controller.go, over every way in which their calls are answered.

  * `ConfigSpec`, `Part` -- what is chosen, and what Kalm is made of; `expected`, `updated` -- what is written;
  * `reconcile` -- the dependencies, whether these are ready, and then Kalm;
  * `gated` -- Kalm is touched only behind the one config that asks for it, and behind a check of every dependency;
  * `complete` -- a reconcile that returns has stopped at a dependency that is not ready, or has brought everything.

  Of a deployment, a component and a policy only what differs or is chosen is kept: the rest is constant.
-/
import Kalm.Lib.Histories
import Kalm.Lib.Tables
import Kalm.Operator.Manifests
import Kalm.Operator.Rules

namespace Kalm.Install

open Calls (Action Performed Traces Preceded Cautious)
open Manifests (Document Decode DecodeInto separateYamlBytes objectsRead AllRead)
open RecordingRules (PromConfig addRecordingRules Entries)
open Tables (setAll)

/-! ## 1. Configs and objects -/

/-- `KalmOperatorConfigSpec` -/
structure ConfigSpec where
  skipIstioInstallation : Bool
  skipCertManagerInstallation : Bool
  skipKalmControllerInstallation : Bool
  skipKalmDashboardInstallation : Bool
  kalmVersion : Str

/-- The manifests that are built in. -/
inductive Asset where
  | certManager
  | istio
  | istioControlPlane
  | kalm
  deriving DecidableEq

/-- What Kalm is made of, besides its manifest. -/
inductive Part where
  | ns
  | controller
  | dashboard
  | policy
  deriving DecidableEq

/-- The pods of the controller: its image, and what it is told of its version. -/
structure ControllerSpec where
  image : Str
  kalmVersion : Str
  deriving DecidableEq

/-- The deployment of the controller. -/
structure Controller where
  labels : Option Entries
  spec : ControllerSpec

/-- `ComponentSpec` of the dashboard, with its one port. -/
structure DashboardSpec where
  image : Str
  command : Str
  containerPort : Nat
  servicePort : Nat
  deriving DecidableEq

/-- The policy of the dashboard: which pods it is about, and the namespaces from which they are reached. -/
structure PolicySpec where
  app : Str
  sourceNamespaces : List Str
  deriving DecidableEq

/-- The object of a part; a namespace is its labels. -/
abbrev Part.Obj : Part → Type
  | .ns => Option Entries
  | .controller => Controller
  | .dashboard => DashboardSpec
  | .policy => PolicySpec

/-- `NamespaceCertManager` -/
def namespaceCertManager : Str := str "cert-manager"

/-- `NamespaceIstio` -/
def namespaceIstio : Str := str "istio-system"

/-- `KalmVersion`, or `FallbackImgVersion`. -/
def versionOf (config : ConfigSpec) : Str := if config.kalmVersion ≠ [] then config.kalmVersion else str "latest"

/-- The labels of the namespace of Kalm. -/
def namespaceLabels : List (Str × Str) :=
  [(str "control-plane", str "controller"), (str "kalm-enabled", str "true"), (str "istio-injection", str "enabled")]

/-- What is created. -/
def expected (config : ConfigSpec) : (part : Part) → part.Obj
  | .ns => some (setAll ∅ namespaceLabels)
  | .controller =>
    { labels := some (setAll ∅ [(str "control-plane", str "controller")])
      spec := ⟨str "kalmhq/kalm-controller:" ++ versionOf config, versionOf config⟩ }
  | .dashboard => ⟨str "kalmhq/kalm:" ++ versionOf config, str "./kalm-api-server", 3001, 80⟩
  | .policy => ⟨str "kalm", [namespaceIstio]⟩

/-- What is written over an object that is there. -/
def updated (config : ConfigSpec) : (part : Part) → part.Obj → part.Obj
  | .ns, labels => some (setAll (labels.getD ∅) namespaceLabels)
  | .controller, dp => { dp with spec := (expected config .controller).spec }
  | .dashboard, _ => expected config .dashboard
  | .policy, _ => expected config .policy

/-- The part is to be installed. -/
def ConfigSpec.installs (config : ConfigSpec) : Part → Bool
  | .ns => !config.skipKalmControllerInstallation
  | .controller => !config.skipKalmControllerInstallation
  | .dashboard => !config.skipKalmDashboardInstallation
  | .policy => !config.skipKalmDashboardInstallation

/-! ## 2. `Reconcile` -/

/-- The API calls. -/
inductive Call (K F L : Type) where
  | listConfigs
  | manifest (asset : Asset) (call : Manifests.Call K F L)
  | rules (call : RecordingRules.Call)
  | getDeployment (ns name : Str)
  | get (part : Part)
  | create (part : Part) (obj : part.Obj)
  | write (part : Part) (obj : part.Obj)

variable {V K F L C E : Type}

/-- Of a deployment only the number of its ready replicas is read; it is an error when there is none. -/
abbrev Answer : Call K F L → Type
  | .listConfigs => List ConfigSpec
  | .manifest _ call => Manifests.Answer call
  | .rules call => RecordingRules.Answer call
  | .getDeployment _ _ => Int
  | .get part => Option part.Obj
  | _ => Unit

/-- A program of the operator. -/
abbrev Program (K F L E α : Type) := Action (Call K F L) Answer E α

/-- What is built in: the manifests, how their documents and texts are decoded, the rules, and the error of more than
    one config. -/
structure Builtin (V K F L C E : Type) where
  documents : Asset → List (Document V)
  decodeInto : DecodeInto V
  decode : Decode V K F L E
  prom : PromConfig C
  rules : Str
  moreThanOne : E

/-- `checkIfDPReady` -/
def checkIfDPReady (ns : Str) : List Str → Program K F L E Bool
  | [] => .done true
  | dpName :: dpNames => .call (.getDeployment ns dpName) fun
    | .error _ => .done false
    | .ok readyReplicas => if readyReplicas < 1 then .done false else checkIfDPReady ns dpNames

/-- The deployments of cert-manager. -/
def certManagerNames : List Str := [str "cert-manager", str "cert-manager-cainjector", str "cert-manager-webhook"]

/-- The deployments of istio. -/
def istioNames : List Str := [str "istiod", str "istio-ingressgateway", str "prometheus"]

/-- `isCertManagerReady` -/
def isCertManagerReady : Program K F L E Bool := checkIfDPReady namespaceCertManager certManagerNames

/-- `isIstioReady` -/
def isIstioReady : Program K F L E Bool := checkIfDPReady namespaceIstio istioNames

/-- The check of `reconcileResources`: istio is asked for first. -/
def dependenciesReady (config : ConfigSpec) : Program K F L E Bool :=
  match config.skipCertManagerInstallation, config.skipIstioInstallation with
  | false, false => isIstioReady >>= fun ready => if ready then isCertManagerReady else .done false
  | false, true => isCertManagerReady
  | true, false => isIstioReady
  | true, true => .done true

/-- A part is created, or written over what is there. -/
def bring (config : ConfigSpec) (part : Part) : Program K F L E Unit :=
  Action.invoke (.get part) >>= fun (found : Option part.Obj) =>
    match found with
    | none => Action.invoke (Call.create part (expected config part))
    | some obj => Action.invoke (Call.write part (updated config part obj))

section Programs

variable (builtin : Builtin V K F L C E) (now : Nat)

/-- `applyFromYaml` of a manifest. -/
def applyAsset (asset : Asset) : Program K F L E Unit :=
  (Manifests.applyFromYaml builtin.decodeInto builtin.decode (builtin.documents asset)).via (.manifest asset)

/-- The dependencies, unless they are skipped. -/
def bringDependencies (config : ConfigSpec) : Program K F L E Unit :=
  (if config.skipCertManagerInstallation then .done () else applyAsset builtin .certManager) >>= fun _ =>
    if config.skipIstioInstallation then .done ()
    else applyAsset builtin .istio >>= fun _ => applyAsset builtin .istioControlPlane >>= fun _ =>
      (addRecordingRules builtin.prom builtin.rules now).via .rules

/-- Kalm itself, unless it is skipped. -/
def bringKalm (config : ConfigSpec) : Program K F L E Unit :=
  (if config.skipKalmControllerInstallation then .done ()
    else applyAsset builtin .kalm >>= fun _ => bring config .ns >>= fun _ => bring config .controller) >>= fun _ =>
      if config.skipKalmDashboardInstallation then .done ()
      else bring config .dashboard >>= fun _ => bring config .policy

/-- `reconcileResources` -/
def reconcileResources (config : ConfigSpec) : Program K F L E Unit :=
  bringDependencies builtin now config >>= fun _ =>
    dependenciesReady config >>= fun ready => if ready then bringKalm builtin config else .done ()

/-- `Reconcile`: with no config nothing is done, and more than one are an error. -/
def reconcile : Program K F L E Unit :=
  Action.invoke .listConfigs >>= fun (items : List ConfigSpec) =>
    match items with
    | [] => .done ()
    | [config] => reconcileResources builtin now config
    | _ => .fail builtin.moreThanOne

end Programs

/-! ## 3. What a call has before it -/

/-- A call with its answer. -/
abbrev Done (K F L E : Type) := Performed (Call K F L) Answer E

/-- There is one config, and it has the property. -/
def Chosen (h : List (Done K F L E)) (Q : ConfigSpec → Prop) : Prop :=
  ∃ config, (⟨.listConfigs, .ok [config]⟩ : Done K F L E) ∈ h ∧ Q config

/-- A deployment was reported ready. -/
def ReportedReady (h : List (Done K F L E)) (ns name : Str) : Prop :=
  ∃ readyReplicas : Int, 1 ≤ readyReplicas ∧ (⟨.getDeployment ns name, .ok readyReplicas⟩ : Done K F L E) ∈ h

/-- **Every dependency that is not skipped was reported ready.** -/
structure DependenciesReady (h : List (Done K F L E)) (config : ConfigSpec) : Prop where
  certManager : config.skipCertManagerInstallation = false →
    ∀ name ∈ certManagerNames, ReportedReady h namespaceCertManager name
  istio : config.skipIstioInstallation = false → ∀ name ∈ istioNames, ReportedReady h namespaceIstio name

/-- The namespace is that of a dependency which is not skipped. -/
def ConfigSpec.depends (config : ConfigSpec) (ns : Str) : Prop :=
  (ns = namespaceCertManager ∧ config.skipCertManagerInstallation = false) ∨
    (ns = namespaceIstio ∧ config.skipIstioInstallation = false)

/-- The config asks for the part, and the dependencies are ready. -/
def MayBring (h : List (Done K F L E)) (part : Part) : Prop :=
  Chosen h fun config => config.installs part = true ∧ DependenciesReady h config

/-- **What stands before a call**: the one config, that it asks for what is called, and before a part of Kalm the checks
    of the dependencies. -/
def Permitted (before : List (Done K F L E)) (x : Done K F L E) : Prop :=
  match x.1 with
  | .listConfigs => True
  | .manifest .certManager _ => Chosen before fun config => config.skipCertManagerInstallation = false
  | .manifest .istio _ => Chosen before fun config => config.skipIstioInstallation = false
  | .manifest .istioControlPlane _ => Chosen before fun config => config.skipIstioInstallation = false
  | .rules _ => Chosen before fun config => config.skipIstioInstallation = false
  | .getDeployment ns _ => Chosen before fun config => config.depends ns
  | .manifest .kalm _ => MayBring before .controller
  | .get part => MayBring before part
  | .create part _ => MayBring before part
  | .write part _ => MayBring before part

variable {builtin : Builtin V K F L C E} {now : Nat} {config : ConfigSpec} {h before : List (Done K F L E)}
  {x : Done K F L E} {asset : Asset} {part : Part}

theorem Chosen.mono {Q R : ConfigSpec → Prop} (hchosen : Chosen h Q) (hsub : h ⊆ before)
    (hQR : ∀ config, Q config → R config) : Chosen before R := by
  obtain ⟨config, hmem, hQ⟩ := hchosen
  exact ⟨config, hsub hmem, hQR config hQ⟩

theorem ReportedReady.mono {ns name : Str} (hready : ReportedReady h ns name) (hsub : h ⊆ before) :
    ReportedReady before ns name := by
  obtain ⟨readyReplicas, hle, hmem⟩ := hready
  exact ⟨readyReplicas, hle, hsub hmem⟩

theorem DependenciesReady.mono (hready : DependenciesReady h config) (hsub : h ⊆ before) :
    DependenciesReady before config :=
  ⟨fun hskip name hname => (hready.certManager hskip name hname).mono hsub,
    fun hskip name hname => (hready.istio hskip name hname).mono hsub⟩

theorem MayBring.mono (hbring : MayBring h part) (hsub : h ⊆ before) : MayBring before part :=
  Chosen.mono hbring hsub fun _ hconfig => ⟨hconfig.1, hconfig.2.mono hsub⟩

/-- What may stand behind some calls may stand behind more. -/
theorem Permitted.mono (hper : Permitted h x) (hsub : h ⊆ before) : Permitted before x := by
  obtain ⟨c, r⟩ := x
  cases c with
  | listConfigs => trivial
  | rules call => exact Chosen.mono hper hsub fun _ => id
  | getDeployment ns name => exact Chosen.mono hper hsub fun _ => id
  | get part => exact MayBring.mono hper hsub
  | create part obj => exact MayBring.mono hper hsub
  | write part obj => exact MayBring.mono hper hsub
  | manifest asset call =>
      cases asset with
      | certManager => exact Chosen.mono hper hsub fun _ => id
      | istio => exact Chosen.mono hper hsub fun _ => id
      | istioControlPlane => exact Chosen.mono hper hsub fun _ => id
      | kalm => exact MayBring.mono hper hsub

/-- A part of the program all of whose calls may stand there. -/
theorem cautious_of_permitted {α : Type} {p : Program K F L E α} {A : Call K F L → Prop} (hp : Calls.Uses A p)
    (hA : ∀ c r, A c → Permitted before ⟨c, r⟩) : Cautious Permitted before p :=
  Calls.cautious_of_uses hp fun c r _ hc => (hA c r hc).mono (List.subset_append_left _ _)

theorem cautious_applyAsset (hper : ∀ call r, Permitted before ⟨.manifest asset call, r⟩) :
    Cautious Permitted before (applyAsset builtin asset) := by
  refine cautious_of_permitted (A := fun c => ∃ call, c = .manifest asset call)
    (Calls.uses_via (fun call => ⟨call, rfl⟩) _) ?_
  rintro _ r ⟨call, rfl⟩
  exact hper call r

theorem cautious_bring (hbring : MayBring before part) : Cautious Permitted before (bring config part) := by
  have huses : Calls.Uses (fun c => ∀ r, Permitted before ⟨c, r⟩) (bring config part : Program K F L E Unit) := by
    refine Calls.uses_bind (Calls.uses_invoke fun _ => hbring) fun found => ?_
    cases found with
    | none => exact Calls.uses_invoke fun _ => hbring
    | some obj => exact Calls.uses_invoke fun _ => hbring
  exact cautious_of_permitted huses fun c r hc => hc r

/-! ## 4. Checks -/

theorem uses_checkIfDPReady (ns : Str) (names : List Str) :
    Calls.Uses (fun c => ∃ name, c = .getDeployment ns name) (checkIfDPReady ns names : Program K F L E Bool) := by
  induction names with
  | nil => trivial
  | cons name names ih =>
      refine ⟨⟨name, rfl⟩, fun r => ?_⟩
      cases r with
      | error e => trivial
      | ok readyReplicas =>
          dsimp only
          split
          · trivial
          · exact ih

/-- **A check that succeeds** was told of each deployment that it is ready. -/
theorem reportedReady_of_check {ns : Str} {names : List Str}
    (ht : Traces (checkIfDPReady ns names) h (.returned true)) : ∀ name ∈ names, ReportedReady h ns name := by
  induction names generalizing h with
  | nil => exact fun _ hname => absurd hname List.not_mem_nil
  | cons name names ih =>
      obtain ⟨r, rest, rfl, hrest⟩ := ht
      cases r with
      | error e => cases hrest.2
      | ok readyReplicas =>
          dsimp only at hrest
          split at hrest
          · cases hrest.2
          · rename_i hready
            refine List.forall_mem_cons.mpr ⟨⟨readyReplicas, Int.not_lt.mp hready, List.mem_cons_self⟩, ?_⟩
            exact fun name' hname' => (ih hrest name' hname').mono (List.subset_cons_self _ _)

/-- **A check that fails** ends with a deployment that is not ready, or not there. -/
theorem stopped_of_check {ns : Str} {names : List Str} (ht : Traces (checkIfDPReady ns names) h (.returned false)) :
    ∃ front name r, h = front ++ [(⟨.getDeployment ns name, r⟩ : Done K F L E)] ∧ name ∈ names ∧
      ∀ readyReplicas : Int, r = .ok readyReplicas → readyReplicas < 1 := by
  induction names generalizing h with
  | nil => cases ht.2
  | cons name names ih =>
      obtain ⟨r, rest, rfl, hrest⟩ := ht
      cases r with
      | error e =>
          obtain ⟨rfl, _⟩ := hrest
          exact ⟨[], name, .error e, rfl, List.mem_cons_self, nofun⟩
      | ok readyReplicas =>
          dsimp only at hrest
          split at hrest
          · rename_i hless
            obtain ⟨rfl, _⟩ := hrest
            refine ⟨[], name, .ok readyReplicas, rfl, List.mem_cons_self, fun n hn => ?_⟩
            cases hn
            exact hless
          · obtain ⟨front, name', r', rfl, hname', hr'⟩ := ih hrest
            exact ⟨_ :: front, name', r', rfl, List.mem_cons_of_mem _ hname', hr'⟩

/-- A history ends with a deployment that is not ready, or not there. -/
def StopsNotReady (h : List (Done K F L E)) : Prop :=
  ∃ front ns name r, h = front ++ [(⟨.getDeployment ns name, r⟩ : Done K F L E)] ∧
    ∀ readyReplicas : Int, r = .ok readyReplicas → readyReplicas < 1

theorem StopsNotReady.behind (hstops : StopsNotReady h) (front : List (Done K F L E)) : StopsNotReady (front ++ h) := by
  obtain ⟨front', ns, name, r, rfl, hr⟩ := hstops
  exact ⟨front ++ front', ns, name, r, (List.append_assoc _ _ _).symm, hr⟩

/-- Only deployments of dependencies that are not skipped are asked for. -/
theorem uses_dependenciesReady (config : ConfigSpec) :
    Calls.Uses (fun c => ∃ ns name, c = .getDeployment ns name ∧ config.depends ns)
      (dependenciesReady config : Program K F L E Bool) := by
  have hcheck {ns : Str} (names : List Str) (hns : config.depends ns) :
      Calls.Uses (fun c => ∃ ns name, c = .getDeployment ns name ∧ config.depends ns)
        (checkIfDPReady ns names : Program K F L E Bool) :=
    (uses_checkIfDPReady ns names).mono fun c ⟨name, hname⟩ => ⟨ns, name, hname, hns⟩
  unfold dependenciesReady
  split
  · rename_i hcert histio
    refine Calls.uses_bind (hcheck _ (Or.inr ⟨rfl, histio⟩)) fun ready => ?_
    cases ready with
    | true => exact hcheck _ (Or.inl ⟨rfl, hcert⟩)
    | false => trivial
  · rename_i hcert histio
    exact hcheck _ (Or.inl ⟨rfl, hcert⟩)
  · rename_i hcert histio
    exact hcheck _ (Or.inr ⟨rfl, histio⟩)
  · trivial

/-- **The check of the dependencies** succeeds when each is reported ready, and stops at one that is not. -/
theorem dependenciesReady_spec {ready : Bool} (ht : Traces (dependenciesReady config) h (.returned ready)) :
    (ready = true ∧ DependenciesReady h config) ∨ (ready = false ∧ StopsNotReady h) := by
  have hcheck {ns : Str} {names : List Str} {h : List (Done K F L E)} {ready : Bool}
      (ht : Traces (checkIfDPReady ns names) h (.returned ready)) :
      (ready = true ∧ ∀ name ∈ names, ReportedReady h ns name) ∨ (ready = false ∧ StopsNotReady h) := by
    cases ready with
    | true => exact Or.inl ⟨rfl, reportedReady_of_check ht⟩
    | false =>
        obtain ⟨front, name, r, heq, _, hr⟩ := stopped_of_check ht
        exact Or.inr ⟨rfl, front, ns, name, r, heq, hr⟩
  unfold dependenciesReady at ht
  split at ht
  · rename_i hcert histio
    obtain ⟨istioReady, h₁, h₂, rfl, hfirst, hsecond⟩ := Calls.traces_bind_returned.mp ht
    rcases hcheck hfirst with ⟨rfl, hready⟩ | ⟨rfl, hstops⟩
    · rw [if_pos rfl] at hsecond
      refine (hcheck hsecond).imp (fun ⟨htrue, hready'⟩ => ⟨htrue, fun _ name hname => ?_, fun _ name hname => ?_⟩)
        fun ⟨hfalse, hstops⟩ => ⟨hfalse, hstops.behind h₁⟩
      · exact (hready' name hname).mono (List.subset_append_right _ _)
      · exact (hready name hname).mono (List.subset_append_left _ _)
    · rw [if_neg Bool.false_ne_true] at hsecond
      obtain ⟨rfl, ho⟩ := hsecond
      cases ho
      rw [List.append_nil]
      exact Or.inr ⟨rfl, hstops⟩
  · rename_i hcert histio
    refine (hcheck ht).imp_left fun ⟨htrue, hready⟩ => ⟨htrue, fun _ => hready, fun hskip => ?_⟩
    cases hskip.symm.trans histio
  · rename_i hcert histio
    refine (hcheck ht).imp_left fun ⟨htrue, hready⟩ => ⟨htrue, fun hskip => ?_, fun _ => hready⟩
    cases hskip.symm.trans hcert
  · rename_i hcert histio
    obtain ⟨rfl, ho⟩ := ht
    cases ho
    refine Or.inl ⟨rfl, fun hskip => ?_, fun hskip => ?_⟩
    · cases hskip.symm.trans hcert
    · cases hskip.symm.trans histio

/-! ## 5. What comes before Kalm -/

theorem cautious_bringDependencies (hconfig : (⟨.listConfigs, .ok [config]⟩ : Done K F L E) ∈ before) :
    Cautious Permitted before (bringDependencies builtin now config) := by
  refine Calls.cautious_bind ?_ fun _ h₁ _ => ?_
  · split
    · exact Calls.cautious_done _
    · rename_i hskip
      exact cautious_applyAsset fun _ _ => ⟨config, hconfig, Bool.eq_false_of_not_eq_true hskip⟩
  · split
    · exact Calls.cautious_done _
    · rename_i hskip
      have hchosen (front : List (Done K F L E)) :
          Chosen (before ++ front) fun config => config.skipIstioInstallation = false :=
        ⟨config, List.mem_append_left _ hconfig, Bool.eq_false_of_not_eq_true hskip⟩
      refine Calls.cautious_bind (cautious_applyAsset fun _ _ => hchosen h₁) fun _ h₂ _ => ?_
      rw [List.append_assoc]
      refine Calls.cautious_bind (cautious_applyAsset fun _ _ => hchosen _) fun _ h₃ _ => ?_
      rw [List.append_assoc]
      refine cautious_of_permitted (A := fun c => ∃ call, c = .rules call)
        (Calls.uses_via (fun call => ⟨call, rfl⟩) _) ?_
      rintro _ r ⟨call, rfl⟩
      exact hchosen _

theorem cautious_bringKalm (hconfig : (⟨.listConfigs, .ok [config]⟩ : Done K F L E) ∈ before)
    (hready : DependenciesReady before config) : Cautious Permitted before (bringKalm builtin config) := by
  have hbring {part : Part} (hinstalls : config.installs part = true) (front : List (Done K F L E)) :
      MayBring (before ++ front) part :=
    ⟨config, List.mem_append_left _ hconfig, hinstalls, hready.mono (List.subset_append_left _ _)⟩
  refine Calls.cautious_bind ?_ fun _ h₁ _ => ?_
  · split
    · exact Calls.cautious_done _
    · rename_i hskip
      have hinstalls : config.installs .controller = true := by
        rw [ConfigSpec.installs, Bool.eq_false_of_not_eq_true hskip]
        rfl
      refine Calls.cautious_bind (cautious_applyAsset fun _ _ => ?_) fun _ h₂ _ => ?_
      · exact ⟨config, hconfig, hinstalls, hready⟩
      · refine Calls.cautious_bind (cautious_bring (hbring hinstalls h₂)) fun _ h₃ _ => ?_
        rw [List.append_assoc]
        exact cautious_bring (hbring hinstalls _)
  · split
    · exact Calls.cautious_done _
    · rename_i hskip
      have hinstalls : config.installs .dashboard = true := by
        rw [ConfigSpec.installs, Bool.eq_false_of_not_eq_true hskip]
        rfl
      refine Calls.cautious_bind (cautious_bring (hbring hinstalls h₁)) fun _ h₂ _ => ?_
      rw [List.append_assoc]
      exact cautious_bring (hbring hinstalls _)

/-- **Kalm is gated**: however the calls are answered, each has before it what it has to have. -/
theorem gated (builtin : Builtin V K F L C E) (now : Nat) : Cautious Permitted [] (reconcile builtin now) := by
  refine Calls.cautious_bind (Calls.cautious_of_uses (A := fun c => c = .listConfigs) (Calls.uses_invoke rfl) ?_) ?_
  · rintro _ r _ rfl
    trivial
  · intro items h₁ ht
    obtain ⟨r, rest, rfl, hrest⟩ := ht
    cases r with
    | error e => cases hrest.2
    | ok items' =>
        obtain ⟨rfl, ho⟩ := hrest
        cases ho
        match items with
        | [] => exact Calls.cautious_done _
        | [config] =>
            have hconfig : (⟨.listConfigs, .ok [config]⟩ : Done K F L E) ∈ [] ++ [⟨.listConfigs, .ok [config]⟩] :=
              List.mem_cons_self
            refine Calls.cautious_bind (cautious_bringDependencies hconfig) fun _ h₂ _ => ?_
            refine Calls.cautious_bind ?_ fun ready h₃ hready => ?_
            · refine cautious_of_permitted (uses_dependenciesReady config) ?_
              rintro _ r ⟨ns, name, rfl, hns⟩
              exact ⟨config, List.mem_append_left _ hconfig, hns⟩
            · rcases dependenciesReady_spec hready with ⟨rfl, hdone⟩ | ⟨rfl, _⟩
              · refine cautious_bringKalm (List.mem_append_left _ (List.mem_append_left _ hconfig)) ?_
                exact hdone.mono (List.subset_append_right _ _)
              · exact Calls.cautious_done _
        | _ :: _ :: _ =>
            rintro h o ⟨rfl, _⟩
            exact Calls.preceded_nil

/-! ## 6. What a reconcile that returns has done -/

/-- Every text of a manifest was decoded, and its object created or merged. -/
def Applied (builtin : Builtin V K F L C E) (asset : Asset) (h : List (Done K F L E)) : Prop :=
  AllRead builtin.decode (separateYamlBytes builtin.decodeInto (builtin.documents asset)) ∧
    ∀ o ∈ objectsRead builtin.decode (separateYamlBytes builtin.decodeInto (builtin.documents asset)),
      ((⟨.manifest asset (.get o.1), .ok none⟩ : Done K F L E) ∈ h ∧
        (⟨.manifest asset (.create o.1 o.2), .ok ()⟩ : Done K F L E) ∈ h) ∨
      ∃ stored, (⟨.manifest asset (.get o.1), .ok (some stored)⟩ : Done K F L E) ∈ h ∧
        (⟨.manifest asset (.patch o.1 o.2), .ok ()⟩ : Done K F L E) ∈ h

/-- A part was created, or written over what was there. -/
def Brought (config : ConfigSpec) (part : Part) (h : List (Done K F L E)) : Prop :=
  ((⟨.get part, .ok none⟩ : Done K F L E) ∈ h ∧
    (⟨.create part (expected config part), .ok ()⟩ : Done K F L E) ∈ h) ∨
  ∃ obj, (⟨.get part, .ok (some obj)⟩ : Done K F L E) ∈ h ∧
    (⟨.write part (updated config part obj), .ok ()⟩ : Done K F L E) ∈ h

/-- **Kalm was brought**, as far as it is asked for. -/
structure KalmBrought (builtin : Builtin V K F L C E) (config : ConfigSpec) (h : List (Done K F L E)) : Prop where
  manifest : config.skipKalmControllerInstallation = false → Applied builtin .kalm h
  parts : ∀ part, config.installs part = true → Brought config part h

/-- **A reconcile is complete**: the dependencies that are asked for were applied; and it stopped at one that is not
    ready, or Kalm was brought. -/
structure Complete (builtin : Builtin V K F L C E) (config : ConfigSpec) (h : List (Done K F L E)) : Prop where
  certManager : config.skipCertManagerInstallation = false → Applied builtin .certManager h
  istio : config.skipIstioInstallation = false → Applied builtin .istio h ∧ Applied builtin .istioControlPlane h
  kalm : StopsNotReady h ∨ KalmBrought builtin config h

theorem Applied.mono (happlied : Applied builtin asset h) (hsub : h ⊆ before) : Applied builtin asset before := by
  refine ⟨happlied.1, fun o ho => (happlied.2 o ho).imp (fun ⟨hget, hcreate⟩ => ⟨hsub hget, hsub hcreate⟩) ?_⟩
  exact fun ⟨stored, hget, hpatch⟩ => ⟨stored, hsub hget, hsub hpatch⟩

theorem Brought.mono (hbrought : Brought config part h) (hsub : h ⊆ before) : Brought config part before :=
  hbrought.imp (fun ⟨hget, hcreate⟩ => ⟨hsub hget, hsub hcreate⟩) fun ⟨obj, hget, hwrite⟩ =>
    ⟨obj, hsub hget, hsub hwrite⟩

theorem KalmBrought.mono (hkalm : KalmBrought builtin config h) (hsub : h ⊆ before) :
    KalmBrought builtin config before :=
  ⟨fun hskip => (hkalm.manifest hskip).mono hsub, fun part hpart => (hkalm.parts part hpart).mono hsub⟩

theorem applied_of_traces (ht : Traces (applyAsset builtin asset) h (.returned ())) : Applied builtin asset h := by
  obtain ⟨h', ht', rfl⟩ := Calls.traces_via ht
  obtain ⟨hall, hsent⟩ := Manifests.sent_of_applyTexts ht'
  have hmem {x : Performed (Manifests.Call K F L) Manifests.Answer E} (hx : x ∈ h') :
      (⟨.manifest asset x.1, x.2⟩ : Done K F L E) ∈ h'.map fun x => ⟨.manifest asset x.1, x.2⟩ :=
    List.mem_map_of_mem hx
  refine ⟨hall, fun o ho => (hsent o ho).imp (fun ⟨hget, hcreate⟩ => ⟨hmem hget, hmem hcreate⟩) ?_⟩
  exact fun ⟨stored, hget, hpatch⟩ => ⟨stored, hmem hget, hmem hpatch⟩

theorem brought_of_traces (ht : Traces (bring config part) h (.returned ())) : Brought config part h := by
  obtain ⟨found, rest, rfl, hwrite⟩ := Calls.traces_invoke_returned.mp ht
  cases found with
  | none =>
      obtain rfl := Calls.traces_last.mp hwrite
      exact Or.inl ⟨List.mem_cons_self, List.mem_cons_of_mem _ List.mem_cons_self⟩
  | some obj =>
      obtain rfl := Calls.traces_last.mp hwrite
      exact Or.inr ⟨obj, List.mem_cons_self, List.mem_cons_of_mem _ List.mem_cons_self⟩

theorem applied_of_bringDependencies (ht : Traces (bringDependencies builtin now config) h (.returned ())) :
    (config.skipCertManagerInstallation = false → Applied builtin .certManager h) ∧
      (config.skipIstioInstallation = false → Applied builtin .istio h ∧ Applied builtin .istioControlPlane h) := by
  obtain ⟨_, h₁, h₂, rfl, hcert, hrest⟩ := Calls.traces_bind_returned.mp ht
  constructor
  · intro hskip
    rw [hskip, if_neg Bool.false_ne_true] at hcert
    exact (applied_of_traces hcert).mono (List.subset_append_left _ _)
  · intro hskip
    rw [hskip, if_neg Bool.false_ne_true] at hrest
    obtain ⟨_, h₃, h₄, rfl, histio, hrest⟩ := Calls.traces_bind_returned.mp hrest
    obtain ⟨_, h₅, h₆, rfl, hplane, _⟩ := Calls.traces_bind_returned.mp hrest
    refine ⟨(applied_of_traces histio).mono ?_, (applied_of_traces hplane).mono ?_⟩
    · exact fun _ hx => List.mem_append_right _ (List.mem_append_left _ hx)
    · exact fun _ hx => List.mem_append_right _ (List.mem_append_right _ (List.mem_append_left _ hx))

theorem brought_of_bringKalm (ht : Traces (bringKalm builtin config) h (.returned ())) :
    KalmBrought builtin config h := by
  obtain ⟨_, h₁, h₂, rfl, hcontroller, hdashboard⟩ := Calls.traces_bind_returned.mp ht
  have hfirst (hskip : config.skipKalmControllerInstallation = false) :
      Applied builtin .kalm h₁ ∧ Brought config .ns h₁ ∧ Brought config .controller h₁ := by
    rw [hskip, if_neg Bool.false_ne_true] at hcontroller
    obtain ⟨_, h₃, h₄, rfl, hkalm, hrest⟩ := Calls.traces_bind_returned.mp hcontroller
    obtain ⟨_, h₅, h₆, rfl, hns, hdp⟩ := Calls.traces_bind_returned.mp hrest
    refine ⟨(applied_of_traces hkalm).mono (List.subset_append_left _ _), (brought_of_traces hns).mono ?_,
      (brought_of_traces hdp).mono ?_⟩
    · exact fun _ hx => List.mem_append_right _ (List.mem_append_left _ hx)
    · exact fun _ hx => List.mem_append_right _ (List.mem_append_right _ hx)
  have hsecond (hskip : config.skipKalmDashboardInstallation = false) :
      Brought config .dashboard h₂ ∧ Brought config .policy h₂ := by
    rw [hskip, if_neg Bool.false_ne_true] at hdashboard
    obtain ⟨_, h₃, h₄, rfl, hcomponent, hpolicy⟩ := Calls.traces_bind_returned.mp hdashboard
    exact ⟨(brought_of_traces hcomponent).mono (List.subset_append_left _ _),
      (brought_of_traces hpolicy).mono (List.subset_append_right _ _)⟩
  refine ⟨fun hskip => (hfirst hskip).1.mono (List.subset_append_left _ _), fun part hpart => ?_⟩
  have hskip {skip : Bool} (h : (!skip) = true) : skip = false := by simpa using h
  cases part with
  | ns => exact (hfirst (hskip hpart)).2.1.mono (List.subset_append_left _ _)
  | controller => exact (hfirst (hskip hpart)).2.2.mono (List.subset_append_left _ _)
  | dashboard => exact (hsecond (hskip hpart)).1.mono (List.subset_append_right _ _)
  | policy => exact (hsecond (hskip hpart)).2.mono (List.subset_append_right _ _)

/-- **A reconcile that returns is complete**, however its calls were answered. -/
theorem complete {rest : List (Done K F L E)}
    (ht : Traces (reconcile builtin now) (⟨.listConfigs, .ok [config]⟩ :: rest) (.returned ())) :
    Complete builtin config rest := by
  obtain ⟨items, calls, heq, hresources⟩ := Calls.traces_invoke_returned.mp ht
  obtain ⟨hconfig, rfl⟩ := List.cons.inj heq
  cases hconfig
  obtain ⟨_, h₃, h₄, rfl, hdependencies, hrest⟩ := Calls.traces_bind_returned.mp hresources
  obtain ⟨ready, h₅, h₆, rfl, hcheck, hkalm⟩ := Calls.traces_bind_returned.mp hrest
  obtain ⟨hcert, histio⟩ := applied_of_bringDependencies hdependencies
  have hsub : h₃ ⊆ h₃ ++ (h₅ ++ h₆) := List.subset_append_left _ _
  refine ⟨fun hskip => (hcert hskip).mono hsub, fun hskip => ?_, ?_⟩
  · exact ⟨(histio hskip).1.mono hsub, (histio hskip).2.mono hsub⟩
  · rcases dependenciesReady_spec hcheck with ⟨rfl, _⟩ | ⟨rfl, hstops⟩
    · rw [if_pos rfl] at hkalm
      exact Or.inr ((brought_of_bringKalm hkalm).mono fun _ hx =>
        List.mem_append_right _ (List.mem_append_right _ hx))
    · rw [if_neg Bool.false_ne_true] at hkalm
      obtain ⟨rfl, _⟩ := hkalm
      rw [List.append_nil]
      exact Or.inl (hstops.behind h₃)

/-- A namespace. -/
def namespaceObject : MergePatch.Json Str Str := .obj {str "kind"} fun _ => .leaf (str "Namespace")

/-- The manifest of cert-manager is one namespace, and the others are empty; a text is decoded by its name. -/
def certManagerBuiltin : Builtin Str Str Str Str (List Str) Unit where
  documents := fun
    | .certManager => [.mapping ((∅ : Manifests.Mapping Str).insert (str "name") namespaceCertManager)]
    | _ => []
  decodeInto := Manifests.plainDecode
  decode text :=
    match text.lookup (str "name") with
    | some name => .ok (name, namespaceObject)
    | none => .error ()
  prom := RecordingRules.rulesOnly
  rules := str "groups: []"
  moreThanOne := ()

/-- Cert-manager and the dashboard are asked for. -/
def dashboardConfig : ConfigSpec := ⟨true, false, true, false, str "v1"⟩

/-- The namespace of cert-manager is created, its deployments are ready, the dashboard is created, and an old policy is
    written over. -/
def dashboardCalls : List (Done Str Str Str Unit) :=
  [⟨.manifest .certManager (.get namespaceCertManager), .ok none⟩,
    ⟨.manifest .certManager (.create namespaceCertManager namespaceObject), .ok ()⟩,
    ⟨.getDeployment namespaceCertManager (str "cert-manager"), .ok 1⟩,
    ⟨.getDeployment namespaceCertManager (str "cert-manager-cainjector"), .ok 1⟩,
    ⟨.getDeployment namespaceCertManager (str "cert-manager-webhook"), .ok 2⟩,
    ⟨.get .dashboard, .ok none⟩, ⟨.create .dashboard (expected dashboardConfig .dashboard), .ok ()⟩,
    ⟨.get .policy, .ok (some ⟨str "kalm", []⟩)⟩, ⟨.write .policy (expected dashboardConfig .policy), .ok ()⟩]

theorem complete_dashboard : Complete certManagerBuiltin dashboardConfig dashboardCalls := by
  have ht : Traces (reconcile certManagerBuiltin 0) (⟨.listConfigs, .ok [dashboardConfig]⟩ :: dashboardCalls)
      (.returned ()) :=
    ⟨.ok [dashboardConfig], _, rfl, .ok none, _, rfl, .ok (), _, rfl, .ok 1, _, rfl, .ok 1, _, rfl, .ok 2, _, rfl,
      .ok none, _, rfl, .ok (), _, rfl, .ok (some ⟨str "kalm", []⟩), _, rfl, .ok (), _, rfl, rfl, rfl⟩
  exact complete ht

end Kalm.Install
