/-
  File:      Kalm/Component/Permission.lean
  Subject:   THE PERMISSIONS OF PODS: `reconcilePermission` of controller/controllers/permission.go creates a service
             account, a role and a binding for a component with a `RunnerPermission`.

  * `RunnerPermission`, `Kind`, `schema` -- the permission of a component, and the objects of the API server;
  * `reconcilePermission`, `reconcile` -- what is not found is created;
  * `Grants` -- what the bindings grant a service account, and in which scope; `Declared` -- what a permission
    declares;
  * `Granted` -- every service account is granted what its component declares;
  * `granted_iff` -- along every run from an empty cluster it is, exactly where what a component declares changes
    only in a scope whose binding the reconcile creates.
-/
import Kalm.Go.Strings
import Kalm.Lib.Runs
import Kalm.Lib.Served

namespace Kalm.Permission

open Calls (Fault)
open Objects (Filled Returns Schema State Task ensure)
open Runs (Always)

/-! ## 1. Permissions and objects -/

/-- `PolicyRule`. -/
structure PolicyRule where
  verbs : List Str
  apiGroups : List Str
  resources : List Str
  resourceNames : List Str
  nonResourceURLs : List Str
  deriving DecidableEq

/-- `RunnerPermission`. -/
structure RunnerPermission where
  roleType : Str
  rules : List PolicyRule
  deriving DecidableEq

/-- The permission is for the whole cluster. -/
def RunnerPermission.isCluster (p : RunnerPermission) : Bool := p.roleType = str "clusterRole"

/-- `Subject`. -/
structure Subject where
  kind : Str
  name : Str
  ns : Str
  deriving DecidableEq

/-- `RoleRef`. -/
structure RoleRef where
  apiGroup : Str
  kind : Str
  name : Str
  deriving DecidableEq

/-- `ServiceAccount`. -/
structure ServiceAccount where
  ns : Str
  name : Str
  deriving DecidableEq

/-- `Role`. -/
structure Role where
  ns : Str
  name : Str
  rules : List PolicyRule
  deriving DecidableEq

/-- `RoleBinding`. -/
structure RoleBinding where
  ns : Str
  name : Str
  roleRef : RoleRef
  subjects : List Subject
  deriving DecidableEq

/-- `ClusterRole`. -/
structure ClusterRole where
  name : Str
  rules : List PolicyRule
  deriving DecidableEq

/-- `ClusterRoleBinding`. -/
structure ClusterRoleBinding where
  name : Str
  roleRef : RoleRef
  subjects : List Subject
  deriving DecidableEq

/-- The kinds of objects. -/
inductive Kind where
  | serviceAccount
  | role
  | roleBinding
  | clusterRole
  | clusterRoleBinding
  deriving DecidableEq

namespace Kind

/-- The objects of a kind. -/
@[reducible] def Obj : Kind → Type
  | serviceAccount => ServiceAccount
  | role => Role
  | roleBinding => RoleBinding
  | clusterRole => ClusterRole
  | clusterRoleBinding => ClusterRoleBinding

/-- Namespace and name; the namespace is empty where the kind has none. -/
def key : (k : Kind) → k.Obj → Str × Str
  | serviceAccount, v => (v.ns, v.name)
  | role, v => (v.ns, v.name)
  | roleBinding, v => (v.ns, v.name)
  | clusterRole, v => ([], v.name)
  | clusterRoleBinding, v => ([], v.name)

instance : (k : Kind) → DecidableEq k.Obj
  | serviceAccount => inferInstanceAs (DecidableEq ServiceAccount)
  | role => inferInstanceAs (DecidableEq Role)
  | roleBinding => inferInstanceAs (DecidableEq RoleBinding)
  | clusterRole => inferInstanceAs (DecidableEq ClusterRole)
  | clusterRoleBinding => inferInstanceAs (DecidableEq ClusterRoleBinding)

end Kind

/-- The API server takes every object here: a reconcile whose object it does not take is not successful. -/
@[reducible] def schema : Schema where
  Kind := Kind
  Key := Str × Str
  Obj := Kind.Obj
  key := fun {k} obj => k.key obj
  valid := fun _ => true

/-- What is stored. -/
abbrev Cluster := State schema

/-- A program of the controller. -/
abbrev ControllerTask := Task schema

/-! ## 2. The reconcile -/

/-- `getNameForPermission`. -/
def getNameForPermission (component : Str) : Str := str "kalm-permission-" ++ component

/-- The service account of a component, as the subject of a binding. -/
def subjectOf (ns component : Str) : Subject := ⟨str "ServiceAccount", getNameForPermission component, ns⟩

/-- `rbacV1.GroupName`. -/
def groupName : Str := str "rbac.authorization.k8s.io"

/-- The service account. -/
def serviceAccount (ns component : Str) : ServiceAccount := ⟨ns, getNameForPermission component⟩

/-- `desiredClusterRole`. -/
def clusterRole (component : Str) (rules : List PolicyRule) : ClusterRole := ⟨getNameForPermission component, rules⟩

/-- `desiredCRB`. -/
def clusterRoleBinding (ns component : Str) : ClusterRoleBinding :=
  ⟨getNameForPermission component, ⟨groupName, str "ClusterRole", getNameForPermission component⟩,
    [subjectOf ns component]⟩

/-- `desiredRole`. -/
def role (ns component : Str) (rules : List PolicyRule) : Role := ⟨ns, getNameForPermission component, rules⟩

/-- `desiredRB`. -/
def roleBinding (ns component : Str) : RoleBinding :=
  ⟨ns, getNameForPermission component, ⟨groupName, str "Role", getNameForPermission component⟩,
    [subjectOf ns component]⟩

/-- `reconcilePermission`: what is found is not compared with what is desired. -/
def reconcilePermission (ns component : Str) (permission : Option RunnerPermission) : ControllerTask Unit :=
  match permission with
  | none => pure ()
  | some p => do
    ensure .serviceAccount (serviceAccount ns component)
    if p.isCluster then
      ensure .clusterRole (clusterRole component p.rules)
      ensure .clusterRoleBinding (clusterRoleBinding ns component)
    else
      ensure .role (role ns component p.rules)
      ensure .roleBinding (roleBinding ns component)

/-- The part of `ReconcileWorkload` that is about permissions: in a namespace that is not enabled it stops before. -/
def reconcile (enabled : Bool) (ns component : Str) (permission : Option RunnerPermission) : ControllerTask Unit :=
  if enabled then reconcilePermission ns component permission else pure ()

/-! ## 3. What is granted -/

/-- The rules of the role a binding refers to; `ns` is the namespace of the binding. -/
def rulesOf (s : Cluster) (ns : Str) (ref : RoleRef) : List PolicyRule :=
  if ref.kind = str "ClusterRole" then ((s.objAt .clusterRole ([], ref.name)).map ClusterRole.rules).getD []
  else ((s.objAt .role (ns, ref.name)).map Role.rules).getD []

/-- **The bindings grant a subject a rule** in a namespace, or (`none`) in the whole cluster. -/
def Grants (s : Cluster) (subject : Subject) : Option Str → PolicyRule → Prop
  | some ns, rule => ∃ name b, s.objAt .roleBinding (ns, name) = some b ∧ subject ∈ RoleBinding.subjects b ∧
      rule ∈ rulesOf s ns (RoleBinding.roleRef b)
  | none, rule => ∃ name b, s.objAt .clusterRoleBinding ([], name) = some b ∧
      subject ∈ ClusterRoleBinding.subjects b ∧ rule ∈ rulesOf s [] (ClusterRoleBinding.roleRef b)

/-- The scope of a permission. -/
def RunnerPermission.scope (p : RunnerPermission) (ns : Str) : Option Str := if p.isCluster then none else some ns

/-- What a component in a namespace declares. -/
def Declared (ns : Str) (permission : Option RunnerPermission) (scope : Option Str) (rule : PolicyRule) : Prop :=
  ∃ p, permission = some p ∧ scope = p.scope ns ∧ rule ∈ p.rules

/-! ## 4. Components and their reconciles -/

/-- The objects, and the permission of each component; `none` also where there is no component. -/
structure World where
  cluster : Cluster
  permission : Str × Str → Option RunnerPermission

/-- A component is created or changed; its reconcile fails some times, and then succeeds. -/
structure Event where
  ns : Str
  component : Str
  permission : Option RunnerPermission
  enabled : Bool
  attempts : List (List Fault)

/-- A reconcile under faults. -/
def attempt (e : Event) (s : Cluster) (faults : List Fault) : Cluster :=
  (Calls.run Objects.serve .unavailable (reconcile e.enabled e.ns e.component e.permission) faults s).2

/-- One event. -/
def step (w : World) (e : Event) : World where
  cluster := attempt e (e.attempts.foldl (attempt e) w.cluster) []
  permission := Function.update w.permission (e.ns, e.component) e.permission

/-- Nothing is there. -/
def start : World := ⟨⟨fun _ => .empty, 0⟩, fun _ => none⟩

/-- **Every service account is granted what its component declares**, and nothing else. -/
def Granted (w : World) : Prop :=
  ∀ ns component scope rule, Grants w.cluster (subjectOf ns component) scope rule ↔
    Declared ns (w.permission (ns, component)) scope rule

/-- The binding of a permission is there, of whatever namespace its subject is. -/
def Bound (s : Cluster) (ns component : Str) (p : RunnerPermission) : Bool :=
  if p.isCluster then (s.objAt .clusterRoleBinding ([], getNameForPermission component)).isSome
  else (s.objAt .roleBinding (ns, getNameForPermission component)).isSome

/-- The reconcile creates the binding for a scope. -/
def Binds (w : World) (e : Event) (scope : Option Str) : Prop :=
  e.enabled = true ∧ ∃ p, e.permission = some p ∧ scope = p.scope e.ns ∧ Bound w.cluster e.ns e.component p = false

/-- **What the component declares changes** only in a scope whose binding the reconcile creates. -/
def Meets (w : World) (e : Event) : Prop :=
  ∀ scope, ¬ Binds w e scope → ∀ rule,
    (Declared e.ns e.permission scope rule ↔ Declared e.ns (w.permission (e.ns, e.component)) scope rule)

/-! ## 5. What a reconcile leaves -/

/-- The objects a permission wants. -/
def wanted (ns component : Str) (p : RunnerPermission) : (k : Kind) → Str × Str → Option k.Obj
  | .serviceAccount, key =>
    if key = (ns, getNameForPermission component) then some (serviceAccount ns component) else none
  | .role, key =>
    if p.isCluster = false ∧ key = (ns, getNameForPermission component) then some (role ns component p.rules)
    else none
  | .roleBinding, key =>
    if p.isCluster = false ∧ key = (ns, getNameForPermission component) then some (roleBinding ns component)
    else none
  | .clusterRole, key =>
    if p.isCluster = true ∧ key = ([], getNameForPermission component) then some (clusterRole component p.rules)
    else none
  | .clusterRoleBinding, key =>
    if p.isCluster = true ∧ key = ([], getNameForPermission component) then some (clusterRoleBinding ns component)
    else none

variable {ns component : Str} {p : RunnerPermission} {s t : Cluster}

theorem uses_reconcilePermission :
    Calls.Uses (Objects.CreatesWanted (S := schema) (wanted ns component p))
      (reconcilePermission ns component (some p)) := by
  unfold reconcilePermission
  refine Calls.uses_bind (Objects.uses_ensure (if_pos rfl)) fun _ => ?_
  split
  · rename_i hcluster
    refine Calls.uses_bind (Objects.uses_ensure (if_pos ⟨hcluster, rfl⟩)) fun _ => ?_
    exact Objects.uses_ensure (if_pos ⟨hcluster, rfl⟩)
  · rename_i hcluster
    rw [Bool.not_eq_true] at hcluster
    refine Calls.uses_bind (Objects.uses_ensure (if_pos ⟨hcluster, rfl⟩)) fun _ => ?_
    exact Objects.uses_ensure (if_pos ⟨hcluster, rfl⟩)

/-- **A reconcile in which nothing fails** leaves all that is wanted. -/
theorem isSome_of_wanted {k : Kind} {key : Str × Str} {obj : k.Obj} (h : wanted ns component p k key = some obj)
    (s : Cluster) :
    ((Calls.run Objects.serve .unavailable (reconcilePermission ns component (some p)) [] s).2.get k key).isSome := by
  have hreturns : Returns (reconcilePermission ns component (some p)) s fun _ t => (t.get k key).isSome := by
    unfold reconcilePermission
    refine Objects.returns_bind.mpr ((Objects.returns_ensure rfl).mpr ?_)
    split
    · rename_i hcluster
      refine Objects.returns_bind.mpr ((Objects.returns_ensure rfl).mpr ((Objects.returns_ensure rfl).mpr ?_))
      cases k with
      | serviceAccount =>
          obtain ⟨rfl, _⟩ := Option.ite_none_right_eq_some.mp h
          exact Objects.isSome_ensured (Objects.isSome_ensured (Objects.isSome_ensured_self _ _) _) _
      | role =>
          obtain ⟨⟨hnot, _⟩, _⟩ := Option.ite_none_right_eq_some.mp h
          rw [hcluster] at hnot
          cases hnot
      | roleBinding =>
          obtain ⟨⟨hnot, _⟩, _⟩ := Option.ite_none_right_eq_some.mp h
          rw [hcluster] at hnot
          cases hnot
      | clusterRole =>
          obtain ⟨⟨_, rfl⟩, _⟩ := Option.ite_none_right_eq_some.mp h
          exact Objects.isSome_ensured (Objects.isSome_ensured_self _ _) _
      | clusterRoleBinding =>
          obtain ⟨⟨_, rfl⟩, _⟩ := Option.ite_none_right_eq_some.mp h
          exact Objects.isSome_ensured_self _ _
    · rename_i hcluster
      refine Objects.returns_bind.mpr ((Objects.returns_ensure rfl).mpr ((Objects.returns_ensure rfl).mpr ?_))
      cases k with
      | serviceAccount =>
          obtain ⟨rfl, _⟩ := Option.ite_none_right_eq_some.mp h
          exact Objects.isSome_ensured (Objects.isSome_ensured (Objects.isSome_ensured_self _ _) _) _
      | role =>
          obtain ⟨⟨_, rfl⟩, _⟩ := Option.ite_none_right_eq_some.mp h
          exact Objects.isSome_ensured (Objects.isSome_ensured_self _ _) _
      | roleBinding =>
          obtain ⟨⟨_, rfl⟩, _⟩ := Option.ite_none_right_eq_some.mp h
          exact Objects.isSome_ensured_self _ _
      | clusterRole =>
          obtain ⟨⟨hnot, _⟩, _⟩ := Option.ite_none_right_eq_some.mp h
          exact absurd hnot hcluster
      | clusterRoleBinding =>
          obtain ⟨⟨hnot, _⟩, _⟩ := Option.ite_none_right_eq_some.mp h
          exact absurd hnot hcluster
  obtain ⟨_, t, hrun, ht⟩ := hreturns
  rw [hrun]
  exact ht

/-- An event whose component declares a permission in a namespace that is enabled. -/
theorem objAt_step {w : World} {e : Event} (henabled : e.enabled = true) (hp : e.permission = some p) (k : Kind)
    (key : Str × Str) :
    (step w e).cluster.objAt k key = (w.cluster.objAt k key).or (wanted e.ns e.component p k key) := by
  have hattempt (s : Cluster) (faults : List Fault) : attempt e s faults =
      (Calls.run Objects.serve .unavailable (reconcilePermission e.ns e.component (some p)) faults s).2 := by
    unfold attempt reconcile
    rw [if_pos henabled, hp]
  have hattempts (attempts : List (List Fault)) (s : Cluster) :
      Filled (S := schema) (wanted e.ns e.component p) s (attempts.foldl (attempt e) s) := by
    induction attempts generalizing s with
    | nil => exact Filled.refl s
    | cons faults attempts ih =>
        refine Filled.trans ?_ (ih _)
        rw [hattempt]
        exact Objects.filled_of_uses uses_reconcilePermission faults s
  have hfilled : Filled (S := schema) (wanted e.ns e.component p) w.cluster (step w e).cluster := by
    refine (hattempts e.attempts w.cluster).trans ?_
    dsimp only [step]
    rw [hattempt]
    exact Objects.filled_of_uses uses_reconcilePermission [] _
  refine hfilled.objAt_eq (fun l key' obj h => ?_) k key
  dsimp only [step]
  rw [hattempt]
  exact isSome_of_wanted h _

/-- Any other event changes no object. -/
theorem cluster_step {w : World} {e : Event} (h : ¬ (e.enabled = true ∧ e.permission.isSome)) :
    (step w e).cluster = w.cluster := by
  have hattempt (s : Cluster) (faults : List Fault) : attempt e s faults = s := by
    unfold attempt reconcile
    split
    · rename_i henabled
      have hnone : e.permission = none := Option.not_isSome_iff_eq_none.mp fun hsome => h ⟨henabled, hsome⟩
      rw [hnone]
      rfl
    · rfl
  have hattempts (attempts : List (List Fault)) (s : Cluster) : attempts.foldl (attempt e) s = s := by
    induction attempts generalizing s with
    | nil => rfl
    | cons faults attempts ih => rw [List.foldl_cons, hattempt, ih]
  dsimp only [step]
  rw [hattempt, hattempts]

/-! ## 6. What is granted by what is stored -/

/-- Roles and bindings are there together, and a binding is one that a reconcile has created. -/
structure WellFormed (s : Cluster) : Prop where
  role : ∀ key, (s.objAt .role key).isSome = (s.objAt .roleBinding key).isSome
  roleBinding : ∀ ns name b, s.objAt .roleBinding (ns, name) = some b →
    ∃ component, name = getNameForPermission component ∧ b = roleBinding ns component
  clusterRole : ∀ name, (s.objAt .clusterRole ([], name)).isSome = (s.objAt .clusterRoleBinding ([], name)).isSome
  clusterRoleBinding : ∀ name b, s.objAt .clusterRoleBinding ([], name) = some b →
    ∃ ns component, name = getNameForPermission component ∧ b = clusterRoleBinding ns component

theorem getNameForPermission_injective {a b : Str} (h : getNameForPermission a = getNameForPermission b) : a = b :=
  List.append_cancel_left h

theorem subjectOf_injective {ns ns' a b : Str} (h : subjectOf ns a = subjectOf ns' b) : ns = ns' ∧ a = b := by
  have hfields := Subject.mk.inj h
  exact ⟨hfields.2.2, getNameForPermission_injective hfields.2.1⟩

theorem mem_rules_getD {R : Type} {rules : R → List PolicyRule} {o : Option R} {rule : PolicyRule} :
    rule ∈ (o.map rules).getD [] ↔ ∃ r, o = some r ∧ rule ∈ rules r := by
  cases o with
  | none =>
      constructor
      · intro h
        cases h
      · intro ⟨_, h, _⟩
        cases h
  | some r =>
      constructor
      · exact fun h => ⟨r, rfl, h⟩
      · intro ⟨_, h, hrule⟩
        rwa [Option.some.inj h]

variable {rule : PolicyRule} {m : Str}

/-- **Granted in a namespace** is what the role of the component says. -/
theorem grants_some (hs : WellFormed s) :
    Grants s (subjectOf ns component) (some m) rule ↔
      m = ns ∧ ∃ r, s.objAt .role (ns, getNameForPermission component) = some r ∧ rule ∈ Role.rules r := by
  have hrules (m component' : Str) : rule ∈ rulesOf s m (RoleBinding.roleRef (roleBinding m component')) ↔
      ∃ r, s.objAt .role (m, getNameForPermission component') = some r ∧ rule ∈ Role.rules r := by
    have hkind : ¬ (RoleBinding.roleRef (roleBinding m component')).kind = str "ClusterRole" := by
      change ¬ str "Role" = str "ClusterRole"
      decide
    rw [rulesOf, if_neg hkind]
    exact mem_rules_getD
  constructor
  · rintro ⟨name, b, hb, hsubject, hrule⟩
    obtain ⟨component', rfl, rfl⟩ := hs.roleBinding m name b hb
    obtain ⟨rfl, rfl⟩ := subjectOf_injective (List.mem_singleton.mp hsubject)
    exact ⟨rfl, (hrules ns component).mp hrule⟩
  · rintro ⟨rfl, hrole⟩
    have hbound := hs.role (m, getNameForPermission component)
    obtain ⟨r, hr, hrule⟩ := hrole
    rw [hr, Option.isSome_some] at hbound
    obtain ⟨b, hb⟩ := Option.isSome_iff_exists.mp hbound.symm
    obtain ⟨component', hname, rfl⟩ := hs.roleBinding m _ b hb
    obtain rfl := getNameForPermission_injective hname
    exact ⟨_, _, hb, List.mem_singleton.mpr rfl, (hrules m component).mpr ⟨r, hr, hrule⟩⟩

/-- **Granted in the cluster** is what the cluster role says, to the component whose binding it is. -/
theorem grants_none (hs : WellFormed s) :
    Grants s (subjectOf ns component) none rule ↔
      s.objAt .clusterRoleBinding ([], getNameForPermission component) = some (clusterRoleBinding ns component) ∧
        ∃ r, s.objAt .clusterRole ([], getNameForPermission component) = some r ∧ rule ∈ ClusterRole.rules r := by
  have hrules (ns component' : Str) :
      rule ∈ rulesOf s [] (ClusterRoleBinding.roleRef (clusterRoleBinding ns component')) ↔
        ∃ r, s.objAt .clusterRole ([], getNameForPermission component') = some r ∧ rule ∈ ClusterRole.rules r := by
    have hkind : (ClusterRoleBinding.roleRef (clusterRoleBinding ns component')).kind = str "ClusterRole" := rfl
    rw [rulesOf, if_pos hkind]
    exact mem_rules_getD
  constructor
  · rintro ⟨name, b, hb, hsubject, hrule⟩
    obtain ⟨ns', component', rfl, rfl⟩ := hs.clusterRoleBinding name b hb
    obtain ⟨rfl, rfl⟩ := subjectOf_injective (List.mem_singleton.mp hsubject)
    exact ⟨hb, (hrules ns component).mp hrule⟩
  · rintro ⟨hb, hrole⟩
    exact ⟨_, _, hb, List.mem_singleton.mpr rfl, (hrules ns component).mpr hrole⟩

/-! ## 7. One event -/

theorem isSome_wanted_role (key : Str × Str) :
    (wanted ns component p .role key).isSome = (wanted ns component p .roleBinding key).isSome := by
  dsimp only [wanted]
  split <;> rfl

theorem isSome_wanted_clusterRole (key : Str × Str) :
    (wanted ns component p .clusterRole key).isSome = (wanted ns component p .clusterRoleBinding key).isSome := by
  dsimp only [wanted]
  split <;> rfl

/-- **An event keeps roles and bindings together.** -/
theorem wellFormed_step {w : World} (hw : WellFormed w.cluster) (e : Event) : WellFormed (step w e).cluster := by
  by_cases hevent : e.enabled = true ∧ e.permission.isSome
  · obtain ⟨p, hp⟩ := Option.isSome_iff_exists.mp hevent.2
    have hobj := objAt_step (w := w) hevent.1 hp
    constructor
    · intro key
      rw [hobj, hobj, Option.isSome_or, Option.isSome_or, hw.role, isSome_wanted_role]
    · intro ns name b hb
      rw [hobj] at hb
      rcases Option.or_eq_some_iff.mp hb with hb | ⟨_, hb⟩
      · exact hw.roleBinding ns name b hb
      · obtain ⟨⟨_, hkey⟩, hbinding⟩ := Option.ite_none_right_eq_some.mp hb
        obtain ⟨rfl, rfl⟩ := Prod.mk.inj hkey
        exact ⟨e.component, rfl, (Option.some.inj hbinding).symm⟩
    · intro name
      rw [hobj, hobj, Option.isSome_or, Option.isSome_or, hw.clusterRole, isSome_wanted_clusterRole]
    · intro name b hb
      rw [hobj] at hb
      rcases Option.or_eq_some_iff.mp hb with hb | ⟨_, hb⟩
      · exact hw.clusterRoleBinding name b hb
      · obtain ⟨⟨_, hkey⟩, hbinding⟩ := Option.ite_none_right_eq_some.mp hb
        obtain ⟨_, rfl⟩ := Prod.mk.inj hkey
        exact ⟨e.ns, e.component, rfl, (Option.some.inj hbinding).symm⟩
  · rwa [cluster_step hevent]

/-- The event adds a grant. -/
def Adds (w : World) (e : Event) (ns component : Str) (scope : Option Str) (rule : PolicyRule) : Prop :=
  (ns, component) = (e.ns, e.component) ∧ Binds w e scope ∧ Declared e.ns e.permission scope rule

/-- What is added is what the permission declares in the scope it is bound in. -/
theorem adds_iff {w : World} {e : Event} (henabled : e.enabled = true) (hp : e.permission = some p)
    {scope : Option Str} : Adds w e ns component scope rule ↔
      (ns, component) = (e.ns, e.component) ∧ scope = p.scope e.ns ∧
        Bound w.cluster e.ns e.component p = false ∧ rule ∈ p.rules := by
  constructor
  · rintro ⟨hkey, ⟨_, p', hp', hscope, hbound⟩, p'', hp'', _, hrule⟩
    obtain rfl := Option.some.inj (hp.symm.trans hp')
    obtain rfl := Option.some.inj (hp.symm.trans hp'')
    exact ⟨hkey, hscope, hbound, hrule⟩
  · rintro ⟨hkey, hscope, hbound, hrule⟩
    exact ⟨hkey, ⟨henabled, p, hp, hscope, hbound⟩, p, hp, hscope, hrule⟩

/-- **A role that is added in a namespace.** -/
theorem role_added {w : World} (hw : WellFormed w.cluster) {e : Event} :
    (m = ns ∧ ∃ r, (w.cluster.objAt .role (ns, getNameForPermission component)).or
        (wanted e.ns e.component p .role (ns, getNameForPermission component)) = some r ∧ rule ∈ Role.rules r) ↔
      (m = ns ∧ ∃ r, w.cluster.objAt .role (ns, getNameForPermission component) = some r ∧ rule ∈ Role.rules r) ∨
        (ns, component) = (e.ns, e.component) ∧ some m = p.scope e.ns ∧
          Bound w.cluster e.ns e.component p = false ∧ rule ∈ p.rules := by
  constructor
  · rintro ⟨rfl, r, hr, hrule⟩
    rcases Option.or_eq_some_iff.mp hr with hr | ⟨hnone, hr⟩
    · exact Or.inl ⟨rfl, r, hr, hrule⟩
    · obtain ⟨⟨hcluster, hkey⟩, hrole⟩ := Option.ite_none_right_eq_some.mp hr
      obtain ⟨rfl, hname⟩ := Prod.mk.inj hkey
      obtain rfl := getNameForPermission_injective hname
      obtain rfl := Option.some.inj hrole
      have hnot : ¬ p.isCluster = true := by rw [hcluster]; exact Bool.false_ne_true
      refine Or.inr ⟨rfl, (if_neg hnot).symm, ?_, hrule⟩
      rw [Bound, if_neg hnot, ← hw.role, hnone]
      rfl
  · rintro (⟨rfl, r, hr, hrule⟩ | ⟨hkey, hscope, hbound, hrule⟩)
    · exact ⟨rfl, r, Option.or_eq_some_iff.mpr (Or.inl hr), hrule⟩
    · obtain ⟨rfl, rfl⟩ := Prod.mk.inj hkey
      cases hcluster : p.isCluster with
      | true =>
          rw [RunnerPermission.scope, if_pos hcluster] at hscope
          cases hscope
      | false =>
          have hnot : ¬ p.isCluster = true := by rw [hcluster]; exact Bool.false_ne_true
          rw [RunnerPermission.scope, if_neg hnot] at hscope
          rw [Bound, if_neg hnot, ← hw.role, Option.isSome_eq_false_iff, Option.isNone_iff_eq_none] at hbound
          have hadded : wanted e.ns e.component p .role (e.ns, getNameForPermission e.component) =
            some (role e.ns e.component p.rules) := if_pos ⟨hcluster, rfl⟩
          exact ⟨Option.some.inj hscope, _, Option.or_eq_some_iff.mpr (Or.inr ⟨hbound, hadded⟩), hrule⟩

/-- **A cluster role that is added**, and its binding. -/
theorem clusterRole_added {w : World} (hw : WellFormed w.cluster) {e : Event} :
    ((w.cluster.objAt .clusterRoleBinding ([], getNameForPermission component)).or
        (wanted e.ns e.component p .clusterRoleBinding ([], getNameForPermission component)) =
          some (clusterRoleBinding ns component) ∧
      ∃ r, (w.cluster.objAt .clusterRole ([], getNameForPermission component)).or
        (wanted e.ns e.component p .clusterRole ([], getNameForPermission component)) = some r ∧
          rule ∈ ClusterRole.rules r) ↔
      (w.cluster.objAt .clusterRoleBinding ([], getNameForPermission component) =
          some (clusterRoleBinding ns component) ∧
        ∃ r, w.cluster.objAt .clusterRole ([], getNameForPermission component) = some r ∧
          rule ∈ ClusterRole.rules r) ∨
        (ns, component) = (e.ns, e.component) ∧ none = p.scope e.ns ∧
          Bound w.cluster e.ns e.component p = false ∧ rule ∈ p.rules := by
  have htogether := hw.clusterRole (getNameForPermission component)
  constructor
  · rintro ⟨hb, r, hr, hrule⟩
    rcases Option.or_eq_some_iff.mp hb with hb | ⟨hnone, hb⟩
    · rcases Option.or_eq_some_iff.mp hr with hr | ⟨hnone, _⟩
      · exact Or.inl ⟨hb, r, hr, hrule⟩
      · rw [hb, hnone] at htogether
        cases htogether
    · rcases Option.or_eq_some_iff.mp hr with hr | ⟨_, hr⟩
      · rw [hr, hnone] at htogether
        cases htogether
      · obtain ⟨⟨hcluster, hkey⟩, hbinding⟩ := Option.ite_none_right_eq_some.mp hb
        obtain ⟨_, hrole⟩ := Option.ite_none_right_eq_some.mp hr
        obtain ⟨_, hname⟩ := Prod.mk.inj hkey
        obtain rfl := getNameForPermission_injective hname
        obtain rfl := Option.some.inj hrole
        have hsubjects := congrArg ClusterRoleBinding.subjects (Option.some.inj hbinding)
        obtain ⟨rfl, _⟩ := subjectOf_injective (List.singleton_inj.mp hsubjects)
        refine Or.inr ⟨rfl, (if_pos hcluster).symm, ?_, hrule⟩
        rw [Bound, if_pos hcluster, hnone]
        rfl
  · rintro (⟨hb, r, hr, hrule⟩ | ⟨hkey, hscope, hbound, hrule⟩)
    · exact ⟨Option.or_eq_some_iff.mpr (Or.inl hb), r, Option.or_eq_some_iff.mpr (Or.inl hr), hrule⟩
    · obtain ⟨rfl, rfl⟩ := Prod.mk.inj hkey
      cases hcluster : p.isCluster with
      | false =>
          rw [RunnerPermission.scope, if_neg (by rw [hcluster]; exact Bool.false_ne_true)] at hscope
          cases hscope
      | true =>
          rw [Bound, if_pos hcluster] at hbound
          rw [hbound] at htogether
          rw [Option.isSome_eq_false_iff, Option.isNone_iff_eq_none] at hbound htogether
          exact ⟨Option.or_eq_some_iff.mpr (Or.inr ⟨hbound, if_pos ⟨hcluster, rfl⟩⟩), _,
            Option.or_eq_some_iff.mpr (Or.inr ⟨htogether, if_pos ⟨hcluster, rfl⟩⟩), hrule⟩

/-- **What an event does to the grants**: it adds those of the scope whose binding it creates. -/
theorem grants_step {w : World} (hw : WellFormed w.cluster) (e : Event) (ns component : Str) (scope : Option Str)
    (rule : PolicyRule) :
    Grants (step w e).cluster (subjectOf ns component) scope rule ↔
      Grants w.cluster (subjectOf ns component) scope rule ∨ Adds w e ns component scope rule := by
  by_cases hevent : e.enabled = true ∧ e.permission.isSome
  · obtain ⟨p, hp⟩ := Option.isSome_iff_exists.mp hevent.2
    have hobj := objAt_step (w := w) hevent.1 hp
    rw [adds_iff hevent.1 hp]
    cases scope with
    | some m =>
        rw [grants_some (wellFormed_step hw e), grants_some hw, hobj]
        exact role_added hw
    | none =>
        rw [grants_none (wellFormed_step hw e), grants_none hw, hobj, hobj]
        exact clusterRole_added hw
  · rw [cluster_step hevent]
    refine (or_iff_left ?_).symm
    rintro ⟨_, ⟨henabled, p, hp, _⟩, _⟩
    exact hevent ⟨henabled, by rw [hp]; rfl⟩

/-- Nothing is granted in a scope whose binding is not there. -/
theorem not_grants_of_binds {w : World} (hw : WellFormed w.cluster) {e : Event} {scope : Option Str}
    (h : Binds w e scope) : ¬ Grants w.cluster (subjectOf e.ns e.component) scope rule := by
  obtain ⟨_, p, _, rfl, hbound⟩ := h
  unfold Bound at hbound
  unfold RunnerPermission.scope
  split
  · rename_i hcluster
    rw [if_pos hcluster] at hbound
    rw [grants_none hw]
    rintro ⟨hb, _⟩
    rw [hb] at hbound
    cases hbound
  · rename_i hcluster
    rw [if_neg hcluster, ← hw.role] at hbound
    rw [grants_some hw]
    rintro ⟨_, r, hr, _⟩
    rw [hr] at hbound
    cases hbound

theorem permission_step (w : World) (e : Event) : (step w e).permission (e.ns, e.component) = e.permission :=
  Function.update_self ..

/-- **One event.** -/
theorem granted_step_iff {w : World} (hw : WellFormed w.cluster) (hgranted : Granted w) (e : Event) :
    Granted (step w e) ↔ Meets w e := by
  have hpermission := permission_step w e
  constructor
  · intro h scope hbinds rule
    have hafter := h e.ns e.component scope rule
    rw [grants_step hw, hpermission] at hafter
    rw [← hafter, ← hgranted e.ns e.component scope rule]
    exact or_iff_left fun hadds => hbinds hadds.2.1
  · intro h ns component scope rule
    rw [grants_step hw, hgranted]
    by_cases hkey : (ns, component) = (e.ns, e.component)
    · obtain ⟨rfl, rfl⟩ := Prod.mk.inj hkey
      rw [hpermission]
      by_cases hbinds : Binds w e scope
      · rw [← hgranted e.ns e.component scope rule, or_iff_right (not_grants_of_binds hw hbinds)]
        exact ⟨fun hadds => hadds.2.2, fun hdeclared => ⟨rfl, hbinds, hdeclared⟩⟩
      · rw [h scope hbinds rule]
        exact or_iff_left fun hadds => hbinds hadds.2.1
    · have hsame : (step w e).permission (ns, component) = w.permission (ns, component) :=
        Function.update_of_ne hkey ..
      rw [hsame]
      exact or_iff_left fun hadds => hkey hadds.1

/-! ## 8. Runs -/

theorem wellFormed_start : WellFormed start.cluster := by
  have hnone (k : Kind) (key : Str × Str) : start.cluster.objAt k key = none := rfl
  constructor
  · intro key
    rw [hnone, hnone]
    rfl
  · intro ns name b hb
    rw [hnone] at hb
    cases hb
  · intro name
    rw [hnone, hnone]
    rfl
  · intro name b hb
    rw [hnone] at hb
    cases hb

theorem granted_start : Granted start := by
  intro ns component scope rule
  refine iff_of_false ?_ fun ⟨_, h, _⟩ => by cases h
  cases scope with
  | some m =>
      rw [grants_some wellFormed_start]
      rintro ⟨_, r, hr, _⟩
      cases hr
  | none =>
      rw [grants_none wellFormed_start]
      rintro ⟨hb, _⟩
      cases hb

/-- **Pods have the permissions that are declared**, along a run from an empty cluster, exactly where what a component
    declares changes only in a scope whose binding the reconcile creates. -/
theorem granted_iff (events : List Event) :
    Always step (fun w e => Granted (step w e)) start events ↔ Always step Meets start events :=
  Runs.always_iff_of_invariant (I := fun w => WellFormed w.cluster ∧ Granted w)
    (fun _ e hw => granted_step_iff hw.1 hw.2 e) (fun _ e hw hgranted => ⟨wellFormed_step hw.1 e, hgranted⟩)
    ⟨wellFormed_start, granted_start⟩ events

/-- A rule for pods. -/
def readPods : PolicyRule := ⟨[str "get"], [[]], [str "pods"], [], []⟩

/-- A component whose rule goes with its permission. -/
def permissionRemoved : List Event :=
  [⟨str "shop", str "web", some ⟨str "role", [readPods]⟩, true, []⟩, ⟨str "shop", str "web", none, true, []⟩]

/-- The rule stays. -/
theorem granted_fails : ¬ ∀ events, Always step (fun w e => Granted (step w e)) start events := by
  intro h
  have hmeets := (granted_iff permissionRemoved).mp (h permissionRemoved)
  have hsame := hmeets.2.1 (some (str "shop")) (by rintro ⟨_, _, hnone, _⟩; cases hnone) readPods
  have hbefore := permission_step start ⟨str "shop", str "web", some ⟨str "role", [readPods]⟩, true, []⟩
  obtain ⟨_, hnone, _⟩ := hsame.mpr ⟨⟨str "role", [readPods]⟩, hbefore, rfl, List.mem_singleton.mpr rfl⟩
  cases hnone

end Kalm.Permission
