/-
  File:      Kalm/Api/RoleBindings.lean
  Subject:   WHO CHANGES ROLE BINDINGS: api/handler/rolebindings.go over the webhook of
             controller/api/v1alpha1/rolebinding_webhook.go, and the policies that follow the bindings.

  * `BindingRequest`, `handleCreateRoleBinding`, `handleUpdateRoleBinding`, `handleDeleteRoleBinding` -- the
    handlers, over the admission of the API server;
  * `World`, `Event`, `step` -- the bindings, and the policies after `UpdatePolicies`; the other objects of the
    manager change as they like;
  * `Grant`, `World.grants` -- a subject, a role, a namespace;
  * `Authorized` -- what a request adds or removes, its client can manage;
  * `authorized_of_run` -- so it is along every run: an update keeps the scope, since the webhook does not let a
    role go from a namespace to the cluster or back.
-/
import Kalm.Api.Objects
import Kalm.Lib.Calls
import Kalm.Lib.Runs
import Kalm.Lib.Store

namespace Kalm.RoleBindings

open Calls (Fault)
open Keyed (Store)
open Runs (Always)

/-! ## 1. Requests -/

/-- The spec of a role binding in a request; role and subject type are any texts. -/
structure BindingSpec where
  subject : Str
  subjectType : Str
  role : Str
  expiredAt : Option Int

/-- `resources.RoleBinding` in a request. -/
structure BindingRequest where
  name : Str
  ns : Str
  spec : Option BindingSpec

/-- The roles. -/
def roles : List Role := [.viewer, .editor, .owner, .clusterViewer, .clusterEditor, .clusterOwner]

/-- The role with a text, as the enum of the CRD has it. -/
def roleOf (role : Str) : Option Role := roles.find? fun r => r.value = role

/-- The subject type with a text. -/
def subjectTypeOf (subjectType : Str) : Option SubjectType :=
  [SubjectType.user, .group].find? fun t => t.value = subjectType

/-- The bindings that are stored, by namespace and name. -/
abbrev Bindings := Store AcceptedRoleBinding fun b => (b.ns.val, b.name.val)

/-- A binding with valid markers that the webhook has nothing against. -/
def acceptBinding (b : RoleBinding) : Option AcceptedRoleBinding :=
  if h : (b.spec.subject ≠ [] ∧ b.spec.creator ≠ []) ∧ b.validate = [] then some ⟨b, ⟨h.1.1, h.1.2⟩, h.2⟩ else none

/-- The errors of the handlers. -/
inductive Refusal where
  | bind
  | insufficientPermissions
  | notFound
  | refused
  deriving DecidableEq

/-! ## 2. The handlers -/

/-- The client of a request, and its name. -/
structure Caller where
  client : ClientInfo
  name : Str

variable (md5 : Str → Str)

/-- `GetNameBaseOnRoleAndSubject`. -/
def getNameBaseOnRoleAndSubject (ns role subject : Str) : Str :=
  if role = str "clusterViewer" ∨ role = str "clusterEditor" ∨ role = str "clusterOwner" then
    str "cluster-rolebinding-" ++ hexEncode (md5 subject)
  else ns ++ str "-rolebinding-" ++ hexEncode (md5 subject)

/-- The API server takes a new binding: names, enums and markers are valid, the webhook has nothing against it, and
    there is none with its name. -/
def createBinding (ns name creator : Str) (spec : BindingSpec) (bindings : Bindings) : Option Bindings :=
  match roleOf spec.role, subjectTypeOf spec.subjectType with
  | some role, some subjectType =>
    if h : isDNS1123Subdomain name = true ∧ isDNS1123Label ns = true then
      match acceptBinding ⟨⟨ns, h.2⟩, ⟨name, h.1⟩, ⟨spec.subject, subjectType, role, creator, spec.expiredAt⟩⟩ with
      | none => none
      | some b => if (bindings.find (ns, name)).isSome then none else some (bindings.insert b)
    else none
  | _, _ => none

/-- A write that meets a fault, where the API server takes it: the answer, and the bindings behind it. -/
def written (fault : Fault) (bindings : Bindings) : Option Bindings → Except Refusal Unit × Bindings
  | none => (.error .refused, bindings)
  | some bindings' =>
    match fault with
    | .served => (.ok (), bindings')
    | .refused => (.error .refused, bindings)
    | .lost => (.error .refused, bindings')

/-- A body with a spec whose role and namespace the client can manage; `none` where the handler panics. -/
def requireManage (P : PolicySet) (client : ClientInfo) (body : Option BindingRequest) (bindings : Bindings)
    (rest : BindingRequest → BindingSpec → Except Refusal Unit × Bindings) :
    Option (Except Refusal Unit × Bindings) :=
  match body with
  | none => some (.error .bind, bindings)
  | some req =>
    match req.spec with
    | none => none
    | some spec =>
      match canManageRoleBinding P client spec.role req.ns with
      | none => none
      | some false => some (.error .insufficientPermissions, bindings)
      | some true => some (rest req spec)

/-- `handleCreateRoleBinding`. -/
def handleCreateRoleBinding (P : PolicySet) (c : Caller) (fault : Fault) (body : Option BindingRequest)
    (bindings : Bindings) : Option (Except Refusal Unit × Bindings) :=
  requireManage P c.client body bindings fun req spec =>
    written fault bindings
      (createBinding req.ns (getNameBaseOnRoleAndSubject md5 req.ns spec.role spec.subject) c.name spec bindings)

/-- `ValidateUpdate` lets the scope of the role be: both are roles of the cluster, or neither is. -/
def sameScope (old new : Role) : Bool := old.isCluster == new.isCluster

/-- The API server takes another role for a binding: the role is of the enum, and the webhook has nothing against
    it. Subject and creator stay as they are. -/
def patchRole (fetched : AcceptedRoleBinding) (role : Str) : Option AcceptedRoleBinding :=
  match roleOf role with
  | none => none
  | some new =>
    if sameScope fetched.spec.role new then
      acceptBinding { fetched.toRoleBinding with spec := { fetched.spec with role := new } }
    else none

/-- `handleUpdateRoleBinding`. -/
def handleUpdateRoleBinding (P : PolicySet) (c : Caller) (fault : Fault) (body : Option BindingRequest)
    (bindings : Bindings) : Option (Except Refusal Unit × Bindings) :=
  requireManage P c.client body bindings fun req spec =>
    match bindings.find (req.ns, req.name) with
    | none => (.error .notFound, bindings)
    | some fetched => written fault bindings ((patchRole fetched spec.role).map bindings.replace)

/-- `handleDeleteRoleBinding`. -/
def handleDeleteRoleBinding (P : PolicySet) (c : Caller) (fault : Fault) (ns name : Str) (bindings : Bindings) :
    Option (Except Refusal Unit × Bindings) :=
  match bindings.find (ns, name) with
  | none => some (.error .notFound, bindings)
  | some fetched =>
    match canManageRoleBinding P c.client fetched.spec.role.value fetched.ns.val with
    | none => none
    | some false => some (.error .insufficientPermissions, bindings)
    | some true => some (written fault bindings (some (bindings.erase (ns, name))))

/-! ## 3. Runs -/

/-- A request. -/
inductive Request where
  | create (body : Option BindingRequest)
  | update (body : Option BindingRequest)
  | delete (ns name : Str)

/-- Its handler. -/
def Request.handle (P : PolicySet) (c : Caller) (fault : Fault) : Request → Bindings →
    Option (Except Refusal Unit × Bindings)
  | .create body => handleCreateRoleBinding md5 P c fault body
  | .update body => handleUpdateRoleBinding P c fault body
  | .delete ns name => handleDeleteRoleBinding P c fault ns name

/-- The policies, where the server has not panicked, and the objects of the manager. -/
structure World where
  policies : Option PolicySet
  applications : List Namespace
  accessTokens : List AccessToken
  bindings : Bindings

/-- The objects of the manager. -/
def World.objects (w : World) : ManagerObjects :=
  ⟨w.applications, w.accessTokens, w.bindings.items.map fun b => b.toRoleBinding⟩

/-- What happens: a request, at a time, or a change of the other objects. -/
inductive Event where
  | request (c : Caller) (req : Request) (fault : Fault) (now : Int)
  | objects (applications : List Namespace) (accessTokens : List AccessToken) (now : Int)

/-- `UpdatePolicies`. -/
def World.updatePolicies (now : Int) (w : World) : World :=
  { w with policies := Kalm.updatePolicies now w.objects }

/-- One step: a server that has panicked does nothing. -/
def step (w : World) : Event → World
  | .request c req fault now =>
    match w.policies with
    | none => w
    | some P =>
      match req.handle md5 P c fault w.bindings with
      | none => w
      | some (_, bindings) => { w with bindings := bindings }.updatePolicies now
  | .objects applications accessTokens now =>
    match w.policies with
    | none => w
    | some _ => { w with applications := applications, accessTokens := accessTokens }.updatePolicies now

/-! ## 4. The statement -/

/-- What a binding grants: a role in a namespace; a role of the cluster in all of it. -/
structure Grant where
  subject : Str
  subjectType : SubjectType
  role : Role
  ns : Str
  deriving DecidableEq

/-- The grant of a binding. -/
def grantOf (b : AcceptedRoleBinding) : Grant := ⟨b.spec.subject, b.spec.subjectType, b.spec.role, b.ns.val⟩

/-- The grants of the bindings. -/
def World.grants (w : World) : Set Grant := {g | ∃ b ∈ w.bindings.items, grantOf b = g}

/-- The client can manage the scope of a grant. -/
def CanManageScope (P : PolicySet) (client : ClientInfo) (g : Grant) : Prop :=
  if g.role.isCluster then canManageCluster P client = some true else canManageNamespace P client g.ns = some true

/-- What a request adds or removes, its client could manage; and a client that can manage nothing changes no
    binding. -/
structure Authorized (w : World) (e : Event) : Prop where
  grants : ∀ c req fault now, e = .request c req fault now →
    ∀ g, (g ∈ w.grants ↔ g ∉ (step md5 w e).grants) →
      ∃ P, w.policies = some P ∧ CanManageScope P c.client g
  nothing : ∀ c req fault now, e = .request c req fault now →
    (∀ P, w.policies = some P → ∀ scope obj, canManage P c.client scope obj ≠ some true) →
      (step md5 w e).bindings = w.bindings

/-! ## 5. One request -/

/-- The bindings that are in one of the two and not in the other are such. -/
def ChangesOnly (Q : AcceptedRoleBinding → Prop) (bindings bindings' : Bindings) : Prop :=
  ∀ b, (b ∈ bindings.items ↔ b ∉ bindings'.items) → Q b

variable {Q : AcceptedRoleBinding → Prop} {bindings : Bindings}

theorem changesOnly_self : ChangesOnly Q bindings bindings := fun _ h => absurd h (iff_not_self ·)

theorem changesOnly_insert {b : AcceptedRoleBinding} (hb : Q b) : ChangesOnly Q bindings (bindings.insert b) := by
  intro b' h
  unfold Store.insert at h
  split at h
  · exact absurd h (iff_not_self ·)
  · rw [List.mem_cons, not_or] at h
    by_cases heq : b' = b
    · exact heq ▸ hb
    · have hself : b' ∈ bindings.items ↔ b' ∉ bindings.items := h.trans (and_iff_right heq)
      exact absurd hself (iff_not_self ·)

theorem changesOnly_replace {old new : AcceptedRoleBinding} (hold : old ∈ bindings.items)
    (hkey : (new.ns.val, new.name.val) = (old.ns.val, old.name.val)) (hQold : Q old) (hQnew : Q new) :
    ChangesOnly Q bindings (bindings.replace new) := by
  intro b h
  rw [Store.mem_replace] at h
  by_cases hmem : b ∈ bindings.items
  · have hsame : (b.ns.val, b.name.val) = (new.ns.val, new.name.val) := by
      by_contra hne
      exact h.mp hmem (Or.inl ⟨hmem, hne⟩)
    exact Store.eq_of_key hmem hold (hsame.trans hkey) ▸ hQold
  · rcases not_not.mp (fun hn => hmem (h.mpr hn)) with ⟨hin, _⟩ | ⟨rfl, _⟩
    · exact absurd hin hmem
    · exact hQnew

theorem changesOnly_erase {b : AcceptedRoleBinding} {key : Str × Str} (hb : bindings.find key = some b) (hQ : Q b) :
    ChangesOnly Q bindings (bindings.erase key) := by
  obtain ⟨hmem, hkey⟩ := Store.find_eq_some.mp hb
  intro b' h
  have hfilter : b' ∈ (bindings.erase key).items ↔ b' ∈ bindings.items ∧ (b'.ns.val, b'.name.val) ≠ key := by
    simp [Store.erase]
  rw [hfilter] at h
  by_cases hmem' : b' ∈ bindings.items
  · have hsame : (b'.ns.val, b'.name.val) = key := by
      by_contra hne
      exact h.mp hmem' ⟨hmem', hne⟩
    exact Store.eq_of_key hmem' hmem (hsame.trans hkey.symm) ▸ hQ
  · exact absurd (not_not.mp fun hn => hmem' (h.mpr hn)).1 hmem'

/-- A write changes nothing, or what the API server takes. -/
theorem changesOnly_written {fault : Fault} {taken : Option Bindings}
    (h : ∀ bindings', taken = some bindings' → ChangesOnly Q bindings bindings') :
    ChangesOnly Q bindings (written fault bindings taken).2 := by
  cases taken with
  | none => exact changesOnly_self
  | some bindings' =>
      cases fault with
      | refused => exact changesOnly_self
      | _ => exact h bindings' rfl

theorem value_of_roleOf {role : Str} {r : Role} (h : roleOf role = some r) : r.value = role :=
  of_decide_eq_true (List.find?_some h :)

theorem of_acceptBinding {b : RoleBinding} {accepted : AcceptedRoleBinding} (h : acceptBinding b = some accepted) :
    accepted.toRoleBinding = b := by
  unfold acceptBinding at h
  split at h
  · rw [← Option.some.inj h]
  · cases h

/-- Who can manage a binding with this role in this namespace can manage its scope. -/
theorem canManageScope_of_check {P : PolicySet} {client : ClientInfo} {g : Grant} (role : Str)
    (hscope : ∀ r, roleOf role = some r → r.isCluster = g.role.isCluster) (hrole : (roleOf role).isSome)
    (h : canManageRoleBinding P client role g.ns = some true) : CanManageScope P client g := by
  obtain ⟨r, hr⟩ := Option.isSome_iff_exists.mp hrole
  rw [← value_of_roleOf hr] at h
  unfold CanManageScope
  rw [← hscope r hr]
  cases r <;> exact h

/-- What a request changes, its client can manage; and where it changes something, the client can manage
    something. -/
structure Changes (P : PolicySet) (client : ClientInfo) (bindings bindings' : Bindings) : Prop where
  only : ChangesOnly (fun b => CanManageScope P client (grantOf b)) bindings bindings'
  manages : ∃ scope obj, canManage P client scope obj = some true

theorem manages_of_check {P : PolicySet} {client : ClientInfo} {role ns : Str}
    (h : canManageRoleBinding P client role ns = some true) :
    ∃ scope obj, canManage P client scope obj = some true := by
  unfold canManageRoleBinding at h
  split at h
  · exact ⟨_, _, h⟩
  · exact ⟨_, _, h⟩

/-- The rest behind `requireManage` is for a client that can manage the role and the namespace of the body. -/
theorem requireManage_cases {P : PolicySet} {client : ClientInfo} {body : Option BindingRequest}
    {rest : BindingRequest → BindingSpec → Except Refusal Unit × Bindings} {r : Except Refusal Unit × Bindings}
    (h : requireManage P client body bindings rest = some r) :
    r.2 = bindings ∨ ∃ req spec, canManageRoleBinding P client spec.role req.ns = some true ∧ r = rest req spec := by
  unfold requireManage at h
  split at h
  · exact Or.inl (by rw [← Option.some.inj h])
  · rename_i req
    split at h
    · cases h
    · rename_i spec _
      split at h
      · cases h
      · exact Or.inl (by rw [← Option.some.inj h])
      · rename_i hcan
        exact Or.inr ⟨req, spec, hcan, (Option.some.inj h).symm⟩

/-- A new binding has the role and the namespace of the request. -/
theorem of_createBinding {ns name creator : Str} {spec : BindingSpec} {bindings' : Bindings}
    (h : createBinding ns name creator spec bindings = some bindings') :
    ∃ b, bindings' = bindings.insert b ∧ roleOf spec.role = some b.spec.role ∧ b.ns.val = ns := by
  unfold createBinding at h
  split at h
  · rename_i role subjectType hrole _
    split at h
    · split at h
      · cases h
      · rename_i b hadmit
        split at h
        · cases h
        · have heq := of_acceptBinding hadmit
          exact ⟨b, (Option.some.inj h).symm, by rw [heq, hrole], by rw [heq]⟩
    · cases h
  · cases h

/-- **A role that the webhook lets through keeps its scope**; key and subject stay. -/
theorem of_patchRole {fetched patched : AcceptedRoleBinding} {role : Str}
    (h : patchRole fetched role = some patched) :
    roleOf role = some patched.spec.role ∧ fetched.spec.role.isCluster = patched.spec.role.isCluster ∧
      patched.ns = fetched.ns ∧ patched.name = fetched.name := by
  unfold patchRole at h
  split at h
  · cases h
  · rename_i new hrole
    split at h
    · rename_i hscope
      have heq := of_acceptBinding h
      rw [heq]
      exact ⟨hrole, eq_of_beq hscope, rfl, rfl⟩
    · cases h

/-- **One request.** -/
theorem handle_cases {P : PolicySet} {c : Caller} {fault : Fault} {req : Request}
    {r : Except Refusal Unit × Bindings} (h : req.handle md5 P c fault bindings = some r) :
    r.2 = bindings ∨ Changes P c.client bindings r.2 := by
  cases req with
  | create body =>
      rcases requireManage_cases h with hsame | ⟨req, spec, hcan, rfl⟩
      · exact Or.inl hsame
      · refine Or.inr ⟨changesOnly_written fun bindings' htaken => ?_, manages_of_check hcan⟩
        obtain ⟨b, rfl, hrole, hns⟩ := of_createBinding htaken
        have hsome : (roleOf spec.role).isSome := by rw [hrole]; rfl
        refine changesOnly_insert (canManageScope_of_check spec.role (fun r hr => ?_) hsome ?_)
        · exact congrArg Role.isCluster (Option.some.inj (hr.symm.trans hrole))
        · rwa [grantOf, hns]
  | update body =>
      rcases requireManage_cases h with hsame | ⟨req, spec, hcan, rfl⟩
      · exact Or.inl hsame
      · split
        · exact Or.inl rfl
        · rename_i fetched hfind
          obtain ⟨hmem, hkey⟩ := Store.find_eq_some.mp hfind
          refine Or.inr ⟨changesOnly_written fun bindings' htaken => ?_, manages_of_check hcan⟩
          obtain ⟨patched, hpatch, rfl⟩ := Option.map_eq_some_iff.mp htaken
          obtain ⟨hrole, hscope, hns, hname⟩ := of_patchRole hpatch
          have hfetched : fetched.ns.val = req.ns := congrArg Prod.fst hkey
          have hsome : (roleOf spec.role).isSome := by rw [hrole]; rfl
          have hnew (r : Role) (hr : roleOf spec.role = some r) : r.isCluster = patched.spec.role.isCluster :=
            congrArg Role.isCluster (Option.some.inj (hr.symm.trans hrole))
          refine changesOnly_replace hmem (by rw [hns, hname]) ?_ ?_
          · refine canManageScope_of_check spec.role (fun r hr => (hnew r hr).trans hscope.symm) hsome ?_
            rwa [grantOf, hfetched]
          · refine canManageScope_of_check spec.role hnew hsome ?_
            rwa [grantOf, hns, hfetched]
  | delete ns name =>
      have hdelete : handleDeleteRoleBinding P c fault ns name bindings = some r := h
      unfold handleDeleteRoleBinding at hdelete
      split at hdelete
      · exact Or.inl (by rw [← Option.some.inj hdelete])
      · rename_i fetched hfind
        split at hdelete
        · cases hdelete
        · exact Or.inl (by rw [← Option.some.inj hdelete])
        · rename_i hcan
          rw [← Option.some.inj hdelete]
          refine Or.inr ⟨changesOnly_written fun bindings' htaken => ?_, manages_of_check hcan⟩
          rw [← Option.some.inj htaken]
          refine changesOnly_erase hfind ?_
          unfold CanManageScope
          cases hrole : fetched.spec.role <;> rw [hrole] at hcan <;> rw [grantOf, hrole] <;> exact hcan

/-! ## 6. Runs -/

/-- **One step.** -/
theorem authorized_step (w : World) (e : Event) : Authorized md5 w e := by
  have hstep (c : Caller) (req : Request) (fault : Fault) (now : Int) :
      (step md5 w (.request c req fault now)).bindings = w.bindings ∨
        ∃ P, w.policies = some P ∧
          Changes P c.client w.bindings (step md5 w (.request c req fault now)).bindings := by
    dsimp only [step]
    split
    · exact Or.inl rfl
    · rename_i P hP
      split
      · exact Or.inl rfl
      · rename_i r answer bindings' hhandle
        exact (handle_cases md5 hhandle).imp id fun h => ⟨P, hP, h⟩
  constructor
  · rintro c req fault now rfl g hg
    rcases hstep c req fault now with hsame | ⟨P, hP, hchanges⟩
    · have hgrants : (step md5 w (.request c req fault now)).grants = w.grants := by
        rw [World.grants, World.grants, hsame]
      rw [hgrants] at hg
      exact absurd hg (iff_not_self ·)
    · refine ⟨P, hP, ?_⟩
      by_cases hmem : g ∈ w.grants
      · -- the grant is removed
        obtain ⟨b, hb, rfl⟩ := hmem
        refine hchanges.only b (iff_of_true hb fun hb' => ?_)
        exact hg.mp ⟨b, hb, rfl⟩ ⟨b, hb', rfl⟩
      · -- it is added
        obtain ⟨b, hb', rfl⟩ := not_not.mp (fun hn => hmem (hg.mpr hn))
        exact hchanges.only b (iff_of_false (fun hb => hmem ⟨b, hb, rfl⟩) (not_not.mpr hb'))
  · rintro c req fault now rfl hnothing
    rcases hstep c req fault now with hsame | ⟨P, hP, hchanges⟩
    · exact hsame
    · obtain ⟨scope, obj, hcan⟩ := hchanges.manages
      exact absurd hcan (hnothing P hP scope obj)

/-- **No request changes what its client cannot manage**, along every run from any policies. -/
theorem authorized_of_run (w : World) (events : List Event) : Always (step md5) (Authorized md5) w events := by
  induction events generalizing w with
  | nil => trivial
  | cons e events ih => exact ⟨authorized_step md5 w e, ih (step md5 w e)⟩

end Kalm.RoleBindings
