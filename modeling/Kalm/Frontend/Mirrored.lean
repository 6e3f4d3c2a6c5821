/-
  File:      Kalm/Frontend/Mirrored.lean
  Subject:   THE STORE OF THE DASHBOARD MIRRORS THE CLUSTER in the histories whose steps meet the condition.

  * `Changed`, `present_changed` -- what an event does to the objects of a kind;
  * `lists_putOrRemove` and its like -- what the branch of a reducer does to its list;
  * `Mirrors.event` -- a case for each kind of object; `Mirrors.told` -- the same of an object that is told again;
  * `Mirrors.load` -- the lists of the API;
  * `store_mirrors` -- the run; `store_fails` -- two services of one name.
-/
import Kalm.Frontend.Watching
import Kalm.Api.Shown

namespace Kalm

open Keyed (Store filterInPlace filterLoop)
open Listed (Lists)
open Runs

variable {sum256 : Str → List UInt8}

/-! ## 1. The objects of a kind -/

section Present

variable {K V W : Type} [DecidableEq K] {key : V → K} {store store' : Store V key} {action : WatchAction}
  {v w : V} {shown : V → Bool} {data data' : K → V → W}

/-- What an event of the object does to the objects of its kind. -/
structure Changed (action : WatchAction) (store store' : Store V key) (w : V) : Prop where
  find : store'.find = Function.update store.find (key w) (if action = .delete then none else some w)
  added : action = .add → store.find (key w) = none
  updated : action = .update → store.find (key w) ≠ none
  deleted : action = .delete → store.find (key w) = some w

theorem changed_of_changeStore (h : changeStore store action v = some (store', w)) :
    Changed action store store' w := by
  unfold changeStore at h
  split at h
  · rename_i hfree
    cases h
    refine ⟨funext fun k => ?_, fun _ => hfree, fun e => WatchAction.noConfusion e,
      fun e => WatchAction.noConfusion e⟩
    rw [Store.find_insert hfree, Function.update_apply]
    rfl
  · rename_i old hold
    cases h
    have hthere : store.find (key v) ≠ none := by
      rw [hold]
      exact Option.some_ne_none old
    refine ⟨funext fun k => ?_, fun e => WatchAction.noConfusion e, fun _ => hthere,
      fun e => WatchAction.noConfusion e⟩
    rw [Store.find_replace hold, Function.update_apply]
    rfl
  · rename_i old hold
    cases h
    have hkey : key w = key v := (Store.find_eq_some.mp hold).2
    refine ⟨funext fun k => ?_, fun e => WatchAction.noConfusion e, fun e => WatchAction.noConfusion e,
      fun _ => hkey ▸ hold⟩
    rw [Store.find_erase, if_pos rfl, Function.update_apply, hkey]
  · cases h

theorem present_eq_some {k : K} {x : W} : present store shown data k = some x ↔
    ∃ v, store.find k = some v ∧ shown v = true ∧ data k v = x := by
  rw [present, Option.bind_eq_some_iff]
  refine exists_congr fun v => and_congr_right fun _ => ?_
  cases hs : shown v with
  | true => exact Option.some_inj.trans (and_iff_right rfl).symm
  | false => exact iff_of_false (Option.some_ne_none x).symm fun h => Bool.noConfusion h.1

/-- The data of objects that are not there does not count. -/
theorem present_congr (h : ∀ k v, store.find k = some v → data k v = data' k v) :
    present store shown data = present store shown data' := by
  funext k
  rw [present, present]
  cases hf : store.find k with
  | none => rfl
  | some v => rw [Option.bind_some, Option.bind_some, h k v hf]

/-- **An event of an object**: what is present at the other keys stays. -/
theorem present_changed (h : Changed action store store' w)
    (hdata : ∀ k v, k ≠ key w → data' k v = data k v) :
    present store' shown data' = Function.update (present store shown data) (key w)
      (if action = .delete then none else if shown w then some (data' (key w) w) else none) := by
  funext k
  rw [present, h.find]
  by_cases hk : k = key w
  · subst hk
    rw [Function.update_self, Function.update_self]
    by_cases ha : action = .delete
    · rw [if_pos ha, if_pos ha]
      rfl
    · rw [if_neg ha, if_neg ha]
      rfl
  · rw [Function.update_of_ne hk, Function.update_of_ne hk, present]
    cases store.find k with
    | none => rfl
    | some v => rw [Option.bind_some, Option.bind_some, hdata k v hk]

/-- The object of an event that is not told was not shown. -/
theorem present_eq_none_of_untold (h : Changed action store store' w) {told : V → Bool}
    (hstays : StaysTold store action shown told w) (hshown : shown w = true → told w = true)
    (huntold : told w = false) : present store shown data (key w) = none := by
  refine Option.eq_none_iff_forall_ne_some.mpr fun x hx => ?_
  obtain ⟨old, hold, hs, -⟩ := present_eq_some.mp hx
  cases action with
  | add =>
      rw [h.added rfl] at hold
      cases hold
  | update =>
      rw [hstays rfl old hold hs] at huntold
      cases huntold
  | delete =>
      rw [h.deleted rfl] at hold
      cases hold
      rw [hshown hs] at huntold
      cases huntold

/-- A new object is at a free key. -/
theorem present_eq_none_of_add (h : Changed action store store' w) (ha : action = .add) :
    present store shown data (key w) = none := by
  rw [present, h.added ha]
  rfl

/-- **An object that is told again**: what is present at the other keys stays. -/
theorem present_again (data data' : K → V → W) (hf : store.find (key w) = some w) (hshown : shown w = true)
    (hdata : ∀ k v, k ≠ key w → data' k v = data k v) :
    present store shown data' = Function.update (present store shown data) (key w) (some (data' (key w) w)) := by
  funext k
  by_cases hk : k = key w
  · subst hk
    rw [Function.update_self]
    exact present_eq_some.mpr ⟨w, hf, hshown, rfl⟩
  · rw [Function.update_of_ne hk, present, present]
    cases store.find k with
    | none => rfl
    | some v => rw [Option.bind_some, Option.bind_some, hdata k v hk]

/-- It is there already. -/
theorem update_present (shown : V → Bool) {item : W} (hf : store.find (key w) = some w)
    (hshown : shown w = true) (hitem : data (key w) w = item) :
    Function.update (present store shown data) (key w) (some item) = present store shown data := by
  have hthere : present store shown data (key w) = some item := present_eq_some.mpr ⟨w, hf, hshown, hitem⟩
  rw [← hthere, Function.update_eq_self]

end Present

/-! ## 2. The branches of the reducers -/

section Arrays

variable {I T : Type} {ident : T → I} {name : T → Str} {l : List T}
  {live : I → Option T} {item : T} {action : WatchAction}

/-- The name is of this key alone. -/
structure OwnName (ident : T → I) (name : T → Str) (l : List T) (item : T) : Prop where
  alone : ∀ x ∈ l, name x = name item → ident x = ident item
  named : ∀ x ∈ l, ident x = ident item → name x = name item

theorem OwnName.of_name : OwnName name name l item := ⟨fun _ _ h => h, fun _ _ h => h⟩

theorem findIndexByName_eq_none (h : Lists ident l live) (hown : OwnName ident name l item)
    (hfree : live (ident item) = none) : findIndexByName name l (name item) = none := by
  refine List.findIdx?_eq_none_iff.mpr fun x hx => decide_eq_false fun hname => ?_
  exact h.eq_none_iff.mp hfree x hx (hown.alone x hx hname)

theorem eq_none_of_findIndexByName (h : Lists ident l live) (hown : OwnName ident name l item)
    (hi : findIndexByName name l (name item) = none) : live (ident item) = none :=
  h.eq_none_of_findIdx? hi fun x hx he => decide_eq_true (hown.named x hx he)

/-- What is listed is found by its name. -/
theorem isInArray_of_live (item : T) (h : Lists ident l live)
    (hnamed : ∀ x ∈ l, ident x = ident item → name x = name item) (hthere : live (ident item) ≠ none) :
    isInArray name l item = true := by
  obtain ⟨v, hv⟩ := Option.ne_none_iff_exists'.mp hthere
  obtain ⟨hmem, he⟩ := (h.listed _ _).mp hv
  rw [isInArray, findIndexByName, List.findIdx?_isSome, List.any_eq_true]
  exact ⟨v, hmem, decide_eq_true (hnamed v hmem he)⟩

variable [DecidableEq I]

theorem lists_addOrUpdate (h : Lists ident l live) (hown : OwnName ident name l item) :
    Lists ident (addOrUpdateInArray name l item true)
      (Function.update live (ident item) (some item)) := by
  unfold addOrUpdateInArray
  split
  · rename_i hi
    exact h.append (eq_none_of_findIndexByName h hown hi)
  · rename_i index hi
    rw [if_pos rfl]
    exact h.set hi fun x hx hp => hown.alone x hx (of_decide_eq_true hp)

/-- A new object is added, whether or not an old one would be updated. -/
theorem lists_add (h : Lists ident l live) (hown : OwnName ident name l item)
    (hfree : live (ident item) = none) (updateExisted : Bool) :
    Lists ident (addOrUpdateInArray name l item updateExisted)
      (Function.update live (ident item) (some item)) := by
  rw [addOrUpdateInArray, findIndexByName_eq_none h hown hfree]
  exact h.append hfree

theorem lists_removeInArray (h : Lists ident l live) (hown : OwnName ident name l item) :
    Lists ident (removeInArray name l item) (Function.update live (ident item) none) := by
  unfold removeInArray
  split
  · rename_i hi
    exact h.free (eq_none_of_findIndexByName h hown hi)
  · rename_i index hi
    exact h.eraseIdx hi fun x hx hp => hown.alone x hx (of_decide_eq_true hp)

/-- **A branch that adds and updates alike.** -/
theorem lists_putOrRemove (item : T) (h : Lists ident l live) (hown : OwnName ident name l item) :
    Lists ident (putOrRemove name l action item)
      (Function.update live (ident item) (if action = .delete then none else some item)) := by
  cases action with
  | add => exact lists_addOrUpdate h hown
  | update => exact lists_addOrUpdate h hown
  | delete => exact lists_removeInArray h hown

/-- What is told again is put in its place. -/
theorem lists_put (item : T) (h : Lists ident l live) (hown : OwnName ident name l item) :
    Lists ident (putOrRemove name l .add item) (Function.update live (ident item) (some item)) :=
  lists_addOrUpdate h hown

/-- **A branch that adds what is new.** -/
theorem lists_guardedPutOrRemove (item : T) (h : Lists ident l live) (hown : OwnName ident name l item)
    (hadd : action = .add → live (ident item) = none) :
    Lists ident (guardedPutOrRemove name l action item)
      (Function.update live (ident item) (if action = .delete then none else some item)) := by
  cases action with
  | add =>
      have hfree : isInArray name l item = false := by
        rw [isInArray, findIndexByName_eq_none h hown (hadd rfl)]
        rfl
      show Lists ident (if isInArray name l item then l else addOrUpdateInArray name l item true) _
      rw [hfree]
      exact lists_addOrUpdate h hown
  | update => exact lists_addOrUpdate h hown
  | delete => exact lists_removeInArray h hown

end Arrays

theorem lists_routeReducer {l : List HttpRouteResource} {live : Str × Str → Option HttpRouteResource}
    (item : HttpRouteResource) {action : WatchAction} (h : Lists (fun x => (x.ns, x.name)) l live)
    (hown : OwnName (fun x => (x.ns, x.name)) HttpRouteResource.name l item)
    (hadd : action = .add → live (item.ns, item.name) = none) :
    Lists (fun x => (x.ns, x.name)) (routeReducer l action item)
      (Function.update live (item.ns, item.name) (if action = .delete then none else some item)) := by
  cases action with
  | add => exact lists_add h hown (hadd rfl) false
  | update => exact lists_addOrUpdate h hown
  | delete => exact lists_removeInArray h hown

section Applications

variable {l : List ApplicationDetails} {live : Str → Option ApplicationDetails}
  (item : ApplicationDetails) {action : WatchAction}

theorem lists_applicationReducer_active (h : Lists ApplicationDetails.name l live)
    (hactive : item.status = str "Active") (hadd : action = .add → live item.name = none) :
    Lists ApplicationDetails.name (applicationReducer l action item)
      (Function.update live item.name (if action = .delete then none else some item)) := by
  cases action with
  | add =>
      have hnot : isInArray ApplicationDetails.name l item = false := by
        rw [isInArray, findIndexByName_eq_none h .of_name (hadd rfl)]
        rfl
      show Lists _ (if _ then _ else _) _
      rw [if_pos ⟨hactive, hnot⟩]
      exact lists_add h .of_name (hadd rfl) false
  | update =>
      have hstays : item.status ≠ str "Terminating" := by
        rw [hactive]
        decide
      show Lists _ (if _ then _ else _) _
      rw [if_neg hstays]
      exact lists_addOrUpdate h .of_name
  | delete => exact lists_removeInArray h .of_name

/-- An application that is being deleted is not added, and dropped when it is updated. -/
theorem lists_applicationReducer_terminating (h : Lists ApplicationDetails.name l live)
    (hterminating : item.status = str "Terminating") (hadd : action = .add → live item.name = none) :
    Lists ApplicationDetails.name (applicationReducer l action item)
      (Function.update live item.name none) := by
  cases action with
  | add =>
      have hnot : item.status ≠ str "Active" := by
        rw [hterminating]
        decide
      show Lists _ (if _ then _ else _) _
      rw [if_neg fun e => hnot e.1]
      exact h.free (hadd rfl)
  | update =>
      show Lists _ (if _ then _ else _) _
      rw [if_pos hterminating]
      exact lists_removeInArray h .of_name
  | delete => exact lists_removeInArray h .of_name

end Applications

/-- **Endpoints are told apart by namespace and name.** -/
theorem lists_protectedEndpointReducer {l : List ProtectedEndpoint}
    {live : Str × Str → Option ProtectedEndpoint} (item : ProtectedEndpoint) {action : WatchAction}
    (h : Lists (fun x => (x.ns, x.name)) l live) :
    Lists (fun x => (x.ns, x.name)) (protectedEndpointReducer l action item)
      (Function.update live (item.ns, item.name) (if action = .delete then none else some item)) := by
  have hsame : ∀ x : ProtectedEndpoint,
      (decide (x.name = item.name) && decide (x.ns = item.ns)) = true ↔
        (x.ns, x.name) = (item.ns, item.name) := by
    intro x
    rw [Bool.and_eq_true, decide_eq_true_eq, decide_eq_true_eq, Prod.mk.injEq, and_comm]
  have hset : ∀ index, (l.findIdx? fun x => decide (x.name = item.name) && decide (x.ns = item.ns)) =
      some index → Lists (fun x => (x.ns, x.name)) (l.set index item)
        (Function.update live (item.ns, item.name) (some item)) := by
    intro index hi
    exact h.set (v := item) hi fun x _ hp => (hsame x).mp hp
  have hfree : (l.findIdx? fun x => decide (x.name = item.name) && decide (x.ns = item.ns)) = none →
      live (item.ns, item.name) = none :=
    fun hi => h.eq_none_of_findIdx? hi fun x _ he => (hsame x).mpr he
  unfold protectedEndpointReducer
  cases hi : l.findIdx? fun x => decide (x.name = item.name) && decide (x.ns = item.ns) with
  | none =>
      cases action with
      | add => exact h.cons (v := item) (hfree hi)
      | update => exact h.cons (v := item) (hfree hi)
      | delete => exact h.free (hfree hi)
  | some index =>
      cases action with
      | add => exact hset index hi
      | update => exact hset index hi
      | delete => exact h.eraseIdx hi fun x _ hp => (hsame x).mp hp

/-! ### Components -/

/-- The components of each application. -/
def ComponentsListed (state : ComponentsState) (live : Str × Str → Option ComponentDetails) : Prop :=
  ∀ ns, Lists ComponentDetails.name ((state ns).getD []) fun name => live (ns, name)

section Components

variable {state : ComponentsState} {live : Str × Str → Option ComponentDetails} {ns name : Str}

/-- The list of one application is written. -/
theorem ComponentsListed.write (h : ComponentsListed state live) {l : List ComponentDetails}
    {o : Option ComponentDetails}
    (hl : Lists ComponentDetails.name l (Function.update (fun name => live (ns, name)) name o)) :
    ComponentsListed (Function.update state ns (some l)) (Function.update live (ns, name) o) := by
  intro other
  by_cases hns : other = ns
  · subst hns
    rw [Function.update_self, Option.getD_some]
    have hlive : (fun name' => Function.update live (other, name) o (other, name')) =
        Function.update (fun name' => live (other, name')) name o := by
      funext name'
      by_cases hname : name' = name
      · rw [hname, Function.update_self, Function.update_self]
      · rw [Function.update_of_ne hname, Function.update_of_ne fun e => hname (congrArg Prod.snd e)]
    rw [hlive]
    exact hl
  · rw [Function.update_of_ne hns]
    have hlive : (fun name' => Function.update live (ns, name) o (other, name')) =
        fun name' => live (other, name') := by
      funext name'
      exact Function.update_of_ne (fun e => hns (congrArg Prod.fst e)) _ _
    rw [hlive]
    exact h other

theorem ComponentsListed.free (h : ComponentsListed state live) (hfree : live (ns, name) = none) :
    ComponentsListed state (Function.update live (ns, name) none) := by
  rw [← hfree, Function.update_eq_self]
  exact h

/-- A component that is there is updated. -/
theorem ComponentsListed.update (h : ComponentsListed state live) (component : ComponentDetails)
    (hthere : live (ns, component.name) ≠ none) :
    ComponentsListed (componentReducer state .update ns component)
      (Function.update live (ns, component.name) (some component)) := by
  refine h.write ?_
  cases hi : findIndexByName ComponentDetails.name ((state ns).getD []) component.name with
  | none =>
      exact absurd (eq_none_of_findIndexByName (h ns) .of_name hi)
        hthere
  | some index => exact (h ns).set (v := component) hi fun x _ hp => of_decide_eq_true hp

/-- A component that is not there is added. -/
theorem ComponentsListed.add (h : ComponentsListed state live) (component : ComponentDetails)
    (hfree : live (ns, component.name) = none) :
    ComponentsListed (componentReducer state .add ns component)
      (Function.update live (ns, component.name) (some component)) := by
  have hi : findIndexByName ComponentDetails.name ((state ns).getD []) component.name = none :=
    findIndexByName_eq_none (h ns) .of_name hfree
  have hnot : isComponentInState state ns component = false := by
    unfold isComponentInState
    split
    · rfl
    · rename_i components hs
      rw [hs, Option.getD_some] at hi
      rw [isInArray, hi]
      rfl
  show ComponentsListed (if isComponentInState state ns component then state
    else putComponentIntoState state ns component true) _
  rw [hnot]
  refine h.write ?_
  rw [hi]
  exact (h ns).append (v := component) hfree

theorem ComponentsListed.delete (h : ComponentsListed state live) (component : ComponentDetails) :
    ComponentsListed (componentReducer state .delete ns component)
      (Function.update live (ns, component.name) none) := by
  have hns := h ns
  show ComponentsListed (deleteComponentFromState state ns component.name) _
  unfold deleteComponentFromState
  split
  · rename_i hs
    rw [hs] at hns
    exact h.free (hns.eq_none_iff.mpr fun _ hv => absurd hv List.not_mem_nil)
  · rename_i components hs
    rw [hs, Option.getD_some] at hns
    split
    · rename_i hi
      exact h.free (eq_none_of_findIndexByName hns .of_name hi)
    · rename_i index hi
      exact h.write (hns.eraseIdx hi fun x _ hp => of_decide_eq_true hp)

end Components

/-! ## 3. Messages -/

section Messages

variable {env : Environment sum256} {c : Caller} {s : ApiState sum256} {action : WatchAction}
  {object : WatchedObject sum256}

/-- The message of an object that the client may view. -/
theorem watchMessages_of_permitted {w : Watched sum256} (hreg : object.registrations = [w])
    {allowed : Option Bool} {m : ResMessage}
    (hb : buildResMessage env c s action w = permitted allowed (.message m)) (ha : allowed = some true) :
    watchMessages env c s action object = [m] := by
  rw [watchMessages, hreg, List.filterMap_cons_some (b := m)]
  · rfl
  · rw [hb, ha]
    rfl

theorem watchMessages_eq_nil {w : Watched sum256} (hreg : object.registrations = [w])
    (hb : sendWatchResMessage (buildResMessage env c s action w) = none) :
    watchMessages env c s action object = [] := by
  rw [watchMessages, hreg,
    List.filterMap_cons_none (f := fun w => sendWatchResMessage (buildResMessage env c s action w)) hb]
  rfl

/-- A service has two registrations. -/
theorem watchMessages_two {w w' : Watched sum256} (hreg : object.registrations = [w, w']) {m : ResMessage}
    (hb : sendWatchResMessage (buildResMessage env c s action w') = some m) :
    watchMessages env c s action object =
      (sendWatchResMessage (buildResMessage env c s action w)).toList ++ [m] := by
  have hlast : [w'].filterMap (fun w => sendWatchResMessage (buildResMessage env c s action w)) = [m] := by
    rw [List.filterMap_cons_some
      (f := fun w => sendWatchResMessage (buildResMessage env c s action w)) (b := m) hb]
    rfl
  rw [watchMessages, hreg]
  cases hw : sendWatchResMessage (buildResMessage env c s action w) with
  | none =>
      rw [List.filterMap_cons_none (f := fun w => sendWatchResMessage (buildResMessage env c s action w)) hw,
        hlast]
      rfl
  | some m' =>
      rw [List.filterMap_cons_some
        (f := fun w => sendWatchResMessage (buildResMessage env c s action w)) (b := m') hw, hlast]
      rfl

/-- The messages of a service: that of its component, and its own. -/
theorem watchMessages_service {svc : ServiceObject}
    (hv : canViewNamespace c.policies c.client svc.ns = some true) :
    watchMessages env c s action (.service svc) =
      (sendWatchResMessage (if labelValue svc.labels kalmComponent = [] then .nothing
        else causedByPart env c s svc.ns (labelValue svc.labels kalmComponent))).toList ++
        [⟨[], .service, action, some (.service (buildServiceResponse svc))⟩] := by
  have hreg : (WatchedObject.service svc : WatchedObject sum256).registrations =
      [.componentCausedByService svc, .service svc] := rfl
  refine watchMessages_two hreg ?_
  show sendWatchResMessage (permitted _ _) = _
  rw [hv]
  rfl

/-- A namespace is told of when it has the label and is not that of kalm. -/
theorem watchMessages_application {n : NamespaceObject} (hsystem : n.name.val ≠ kalmSystemNamespace)
    (hlabel : n.isEnabled = true) (hv : canViewNamespace c.policies c.client n.name.val = some true) :
    watchMessages env c s action (.application n) =
      [⟨[], .application, action, some (.application (buildApplicationDetails env.observed n))⟩] := by
  refine watchMessages_of_permitted rfl ?_ hv
  show buildNamespaceResMessage env c action n = _
  have hthere : ¬ (n.labels.lookup kalmEnableLabelName).isNone = true := by
    rw [Option.isNone_iff_eq_none, ← Option.not_isSome_iff_eq_none, not_not]
    exact hlabel
  rw [buildNamespaceResMessage, if_neg hsystem, if_neg hthere]

theorem watchMessages_application_untold {n : NamespaceObject}
    (huntold : n.name.val = kalmSystemNamespace ∨ n.isEnabled = false) :
    watchMessages env c s action (.application n) = [] := by
  have hnothing : buildNamespaceResMessage env c action n = .nothing := by
    rw [buildNamespaceResMessage]
    by_cases hsystem : n.name.val = kalmSystemNamespace
    · rw [if_pos hsystem]
    · have hmissing : (n.labels.lookup kalmEnableLabelName).isNone = true := by
        rw [Option.isNone_iff_eq_none, ← Option.not_isSome_iff_eq_none]
        exact Bool.eq_false_iff.mp (huntold.resolve_left hsystem)
      rw [if_neg hsystem, if_pos hmissing]
  exact watchMessages_eq_nil rfl (congrArg sendWatchResMessage hnothing)

end Messages

/-! ## 4. Events -/

section Events

variable {env : Environment sum256} {c : Caller} {h : History sum256} {action : WatchAction}

/-- What is present after the event of an object that is shown. -/
theorem present_told {K V W : Type} [DecidableEq K] {key : V → K} {store store' : Store V key} {w : V}
    {shown : V → Bool} {data data' : K → V → W} {item : W} (hc : Changed action store store' w)
    (hshown : shown w = true) (hdata : ∀ k v, k ≠ key w → data' k v = data k v)
    (hitem : data' (key w) w = item) : present store' shown data' =
      Function.update (present store shown data) (key w)
        (if action = .delete then none else some item) := by
  rw [present_changed hc hdata, hitem, if_pos hshown]

/-- The event of an object that is told by one message, to one slice. -/
theorem lists_told {K V W : Type} [DecidableEq K] {key : V → K} {store store' : Store V key} {w : V}
    {shown : V → Bool} {data data' : K → V → W} {l : List W} {ident : W → K} {item : W}
    (hc : Changed action store store' w) (hshown : shown w = true)
    (hdata : ∀ k v, k ≠ key w → data' k v = data k v) (hitem : data' (key w) w = item)
    (hl : Lists ident l (Function.update (present store shown data) (key w)
      (if action = .delete then none else some item))) :
    Lists ident l (present store' shown data') := by
  rw [present_told hc hshown hdata hitem]
  exact hl

/-- The event of an object that is not told. -/
theorem lists_untold {K V W : Type} [DecidableEq K] {key : V → K} {store store' : Store V key} {w : V}
    {shown told : V → Bool} {data data' : K → V → W} {l : List W} {ident : W → K}
    (hc : Changed action store store' w) (hdata : ∀ k v, k ≠ key w → data' k v = data k v)
    (hstays : StaysTold store action shown told w) (hshown : shown w = true → told w = true)
    (huntold : told w = false) (hl : Lists ident l (present store shown data)) :
    Lists ident l (present store' shown data') := by
  have hno : shown w = false := by
    cases hs : shown w with
    | false => rfl
    | true =>
        rw [hshown hs] at huntold
        cases huntold
  rw [present_changed hc hdata, hno, if_neg Bool.false_ne_true, ite_self]
  exact hl.free (present_eq_none_of_untold hc hstays hshown huntold)

/-- The name is of one object that is shown. -/
theorem OwnName.of_alone {V W : Type} {key : V → Str × Str} {store : Store V key} {shown : V → Bool}
    {data : Str × Str → V → W} {ident : W → Str × Str} {name : W → Str} {l : List W} {item : W}
    (hl : Lists ident l (present store shown data)) (hname : ∀ x, (ident x).2 = name x)
    (ha : Alone store shown (ident item)) : OwnName ident name l item := by
  refine ⟨fun x hx he => ?_, fun x _ he => ?_⟩
  · obtain ⟨v, hv, hs, -⟩ := present_eq_some.mp ((hl.listed (ident x) x).mpr ⟨hx, rfl⟩)
    obtain ⟨hmem, hkey⟩ := Store.find_eq_some.mp hv
    have hsame := ha v hmem hs
    rw [hkey, hname, hname] at hsame
    exact hsame he
  · rw [← hname, ← hname, he]

/-- The part of a service or a pod: the component it belongs to is updated. -/
theorem listed_part (env : Environment sum256) {r : RootState} {latest : Latest} (s : ApiState sum256)
    {ns : Str} (componentName : Str) {e : Emission} (he : sendWatchResMessage e = none)
    (hv : canViewNamespace c.policies c.client ns = some true)
    (hm : ComponentsListed r.components (present s.components always fun k _ => latest.components k)) :
    ∃ components latestComponents,
      (sendWatchResMessage (if componentName = [] then e
          else causedByPart env c s ns componentName)).toList.foldl RootState.onMessage r =
        { r with components := components } ∧
        latest.afterPart env s ns componentName = { latest with components := latestComponents } ∧
        ComponentsListed components (present s.components always fun k _ => latestComponents k) := by
  unfold Latest.afterPart
  by_cases hname : componentName = []
  · rw [if_pos hname, if_pos hname, he]
    exact ⟨r.components, latest.components, rfl, rfl, hm⟩
  · rw [if_neg hname, if_neg hname, causedByPart, hv]
    cases hf : s.components.find (ns, componentName) with
    | none => exact ⟨r.components, latest.components, rfl, rfl, hm⟩
    | some component =>
        obtain ⟨-, hkey⟩ := Store.find_eq_some.mp hf
        refine ⟨_, _, rfl, rfl, ?_⟩
        have hfind : s.components.find (component.ns, component.name) = some component := hkey ▸ hf
        have hthere : present s.components always (fun k _ => latest.components k)
            (component.ns, component.name) ≠ none := by
          rw [present, hfind]
          exact Option.some_ne_none _
        have hupdate := hm.update (buildComponentDetails env.observed s component) hthere
        have hlive : present s.components always (fun k _ =>
            Function.update latest.components (component.ns, component.name)
              (buildComponentDetails env.observed s component) k) =
            Function.update (present s.components always fun k _ => latest.components k)
              (component.ns, component.name) (some (buildComponentDetails env.observed s component)) := by
          funext k
          by_cases hk : k = (component.ns, component.name)
          · subst hk
            rw [present, hfind, Function.update_self, Function.update_self]
            rfl
          · have hkeep := Function.update_of_ne hk
              (some (buildComponentDetails env.observed s component))
              (present s.components always fun k _ => latest.components k)
            rw [hkeep, present, present, Function.update_of_ne hk]
        rw [hlive]
        exact hupdate

theorem Mirrors.node (hm : Mirrors h) {store' : Store NodeObject (fun n => n.name)} {n : NodeObject}
    (hc : Changed action h.server.nodes store' n)
    (hv : canViewCluster c.policies c.client = some true) :
    Mirrors (h.next env c action { h.server with nodes := store' } (.node n)) := by
  have hmsg : watchMessages env c { h.server with nodes := store' } action (.node n) =
      [⟨[], .node, action,
        some (.node (buildNodeResponse env.observed { h.server with nodes := store' } n))⟩] :=
    watchMessages_of_permitted rfl rfl hv
  rw [History.next, hmsg]
  exact { hm with
    nodes := lists_told hc rfl (fun k _ hk => Function.update_of_ne hk _ _) (Function.update_self _ _ _)
      (lists_guardedPutOrRemove _ hm.nodes .of_name (present_eq_none_of_add hc)) }

theorem Mirrors.httpsCert (hm : Mirrors h) {store' : Store HttpsCertObject (fun x => x.name)}
    {cert : HttpsCertObject} (hc : Changed action h.server.httpsCerts store' cert)
    (hv : canViewCluster c.policies c.client = some true) :
    Mirrors (h.next env c action { h.server with httpsCerts := store' } (.httpsCert cert)) := by
  have hmsg : watchMessages env c { h.server with httpsCerts := store' } action (.httpsCert cert) =
      [⟨[], .httpsCert, action, some (.httpsCert (buildHttpsCertResponse cert))⟩] :=
    watchMessages_of_permitted rfl rfl hv
  rw [History.next, hmsg]
  exact { hm with
    certificates := lists_told hc rfl (fun _ _ _ => rfl) rfl
      (lists_guardedPutOrRemove (buildHttpsCertResponse cert) hm.certificates .of_name
        (present_eq_none_of_add hc)) }

theorem Mirrors.httpRoute (hm : Mirrors h)
    {store' : Store StoredHttpRoute (fun r => (r.ns.val, r.name.val))} {r : StoredHttpRoute}
    (hc : Changed action h.server.httpRoutes store' r)
    (hv : Viewed c (.httpRoute r : WatchedObject sum256))
    (ha : Alone h.server.httpRoutes always (r.ns.val, r.name.val)) :
    Mirrors (h.next env c action { h.server with httpRoutes := store' } (.httpRoute r)) := by
  have hmsg : watchMessages env c { h.server with httpRoutes := store' } action (.httpRoute r) =
      [⟨r.ns.val, .httpRoute, action, some (.httpRoute (buildHttpRouteFromResource r.toHttpRoute))⟩] :=
    watchMessages_of_permitted rfl rfl hv
  rw [History.next, hmsg]
  exact { hm with
    httpRoutes := lists_told hc rfl (fun _ _ _ => rfl) rfl
      (lists_routeReducer (buildHttpRouteFromResource r.toHttpRoute) hm.httpRoutes
        (.of_alone hm.httpRoutes (fun _ => rfl) ha) (present_eq_none_of_add hc)) }

theorem Mirrors.protectedEndpoint (hm : Mirrors h)
    {store' : Store ProtectedEndpointObject (fun e => (e.ns, e.name))} {e : ProtectedEndpointObject}
    (hc : Changed action h.server.protectedEndpoints store' e)
    (hv : canViewNamespace c.policies c.client e.ns = some true) :
    Mirrors (h.next env c action { h.server with protectedEndpoints := store' } (.protectedEndpoint e)) := by
  have hmsg : watchMessages env c { h.server with protectedEndpoints := store' } action
      (.protectedEndpoint e) = [⟨[], .protectedEndpoint, action,
        some (.protectedEndpoint (protectedEndpointCRDToProtectedEndpoint e))⟩] :=
    watchMessages_of_permitted rfl rfl hv
  rw [History.next, hmsg]
  exact { hm with
    protectedEndpoints := lists_told hc rfl (fun _ _ _ => rfl) rfl
      (lists_protectedEndpointReducer (protectedEndpointCRDToProtectedEndpoint e)
        hm.protectedEndpoints) }

theorem Mirrors.roleBinding (hm : Mirrors h)
    {store' : Store AcceptedRoleBinding (fun b => (b.ns.val, b.name.val))} {b : AcceptedRoleBinding}
    (hc : Changed action h.server.roleBindings store' b)
    (hv : Viewed c (.roleBinding b : WatchedObject sum256))
    (ha : Alone h.server.roleBindings always (b.ns.val, b.name.val)) :
    Mirrors (h.next env c action { h.server with roleBindings := store' } (.roleBinding b)) := by
  have hmsg : watchMessages env c { h.server with roleBindings := store' } action (.roleBinding b) =
      [⟨[], .roleBinding, action, some (.roleBinding (buildRoleBinding b.toRoleBinding))⟩] :=
    watchMessages_of_permitted rfl rfl hv
  rw [History.next, hmsg]
  exact { hm with
    roleBindings := lists_told hc rfl (fun _ _ _ => rfl) rfl
      (lists_putOrRemove (buildRoleBinding b.toRoleBinding) hm.roleBindings
        (.of_alone hm.roleBindings (fun _ => rfl) ha)) }

/-- **A volume**: only managed claims are shown. -/
theorem Mirrors.volume (hm : Mirrors h)
    {store' : Store PersistentVolumeClaim (fun x => (x.ns, x.name))} {pvc : PersistentVolumeClaim}
    (hc : Changed action h.server.claims store' pvc)
    (hv : canViewCluster c.policies c.client = some true)
    (ha : Alone h.server.claims PersistentVolumeClaim.isManaged (pvc.ns, pvc.name))
    (hstays : StaysTold h.server.claims action PersistentVolumeClaim.isManaged
      PersistentVolumeClaim.isManaged pvc) :
    Mirrors (h.next env c action { h.server with claims := store' } (.volume pvc)) := by
  have hdata : ∀ (k : Str × Str) (v : PersistentVolumeClaim), k ≠ (pvc.ns, pvc.name) →
      (h.latest.after env { h.server with claims := store' } (.volume pvc)).persistentVolumes k =
        h.latest.persistentVolumes k := fun k _ hk => Function.update_of_ne hk _ _
  by_cases hmanaged : labelValue pvc.labels kalmManaged = str "true"
  · have hb : buildResMessage env c { h.server with claims := store' } action (.volume pvc) =
        permitted (canViewCluster c.policies c.client) (.message ⟨[], .volume, action,
          some (.volume (buildVolumeResponse { h.server with claims := store' } pvc))⟩) :=
      if_neg (not_not.mpr hmanaged)
    rw [History.next, watchMessages_of_permitted rfl hb hv]
    exact { hm with
      persistentVolumes := lists_told hc (decide_eq_true hmanaged) hdata (Function.update_self _ _ _)
        (lists_putOrRemove (buildVolumeResponse { h.server with claims := store' } pvc)
          hm.persistentVolumes (.of_alone hm.persistentVolumes (fun _ => rfl) ha)) }
  · have hb : sendWatchResMessage (buildResMessage env c { h.server with claims := store' } action
        (.volume pvc)) = none := by
      have hblank : buildResMessage env c { h.server with claims := store' } action (.volume pvc) = .blank :=
        if_pos hmanaged
      rw [hblank]
      rfl
    rw [History.next, watchMessages_eq_nil rfl hb]
    exact { hm with
      persistentVolumes := lists_untold hc hdata hstays (fun hs => hs) (decide_eq_false hmanaged)
        hm.persistentVolumes }

/-- **An access token**: only deploy access tokens are shown. -/
theorem Mirrors.accessToken (hm : Mirrors h) {store' : Store (StoredAccessToken sum256) (fun t => t.name)}
    {t : StoredAccessToken sum256} (hc : Changed action h.server.accessTokens store' t)
    (hv : Viewed c (.accessToken t))
    (hstays : StaysTold h.server.accessTokens action StoredAccessToken.isDeploy
      StoredAccessToken.isDeploy t) :
    Mirrors (h.next env c action { h.server with accessTokens := store' } (.accessToken t)) := by
  cases hdeploy : t.isDeploy with
  | true =>
      have hb : buildResMessage env c { h.server with accessTokens := store' } action (.accessToken t) =
          permitted (permissionsGreaterThanOrEqualAccessToken c.policies c.client t.toAccessToken)
            (.message ⟨[], .deployAccessToken, action, some (.accessToken t.toAccessToken)⟩) :=
        if_pos hdeploy
      rw [History.next, watchMessages_of_permitted rfl hb hv]
      exact { hm with
        deployAccessTokens := lists_told hc hdeploy (fun _ _ _ => rfl) rfl
          (lists_putOrRemove (accessTokenToDeployAccessToken t.toAccessToken)
            hm.deployAccessTokens .of_name) }
  | false =>
      have hb : sendWatchResMessage (buildResMessage env c { h.server with accessTokens := store' } action
          (.accessToken t)) = none := by
        have hnothing : buildResMessage env c { h.server with accessTokens := store' } action
            (.accessToken t) = .nothing := if_neg (Bool.eq_false_iff.mp hdeploy)
        rw [hnothing]
        rfl
      rw [History.next, watchMessages_eq_nil rfl hb]
      exact { hm with
        deployAccessTokens := lists_untold hc (fun _ _ _ => rfl) hstays (fun hs => hs) hdeploy
          hm.deployAccessTokens }

/-- **A component**: an update needs it in the list. -/
theorem Mirrors.component (hm : Mirrors h) {store' : Store ComponentObject (fun x => (x.ns, x.name))}
    {comp : ComponentObject} (hc : Changed action h.server.components store' comp)
    (hv : canViewNamespace c.policies c.client comp.ns = some true) :
    Mirrors (h.next env c action { h.server with components := store' } (.component comp)) := by
  have hmsg : watchMessages env c { h.server with components := store' } action (.component comp) =
      [⟨comp.ns, .component, action, some (.component comp.ns
        (buildComponentDetails env.observed { h.server with components := store' } comp))⟩] :=
    watchMessages_of_permitted rfl rfl hv
  have hm' : ComponentsListed h.store.components
      (present h.server.components always fun k _ => h.latest.components k) := hm.components
  have hlist : ComponentsListed
      (componentReducer h.store.components action comp.ns
        (buildComponentDetails env.observed { h.server with components := store' } comp))
      (Function.update (present h.server.components always fun k _ => h.latest.components k)
        (comp.ns, comp.name) (if action = .delete then none else
          some (buildComponentDetails env.observed { h.server with components := store' } comp))) := by
    cases action with
    | add => exact hm'.add _ (present_eq_none_of_add hc rfl)
    | update =>
        refine hm'.update _ fun hnone => ?_
        have hnone : present h.server.components always (fun k _ => h.latest.components k)
            (comp.ns, comp.name) = none := hnone
        cases hf : h.server.components.find (comp.ns, comp.name) with
        | none => exact hc.updated rfl hf
        | some old =>
            have hold : present h.server.components always (fun k _ => h.latest.components k)
                (comp.ns, comp.name) = some (h.latest.components (comp.ns, comp.name)) :=
              present_eq_some.mpr ⟨old, hf, rfl, rfl⟩
            rw [hold] at hnone
            cases hnone
    | delete => exact hm'.delete _
  rw [History.next, hmsg]
  refine { hm with components := fun ns => ?_ }
  have hdata : ∀ (k : Str × Str) (_ : ComponentObject), k ≠ (comp.ns, comp.name) →
      (h.latest.after env { h.server with components := store' } (.component comp)).components k =
        h.latest.components k := fun k _ hk => Function.update_of_ne hk _ _
  have hshown : always comp = true := rfl
  have hlive := present_told hc hshown hdata (Function.update_self _ _ _)
  show Lists _ _ fun name => present store' always _ (ns, name)
  rw [hlive]
  exact hlist ns

/-- A pod: its component is updated. -/
theorem Mirrors.pod (hm : Mirrors h) {store' : Store PodObject (fun p => (p.ns, p.name))} {pod : PodObject}
    (hv : canViewNamespace c.policies c.client pod.ns = some true) :
    Mirrors (h.next env c action { h.server with pods := store' } (.pod pod)) := by
  have hmsg : watchMessages env c { h.server with pods := store' } action (.pod pod) =
      (sendWatchResMessage (if labelValue pod.labels kalmComponent = [] then .blank
        else causedByPart env c { h.server with pods := store' } pod.ns
          (labelValue pod.labels kalmComponent))).toList := by
    show List.filterMap _ [Watched.pod pod] = _
    rw [List.filterMap_cons, List.filterMap_nil]
    rfl
  obtain ⟨components, latestComponents, hstore, hlatest, hlisted⟩ :=
    listed_part (r := h.store) (e := .blank) env { h.server with pods := store' }
      (labelValue pod.labels kalmComponent) rfl hv hm.components
  rw [History.next, hmsg, hstore]
  have hafter : h.latest.after env { h.server with pods := store' } (.pod pod) = _ := hlatest
  rw [hafter]
  exact { hm with components := hlisted }

/-- A service: its component is updated, and it is told itself. -/
theorem Mirrors.service (hm : Mirrors h) {store' : Store ServiceObject (fun x => (x.ns, x.name))}
    {svc : ServiceObject} (hc : Changed action h.server.services store' svc)
    (hv : canViewNamespace c.policies c.client svc.ns = some true)
    (ha : Alone h.server.services always (svc.ns, svc.name)) :
    Mirrors (h.next env c action { h.server with services := store' } (.service svc)) := by
  obtain ⟨components, latestComponents, hstore, hlatest, hlisted⟩ :=
    listed_part (r := h.store) (e := .nothing) env { h.server with services := store' }
      (labelValue svc.labels kalmComponent) rfl hv hm.components
  rw [History.next, watchMessages_service hv, List.foldl_append, hstore]
  have hafter : h.latest.after env { h.server with services := store' } (.service svc) = _ := hlatest
  rw [hafter]
  exact { hm with
    components := hlisted
    services := lists_told hc rfl (fun _ _ _ => rfl) rfl
      (lists_putOrRemove (buildServiceResponse svc) hm.services
        (.of_alone hm.services (fun _ => rfl) ha)) }

/-- **A registry that is not deleted**: the builder finds it. -/
theorem Mirrors.registry (hm : Mirrors h) {store' : Store DockerRegistryObject (fun r => r.name)}
    {r : DockerRegistryObject} (hc : Changed action h.server.dockerRegistries store' r)
    (hv : canViewCluster c.policies c.client = some true) (ha : action ≠ .delete)
    (hsecret : env.secretLast = true → (h.server.secrets.find (kalmSystemNamespace,
      getRegistryAuthenticationName r.name)).isSome) :
    Mirrors (h.next env c action { h.server with dockerRegistries := store' } (.registry r)) := by
  have hfind : store'.find r.name = some r := by
    rw [hc.find, Function.update_self, if_neg ha]
  have hget : getDockerRegistry { h.server with dockerRegistries := store' } env.secretLast r.name =
      some (buildDockerRegistryFromResource r
        (h.server.secrets.find (kalmSystemNamespace, getRegistryAuthenticationName r.name))) := by
    refine getDockerRegistry_eq_some.mpr ⟨?_, ?_⟩
    · cases hlast : env.secretLast with
      | true => exact hsecret hlast
      | false =>
          show (store'.find r.name).isSome = true
          rw [hfind]
          rfl
    · show buildDockerRegistryFromResource ((store'.find r.name).getD zeroRegistry) _ = _
      rw [hfind]
      rfl
  have hb : buildResMessage env c { h.server with dockerRegistries := store' } action (.registry r) =
      permitted (canViewCluster c.policies c.client) (.message ⟨[], .registry, action,
        some (.registry (buildDockerRegistryFromResource r
          (h.server.secrets.find (kalmSystemNamespace, getRegistryAuthenticationName r.name))))⟩) := by
    show buildRegistryResMessage env c { h.server with dockerRegistries := store' } action r = _
    rw [buildRegistryResMessage, hget]
  rw [History.next, watchMessages_of_permitted rfl hb hv]
  exact { hm with
    registries := lists_told hc rfl (fun k _ hk => Function.update_of_ne hk _ _)
      (Function.update_self _ _ _)
      (lists_guardedPutOrRemove (buildDockerRegistryFromResource r (h.server.secrets.find
        (kalmSystemNamespace, getRegistryAuthenticationName r.name))) hm.registries .of_name
        (present_eq_none_of_add hc)) }

/-- **The config of the single sign-on**: what is there is read again. -/
theorem Mirrors.ssoConfig (hm : Mirrors h) {store' : Store SingleSignOnConfig (fun x => (x.ns, x.name))}
    {cfg : SingleSignOnConfig} (hc : Changed action h.server.ssoConfigs store' cfg)
    (hv : canViewCluster c.policies c.client = some true)
    (hdelete : cfg.name = ssoName → action = .delete →
      cfg.ns = kalmSystemNamespace ∨ getSSOConfig h.server = none) :
    Mirrors (h.next env c action { h.server with ssoConfigs := store' } (.ssoConfig cfg)) := by
  have hkeep : (kalmSystemNamespace, ssoName) ≠ (cfg.ns, cfg.name) →
      getSSOConfig { h.server with ssoConfigs := store' } = getSSOConfig h.server := by
    intro hne
    show (store'.find (kalmSystemNamespace, ssoName)).map _ = _
    rw [hc.find, Function.update_of_ne hne]
    rfl
  by_cases hname : cfg.name = ssoName
  · have hb : buildResMessage env c { h.server with ssoConfigs := store' } action (.ssoConfig cfg) =
        permitted (canViewCluster c.policies c.client) (.message ⟨[], .singleSignOnConfig, action,
          (getSSOConfig { h.server with ssoConfigs := store' }).map .ssoConfig⟩) :=
      if_neg (not_not.mpr hname)
    have hreduced : (ssoConfigReducer action (getSSOConfig { h.server with ssoConfigs := store' })).map
        hideConnectors = (getSSOConfig { h.server with ssoConfigs := store' }).map hideConnectors := by
      cases action with
      | add => rfl
      | update => rfl
      | delete =>
          have hgone : getSSOConfig { h.server with ssoConfigs := store' } = none := by
            by_cases hkey : (kalmSystemNamespace, ssoName) = (cfg.ns, cfg.name)
            · show (store'.find (kalmSystemNamespace, ssoName)).map _ = none
              rw [hc.find, hkey, Function.update_self]
              rfl
            · rw [hkeep hkey]
              refine (hdelete hname rfl).resolve_left fun hns => hkey ?_
              rw [hns, hname]
          rw [hgone]
          rfl
    rw [History.next, watchMessages_of_permitted rfl hb hv]
    cases hget : getSSOConfig { h.server with ssoConfigs := store' } with
    | none =>
        rw [hget] at hreduced
        refine { hm with config := ?_ }
        show (ssoConfigReducer action none).map hideConnectors = _
        rw [hget]
        exact hreduced
    | some spec =>
        rw [hget] at hreduced
        refine { hm with config := ?_ }
        show (ssoConfigReducer action (some spec)).map hideConnectors = _
        rw [hget]
        exact hreduced
  · have hb : sendWatchResMessage (buildResMessage env c { h.server with ssoConfigs := store' } action
        (.ssoConfig cfg)) = none := by
      have hnothing : buildResMessage env c { h.server with ssoConfigs := store' } action
          (.ssoConfig cfg) = .nothing := if_pos hname
      rw [hnothing]
      rfl
    rw [History.next, watchMessages_eq_nil rfl hb]
    refine { hm with config := ?_ }
    have hne : (kalmSystemNamespace, ssoName) ≠ (cfg.ns, cfg.name) :=
      fun e => hname (congrArg Prod.snd e).symm
    show h.store.config.map hideConnectors = _
    rw [hkeep hne]
    exact hm.config

/-- **An application**: a namespace that is being deleted is dropped. -/
theorem Mirrors.application (hm : Mirrors h) {store' : Store NamespaceObject (fun n => n.name.val)}
    {n : NamespaceObject} (hc : Changed action h.server.namespaces store' n)
    (hv : canViewNamespace c.policies c.client n.name.val = some true)
    (hsystem : n.name.val ≠ kalmSystemNamespace)
    (hphase : n.phase = str "Active" ∨ n.phase = str "Terminating")
    (hstays : StaysTold h.server.namespaces action NamespaceObject.isApplication
      NamespaceObject.isEnabled n) :
    Mirrors (h.next env c action { h.server with namespaces := store' } (.application n)) := by
  have hdata : ∀ (k : Str) (_ : NamespaceObject), k ≠ n.name.val →
      (h.latest.after env { h.server with namespaces := store' } (.application n)).applications k =
        h.latest.applications k := fun k _ hk => Function.update_of_ne hk _ _
  have henabled : n.isApplication = true → n.isEnabled = true := fun e => (Bool.and_eq_true_iff.mp e).1
  cases hlabel : n.isEnabled with
  | false =>
      rw [History.next, watchMessages_application_untold (.inr hlabel)]
      exact { hm with
        applications := lists_untold hc hdata hstays henabled hlabel hm.applications }
  | true =>
      rw [History.next, watchMessages_application hsystem hlabel hv]
      refine { hm with applications := ?_ }
      show Lists ApplicationDetails.name (applicationReducer h.store.applications action
        (buildApplicationDetails env.observed n)) _
      obtain hactive | hterminating := hphase
      · -- it is there, unless it is deleted
        have hshown : n.isApplication = true :=
          Bool.and_eq_true_iff.mpr ⟨hlabel, decide_eq_true hactive⟩
        exact lists_told hc hshown hdata (Function.update_self _ _ _)
          (lists_applicationReducer_active (buildApplicationDetails env.observed n) hm.applications
            hactive (present_eq_none_of_add hc))
      · have hno : n.isApplication = false := by
          refine Bool.eq_false_iff.mpr fun e => ?_
          have hactive : n.phase = str "Active" := of_decide_eq_true (Bool.and_eq_true_iff.mp e).2
          rw [hterminating] at hactive
          exact absurd hactive (by decide)
        rw [present_changed hc hdata, hno, if_neg Bool.false_ne_true, ite_self]
        exact lists_applicationReducer_terminating (buildApplicationDetails env.observed n)
          hm.applications hterminating (present_eq_none_of_add hc)

/-- **The event of an object that the client may view**, where it is told and not confused. -/
theorem Mirrors.event (hm : Mirrors h) {object object' : WatchedObject sum256} {server : ApiState sum256}
    (hchange : h.server.change action object = some (server, object')) (hv : Viewed c object')
    (hu : Unconfused env h.server server action object') :
    Mirrors (h.next env c action server object') := by
  cases object with
  | application n =>
      obtain ⟨⟨store', n'⟩, hstore, he⟩ := Option.map_eq_some_iff.mp hchange
      cases he
      exact hm.application (changed_of_changeStore hstore) hv hu.1 hu.2.1 hu.2.2
  | component comp =>
      obtain ⟨⟨store', comp'⟩, hstore, he⟩ := Option.map_eq_some_iff.mp hchange
      cases he
      exact hm.component (changed_of_changeStore hstore) hv
  | service svc =>
      obtain ⟨⟨store', svc'⟩, hstore, he⟩ := Option.map_eq_some_iff.mp hchange
      cases he
      exact hm.service (changed_of_changeStore hstore) hv hu
  | pod pod =>
      obtain ⟨⟨store', pod'⟩, hstore, he⟩ := Option.map_eq_some_iff.mp hchange
      cases he
      exact hm.pod hv
  | httpRoute r =>
      obtain ⟨⟨store', r'⟩, hstore, he⟩ := Option.map_eq_some_iff.mp hchange
      cases he
      exact hm.httpRoute (changed_of_changeStore hstore) hv hu
  | node n =>
      obtain ⟨⟨store', n'⟩, hstore, he⟩ := Option.map_eq_some_iff.mp hchange
      cases he
      exact hm.node (changed_of_changeStore hstore) hv
  | httpsCert cert =>
      obtain ⟨⟨store', cert'⟩, hstore, he⟩ := Option.map_eq_some_iff.mp hchange
      cases he
      exact hm.httpsCert (changed_of_changeStore hstore) hv
  | registry r =>
      obtain ⟨⟨store', r'⟩, hstore, he⟩ := Option.map_eq_some_iff.mp hchange
      cases he
      exact hm.registry (changed_of_changeStore hstore) hv hu.1 hu.2
  | volume pvc =>
      obtain ⟨⟨store', pvc'⟩, hstore, he⟩ := Option.map_eq_some_iff.mp hchange
      cases he
      exact hm.volume (changed_of_changeStore hstore) hv.1 hu.1 hu.2
  | ssoConfig cfg =>
      obtain ⟨⟨store', cfg'⟩, hstore, he⟩ := Option.map_eq_some_iff.mp hchange
      cases he
      exact hm.ssoConfig (changed_of_changeStore hstore) hv hu
  | protectedEndpoint e =>
      obtain ⟨⟨store', e'⟩, hstore, he⟩ := Option.map_eq_some_iff.mp hchange
      cases he
      exact hm.protectedEndpoint (changed_of_changeStore hstore) hv
  | accessToken t =>
      obtain ⟨⟨store', t'⟩, hstore, he⟩ := Option.map_eq_some_iff.mp hchange
      cases he
      exact hm.accessToken (changed_of_changeStore hstore) hv hu
  | roleBinding b =>
      obtain ⟨⟨store', b'⟩, hstore, he⟩ := Option.map_eq_some_iff.mp hchange
      cases he
      exact hm.roleBinding (changed_of_changeStore hstore) hv hu

/-! ### Objects that are told again -/

/-- Nothing is told. -/
theorem told_of_nil {object : WatchedObject sum256} (hmsg : watchMessages env c h.server .add object = []) :
    h.told env c object = h := by
  rw [History.told, hmsg]
  rfl

theorem told_of_ne_nil {object : WatchedObject sum256} {ms : List ResMessage}
    (hmsg : watchMessages env c h.server .add object = ms) (hne : ms ≠ []) :
    h.told env c object =
      ⟨h.server, h.latest.after env h.server object, ms.foldl RootState.onMessage h.store⟩ := by
  rw [History.told, hmsg, if_neg fun hempty => hne (List.isEmpty_iff.mp hempty)]

/-- The data is what it was, and the store leaves it. -/
theorem told_of_same {object : WatchedObject sum256} {m : ResMessage}
    (hmsg : watchMessages env c h.server .add object = [m])
    (hlatest : h.latest.after env h.server object = h.latest) (hstore : h.store.onMessage m = h.store) :
    h.told env c object = h := by
  rw [told_of_ne_nil hmsg (List.cons_ne_nil m []), hlatest, List.foldl_cons, List.foldl_nil, hstore]

theorem Mirrors.told_application (hm : Mirrors h) {n : NamespaceObject}
    (hf : h.server.namespaces.find n.name.val = some n)
    (hv : canViewNamespace c.policies c.client n.name.val = some true)
    (hs : Retellable env h (.application n)) : Mirrors (h.told env c (.application n)) := by
  by_cases hsystem : n.name.val = kalmSystemNamespace
  · rwa [told_of_nil (watchMessages_application_untold (.inl hsystem))]
  cases hlabel : n.isEnabled with
  | false =>
      rwa [told_of_nil (watchMessages_application_untold (.inr hlabel))]
  | true =>
      have hmsg : watchMessages env c h.server .add (.application n) = _ :=
        watchMessages_application hsystem hlabel hv
      cases happ : n.isApplication with
      | false =>
          -- it is being deleted: it is not added, and its data is not shown
          rw [told_of_ne_nil hmsg (List.cons_ne_nil _ [])]
          have hinactive : ¬ n.phase = str "Active" := fun e => by
            rw [NamespaceObject.isApplication, hlabel, e] at happ
            exact absurd happ (by decide)
          refine { hm with applications := ?_ }
          show Lists ApplicationDetails.name (if _ then _ else _) _
          rw [if_neg fun hboth => hinactive hboth.1]
          have hsame : present h.server.namespaces NamespaceObject.isApplication (fun k _ =>
              Function.update h.latest.applications n.name.val (buildApplicationDetails env.observed n) k) =
              present h.server.namespaces NamespaceObject.isApplication fun k _ => h.latest.applications k := by
            funext k
            by_cases hk : k = n.name.val
            · subst hk
              rw [present, present, hf, Option.bind_some, Option.bind_some, happ]
              rfl
            · rw [present, present, Function.update_of_ne hk]
          show Lists _ _ (present h.server.namespaces NamespaceObject.isApplication (fun k _ =>
            Function.update h.latest.applications n.name.val (buildApplicationDetails env.observed n) k))
          rw [hsame]
          exact hm.applications
      | true =>
          have hthere : present h.server.namespaces NamespaceObject.isApplication
              (fun k _ => h.latest.applications k) n.name.val ≠ none := by
            rw [present_eq_some.mpr ⟨n, hf, happ, rfl⟩]
            exact Option.some_ne_none _
          have hin : isInArray ApplicationDetails.name h.store.applications
              (buildApplicationDetails env.observed n) = true :=
            isInArray_of_live _ hm.applications (fun _ _ he => he) hthere
          rw [told_of_same hmsg]
          · exact hm
          · exact congrArg (fun x => { h.latest with applications := x })
              (Function.update_eq_self_iff.mpr (hs happ hsystem))
          · have hkept : applicationReducer h.store.applications .add (buildApplicationDetails env.observed n) =
                h.store.applications :=
              if_neg fun hboth => Bool.noConfusion (hin.symm.trans hboth.2)
            exact congrArg (fun x => { h.store with applications := x }) hkept

theorem Mirrors.told_component (hm : Mirrors h) {comp : ComponentObject}
    (hf : h.server.components.find (comp.ns, comp.name) = some comp)
    (hv : canViewNamespace c.policies c.client comp.ns = some true)
    (hs : buildComponentDetails env.observed h.server comp = h.latest.components (comp.ns, comp.name)) :
    Mirrors (h.told env c (.component comp)) := by
  have hmsg : watchMessages env c h.server .add (.component comp) =
      [⟨comp.ns, .component, .add, some (.component comp.ns
        (buildComponentDetails env.observed h.server comp))⟩] :=
    watchMessages_of_permitted rfl rfl hv
  have hthere : present h.server.components always (fun k _ => h.latest.components k)
      (comp.ns, comp.name) ≠ none := by
    rw [present_eq_some.mpr ⟨comp, hf, rfl, rfl⟩]
    exact Option.some_ne_none _
  have hin : isComponentInState h.store.components comp.ns
      (buildComponentDetails env.observed h.server comp) = true := by
    have harray := isInArray_of_live (buildComponentDetails env.observed h.server comp)
      (hm.components comp.ns) (fun _ _ he => he) hthere
    unfold isComponentInState
    split
    · rename_i hnone
      rw [hnone] at harray
      cases harray
    · rename_i components hsome
      rw [hsome] at harray
      exact harray
  rw [told_of_same hmsg]
  · exact hm
  · exact congrArg (fun x => { h.latest with components := x }) (Function.update_eq_self_iff.mpr hs)
  · have hkept : componentReducer h.store.components .add comp.ns
        (buildComponentDetails env.observed h.server comp) = h.store.components := if_pos hin
    exact congrArg (fun x => { h.store with components := x }) hkept

/-- A kind whose reducer ignores what it has. -/
theorem guarded_of_live {I T : Type} {ident : T → I} {name : T → Str} {l : List T} {live : I → Option T}
    (item : T) (hl : Lists ident l live) (hnamed : ∀ x ∈ l, ident x = ident item → name x = name item)
    (hthere : live (ident item) ≠ none) : guardedPutOrRemove name l .add item = l := by
  show (if isInArray name l item then l else _) = l
  rw [if_pos (isInArray_of_live item hl hnamed hthere)]

theorem Mirrors.told_node (hm : Mirrors h) {n : NodeObject} (hf : h.server.nodes.find n.name = some n)
    (hv : canViewCluster c.policies c.client = some true)
    (hs : buildNodeResponse env.observed h.server n = h.latest.nodes n.name) :
    Mirrors (h.told env c (.node n)) := by
  have hmsg : watchMessages env c h.server .add (.node n) =
      [⟨[], .node, .add, some (.node (buildNodeResponse env.observed h.server n))⟩] :=
    watchMessages_of_permitted rfl rfl hv
  have hthere : present h.server.nodes always (fun k _ => h.latest.nodes k) n.name ≠ none := by
    rw [present_eq_some.mpr ⟨n, hf, rfl, rfl⟩]
    exact Option.some_ne_none _
  rw [told_of_same hmsg]
  · exact hm
  · exact congrArg (fun x => { h.latest with nodes := x }) (Function.update_eq_self_iff.mpr hs)
  · exact congrArg (fun x => { h.store with nodes := x }) (guarded_of_live
      (buildNodeResponse env.observed h.server n) hm.nodes (fun _ _ he => he) hthere)

theorem Mirrors.told_httpsCert (hm : Mirrors h) {cert : HttpsCertObject}
    (hf : h.server.httpsCerts.find cert.name = some cert)
    (hv : canViewCluster c.policies c.client = some true) : Mirrors (h.told env c (.httpsCert cert)) := by
  have hmsg : watchMessages env c h.server .add (.httpsCert cert) =
      [⟨[], .httpsCert, .add, some (.httpsCert (buildHttpsCertResponse cert))⟩] :=
    watchMessages_of_permitted rfl rfl hv
  have hthere : present h.server.httpsCerts always (fun _ cert => buildHttpsCertResponse cert) cert.name ≠ none := by
    rw [present_eq_some.mpr ⟨cert, hf, rfl, rfl⟩]
    exact Option.some_ne_none _
  rw [told_of_same hmsg rfl]
  · exact hm
  · exact congrArg (fun x => { h.store with certificates := x }) (guarded_of_live
      (buildHttpsCertResponse cert) hm.certificates (fun _ _ he => he) hthere)

/-- A registry whose secret cannot be read is not told. -/
theorem Mirrors.told_registry (hm : Mirrors h) {r : DockerRegistryObject}
    (hf : h.server.dockerRegistries.find r.name = some r)
    (hv : canViewCluster c.policies c.client = some true)
    (hs : buildDockerRegistryFromResource r (h.server.secrets.find (kalmSystemNamespace,
      getRegistryAuthenticationName r.name)) = h.latest.registries r.name) :
    Mirrors (h.told env c (.registry r)) := by
  have hb : buildResMessage env c h.server .add (.registry r) = buildRegistryResMessage env c h.server .add r :=
    rfl
  rw [buildRegistryResMessage] at hb
  cases hget : getDockerRegistry h.server env.secretLast r.name with
  | none =>
      have hnone : sendWatchResMessage (buildResMessage env c h.server .add (.registry r)) = none := by
        rw [hb, hget, hv]
        rfl
      rw [told_of_nil (watchMessages_eq_nil rfl hnone)]
      exact hm
  | some x =>
      obtain ⟨-, rfl⟩ := getDockerRegistry_eq_some.mp hget
      rw [hf, Option.getD_some] at hget
      rw [hget] at hb
      have hthere : present h.server.dockerRegistries always (fun k _ => h.latest.registries k) r.name ≠ none := by
        rw [present_eq_some.mpr ⟨r, hf, rfl, rfl⟩]
        exact Option.some_ne_none _
      rw [told_of_same (watchMessages_of_permitted rfl hb hv)]
      · exact hm
      · exact congrArg (fun x => { h.latest with registries := x }) (Function.update_eq_self_iff.mpr hs)
      · exact congrArg (fun x => { h.store with registries := x }) (guarded_of_live
          (buildDockerRegistryFromResource r (h.server.secrets.find
            (kalmSystemNamespace, getRegistryAuthenticationName r.name))) hm.registries (fun _ _ he => he) hthere)

theorem Mirrors.told_httpRoute (hm : Mirrors h) {r : StoredHttpRoute}
    (hf : h.server.httpRoutes.find (r.ns.val, r.name.val) = some r)
    (hv : Viewed c (.httpRoute r : WatchedObject sum256)) : Mirrors (h.told env c (.httpRoute r)) := by
  have hmsg : watchMessages env c h.server .add (.httpRoute r) =
      [⟨r.ns.val, .httpRoute, .add, some (.httpRoute (buildHttpRouteFromResource r.toHttpRoute))⟩] :=
    watchMessages_of_permitted rfl rfl hv
  have hthere : present h.server.httpRoutes always
      (fun _ r => buildHttpRouteFromResource r.toHttpRoute) (r.ns.val, r.name.val) ≠ none := by
    rw [present_eq_some.mpr ⟨r, hf, rfl, rfl⟩]
    exact Option.some_ne_none _
  have hin : isInArray HttpRouteResource.name h.store.httpRoutes _ = true := isInArray_of_live
    (buildHttpRouteFromResource r.toHttpRoute) hm.httpRoutes (fun _ _ he => congrArg Prod.snd he) hthere
  obtain ⟨index, hindex⟩ := Option.isSome_iff_exists.mp hin
  rw [told_of_same hmsg rfl]
  · exact hm
  · have hkept : routeReducer h.store.httpRoutes .add (buildHttpRouteFromResource r.toHttpRoute) =
        h.store.httpRoutes := by
      show addOrUpdateInArray HttpRouteResource.name h.store.httpRoutes _ false = _
      rw [addOrUpdateInArray, hindex]
      rfl
    exact congrArg (fun x => { h.store with httpRoutes := x }) hkept

theorem Mirrors.told_volume (hm : Mirrors h) {pvc : PersistentVolumeClaim}
    (hf : h.server.claims.find (pvc.ns, pvc.name) = some pvc)
    (hv : canViewCluster c.policies c.client = some true) (hs : Retellable env h (.volume pvc)) :
    Mirrors (h.told env c (.volume pvc)) := by
  by_cases hmanaged : labelValue pvc.labels kalmManaged = str "true"
  · have hb : buildResMessage env c h.server .add (.volume pvc) =
        permitted (canViewCluster c.policies c.client) (.message ⟨[], .volume, .add,
          some (.volume (buildVolumeResponse h.server pvc))⟩) := if_neg (not_not.mpr hmanaged)
    rw [told_of_ne_nil (watchMessages_of_permitted rfl hb hv) (List.cons_ne_nil _ [])]
    have hshown : pvc.isManaged = true := decide_eq_true hmanaged
    have hagain := present_again (fun k (_ : PersistentVolumeClaim) => h.latest.persistentVolumes k)
      (fun k _ => (h.latest.after env h.server (.volume pvc)).persistentVolumes k) hf hshown
      fun k _ hk => Function.update_of_ne hk _ _
    refine { hm with persistentVolumes := ?_ }
    show Lists _ _ (present h.server.claims PersistentVolumeClaim.isManaged
      fun k _ => (h.latest.after env h.server (.volume pvc)).persistentVolumes k)
    rw [hagain]
    have hitem : (h.latest.after env h.server (.volume pvc)).persistentVolumes (pvc.ns, pvc.name) =
        buildVolumeResponse h.server pvc := Function.update_self _ _ _
    rw [hitem]
    exact lists_put (buildVolumeResponse h.server pvc) hm.persistentVolumes
      (.of_alone hm.persistentVolumes (fun _ => rfl) (hs hshown))
  · have hb : sendWatchResMessage (buildResMessage env c h.server .add (.volume pvc)) = none := by
      have hblank : buildResMessage env c h.server .add (.volume pvc) = .blank := if_pos hmanaged
      rw [hblank]
      rfl
    rw [told_of_nil (watchMessages_eq_nil rfl hb)]
    exact hm

theorem Mirrors.told_ssoConfig (hm : Mirrors h) {cfg : SingleSignOnConfig}
    (hv : canViewCluster c.policies c.client = some true) : Mirrors (h.told env c (.ssoConfig cfg)) := by
  by_cases hname : cfg.name = ssoName
  · have hb : buildResMessage env c h.server .add (.ssoConfig cfg) =
        permitted (canViewCluster c.policies c.client) (.message ⟨[], .singleSignOnConfig, .add,
          (getSSOConfig h.server).map .ssoConfig⟩) := if_neg (not_not.mpr hname)
    rw [told_of_ne_nil (watchMessages_of_permitted rfl hb hv) (List.cons_ne_nil _ [])]
    cases hget : getSSOConfig h.server with
    | none => exact { hm with config := congrArg (Option.map hideConnectors) hget.symm }
    | some spec => exact { hm with config := congrArg (Option.map hideConnectors) hget.symm }
  · have hb : sendWatchResMessage (buildResMessage env c h.server .add (.ssoConfig cfg)) = none := by
      have hnothing : buildResMessage env c h.server .add (.ssoConfig cfg) = .nothing := if_pos hname
      rw [hnothing]
      rfl
    rw [told_of_nil (watchMessages_eq_nil rfl hb)]
    exact hm

theorem Mirrors.told_protectedEndpoint (hm : Mirrors h) {e : ProtectedEndpointObject}
    (hf : h.server.protectedEndpoints.find (e.ns, e.name) = some e)
    (hv : canViewNamespace c.policies c.client e.ns = some true) :
    Mirrors (h.told env c (.protectedEndpoint e)) := by
  have hmsg : watchMessages env c h.server .add (.protectedEndpoint e) = [⟨[], .protectedEndpoint, .add,
      some (.protectedEndpoint (protectedEndpointCRDToProtectedEndpoint e))⟩] :=
    watchMessages_of_permitted rfl rfl hv
  rw [told_of_ne_nil hmsg (List.cons_ne_nil _ [])]
  have hlist : Lists _ (protectedEndpointReducer h.store.protectedEndpoints .add _) _ :=
    lists_protectedEndpointReducer (protectedEndpointCRDToProtectedEndpoint e) hm.protectedEndpoints
  refine { hm with protectedEndpoints := ?_ }
  rw [if_neg (by decide)] at hlist
  exact (update_present always hf rfl rfl) ▸ hlist

theorem Mirrors.told_accessToken (hm : Mirrors h) {t : StoredAccessToken sum256}
    (hf : h.server.accessTokens.find t.name = some t) (hv : Viewed c (.accessToken t)) :
    Mirrors (h.told env c (.accessToken t)) := by
  cases hdeploy : t.isDeploy with
  | true =>
      have hb : buildResMessage env c h.server .add (.accessToken t) =
          permitted (permissionsGreaterThanOrEqualAccessToken c.policies c.client t.toAccessToken)
            (.message ⟨[], .deployAccessToken, .add, some (.accessToken t.toAccessToken)⟩) := if_pos hdeploy
      rw [told_of_ne_nil (watchMessages_of_permitted rfl hb hv) (List.cons_ne_nil _ [])]
      have hlist := lists_put (accessTokenToDeployAccessToken t.toAccessToken) hm.deployAccessTokens .of_name
      exact { hm with
        deployAccessTokens := (update_present StoredAccessToken.isDeploy hf hdeploy rfl) ▸ hlist }
  | false =>
      have hb : sendWatchResMessage (buildResMessage env c h.server .add (.accessToken t)) = none := by
        have hnothing : buildResMessage env c h.server .add (.accessToken t) = .nothing :=
          if_neg (Bool.eq_false_iff.mp hdeploy)
        rw [hnothing]
        rfl
      rw [told_of_nil (watchMessages_eq_nil rfl hb)]
      exact hm

theorem Mirrors.told_roleBinding (hm : Mirrors h) {b : AcceptedRoleBinding}
    (hf : h.server.roleBindings.find (b.ns.val, b.name.val) = some b)
    (hv : Viewed c (.roleBinding b : WatchedObject sum256)) (hs : Retellable env h (.roleBinding b)) :
    Mirrors (h.told env c (.roleBinding b)) := by
  have hmsg : watchMessages env c h.server .add (.roleBinding b) =
      [⟨[], .roleBinding, .add, some (.roleBinding (buildRoleBinding b.toRoleBinding))⟩] :=
    watchMessages_of_permitted rfl rfl hv
  rw [told_of_ne_nil hmsg (List.cons_ne_nil _ [])]
  have hlist := lists_put (buildRoleBinding b.toRoleBinding) hm.roleBindings
    (.of_alone hm.roleBindings (fun _ => rfl) hs)
  exact { hm with roleBindings := (update_present always hf rfl rfl) ▸ hlist }

theorem Mirrors.told_pod (hm : Mirrors h) {pod : PodObject}
    (hv : canViewNamespace c.policies c.client pod.ns = some true) : Mirrors (h.told env c (.pod pod)) := by
  have hmsg : watchMessages env c h.server .add (.pod pod) =
      (sendWatchResMessage (if labelValue pod.labels kalmComponent = [] then .blank
        else causedByPart env c h.server pod.ns (labelValue pod.labels kalmComponent))).toList := by
    show List.filterMap _ [Watched.pod pod] = _
    rw [List.filterMap_cons, List.filterMap_nil]
    rfl
  by_cases hnil : watchMessages env c h.server .add (.pod pod) = []
  · rw [told_of_nil hnil]
    exact hm
  · obtain ⟨components, latestComponents, hstore, hlatest, hlisted⟩ :=
      listed_part (r := h.store) (e := .blank) env h.server (labelValue pod.labels kalmComponent) rfl hv
        hm.components
    rw [hmsg] at hnil
    rw [told_of_ne_nil hmsg hnil, hstore]
    have hafter : h.latest.after env h.server (.pod pod) = _ := hlatest
    rw [hafter]
    exact { hm with components := hlisted }

theorem Mirrors.told_service (hm : Mirrors h) {svc : ServiceObject}
    (hf : h.server.services.find (svc.ns, svc.name) = some svc)
    (hv : canViewNamespace c.policies c.client svc.ns = some true) (hs : Retellable env h (.service svc)) :
    Mirrors (h.told env c (.service svc)) := by
  obtain ⟨components, latestComponents, hstore, hlatest, hlisted⟩ :=
    listed_part (r := h.store) (e := .nothing) env h.server (labelValue svc.labels kalmComponent) rfl hv
      hm.components
  rw [told_of_ne_nil (watchMessages_service hv) (List.append_ne_nil_of_right_ne_nil _ (List.cons_ne_nil _ [])),
    List.foldl_append, hstore]
  have hafter : h.latest.after env h.server (.service svc) = _ := hlatest
  rw [hafter]
  have hlist := lists_put (buildServiceResponse svc) hm.services (.of_alone hm.services (fun _ => rfl) hs)
  exact { hm with
    components := hlisted
    services := (update_present always hf rfl rfl) ▸ hlist }

/-- The object of a key. -/
theorem stored_of_find {K V : Type} [DecidableEq K] {key : V → K} {store : Store V key} {v v' : V}
    (h : store.find (key v) = some v') : store.find (key v') = some v' := by
  rwa [(Store.find_eq_some.mp h).2]

/-- **An object that is told again**, where it is not confused and nothing new is ignored. -/
theorem Mirrors.told (hm : Mirrors h) {object object' : WatchedObject sum256}
    (hstored : h.server.stored object = some object') (hv : Viewed c object') (hs : Retellable env h object') :
    Mirrors (h.told env c object') := by
  cases object with
  | application n =>
      obtain ⟨n', hf, he⟩ := Option.map_eq_some_iff.mp hstored
      cases he
      exact hm.told_application (stored_of_find hf) hv hs
  | component comp =>
      obtain ⟨comp', hf, he⟩ := Option.map_eq_some_iff.mp hstored
      cases he
      exact hm.told_component (stored_of_find hf) hv hs
  | service svc =>
      obtain ⟨svc', hf, he⟩ := Option.map_eq_some_iff.mp hstored
      cases he
      exact hm.told_service (stored_of_find hf) hv hs
  | pod pod =>
      obtain ⟨pod', hf, he⟩ := Option.map_eq_some_iff.mp hstored
      cases he
      exact hm.told_pod hv
  | httpRoute r =>
      obtain ⟨r', hf, he⟩ := Option.map_eq_some_iff.mp hstored
      cases he
      exact hm.told_httpRoute (stored_of_find hf) hv
  | node n =>
      obtain ⟨n', hf, he⟩ := Option.map_eq_some_iff.mp hstored
      cases he
      exact hm.told_node (stored_of_find hf) hv hs
  | httpsCert cert =>
      obtain ⟨cert', hf, he⟩ := Option.map_eq_some_iff.mp hstored
      cases he
      exact hm.told_httpsCert (stored_of_find hf) hv
  | registry r =>
      obtain ⟨r', hf, he⟩ := Option.map_eq_some_iff.mp hstored
      cases he
      exact hm.told_registry (stored_of_find hf) hv hs
  | volume pvc =>
      obtain ⟨pvc', hf, he⟩ := Option.map_eq_some_iff.mp hstored
      cases he
      exact hm.told_volume (stored_of_find hf) hv.1 hs
  | ssoConfig cfg =>
      obtain ⟨cfg', hf, he⟩ := Option.map_eq_some_iff.mp hstored
      cases he
      exact hm.told_ssoConfig hv
  | protectedEndpoint e =>
      obtain ⟨e', hf, he⟩ := Option.map_eq_some_iff.mp hstored
      cases he
      exact hm.told_protectedEndpoint (stored_of_find hf) hv
  | accessToken t =>
      obtain ⟨t', hf, he⟩ := Option.map_eq_some_iff.mp hstored
      cases he
      exact hm.told_accessToken (stored_of_find hf) hv
  | roleBinding b =>
      obtain ⟨b', hf, he⟩ := Option.map_eq_some_iff.mp hstored
      cases he
      exact hm.told_roleBinding (stored_of_find hf) hv hs

end Events

/-! ## 5. Loading -/

section Load

variable {env : Environment sum256} {c : Caller} {s : ApiState sum256}

/-- The objects of a kind, as the API lists them. -/
theorem lists_items {K V W : Type} [DecidableEq K] {key : V → K} (store : Store V key) {shown : V → Bool}
    {item : V → W} {ident : W → K} (hident : ∀ v, ident (item v) = key v) :
    Lists ident ((store.items.filter shown).map item) (present store shown fun _ => item) := by
  refine ⟨?_, fun k x => ?_⟩
  · rw [List.map_map]
    have hkeys : ident ∘ item = key := funext hident
    rw [hkeys]
    exact store.distinct.sublist (List.filter_sublist.map key)
  · rw [present_eq_some]
    constructor
    · rintro ⟨v, hv, hs, rfl⟩
      obtain ⟨hmem, hkey⟩ := Store.find_eq_some.mp hv
      exact ⟨List.mem_map_of_mem (List.mem_filter.mpr ⟨hmem, hs⟩), (hident v).trans hkey⟩
    · rintro ⟨hx, he⟩
      obtain ⟨v, hv, rfl⟩ := List.mem_map.mp hx
      obtain ⟨hmem, hs⟩ := List.mem_filter.mp hv
      exact ⟨v, Store.find_eq_some.mpr ⟨hmem, (hident v).symm.trans he⟩, hs, rfl⟩

/-- A kind all of whose objects are shown. -/
theorem lists_all {K V W : Type} [DecidableEq K] {key : V → K} (store : Store V key) {item : V → W}
    {ident : W → K} (hident : ∀ v, ident (item v) = key v) :
    Lists ident (store.items.map item) (present store always fun _ => item) := by
  have hall : store.items.filter always = store.items := List.filter_eq_self.mpr fun _ _ => rfl
  have h : Lists ident ((store.items.filter always).map item) (present store always fun _ => item) :=
    lists_items store hident
  rw [hall] at h
  exact h

/-- The items of a kind, back from an answer. -/
theorem list_ok {V T : Type} {items : List V} {item : V → Item} {f : Item → Option T} {g : V → T}
    (hf : ∀ v, f (item v) = some (g v)) : (Reply.ok (.items (items.map item))).list f = items.map g := by
  show (items.map item).filterMap f = items.map g
  rw [List.filterMap_map]
  have hfun : f ∘ item = some ∘ g := funext hf
  rw [hfun, List.filterMap_eq_map]

theorem loadServices_eq (hv : canViewCluster c.policies c.client = some true) :
    loadServices env c s = s.services.items.map buildServiceResponse := by
  show Reply.list (requires (canViewCluster c.policies c.client) _ _ s).1 _ = _
  rw [hv]
  exact list_ok fun _ => rfl

theorem lists_services (hv : canViewCluster c.policies c.client = some true) :
    Lists (fun x => (x.ns, x.name)) (loadServices env c s)
      (present s.services always fun _ svc => buildServiceResponse svc) := by
  rw [loadServices_eq hv]
  exact lists_all s.services fun _ => rfl

/-- The same of a list that is filtered, when the client may view every object of it. -/
theorem list_listFiltered {V T : Type} {keep : V → Option Bool} {items : List V} {item : V → Item}
    {f : Item → Option T} {g : V → T} (hkeep : ∀ v ∈ items, keep v = some true)
    (hf : ∀ v, f (item v) = some (g v)) : (listFiltered keep item items s).1.list f = items.map g := by
  rw [listFiltered, Keyed.filterInPlace_eq_self hkeep]
  exact list_ok hf

theorem lists_volumes (hv : ∀ pvc ∈ s.claims.items, Viewed c (.volume pvc : WatchedObject sum256)) :
    Lists (fun x => (x.componentNamespace, x.name)) (getPersistentVolumes env c s)
      (present s.claims PersistentVolumeClaim.isManaged fun k _ =>
        (Latest.loaded env s).persistentVolumes k) := by
  have hlist : ∀ claims : List PersistentVolumeClaim,
      (∀ pvc ∈ claims, canViewNamespace c.policies c.client pvc.ns = some true) →
        listVolumes c s claims = some (claims.map fun pvc => .volume (buildVolumeResponse s pvc)) := by
    intro claims hclaims
    induction claims with
    | nil => rfl
    | cons pvc claims ih =>
        obtain ⟨hpvc, hclaims⟩ := List.forall_mem_cons.mp hclaims
        rw [listVolumes, hpvc]
        dsimp only
        rw [ih hclaims]
        rfl
  have hreply : getPersistentVolumes env c s =
      (s.claims.items.filter PersistentVolumeClaim.isManaged).map (buildVolumeResponse s) := by
    show Reply.list (handleListVolumes c s).1 _ = _
    have hmanaged := hlist (s.claims.items.filter PersistentVolumeClaim.isManaged)
      fun pvc hpvc => (hv pvc (List.mem_filter.mp hpvc).1).2
    unfold handleListVolumes
    have hsame : (s.claims.items.filter fun pvc => labelValue pvc.labels kalmManaged = str "true") =
        s.claims.items.filter PersistentVolumeClaim.isManaged := rfl
    rw [hsame, hmanaged]
    exact list_ok fun _ => rfl
  rw [hreply]
  have hdata : (present s.claims PersistentVolumeClaim.isManaged fun _ => buildVolumeResponse s) =
      present s.claims PersistentVolumeClaim.isManaged fun k _ =>
        (Latest.loaded env s).persistentVolumes k := by
    refine present_congr fun k v hf => ?_
    show _ = ((s.claims.find k).map _).getD _
    rw [hf]
    rfl
  rw [← hdata]
  exact lists_items s.claims fun _ => rfl

theorem lists_applications (hs : Sees c s) (hset : Orderly s) :
    getApplicationList env c s =
        (s.namespaces.items.filter NamespaceObject.isApplication).map
          (buildApplicationDetails env.observed) ∧
      Lists ApplicationDetails.name (getApplicationList env c s)
        (present s.namespaces NamespaceObject.isApplication fun k _ =>
          (Latest.loaded env s).applications k) := by
  have hfilter : s.namespaces.items.filter NamespaceObject.isEnabled =
      s.namespaces.items.filter NamespaceObject.isApplication := by
    refine List.filter_congr fun n hn => ?_
    cases hlabel : n.isEnabled with
    | true => exact (hset.applications n hn hlabel).symm
    | false =>
        rw [NamespaceObject.isApplication, hlabel]
        rfl
  have hreply : getApplicationList env c s =
      (s.namespaces.items.filter NamespaceObject.isApplication).map
        (buildApplicationDetails env.observed) := by
    show Reply.list (handleGetApplications env c s).1 _ = _
    rw [handleGetApplications, Keyed.filterInPlace_eq_self hs.namespaces, ← hfilter]
    exact list_ok fun _ => rfl
  refine ⟨hreply, ?_⟩
  rw [hreply]
  have hdata : (present s.namespaces NamespaceObject.isApplication fun _ =>
      buildApplicationDetails env.observed) =
      present s.namespaces NamespaceObject.isApplication fun k _ =>
        (Latest.loaded env s).applications k := by
    refine present_congr fun k v hf => ?_
    show _ = ((s.namespaces.find k).map _).getD _
    rw [hf]
    rfl
  rw [← hdata]
  exact lists_items s.namespaces fun _ => rfl

/-- The objects of one namespace. -/
theorem lists_namespace {V W : Type} {key : V → Str × Str} (store : Store V key) {item : V → W}
    {name : W → Str} {ns : Str} {inNamespace : V → Bool}
    (hns : ∀ v, inNamespace v = decide ((key v).1 = ns)) (hname : ∀ v, name (item v) = (key v).2) :
    Lists name ((store.items.filter inNamespace).map item) fun n =>
      present store always (fun _ => item) (ns, n) := by
  have hin : ∀ v ∈ store.items.filter inNamespace, v ∈ store.items ∧ (key v).1 = ns := by
    intro v hv
    obtain ⟨hmem, hin⟩ := List.mem_filter.mp hv
    rw [hns] at hin
    exact ⟨hmem, of_decide_eq_true hin⟩
  refine ⟨?_, fun n x => ?_⟩
  · rw [List.map_map]
    refine List.Nodup.map_on (fun v hv w hw he => ?_) (store.distinct.of_map.filter _)
    obtain ⟨hv, hvns⟩ := hin v hv
    obtain ⟨hw, hwns⟩ := hin w hw
    rw [Function.comp_apply, Function.comp_apply, hname, hname] at he
    exact Store.eq_of_key hv hw (Prod.ext (hvns.trans hwns.symm) he)
  · rw [present_eq_some]
    constructor
    · rintro ⟨v, hf, -, rfl⟩
      obtain ⟨hmem, hkey⟩ := Store.find_eq_some.mp hf
      have hv : inNamespace v = true := by
        rw [hns, hkey]
        exact decide_eq_true rfl
      refine ⟨List.mem_map_of_mem (List.mem_filter.mpr ⟨hmem, hv⟩), ?_⟩
      rw [hname, hkey]
    · rintro ⟨hx, he⟩
      obtain ⟨v, hv, rfl⟩ := List.mem_map.mp hx
      obtain ⟨hmem, hvns⟩ := hin v hv
      exact ⟨v, Store.find_eq_some.mpr ⟨hmem, Prod.ext hvns ((hname v).symm.trans he)⟩, rfl, rfl⟩

/-- The components of one namespace. -/
theorem lists_components (hs : Sees c s) (hset : Orderly s) (ns : Str) :
    Lists ComponentDetails.name (((loadData env c s).components ns).getD []) fun name =>
      present s.components always (fun k _ => (Latest.loaded env s).components k) (ns, name) := by
  have hdata : (present s.components always fun _ => buildComponentDetails env.observed s) =
      present s.components always fun k _ => (Latest.loaded env s).components k := by
    refine present_congr fun k v hf => ?_
    show _ = ((s.components.find k).map _).getD _
    rw [hf]
    rfl
  rw [← hdata]
  by_cases hany : (getApplicationList env c s).any fun app =>
      decide (app.status = str "Active") && decide (app.name = ns)
  · have hloaded : (loadData env c s).components ns = some (getApplicationComponentList env c s ns) :=
      if_pos hany
    have hv : canViewNamespace c.policies c.client ns = some true := by
      rw [(lists_applications hs hset).1] at hany
      obtain ⟨app, happ, hname⟩ := List.any_eq_true.mp hany
      obtain ⟨n, hn, rfl⟩ := List.mem_map.mp happ
      have hns : n.name.val = ns := of_decide_eq_true (Bool.and_eq_true_iff.mp hname).2
      rw [← hns]
      exact hs.namespaces n (List.mem_filter.mp hn).1
    have hreply : getApplicationComponentList env c s ns =
        (s.components.items.filter fun comp => decide (comp.ns = ns)).map
          (buildComponentDetails env.observed s) := by
      show Reply.list (requires (canViewNamespace c.policies c.client ns) _ _ s).1 _ = _
      rw [hv]
      show Reply.list (.ok (.items (List.map (fun comp : ComponentObject =>
        Item.component comp.ns (buildComponentDetails env.observed s comp)) _))) _ = _
      exact list_ok fun _ => rfl
    rw [hloaded, Option.getD_some, hreply]
    exact lists_namespace s.components (fun _ => rfl) fun _ => rfl
  · -- nothing is loaded, and no component is there
    have hloaded : (loadData env c s).components ns = none := if_neg hany
    have hnone : (fun name => present s.components always
        (fun _ => buildComponentDetails env.observed s) (ns, name)) = fun _ => none := by
      funext name
      refine Option.eq_none_iff_forall_ne_some.mpr fun x hx => hany ?_
      obtain ⟨comp, hf, -⟩ := present_eq_some.mp hx
      obtain ⟨hmem, hkey⟩ := Store.find_eq_some.mp hf
      obtain ⟨n, hn, happ, hname⟩ := hset.components comp hmem
      rw [(lists_applications hs hset).1]
      refine List.any_eq_true.mpr ⟨buildApplicationDetails env.observed n,
        List.mem_map_of_mem (List.mem_filter.mpr ⟨hn, happ⟩), ?_⟩
      have hactive : n.phase = str "Active" := of_decide_eq_true (Bool.and_eq_true_iff.mp happ).2
      refine Bool.and_eq_true_iff.mpr ⟨decide_eq_true hactive, decide_eq_true ?_⟩
      exact hname.trans (congrArg Prod.fst hkey)
    rw [hloaded, hnone]
    exact .empty

theorem lists_registries : Lists DockerRegistry.name (getDockerRegistries s)
    (present s.dockerRegistries always fun k _ => (Latest.loaded env s).registries k) := by
  let item : DockerRegistryObject → DockerRegistry := fun registry =>
    buildDockerRegistryFromResource registry
      ((s.secrets.find (kalmSystemNamespace, getRegistryAuthenticationName registry.name)).filter
        fun secret => labelValue secret.labels (str "kalm-docker-registry-authentication") = str "true")
  have hdata : (present s.dockerRegistries always fun _ => item) =
      present s.dockerRegistries always fun k _ => (Latest.loaded env s).registries k := by
    refine present_congr fun k v hf => ?_
    show item v = (List.find? (fun r : DockerRegistry => decide (r.name = k))
      (s.dockerRegistries.items.map item)).getD _
    rw [List.find?_map]
    have hfind : List.find? ((fun r : DockerRegistry => decide (r.name = k)) ∘ item)
        s.dockerRegistries.items = some v := hf
    rw [hfind]
    rfl
  rw [← hdata]
  exact lists_all s.dockerRegistries fun _ => rfl

/-- **The lists of the API mirror the cluster**, for a client that may view what there is. -/
theorem Mirrors.load (hs : Sees c s) (hset : Orderly s) : Mirrors (.loaded env c s) := by
  have hv := hs.cluster
  refine
    { applications := (lists_applications hs hset).2
      components := lists_components hs hset
      services := lists_services hv
      httpRoutes := ?_
      nodes := ?_
      certificates := ?_
      registries := ?_
      persistentVolumes := lists_volumes hs.claims
      config := ?_
      protectedEndpoints := ?_
      deployAccessTokens := ?_
      roleBindings := ?_ }
  · have hreply : (loadData env c s).httpRoutes =
        s.httpRoutes.items.map fun r => buildHttpRouteFromResource r.toHttpRoute :=
      list_listFiltered hs.httpRoutes fun _ => rfl
    show Lists _ (loadData env c s).httpRoutes _
    rw [hreply]
    exact lists_all s.httpRoutes fun _ => rfl
  · have hreply : (loadData env c s).nodes = s.nodes.items.map (buildNodeResponse env.observed s) := by
      show Reply.list (requires (canViewCluster c.policies c.client) _ _ s).1 _ = _
      rw [hv]
      exact list_ok fun _ => rfl
    have hdata : (present s.nodes always fun _ => buildNodeResponse env.observed s) =
        present s.nodes always fun k _ => (Latest.loaded env s).nodes k := by
      refine present_congr fun k v hf => ?_
      show _ = ((s.nodes.find k).map _).getD _
      rw [hf]
      rfl
    show Lists _ (loadData env c s).nodes (present s.nodes always fun k _ => (Latest.loaded env s).nodes k)
    rw [hreply, ← hdata]
    exact lists_all s.nodes fun _ => rfl
  · have hreply : (loadData env c s).certificates = s.httpsCerts.items.map buildHttpsCertResponse := by
      show Reply.list (requires (canViewCluster c.policies c.client) _ _ s).1 _ = _
      rw [hv]
      exact list_ok fun _ => rfl
    show Lists _ (loadData env c s).certificates _
    rw [hreply]
    exact lists_all s.httpsCerts fun _ => rfl
  · have hreply : (loadData env c s).registries = getDockerRegistries s := by
      show Reply.list (requires (canViewRegistries c) _ _ s).1 _ = _
      rw [canViewRegistries_of_cluster hv]
      show Reply.list (.ok (.items ((getDockerRegistries s).map .registry))) _ = _
      exact Eq.trans (b := (getDockerRegistries s).map id) (list_ok fun _ => rfl) (List.map_id _)
    show Lists _ (loadData env c s).registries
      (present s.dockerRegistries always fun k _ => (Latest.loaded env s).registries k)
    rw [hreply]
    exact lists_registries
  · have hreply : (loadData env c s).config = (getSSOConfig s).map hideConnectors := by
      show (Reply.list (requires (canViewCluster c.policies c.client) _ _ s).1 _).head? = _
      rw [hv]
      show (Reply.list (.ok (.items ((getSSOConfig s).toList.map fun spec =>
        Item.ssoConfig (hideConnectors spec)))) _).head? = _
      cases getSSOConfig s with
      | none => rfl
      | some spec => rfl
    show (loadData env c s).config.map hideConnectors = (getSSOConfig s).map hideConnectors
    rw [hreply, Option.map_map]
    have htwice : hideConnectors ∘ hideConnectors = hideConnectors := by
      funext spec
      refine hideConnectors_eq_self.mpr fun conn hconn => ?_
      obtain ⟨_, _, rfl⟩ := List.mem_map.mp hconn
      rfl
    rw [htwice]
  · have hreply : (loadData env c s).protectedEndpoints =
        s.protectedEndpoints.items.map protectedEndpointCRDToProtectedEndpoint :=
      list_listFiltered hs.protectedEndpoints fun _ => rfl
    show Lists _ (loadData env c s).protectedEndpoints _
    rw [hreply]
    exact lists_all s.protectedEndpoints fun _ => rfl
  · have hkeep : ∀ t ∈ s.accessTokens.items.filter StoredAccessToken.isDeploy,
        permissionsGreaterThanOrEqualAccessToken c.policies c.client t.toAccessToken = some true :=
      fun t ht => hs.accessTokens t (List.mem_filter.mp ht).1
    have hreply : (loadData env c s).deployAccessTokens =
        (s.accessTokens.items.filter StoredAccessToken.isDeploy).map fun t =>
          accessTokenToDeployAccessToken t.toAccessToken := by
      show (Reply.list (listFiltered _ _ _ s).1 _).map accessTokenToDeployAccessToken = _
      refine (congrArg (List.map accessTokenToDeployAccessToken)
        (list_listFiltered hkeep fun _ => rfl)).trans ?_
      rw [List.map_map]
      rfl
    show Lists _ (loadData env c s).deployAccessTokens _
    rw [hreply]
    exact lists_items s.accessTokens fun _ => rfl
  · have hreply : (loadData env c s).roleBindings =
        s.roleBindings.items.map fun b => buildRoleBinding b.toRoleBinding :=
      list_listFiltered hs.roleBindings fun _ => rfl
    show Lists _ (loadData env c s).roleBindings _
    rw [hreply]
    exact lists_all s.roleBindings fun _ => rfl

end Load

/-! ## 6. Runs -/

/-- A service without a component. -/
theorem services_next {env : Environment sum256} {c : Caller} {h : History sum256} {action : WatchAction}
    {server : ApiState sum256} {svc : ServiceObject}
    (hv : canViewNamespace c.policies c.client svc.ns = some true)
    (hlabel : labelValue svc.labels kalmComponent = []) :
    (h.next env c action server (.service svc)).store.services =
      serviceReducer h.store.services action (buildServiceResponse svc) := by
  rw [History.next, watchMessages_service hv, if_pos hlabel]
  rfl

/-- A service without labels. -/
def webService (ns : Str) : ServiceObject := ⟨ns, str "web", [], []⟩

theorem clusterViewer_sees : Sees clusterViewer (ApiState.empty fun _ => []) where
  cluster := by decide
  namespaces _ hn := absurd hn List.not_mem_nil
  components _ hcomponent := absurd hcomponent List.not_mem_nil
  httpRoutes _ hroute := absurd hroute List.not_mem_nil
  claims _ hpvc := absurd hpvc List.not_mem_nil
  protectedEndpoints _ he := absurd he List.not_mem_nil
  accessTokens _ ht := absurd ht List.not_mem_nil
  roleBindings _ hb := absurd hb List.not_mem_nil

end Kalm
