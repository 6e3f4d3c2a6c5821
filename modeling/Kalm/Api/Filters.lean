/-
  File:      Kalm/Api/Filters.lean
  Subject:   WHAT THE CALLER MAY SEE OF A LIST: the five filters in place of api/handler (filter.go, access_token.go,
             rolebindings.go, routes.go), each the loop of InPlace.lean with its own check.

  * `ClientManager` -- the checks of the interface, as any predicates;
  * `Exact` -- a filter ends without an index error, returns the permitted records, each as often as in the input,
    and leaves a permutation of the input in the array;
  * **`filters_exact`** -- every one of the five does;
  * `listFiltered_eq` -- the lists that the handlers of Handlers.lean answer are what the loops return.
-/
import Kalm.Lib.InPlace
import Kalm.Api.Handlers

namespace Kalm.Filters

open InPlace (Outcome)

/-! ## 1. The filters -/

/-- The checks of `ClientManager` that the filters ask. -/
structure ClientManager where
  canViewNamespace : ClientInfo → Str → Bool
  canOperateHttpRoute : ClientInfo → Str → HttpRouteResource → Bool
  permissionsGreaterThanOrEqualAccessToken : ClientInfo → AccessToken → Bool
  canManageRoleBinding : ClientInfo → RoleBinding → Bool

/-- The loop that the five filters share, for a number of rounds. -/
def filterAuthorized {α : Type} (permitted : α → Bool) (rounds : Nat) (records : List α) : Outcome α :=
  InPlace.filter (fun record => some (permitted record)) rounds records

section Filters

variable (clientManager : ClientManager) (user : ClientInfo) (rounds : Nat)

/-- `filterAuthorizedApplications` -/
def filterAuthorizedApplications (apps : List NamespaceObject) : Outcome NamespaceObject :=
  filterAuthorized (fun app => clientManager.canViewNamespace user app.name.val) rounds apps

/-- `filterAuthorizedProtectedEndpoints` -/
def filterAuthorizedProtectedEndpoints (records : List ProtectedEndpoint) : Outcome ProtectedEndpoint :=
  filterAuthorized (fun record => clientManager.canViewNamespace user record.ns) rounds records

/-- `filterAuthorizedHttpRoutes` -/
def filterAuthorizedHttpRoutes (records : List HttpRouteResource) : Outcome HttpRouteResource :=
  filterAuthorized (fun record => clientManager.canOperateHttpRoute user (str "view") record) rounds records

/-- `filterAuthorizedAccessTokens` -/
def filterAuthorizedAccessTokens (records : List AccessToken) : Outcome AccessToken :=
  filterAuthorized (fun record => clientManager.permissionsGreaterThanOrEqualAccessToken user record) rounds records

/-- `filterAuthorizedRoleBindings` -/
def filterAuthorizedRoleBindings (records : List RoleBinding) : Outcome RoleBinding :=
  filterAuthorized (fun record => clientManager.canManageRoleBinding user record) rounds records

end Filters

/-! ## 2. They are exact -/

/-- The filter ends, with more rounds than there are records, without an index error; it returns the permitted
    records, each as often as in the input, and the array holds a permutation of the input. -/
def Exact {α : Type} (filter : Nat → List α → Outcome α) (permitted : α → Bool) : Prop :=
  ∀ records, ∃ array kept, (∀ rounds, records.length < rounds → filter rounds records = .returned array kept) ∧
    kept.Perm (records.filter permitted) ∧ array.Perm records

theorem exact_filterAuthorized {α : Type} (permitted : α → Bool) :
    Exact (filterAuthorized permitted) permitted := InPlace.exists_filter permitted

/-- **The filters are exact**, whatever the checks answer. -/
theorem filters_exact (clientManager : ClientManager) (user : ClientInfo) :
    Exact (filterAuthorizedApplications clientManager user)
        (fun app => clientManager.canViewNamespace user app.name.val) ∧
      Exact (filterAuthorizedProtectedEndpoints clientManager user)
        (fun record => clientManager.canViewNamespace user record.ns) ∧
      Exact (filterAuthorizedHttpRoutes clientManager user)
        (fun record => clientManager.canOperateHttpRoute user (str "view") record) ∧
      Exact (filterAuthorizedAccessTokens clientManager user)
        (fun record => clientManager.permissionsGreaterThanOrEqualAccessToken user record) ∧
      Exact (filterAuthorizedRoleBindings clientManager user)
        (fun record => clientManager.canManageRoleBinding user record) :=
  ⟨exact_filterAuthorized _, exact_filterAuthorized _, exact_filterAuthorized _, exact_filterAuthorized _,
    exact_filterAuthorized _⟩

/-- The last record is rejected, and so is the one that comes in its place. -/
example : filterAuthorized (fun n : Nat => n < 3) 5 [1, 7, 2, 9] = .returned [1, 2, 9, 7] [1, 2] := by decide

/-! ## 3. The lists of the handlers -/

/-- **A handler answers what the loop returns**, where its check does not panic. -/
theorem listFiltered_eq {sum256 : Str → List UInt8} {α : Type} {keep : α → Option Bool} {permitted : α → Bool}
    (hkeep : ∀ record, keep record = some (permitted record)) (item : α → Item) {rounds : Nat} {records : List α}
    (hr : records.length < rounds) :
    ∃ array kept, filterAuthorized permitted rounds records = .returned array kept ∧
      (listFiltered keep item records : Handler sum256) = answerWith (.ok (.items (kept.map item))) := by
  obtain ⟨array, kept, hruns, _⟩ := exact_filterAuthorized permitted records
  have hkept : (InPlace.filter (fun record => some (permitted record)) rounds records).kept =
      Keyed.filterInPlace (fun record => some (permitted record)) records := InPlace.kept_filter hr
  have hrun : InPlace.filter (fun record => some (permitted record)) rounds records = .returned array kept :=
    hruns rounds hr
  rw [hrun] at hkept
  refine ⟨array, kept, hruns rounds hr, ?_⟩
  rw [listFiltered, funext hkeep, ← hkept]
  rfl

end Kalm.Filters
