/-
  File:      Kalm/Lib/Objects.lean
  Subject:   AN OBJECT SERVER: objects of several kinds under keys, each with a version that every write
             changes; the calls of a client and their answers.

  * `Schema` -- the kinds, their objects, their keys, and which objects the server takes;
  * `State`, `put`, `remove` -- what is stored; `get_put` and the frame lemmas say what a write leaves;
  * `serve` -- a create needs a free key, an update the version that is stored; an update that says nothing
    new is no write; `get_serve` -- what a call does to what is under a key;
  * `returns_create`, `returns_update`, `returns_delete` -- when a call returns, and in which state;
    `returns_deleteAll` -- several deletes;
  * `find`, `save`, `deleteLoaded` -- an object is loaded, and then created, updated or deleted;
  * `Quiet` -- a run that returns and neither creates nor deletes;
  * `all_serve` -- what every written object has, every stored object keeps;
  * `Inherits` -- programs that write what has a property when what they read has it (`holds_of_inherits`).
-/
import Mathlib.Logic.Function.Basic
import Kalm.Lib.Calls
import Kalm.Lib.Store

namespace Objects

open Calls (Action)
open Keyed (Store)

/-! ## 1. Kinds -/

/-- Kinds of objects. -/
structure Schema where
  Kind : Type
  Key : Type
  Obj : Kind → Type
  key : {k : Kind} → Obj k → Key
  valid : {k : Kind} → Obj k → Bool
  [decKind : DecidableEq Kind]
  [decKey : DecidableEq Key]
  [decObj : ∀ k, DecidableEq (Obj k)]

attribute [instance] Schema.decKind Schema.decKey Schema.decObj

variable {S : Schema}

/-- An object as it is stored. -/
structure Versioned (S : Schema) (k : S.Kind) where
  obj : S.Obj k
  version : Nat

/-- The key of a stored object. -/
def Versioned.key {k : S.Kind} (v : Versioned S k) : S.Key := S.key v.obj

/-- What the server stores: the objects of each kind, and the number of its writes. -/
structure State (S : Schema) where
  objects : (k : S.Kind) → Store (Versioned S k) Versioned.key
  revision : Nat

namespace State

variable {s : State S} {k l : S.Kind} {key : S.Key} {obj : S.Obj k}

/-- The object of a kind under a key. -/
def get (s : State S) (k : S.Kind) (key : S.Key) : Option (Versioned S k) := (s.objects k).find key

/-- The objects of a kind. -/
def list (s : State S) (k : S.Kind) : List (Versioned S k) := (s.objects k).items

theorem get_eq_some {v : Versioned S k} : s.get k key = some v ↔ v ∈ s.list k ∧ v.key = key :=
  Store.find_eq_some

theorem get_self {v : Versioned S k} (h : v ∈ s.list k) : s.get k v.key = some v := Store.find_self h

/-- An object is written under its key. -/
def put (s : State S) (k : S.Kind) (obj : S.Obj k) : State S where
  objects := Function.update s.objects k
    (if (s.get k (S.key obj)).isSome then (s.objects k).replace ⟨obj, s.revision + 1⟩
      else (s.objects k).insert ⟨obj, s.revision + 1⟩)
  revision := s.revision + 1

/-- The object under a key is removed. -/
def remove (s : State S) (k : S.Kind) (key : S.Key) : State S where
  objects := Function.update s.objects k ((s.objects k).erase key)
  revision := s.revision + 1

theorem objects_put_self : (s.put k obj).objects k =
    if (s.get k (S.key obj)).isSome then (s.objects k).replace ⟨obj, s.revision + 1⟩
    else (s.objects k).insert ⟨obj, s.revision + 1⟩ := Function.update_self ..

theorem objects_put_of_ne (h : l ≠ k) : (s.put k obj).objects l = s.objects l :=
  Function.update_of_ne h ..

theorem objects_remove_self : (s.remove k key).objects k = (s.objects k).erase key :=
  Function.update_self ..

theorem objects_remove_of_ne (h : l ≠ k) : (s.remove k key).objects l = s.objects l :=
  Function.update_of_ne h ..

/-- **What is written is stored under its key**, and nothing else of its kind changes. -/
theorem get_put (key : S.Key) :
    (s.put k obj).get k key = if key = S.key obj then some ⟨obj, s.revision + 1⟩ else s.get k key := by
  rw [get, objects_put_self]
  cases hfind : s.get k (S.key obj) with
  | none =>
      rw [Option.isSome_none, if_neg Bool.false_ne_true]
      exact Store.find_insert (v := (⟨obj, s.revision + 1⟩ : Versioned S k)) hfind key
  | some v =>
      rw [Option.isSome_some, if_pos rfl]
      exact Store.find_replace (v := (⟨obj, s.revision + 1⟩ : Versioned S k)) hfind key

/-- Other kinds are left alone. -/
theorem get_put_of_ne (h : l ≠ k) (key : S.Key) : (s.put k obj).get l key = s.get l key := by
  rw [get, objects_put_of_ne h, get]

theorem list_put_of_ne (h : l ≠ k) : (s.put k obj).list l = s.list l := by
  rw [list, objects_put_of_ne h, list]

/-- **What is removed is gone**, and nothing else of its kind changes. -/
theorem get_remove (key key' : S.Key) :
    (s.remove k key).get k key' = if key' = key then none else s.get k key' := by
  rw [get, objects_remove_self]
  exact Store.find_erase key key'

theorem get_remove_of_ne (h : l ≠ k) (key key' : S.Key) : (s.remove k key).get l key' = s.get l key' := by
  rw [get, objects_remove_of_ne h, get]

theorem list_remove_of_ne (h : l ≠ k) (key : S.Key) : (s.remove k key).list l = s.list l := by
  rw [list, objects_remove_of_ne h, list]

/-- What a list holds is decided by what is under the keys. -/
theorem mem_list_iff {v : Versioned S k} : v ∈ s.list k ↔ s.get k v.key = some v :=
  ⟨get_self, fun h => (get_eq_some.mp h).1⟩

theorem mem_list_put {v : Versioned S k} :
    v ∈ (s.put k obj).list k ↔
      v = ⟨obj, s.revision + 1⟩ ∨ (v ∈ s.list k ∧ v.key ≠ S.key obj) := by
  rw [mem_list_iff, get_put, mem_list_iff]
  by_cases h : v.key = S.key obj
  · rw [if_pos h, Option.some_inj, eq_comm, or_iff_left fun hn => hn.2 h]
  · rw [if_neg h, and_iff_left h, or_iff_right]
    rintro rfl
    exact h rfl

theorem mem_list_remove {v : Versioned S k} :
    v ∈ (s.remove k key).list k ↔ v ∈ s.list k ∧ v.key ≠ key := by
  rw [mem_list_iff, get_remove, mem_list_iff]
  by_cases h : v.key = key
  · rw [if_pos h]
    exact iff_of_false (fun hn => by cases hn) fun hn => hn.2 h
  · rw [if_neg h, and_iff_left h]

end State

/-! ## 2. Calls -/

/-- The errors of the server. -/
inductive Error where
  | notFound
  | alreadyExists
  | invalid
  | conflict
  | unavailable
  deriving DecidableEq

/-- The calls of a client. -/
inductive Call (S : Schema) where
  | list (k : S.Kind)
  | get (k : S.Kind) (key : S.Key)
  | create (k : S.Kind) (obj : S.Obj k)
  | update (k : S.Kind) (v : Versioned S k)
  | delete (k : S.Kind) (key : S.Key)

/-- What a call returns. -/
@[reducible] def Call.Reply : Call S → Type
  | .list k => List (Versioned S k)
  | .get k _ => Versioned S k
  | .create .. => Unit
  | .update .. => Unit
  | .delete .. => Unit

/-- The call creates or deletes an object. -/
def Call.createsOrDeletes : Call S → Bool
  | .create .. => true
  | .delete .. => true
  | _ => false

/-- A program that makes these calls. -/
abbrev Task (S : Schema) (α : Type) := Action (Call S) Call.Reply Error α

/-- A call whose error the program returns. -/
abbrev invoke (c : Call S) : Task S c.Reply := Action.invoke c

/-- The answer to a call, and the state after it. -/
def serve : (c : Call S) → State S → Except Error c.Reply × State S
  | .list k, s => (.ok (s.list k), s)
  | .get k key, s =>
    match s.get k key with
    | some v => (.ok v, s)
    | none => (.error .notFound, s)
  | .create k obj, s =>
    if S.valid obj = false then (.error .invalid, s)
    else if (s.get k (S.key obj)).isSome then (.error .alreadyExists, s)
    else (.ok (), s.put k obj)
  | .update k v, s =>
    match s.get k v.key with
    | none => (.error .notFound, s)
    | some current =>
      if current.version ≠ v.version then (.error .conflict, s)
      else if current.obj = v.obj then (.ok (), s)
      else (.ok (), s.put k v.obj)
  | .delete k key, s =>
    match s.get k key with
    | none => (.error .notFound, s)
    | some _ => (.ok (), s.remove k key)

/-- **What a call does**: nothing, or it stores a new object, or another one in the place of the one under its
    key, or removes one. -/
theorem serve_cases (c : Call S) (s : State S) :
    (serve c s).2 = s ∨
      (∃ k obj, c = .create k obj ∧ S.valid obj = true ∧ s.get k (S.key obj) = none ∧
        (serve c s).2 = s.put k obj) ∨
      (∃ k v, c = .update k v ∧ (s.get k v.key).isSome ∧ (serve c s).2 = s.put k v.obj) ∨
      ∃ k key, c = .delete k key ∧ (serve c s).2 = s.remove k key := by
  cases c with
  | list k => exact Or.inl rfl
  | get k key =>
      left
      simp only [serve]
      split <;> rfl
  | create k obj =>
      simp only [serve]
      split
      · exact Or.inl rfl
      split
      · exact Or.inl rfl
      · rename_i hvalid hfree
        exact Or.inr (Or.inl ⟨k, obj, rfl, Bool.not_eq_false _ ▸ hvalid,
          Option.not_isSome_iff_eq_none.mp hfree, rfl⟩)
  | update k v =>
      simp only [serve]
      split
      · exact Or.inl rfl
      split
      · exact Or.inl rfl
      split
      · exact Or.inl rfl
      · rename_i hget _ _
        exact Or.inr (Or.inr (Or.inl ⟨k, v, rfl, by rw [hget]; rfl, rfl⟩))
  | delete k key =>
      simp only [serve]
      split
      · exact Or.inl rfl
      · exact Or.inr (Or.inr (Or.inr ⟨k, key, rfl, rfl⟩))

theorem serve_of_get (s : State S) (k : S.Kind) (key : S.Key) : serve (.get k key) s =
    match s.get k key with
    | some v => (.ok v, s)
    | none => (.error .notFound, s) := rfl

/-- What is loaded is stored. -/
theorem serve_get {s : State S} {k : S.Kind} {key : S.Key} {v : Versioned S k}
    (h : (serve (.get k key) s).1 = .ok v) : s.get k key = some v := by
  rw [serve_of_get] at h
  split at h
  · rename_i hget
    rw [hget, Except.ok.inj h]
  · cases h

theorem serve_get_error {s : State S} {k : S.Kind} {key : S.Key} {e : Error}
    (h : (serve (.get k key) s).1 = .error e) : s.get k key = none := by
  rw [serve_of_get] at h
  split at h
  · cases h
  · assumption

/-- A get changes nothing. -/
theorem serve_get_state (s : State S) (k : S.Kind) (key : S.Key) : (serve (.get k key) s).2 = s := by
  rw [serve_of_get]
  split <;> rfl

/-- A stored object is updated. -/
theorem serve_update {s : State S} {k : S.Kind} {v : Versioned S k} (hv : v ∈ s.list k) {obj : S.Obj k}
    (hkey : S.key obj = v.key) :
    serve (.update k ⟨obj, v.version⟩) s = (.ok (), if v.obj = obj then s else s.put k obj) := by
  have hget : s.get k (Versioned.key ⟨obj, v.version⟩) = some v := by
    rw [Versioned.key, hkey]
    exact State.get_self hv
  rw [serve, hget]
  simp only [ne_eq, not_true_eq_false, if_false]
  split <;> rfl

/-- **What a call does to what is under a key**: nothing, or it is what the call writes there. -/
theorem get_serve (c : Call S) (s : State S) (k : S.Kind) (key : S.Key) :
    (serve c s).2.get k key = s.get k key ∨
      (∃ obj, c = .create k obj ∧ S.key obj = key ∧ s.get k key = none ∧
        (serve c s).2.get k key = some ⟨obj, s.revision + 1⟩) ∨
      (∃ v current, c = .update k v ∧ v.key = key ∧ s.get k key = some current ∧ current.version = v.version ∧
        (serve c s).2.get k key = some ⟨v.obj, s.revision + 1⟩) ∨
      c = .delete k key ∧ (serve c s).2.get k key = none := by
  cases c with
  | list l => exact Or.inl rfl
  | get l key' =>
      left
      simp only [serve]
      split <;> rfl
  | create l obj =>
      simp only [serve]
      split
      · exact Or.inl rfl
      split
      · exact Or.inl rfl
      rename_i hfree
      by_cases hl : k = l
      · subst hl
        rw [State.get_put]
        by_cases hkey : key = S.key obj
        · subst hkey
          rw [if_pos rfl]
          exact Or.inr (Or.inl ⟨obj, rfl, rfl, Option.not_isSome_iff_eq_none.mp hfree, rfl⟩)
        · rw [if_neg hkey]
          exact Or.inl rfl
      · exact Or.inl (State.get_put_of_ne hl key)
  | update l v =>
      simp only [serve]
      split
      · exact Or.inl rfl
      split
      · exact Or.inl rfl
      split
      · exact Or.inl rfl
      rename_i current hget hversion _
      by_cases hl : k = l
      · subst hl
        rw [State.get_put]
        by_cases hkey : key = S.key v.obj
        · subst hkey
          rw [if_pos rfl]
          exact Or.inr (Or.inr (Or.inl ⟨v, current, rfl, rfl, hget, not_not.mp hversion, rfl⟩))
        · rw [if_neg hkey]
          exact Or.inl rfl
      · exact Or.inl (State.get_put_of_ne hl key)
  | delete l key' =>
      simp only [serve]
      split
      · exact Or.inl rfl
      by_cases hl : k = l
      · subst hl
        rw [State.get_remove]
        by_cases hkey : key = key'
        · subst hkey
          rw [if_pos rfl]
          exact Or.inr (Or.inr (Or.inr ⟨rfl, rfl⟩))
        · rw [if_neg hkey]
          exact Or.inl rfl
      · exact Or.inl (State.get_remove_of_ne hl key' key)

/-- A run without failing calls returns in a state. -/
abbrev Returns {α : Type} (p : Task S α) (s : State S) (Q : α → State S → Prop) : Prop :=
  Calls.Returns serve .unavailable p s Q

variable {s : State S} {k : S.Kind} {α β : Type} {p : Task S α} {f : α → Task S β} {Q : β → State S → Prop}

/-- One part after the other. -/
theorem returns_bind : Returns (p >>= f) s Q ↔ Returns p s fun a s' => Returns (f a) s' Q :=
  Calls.returns_bind

/-- A call that is answered. -/
theorem returns_invoke {c : Call S} {r : c.Reply} {s' : State S} (h : serve c s = (.ok r, s'))
    {Q : c.Reply → State S → Prop} : Returns (invoke c) s Q ↔ Q r s' := by
  unfold invoke Action.invoke
  rw [Returns, Calls.returns_call, h]
  exact Calls.returns_done

/-- A call that fails. -/
theorem not_returns_invoke {c : Call S} {e : Error} {s' : State S} (h : serve c s = (.error e, s'))
    {Q : c.Reply → State S → Prop} : ¬ Returns (invoke c) s Q := by
  unfold invoke Action.invoke
  rw [Returns, Calls.returns_call, h]
  exact Calls.not_returns_fail

/-- **A create returns when the object is valid and its key is free.** -/
theorem returns_create {obj : S.Obj k} {Q : Unit → State S → Prop} :
    Returns (invoke (.create k obj)) s Q ↔
      S.valid obj = true ∧ s.get k (S.key obj) = none ∧ Q () (s.put k obj) := by
  by_cases hvalid : S.valid obj = false
  · have hserve : serve (.create k obj) s = (.error .invalid, s) := if_pos hvalid
    refine iff_of_false (not_returns_invoke hserve) fun h => ?_
    rw [hvalid] at h
    cases h.1
  by_cases hfree : (s.get k (S.key obj)).isSome = true
  · have hserve : serve (.create k obj) s = (.error .alreadyExists, s) :=
      (if_neg hvalid).trans (if_pos hfree)
    refine iff_of_false (not_returns_invoke hserve) fun h => ?_
    rw [h.2.1] at hfree
    cases hfree
  · have hserve : serve (.create k obj) s = (.ok (), s.put k obj) :=
      (if_neg hvalid).trans (if_neg hfree)
    rw [Bool.not_eq_false] at hvalid
    rw [Option.not_isSome_iff_eq_none] at hfree
    exact (returns_invoke hserve).trans ⟨fun h => ⟨hvalid, hfree, h⟩, fun h => h.2.2⟩

/-- **An update returns when the version is the stored one.** -/
theorem returns_update {v : Versioned S k} {Q : Unit → State S → Prop} :
    Returns (invoke (.update k v)) s Q ↔
      ∃ current, s.get k v.key = some current ∧ current.version = v.version ∧
        Q () (if current.obj = v.obj then s else s.put k v.obj) := by
  cases hget : s.get k v.key with
  | none =>
      have hserve : serve (.update k v) s = (.error .notFound, s) := by
        rw [serve, hget]
      exact iff_of_false (not_returns_invoke hserve) fun ⟨_, h, _⟩ => by cases h
  | some current =>
      by_cases hversion : current.version = v.version
      · have hserve : serve (.update k v) s =
            (.ok (), if current.obj = v.obj then s else s.put k v.obj) := by
          rw [serve, hget]
          simp only
          rw [if_neg (not_not.mpr hversion)]
          split <;> rfl
        rw [returns_invoke hserve]
        exact ⟨fun h => ⟨current, rfl, hversion, h⟩, fun ⟨c, hc, _, h⟩ => Option.some.inj hc ▸ h⟩
      · have hserve : serve (.update k v) s = (.error .conflict, s) := by
          rw [serve, hget]
          simp only
          rw [if_pos hversion]
        exact iff_of_false (not_returns_invoke hserve)
          fun ⟨c, hc, h, _⟩ => hversion (Option.some.inj hc ▸ h)

/-- **A delete returns when there is an object.** -/
theorem returns_delete {key : S.Key} {Q : Unit → State S → Prop} :
    Returns (invoke (.delete k key)) s Q ↔
      (s.get k key).isSome ∧ Q () (s.remove k key) := by
  cases hget : s.get k key with
  | none =>
      have hserve : serve (.delete k key) s = (.error .notFound, s) := by
        rw [serve, hget]
      exact iff_of_false (not_returns_invoke hserve) fun h => by cases h.1
  | some current =>
      have hserve : serve (.delete k key) s = (.ok (), s.remove k key) := by
        rw [serve, hget]
      exact (returns_invoke hserve).trans (and_iff_right rfl).symm

theorem returns_list {Q : List (Versioned S k) → State S → Prop} :
    Returns (invoke (.list k)) s Q ↔ Q (s.list k) s := returns_invoke rfl

/-- The run without failing calls creates and deletes nothing, and returns in a state. -/
abbrev Quiet {α : Type} (p : Task S α) (s : State S) (Q : α → State S → Prop) : Prop :=
  Calls.ReturnsBy serve (fun c => c.createsOrDeletes = false) p s Q

theorem quiet_bind : Quiet (p >>= f) s Q ↔ Quiet p s fun a s' => Quiet (f a) s' Q :=
  Calls.returnsBy_bind

theorem quiet_list {Q : List (Versioned S k) → State S → Prop} :
    Quiet (invoke (.list k)) s Q ↔ Q (s.list k) s := by
  unfold invoke Action.invoke
  exact ⟨fun h => h.2, fun h => ⟨rfl, h⟩⟩

/-- An update that says nothing new. -/
theorem quiet_update {v : Versioned S k} {Q : Unit → State S → Prop} (h : s.get k v.key = some v)
    (hQ : Q () s) : Quiet (invoke (.update k v)) s Q := by
  have hserve : serve (.update k v) s = (.ok (), s) := by
    rw [serve, h]
    simp
  unfold invoke Action.invoke
  refine ⟨rfl, ?_⟩
  rw [hserve]
  exact hQ

theorem not_quiet_create {obj : S.Obj k} {Q : Unit → State S → Prop} :
    ¬ Quiet (invoke (.create k obj)) s Q := by
  unfold invoke Action.invoke
  intro h
  exact Bool.noConfusion h.1

/-! ## 3. Deleting several objects -/

/-- The objects under several keys are removed. -/
def State.removeAll (s : State S) (k : S.Kind) (keys : List S.Key) : State S :=
  keys.foldl (fun s key => s.remove k key) s

theorem State.get_removeAll (keys : List S.Key) (key : S.Key) :
    (s.removeAll k keys).get k key = if key ∈ keys then none else s.get k key := by
  induction keys generalizing s with
  | nil => rfl
  | cons first keys ih =>
      have hcons : s.removeAll k (first :: keys) = (s.remove k first).removeAll k keys := rfl
      rw [hcons, ih, get_remove]
      by_cases hmem : key ∈ keys
      · rw [if_pos hmem, if_pos (List.mem_cons_of_mem _ hmem)]
      · rw [if_neg hmem]
        by_cases hfirst : key = first
        · rw [if_pos hfirst, if_pos (List.mem_cons.mpr (Or.inl hfirst))]
        · rw [if_neg hfirst, if_neg (List.not_mem_cons_of_ne_of_not_mem hfirst hmem)]

theorem State.objects_removeAll_of_ne {l : S.Kind} (h : l ≠ k) (keys : List S.Key) :
    (s.removeAll k keys).objects l = s.objects l := by
  induction keys generalizing s with
  | nil => rfl
  | cons first keys ih => exact ih.trans (objects_remove_of_ne h)

/-- A program that deletes the objects under several keys. -/
def deleteAll (k : S.Kind) : List S.Key → Task S Unit
  | [] => pure ()
  | key :: keys => do
    invoke (.delete k key)
    deleteAll k keys

/-- **It returns when all of them are there**, each named once. -/
theorem returns_deleteAll {keys : List S.Key} {Q : Unit → State S → Prop} :
    Returns (deleteAll k keys) s Q ↔
      keys.Nodup ∧ (∀ key ∈ keys, (s.get k key).isSome) ∧ Q () (s.removeAll k keys) := by
  induction keys generalizing s with
  | nil =>
      have hnone : ∀ key ∈ ([] : List S.Key), (s.get k key).isSome := fun key hkey =>
        absurd hkey List.not_mem_nil
      rw [deleteAll, and_iff_right List.nodup_nil, and_iff_right hnone]
      exact Calls.returns_done
  | cons first keys ih =>
      rw [deleteAll, returns_bind, returns_delete, ih, List.nodup_cons, List.forall_mem_cons]
      constructor
      · rintro ⟨hfirst, hnodup, hthere, hQ⟩
        have hthere' := fun key hkey => State.get_remove first key ▸ hthere key hkey
        refine ⟨⟨fun hmem => ?_, hnodup⟩, ⟨hfirst, fun key hkey => ?_⟩, hQ⟩
        · have hgone := hthere' first hmem
          rw [if_pos rfl] at hgone
          cases hgone
        · have hstill := hthere' key hkey
          split at hstill
          · cases hstill
          · exact hstill
      · rintro ⟨⟨hnew, hnodup⟩, ⟨hfirst, hthere⟩, hQ⟩
        refine ⟨hfirst, hnodup, fun key hkey => ?_, hQ⟩
        rw [State.get_remove, if_neg fun (e : key = first) => hnew (e ▸ hkey)]
        exact hthere key hkey

/-! ## 4. Loading, and saving what was loaded -/

/-- A get for which an object that is not found is no error. -/
def find (k : S.Kind) (key : S.Key) : Task S (Option (Versioned S k)) := do
  match ← Action.tryCall (Call.get k key) with
  | .ok v => pure (some v)
  | .error .notFound => pure none
  | .error e => .fail e

theorem returns_find {key : S.Key} {Q : Option (Versioned S k) → State S → Prop} :
    Returns (find k key) s Q ↔ Q (s.get k key) s := by
  unfold find
  rw [Action.tryCall_bind, Returns, Calls.returns_call]
  cases hget : s.get k key with
  | none =>
      have hserve : serve (.get k key) s = (.error .notFound, s) := by
        rw [serve, hget]
      rw [hserve]
      exact Calls.returns_done
  | some v =>
      have hserve : serve (.get k key) s = (.ok v, s) := by
        rw [serve, hget]
      rw [hserve]
      exact Calls.returns_done

/-- Other keys and other kinds are as they were. -/
def SameBut (k : S.Kind) (key : S.Key) (s t : State S) : Prop :=
  ∀ l key', ¬ (l = k ∧ key' = key) → t.get l key' = s.get l key'

theorem sameBut_put (s : State S) (obj : S.Obj k) : SameBut k (S.key obj) s (s.put k obj) := by
  intro l key' h
  by_cases hl : l = k
  · subst hl
    rw [State.get_put, if_neg fun e => h ⟨rfl, e⟩]
  · exact State.get_put_of_ne hl key'

theorem sameBut_remove (s : State S) (k : S.Kind) (key : S.Key) : SameBut k key s (s.remove k key) := by
  intro l key' h
  by_cases hl : l = k
  · subst hl
    rw [State.get_remove, if_neg fun e => h ⟨rfl, e⟩]
  · exact State.get_remove_of_ne hl key key'

section Save

variable {key : S.Key} {new : S.Obj k} {updated : S.Obj k → S.Obj k} {R : Unit → State S → Prop}

/-- A new object is created, or the loaded one is updated. -/
def save (k : S.Kind) (loaded : Option (Versioned S k)) (new : S.Obj k) (updated : S.Obj k → S.Obj k) :
    Task S Unit :=
  match loaded with
  | none => invoke (.create k new)
  | some v => invoke (.update k ⟨updated v.obj, v.version⟩)

/-- The state behind it. -/
def State.saved (s : State S) (key : S.Key) (new : S.Obj k) (updated : S.Obj k → S.Obj k) : State S :=
  match s.get k key with
  | none => s.put k new
  | some v => if v.obj = updated v.obj then s else s.put k (updated v.obj)

/-- **What was loaded is saved**, if the server takes a new object. -/
theorem returns_save (hnew : S.key new = key) (hupdated : ∀ obj, S.key obj = key → S.key (updated obj) = key) :
    Returns (save k (s.get k key) new updated) s R ↔
      (s.get k key = none → S.valid new = true) ∧ R () (s.saved key new updated) := by
  unfold save State.saved
  cases hget : s.get k key with
  | none =>
      refine returns_create.trans ?_
      rw [hnew, and_iff_right hget, forall_prop_of_true rfl]
  | some v =>
      have hkey : S.key (updated v.obj) = key := hupdated _ (State.get_eq_some.mp hget).2
      refine returns_update.trans ?_
      rw [Versioned.key, hkey, hget]
      constructor
      · rintro ⟨current, hcurrent, _, h⟩
        rw [← Option.some.inj hcurrent] at h
        exact ⟨fun hnone => absurd hnone (Option.some_ne_none v), h⟩
      · exact fun h => ⟨v, rfl, rfl, h.2⟩

theorem sameBut_saved (hnew : S.key new = key) (hupdated : ∀ obj, S.key obj = key → S.key (updated obj) = key) :
    SameBut k key s (s.saved key new updated) := by
  unfold State.saved
  cases hget : s.get k key with
  | none =>
      have h := sameBut_put s new
      rwa [hnew] at h
  | some v =>
      simp only
      split
      · exact fun _ _ _ => rfl
      · have h := sameBut_put s (updated v.obj)
        rwa [hupdated _ (State.get_eq_some.mp hget).2] at h

/-- **The object is there**: the new one, or the updated one. -/
theorem get_saved (hnew : S.key new = key) (hupdated : ∀ obj, S.key obj = key → S.key (updated obj) = key) :
    ∃ w, (s.saved key new updated).get k key = some w ∧
      (w.obj = new ∨ ∃ v, s.get k key = some v ∧ w.obj = updated v.obj) := by
  unfold State.saved
  cases hget : s.get k key with
  | none => exact ⟨_, by rw [State.get_put, if_pos hnew.symm], Or.inl rfl⟩
  | some v =>
      simp only
      split
      · exact ⟨v, hget, Or.inr ⟨v, rfl, ‹_›⟩⟩
      · have hkey := hupdated _ (State.get_eq_some.mp hget).2
        exact ⟨_, by rw [State.get_put, if_pos hkey.symm], Or.inr ⟨v, rfl, rfl⟩⟩

theorem revision_saved : s.revision ≤ (s.saved key new updated).revision := by
  unfold State.saved
  split
  · exact Nat.le_succ _
  · split
    · exact Nat.le_refl _
    · exact Nat.le_succ _

/-- The loaded object is deleted. -/
def deleteLoaded (k : S.Kind) (loaded : Option (Versioned S k)) : Task S Unit :=
  match loaded with
  | none => pure ()
  | some v => invoke (.delete k v.key)

/-- The state behind it. -/
def State.cleared (s : State S) (k : S.Kind) (key : S.Key) : State S :=
  if (s.get k key).isSome then s.remove k key else s

theorem returns_deleteLoaded :
    Returns (deleteLoaded k (s.get k key)) s R ↔ R () (s.cleared k key) := by
  unfold deleteLoaded State.cleared
  cases hget : s.get k key with
  | none => exact Calls.returns_done
  | some v =>
      refine returns_delete.trans ?_
      rw [(State.get_eq_some.mp hget).2, hget]
      exact and_iff_right rfl

theorem sameBut_cleared : SameBut k key s (s.cleared k key) := by
  unfold State.cleared
  split
  · exact sameBut_remove s k key
  · exact fun _ _ _ => rfl

theorem get_cleared : (s.cleared k key).get k key = none := by
  unfold State.cleared
  split
  · rw [State.get_remove, if_pos rfl]
  · exact Option.not_isSome_iff_eq_none.mp ‹_›

end Save

/-! ## 5. Invariants of the stored objects -/

/-- What a call writes has a property: what it creates, if the server takes it, and what it puts in the place
    of an object that has it. -/
def Call.Writes (I : (k : S.Kind) → S.Obj k → Prop) : Call S → Prop
  | .create k obj => S.valid obj = true → I k obj
  | .update k v => ∀ old, I k old → S.key old = v.key → I k v.obj
  | _ => True

/-- All objects that are stored have a property. -/
def State.All (I : (k : S.Kind) → S.Obj k → Prop) (s : State S) : Prop :=
  ∀ k, ∀ v ∈ s.list k, I k v.obj

theorem State.All.put {I : (k : S.Kind) → S.Obj k → Prop} (h : s.All I) {obj : S.Obj k} (hobj : I k obj) :
    (s.put k obj).All I := by
  intro l v hv
  by_cases hl : l = k
  · subst hl
    rcases mem_list_put.mp hv with rfl | ⟨hv, _⟩
    · exact hobj
    · exact h l v hv
  · rw [list_put_of_ne hl] at hv
    exact h l v hv

theorem State.All.remove {I : (k : S.Kind) → S.Obj k → Prop} (h : s.All I) (key : S.Key) :
    (s.remove k key).All I := by
  intro l v hv
  by_cases hl : l = k
  · subst hl
    exact h l v (mem_list_remove.mp hv).1
  · rw [list_remove_of_ne hl] at hv
    exact h l v hv

/-- **What every written object has, every stored object keeps.** -/
theorem all_serve {I : (k : S.Kind) → S.Obj k → Prop} (c : Call S) (hc : c.Writes I) (s : State S)
    (h : s.All I) : (serve c s).2.All I := by
  rcases serve_cases c s with hs | ⟨k, obj, rfl, hvalid, _, hs⟩ | ⟨k, v, rfl, hthere, hs⟩ | ⟨k, key, rfl, hs⟩
  · rw [hs]
    exact h
  · rw [hs]
    exact h.put (hc hvalid)
  · rw [hs]
    obtain ⟨old, hold⟩ := Option.isSome_iff_exists.mp hthere
    obtain ⟨hmem, hkey⟩ := State.get_eq_some.mp hold
    exact h.put (hc old.obj (h k old hmem) hkey)
  · rw [hs]
    exact h.remove key

/-- The versions of a kind are those of writes that were made. -/
def State.Fresh (s : State S) (k : S.Kind) : Prop := ∀ v ∈ s.list k, v.version ≤ s.revision

theorem State.Fresh.put (h : s.Fresh k) {l : S.Kind} (obj : S.Obj l) : (s.put l obj).Fresh k := by
  intro v hv
  by_cases hl : k = l
  · subst hl
    rcases mem_list_put.mp hv with rfl | ⟨hv, _⟩
    · exact Nat.le_refl _
    · exact Nat.le_succ_of_le (h v hv)
  · rw [list_put_of_ne hl] at hv
    exact Nat.le_succ_of_le (h v hv)

theorem State.Fresh.remove (h : s.Fresh k) (l : S.Kind) (key : S.Key) : (s.remove l key).Fresh k := by
  intro v hv
  by_cases hl : k = l
  · subst hl
    exact Nat.le_succ_of_le (h v (mem_list_remove.mp hv).1)
  · rw [list_remove_of_ne hl] at hv
    exact Nat.le_succ_of_le (h v hv)

theorem fresh_serve (c : Call S) (s : State S) (h : s.Fresh k) : (serve c s).2.Fresh k := by
  rcases serve_cases c s with hs | ⟨_, _, _, _, _, hs⟩ | ⟨_, _, _, _, hs⟩ | ⟨_, _, _, hs⟩
  · rw [hs]
    exact h
  · rw [hs]
    exact h.put _
  · rw [hs]
    exact h.put _
  · rw [hs]
    exact h.remove _ _

/-- Every program keeps the versions below the number of writes. -/
theorem returns_fresh {R : α → State S → Prop} (h : Returns p s R) (hs : s.Fresh k) :
    Returns p s fun a t => R a t ∧ t.Fresh k :=
  Calls.Returns.keeps h (Calls.keeps_of_serve (fun c _ => fresh_serve c _) p) hs

/-! ## 6. Programs that write what follows from what they read -/

/-- What a call is answered has a property. -/
def Call.Reads (I : (k : S.Kind) → S.Obj k → Prop) : (c : Call S) → c.Reply → Prop
  | .list k, vs => ∀ v ∈ (vs : List (Versioned S k)), I k v.obj
  | .get k key, v => I k (Versioned.obj v) ∧ Versioned.key v = key
  | _, _ => True

/-- When what it reads has the property, what it writes has it, and `R` holds of what it returns. -/
def Inherits (I : (k : S.Kind) → S.Obj k → Prop) : Task S α → (α → Prop) → Prop
  | .done a, R => R a
  | .fail _, _ => True
  | .crash, _ => True
  | .call c next, R =>
    c.Writes I ∧ (∀ r, c.Reads I r → Inherits I (next (.ok r)) R) ∧ ∀ e, Inherits I (next (.error e)) R

section Inherits

variable {I : (k : S.Kind) → S.Obj k → Prop} {R : α → Prop} {R' : β → Prop}

theorem Inherits.mono {T : α → Prop} (h : Inherits I p R) (hRT : ∀ a, R a → T a) : Inherits I p T := by
  induction p with
  | done a => exact hRT a h
  | fail e => trivial
  | crash => trivial
  | call c next ih => exact ⟨h.1, fun r hr => ih _ (h.2.1 r hr), fun e => ih _ (h.2.2 e)⟩

/-- **One part after the other.** -/
theorem inherits_bind (hp : Inherits I p R) (hf : ∀ a, R a → Inherits I (f a) R') : Inherits I (p >>= f) R' := by
  induction p with
  | done a => exact hf a hp
  | fail e => trivial
  | crash => trivial
  | call c next ih => exact ⟨hp.1, fun r hr => ih _ (hp.2.1 r hr), fun e => ih _ (hp.2.2 e)⟩

theorem inherits_invoke {c : Call S} (hc : c.Writes I) : Inherits I (invoke c) (c.Reads I) :=
  ⟨hc, fun _ hr => hr, fun _ => trivial⟩

/-- A call whose error the program looks at. -/
theorem inherits_tryCall {c : Call S} {k : Except Error c.Reply → Task S β} (hc : c.Writes I)
    (hk : ∀ r, (∀ v, r = .ok v → c.Reads I v) → Inherits I (k r) R') :
    Inherits I (Action.tryCall c >>= k) R' := by
  refine ⟨hc, fun v hv => hk (.ok v) fun w hw => ?_, fun e => hk (.error e) nofun⟩
  cases hw
  exact hv

theorem reads_serve {c : Call S} {r : c.Reply} (hs : s.All I) (h : (serve c s).1 = .ok r) : c.Reads I r := by
  cases c with
  | list k =>
      cases h
      exact hs k
  | get k key =>
      obtain ⟨hmem, hkey⟩ := State.get_eq_some.mp (serve_get h)
      exact ⟨hs k r hmem, hkey⟩
  | create k obj => trivial
  | update k v => trivial
  | delete k key => trivial

/-- **Every run keeps the property**, whatever fails. -/
theorem holds_of_inherits (hp : Inherits I p R) (hs : s.All I) :
    Calls.Holds serve .unavailable p s fun o t => t.All I ∧ ∀ a, o = .returned a → R a := by
  induction p generalizing s with
  | done a =>
      refine Calls.holds_done.mpr ⟨hs, fun b hb => ?_⟩
      cases hb
      exact hp
  | fail e => exact Calls.holds_fail.mpr ⟨hs, fun b hb => by cases hb⟩
  | crash => exact Calls.holds_crash.mpr ⟨hs, fun b hb => by cases hb⟩
  | call c next ih =>
      obtain ⟨hc, hread, herror⟩ := hp
      have hserved := all_serve c hc s hs
      refine Calls.holds_call.mpr ⟨?_, ih _ (herror _) hs, ih _ (herror _) hserved⟩
      cases hr : (serve c s).1 with
      | ok r => exact ih _ (hread r (reads_serve hs hr)) hserved
      | error e => exact ih _ (herror e) hserved

theorem inherits_find (key : S.Key) :
    Inherits I (find k key) fun found => ∀ v, found = some v → I k v.obj ∧ v.key = key := by
  refine ⟨trivial, fun (v : Versioned S k) hv => ?_, fun e => ?_⟩
  · intro w hw
    cases hw
    exact hv
  · cases e with
    | notFound =>
        intro w hw
        cases hw
    | _ => trivial

theorem inherits_save {loaded : Option (Versioned S k)} {new : S.Obj k} {updated : S.Obj k → S.Obj k}
    (hnew : I k new) (hupdated : ∀ v, loaded = some v → I k (updated v.obj)) :
    Inherits I (save k loaded new updated) fun _ => True := by
  unfold save
  cases loaded with
  | none => exact (inherits_invoke (c := .create k new) fun _ => hnew).mono fun _ _ => trivial
  | some v =>
      exact (inherits_invoke (c := .update k ⟨updated v.obj, v.version⟩) fun _ _ _ => hupdated v rfl).mono
        fun _ _ => trivial

theorem inherits_deleteLoaded (loaded : Option (Versioned S k)) :
    Inherits I (deleteLoaded k loaded) fun _ => True := by
  unfold deleteLoaded
  cases loaded with
  | none => trivial
  | some v => exact (inherits_invoke (c := .delete k v.key) trivial).mono fun _ _ => trivial

end Inherits

/-! ## 7. Programs that fail when a call does -/

theorem strict_find (k : S.Kind) (key : S.Key) : Calls.Strict .unavailable (find k key) := by
  refine ⟨⟨.unavailable, rfl⟩, fun r => ?_⟩
  rcases r with e | v
  · cases e <;> trivial
  · trivial

theorem strict_save (k : S.Kind) (loaded : Option (Versioned S k)) (new : S.Obj k) (updated : S.Obj k → S.Obj k) :
    Calls.Strict .unavailable (save k loaded new updated) := by
  cases loaded with
  | none => exact Calls.strict_invoke _
  | some v => exact Calls.strict_invoke _

theorem strict_deleteLoaded (k : S.Kind) (loaded : Option (Versioned S k)) :
    Calls.Strict .unavailable (deleteLoaded k loaded) := by
  cases loaded with
  | none => trivial
  | some v => exact Calls.strict_invoke _

/-! ## 8. Programs that do not crash -/

theorem crashless_find (k : S.Kind) (key : S.Key) : Calls.Crashless (find k key) := by
  intro r
  rcases r with e | v
  · cases e <;> trivial
  · trivial

theorem crashless_save (k : S.Kind) (loaded : Option (Versioned S k)) (new : S.Obj k)
    (updated : S.Obj k → S.Obj k) : Calls.Crashless (save k loaded new updated) := by
  cases loaded with
  | none => exact Calls.crashless_invoke _
  | some v => exact Calls.crashless_invoke _

theorem crashless_deleteLoaded (k : S.Kind) (loaded : Option (Versioned S k)) :
    Calls.Crashless (deleteLoaded k loaded) := by
  cases loaded with
  | none => trivial
  | some v => exact Calls.crashless_invoke _

end Objects
