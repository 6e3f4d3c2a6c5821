/-
  File:      Kalm/Lib/Informers.lean
  Subject:   AN OBJECT SERVER READ THROUGH A CACHE: an informer for each kind follows what is stored; a client reads
             what the informers have come to, and writes to the server.

  * `Cached`, `serveCached`, `deliver` -- the server with its informers, a call of such a client, and a delivery;
  * `Past` -- what a state tells of a later one: an object is as it was, or its version is newer than all before;
  * `Genuine` -- a copy that is what is stored, if it has the version that is stored;
  * `Follows` -- whatever the informers show or are to show is genuine; `follows_meet`, `Follows.deliver` -- that stays.
-/
import Kalm.Lib.Interleaved
import Kalm.Lib.Objects

namespace Objects

open Calls (Fault meet)

variable {S : Schema} {s t u : State S} {k : S.Kind} {key : S.Key} {v : Versioned S k}

/-! ## 1. The server and its informers -/

/-- What is stored; of each kind the state that its informer has come to, and those it is to be told of. -/
structure Cached (S : Schema) where
  stored : State S
  seen : S.Kind → State S
  feed : S.Kind → List (State S)

namespace Cached

/-- What the informers show. -/
def shown (w : Cached S) : State S where
  objects := fun k => (w.seen k).objects k
  revision := w.stored.revision

/-- The informers have come to what is stored. -/
def synced (s : State S) : Cached S := ⟨s, fun _ => s, fun _ => []⟩

/-- Something is stored; every informer is to be told. -/
def write (w : Cached S) (s : State S) : Cached S := ⟨s, w.seen, fun k => w.feed k ++ [s]⟩

/-- An informer is told of the next state. -/
def deliver (w : Cached S) (k : S.Kind) : Cached S :=
  match w.feed k with
  | [] => w
  | s :: rest => { w with seen := Function.update w.seen k s, feed := Function.update w.feed k rest }

end Cached

/-- A call of a client that reads from the informers. -/
def serveCached : (c : Call S) → Cached S → Except Error c.Reply × Cached S
  | .list k, w => (.ok (w.shown.list k), w)
  | .get k key, w => ((serve (.get k key) w.shown).1, w)
  | .create k obj, w => ((serve (.create k obj) w.stored).1, w.write (serve (.create k obj) w.stored).2)
  | .update k v, w => ((serve (.update k v) w.stored).1, w.write (serve (.update k v) w.stored).2)
  | .delete k key, w => ((serve (.delete k key) w.stored).1, w.write (serve (.delete k key) w.stored).2)

/-- **What is stored is what the server alone makes of the call.** -/
theorem stored_serveCached (c : Call S) (w : Cached S) : (serveCached c w).2.stored = (serve c w.stored).2 := by
  cases c with
  | list k => rfl
  | get k key => exact (serve_get_state w.stored k key).symm
  | create k obj => rfl
  | update k v => rfl
  | delete k key => rfl

theorem stored_meet (failure : Error) (fault : Fault) (c : Call S) (w : Cached S) :
    (meet serveCached failure fault c w).2.stored = (meet serve failure fault c w.stored).2 := by
  cases fault with
  | served => exact stored_serveCached c w
  | refused => rfl
  | lost => exact stored_serveCached c w

/-! ## 2. What was stored before -/

/-- The second state comes behind the first: an object is as it was, or newer than all that was stored. -/
structure Past (s t : State S) : Prop where
  revision : s.revision ≤ t.revision
  kept : ∀ k key v, t.get k key = some v → s.get k key = some v ∨ s.revision < v.version

theorem Past.refl (s : State S) : Past s s := ⟨Nat.le_refl _, fun _ _ _ => Or.inl⟩

theorem Past.trans (h₁ : Past s t) (h₂ : Past t u) : Past s u := by
  refine ⟨Nat.le_trans h₁.revision h₂.revision, fun k key v hv => ?_⟩
  rcases h₂.kept k key v hv with hold | hnew
  · exact h₁.kept k key v hold
  · exact Or.inr (Nat.lt_of_le_of_lt h₁.revision hnew)

theorem past_put (s : State S) (k : S.Kind) (obj : S.Obj k) : Past s (s.put k obj) := by
  refine ⟨Nat.le_succ _, fun l key v hv => ?_⟩
  by_cases hl : l = k
  · subst hl
    rw [State.get_put] at hv
    split at hv
    · cases hv
      exact Or.inr (Nat.lt_succ_self _)
    · exact Or.inl hv
  · rw [State.get_put_of_ne hl] at hv
    exact Or.inl hv

theorem past_remove (s : State S) (k : S.Kind) (key : S.Key) : Past s (s.remove k key) := by
  refine ⟨Nat.le_succ _, fun l key' v hv => Or.inl ?_⟩
  by_cases hl : l = k
  · subst hl
    rw [State.get_remove] at hv
    split at hv
    · cases hv
    · exact hv
  · rwa [State.get_remove_of_ne hl] at hv

/-- Every version is that of a write. -/
def Dated (s : State S) : Prop := ∀ k key v, s.get k key = some v → v.version ≤ s.revision

theorem Dated.put (h : Dated s) (k : S.Kind) (obj : S.Obj k) : Dated (s.put k obj) := by
  intro l key v hv
  by_cases hl : l = k
  · subst hl
    rw [State.get_put] at hv
    split at hv
    · cases hv
      exact Nat.le_refl _
    · exact Nat.le_trans (h l key v hv) (Nat.le_succ _)
  · rw [State.get_put_of_ne hl] at hv
    exact Nat.le_trans (h l key v hv) (Nat.le_succ _)

theorem Dated.remove (h : Dated s) (k : S.Kind) (key : S.Key) : Dated (s.remove k key) := by
  intro l key' v hv
  have hold : s.get l key' = some v := by
    by_cases hl : l = k
    · subst hl
      rw [State.get_remove] at hv
      split at hv
      · cases hv
      · exact hv
    · rwa [State.get_remove_of_ne hl] at hv
  exact Nat.le_trans (h l key' v hold) (Nat.le_succ _)

/-- **A call leads to a later state.** -/
theorem past_serve (c : Call S) (s : State S) (hs : Dated s) : Past s (serve c s).2 ∧ Dated (serve c s).2 := by
  rcases serve_cases c s with h | ⟨k, obj, _, _, _, h⟩ | ⟨k, v, _, _, h⟩ | ⟨k, key, _, h⟩
  · rw [h]
    exact ⟨.refl s, hs⟩
  · rw [h]
    exact ⟨past_put s k obj, hs.put k obj⟩
  · rw [h]
    exact ⟨past_put s k v.obj, hs.put k v.obj⟩
  · rw [h]
    exact ⟨past_remove s k key, hs.remove k key⟩

/-! ## 3. Copies -/

/-- A copy that is what is stored, if it has the version that is stored. -/
structure Genuine (s : State S) (v : Versioned S k) : Prop where
  version : v.version ≤ s.revision
  same : ∀ u, s.get k v.key = some u → u.version = v.version → u = v

theorem Genuine.later (h : Genuine s v) (hst : Past s t) : Genuine t v := by
  refine ⟨Nat.le_trans h.version hst.revision, fun u hu hversion => ?_⟩
  rcases hst.kept k v.key u hu with hold | hnew
  · exact h.same u hold hversion
  · exact absurd (hversion ▸ h.version) (Nat.not_le.mpr hnew)

theorem Dated.genuine (h : Dated s) (hv : s.get k key = some v) : Genuine s v := by
  refine ⟨h k key v hv, fun u hu _ => ?_⟩
  rw [(State.get_eq_some.mp hv).2] at hu
  exact Option.some.inj (hu.symm.trans hv)

/-- An update that is answered meets its own version. -/
theorem exists_of_update (h : (serve (.update k v) s).1 = .ok ()) :
    ∃ current, s.get k v.key = some current ∧ current.version = v.version := by
  rw [serve] at h
  split at h
  · cases h
  rename_i current hget
  split at h
  · cases h
  · rename_i hversion
    exact ⟨current, hget, not_not.mp hversion⟩

/-- The copy that was written is genuine: a newer version stands for it, or it says nothing new. -/
theorem Dated.genuine_update (hs : Dated s) (h : (serve (.update k v) s).1 = .ok ()) :
    Genuine (serve (.update k v) s).2 v := by
  obtain ⟨current, hget, hversion⟩ := exists_of_update h
  have hle : v.version ≤ s.revision := hversion ▸ hs k v.key current hget
  refine ⟨Nat.le_trans hle (past_serve (.update k v) s hs).1.revision, fun u hu huversion => ?_⟩
  rw [serve, hget] at hu
  simp only at hu
  rw [if_neg (not_not.mpr hversion)] at hu
  split at hu
  · rename_i hobj
    rw [hget] at hu
    cases hu
    obtain ⟨obj, version⟩ := v
    cases hobj
    cases hversion
    rfl
  · rw [State.get_put] at hu
    split at hu
    · cases hu
      exact absurd (huversion ▸ hle) (Nat.not_succ_le_self _)
    · rename_i hkey
      exact absurd rfl hkey

/-- What the informers show, or are to show, is genuine. -/
structure Follows (w : Cached S) : Prop where
  dated : Dated w.stored
  informed : ∀ k, ∀ s ∈ w.seen k :: w.feed k, ∀ key v, s.get k key = some v → Genuine w.stored v

theorem follows_synced (h : Dated s) : Follows (Cached.synced s) := by
  refine ⟨h, fun k s' hs' key v hv => ?_⟩
  obtain rfl := List.mem_singleton.mp hs'
  exact h.genuine hv

theorem Follows.write {w : Cached S} (h : Follows w) (ht : Dated t) (hpast : Past w.stored t) :
    Follows (w.write t) := by
  refine ⟨ht, fun k s hs key v hv => ?_⟩
  rcases List.mem_append.mp (List.cons_append ▸ hs : s ∈ (w.seen k :: w.feed k) ++ [t]) with hold | hnew
  · exact (h.informed k s hold key v hv).later hpast
  · obtain rfl := List.mem_singleton.mp hnew
    exact ht.genuine hv

theorem Follows.deliver {w : Cached S} (h : Follows w) (k : S.Kind) : Follows (w.deliver k) := by
  unfold Cached.deliver
  split
  · exact h
  rename_i s rest hfeed
  refine ⟨h.dated, fun l s' hs' key v hv => ?_⟩
  refine h.informed l s' ?_ key v hv
  dsimp only at hs'
  by_cases hl : l = k
  · subst hl
    rw [Function.update_self, Function.update_self, ← hfeed] at hs'
    exact List.mem_cons_of_mem _ hs'
  · rwa [Function.update_of_ne hl, Function.update_of_ne hl] at hs'

/-- What is shown is genuine. -/
theorem Follows.genuine {w : Cached S} (h : Follows w) (hv : w.shown.get k key = some v) : Genuine w.stored v :=
  h.informed k (w.seen k) List.mem_cons_self key v hv

/-- **The informers follow the calls.** -/
theorem follows_serveCached (c : Call S) {w : Cached S} (h : Follows w) :
    Follows (serveCached c w).2 ∧ Past w.stored (serveCached c w).2.stored := by
  have hpast := past_serve c w.stored h.dated
  cases c with
  | list k => exact ⟨h, .refl _⟩
  | get k key => exact ⟨h, .refl _⟩
  | create k obj => exact ⟨h.write hpast.2 hpast.1, hpast.1⟩
  | update k v => exact ⟨h.write hpast.2 hpast.1, hpast.1⟩
  | delete k key => exact ⟨h.write hpast.2 hpast.1, hpast.1⟩

theorem follows_meet (failure : Error) (fault : Fault) (c : Call S) {w : Cached S} (h : Follows w) :
    Follows (meet serveCached failure fault c w).2 ∧ Past w.stored (meet serveCached failure fault c w).2.stored := by
  cases fault with
  | served => exact follows_serveCached c h
  | refused => exact ⟨h, .refl _⟩
  | lost => exact follows_serveCached c h

end Objects
