/-
  File:      Kalm/Lib/Mirror.lean
  Subject:   MIRRORING a changing set of objects in a map under a derived key.

  * `put`, `remove` -- an object appears or changes, an object disappears; the objects themselves
    are kept by identity, the mirror by the key of the identity;
  * `Mirrors` -- the mirror holds exactly the objects that are there;
  * `NoClash` -- no other object that is there has the key. `Mirrors.put` and `Mirrors.remove`: a
    step without a clash keeps the mirror; an injective key never clashes.
-/
import Mathlib.Data.List.AList

namespace Mirror

/-- A finite map. -/
abbrev Table (K V : Type) := AList (fun _ : K => V)

variable {I K V : Type} [DecidableEq I] [DecidableEq K]

/-- The values of a map. -/
def values (t : Table K V) : List V := t.entries.map (·.2)

theorem mem_values {t : Table K V} {v : V} : v ∈ values t ↔ ∃ k, t.lookup k = some v := by
  simp only [values, List.mem_map]
  constructor
  · rintro ⟨e, he, rfl⟩
    exact ⟨e.1, AList.mem_lookup_iff.mpr he⟩
  · rintro ⟨k, hk⟩
    exact ⟨⟨k, v⟩, AList.mem_lookup_iff.mp hk, rfl⟩

/-- An object appears, or the one with its identity is replaced. -/
def put (key : V → K) (v : V) (t : Table K V) : Table K V := t.insert (key v) v

/-- The object with the identity of `v` disappears. -/
def remove (key : V → K) (v : V) (t : Table K V) : Table K V := t.erase (key v)

/-- `cache` holds, under their keys, exactly the objects of `live`. -/
structure Mirrors (ident : V → I) (key : I → K) (live : Table I V) (cache : Table K V) : Prop where
  identified : ∀ i v, live.lookup i = some v → ident v = i
  cached : ∀ i v, live.lookup i = some v → cache.lookup (key i) = some v
  alive : ∀ k v, cache.lookup k = some v → key (ident v) = k ∧ live.lookup (ident v) = some v

/-- No other object that is there has the key of `v`. -/
def NoClash (ident : V → I) (key : I → K) (live : Table I V) (v : V) : Prop :=
  ∀ w ∈ values live, key (ident w) = key (ident v) → ident w = ident v

variable {ident : V → I} {key : I → K} {live : Table I V} {cache : Table K V} {v : V}

theorem Mirrors.empty : Mirrors ident key (∅ : Table I V) (∅ : Table K V) where
  identified i v h := by simp at h
  cached i v h := by simp at h
  alive k v h := by simp at h

/-- **A mirror and what it mirrors have the same objects.** -/
theorem Mirrors.mem_values (h : Mirrors ident key live cache) {v : V} :
    v ∈ values cache ↔ v ∈ values live := by
  rw [Mirror.mem_values, Mirror.mem_values]
  constructor
  · rintro ⟨k, hk⟩
    exact ⟨ident v, (h.alive k v hk).2⟩
  · rintro ⟨i, hi⟩
    exact ⟨key i, h.cached i v hi⟩

/-- Another live object keeps its key. -/
theorem Mirrors.key_ne (h : Mirrors ident key live cache) (hc : NoClash ident key live v) {i : I}
    {w : V} (hi : live.lookup i = some w) (hne : i ≠ ident v) : key i ≠ key (ident v) := by
  intro e
  have hw := h.identified i w hi
  subst hw
  exact hne (hc w (Mirror.mem_values.mpr ⟨_, hi⟩) e)

/-- **Putting an object whose key is free of others keeps the mirror.** -/
theorem Mirrors.put (h : Mirrors ident key live cache) (hc : NoClash ident key live v) :
    Mirrors ident key (Mirror.put ident v live) (Mirror.put (fun w => key (ident w)) v cache) := by
  unfold Mirror.put
  refine ⟨fun i w hi => ?_, fun i w hi => ?_, fun k w hk => ?_⟩
  · by_cases e : i = ident v
    · subst e
      rw [AList.lookup_insert, Option.some.injEq] at hi
      rw [hi]
    · rw [AList.lookup_insert_ne e] at hi
      exact h.identified i w hi
  · by_cases e : i = ident v
    · subst e
      rw [AList.lookup_insert] at hi ⊢
      exact hi
    · rw [AList.lookup_insert_ne e] at hi
      rw [AList.lookup_insert_ne (h.key_ne hc hi e)]
      exact h.cached i w hi
  · by_cases e : k = key (ident v)
    · subst e
      rw [AList.lookup_insert, Option.some.injEq] at hk
      subst hk
      exact ⟨rfl, AList.lookup_insert _⟩
    · rw [AList.lookup_insert_ne e] at hk
      obtain ⟨h1, h2⟩ := h.alive k w hk
      have hne : ident w ≠ ident v := fun e' => e (by rw [← h1, e'])
      rw [AList.lookup_insert_ne hne]
      exact ⟨h1, h2⟩

/-- **Removing an object whose key is free of others keeps the mirror.** -/
theorem Mirrors.remove (h : Mirrors ident key live cache) (hc : NoClash ident key live v) :
    Mirrors ident key (Mirror.remove ident v live)
      (Mirror.remove (fun w => key (ident w)) v cache) := by
  unfold Mirror.remove
  have still : ∀ {i w}, (live.erase (ident v)).lookup i = some w →
      i ≠ ident v ∧ live.lookup i = some w := by
    intro i w hi
    by_cases e : i = ident v
    · subst e
      rw [AList.lookup_erase] at hi
      cases hi
    · rw [AList.lookup_erase_ne e] at hi
      exact ⟨e, hi⟩
  refine ⟨fun i w hi => h.identified i w (still hi).2, fun i w hi => ?_, fun k w hk => ?_⟩
  · obtain ⟨e, hi⟩ := still hi
    rw [AList.lookup_erase_ne (h.key_ne hc hi e)]
    exact h.cached i w hi
  · by_cases e : k = key (ident v)
    · subst e
      rw [AList.lookup_erase] at hk
      cases hk
    · rw [AList.lookup_erase_ne e] at hk
      obtain ⟨h1, h2⟩ := h.alive k w hk
      have hne : ident w ≠ ident v := fun e' => e (by rw [← h1, e'])
      rw [AList.lookup_erase_ne hne]
      exact ⟨h1, h2⟩

omit [DecidableEq I] [DecidableEq K] in
/-- An injective key never clashes. -/
theorem NoClash.of_injective (hk : Function.Injective key) (live : Table I V) (v : V) :
    NoClash ident key live v :=
  fun _ _ e => hk e

end Mirror
