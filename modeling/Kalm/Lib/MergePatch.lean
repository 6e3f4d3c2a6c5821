/-
  File:      Kalm/Lib/MergePatch.lean
  Subject:   JSON MERGE PATCH: the difference of two documents as a document in which `null` means
             "delete", and its application to any document.

  Objects are finite families of fields, so equality ignores the order of fields. `V` holds what a
  patch replaces as a whole: strings, numbers, booleans, arrays. A field that is `null` in a document
  counts as missing.

  * `diff`, `patched` -- only the fields that differ; no patch at all when nothing does;
  * `patched_diff` -- a patch takes the document it was made from to the wanted one;
  * `Untouched`, `patched_eq_iff` -- two documents are patched to the same one exactly when they agree
    on everything the patch does not name;
  * `overlay`, `overlays` -- documents as patches, one over the other; `overlays_front` -- what is cut short
    and done again is done.
-/
import Mathlib.Data.Finset.Basic
import Mathlib.Data.Fintype.Basic

namespace MergePatch

/-- A JSON document. -/
inductive Json (K V : Type) where
  | leaf (value : V)
  | obj (keys : Finset K) (vals : {k // k ∈ keys} → Json K V)

variable {K V W : Type} [DecidableEq K]

/-! ## 1. Fields -/

namespace Json

/-- The keys of an object. -/
def keys : Json K V → Finset K
  | .leaf _ => ∅
  | .obj keys _ => keys

/-- A field of an object. -/
def field : Json K V → K → Option (Json K V)
  | .leaf _, _ => none
  | .obj keys vals, k => if h : k ∈ keys then some (vals ⟨k, h⟩) else none

/-- The object with the fields a function has on a set of keys. -/
def ofFields (keys : Finset K) (f : K → Option (Json K V)) : Json K V :=
  .obj (keys.filter fun k => (f k).isSome) fun k => (f k.1).get (Finset.mem_filter.mp k.2).2

theorem field_isSome {j : Json K V} {k : K} : (j.field k).isSome ↔ k ∈ j.keys := by
  cases j with
  | leaf v => simp [field, keys]
  | obj keys vals =>
      by_cases h : k ∈ keys <;> simp [field, Json.keys, h]

/-- **An object is its fields.** -/
theorem obj_eq_iff {keys keys' : Finset K} {vals : {k // k ∈ keys} → Json K V}
    {vals' : {k // k ∈ keys'} → Json K V} :
    obj keys vals = obj keys' vals' ↔ ∀ k, (obj keys vals).field k = (obj keys' vals').field k := by
  refine ⟨fun h k => by rw [h], fun h => ?_⟩
  have hk : keys = keys' := by
    ext k
    have hs := congrArg Option.isSome (h k)
    rw [Bool.eq_iff_iff, field_isSome, field_isSome] at hs
    exact hs
  subst hk
  have hv : vals = vals' := by
    funext ⟨k, hk⟩
    have hf := h k
    simp only [field, hk, dite_true] at hf
    exact Option.some.inj hf
  rw [hv]

theorem field_ofFields {keys : Finset K} {f : K → Option (Json K V)}
    (h : ∀ k, (f k).isSome → k ∈ keys) (k : K) : (ofFields keys f).field k = f k := by
  by_cases hf : (f k).isSome
  · have hmem : k ∈ keys.filter fun k => (f k).isSome := Finset.mem_filter.mpr ⟨h k hf, hf⟩
    simp only [ofFields, field, dif_pos hmem, Option.some_get]
  · have hmem : k ∉ keys.filter fun k => (f k).isSome := fun hm => hf (Finset.mem_filter.mp hm).2
    simp only [ofFields, field, dif_neg hmem, Option.not_isSome_iff_eq_none.mp hf]

/-- The document with one field set. -/
def setField (j : Json K V) (k : K) (v : Json K V) : Json K V :=
  ofFields (insert k j.keys) (Function.update j.field k (some v))

theorem field_setField (j : Json K V) (k : K) (v : Json K V) :
    (j.setField k v).field = Function.update j.field k (some v) := by
  funext x
  refine field_ofFields (fun y hs => ?_) x
  rw [Finset.mem_insert]
  by_cases h : y = k
  · exact Or.inl h
  · rw [Function.update_of_ne h, field_isSome] at hs
    exact Or.inr hs

/-- The document with its scalars replaced. -/
def map (f : V → W) : Json K V → Json K W
  | .leaf v => .leaf (f v)
  | .obj keys vals => .obj keys fun k => (vals k).map f

theorem field_map (j : Json K V) (f : V → W) (k : K) :
    (j.map f).field k = (j.field k).map (Json.map f) := by
  cases j with
  | leaf v => rfl
  | obj keys vals => by_cases h : k ∈ keys <;> simp [map, field, h]

/-- Equality of documents is decided field by field. -/
def decEq [DecidableEq V] : (a b : Json K V) → Decidable (a = b)
  | .leaf v, .leaf w => decidable_of_iff (v = w) ⟨congrArg leaf, fun h => by injection h⟩
  | .leaf _, .obj _ _ => isFalse nofun
  | .obj _ _, .leaf _ => isFalse nofun
  | .obj keys vals, .obj keys' vals' =>
    if h : keys = keys' then
      have : DecidablePred fun k : {k // k ∈ keys} => vals k = vals' ⟨k.1, h ▸ k.2⟩ :=
        fun k => decEq (vals k) _
      decidable_of_iff (∀ k : {k // k ∈ keys}, vals k = vals' ⟨k.1, h ▸ k.2⟩) (by
        subst h
        rw [obj.injEq]
        simp [funext_iff])
    else isFalse fun e => h (by injection e)

instance [DecidableEq V] : DecidableEq (Json K V) := decEq

end Json

/-- A field of a document that may be missing. -/
def fieldOf (t : Option (Json K V)) (k : K) : Option (Json K V) := t.bind fun j => j.field k

/-- The keys of a document that may be missing. -/
def keysOf (t : Option (Json K V)) : Finset K :=
  match t with
  | none => ∅
  | some j => j.keys

theorem fieldOf_isSome {t : Option (Json K V)} {k : K} : (fieldOf t k).isSome ↔ k ∈ keysOf t := by
  cases t with
  | none => simp [fieldOf, keysOf]
  | some j => exact Json.field_isSome

/-! ## 2. Patches -/

/-- A merge patch: a document in which `none` is `null`. -/
abbrev Patch (K V : Type) := Json K (Option V)

/-- A patch applied to a document. -/
def apply : Patch K V → Option (Json K V) → Option (Json K V)
  | .leaf none, _ => none
  | .leaf (some v), _ => some (.leaf v)
  | .obj keys vals, t =>
    some (.ofFields (keys ∪ keysOf t) fun k =>
      if h : k ∈ keys then apply (vals ⟨k, h⟩) (fieldOf t k) else fieldOf t k)

/-- No patch changes nothing. -/
def patched (p : Option (Patch K V)) (t : Option (Json K V)) : Option (Json K V) :=
  match p with
  | none => t
  | some p => apply p t

/-- An object of patches, unless it is empty. -/
def packed (keys : Finset K) (f : K → Option (Patch K V)) : Option (Patch K V) :=
  if ∃ k ∈ keys, (f k).isSome then some (.ofFields keys f) else none

/-- What takes the first document to the second. -/
def diff [DecidableEq V] : Json K V → Json K V → Option (Patch K V)
  | .leaf a, .leaf b => if a = b then none else some (.leaf (some b))
  | .leaf _, .obj keys vals => some ((Json.obj keys vals).map some)
  | .obj _ _, .leaf b => some (.leaf (some b))
  | .obj keys vals, .obj keys' vals' =>
    packed (keys ∪ keys') fun k =>
      if h : k ∈ keys then
        match (Json.obj keys' vals').field k with
        | none => some (.leaf none)
        | some b => diff (vals ⟨k, h⟩) b
      else ((Json.obj keys' vals').field k).map (Json.map some)

/-- What takes a document that may be missing to another. -/
def delta [DecidableEq V] : Option (Json K V) → Option (Json K V) → Option (Patch K V)
  | none, b => b.map (Json.map some)
  | some _, none => some (.leaf none)
  | some a, some b => diff a b

theorem diff_obj [DecidableEq V] {keys keys' : Finset K} {vals : {k // k ∈ keys} → Json K V}
    {vals' : {k // k ∈ keys'} → Json K V} :
    diff (.obj keys vals) (.obj keys' vals') = packed (keys ∪ keys') fun k =>
      delta ((Json.obj keys vals).field k) ((Json.obj keys' vals').field k) := by
  rw [diff]
  congr 1
  funext k
  by_cases h : k ∈ keys
  · have hf : (Json.obj keys vals).field k = some (vals ⟨k, h⟩) := by
      simp only [Json.field, dif_pos h]
    rw [dif_pos h, hf]
    cases (Json.obj keys' vals').field k <;> rfl
  · have hf : (Json.obj keys vals).field k = none := by simp only [Json.field, dif_neg h]
    rw [dif_neg h, hf]
    rfl

/-! ## 3. Patched fields -/

/-- A document that is an object. -/
def IsObj (t : Option (Json K V)) : Prop := ∃ keys vals, t = some (.obj keys vals)

theorem IsObj.ext {a b : Option (Json K V)} (ha : IsObj a) (hb : IsObj b)
    (h : ∀ k, fieldOf a k = fieldOf b k) : a = b := by
  obtain ⟨keys, vals, rfl⟩ := ha
  obtain ⟨keys', vals', rfl⟩ := hb
  exact congrArg some (Json.obj_eq_iff.mpr h)

theorem isObj_apply {keys : Finset K} {vals : {k // k ∈ keys} → Patch K V}
    (t : Option (Json K V)) : IsObj (apply (.obj keys vals) t) := ⟨_, _, rfl⟩

/-- A patch works field by field. -/
theorem fieldOf_apply {keys : Finset K} {vals : {k // k ∈ keys} → Patch K V}
    (t : Option (Json K V)) (k : K) :
    fieldOf (apply (.obj keys vals) t) k =
      patched ((Json.obj keys vals).field k) (fieldOf t k) := by
  have hfield : fieldOf (apply (.obj keys vals) t) k =
      if h : k ∈ keys then apply (vals ⟨k, h⟩) (fieldOf t k) else fieldOf t k := by
    rw [apply, fieldOf, Option.bind_some, Json.field_ofFields]
    intro k hs
    rw [Finset.mem_union]
    by_cases h : k ∈ keys
    · exact Or.inl h
    · rw [dif_neg h] at hs
      exact Or.inr (fieldOf_isSome.mp hs)
  rw [hfield]
  by_cases h : k ∈ keys
  · simp only [Json.field, dif_pos h, patched]
  · simp only [Json.field, dif_neg h, patched]

section Packed

variable {keys : Finset K} {f : K → Option (Patch K V)}

theorem fieldOf_packed (hf : ∀ k, (f k).isSome → k ∈ keys) (t : Option (Json K V)) (k : K) :
    fieldOf (patched (packed keys f) t) k = patched (f k) (fieldOf t k) := by
  unfold packed
  split
  · rename_i hsome
    have happly : fieldOf (apply (.ofFields keys f) t) k =
        patched ((Json.ofFields keys f).field k) (fieldOf t k) := fieldOf_apply t k
    rwa [Json.field_ofFields hf] at happly
  · rename_i hnone
    have hk : f k = none := by
      by_contra h
      have hs := Option.isSome_iff_ne_none.mpr h
      exact hnone ⟨k, hf k hs, hs⟩
    rw [hk]
    rfl

theorem isObj_packed {t : Option (Json K V)} (h : IsObj t) : IsObj (patched (packed keys f) t) := by
  unfold packed
  split
  · have hobj : IsObj (apply (.ofFields keys f) t) := isObj_apply t
    exact hobj
  · exact h

end Packed

/-- What is new is added as it is. -/
theorem apply_map_some (j : Json K V) {t : Option (Json K V)} (ht : keysOf t = ∅) :
    apply (j.map some) t = some j := by
  induction j generalizing t with
  | leaf v => rfl
  | obj keys vals ih =>
      refine (isObj_apply t).ext ⟨keys, vals, rfl⟩ fun k => ?_
      have htk : fieldOf t k = none := by
        rw [← Option.not_isSome_iff_eq_none, fieldOf_isSome, ht]
        exact Finset.notMem_empty k
      rw [fieldOf_apply, htk, fieldOf, Option.bind_some]
      by_cases h : k ∈ keys
      · simp only [Json.field, dif_pos h, patched]
        exact ih ⟨k, h⟩ rfl
      · simp only [Json.field, dif_neg h, patched]

section Diff

variable [DecidableEq V]

theorem delta_isSome {a b : Option (Json K V)} (h : (delta a b).isSome) : a.isSome ∨ b.isSome := by
  cases a with
  | none =>
      rw [delta, Option.isSome_map] at h
      exact Or.inr h
  | some a => exact Or.inl rfl

/-- **The difference to an object works field by field**, on any document. -/
theorem fieldOf_diff (a : Json K V) {keys : Finset K} {vals : {k // k ∈ keys} → Json K V}
    (t : Option (Json K V)) (k : K) :
    fieldOf (patched (diff a (.obj keys vals)) t) k =
      patched (delta (a.field k) ((Json.obj keys vals).field k)) (fieldOf t k) := by
  cases a with
  | leaf v =>
      have happly : fieldOf (apply ((Json.obj keys vals).map some) t) k =
          patched (((Json.obj keys vals).map some).field k) (fieldOf t k) := fieldOf_apply t k
      rw [Json.field_map] at happly
      exact happly
  | obj keys' vals' =>
      rw [diff_obj, fieldOf_packed]
      intro k hs
      rw [Finset.mem_union]
      rcases delta_isSome hs with h | h
      · exact Or.inl (Json.field_isSome.mp h)
      · exact Or.inr (Json.field_isSome.mp h)

/-- **The difference takes a document to the wanted one.** -/
theorem patched_diff (a b : Json K V) : patched (diff a b) (some a) = some b := by
  induction a generalizing b with
  | leaf v =>
      cases b with
      | leaf w =>
          by_cases h : v = w
          · subst h
            simp only [diff, if_true, patched]
          · simp only [diff, if_neg h, patched, apply]
      | obj keys vals => exact apply_map_some _ rfl
  | obj keys vals ih =>
      cases b with
      | leaf w => rfl
      | obj keys' vals' =>
          refine IsObj.ext ?_ ⟨keys', vals', rfl⟩ fun k => ?_
          · rw [diff_obj]
            exact isObj_packed ⟨keys, vals, rfl⟩
          rw [fieldOf_diff]
          change patched _ ((Json.obj keys vals).field k) = (Json.obj keys' vals').field k
          by_cases h : k ∈ keys
          · have hk : (Json.obj keys vals).field k = some (vals ⟨k, h⟩) := by
              simp only [Json.field, dif_pos h]
            rw [hk]
            cases hb : (Json.obj keys' vals').field k with
            | none => rfl
            | some b => exact ih ⟨k, h⟩ b
          · have hk : (Json.obj keys vals).field k = none := by simp only [Json.field, dif_neg h]
            rw [hk]
            cases hb : (Json.obj keys' vals').field k with
            | none => rfl
            | some b => exact apply_map_some b rfl

theorem patched_delta (a b : Option (Json K V)) : patched (delta a b) a = b := by
  cases a with
  | none =>
      cases b with
      | none => rfl
      | some b => exact apply_map_some b rfl
  | some a =>
      cases b with
      | none => rfl
      | some b => exact patched_diff a b

theorem diff_self (a : Json K V) : diff a a = none := by
  induction a with
  | leaf v => exact if_pos rfl
  | obj keys vals ih =>
      rw [diff_obj, packed, if_neg]
      rintro ⟨k, _, hs⟩
      by_cases h : k ∈ keys
      · simp only [Json.field, dif_pos h, delta, ih ⟨k, h⟩] at hs
        cases hs
      · simp only [Json.field, dif_neg h, delta] at hs
        cases hs

theorem delta_self (a : Option (Json K V)) : delta a a = none := by
  cases a with
  | none => rfl
  | some a => exact diff_self a

end Diff

/-! ## 4. Patching another document -/

/-- Two documents agree on everything the patch does not name. -/
def Agree : Patch K V → Option (Json K V) → Option (Json K V) → Prop
  | .leaf _, _, _ => True
  | .obj keys vals, a, b => ∀ k,
    if h : k ∈ keys then Agree (vals ⟨k, h⟩) (fieldOf a k) (fieldOf b k) else fieldOf a k = fieldOf b k

/-- The same for what may be no patch at all. -/
def Untouched (p : Option (Patch K V)) (a b : Option (Json K V)) : Prop :=
  match p with
  | none => a = b
  | some p => Agree p a b

theorem apply_eq_iff (p : Patch K V) (a b : Option (Json K V)) :
    apply p a = apply p b ↔ Agree p a b := by
  induction p generalizing a b with
  | leaf v => cases v <;> exact iff_of_true rfl trivial
  | obj keys vals ih =>
      have hfields : apply (.obj keys vals) a = apply (.obj keys vals) b ↔
          ∀ k, fieldOf (apply (.obj keys vals) a) k = fieldOf (apply (.obj keys vals) b) k :=
        ⟨fun h k => by rw [h], (isObj_apply a).ext (isObj_apply b)⟩
      rw [hfields, Agree]
      refine forall_congr' fun k => ?_
      rw [fieldOf_apply, fieldOf_apply]
      by_cases h : k ∈ keys
      · simp only [Json.field, dif_pos h, patched]
        exact ih ⟨k, h⟩ _ _
      · simp only [Json.field, dif_neg h, patched]

/-- **Two documents are patched to the same one exactly when they agree on everything else.** -/
theorem patched_eq_iff (p : Option (Patch K V)) (a b : Option (Json K V)) :
    patched p a = patched p b ↔ Untouched p a b := by
  cases p with
  | none => exact Iff.rfl
  | some p => exact apply_eq_iff p a b

/-- **A patch made from `a` takes another document to the wanted one exactly when that agrees with
    `a` on everything the patch does not name.** -/
theorem patched_delta_eq_iff [DecidableEq V] (a b t : Option (Json K V)) :
    patched (delta a b) t = b ↔ Untouched (delta a b) t a := by
  rw [← patched_eq_iff, patched_delta]

/-- **Setting one field**: the patch touches that field alone. -/
theorem fieldOf_diff_setField [DecidableEq V] (a v : Json K V) (k : K) (t : Option (Json K V)) :
    fieldOf (patched (diff a (a.setField k v)) t) =
      Function.update (fieldOf t) k (patched (delta (a.field k) (some v)) (fieldOf t k)) := by
  funext x
  have hfield : fieldOf (patched (diff a (a.setField k v)) t) x =
      patched (delta (a.field x) ((a.setField k v).field x)) (fieldOf t x) := fieldOf_diff a t x
  rw [hfield, Json.field_setField]
  by_cases h : x = k
  · subst h
    rw [Function.update_self, Function.update_self]
  · rw [Function.update_of_ne h, Function.update_of_ne h, delta_self]
    rfl

/-! ## 5. Documents over documents -/

/-- A document over another one: what it says is set, and the rest stays. -/
def overlay (d : Json K V) (t : Option (Json K V)) : Option (Json K V) := apply (d.map some) t

/-- Documents, one over the other. -/
def overlays (ds : List (Json K V)) (t : Option (Json K V)) : Option (Json K V) := ds.foldl (fun t d => overlay d t) t

section Overlays

variable {d : Json K V} {ds es : List (Json K V)} {t u : Option (Json K V)}

theorem overlays_append (ds es : List (Json K V)) (t : Option (Json K V)) :
    overlays (ds ++ es) t = overlays es (overlays ds t) := List.foldl_append

theorem overlays_cons (d : Json K V) (ds : List (Json K V)) (t : Option (Json K V)) :
    overlays (d :: ds) t = overlays ds (overlay d t) := rfl

/-- A document over nothing is the document. -/
theorem overlay_none (d : Json K V) : overlay d none = some d := apply_map_some d rfl

/-- A leaf forgets what it lies over. -/
theorem overlays_of_leaf {v : V} (h : Json.leaf v ∈ ds) (t u : Option (Json K V)) : overlays ds t = overlays ds u := by
  induction ds generalizing t u with
  | nil => exact absurd h List.not_mem_nil
  | cons d ds ih =>
      rcases List.mem_cons.mp h with rfl | h
      · rfl
      · exact ih h _ _

/-- An object lies over a document field by field. -/
theorem fieldOf_overlay {keys : Finset K} {vals : {k // k ∈ keys} → Json K V} (t : Option (Json K V)) (k : K) :
    fieldOf (overlay (.obj keys vals) t) k = overlays ((Json.obj keys vals).field k).toList (fieldOf t k) := by
  have happly : fieldOf (overlay (.obj keys vals) t) k =
      patched (((Json.obj keys vals).map some).field k) (fieldOf t k) := fieldOf_apply t k
  rw [happly, Json.field_map]
  cases (Json.obj keys vals).field k with
  | none => rfl
  | some d => rfl

/-- Objects lie over a document field by field. -/
theorem fieldOf_overlays (h : ∀ v, Json.leaf v ∉ ds) (t : Option (Json K V)) (k : K) :
    fieldOf (overlays ds t) k = overlays (ds.filterMap fun d => d.field k) (fieldOf t k) := by
  induction ds generalizing t with
  | nil => rfl
  | cons d ds ih =>
      have hrest := ih (fun v hv => h v (List.mem_cons_of_mem _ hv)) (overlay d t)
      rw [overlays_cons, hrest]
      cases d with
      | leaf v => exact absurd List.mem_cons_self (h v)
      | obj keys vals =>
          rw [fieldOf_overlay, ← overlays_append]
          congr 1
          rw [List.filterMap_cons]
          cases (Json.obj keys vals).field k with
          | none => rfl
          | some d => rfl

/-- Where documents change nothing, they change nothing but what another document says below them. -/
theorem agree_overlays (d : Json K V) (hes : overlays es u = u) :
    Agree (d.map some) (overlays es (overlay d u)) u := by
  induction d generalizing es u with
  | leaf v => trivial
  | obj keys vals ih =>
      by_cases hleaf : ∃ v, Json.leaf v ∈ es
      · obtain ⟨v, hv⟩ := hleaf
        rw [overlays_of_leaf hv _ u, hes]
        exact (apply_eq_iff _ u u).mp rfl
      · have hobj : ∀ v, Json.leaf v ∉ es := fun v hv => hleaf ⟨v, hv⟩
        intro k
        have hfield : overlays (es.filterMap fun d => d.field k) (fieldOf u k) = fieldOf u k := by
          rw [← fieldOf_overlays hobj, hes]
        rw [fieldOf_overlays hobj, fieldOf_overlay]
        by_cases hk : k ∈ keys
        · rw [dif_pos hk, Json.field, dif_pos hk]
          exact ih ⟨k, hk⟩ hfield
        · rw [dif_neg hk, Json.field, dif_neg hk]
          exact hfield

/-- **Documents over themselves** change nothing. -/
theorem overlays_overlays (ds : List (Json K V)) (t : Option (Json K V)) :
    overlays ds (overlays ds t) = overlays ds t := by
  induction ds using List.reverseRecOn generalizing t with
  | nil => rfl
  | append_singleton es d ih =>
      rw [overlays_append, overlays_append]
      exact (apply_eq_iff _ _ _).mpr (agree_overlays d (ih t))

/-- **Documents over some of them**: what is cut short and done again is done. -/
theorem overlays_front (h : es <+: ds) (t : Option (Json K V)) : overlays ds (overlays es t) = overlays ds t := by
  obtain ⟨rest, rfl⟩ := h
  rw [overlays_append, overlays_append, overlays_overlays]

end Overlays

end MergePatch
