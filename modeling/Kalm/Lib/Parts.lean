/-
  File:      Kalm/Lib/Parts.lean
  Subject:   PARTS BETWEEN SEPARATORS: a text is cut at every occurrence of a separator, from the left.

  * `parts`, `parts_append`, `parts_cons`, `parts_induction` -- the parts, and induction along the cuts;
  * `intercalate_parts` -- the parts make up the text;
  * `heads`, `exists_of_mem_heads` -- the texts in front of a separator;
  * `head_spec`, `mem_heads_trans` -- the parts of a head are the first parts of the text; a head of a head is a head;
  * `Plain`, `parts_intercalate` -- texts that are joined come apart again;
  * `heads_of_parts`, `parts_init` -- the heads of a text, from its parts;
  * `exists_of_prefix`, `intercalate_prefix` -- a join in front of another one.
-/
import Mathlib.Data.List.Basic
import Kalm.Lib.Cuts

namespace Parts

variable {α : Type} {sep s t : List α}

/-! ## 1. Cutting -/

/-- A symbol is put in front of the first part. -/
def consHead (a : α) : List (List α) → List (List α)
  | [] => [[a]]
  | p :: ps => (a :: p) :: ps

theorem consHead_ne_nil (a : α) (ps : List (List α)) : consHead a ps ≠ [] := by
  cases ps <;> exact List.cons_ne_nil _ _

theorem length_consHead {a : α} {ps : List (List α)} (h : ps ≠ []) : (consHead a ps).length = ps.length := by
  cases ps with
  | nil => exact absurd rfl h
  | cons p ps => rfl

theorem take_consHead (a : α) {ps : List (List α)} (h : ps ≠ []) (n : Nat) :
    (consHead a ps).take (n + 1) = consHead a (ps.take (n + 1)) := by
  cases ps with
  | nil => exact absurd rfl h
  | cons p ps => rfl

theorem intercalate_consHead (sep : List α) (a : α) {ps : List (List α)} (h : ps ≠ []) :
    sep.intercalate (consHead a ps) = a :: sep.intercalate ps := by
  cases ps with
  | nil => exact absurd rfl h
  | cons p ps => exact List.intercalate_cons_cons_left

section Cutting

variable [DecidableEq α]

/-- The parts of a text of which `n` symbols are passed over. -/
def partsFrom (sep : List α) : Nat → List α → List (List α)
  | _, [] => [[]]
  | n + 1, _ :: s => partsFrom sep n s
  | 0, a :: s =>
    if sep.isPrefixOf (a :: s) then [] :: partsFrom sep (sep.length - 1) s
    else consHead a (partsFrom sep 0 s)

/-- The parts between the separators. -/
def parts (sep s : List α) : List (List α) := partsFrom sep 0 s

@[simp] theorem parts_nil (sep : List α) : parts sep [] = [[]] := rfl

theorem partsFrom_eq (sep : List α) (n : Nat) (s : List α) : partsFrom sep n s = parts sep (s.drop n) := by
  induction s generalizing n with
  | nil => cases n <;> rfl
  | cons a s ih =>
      cases n with
      | zero => rfl
      | succ n => exact ih n

/-- Behind a separator a part begins. -/
theorem parts_append (hsep : sep ≠ []) (s : List α) : parts sep (sep ++ s) = [] :: parts sep s := by
  cases sep with
  | nil => exact absurd rfl hsep
  | cons c sep =>
      have hfront : (c :: sep).isPrefixOf (c :: (sep ++ s)) = true :=
        List.isPrefixOf_iff_prefix.mpr ⟨s, rfl⟩
      have hcut : parts (c :: sep) (c :: (sep ++ s)) = [] :: partsFrom (c :: sep) sep.length (sep ++ s) := by
        unfold parts
        rw [partsFrom, if_pos hfront]
        rfl
      rw [List.cons_append, hcut, partsFrom_eq, List.drop_left]

/-- Elsewhere a part goes on. -/
theorem parts_cons {a : α} (h : ¬ sep <+: a :: s) : parts sep (a :: s) = consHead a (parts sep s) := by
  unfold parts
  rw [partsFrom, if_neg fun hfront => h (List.isPrefixOf_iff_prefix.mp hfront)]

/-- **Induction along the cuts.** -/
theorem parts_induction (hsep : sep ≠ []) {P : List α → Prop} (nil : P []) (cut : ∀ s, P s → P (sep ++ s))
    (cons : ∀ a s, ¬ sep <+: a :: s → P s → P (a :: s)) (s : List α) : P s := by
  induction hlength : s.length using Nat.strongRecOn generalizing s with
  | ind n ih =>
      subst hlength
      by_cases hfront : sep <+: s
      · obtain ⟨rest, rfl⟩ := hfront
        refine cut rest (ih _ ?_ rest rfl)
        rw [List.length_append]
        have := List.length_pos_iff.mpr hsep
        omega
      · cases s with
        | nil => exact nil
        | cons a s => exact cons a s hfront (ih _ (Nat.lt_succ_self _) s rfl)

theorem parts_ne_nil (hsep : sep ≠ []) (s : List α) : parts sep s ≠ [] := by
  induction s using parts_induction hsep with
  | nil => exact List.cons_ne_nil _ _
  | cut s ih =>
      rw [parts_append hsep]
      exact List.cons_ne_nil _ _
  | cons a s h ih =>
      rw [parts_cons h]
      exact consHead_ne_nil _ _

/-- **The parts make up the text.** -/
theorem intercalate_parts (hsep : sep ≠ []) (s : List α) : sep.intercalate (parts sep s) = s := by
  induction s using parts_induction hsep with
  | nil => exact List.intercalate_singleton
  | cut s ih => rw [parts_append hsep, List.intercalate_cons_of_ne_nil (parts_ne_nil hsep s), ih, List.nil_append]
  | cons a s h ih => rw [parts_cons h, intercalate_consHead sep a (parts_ne_nil hsep s), ih]

/-! ## 2. Heads -/

/-- The first parts, joined again. -/
def head (sep s : List α) (i : Nat) : List α := sep.intercalate ((parts sep s).take (i + 1))

/-- The texts in front of a separator. -/
def heads (sep s : List α) : List (List α) := (List.range ((parts sep s).length - 1)).map (head sep s)

theorem mem_heads : t ∈ heads sep s ↔ ∃ i, i + 1 < (parts sep s).length ∧ head sep s i = t := by
  rw [heads, List.mem_map]
  refine exists_congr fun i => and_congr_left fun _ => ?_
  rw [List.mem_range]
  omega

/-- A head is followed by a separator, and its parts are the first of the text. -/
theorem head_spec (hsep : sep ≠ []) (s : List α) {i : Nat} (hi : i + 1 < (parts sep s).length) :
    (∃ rest, s = head sep s i ++ sep ++ rest) ∧ parts sep (head sep s i) = (parts sep s).take (i + 1) := by
  unfold head
  induction s using parts_induction hsep generalizing i with
  | nil => exact absurd hi (by rw [parts_nil]; exact Nat.not_lt.mpr (Nat.le_add_left 1 i))
  | cut s ih =>
      rw [parts_append hsep] at hi ⊢
      rw [List.take_succ_cons]
      cases i with
      | zero => exact ⟨⟨s, by rw [List.take_zero, List.intercalate_singleton, List.nil_append]⟩, rfl⟩
      | succ i =>
          obtain ⟨⟨rest, hrest⟩, hparts⟩ := ih (Nat.lt_of_succ_lt_succ hi)
          have htake : (parts sep s).take (i + 1) ≠ [] := by
            rw [Ne, List.take_eq_nil_iff, not_or]
            exact ⟨Nat.succ_ne_zero i, parts_ne_nil hsep s⟩
          rw [List.intercalate_cons_of_ne_nil htake, List.nil_append]
          refine ⟨⟨rest, ?_⟩, ?_⟩
          · rw [List.append_assoc sep, List.append_assoc sep, ← hrest]
          · rw [parts_append hsep, hparts]
  | cons a s h ih =>
      rw [parts_cons h, length_consHead (parts_ne_nil hsep s)] at hi
      obtain ⟨⟨rest, hrest⟩, hparts⟩ := ih hi
      have htake : (parts sep s).take (i + 1) ≠ [] := by
        rw [Ne, List.take_eq_nil_iff, not_or]
        exact ⟨Nat.succ_ne_zero i, parts_ne_nil hsep s⟩
      rw [parts_cons h, take_consHead a (parts_ne_nil hsep s), intercalate_consHead sep a htake]
      refine ⟨⟨rest, congrArg (List.cons a) hrest⟩, ?_⟩
      have hnot : ¬ sep <+: a :: sep.intercalate ((parts sep s).take (i + 1)) := by
        intro hfront
        refine h (hfront.trans ⟨sep ++ rest, ?_⟩)
        rw [List.cons_append, ← List.append_assoc, ← hrest]
      rw [parts_cons hnot, hparts]

/-- **A head is followed by a separator.** -/
theorem exists_of_mem_heads (hsep : sep ≠ []) (h : t ∈ heads sep s) : ∃ rest, s = t ++ sep ++ rest := by
  obtain ⟨i, hi, rfl⟩ := mem_heads.mp h
  exact (head_spec hsep s hi).1

/-- **The heads of a head are heads.** -/
theorem mem_heads_trans (hsep : sep ≠ []) {u : List α} (ht : t ∈ heads sep s) (hu : u ∈ heads sep t) :
    u ∈ heads sep s := by
  obtain ⟨i, hi, rfl⟩ := mem_heads.mp ht
  obtain ⟨j, hj, rfl⟩ := mem_heads.mp hu
  have hparts := (head_spec hsep s hi).2
  rw [hparts, List.length_take] at hj
  refine mem_heads.mpr ⟨j, by omega, ?_⟩
  unfold head at hparts ⊢
  rw [hparts, List.take_take, Nat.min_eq_left (by omega)]

end Cutting

/-! ## 3. Joining -/

/-- A join is cut between two of its texts. -/
theorem intercalate_append (sep : List α) {ps qs : List (List α)} (hps : ps ≠ []) (hqs : qs ≠ []) :
    sep.intercalate (ps ++ qs) = sep.intercalate ps ++ sep ++ sep.intercalate qs := by
  induction ps with
  | nil => exact absurd rfl hps
  | cons p ps ih =>
      by_cases hrest : ps = []
      · rw [hrest, List.singleton_append, List.intercalate_cons_of_ne_nil hqs, List.intercalate_singleton]
      · rw [List.cons_append, List.intercalate_cons_of_ne_nil (List.append_ne_nil_of_left_ne_nil hrest qs), ih hrest,
          List.intercalate_cons_of_ne_nil hrest]
        simp only [List.append_assoc]

/-- What is in a join is in a text, or in the separator. -/
theorem mem_of_mem_intercalate {a : α} {ps : List (List α)} (h : a ∈ sep.intercalate ps) :
    a ∈ sep ∨ ∃ p ∈ ps, a ∈ p := by
  induction ps with
  | nil => exact absurd h List.not_mem_nil
  | cons p ps ih =>
      by_cases hps : ps = []
      · rw [hps, List.intercalate_singleton] at h
        exact Or.inr ⟨p, List.mem_cons_self, h⟩
      · rw [List.intercalate_cons_of_ne_nil hps, List.append_assoc] at h
        rcases List.mem_append.mp h with h | h
        · exact Or.inr ⟨p, List.mem_cons_self, h⟩
        · rcases List.mem_append.mp h with h | h
          · exact Or.inl h
          · exact (ih h).imp_right fun ⟨q, hq, ha⟩ => ⟨q, List.mem_cons_of_mem p hq, ha⟩

/-- Joins of the same first texts, and then one in front of the other. -/
theorem intercalate_prefix (sep : List α) {x y : List α} (h : x <+: y) (init rest : List (List α)) :
    sep.intercalate (init ++ [x]) <+: sep.intercalate (init ++ y :: rest) := by
  have hfront : x <+: sep.intercalate (y :: rest) := by
    by_cases hrest : rest = []
    · rwa [hrest, List.intercalate_singleton]
    · rw [List.intercalate_cons_of_ne_nil hrest, List.append_assoc]
      exact h.trans (List.prefix_append _ _)
  by_cases hinit : init = []
  · rwa [hinit, List.nil_append, List.nil_append, List.intercalate_singleton]
  · rw [intercalate_append sep hinit (List.cons_ne_nil _ _), intercalate_append sep hinit (List.cons_ne_nil _ _),
      List.intercalate_singleton]
    exact (List.prefix_append_right_inj _).mpr hfront

/-- A text without the separator in front of a join is in front of its first text. -/
theorem prefix_of_prefix_intercalate {c : α} {p x : List α} {ps : List (List α)} (hx : c ∉ x)
    (h : x <+: [c].intercalate (p :: ps)) : x <+: p := by
  by_cases hps : ps = []
  · rwa [hps, List.intercalate_singleton] at h
  · rw [List.intercalate_cons_of_ne_nil hps, List.append_assoc] at h
    have hp : p <+: p ++ ([c] ++ [c].intercalate ps) := List.prefix_append _ _
    rcases List.prefix_or_prefix_of_prefix h hp with hfront | ⟨rest, rfl⟩
    · exact hfront
    · have hrest := (List.prefix_append_right_inj p).mp h
      cases rest with
      | nil =>
          exact (List.append_nil p).symm ▸ List.prefix_rfl
      | cons b rest =>
          obtain ⟨heq, _⟩ := List.cons_prefix_cons.mp hrest
          exact absurd (List.mem_append_right p (heq ▸ List.mem_cons_self)) hx

/-- The separator occurs only behind the text. -/
def Plain (sep p : List α) : Prop := ∀ a b, p = a ++ b → b ≠ [] → ¬ sep <+: b ++ sep

theorem Plain.of_cons {a : α} (h : Plain sep (a :: t)) : Plain sep t :=
  fun x y hxy hy => h (a :: x) y (by rw [hxy, List.cons_append]) hy

/-- A text without the first letter of the separator has no separator, and makes none with the one behind it. -/
theorem plain_of_not_mem {a : α} (h : a ∉ t) : Plain (a :: sep) t := by
  rintro x y rfl hy ⟨rest, hrest⟩
  cases y with
  | nil => exact hy rfl
  | cons b y =>
      rw [List.cons_append, List.cons_append, List.cons.injEq] at hrest
      exact h (List.mem_append_right x (hrest.1 ▸ List.mem_cons_self))

/-- What is in a text that is joined is in the join. -/
theorem mem_intercalate {a : α} {ps : List (List α)} (ht : t ∈ ps) (ha : a ∈ t) : a ∈ sep.intercalate ps := by
  induction ps with
  | nil => exact absurd ht List.not_mem_nil
  | cons p ps ih =>
      by_cases hps : ps = []
      · obtain rfl : t = p := by rwa [hps, List.mem_singleton] at ht
        rwa [hps, List.intercalate_singleton]
      · rw [List.intercalate_cons_of_ne_nil hps, List.mem_append, List.mem_append]
        rcases List.mem_cons.mp ht with rfl | ht
        · exact Or.inl (Or.inl ha)
        · exact Or.inr (ih ht)

variable [DecidableEq α]

/-- A part without a separator. -/
theorem parts_append_of_plain (hsep : sep ≠ []) (h : Plain sep t) (s : List α) :
    parts sep (t ++ sep ++ s) = t :: parts sep s := by
  induction t with
  | nil => rw [List.nil_append, parts_append hsep]
  | cons a t ih =>
      have hnot : ¬ sep <+: a :: (t ++ sep ++ s) := by
        intro hfront
        refine h [] (a :: t) rfl (List.cons_ne_nil a t) ?_
        refine List.prefix_of_prefix_length_le hfront ⟨s, ?_⟩ ?_
        · rw [List.cons_append, List.cons_append]
        · rw [List.length_append]
          omega
      rw [List.cons_append, List.cons_append, parts_cons hnot, ih h.of_cons]
      rfl

theorem parts_of_plain (h : Plain sep t) : parts sep t = [t] := by
  induction t with
  | nil => rfl
  | cons a t ih =>
      have hnot : ¬ sep <+: a :: t := fun hfront =>
        h [] (a :: t) rfl (List.cons_ne_nil a t) (hfront.trans (List.prefix_append _ _))
      rw [parts_cons hnot, ih h.of_cons]
      rfl

/-- **Plain texts that are joined come apart again.** -/
theorem parts_intercalate (hsep : sep ≠ []) {ps : List (List α)} (hne : ps ≠ []) (h : ∀ p ∈ ps, Plain sep p) :
    parts sep (sep.intercalate ps) = ps := by
  induction ps with
  | nil => exact absurd rfl hne
  | cons p ps ih =>
      have hp := h p List.mem_cons_self
      by_cases hps : ps = []
      · rw [hps, List.intercalate_singleton, parts_of_plain hp]
      · rw [List.intercalate_cons_of_ne_nil hps, parts_append_of_plain hsep hp,
          ih hps fun q hq => h q (List.mem_cons_of_mem p hq)]

/-- A part has no separator of one letter. -/
theorem not_mem_of_mem_parts {c : α} {p : List α} (h : p ∈ parts [c] s) : c ∉ p := by
  induction s using parts_induction (List.cons_ne_nil c []) generalizing p with
  | nil =>
      rw [List.mem_singleton.mp h]
      exact List.not_mem_nil
  | cut s ih =>
      rw [parts_append (List.cons_ne_nil c [])] at h
      rcases List.mem_cons.mp h with rfl | h
      · exact List.not_mem_nil
      · exact ih h
  | cons a s hnot ih =>
      rw [parts_cons hnot] at h
      have hne : c ≠ a := fun heq => hnot ⟨s, heq ▸ rfl⟩
      cases hparts : parts [c] s with
      | nil => exact absurd hparts (parts_ne_nil (List.cons_ne_nil c []) s)
      | cons q qs =>
          rw [hparts] at h ih
          rcases List.mem_cons.mp h with rfl | h
          · exact List.not_mem_cons_of_ne_of_not_mem hne (ih List.mem_cons_self)
          · exact ih (List.mem_cons_of_mem q h)

/-! ## 4. The last part -/

section Last

variable {init init' : List (List α)} {x y : List α}

/-- All parts but the last are the parts of a head. -/
theorem parts_init (hsep : sep ≠ []) (h : parts sep s = init ++ [x]) (hinit : init ≠ []) :
    parts sep (sep.intercalate init) = init ∧ sep.intercalate init ∈ heads sep s := by
  have hpos := List.length_pos_iff.mpr hinit
  have hlength : init.length - 1 + 1 < (parts sep s).length := by
    rw [h, List.length_append, List.length_singleton]
    omega
  have htake : (parts sep s).take (init.length - 1 + 1) = init := by
    rw [h, Nat.sub_add_cancel hpos, List.take_left]
  have hhead : head sep s (init.length - 1) = sep.intercalate init := by
    rw [head, htake]
  refine ⟨?_, mem_heads.mpr ⟨_, hlength, hhead⟩⟩
  rw [← hhead, (head_spec hsep s hlength).2, htake]

/-- **The heads of a text** are joined from its parts but the last. -/
theorem heads_of_parts (h : parts sep s = init ++ [x]) :
    heads sep s = (List.range init.length).map fun i => sep.intercalate (init.take (i + 1)) := by
  rw [heads, h, List.length_append, List.length_singleton, Nat.add_sub_cancel]
  refine List.map_congr_left fun i hi => ?_
  have hi := List.mem_range.mp hi
  rw [head, h, List.take_append_of_le_length (by omega)]

/-- The last head, and the heads of it. -/
theorem heads_of_init (hsep : sep ≠ []) (h : parts sep s = init ++ [x]) (hinit : init ≠ []) :
    heads sep s = heads sep (sep.intercalate init) ++ [sep.intercalate init] := by
  obtain ⟨hparts, _⟩ := parts_init hsep h hinit
  obtain ⟨front, last, rfl⟩ : ∃ front last, init = front ++ [last] :=
    ⟨init.dropLast, init.getLast hinit, (List.dropLast_concat_getLast hinit).symm⟩
  rw [heads_of_parts h, heads_of_parts hparts, List.length_append, List.length_singleton, List.range_succ,
    List.map_append, List.map_singleton, List.take_of_length_le (by simp)]
  congr 1
  refine List.map_congr_left fun i hi => ?_
  have hi := List.mem_range.mp hi
  rw [List.take_append_of_le_length (by omega)]

end Last

/-! ## 5. Joins in front of others -/

section Prefixes

variable {c : α} {init ps : List (List α)} {x : List α}

/-- **A join in front of another one** has the same first texts, and then one that is in front of the next. -/
theorem exists_of_prefix (hleft : ∀ p ∈ init ++ [x], c ∉ p) (hright : ∀ p ∈ ps, c ∉ p) (hps : ps ≠ [])
    (h : [c].intercalate (init ++ [x]) <+: [c].intercalate ps) :
    ∃ y rest, ps = init ++ y :: rest ∧ x <+: y := by
  induction init generalizing ps with
  | nil =>
      cases ps with
      | nil => exact absurd rfl hps
      | cons p ps =>
          rw [List.nil_append, List.intercalate_singleton] at h
          exact ⟨p, ps, rfl, prefix_of_prefix_intercalate (hleft x List.mem_cons_self) h⟩
  | cons q init ih =>
      have hq : c ∉ q := hleft q List.mem_cons_self
      cases ps with
      | nil => exact absurd rfl hps
      | cons p ps =>
          have hp : c ∉ p := hright p List.mem_cons_self
          have hne : init ++ [x] ≠ [] := List.append_ne_nil_of_right_ne_nil _ (List.cons_ne_nil _ _)
          rw [List.cons_append, List.intercalate_cons_of_ne_nil hne, List.append_assoc, List.singleton_append] at h
          by_cases hrest : ps = []
          · -- the separator is not in a single text
            rw [hrest, List.intercalate_singleton] at h
            exact absurd (h.subset (List.mem_append_right q List.mem_cons_self)) hp
          · rw [List.intercalate_cons_of_ne_nil hrest, List.append_assoc, List.singleton_append] at h
            obtain ⟨back, hback⟩ := h
            rw [List.append_assoc, List.cons_append] at hback
            have hcut : Cuts.cut c (q ++ c :: ([c].intercalate (init ++ [x]) ++ back)) =
                some (q, [c].intercalate (init ++ [x]) ++ back) := Cuts.cut_append hq
            rw [hback, Cuts.cut_append hp, Option.some_inj, Prod.mk.injEq] at hcut
            obtain ⟨rfl, hback'⟩ := hcut
            obtain ⟨y, rest, rfl, hxy⟩ := ih (fun p' hp' => hleft p' (List.mem_cons_of_mem _ hp'))
              (fun p' hp' => hright p' (List.mem_cons_of_mem _ hp')) hrest ⟨back, hback'.symm⟩
            exact ⟨y, rest, rfl, hxy⟩

end Prefixes

end Parts
