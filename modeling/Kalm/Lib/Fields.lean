/-
  File:      Kalm/Lib/Fields.lean
  Subject:   SEPARATED TEXT over any alphabet: pieces between separators, lines, and trimming by a
             set of blank sequences. Nothing here knows what the text says.

  * `not_mem_of_mem_splitOn`, `mem_of_mem_splitOn` -- what a piece of a split can hold;
  * `exists_splitOn_of_mem` -- a text with the separator has two pieces;
  * `unlines`, `splitOn_unlines` -- lines closed by the separator split one by one;
  * `trim` -- repeated removal of blank SEQUENCES at both ends (a blank may be several units long,
    as a blank code point is in UTF-8); `Trimmed` says that nothing is left to remove, and
    `trim_eq_self_iff` that this is what a fixed point of `trim` is.
-/
import Mathlib.Data.List.Infix
import Mathlib.Data.List.Basic

namespace Fields

variable {α : Type}

/-! ## 1. Pieces of a split -/

section Pieces

variable [DecidableEq α]

theorem not_mem_of_mem_splitOn {a : α} {s piece : List α} (h : piece ∈ s.splitOn a) :
    a ∉ piece := by
  induction s generalizing piece with
  | nil =>
      have e : piece = [] := by simpa [List.splitOn_nil] using h
      simp [e]
  | cons x s ih =>
      rw [List.splitOn_cons_eq_if_modifyHead] at h
      split at h
      · rcases List.mem_cons.mp h with rfl | h
        · exact List.not_mem_nil
        · exact ih h
      · rename_i hx
        obtain ⟨hd, tl, e⟩ := List.exists_cons_of_ne_nil (List.splitOn_ne_nil a s)
        rw [e, List.modifyHead_cons] at h
        rw [e] at ih
        rcases List.mem_cons.mp h with rfl | h
        · have hxa : x ≠ a := by simpa using hx
          have hhd := ih List.mem_cons_self
          simp only [List.mem_cons, not_or]
          exact ⟨fun e => hxa e.symm, hhd⟩
        · exact ih (List.mem_cons_of_mem _ h)

theorem mem_of_mem_splitOn {a : α} {s piece : List α} (h : piece ∈ s.splitOn a) {x : α}
    (hx : x ∈ piece) : x ∈ s := by
  induction s generalizing piece with
  | nil =>
      have e : piece = [] := by simpa [List.splitOn_nil] using h
      simp [e] at hx
  | cons y s ih =>
      rw [List.splitOn_cons_eq_if_modifyHead] at h
      split at h
      · rcases List.mem_cons.mp h with rfl | h
        · exact absurd hx List.not_mem_nil
        · exact List.mem_cons_of_mem _ (ih h hx)
      · obtain ⟨hd, tl, e⟩ := List.exists_cons_of_ne_nil (List.splitOn_ne_nil a s)
        rw [e, List.modifyHead_cons] at h
        rw [e] at ih
        rcases List.mem_cons.mp h with rfl | h
        · rcases List.mem_cons.mp hx with rfl | hx
          · exact List.mem_cons_self
          · exact List.mem_cons_of_mem _ (ih List.mem_cons_self hx)
        · exact List.mem_cons_of_mem _ (ih (List.mem_cons_of_mem _ h) hx)

/-- What is not the separator is in one of the pieces. -/
theorem exists_piece_of_mem {a x : α} {s : List α} (hx : x ∈ s) (hne : x ≠ a) : ∃ piece ∈ s.splitOn a, x ∈ piece := by
  induction s with
  | nil => exact absurd hx List.not_mem_nil
  | cons y s ih =>
      rw [List.splitOn_cons_eq_if_modifyHead]
      split
      · rename_i hy
        have hya : y = a := by simpa using hy
        rcases List.mem_cons.mp hx with rfl | hx
        · exact absurd hya hne
        · obtain ⟨piece, hpiece, hmem⟩ := ih hx
          exact ⟨piece, List.mem_cons_of_mem _ hpiece, hmem⟩
      · obtain ⟨first, rest, e⟩ := List.exists_cons_of_ne_nil (List.splitOn_ne_nil a s)
        rw [e] at ih
        rw [e, List.modifyHead_cons]
        rcases List.mem_cons.mp hx with rfl | hx
        · exact ⟨_, List.mem_cons_self, List.mem_cons_self⟩
        · obtain ⟨piece, hpiece, hmem⟩ := ih hx
          rcases List.mem_cons.mp hpiece with rfl | hpiece
          · exact ⟨_, List.mem_cons_self, List.mem_cons_of_mem _ hmem⟩
          · exact ⟨piece, List.mem_cons_of_mem _ hpiece, hmem⟩

/-- A text with the separator has a second piece. -/
theorem exists_splitOn_of_mem {a : α} {s : List α} (h : a ∈ s) :
    ∃ first second rest, s.splitOn a = first :: second :: rest := by
  have hjoin : [a].intercalate (s.splitOn a) = s := List.intercalate_splitOn a
  cases hs : s.splitOn a with
  | nil => exact absurd hs (List.splitOn_ne_nil _ _)
  | cons first pieces =>
      cases pieces with
      | nil =>
          -- one piece is the whole text
          have hnot : a ∉ first := not_mem_of_mem_splitOn (by rw [hs]; exact List.mem_cons_self)
          rw [hs, List.intercalate_singleton] at hjoin
          rw [hjoin] at hnot
          exact absurd h hnot
      | cons second rest => exact ⟨first, second, rest, rfl⟩

/-- What holds no separator is appended to the last piece. -/
theorem splitOn_append_last {a : α} {w : List α} (hw : a ∉ w) (s : List α) :
    ∃ init last, s.splitOn a = init ++ [last] ∧ (s ++ w).splitOn a = init ++ [last ++ w] := by
  induction s with
  | nil => exact ⟨[], [], List.splitOn_nil a, List.splitOn_eq_singleton hw⟩
  | cons x s ih =>
      obtain ⟨init, last, e1, e2⟩ := ih
      rw [List.cons_append, List.splitOn_cons_eq_if_modifyHead, List.splitOn_cons_eq_if_modifyHead, e1,
        e2]
      split
      · exact ⟨[] :: init, last, rfl, rfl⟩
      · cases init with
        | nil => exact ⟨[], x :: last, rfl, rfl⟩
        | cons piece init => exact ⟨(x :: piece) :: init, last, rfl, rfl⟩

end Pieces

/-! ## 2. Lines -/

/-- The lines, each closed by the separator. -/
def unlines (nl : α) (ls : List (List α)) : List α := ls.flatMap (fun l => l ++ [nl])

@[simp] theorem unlines_nil (nl : α) : unlines nl [] = [] := rfl

theorem unlines_cons (nl : α) (l : List α) (ls : List (List α)) :
    unlines nl (l :: ls) = l ++ nl :: unlines nl ls := by
  simp [unlines]

/-- A closed text splits before whatever follows it. -/
theorem splitOn_closed_append [DecidableEq α] (nl : α) (s rest : List α) :
    (s ++ nl :: rest).splitOn nl = s.splitOn nl ++ rest.splitOn nl :=
  List.splitOn_append_cons_self s rest

/-- **Closed lines split one by one**: a line that holds the separator falls apart, and the text
    after the last separator is empty. -/
theorem splitOn_unlines [DecidableEq α] (nl : α) (ls : List (List α)) :
    (unlines nl ls).splitOn nl = ls.flatMap (fun l => l.splitOn nl) ++ [[]] := by
  induction ls with
  | nil => simp [List.splitOn_nil]
  | cons l ls ih =>
      rw [unlines_cons, splitOn_closed_append, ih, List.flatMap_cons, List.append_assoc]

/-! ## 3. Trimming by blank sequences -/

section Trim

variable [DecidableEq α]

/-- Remove blank sequences from the front, at most `fuel` of them. -/
def dropBlanks (blanks : List (List α)) : Nat → List α → List α
  | 0, s => s
  | n + 1, s =>
    match blanks.find? (fun b => b.isPrefixOf s) with
    | some b => dropBlanks blanks n (s.drop b.length)
    | none => s

/-- Remove every leading blank sequence (each removal shortens the text). -/
def trimLeft (blanks : List (List α)) (s : List α) : List α := dropBlanks blanks s.length s

/-- Remove every trailing blank sequence. -/
def trimRight (blanks : List (List α)) (s : List α) : List α :=
  (trimLeft (blanks.map List.reverse) s.reverse).reverse

/-- Remove the blank sequences at both ends. -/
def trim (blanks : List (List α)) (s : List α) : List α := trimRight blanks (trimLeft blanks s)

/-- No blank sequence stands at either end. -/
def Trimmed (blanks : List (List α)) (s : List α) : Prop :=
  ∀ b ∈ blanks, ¬ b <+: s ∧ ¬ b <:+ s

instance (blanks : List (List α)) (s : List α) : Decidable (Trimmed blanks s) :=
  inferInstanceAs (Decidable (∀ b ∈ blanks, ¬ b <+: s ∧ ¬ b <:+ s))

theorem find_blank_none {blanks : List (List α)} {s : List α} :
    blanks.find? (fun b => b.isPrefixOf s) = none ↔ ∀ b ∈ blanks, ¬ b <+: s := by
  simp [List.find?_eq_none, List.isPrefixOf_iff_prefix]

theorem dropBlanks_suffix (blanks : List (List α)) (n : Nat) (s : List α) :
    dropBlanks blanks n s <:+ s := by
  induction n generalizing s with
  | zero => exact List.suffix_refl s
  | succ n ih =>
      unfold dropBlanks
      split
      · rename_i b _
        exact (ih (s.drop b.length)).trans (List.drop_suffix _ _)
      · exact List.suffix_refl s

theorem dropBlanks_of_none {blanks : List (List α)} {s : List α} (h : ∀ b ∈ blanks, ¬ b <+: s)
    (n : Nat) : dropBlanks blanks n s = s := by
  cases n with
  | zero => rfl
  | succ n => unfold dropBlanks; rw [find_blank_none.mpr h]

/-- With enough fuel nothing is left to remove: each blank is at least one unit long. -/
theorem dropBlanks_clean {blanks : List (List α)} (hne : [] ∉ blanks) (n : Nat) (s : List α)
    (hn : s.length ≤ n) : ∀ b ∈ blanks, ¬ b <+: dropBlanks blanks n s := by
  induction n generalizing s with
  | zero =>
      have e : s = [] := List.eq_nil_of_length_eq_zero (Nat.le_zero.mp hn)
      subst e
      intro b hb hp
      exact hne ((List.prefix_nil.mp hp) ▸ hb)
  | succ n ih =>
      unfold dropBlanks
      split
      · rename_i b hb
        have hmem : b ∈ blanks := List.mem_of_find?_eq_some hb
        have hpos : 0 < b.length := List.length_pos_of_ne_nil fun e => hne (e ▸ hmem)
        exact ih _ (by rw [List.length_drop]; omega)
      · rename_i hb
        exact find_blank_none.mp hb

/-- Fuel beyond the length of the text is never used. -/
theorem dropBlanks_fuel {blanks : List (List α)} (hne : [] ∉ blanks) {n m : Nat} {s : List α}
    (hn : s.length ≤ n) (hm : s.length ≤ m) : dropBlanks blanks n s = dropBlanks blanks m s := by
  induction n generalizing m s with
  | zero =>
      have e : s = [] := List.eq_nil_of_length_eq_zero (Nat.le_zero.mp hn)
      subst e
      exact (dropBlanks_of_none (fun b hb hp => hne ((List.prefix_nil.mp hp) ▸ hb)) m).symm
  | succ n ih =>
      cases hf : blanks.find? (fun b => b.isPrefixOf s) with
      | none =>
          rw [dropBlanks_of_none (find_blank_none.mp hf), dropBlanks_of_none (find_blank_none.mp hf)]
      | some b =>
          have hmem : b ∈ blanks := List.mem_of_find?_eq_some hf
          have hpos : 0 < b.length := List.length_pos_of_ne_nil fun e => hne (e ▸ hmem)
          have hp := List.find?_some hf
          simp only [List.isPrefixOf_iff_prefix] at hp
          have hle : b.length ≤ s.length := hp.length_le
          cases m with
          | zero => omega
          | succ m =>
              simp only [dropBlanks, hf]
              exact ih (by rw [List.length_drop]; omega) (by rw [List.length_drop]; omega)

theorem trimLeft_suffix (blanks : List (List α)) (s : List α) : trimLeft blanks s <:+ s :=
  dropBlanks_suffix blanks _ s

theorem trimRight_isPre (blanks : List (List α)) (s : List α) : trimRight blanks s <+: s := by
  have h := trimLeft_suffix (blanks.map List.reverse) s.reverse
  have h' := List.reverse_prefix.mpr h
  rwa [List.reverse_reverse] at h'

/-- Trimming keeps a run of the text. -/
theorem trim_within (blanks : List (List α)) (s : List α) : trim blanks s <:+: s :=
  (trimRight_isPre blanks _).isInfix.trans (trimLeft_suffix blanks s).isInfix

theorem mem_of_mem_trim {blanks : List (List α)} {s : List α} {x : α} (h : x ∈ trim blanks s) :
    x ∈ s :=
  (trim_within blanks s).subset h

theorem trimLeft_clean {blanks : List (List α)} (hne : [] ∉ blanks) (s : List α) :
    ∀ b ∈ blanks, ¬ b <+: trimLeft blanks s :=
  dropBlanks_clean hne _ s (Nat.le_refl _)

theorem trimRight_clean {blanks : List (List α)} (hne : [] ∉ blanks) (s : List α) :
    ∀ b ∈ blanks, ¬ b <:+ trimRight blanks s := by
  intro b hb hs
  have hne' : [] ∉ blanks.map List.reverse := by
    intro h
    obtain ⟨c, hc, e⟩ := List.mem_map.mp h
    exact hne ((List.reverse_eq_nil_iff.mp e) ▸ hc)
  refine trimLeft_clean hne' s.reverse b.reverse (List.mem_map_of_mem hb) ?_
  have h := List.reverse_prefix.mpr hs
  rwa [trimRight, List.reverse_reverse] at h

theorem trimLeft_of_clean {blanks : List (List α)} {s : List α} (h : ∀ b ∈ blanks, ¬ b <+: s) :
    trimLeft blanks s = s :=
  dropBlanks_of_none h _

theorem trimRight_of_clean {blanks : List (List α)} {s : List α} (h : ∀ b ∈ blanks, ¬ b <:+ s) :
    trimRight blanks s = s := by
  have h' : ∀ b ∈ blanks.map List.reverse, ¬ b <+: s.reverse := by
    intro b hb hp
    obtain ⟨c, hc, rfl⟩ := List.mem_map.mp hb
    exact h c hc (List.reverse_prefix.mp hp)
  rw [trimRight, trimLeft_of_clean h', List.reverse_reverse]

/-- What is removed in front is made of blanks. -/
theorem exists_blanks_dropBlanks (blanks : List (List α)) (n : Nat) (s : List α) :
    ∃ bs : List (List α), (∀ b ∈ bs, b ∈ blanks) ∧ s = bs.flatten ++ dropBlanks blanks n s := by
  induction n generalizing s with
  | zero => exact ⟨[], by simp, rfl⟩
  | succ n ih =>
      unfold dropBlanks
      split
      · rename_i b hb
        have hp := List.find?_some hb
        simp only [List.isPrefixOf_iff_prefix] at hp
        obtain ⟨r, rfl⟩ := hp
        obtain ⟨bs, hbs, e⟩ := ih r
        refine ⟨b :: bs, List.forall_mem_cons.mpr ⟨List.mem_of_find?_eq_some hb, hbs⟩, ?_⟩
        rw [List.drop_left, List.flatten_cons, List.append_assoc, ← e]
      · exact ⟨[], by simp, rfl⟩

/-- A unit of no blank is not removed in front. -/
theorem mem_trimLeft {blanks : List (List α)} {s : List α} {x : α} (hx : ∀ b ∈ blanks, x ∉ b)
    (h : x ∈ s) : x ∈ trimLeft blanks s := by
  obtain ⟨bs, hbs, e⟩ := exists_blanks_dropBlanks blanks s.length s
  rw [e, List.mem_append] at h
  rcases h with h | h
  · obtain ⟨b, hb, hxb⟩ := List.mem_flatten.mp h
    exact absurd hxb (hx b (hbs b hb))
  · exact h

/-- A unit of no blank comes through. -/
theorem mem_trim {blanks : List (List α)} {s : List α} {x : α} (hx : ∀ b ∈ blanks, x ∉ b)
    (h : x ∈ s) : x ∈ trim blanks s := by
  have hx' : ∀ b ∈ blanks.map List.reverse, x ∉ b := by
    intro b hb
    obtain ⟨c, hc, rfl⟩ := List.mem_map.mp hb
    rw [List.mem_reverse]
    exact hx c hc
  refine List.mem_reverse.mpr (mem_trimLeft hx' (List.mem_reverse.mpr ?_))
  exact mem_trimLeft hx h

/-- What trimming leaves is trimmed. -/
theorem trimmed_trim {blanks : List (List α)} (hne : [] ∉ blanks) (s : List α) :
    Trimmed blanks (trim blanks s) := by
  intro b hb
  refine ⟨fun hp => ?_, trimRight_clean hne _ b hb⟩
  exact trimLeft_clean hne s b hb (hp.trans (trimRight_isPre blanks _))

theorem trim_of_trimmed {blanks : List (List α)} {s : List α} (h : Trimmed blanks s) :
    trim blanks s = s := by
  rw [trim, trimLeft_of_clean fun b hb => (h b hb).1, trimRight_of_clean fun b hb => (h b hb).2]

/-- **The fixed points of trimming are the trimmed texts.** -/
theorem trim_eq_self_iff {blanks : List (List α)} (hne : [] ∉ blanks) {s : List α} :
    trim blanks s = s ↔ Trimmed blanks s :=
  ⟨fun h => h ▸ trimmed_trim hne s, trim_of_trimmed⟩

theorem trim_trim {blanks : List (List α)} (hne : [] ∉ blanks) (s : List α) :
    trim blanks (trim blanks s) = trim blanks s :=
  trim_of_trimmed (trimmed_trim hne s)

/-- A map of texts that keeps prefixes keeps the removal of blanks in front. -/
theorem dropBlanks_map {β : Type} [DecidableEq β] {f : List α → List β} (hp : ∀ {s t}, f s <+: f t ↔ s <+: t)
    (hd : ∀ {s t}, s <+: t → (f t).drop (f s).length = f (t.drop s.length))
    (blanks : List (List α)) (n : Nat) (s : List α) :
    dropBlanks (blanks.map f) n (f s) = f (dropBlanks blanks n s) := by
  induction n generalizing s with
  | zero => rfl
  | succ n ih =>
      have hfind : (blanks.map f).find? (fun b => b.isPrefixOf (f s)) =
          (blanks.find? (fun b => b.isPrefixOf s)).map f := by
        rw [List.find?_map]
        congr 2
        funext b
        exact Bool.eq_iff_iff.mpr (by simp [List.isPrefixOf_iff_prefix, hp])
      cases hb : blanks.find? (fun b => b.isPrefixOf s) with
      | none => simp [dropBlanks, hfind, hb]
      | some b =>
          have hpre := List.find?_some hb
          simp only [List.isPrefixOf_iff_prefix] at hpre
          simp only [dropBlanks, hfind, hb, Option.map_some]
          rw [hd hpre, ih]

/-- A single-unit blank in front is removed first, when no other blank starts with it. -/
theorem trim_cons_blank {blanks : List (List α)} {c : α} (hc : [c] ∈ blanks)
    (hfree : ∀ b ∈ blanks, [c] <+: b → b = [c]) (hne : [] ∉ blanks) (s : List α) :
    trim blanks (c :: s) = trim blanks s := by
  have hfind : blanks.find? (fun b => b.isPrefixOf (c :: s)) = some [c] := by
    cases hb : blanks.find? (fun b => b.isPrefixOf (c :: s)) with
    | none =>
        exact absurd (List.cons_prefix_cons.mpr ⟨rfl, List.nil_prefix⟩)
          (find_blank_none.mp hb [c] hc)
    | some b =>
        have hmem : b ∈ blanks := List.mem_of_find?_eq_some hb
        have hp := List.find?_some hb
        simp only [List.isPrefixOf_iff_prefix] at hp
        cases b with
        | nil => exact absurd hmem hne
        | cons d b =>
            obtain ⟨rfl, _⟩ := List.cons_prefix_cons.mp hp
            rw [hfree _ hmem (List.cons_prefix_cons.mpr ⟨rfl, List.nil_prefix⟩)]
  have e : trimLeft blanks (c :: s) = trimLeft blanks s := by
    unfold trimLeft
    rw [List.length_cons, dropBlanks, hfind]
    rfl
  rw [trim, e, trim]

end Trim

end Fields
