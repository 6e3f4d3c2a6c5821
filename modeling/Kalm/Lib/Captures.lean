/-
  File:      Kalm/Lib/Captures.lean
  Subject:   CAPTURES: a regular expression of texts and groups `(.*)`, found in a text as a backtracking matcher
             finds it: at the first place where it matches, each group as long as what follows still matches.

  * `Piece`, `matchHere`, `find` -- the matcher;
  * `Here`, `Found` -- what it finds, without the search: `matchHere_eq_some`, `find_eq_some`;
  * `here_pair` -- two groups with a text between them.
-/
import Mathlib.Data.List.Infix

namespace Captures

variable {α R : Type} [DecidableEq α]

/-- A text, or a group `(.*)`. -/
inductive Piece (α : Type) where
  | lit (text : List α)
  | any

/-! ## 1. The matcher -/

/-- A group that does not go over `stop`, as long as possible, and what the rest returns behind it. -/
def captureAny (stop : α) (rest : List α → Option R) : List α → Option (List α × R)
  | [] => (rest []).map fun r => ([], r)
  | c :: s =>
    if c = stop then (rest (c :: s)).map fun r => ([], r)
    else
      match captureAny stop rest s with
      | some (group, r) => some (c :: group, r)
      | none => (rest (c :: s)).map fun r => ([], r)

/-- The groups of a match at the start of a text. -/
def matchHere (stop : α) : List (Piece α) → List α → Option (List (List α))
  | [], _ => some []
  | .lit text :: pieces, s => if text.isPrefixOf s then matchHere stop pieces (s.drop text.length) else none
  | .any :: pieces, s => (captureAny stop (matchHere stop pieces) s).map fun m => m.1 :: m.2

/-- The groups of the first match. -/
def find (stop : α) (pieces : List (Piece α)) : List α → Option (List (List α))
  | [] => matchHere stop pieces []
  | c :: s =>
    match matchHere stop pieces (c :: s) with
    | some groups => some groups
    | none => find stop pieces s

/-! ## 2. What it finds -/

/-- A group that does not go over `stop`, with a rest for which `Q` holds, and no longer one. -/
structure Longest (stop : α) (Q : List α → Prop) (s group rest : List α) : Prop where
  split : s = group ++ rest
  free : stop ∉ group
  holds : Q rest
  longest : ∀ more rest', rest = more ++ rest' → more ≠ [] → stop ∉ more → ¬ Q rest'

/-- The groups of a match at the start. -/
def Here (stop : α) : List (Piece α) → List α → List (List α) → Prop
  | [], _, groups => groups = []
  | .lit text :: pieces, s, groups => ∃ rest, s = text ++ rest ∧ Here stop pieces rest groups
  | .any :: pieces, s, groups => ∃ group groups' rest, groups = group :: groups' ∧ Here stop pieces rest groups' ∧
      Longest stop (fun t => ∃ gs, Here stop pieces t gs) s group rest

/-- The groups of the first match. -/
structure Found (stop : α) (pieces : List (Piece α)) (s front rest : List α) (groups : List (List α)) : Prop where
  split : s = front ++ rest
  here : Here stop pieces rest groups
  first : ∀ front' rest', s = front' ++ rest' → front'.length < front.length → ∀ gs, ¬ Here stop pieces rest' gs

/-- No group of a text is followed by what the rest takes. -/
theorem captureAny_eq_none {stop : α} {rest : List α → Option R} {s : List α} :
    captureAny stop rest s = none ↔ ∀ group t, s = group ++ t → stop ∉ group → rest t = none := by
  induction s with
  | nil =>
      rw [captureAny, Option.map_eq_none_iff]
      constructor
      · intro h group t hsplit _
        obtain ⟨-, rfl⟩ := List.append_eq_nil_iff.mp hsplit.symm
        exact h
      · exact fun h => h [] [] rfl List.not_mem_nil
  | cons c s ih =>
      rw [captureAny]
      constructor
      · intro h group t hsplit hfree
        cases group with
        | nil =>
            rw [List.nil_append] at hsplit
            subst hsplit
            split at h
            · exact Option.map_eq_none_iff.mp h
            · split at h
              · cases h
              · exact Option.map_eq_none_iff.mp h
        | cons d group =>
            obtain ⟨rfl, rfl⟩ := List.cons.inj hsplit
            rw [if_neg fun hc : c = stop => hfree (hc ▸ List.mem_cons_self)] at h
            split at h
            · cases h
            · rename_i hnone
              exact ih.mp hnone group t rfl fun hm => hfree (List.mem_cons_of_mem _ hm)
      · intro h
        have hself : rest (c :: s) = none := h [] (c :: s) rfl List.not_mem_nil
        rw [hself]
        split
        · rfl
        · rename_i hc
          have htail : captureAny stop rest s = none := ih.mpr fun group t hsplit hfree =>
            h (c :: group) t (by rw [hsplit, List.cons_append])
              fun hm => (List.mem_cons.mp hm).elim (fun e => hc e.symm) hfree
          rw [htail]
          rfl

omit [DecidableEq α] in
/-- There is one longest group. -/
theorem Longest.unique {stop : α} {Q : List α → Prop} {s group group' t t' : List α}
    (h : Longest stop Q s group t) (h' : Longest stop Q s group' t') : group = group' ∧ t = t' := by
  rcases List.append_eq_append_iff.mp (h.split.symm.trans h'.split) with ⟨more, hgroup, ht⟩ | ⟨more, hgroup, ht⟩
  · by_cases hmore : more = []
    · subst hmore
      exact ⟨by rw [hgroup, List.append_nil], by rw [ht, List.nil_append]⟩
    · have hfree : stop ∉ more := fun hm => h'.free (hgroup ▸ List.mem_append_right _ hm)
      exact absurd h'.holds (h.longest more t' ht hmore hfree)
  · by_cases hmore : more = []
    · subst hmore
      exact ⟨by rw [hgroup, List.append_nil], by rw [ht, List.nil_append]⟩
    · have hfree : stop ∉ more := fun hm => h.free (hgroup ▸ List.mem_append_right _ hm)
      exact absurd h.holds (h'.longest more t ht hmore hfree)

theorem longest_of_captureAny {stop : α} {rest : List α → Option R} {s group : List α} {r : R}
    (h : captureAny stop rest s = some (group, r)) :
    ∃ t, rest t = some r ∧ Longest stop (fun u => rest u ≠ none) s group t := by
  induction s generalizing group with
  | nil =>
      rw [captureAny, Option.map_eq_some_iff] at h
      obtain ⟨r', hr, heq⟩ := h
      obtain ⟨rfl, rfl⟩ := Prod.mk.inj heq
      refine ⟨[], hr, rfl, List.not_mem_nil, by rw [hr]; exact nofun, fun more rest' hsplit hmore => ?_⟩
      exact absurd (List.append_eq_nil_iff.mp hsplit.symm).1 hmore
  | cons c s ih =>
      rw [captureAny] at h
      split at h
      · -- the group cannot begin
        rename_i hc
        obtain ⟨r', hr, heq⟩ := Option.map_eq_some_iff.mp h
        obtain ⟨rfl, rfl⟩ := Prod.mk.inj heq
        refine ⟨c :: s, hr, rfl, List.not_mem_nil, by rw [hr]; exact nofun, fun more rest' hsplit hmore hfree => ?_⟩
        cases more with
        | nil => exact absurd rfl hmore
        | cons d more =>
            obtain ⟨rfl, -⟩ := List.cons.inj hsplit
            exact absurd (hc ▸ List.mem_cons_self) hfree
      · rename_i hc
        split at h
        · -- the group goes on
          rename_i group' r' htail
          obtain ⟨rfl, rfl⟩ := Prod.mk.inj (Option.some.inj h)
          obtain ⟨t, ht, hlongest⟩ := ih htail
          refine ⟨t, ht, by rw [hlongest.split, List.cons_append], ?_, hlongest.holds, hlongest.longest⟩
          exact fun hm => (List.mem_cons.mp hm).elim (fun e => hc e.symm) hlongest.free
        · -- nothing longer is followed by what the rest takes
          rename_i htail
          obtain ⟨r', hr, heq⟩ := Option.map_eq_some_iff.mp h
          obtain ⟨rfl, rfl⟩ := Prod.mk.inj heq
          refine ⟨c :: s, hr, rfl, List.not_mem_nil, by rw [hr]; exact nofun,
            fun more rest' hsplit hmore hfree hne => ?_⟩
          cases more with
          | nil => exact absurd rfl hmore
          | cons d more =>
              obtain ⟨-, hsplit⟩ := List.cons.inj hsplit
              exact hne (captureAny_eq_none.mp htail more rest' hsplit fun hm => hfree (List.mem_cons_of_mem _ hm))

/-- **A group ends at the last place where the rest matches.** -/
theorem captureAny_eq_some {stop : α} {rest : List α → Option R} {s group : List α} {r : R} :
    captureAny stop rest s = some (group, r) ↔
      ∃ t, rest t = some r ∧ Longest stop (fun u => rest u ≠ none) s group t := by
  refine ⟨longest_of_captureAny, fun ⟨t, ht, hlongest⟩ => ?_⟩
  cases hcapture : captureAny stop rest s with
  | none =>
      have hnone := captureAny_eq_none.mp hcapture group t hlongest.split hlongest.free
      rw [ht] at hnone
      cases hnone
  | some m =>
      obtain ⟨group', r'⟩ := m
      obtain ⟨t', ht', hlongest'⟩ := longest_of_captureAny hcapture
      obtain ⟨rfl, rfl⟩ := hlongest'.unique hlongest
      rw [ht'] at ht
      rw [← Option.some.inj ht]

omit [DecidableEq α] in
theorem Longest.congr {stop : α} {Q Q' : List α → Prop} (hQ : ∀ t, Q t ↔ Q' t) {s group rest : List α}
    (h : Longest stop Q s group rest) : Longest stop Q' s group rest where
  split := h.split
  free := h.free
  holds := (hQ rest).mp h.holds
  longest := fun more rest' hsplit hmore hfree hq => h.longest more rest' hsplit hmore hfree ((hQ rest').mpr hq)

/-- **A match at the start**, by the pieces of the expression. -/
theorem matchHere_eq_some {stop : α} {pieces : List (Piece α)} {s : List α} {groups : List (List α)} :
    matchHere stop pieces s = some groups ↔ Here stop pieces s groups := by
  induction pieces generalizing s groups with
  | nil => exact ⟨fun h => (Option.some.inj h).symm, fun h => congrArg some h.symm⟩
  | cons piece pieces ih =>
      have hsome (t : List α) : matchHere stop pieces t ≠ none ↔ ∃ gs, Here stop pieces t gs := by
        rw [Option.ne_none_iff_exists']
        exact exists_congr fun gs => ih
      cases piece with
      | lit text =>
          rw [matchHere, Here]
          constructor
          · intro h
            split at h
            · rename_i hprefix
              obtain ⟨rest, rfl⟩ := List.isPrefixOf_iff_prefix.mp hprefix
              rw [List.drop_left] at h
              exact ⟨rest, rfl, ih.mp h⟩
            · cases h
          · rintro ⟨rest, rfl, h⟩
            rw [if_pos (List.isPrefixOf_iff_prefix.mpr (List.prefix_append text rest)), List.drop_left]
            exact ih.mpr h
      | any =>
          rw [matchHere, Here, Option.map_eq_some_iff]
          constructor
          · rintro ⟨⟨group, groups'⟩, hcapture, rfl⟩
            obtain ⟨rest, hrest, hlongest⟩ := captureAny_eq_some.mp hcapture
            exact ⟨group, groups', rest, rfl, ih.mp hrest, hlongest.congr hsome⟩
          · rintro ⟨group, groups', rest, rfl, hhere, hlongest⟩
            exact ⟨(group, groups'), captureAny_eq_some.mpr
              ⟨rest, ih.mpr hhere, hlongest.congr fun t => (hsome t).symm⟩, rfl⟩

/-- **The first match.** -/
theorem find_eq_some {stop : α} {pieces : List (Piece α)} {s : List α} {groups : List (List α)} :
    find stop pieces s = some groups ↔ ∃ front rest, Found stop pieces s front rest groups := by
  induction s with
  | nil =>
      rw [find, matchHere_eq_some]
      constructor
      · exact fun h => ⟨[], [], rfl, h, fun _ _ _ hlt => absurd hlt (Nat.not_lt_zero _)⟩
      · rintro ⟨front, rest, h⟩
        obtain ⟨rfl, rfl⟩ := List.append_eq_nil_iff.mp h.split.symm
        exact h.here
  | cons c s ih =>
      rw [find]
      cases hhere : matchHere stop pieces (c :: s) with
      | some groups' =>
          have hself := matchHere_eq_some.mp hhere
          constructor
          · intro h
            rw [← Option.some.inj h]
            exact ⟨[], c :: s, rfl, hself, fun _ _ _ hlt => absurd hlt (Nat.not_lt_zero _)⟩
          · rintro ⟨front, rest, h⟩
            cases front with
            | nil =>
                obtain rfl : c :: s = rest := h.split
                exact hhere.symm.trans (matchHere_eq_some.mpr h.here)
            | cons d front => exact absurd hself (h.first [] (c :: s) rfl (Nat.zero_lt_succ _) groups')
      | none =>
          have hself : ∀ gs, ¬ Here stop pieces (c :: s) gs := fun gs hgs => by
            rw [matchHere_eq_some.mpr hgs] at hhere
            cases hhere
          refine ih.trans ⟨fun ⟨front, rest, h⟩ => ⟨c :: front, rest, ?_, h.here, ?_⟩, fun ⟨front, rest, h⟩ => ?_⟩
          · rw [h.split, List.cons_append]
          · intro front' rest' hsplit hlt
            cases front' with
            | nil =>
                obtain rfl : c :: s = rest' := hsplit
                exact hself
            | cons d front' =>
                exact h.first front' rest' (List.cons.inj hsplit).2 (Nat.lt_of_succ_lt_succ hlt)
          · cases front with
            | nil =>
                obtain rfl : c :: s = rest := h.split
                exact absurd h.here (hself groups)
            | cons d front =>
                refine ⟨front, rest, (List.cons.inj h.split).2, h.here, fun front' rest' hsplit hlt => ?_⟩
                exact h.first (c :: front') rest' (by rw [hsplit, List.cons_append]) (Nat.succ_lt_succ hlt)

/-! ## 3. Two groups -/

omit [DecidableEq α] in
/-- A group at the end takes the rest of the line. -/
theorem here_last {stop : α} {group rest : List α} (hfree : stop ∉ group)
    (hend : ∀ c ∈ rest.head?, c = stop) : Here stop [.any] (group ++ rest) [group] := by
  refine ⟨group, [], rest, rfl, rfl, rfl, hfree, ⟨[], rfl⟩, fun more rest' hsplit hmore hmem => ?_⟩
  cases more with
  | nil => exact absurd rfl hmore
  | cons c more =>
      have hc : c = stop := hend c (by rw [hsplit]; rfl)
      exact absurd (hc ▸ List.mem_cons_self) hmem

omit [DecidableEq α] in
/-- **Two groups**, where the text between them does not occur behind it. -/
theorem here_pair {stop : α} {a b group group' rest : List α} (hfree : stop ∉ group) (hfree' : stop ∉ group')
    (hend : ∀ c ∈ rest.head?, c = stop)
    (hlast : ∀ more rest', b ++ (group' ++ rest) = more ++ rest' → more ≠ [] → stop ∉ more → ¬ b <+: rest') :
    Here stop [.lit a, .any, .lit b, .any] (a ++ (group ++ (b ++ (group' ++ rest)))) [group, group'] := by
  have hhere : Here stop [.lit b, .any] (b ++ (group' ++ rest)) [group'] :=
    ⟨group' ++ rest, rfl, here_last hfree' hend⟩
  refine ⟨_, rfl, group, [group'], _, rfl, hhere, rfl, hfree, ⟨_, hhere⟩, fun more rest' hsplit hmore hmem => ?_⟩
  rintro ⟨gs, t, ht, -⟩
  exact hlast more rest' hsplit hmore hmem (ht ▸ List.prefix_append b t)

/-- A match at the start is the first. -/
theorem find_of_here {stop : α} {pieces : List (Piece α)} {s : List α} {groups : List (List α)}
    (h : Here stop pieces s groups) : find stop pieces s = some groups :=
  find_eq_some.mpr ⟨[], s, rfl, h, fun _ _ _ hlt => absurd hlt (Nat.not_lt_zero _)⟩

end Captures
