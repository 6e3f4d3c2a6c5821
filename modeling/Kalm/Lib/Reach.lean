/-
  File:      Kalm/Lib/Reach.lean
  Subject:   REACHABILITY in a finite list of links, computed: `reach links a` lists the nodes the
             links lead to from `a`.

  * `mem_reach_iff` -- membership is the reflexive transitive closure of the links;
  * `mem_reach_of_mem_grow`, `mem_grow_of_link` -- what a bounded number of rounds finds;
  * `reach_subset_of_closed` -- what a set closed under the links holds, reachability cannot leave.
-/
import Mathlib.Data.Finset.Card
import Mathlib.Data.Finset.Dedup
import Mathlib.Logic.Relation

namespace Reach

variable {α : Type} [DecidableEq α]

/-- The link relation of a list of links. -/
def Link (links : List (α × α)) (a b : α) : Prop := (a, b) ∈ links

/-- The nodes one link away from a known node. -/
def targets (links : List (α × α)) (known : List α) : List α :=
  (links.filter (fun l => l.1 ∈ known)).map (·.2)

/-- `n` rounds of adding the targets of the known nodes. -/
def grow (links : List (α × α)) : Nat → List α → List α
  | 0, known => known
  | n + 1, known => grow links n (known ++ targets links known)

/-- The nodes reachable from `a`: one round for each link is enough. -/
def reach (links : List (α × α)) (a : α) : List α := grow links links.length [a]

theorem mem_targets {links : List (α × α)} {known : List α} {b : α} :
    b ∈ targets links known ↔ ∃ a ∈ known, Link links a b := by
  constructor
  · intro h
    obtain ⟨⟨a, c⟩, hl, rfl⟩ := List.mem_map.mp h
    obtain ⟨hl, ha⟩ := List.mem_filter.mp hl
    exact ⟨a, by simpa using ha, hl⟩
  · rintro ⟨a, ha, hl⟩
    exact List.mem_map.mpr ⟨(a, b), List.mem_filter.mpr ⟨hl, by simpa using ha⟩, rfl⟩

theorem grow_succ (links : List (α × α)) (n : Nat) (known : List α) :
    grow links (n + 1) known = grow links n known ++ targets links (grow links n known) := by
  induction n generalizing known with
  | zero => rfl
  | succ n ih => exact ih (known ++ targets links known)

theorem subset_grow (links : List (α × α)) (n : Nat) (known : List α) :
    known ⊆ grow links n known := by
  induction n with
  | zero => exact List.Subset.refl known
  | succ n ih =>
      rw [grow_succ]
      exact fun x hx => List.mem_append_left _ (ih hx)

/-- Every node a round reaches is reachable. -/
theorem reflTransGen_of_mem_grow {links : List (α × α)} {known : List α} (n : Nat) {b : α}
    (h : b ∈ grow links n known) : ∃ a ∈ known, Relation.ReflTransGen (Link links) a b := by
  induction n generalizing b with
  | zero => exact ⟨b, h, .refl⟩
  | succ n ih =>
      rw [grow_succ] at h
      rcases List.mem_append.mp h with h | h
      · exact ih h
      · obtain ⟨c, hc, hl⟩ := mem_targets.mp h
        obtain ⟨a, ha, hr⟩ := ih hc
        exact ⟨a, ha, hr.tail hl⟩

/-- The known nodes hold every target of a known node. -/
def Closed (links : List (α × α)) (known : List α) : Prop := targets links known ⊆ known

theorem mem_of_closed {links : List (α × α)} {known : List α} (hc : Closed links known) {a b : α}
    (ha : a ∈ known) (h : Relation.ReflTransGen (Link links) a b) : b ∈ known := by
  induction h with
  | refl => exact ha
  | tail _ hl ih => exact hc (mem_targets.mpr ⟨_, ih, hl⟩)

/-- Nodes that can ever be known: the start and the targets of the links. -/
theorem grow_bound (links : List (α × α)) (n : Nat) (a : α) :
    (grow links n [a]).toFinset ⊆ insert a (links.map (·.2)).toFinset := by
  induction n with
  | zero => simp [grow]
  | succ n ih =>
      intro b hb
      rw [grow_succ, List.mem_toFinset] at hb
      rcases List.mem_append.mp hb with hb | hb
      · exact ih (List.mem_toFinset.mpr hb)
      · obtain ⟨c, _, hl⟩ := mem_targets.mp hb
        exact Finset.mem_insert_of_mem (List.mem_toFinset.mpr (List.mem_map.mpr ⟨_, hl, rfl⟩))

/-- A round that is not closed adds a node, so the number of nodes outgrows the rounds. -/
theorem lt_card_grow {links : List (α × α)} {a : α} (n : Nat)
    (h : ∀ m ≤ n, ¬ Closed links (grow links m [a])) :
    n + 1 < (grow links (n + 1) [a]).toFinset.card := by
  induction n with
  | zero =>
      have hss := ssubset_grow h 0 (Nat.le_refl 0)
      have h0 : (grow links 0 [a]).toFinset.card = 1 := by simp [grow]
      have := Finset.card_lt_card hss
      omega
  | succ n ih =>
      have hn := ih fun m hm => h m (Nat.le_succ_of_le hm)
      have := Finset.card_lt_card (ssubset_grow h (n + 1) (Nat.le_refl _))
      omega
where
  ssubset_grow {links : List (α × α)} {a : α} {n : Nat}
      (h : ∀ m ≤ n, ¬ Closed links (grow links m [a])) (m : Nat) (hm : m ≤ n) :
      (grow links m [a]).toFinset ⊂ (grow links (m + 1) [a]).toFinset := by
    rw [grow_succ, Finset.ssubset_iff_of_subset]
    · have hc := h m hm
      rw [Closed, List.subset_def] at hc
      push Not at hc
      obtain ⟨b, hb, hn⟩ := hc
      exact ⟨b, by simp [hb], by simpa using hn⟩
    · intro b hb
      rw [List.mem_toFinset] at hb ⊢
      exact List.mem_append_left _ hb

/-- Some round up to the number of links is closed. -/
theorem exists_closed (links : List (α × α)) (a : α) :
    ∃ m ≤ links.length, Closed links (grow links m [a]) := by
  by_contra hno
  push Not at hno
  have hlt := lt_card_grow links.length fun m hm => hno m hm
  have hle := Finset.card_le_card (grow_bound links (links.length + 1) a)
  have hins := Finset.card_insert_le a (links.map (·.2)).toFinset
  have hlen := List.toFinset_card_le (links.map (·.2))
  rw [List.length_map] at hlen
  omega

theorem grow_mono {links : List (α × α)} {m n : Nat} (h : m ≤ n) (known : List α) :
    grow links m known ⊆ grow links n known := by
  induction n, h using Nat.le_induction with
  | base => exact List.Subset.refl _
  | succ n _ ih =>
      rw [grow_succ]
      exact fun x hx => List.mem_append_left _ (ih hx)

/-- **`reach` computes the reflexive transitive closure of the links.** -/
theorem mem_reach_iff {links : List (α × α)} {a b : α} :
    b ∈ reach links a ↔ Relation.ReflTransGen (Link links) a b := by
  constructor
  · intro h
    obtain ⟨c, hc, hr⟩ := reflTransGen_of_mem_grow links.length h
    rwa [List.mem_singleton.mp hc] at hr
  · intro h
    obtain ⟨m, hm, hc⟩ := exists_closed links a
    exact grow_mono hm [a] (mem_of_closed hc (subset_grow links m [a] List.mem_cons_self) h)

theorem self_mem_reach (links : List (α × α)) (a : α) : a ∈ reach links a :=
  mem_reach_iff.mpr .refl

theorem mem_reach_of_link {links : List (α × α)} {a b : α} (h : (a, b) ∈ links) :
    b ∈ reach links a :=
  mem_reach_iff.mpr (.single h)

/-- What some rounds know is reachable, however many they are. -/
theorem mem_reach_of_mem_grow {links : List (α × α)} {n : Nat} {a b : α} (h : b ∈ grow links n [a]) :
    b ∈ reach links a := by
  obtain ⟨c, hc, hr⟩ := reflTransGen_of_mem_grow n h
  rw [List.mem_singleton.mp hc] at hr
  exact mem_reach_iff.mpr hr

/-- The first round follows a link. -/
theorem mem_grow_of_link {links : List (α × α)} {n : Nat} {a b : α} (hn : 0 < n) (h : (a, b) ∈ links) :
    b ∈ grow links n [a] := by
  refine grow_mono hn [a] (List.mem_append_right _ (mem_targets.mpr ⟨a, List.mem_cons_self, h⟩))

theorem mem_reach_trans {links : List (α × α)} {a b c : α} (hb : b ∈ reach links a)
    (hc : c ∈ reach links b) : c ∈ reach links a :=
  mem_reach_iff.mpr ((mem_reach_iff.mp hb).trans (mem_reach_iff.mp hc))

/-- **A set closed under the links is not left.** -/
theorem reach_subset_of_closed {links : List (α × α)} {S : α → Prop}
    (hS : ∀ x y, S x → (x, y) ∈ links → S y) {a b : α} (ha : S a) (h : b ∈ reach links a) : S b := by
  induction mem_reach_iff.mp h with
  | refl => exact ha
  | tail hr hl ih => exact hS _ _ (ih (mem_reach_iff.mpr hr)) hl

end Reach
