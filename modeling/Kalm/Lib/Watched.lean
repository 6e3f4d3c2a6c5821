/-
  File:      Kalm/Lib/Watched.lean
  Subject:   CONTROLLERS THAT WATCH AN OBJECT: other parties write it, its states reach the controller late, and a
             reconcile goes by the state it has seen.

  * `Store`, `World`, `Event`, `step` -- the states of the object that are not delivered yet, the memory of the
    process, the queue and the reconcile under way, one call at a time; `Next` -- what a step can be;
  * `Ordered` -- the versions of the states increase; `Seen` -- a state that was seen;
  * `Invariant`, `Invariant.of_reached` -- what holds of the store in every world that is reached, and what holds of
    the reconcile under way;
  * `Leads` -- a reconcile that returns has left the memory right, if nothing was written meanwhile;
  * `Invariant.right_at_rest` -- **a controller is right at rest** if each of its reconciles leads there;
  * `Invariant.settles` -- **it comes to rest** by its own steps, if each reconcile comes nearer to it.
-/
import Kalm.Lib.Interleaved
import Kalm.Lib.Runs

namespace Watched

open Calls (Action Fault)

/-! ## 1. The world of one object -/

/-- A state of the object; every write makes a new version. -/
structure Versioned (O : Type) where
  version : Nat
  object : O

/-- What a call does: its answer, the object that it writes, if it does, and what is behind it of the surroundings and
    of the memory of the process. -/
structure Effect (v E O X M : Type) where
  answer : Except E v
  write : Option O
  env : X
  memory : M

/-- A controller: its reconcile, what its calls do when one state was seen and another is stored, and what other
    parties can write (`U`). The calls `inside` of the process cannot fail. -/
structure Controller (C : Type) (V : C → Type) (E O X M U : Type) where
  reconcile : Action C V E Unit
  serve : (c : C) → (seen stored : Versioned O) → X → M → Effect (V c) E O X M
  inside : C → Bool
  failure : E
  write : U → O → Option O
  present : O → Bool
  initial : M

/-- The state that was seen, those that follow it and are not delivered, what else there is, and the memory of the
    process. -/
structure Store (O X M : Type) where
  seen : Versioned O
  feed : List (Versioned O)
  env : X
  memory : M

variable {C : Type} {V : C → Type} {E O X M U : Type}

namespace Store

/-- The object as it is stored. -/
def stored (s : Store O X M) : Versioned O := s.feed.getLastD s.seen

/-- A write. -/
def put (s : Store O X M) (o : O) : Store O X M :=
  { s with feed := s.feed ++ [⟨s.stored.version + 1, o⟩] }

/-- What is behind a call. -/
def after {v : Type} (s : Store O X M) (effect : Effect v E O X M) : Store O X M :=
  match effect.write with
  | none => { s with env := effect.env, memory := effect.memory }
  | some o => { s with env := effect.env, memory := effect.memory }.put o

end Store

/-- The store, the queue and the reconcile under way. -/
structure World (C : Type) (V : C → Type) (E O X M : Type) where
  store : Store O X M
  queued : Bool
  task : Option (Action C V E Unit)

/-- Nothing is left to do. -/
structure World.AtRest (w : World C V E O X M) : Prop where
  feed : w.store.feed = []
  queued : w.queued = false
  task : w.task = none

/-- What happens. -/
inductive Event (X U : Type) where
  | write (u : U)
  | move (env : X)
  | deliver (skipped : Nat)
  | resync
  | start
  | call (fault : Fault)
  | restart

namespace Controller

variable (K : Controller C V E O X M U)

/-- What a call does that can meet a fault. -/
def meet (fault : Fault) (c : C) (seen stored : Versioned O) (env : X) (m : M) : Effect (V c) E O X M :=
  match if K.inside c then Fault.served else fault with
  | .served => K.serve c seen stored env m
  | .refused => ⟨.error K.failure, none, env, m⟩
  | .lost => { K.serve c seen stored env m with answer := .error K.failure }

/-- What a call does now. -/
def effect (fault : Fault) (c : C) (s : Store O X M) : Effect (V c) E O X M :=
  K.meet fault c s.seen s.stored s.env s.memory

/-- The process starts again: it lists the object and has an empty memory. -/
def restarted (s : Store O X M) : World C V E O X M where
  store := { seen := s.stored, feed := [], env := s.env, memory := K.initial }
  queued := K.present s.stored.object
  task := none

/-- How a reconcile goes on; one that failed is queued again. -/
def resume (s : Store O X M) (queued : Bool) : Action C V E Unit → World C V E O X M
  | .done _ => ⟨s, queued, none⟩
  | .fail _ => ⟨s, true, none⟩
  | .crash => K.restarted s
  | .call c next => ⟨s, queued, some (.call c next)⟩

/-- One step. -/
def step (w : World C V E O X M) : Event X U → Option (World C V E O X M)
  | .write u =>
    match K.write u w.store.stored.object with
    | none => none
    | some o => some { w with store := w.store.put o }
  | .move env => some { w with store := { w.store with env := env } }
  | .deliver skipped =>
    match w.store.feed.drop skipped with
    | [] => none
    | v :: feed => some { w with store := { w.store with seen := v, feed := feed }, queued := true }
  | .resync => some { w with queued := true }
  | .start =>
    match w.task, w.queued with
    | none, true => some (K.resume w.store false K.reconcile)
    | _, _ => none
  | .call fault =>
    match w.task with
    | some (.call c next) =>
      some (K.resume (w.store.after (K.effect fault c w.store)) w.queued (next (K.effect fault c w.store).answer))
    | _ => none
  | .restart => some (K.restarted w.store)

/-- The process has started, and nothing is done yet. -/
def Initial (w : World C V E O X M) : Prop := ∃ s, w = K.restarted s

/-- The worlds that are reached, in any order of the steps. -/
def Reached : World C V E O X M → Prop := Runs.Reaches K.Initial Runs.anyStep K.step

/-- What a step can be. -/
inductive Next (w : World C V E O X M) : Event X U → World C V E O X M → Prop
  | written {u : U} {o : O} (h : K.write u w.store.stored.object = some o) :
      Next w (.write u) { w with store := w.store.put o }
  | moved (env : X) : Next w (.move env) { w with store := { w.store with env := env } }
  | delivered {skipped : Nat} {front feed : List (Versioned O)} {v : Versioned O}
      (h : w.store.feed = front ++ v :: feed) :
      Next w (.deliver skipped) { w with store := { w.store with seen := v, feed := feed }, queued := true }
  | resynced : Next w .resync { w with queued := true }
  | started (htask : w.task = none) : Next w .start (K.resume w.store false K.reconcile)
  | called {c : C} {next : Except E (V c) → Action C V E Unit} (fault : Fault) (h : w.task = some (.call c next)) :
      Next w (.call fault)
        (K.resume (w.store.after (K.effect fault c w.store)) w.queued (next (K.effect fault c w.store).answer))
  | restarted : Next w .restart (K.restarted w.store)

variable {K} {w w' : World C V E O X M} {s : Store O X M} {p : Action C V E Unit}

theorem next_of_step {e : Event X U} (h : K.step w e = some w') : K.Next w e w' := by
  cases e with
  | write u =>
      rw [step] at h
      cases hwrite : K.write u w.store.stored.object with
      | none => rw [hwrite] at h; cases h
      | some o =>
          rw [hwrite] at h
          cases h
          exact .written hwrite
  | move env =>
      cases h
      exact .moved env
  | deliver skipped =>
      rw [step] at h
      cases hdrop : w.store.feed.drop skipped with
      | nil => rw [hdrop] at h; cases h
      | cons v feed =>
          rw [hdrop] at h
          cases h
          have hfeed : w.store.feed = w.store.feed.take skipped ++ v :: feed := by
            rw [← hdrop, List.take_append_drop]
          exact .delivered hfeed
  | resync =>
      cases h
      exact .resynced
  | start =>
      rw [step] at h
      cases htask : w.task with
      | some p => rw [htask] at h; cases h
      | none =>
          rw [htask] at h
          cases hqueued : w.queued with
          | false => rw [hqueued] at h; cases h
          | true =>
              rw [hqueued] at h
              cases h
              exact .started htask
  | call fault =>
      rw [step] at h
      cases htask : w.task with
      | none => rw [htask] at h; cases h
      | some p =>
          rw [htask] at h
          cases p with
          | call c next =>
              cases h
              exact .called fault htask
          | _ => cases h
  | restart =>
      cases h
      exact .restarted

/-- A call is served, or it fails: refused, or with its answer lost. -/
theorem effect_cases (fault : Fault) (c : C) (s : Store O X M) :
    K.effect fault c s = K.serve c s.seen s.stored s.env s.memory ∨
      K.inside c = false ∧ (K.effect fault c s).answer = .error K.failure ∧
        (s.after (K.effect fault c s) = s ∨
          s.after (K.effect fault c s) = s.after (K.serve c s.seen s.stored s.env s.memory)) := by
  unfold effect meet
  cases hinside : K.inside c with
  | true => exact Or.inl (by rw [if_pos rfl])
  | false =>
      rw [if_neg Bool.false_ne_true]
      cases fault with
      | served => exact Or.inl rfl
      | refused => exact Or.inr ⟨rfl, rfl, Or.inl rfl⟩
      | lost => exact Or.inr ⟨rfl, rfl, Or.inr rfl⟩

end Controller

/-! ## 2. Versions -/

namespace Store

variable {s : Store O X M} {o : O} {v : Versioned O}

theorem stored_of_feed (h : s.feed = []) : s.stored = s.seen := by
  rw [stored, h, List.getLastD_nil]

theorem stored_mem (s : Store O X M) : s.stored ∈ s.seen :: s.feed := List.getLastD_mem_cons

@[simp] theorem stored_put (s : Store O X M) (o : O) : (s.put o).stored = ⟨s.stored.version + 1, o⟩ :=
  List.getLastD_concat

/-- What holds of the states and of what is written holds of the states behind the write. -/
theorem forall_put {R : O → Prop} (h : ∀ a ∈ s.seen :: s.feed, R a.object) (ho : R o) :
    ∀ a ∈ (s.put o).seen :: (s.put o).feed, R a.object := by
  intro a ha
  rcases List.mem_append.mp (show a ∈ (s.seen :: s.feed) ++ [_] from ha) with hold | hnew
  · exact h a hold
  · rw [List.mem_singleton.mp hnew]
    exact ho

end Store

/-- What goes along the states goes from each to the last. -/
theorem getLastD_of_pairwise {v u : Versioned O} {R : Versioned O → Versioned O → Prop} {feed : List (Versioned O)}
    (h : (u :: feed).Pairwise R) (hv : v ∈ u :: feed) : v = feed.getLastD u ∨ R v (feed.getLastD u) := by
  induction feed generalizing u with
  | nil => exact Or.inl (List.mem_singleton.mp hv)
  | cons t feed ih =>
      rw [List.getLastD_cons]
      obtain ⟨hu, htail⟩ := List.pairwise_cons.mp h
      rcases List.mem_cons.mp hv with rfl | hv
      · exact Or.inr (hu _ List.getLastD_mem_cons)
      · exact ih htail hv

/-- The versions of the states increase. -/
def Ordered (s : Store O X M) : Prop := (s.seen :: s.feed).Pairwise fun a b => a.version < b.version

namespace Ordered

variable {s : Store O X M} {v : Versioned O}

theorem le_stored (h : Ordered s) (hv : v ∈ s.seen :: s.feed) : v.version ≤ s.stored.version := by
  rcases getLastD_of_pairwise h hv with heq | hlt
  · rw [heq]
    exact Nat.le_refl _
  · exact Nat.le_of_lt hlt

theorem feed_eq_nil (h : Ordered s) (hv : s.stored.version ≤ s.seen.version) : s.feed = [] := by
  cases hfeed : s.feed with
  | nil => rfl
  | cons t feed =>
      have ht : t ∈ s.feed := hfeed ▸ List.mem_cons_self
      have hlt : s.seen.version < t.version := (List.pairwise_cons.mp h).1 t ht
      have hle : t.version ≤ s.stored.version := h.le_stored (List.mem_cons_of_mem _ ht)
      omega

theorem put (h : Ordered s) (o : O) : Ordered (s.put o) := by
  refine List.pairwise_append.mpr ⟨h, List.pairwise_singleton _ _, fun a ha b hb => ?_⟩
  rw [List.mem_singleton.mp hb]
  exact Nat.lt_succ_of_le (h.le_stored ha)

theorem after {v : Type} (h : Ordered s) (effect : Effect v E O X M) : Ordered (s.after effect) := by
  unfold Store.after
  cases effect.write with
  | none => exact h
  | some o => exact Ordered.put (s := { s with env := effect.env, memory := effect.memory }) h o

theorem delivered {front feed : List (Versioned O)} (h : Ordered s) (hfeed : s.feed = front ++ v :: feed) :
    Ordered { s with seen := v, feed := feed } := by
  rw [Ordered, hfeed] at h
  exact (List.pairwise_append.mp (List.pairwise_cons.mp h).2).2.1

end Ordered

/-- A state that was seen, now or before. -/
def Seen (v : Versioned O) (s : Store O X M) : Prop := v.version < s.seen.version ∨ v = s.seen

namespace Seen

variable {s : Store O X M} {v u : Versioned O}

/-- What was seen and is still stored is all there is. -/
theorem stored (h : Seen v s) (hs : Ordered s) (hversion : s.stored.version = v.version) :
    s.feed = [] ∧ v = s.seen := by
  rcases h with hlt | rfl
  · have hle : s.seen.version ≤ s.stored.version := hs.le_stored List.mem_cons_self
    omega
  · exact ⟨hs.feed_eq_nil (Nat.le_of_eq hversion), rfl⟩

theorem delivered {front feed : List (Versioned O)} (h : Seen v s) (hs : Ordered s)
    (hfeed : s.feed = front ++ u :: feed) : Seen v { s with seen := u, feed := feed } := by
  have hlt : s.seen.version < u.version :=
    (List.pairwise_cons.mp hs).1 u (hfeed ▸ List.mem_append_right _ List.mem_cons_self)
  rcases h with h | rfl
  · exact Or.inl (Nat.lt_trans h hlt)
  · exact Or.inl hlt

end Seen

/-! ## 3. Invariants -/

namespace Controller

variable (K : Controller C V E O X M U)

/-- `I` is kept of the store, and `Q` of the reconcile under way, by every step that is allowed. -/
structure Invariant (allowed : Event X U → Prop) (I : Store O X M → Prop)
    (Q : Action C V E Unit → Store O X M → Prop) : Prop where
  restarted : ∀ s, allowed .restart → I s → I (K.restarted s).store
  crashed : ∀ s, I s → Q .crash s → I (K.restarted s).store
  written : ∀ s u o, allowed (.write u) → Ordered s → I s → K.write u s.stored.object = some o →
    I (s.put o) ∧ ∀ p, Q p s → Q p (s.put o)
  moved : ∀ s env, I s → I { s with env := env } ∧ ∀ p, Q p s → Q p { s with env := env }
  delivered : ∀ s front v feed, Ordered s → I s → s.feed = front ++ v :: feed →
    I { s with seen := v, feed := feed } ∧ ∀ p, Q p s → Q p { s with seen := v, feed := feed }
  started : ∀ s, I s → Q K.reconcile s
  called : ∀ s fault c next, Ordered s → I s → Q (.call c next) s →
    I (s.after (K.effect fault c s)) ∧ Q (next (K.effect fault c s).answer) (s.after (K.effect fault c s))

/-- The versions increase, and both parts of an invariant hold. -/
structure Holds (I : Store O X M → Prop) (Q : Action C V E Unit → Store O X M → Prop) (w : World C V E O X M) :
    Prop where
  ordered : Ordered w.store
  store : I w.store
  task : ∀ p, w.task = some p → Q p w.store

variable {K} {allowed : Event X U → Prop} {I : Store O X M → Prop} {Q : Action C V E Unit → Store O X M → Prop}
  {w w' : World C V E O X M}

theorem holds_restarted {s : Store O X M} (h : I (K.restarted s).store) : Holds I Q (K.restarted s) :=
  ⟨List.pairwise_singleton _ _, h, nofun⟩

theorem Invariant.resume (h : K.Invariant allowed I Q) {s : Store O X M} {p : Action C V E Unit} (hs : Ordered s)
    (hI : I s) (hQ : Q p s) (queued : Bool) : Holds I Q (K.resume s queued p) := by
  cases p with
  | done _ => exact ⟨hs, hI, nofun⟩
  | fail _ => exact ⟨hs, hI, nofun⟩
  | crash => exact holds_restarted (h.crashed s hI hQ)
  | call c next =>
      refine ⟨hs, hI, fun p hp => ?_⟩
      rw [← Option.some.inj hp]
      exact hQ

theorem Invariant.step (h : K.Invariant allowed I Q) {e : Event X U} (he : allowed e) (hw : Holds I Q w)
    (hnext : K.Next w e w') : Holds I Q w' := by
  obtain ⟨hs, hI, hQ⟩ := hw
  cases hnext with
  | written hwrite =>
      obtain ⟨hput, hkeeps⟩ := h.written _ _ _ he hs hI hwrite
      exact ⟨hs.put _, hput, fun p hp => hkeeps p (hQ p hp)⟩
  | moved env =>
      obtain ⟨hmoved, hkeeps⟩ := h.moved _ env hI
      exact ⟨hs, hmoved, fun p hp => hkeeps p (hQ p hp)⟩
  | delivered hfeed =>
      obtain ⟨hdelivered, hkeeps⟩ := h.delivered _ _ _ _ hs hI hfeed
      exact ⟨hs.delivered hfeed, hdelivered, fun p hp => hkeeps p (hQ p hp)⟩
  | resynced => exact ⟨hs, hI, hQ⟩
  | started _ => exact h.resume hs hI (h.started _ hI) false
  | called fault htask =>
      obtain ⟨hafter, hgoes⟩ := h.called _ fault _ _ hs hI (hQ _ htask)
      exact h.resume (hs.after _) hafter hgoes _
  | restarted => exact holds_restarted (h.restarted _ he hI)

/-- **An invariant holds in every world that is reached** by steps that are allowed, from one where it holds. -/
theorem Invariant.of_reaches (h : K.Invariant allowed I Q) {init : World C V E O X M → Prop}
    (hinit : ∀ u, init u → Holds I Q u) (hw : Runs.Reaches init (fun _ e => allowed e) K.step w) : Holds I Q w :=
  hw.invariant hinit fun _ _ _ hold he htaken => h.step he hold (next_of_step htaken)

theorem Invariant.of_reached (h : K.Invariant (fun _ => True) I Q) (hinit : ∀ s, I (K.restarted s).store)
    (hw : K.Reached w) : Holds I Q w := by
  have hrun : Runs.Reaches K.Initial (fun _ _ => True) K.step w := hw.mono fun _ _ _ => trivial
  refine h.of_reaches ?_ hrun
  rintro _ ⟨s, rfl⟩
  exact holds_restarted (hinit s)

/-! ## 4. At rest -/

variable (K) in
/-- Where nothing else is written the reconcile leaves the memory right if it returns, or it writes itself. -/
def Leads (Right : O → M → Prop) (seen : Versioned O) : Action C V E Unit → M → Prop
  | .done _, m => Right seen.object m
  | .fail _, _ => True
  | .crash, _ => True
  | .call c next, m => ∀ fault env, (K.meet fault c seen seen env m).write = none →
      Leads Right seen (next (K.meet fault c seen seen env m).answer) (K.meet fault c seen seen env m).memory

variable {Right : O → M → Prop}

/-- There is something to do, or what is under way leads to what is right. -/
def OnTheWay (K : Controller C V E O X M U) (Right : O → M → Prop) (w : World C V E O X M) : Prop :=
  w.queued = true ∨ w.store.feed ≠ [] ∨
    match w.task with
    | none => Right w.store.seen.object w.store.memory
    | some p => K.Leads Right w.store.seen p w.store.memory

theorem onTheWay_restarted (hinitial : ∀ o, K.present o = false → Right o K.initial) (s : Store O X M) :
    OnTheWay K Right (K.restarted s) := by
  cases h : K.present s.stored.object with
  | true => exact Or.inl h
  | false => exact Or.inr (Or.inr (hinitial _ h))

theorem onTheWay_resume (hinitial : ∀ o, K.present o = false → Right o K.initial) {s : Store O X M}
    {p : Action C V E Unit} {queued : Bool}
    (h : queued = true ∨ s.feed ≠ [] ∨ K.Leads Right s.seen p s.memory) :
    OnTheWay K Right (K.resume s queued p) := by
  cases p with
  | done _ => exact h
  | fail _ => exact Or.inl rfl
  | crash => exact onTheWay_restarted hinitial s
  | call c next => exact h

/-- A call that writes leaves something to deliver. -/
theorem leads_after {s : Store O X M} {c : C} {next : Except E (V c) → Action C V E Unit} (fault : Fault)
    (h : s.feed ≠ [] ∨ K.Leads Right s.seen (.call c next) s.memory) :
    (s.after (K.effect fault c s)).feed ≠ [] ∨ K.Leads Right (s.after (K.effect fault c s)).seen
      (next (K.effect fault c s).answer) (s.after (K.effect fault c s)).memory := by
  unfold Store.after
  cases hwrite : (K.effect fault c s).write with
  | some o => exact Or.inl (List.append_ne_nil_of_right_ne_nil _ (List.cons_ne_nil _ _))
  | none =>
      dsimp only
      by_cases hfeed : s.feed = []
      · have hleads := (h.resolve_left (not_not_intro hfeed)) fault s.env
        have heffect : K.effect fault c s = K.meet fault c s.seen s.seen s.env s.memory := by
          rw [effect, Store.stored_of_feed hfeed]
        rw [heffect] at hwrite ⊢
        exact Or.inr (hleads hwrite)
      · exact Or.inl hfeed

theorem OnTheWay.next {e : Event X U} (hinitial : ∀ o, K.present o = false → Right o K.initial)
    (hreconcile : w.store.feed = [] → K.Leads Right w.store.seen K.reconcile w.store.memory)
    (hw : OnTheWay K Right w) (hnext : K.Next w e w') : OnTheWay K Right w' := by
  cases hnext with
  | written _ => exact Or.inr (Or.inl (List.append_ne_nil_of_right_ne_nil _ (List.cons_ne_nil _ _)))
  | moved env => exact hw
  | delivered _ => exact Or.inl rfl
  | resynced => exact Or.inl rfl
  | started _ =>
      refine onTheWay_resume hinitial (Or.inr ?_)
      exact (em (w.store.feed = [])).symm.imp id hreconcile
  | called fault htask =>
      refine onTheWay_resume hinitial (hw.imp id fun h => leads_after fault (h.imp id fun hleads => ?_))
      rw [htask] at hleads
      exact hleads
  | restarted => exact onTheWay_restarted hinitial _

/-- **A controller is right at rest**: each of its reconciles leads there from a store of the invariant, and what is
    not there needs nothing. -/
theorem Invariant.right_at_rest (h : K.Invariant (fun _ => True) I Q) (hinit : ∀ s, I (K.restarted s).store)
    (hinitial : ∀ o, K.present o = false → Right o K.initial)
    (hleads : ∀ s, I s → s.feed = [] → K.Leads Right s.seen K.reconcile s.memory) (hw : K.Reached w)
    (hrest : w.AtRest) : Right w.store.seen.object w.store.memory := by
  have hway : Holds I Q w ∧ OnTheWay K Right w := by
    refine hw.invariant (I := fun u => Holds I Q u ∧ OnTheWay K Right u) ?_ ?_
    · rintro _ ⟨s, rfl⟩
      exact ⟨holds_restarted (hinit s), onTheWay_restarted hinitial s⟩
    · rintro u e u' ⟨hu, hway⟩ _ htaken
      have hnext := next_of_step htaken
      exact ⟨h.step trivial hu hnext, hway.next hinitial (hleads _ hu.store) hnext⟩
  rcases hway.2 with hqueued | hfeed | hright
  · rw [hrest.queued] at hqueued
    cases hqueued
  · exact absurd hrest.feed hfeed
  · rw [hrest.task] at hright
    exact hright

/-! ### What leads there -/

variable {seen : Versioned O} {m : M} {p : Action C V E Unit}

/-- A program leads there if whatever it ends with does. -/
theorem leads_bind {α : Type} {q : Action C V E α} {f : α → Action C V E Unit}
    (hf : ∀ a m, K.Leads Right seen (f a) m) : K.Leads Right seen (q >>= f) m := by
  induction q generalizing m with
  | done a => exact hf a m
  | fail e => trivial
  | crash => trivial
  | call c next ih => exact fun fault env _ => ih _

/-- A call that would write leads there if what follows its refusal does. -/
theorem leads_write {c : C} {next : Except E (V c) → Action C V E Unit} (hinside : K.inside c = false)
    (hwrite : ∀ env m, (K.serve c seen seen env m).write ≠ none)
    (hrefused : K.Leads Right seen (next (.error K.failure)) m) : K.Leads Right seen (.call c next) m := by
  intro fault env hnone
  unfold meet at hnone ⊢
  rw [hinside, if_neg Bool.false_ne_true] at hnone ⊢
  cases fault with
  | served => exact absurd hnone (hwrite env m)
  | refused => exact hrefused
  | lost => exact absurd hnone (hwrite env m)

/-! ## 5. Coming to rest -/

/-- The steps of the controller itself, when nothing fails. -/
def own : Event X U → Prop
  | .deliver _ => True
  | .start => True
  | .call fault => fault = .served
  | _ => False

variable (K) in
/-- By its own steps the controller comes from one world to another. -/
def Onward (w : World C V E O X M) : World C V E O X M → Prop := Runs.Reaches (· = w) (fun _ e => own e) K.step

variable (K) in
/-- A reconcile to its end, when nothing fails. -/
def finish : Action C V E Unit → Store O X M → Bool → World C V E O X M
  | .done _, s, queued => ⟨s, queued, none⟩
  | .fail _, s, _ => ⟨s, true, none⟩
  | .crash, s, _ => K.restarted s
  | .call c next, s, queued =>
    finish (next (K.effect .served c s).answer) (s.after (K.effect .served c s)) queued

theorem task_finish (p : Action C V E Unit) (s : Store O X M) (queued : Bool) : (K.finish p s queued).task = none := by
  induction p generalizing s with
  | call c next ih => exact ih _ _
  | _ => rfl

theorem onward_finish (p : Action C V E Unit) (s : Store O X M) (queued : Bool) :
    K.Onward (K.resume s queued p) (K.finish p s queued) := by
  induction p generalizing s with
  | call c next ih =>
      have hcall : K.Onward (K.resume s queued (.call c next))
          (K.resume (s.after (K.effect .served c s)) queued (next (K.effect .served c s).answer)) :=
        .step (i := .call .served) (.start rfl) rfl rfl
      exact hcall.trans (ih _ _)
  | _ => exact .start rfl

/-- A reconcile under way has a call to make. -/
theorem task_of_next {e : Event X U} (hw : ∀ p, w.task = some p → ∃ c next, p = .call c next)
    (hnext : K.Next w e w') : ∀ p, w'.task = some p → ∃ c next, p = .call c next := by
  have hresume (s : Store O X M) (queued : Bool) (q p : Action C V E Unit) (h : (K.resume s queued q).task = some p) :
      ∃ c next, p = .call c next := by
    cases q with
    | call c next => exact ⟨c, next, (Option.some.inj h).symm⟩
    | _ => cases h
  cases hnext with
  | started _ => exact hresume _ _ _
  | called _ _ => exact hresume _ _ _
  | restarted => exact nofun
  | _ => exact hw

theorem task_of_reached (hw : K.Reached w) : ∀ p, w.task = some p → ∃ c next, p = .call c next := by
  refine hw.invariant ?_ fun _ _ _ hold _ htaken => task_of_next hold (next_of_step htaken)
  rintro _ ⟨s, rfl⟩ p hp
  cases hp

/-- Everything is delivered. -/
theorem onward_deliver (w : World C V E O X M) (htask : w.task = none) :
    w.AtRest ∨ K.Onward w ⟨{ w.store with seen := w.store.stored, feed := [] }, true, none⟩ ∨
      w.store.feed = [] ∧ w.queued = true := by
  rcases List.eq_nil_or_concat w.store.feed with hfeed | ⟨front, v, hfeed⟩
  · cases hqueued : w.queued with
    | false => exact Or.inl ⟨hfeed, hqueued, htask⟩
    | true => exact Or.inr (Or.inr ⟨hfeed, rfl⟩)
  · rw [List.concat_eq_append] at hfeed
    refine Or.inr (Or.inl (.step (i := .deliver front.length) (.start rfl) trivial ?_))
    have hstored : w.store.stored = v := by
      rw [Store.stored, hfeed, List.getLastD_concat]
    rw [step, hstored, hfeed, List.drop_left, ← htask]

/-- **A controller comes to rest**, from every world that is reached, if each reconcile that is served does, or writes
    something that is nearer to it. -/
theorem Invariant.settles (h : K.Invariant (fun _ => True) I Q) (hinit : ∀ s, I (K.restarted s).store) (μ : O → Nat)
    (hround : ∀ s, I s → s.feed = [] → (K.finish K.reconcile s false).AtRest ∨
      μ (K.finish K.reconcile s false).store.stored.object < μ s.seen.object)
    (hw : K.Reached w) : ∃ w', K.Onward w w' ∧ w'.AtRest := by
  have hreached {u u' : World C V E O X M} (hu : K.Reached u) (ho : K.Onward u u') : K.Reached u' :=
    hu.trans (ho.mono fun _ _ _ => trivial)
  have hquiet (n : Nat) : ∀ u, K.Reached u → u.task = none → μ u.store.stored.object = n →
      ∃ w', K.Onward u w' ∧ w'.AtRest := by
    induction n using Nat.strongRecOn with
    | ind n ih =>
        intro u hu htask hn
        have hstart (s : Store O X M) (hs : s.feed = []) (hsn : μ s.seen.object = n)
            (ho : K.Onward u ⟨s, true, none⟩) : ∃ w', K.Onward u w' ∧ w'.AtRest := by
          have hI : I s := (h.of_reached hinit (hreached hu ho)).store
          have hfinish : K.Onward u (K.finish K.reconcile s false) := by
            have hstep : K.Onward u (K.resume s false K.reconcile) := .step (i := .start) ho trivial rfl
            exact hstep.trans (onward_finish _ _ _)
          rcases hround s hI hs with hrest | hless
          · exact ⟨_, hfinish, hrest⟩
          · obtain ⟨w', hrest, hatrest⟩ := ih _ (hsn ▸ hless) _ (hreached hu hfinish) (task_finish _ _ _) rfl
            exact ⟨w', hfinish.trans hrest, hatrest⟩
        rcases onward_deliver (K := K) u htask with hrest | hdeliver | ⟨hfeed, hqueued⟩
        · exact ⟨u, .start rfl, hrest⟩
        · exact hstart _ rfl hn hdeliver
        · refine hstart u.store hfeed ?_ ?_
          · rw [← hn, Store.stored_of_feed hfeed]
          · rw [← hqueued, ← htask]
            exact .start rfl
  cases htask : w.task with
  | none => exact hquiet _ w hw htask rfl
  | some p =>
      obtain ⟨c, next, rfl⟩ := task_of_reached hw p htask
      have ho : K.Onward w (K.finish (.call c next) w.store w.queued) := by
        have hresume : K.resume w.store w.queued (.call c next) = w := by
          rw [Controller.resume, ← htask]
        have hfinish := onward_finish (K := K) (.call c next) w.store w.queued
        rwa [hresume] at hfinish
      obtain ⟨w', hrest, hatrest⟩ := hquiet _ _ (hreached hw ho) (task_finish _ _ _) rfl
      exact ⟨w', ho.trans hrest, hatrest⟩

end Controller

end Watched
