/-
  File:      Kalm/Rbac/Reload.lean
  Subject:   RELOADS AND DECISIONS in any order: UpdatePolicies (api/client/standard_manager.go) and
             KalmRBACEnforcer.Enforce (api/rbac/enforcer.go).

  `LoadPolicy` is SyncedEnforcer's and holds its write lock, so reloads follow one another. `Enforce` goes
  to the embedded Enforcer and takes no lock: between two of its rules, and before the first one, a
  reload can take any of its steps.

  * `EnforcerState` -- the rules and the role links, the reload that is running, the calls;
  * `EnforcerStep`, `stepEnforcer` -- one step of the reload or of a call;
  * `Decided` -- each call has answered what one policy set answers that was loaded before or after a
    reload it met;
  * `loaded_of_reload` -- what a reload leaves is what `UpdatePolicies` means to load;
  * `decided_of_excluded` -- decisions are right in runs in which calls start beside reloads only, and
    role links are rebuilt beside calls only.
-/
import Kalm.Lib.Runs
import Kalm.Rbac.Isolation

namespace Kalm

open Runs (Reaches anyStep runSteps)

/-! ## 1. The state -/

/-- The arguments of `Enforce`. -/
structure EnforceRequest where
  sub : Str
  act : Str
  scope : Str
  obj : Str

/-- What a policy set answers. -/
def EnforceRequest.under (r : EnforceRequest) (P : PolicySet) : Bool :=
  enforce P r.sub r.act r.scope r.obj

/-- A call: the rules it has still to look at and whether one has allowed it. `seen` are the policy sets
    loaded before and after the reloads that the call has met. -/
inductive EnforceCall where
  | scanning (r : EnforceRequest) (rules : List (List Str)) (allowed : Bool) (seen : List PolicySet)
  | returned (r : EnforceRequest) (result : Bool) (seen : List PolicySet)

/-- Where a reload is: the lines it has still to add, the g-rules it has still to link. -/
inductive Reload where
  | idle
  | adding (lines : List Str)
  | linking (rules : List (List Str))

/-- The enforcer. `loaded` is what the last reload has left, `next` what the one that runs is to leave. -/
structure EnforcerState where
  p : List (List Str)
  g : List (List Str)
  links : List (Str × Str)
  reload : Reload
  loaded : PolicySet
  next : Option PolicySet
  calls : Nat → Option EnforceCall

/-- An enforcer that holds a policy set. -/
def EnforcerState.holding (P : PolicySet) : EnforcerState where
  p := P.p
  g := P.g
  links := P.links
  reload := .idle
  loaded := P
  next := none
  calls := fun _ => none

/-! ## 2. The steps -/

/-- The matcher on one p-rule, with the role links of the moment. -/
def matchRule (links : List (Str × Str)) (r : EnforceRequest) (rule : List Str) : Bool :=
  match rule with
  | [psub, pact, pscope, pobj] =>
    (Reach.grow links maxHierarchyLevel [r.sub]).contains psub && (r.scope == pscope || pscope == [star]) &&
      objMatch r.obj pobj && r.act == pact
  | _ => false

/-- A call meets a reload. -/
def EnforceCall.meet (sets : List PolicySet) : EnforceCall → EnforceCall
  | .scanning r rules allowed seen => .scanning r rules allowed (seen ++ sets)
  | .returned r result seen => .returned r result seen

/-- One rule of a call, or its end. A rule of the wrong size is an error, which denies. -/
def EnforceCall.scan (links : List (Str × Str)) : EnforceCall → Option EnforceCall
  | .scanning r (rule :: rules) allowed seen =>
    if rule.length = 4 then some (.scanning r rules (allowed || matchRule links r rule) seen)
    else some (.returned r false seen)
  | .scanning r [] allowed seen => some (.returned r allowed seen)
  | .returned .. => none

/-- What a line appends to the rules. -/
def EnforcerState.append (s : EnforcerState) : Entry → EnforcerState
  | .skip => s
  | .p rule => { s with p := s.p ++ [rule] }
  | .g rule => { s with g := s.g ++ [rule] }

/-- A step: of the reload (the timer or an informer event starts `UpdatePolicies`), or of a call. -/
inductive EnforcerStep where
  | updatePolicies (now : Int) (m : ManagerObjects)
  | addLine
  | buildRoleLinks
  | addLink
  | unlock
  | enforce (id : Nat) (r : EnforceRequest)
  | scan (id : Nat)

/-- One step, if it is possible: a reload waits for the lock, and a line or a g-rule that does not load
    panics. `Enforce` ranges over the p-rules of the moment (over one empty rule where there is none). -/
def stepEnforcer (s : EnforcerState) : EnforcerStep → Option EnforcerState
  | .updatePolicies now m =>
    match s.reload with
    | .idle =>
      some { s with
        p := []
        g := []
        reload := .adding ((renderLines (policyLines now m)).splitOn newline)
        next := updatePolicies now m
        calls := fun id => (s.calls id).map (EnforceCall.meet (updatePolicies now m).toList) }
    | _ => none
  | .addLine =>
    match s.reload with
    | .adding (line :: lines) =>
      (parseLine line).map fun e => { s.append e with reload := .adding lines }
    | _ => none
  | .buildRoleLinks =>
    match s.reload with
    | .adding [] => some { s with links := [], reload := .linking s.g }
    | _ => none
  | .addLink =>
    match s.reload with
    | .linking ((name1 :: name2 :: _) :: rules) =>
      some { s with links := s.links ++ [(name1, name2)], reload := .linking rules }
    | _ => none
  | .unlock =>
    match s.reload with
    | .linking [] => some { s with reload := .idle, loaded := ⟨s.p, s.g⟩, next := none }
    | _ => none
  | .enforce id r =>
    match s.calls id with
    | none =>
      some { s with
        calls := Function.update s.calls id
          (some (.scanning r (PolicySet.evaluated ⟨s.p, s.g⟩) false (s.loaded :: s.next.toList))) }
    | some _ => none
  | .scan id =>
    match s.calls id with
    | none => none
    | some call => (call.scan s.links).map fun c => { s with calls := Function.update s.calls id (some c) }

/-- The enforcer at the start holds a policy set. -/
def EnforcerStart (s : EnforcerState) : Prop := ∃ P, s = .holding P

/-! ## 3. What the runs should keep -/

/-- **Every decision is taken against a complete policy set.** -/
def Decided (s : EnforcerState) : Prop :=
  ∀ id r result seen, s.calls id = some (.returned r result seen) → ∃ P ∈ seen, result = r.under P

/-- A call is under way. -/
def EnforcerState.Scanning (s : EnforcerState) : Prop :=
  ∃ id r rules allowed seen, s.calls id = some (.scanning r rules allowed seen)

/-- What a read lock in `Enforce` would exclude: a call starts while a reload runs, the role links are
    rebuilt while a call runs. -/
def Excluded (s : EnforcerState) : EnforcerStep → Prop
  | .enforce _ _ => s.reload = .idle
  | .buildRoleLinks => ¬ s.Scanning
  | _ => True

/-! ## 4. What a step does -/

section Steps

variable {s s' : EnforcerState}

theorem step_updatePolicies {now : Int} {m : ManagerObjects}
    (h : stepEnforcer s (.updatePolicies now m) = some s') : s.reload = .idle ∧ s' = { s with
      p := []
      g := []
      reload := .adding ((renderLines (policyLines now m)).splitOn newline)
      next := updatePolicies now m
      calls := fun id => (s.calls id).map (EnforceCall.meet (updatePolicies now m).toList) } := by
  simp only [stepEnforcer] at h
  split at h
  · exact ⟨‹_›, (Option.some.inj h).symm⟩
  · cases h

theorem step_addLine (h : stepEnforcer s .addLine = some s') :
    ∃ line lines e, s.reload = .adding (line :: lines) ∧ parseLine line = some e ∧
      s' = { s.append e with reload := .adding lines } := by
  simp only [stepEnforcer] at h
  split at h
  · rename_i line lines hr
    obtain ⟨e, he, hs⟩ := Option.map_eq_some_iff.mp h
    exact ⟨line, lines, e, hr, he, hs.symm⟩
  · cases h

theorem step_buildRoleLinks (h : stepEnforcer s .buildRoleLinks = some s') :
    s.reload = .adding [] ∧ s' = { s with links := [], reload := .linking s.g } := by
  simp only [stepEnforcer] at h
  split at h
  · exact ⟨‹_›, (Option.some.inj h).symm⟩
  · cases h

theorem step_addLink (h : stepEnforcer s .addLink = some s') :
    ∃ name1 name2 rest rules, s.reload = .linking ((name1 :: name2 :: rest) :: rules) ∧
      s' = { s with links := s.links ++ [(name1, name2)], reload := .linking rules } := by
  simp only [stepEnforcer] at h
  split at h
  · exact ⟨_, _, _, _, ‹_›, (Option.some.inj h).symm⟩
  · cases h

theorem step_unlock (h : stepEnforcer s .unlock = some s') :
    s.reload = .linking [] ∧ s' = { s with reload := .idle, loaded := ⟨s.p, s.g⟩, next := none } := by
  simp only [stepEnforcer] at h
  split at h
  · exact ⟨‹_›, (Option.some.inj h).symm⟩
  · cases h

theorem step_enforce {id : Nat} {r : EnforceRequest} (h : stepEnforcer s (.enforce id r) = some s') :
    s' = { s with
      calls := Function.update s.calls id
        (some (.scanning r (PolicySet.evaluated ⟨s.p, s.g⟩) false (s.loaded :: s.next.toList))) } := by
  simp only [stepEnforcer] at h
  split at h
  · exact (Option.some.inj h).symm
  · cases h

theorem step_scan {id : Nat} (h : stepEnforcer s (.scan id) = some s') :
    ∃ call c, s.calls id = some call ∧ call.scan s.links = some c ∧
      s' = { s with calls := Function.update s.calls id (some c) } := by
  simp only [stepEnforcer] at h
  split at h
  · cases h
  · rename_i call hcall
    obtain ⟨c, hc, hs⟩ := Option.map_eq_some_iff.mp h
    exact ⟨call, c, hcall, hc, hs.symm⟩

end Steps

/-! ## 5. Reloads -/

/-- The rules and the role links, at each point of a reload. -/
structure Reloading (s : EnforcerState) : Prop where
  held : s.reload = .idle → (⟨s.p, s.g⟩ : PolicySet) = s.loaded
  links : match s.reload with
    | .linking rules => s.links ++ PolicySet.links ⟨[], rules⟩ = PolicySet.links ⟨s.p, s.g⟩
    | _ => s.links = s.loaded.links
  next : match s.reload with
    | .idle => True
    | .adding lines => ∀ Q, parseLines lines = some Q → (∀ rule ∈ s.g ++ Q.g, 2 ≤ rule.length) →
      s.next = some ⟨s.p ++ Q.p, s.g ++ Q.g⟩
    | .linking rules => (∀ rule ∈ rules, 2 ≤ rule.length) → s.next = some ⟨s.p, s.g⟩

theorem Reloading.step {s s' : EnforcerState} {i : EnforcerStep} (h : Reloading s)
    (taken : stepEnforcer s i = some s') : Reloading s' := by
  obtain ⟨held, links, next⟩ := h
  cases i with
  | updatePolicies now m =>
      obtain ⟨hr, rfl⟩ := step_updatePolicies taken
      rw [hr] at links
      refine ⟨fun h => Reload.noConfusion h, links, fun Q hQ hg => ?_⟩
      exact loadPolicy_eq_some.mpr ⟨hQ, hg⟩
  | addLine =>
      obtain ⟨line, lines, e, hr, he, rfl⟩ := step_addLine taken
      rw [hr] at links next
      have hlines : ∀ Q, parseLines lines = some Q →
          parseLines (line :: lines) = some (e.addTo Q) := by
        intro Q hQ
        rw [parseLines, he, hQ]
      refine ⟨fun h => Reload.noConfusion h, ?_, fun Q hQ hg => ?_⟩
      · cases e <;> exact links
      · have hnext := next _ (hlines Q hQ)
        cases e with
        | skip => exact hnext hg
        | p rule =>
            simp only [EnforcerState.append, List.append_assoc]
            exact hnext hg
        | g rule =>
            simp only [EnforcerState.append, List.append_assoc] at hg ⊢
            exact hnext hg
  | buildRoleLinks =>
      obtain ⟨hr, rfl⟩ := step_buildRoleLinks taken
      rw [hr] at next
      refine ⟨fun h => Reload.noConfusion h, rfl, fun hg => ?_⟩
      have hnext := next ⟨[], []⟩ rfl (by rw [List.append_nil]; exact hg)
      rw [List.append_nil, List.append_nil] at hnext
      exact hnext
  | addLink =>
      obtain ⟨name1, name2, rest, rules, hr, rfl⟩ := step_addLink taken
      rw [hr] at links next
      refine ⟨fun h => Reload.noConfusion h, ?_, fun hg => next fun rule hrule => ?_⟩
      · show s.links ++ [(name1, name2)] ++ PolicySet.links ⟨[], rules⟩ = _
        rw [List.append_assoc]
        exact links
      · rcases List.mem_cons.mp hrule with rfl | hrule
        · rw [List.length_cons, List.length_cons]
          omega
        · exact hg rule hrule
  | unlock =>
      obtain ⟨hr, rfl⟩ := step_unlock taken
      rw [hr] at links
      exact ⟨fun _ => rfl, (List.append_nil _).symm.trans links, trivial⟩
  | enforce id r =>
      obtain rfl := step_enforce taken
      exact ⟨held, links, next⟩
  | scan id =>
      obtain ⟨_, _, _, _, rfl⟩ := step_scan taken
      exact ⟨held, links, next⟩

theorem reloading_of_reaches {meets : EnforcerState → EnforcerStep → Prop} {s : EnforcerState}
    (h : Reaches EnforcerStart meets stepEnforcer s) : Reloading s := by
  refine h.invariant ?_ fun s i s' hs _ taken => hs.step taken
  rintro s ⟨P, rfl⟩
  exact ⟨fun _ => rfl, rfl, trivial⟩

/-- **What a reload leaves is what it is to leave**: the set a call has been told of. -/
theorem loaded_of_reload {meets : EnforcerState → EnforcerStep → Prop} {s s' : EnforcerState}
    (h : Reaches EnforcerStart meets stepEnforcer s) (taken : stepEnforcer s .unlock = some s') :
    s.next = some s'.loaded := by
  have hnext := (reloading_of_reaches h).next
  obtain ⟨hr, rfl⟩ := step_unlock taken
  rw [hr] at hnext
  exact hnext fun _ hrule => absurd hrule List.not_mem_nil

/-! ## 6. Decisions -/

/-- A set whose rules have the right size answers what one of them allows. -/
theorem under_eq_any {P : PolicySet} (r : EnforceRequest)
    (h : ∀ rule ∈ P.evaluated, rule.length = 4) :
    r.under P = P.evaluated.any (matchRule P.links r) := by
  have hw : P.WellFormed := by
    intro rule hrule
    refine h rule ?_
    rw [PolicySet.evaluated_of_ne_nil (List.ne_nil_of_mem hrule)]
    exact hrule
  rw [EnforceRequest.under, enforce, enforceWithin, casbinEnforce, if_pos hw]
  rfl

/-- A rule of the wrong size denies. -/
theorem under_of_malformed {P : PolicySet} (r : EnforceRequest) {rule : List Str}
    (hrule : rule ∈ P.evaluated) (hlen : rule.length ≠ 4) : r.under P = false :=
  enforceWithin_malformed (fun hw => hlen (PolicySet.length_of_mem_evaluated hw hrule)) ..

/-- A call has looked at some rules of one set, or answered what one set answers. -/
def EnforceCall.Sound (links : List (Str × Str)) : EnforceCall → Prop
  | .scanning r rules allowed seen => ∃ P ∈ seen, P.links = links ∧ ∃ done,
      P.evaluated = done ++ rules ∧ (∀ rule ∈ done, rule.length = 4) ∧
        allowed = done.any (matchRule links r)
  | .returned r result seen => ∃ P ∈ seen, result = r.under P

theorem EnforceCall.Sound.meet {links : List (Str × Str)} {c : EnforceCall} (h : c.Sound links)
    (sets : List PolicySet) : (c.meet sets).Sound links := by
  cases c with
  | scanning r rules allowed seen =>
      obtain ⟨P, hP, hscan⟩ := h
      exact ⟨P, List.mem_append_left _ hP, hscan⟩
  | returned r result seen => exact h

/-- **One rule more of the same set.** -/
theorem EnforceCall.Sound.scan {links : List (Str × Str)} {c c' : EnforceCall} (h : c.Sound links)
    (hs : c.scan links = some c') : c'.Sound links := by
  cases c with
  | returned r result seen => cases hs
  | scanning r rules allowed seen =>
      obtain ⟨P, hP, rfl, done, hrules, hdone, rfl⟩ := h
      cases rules with
      | nil =>
          rw [← Option.some.inj hs]
          rw [List.append_nil] at hrules
          refine ⟨P, hP, ?_⟩
          rw [under_eq_any r (by rw [hrules]; exact hdone), hrules]
      | cons rule rules =>
          rw [EnforceCall.scan] at hs
          split at hs
          · rename_i hlen
            rw [← Option.some.inj hs]
            refine ⟨P, hP, rfl, done ++ [rule], ?_, fun x hx => ?_, ?_⟩
            · rw [hrules, List.append_assoc, List.singleton_append]
            · rcases List.mem_append.mp hx with hx | hx
              · exact hdone x hx
              · rw [List.mem_singleton.mp hx, hlen]
            · rw [List.any_append, List.any_cons, List.any_nil, Bool.or_false]
          · rename_i hlen
            rw [← Option.some.inj hs]
            refine ⟨P, hP, (under_of_malformed r ?_ hlen).symm⟩
            rw [hrules]
            exact List.mem_append_right _ List.mem_cons_self

/-- The calls, where nothing is read beside a reload. -/
structure Deciding (s : EnforcerState) : Prop where
  quiet : ∀ rules, s.reload = .linking rules → ¬ s.Scanning
  sound : ∀ id c, s.calls id = some c → c.Sound s.links

/-- Without a running call the role links do not matter. -/
theorem Deciding.relink {s : EnforcerState} (h : Deciding s) (hq : ¬ s.Scanning)
    (links : List (Str × Str)) : ∀ id c, s.calls id = some c → c.Sound links := by
  intro id c hc
  cases c with
  | scanning r rules allowed seen => exact absurd ⟨id, r, rules, allowed, seen, hc⟩ hq
  | returned r result seen => exact h.sound id _ hc

/-- One call is another one now. -/
theorem sound_update {calls : Nat → Option EnforceCall} {links : List (Str × Str)}
    (h : ∀ id c, calls id = some c → c.Sound links) {call : EnforceCall} (hcall : call.Sound links)
    (id : Nat) : ∀ id' c, Function.update calls id (some call) id' = some c → c.Sound links := by
  intro id' c hc
  by_cases hid : id' = id
  · rw [hid, Function.update_self] at hc
    rw [← Option.some.inj hc]
    exact hcall
  · rw [Function.update_of_ne hid] at hc
    exact h id' c hc

theorem Deciding.step {s s' : EnforcerState} {i : EnforcerStep} (h : Deciding s) (hr : Reloading s)
    (hi : Excluded s i) (taken : stepEnforcer s i = some s') : Deciding s' := by
  cases i with
  | updatePolicies now m =>
      obtain ⟨_, rfl⟩ := step_updatePolicies taken
      refine ⟨nofun, fun id c hc => ?_⟩
      obtain ⟨c', hc', rfl⟩ := Option.map_eq_some_iff.mp hc
      exact (h.sound id c' hc').meet _
  | addLine =>
      obtain ⟨line, lines, e, _, _, rfl⟩ := step_addLine taken
      refine ⟨nofun, ?_⟩
      cases e <;> exact h.sound
  | buildRoleLinks =>
      obtain ⟨_, rfl⟩ := step_buildRoleLinks taken
      exact ⟨fun _ _ => hi, h.relink hi []⟩
  | addLink =>
      obtain ⟨name1, name2, rest, rules, hreload, rfl⟩ := step_addLink taken
      have hq := h.quiet _ hreload
      exact ⟨fun _ _ => hq, h.relink hq _⟩
  | unlock =>
      obtain ⟨_, rfl⟩ := step_unlock taken
      exact ⟨nofun, h.sound⟩
  | enforce id r =>
      obtain rfl := step_enforce taken
      have hidle : s.reload = .idle := hi
      have hlinks := hr.links
      rw [hidle] at hlinks
      refine ⟨fun rules hl => absurd (hidle.symm.trans hl) nofun, sound_update h.sound ?_ id⟩
      refine ⟨s.loaded, List.mem_cons_self, hlinks.symm, [], ?_, nofun, rfl⟩
      rw [hr.held hidle]
      rfl
  | scan id =>
      obtain ⟨call, c, hcall, hscan, rfl⟩ := step_scan taken
      refine ⟨fun rules hl _ => ?_, sound_update h.sound ((h.sound id call hcall).scan hscan) id⟩
      -- the call that takes a step was scanning
      refine h.quiet rules hl ?_
      cases call with
      | scanning r rules' allowed seen => exact ⟨id, r, rules', allowed, seen, hcall⟩
      | returned r result seen => cases hscan

/-- **Decisions are right where reads and reloads exclude each other.** -/
theorem decided_of_excluded {s : EnforcerState} (h : Reaches EnforcerStart Excluded stepEnforcer s) :
    Decided s := by
  have hinv : Reloading s ∧ Deciding s := by
    refine h.invariant (I := fun s => Reloading s ∧ Deciding s) ?_
      fun s i s' hs hi taken => ⟨hs.1.step taken, hs.2.step hs.1 hi taken⟩
    rintro s ⟨P, rfl⟩
    exact ⟨⟨fun _ => rfl, rfl, trivial⟩, ⟨nofun, nofun⟩⟩
  intro id r result seen hcall
  exact hinv.2.sound id _ hcall

/-- The editor of a namespace asks. -/
def eveEdits : EnforceRequest := ⟨str "user-eve", str "edit", str "shop", [star]⟩

/-- What the manager knows of this editor. -/
def eveObjects : PlainObjects := oneEditor ⟨str "shop", by decide⟩

/-- The rules are cleared beside the call, a line is added, and the call comes to its end. -/
def eveBeside : List EnforcerStep :=
  [.scan 0, .updatePolicies 0 eveObjects.toManagerObjects, .addLine] ++ List.replicate 8 (.scan 0)

/-- A call that has begun before a reload returns beside it. -/
theorem decided_eve : ∃ s, runSteps stepEnforcer (.holding (eveObjects.rules 0)) (.enforce 0 eveEdits :: eveBeside) =
      some s ∧ (∃ result seen, s.calls 0 = some (.returned eveEdits result seen)) ∧ Decided s := by
  have h0 : Reaches EnforcerStart Excluded stepEnforcer (.holding (eveObjects.rules 0)) :=
    .start ⟨_, rfl⟩
  have h1 : Reaches EnforcerStart Excluded stepEnforcer _ := .step (i := .enforce 0 eveEdits) h0 rfl rfl
  have hmeets : ∀ i ∈ eveBeside, ∀ s, Excluded s i := by
    simp [eveBeside, Excluded]
  exact ⟨_, rfl, ⟨_, _, rfl⟩, decided_of_excluded (h1.run_of hmeets rfl)⟩

/-- **A request that is allowed before and after a reload is denied beside it.** -/
theorem decided_fails : ¬ ∀ s, Reaches EnforcerStart anyStep stepEnforcer s → Decided s := by
  intro h
  have hallowed : eveEdits.under (eveObjects.rules 0) = true := by decide +kernel
  have h0 : Reaches EnforcerStart anyStep stepEnforcer (.holding (eveObjects.rules 0)) :=
    .start ⟨_, rfl⟩
  have h1 : Reaches EnforcerStart anyStep stepEnforcer _ :=
    .step (i := .updatePolicies 0 eveObjects.toManagerObjects) h0 trivial rfl
  -- the rules are cleared
  have h2 : Reaches EnforcerStart anyStep stepEnforcer _ :=
    .step (i := .enforce 0 eveEdits) h1 trivial rfl
  have h3 : Reaches EnforcerStart anyStep stepEnforcer _ := .step (i := .scan 0) h2 trivial rfl
  have h4 : Reaches EnforcerStart anyStep stepEnforcer _ := .step (i := .scan 0) h3 trivial rfl
  obtain ⟨P, hP, hresult⟩ := h _ h4 0 eveEdits _ _ rfl
  have hseen : P = eveObjects.rules 0 := by
    rw [PlainObjects.updatePolicies_eq] at hP
    simpa [EnforcerState.holding] using hP
  have hdenied : matchRule (eveObjects.rules 0).links eveEdits [[], [], [], []] = false := by
    rw [matchRule, Bool.and_eq_false_iff]
    exact Or.inr (by decide)
  rw [hseen, hallowed] at hresult
  exact absurd (hdenied.symm.trans hresult) (by decide)

end Kalm
