/-
  File:      Kalm/Operator/Rules.lean
  Subject:   RECORDING RULES FOR PROMETHEUS: `AddRecordingRulesForIstioPrometheus`
             (operator/controllers/kalmoperatorconfig_controller.go) over every sequence of attempts, whatever fails.

  * `PromConfig` -- Prometheus' own configuration, which is loaded from a text and written again;
  * `addRecordingRules`, `serve` -- the calls, and what they do to the cluster; pods are started again when their
    template changes, and read the config map then;
  * `afterAttempts_cases` -- the rules are stored once at most, and the other keys stay;
  * `rulesReach_iff` -- they reach the pods exactly when the attempt that stores them also patches the deployment;
  * `crashless_iff` -- when no attempt crashes.
-/
import Kalm.Go.Strings
import Kalm.Lib.Fields
import Kalm.Lib.Interleaved
import Kalm.Lib.Mirror

namespace Kalm.RecordingRules

open Calls (Action Fault Outcome)
open Mirror (Table)

/-! ## 1. The cluster -/

/-- The data of a config map, or the labels of a pod template. -/
abbrev Entries := Table Str Str

/-- `istioPromRecordingRulesFileName` -/
def istioPromRecordingRulesFileName : Str := str "istio-prom-recording-rules.yaml"

/-- The key of the configuration. -/
def prometheusYml : Str := str "prometheus.yml"

/-- The label that makes a template another one. -/
def dateLabel : Str := str "date"

/-- Prometheus' configuration: `Load` reads a text, or fails, and `String` writes the configuration; a file that is
    added is read again behind the others. -/
structure PromConfig (C : Type) where
  load : Str → Option C
  ruleFiles : C → List Str
  withRuleFile : C → Str → Str
  reloads : ∀ v c, load v = some c → ∃ c', load (withRuleFile c istioPromRecordingRulesFileName) = some c' ∧
    ruleFiles c' = ruleFiles c ++ [istioPromRecordingRulesFileName]

/-- The config map and the deployment `prometheus`, if they are there; data and labels can be nil. `running` is what
    the pods have read when they started. -/
structure Cluster where
  configMap : Option (Option Entries)
  deployment : Option (Option Entries)
  running : Entries

/-- The text of the configuration. A missing key reads as the empty text, as a nil map does. -/
def configOf (data : Option Entries) : Str := ((data.getD ∅).lookup prometheusYml).getD []

/-! ## 2. `AddRecordingRulesForIstioPrometheus` -/

/-- The API calls. -/
inductive Call where
  | getConfigMap
  | getDeployment
  | updateConfigMap (data : Entries)
  | patchDeployment (date : Str)

/-- A get answers with the object, if there is one. -/
abbrev Answer : Call → Type
  | .getConfigMap => Option (Option Entries)
  | .getDeployment => Option (Option Entries)
  | _ => Unit

variable {C E : Type}

/-- The data with the rules. -/
def withRules (prom : PromConfig C) (asset : Str) (data : Entries) (c : C) : Entries :=
  (data.insert prometheusYml (prom.withRuleFile c istioPromRecordingRulesFileName)).insert
    istioPromRecordingRulesFileName asset

/-- `AddRecordingRulesForIstioPrometheus`, at the second `now`. The error of `Load` is dropped, and what it returns is
    used; a nil map is written to. -/
def addRecordingRules (prom : PromConfig C) (asset : Str) (now : Nat) : Action Call Answer E Unit :=
  Action.invoke .getConfigMap >>= fun (cmPrometheus : Option (Option Entries)) =>
    match cmPrometheus with
    | none => .done ()
    | some data =>
      Action.invoke .getDeployment >>= fun (dpPrometheus : Option (Option Entries)) =>
        match dpPrometheus with
        | none => .done ()
        | some labels =>
          match prom.load (configOf data) with
          | none => .crash
          | some pConfig =>
            if istioPromRecordingRulesFileName ∈ prom.ruleFiles pConfig then .done ()
            else match data with
              | none => .crash
              | some data =>
                Action.invoke (Call.updateConfigMap (withRules prom asset data pConfig)) >>= fun _ =>
                  match labels with
                  | none => .crash
                  | some _ => Action.invoke (Call.patchDeployment (itoa now))

/-- The pods are started again when the label is another one. -/
def restarted (date : Str) (s : Cluster) (labels : Entries) : Cluster where
  configMap := s.configMap
  deployment := some (some (labels.insert dateLabel date))
  running := if labels.lookup dateLabel = some date then s.running else (s.configMap.getD none).getD ∅

/-- What the cluster answers, and what it stores. -/
def serve (notFound : E) : (c : Call) → Cluster → Except E (Answer c) × Cluster
  | .getConfigMap, s => (.ok s.configMap, s)
  | .getDeployment, s => (.ok s.deployment, s)
  | .updateConfigMap data, s =>
    match s.configMap with
    | none => (.error notFound, s)
    | some _ => (.ok (), { s with configMap := some (some data) })
  | .patchDeployment date, s =>
    match s.deployment with
    | none => (.error notFound, s)
    | some labels => (.ok (), restarted date s (labels.getD ∅))

/-! ## 3. Attempts -/

/-- The update of the config map takes effect. -/
def stores (faults : List Fault) : Bool :=
  faults.headD .served = .served && faults.tail.headD .served = .served && faults.tail.tail.headD .served ≠ .refused

/-- The update is answered, and the patch of the deployment takes effect. -/
def restarts (faults : List Fault) : Bool :=
  faults.headD .served = .served && faults.tail.headD .served = .served && faults.tail.tail.headD .served = .served &&
    faults.tail.tail.tail.headD .served ≠ .refused

/-- An attempt, at its second. -/
abbrev Attempt := Nat × List Fault

/-- The operator: what Prometheus makes of a configuration, the file with the rules, and the errors of the API
    server. -/
structure Operator (C E : Type) where
  prom : PromConfig C
  asset : Str
  notFound : E
  failure : E

section Attempts

variable (op : Operator C E)

/-- An attempt runs. -/
def runAttempt (a : Attempt) (s : Cluster) : Outcome E Unit × Cluster :=
  Calls.run (serve op.notFound) op.failure (addRecordingRules op.prom op.asset a.1) a.2 s

/-- What attempts leave, one after the other. -/
def afterAttempts (attempts : List Attempt) (s : Cluster) : Cluster :=
  attempts.foldl (fun s a => (runAttempt op a s).2) s

/-- **The rules are missing**: both objects are there, and the configuration is loaded and does not name the file. -/
structure Missing (s : Cluster) (data : Entries) (c : C) : Prop where
  configMap : s.configMap = some (some data)
  deployment : s.deployment.isSome
  loaded : op.prom.load (configOf (some data)) = some c
  unlisted : istioPromRecordingRulesFileName ∉ op.prom.ruleFiles c

/-- The cluster with the rules stored. -/
def storedRules (s : Cluster) (data : Entries) (c : C) : Cluster :=
  { s with configMap := some (some (withRules op.prom op.asset data c)) }

/-- **The rules have reached the pods**: these run with a configuration that names the file, and with the file. -/
def Reached (s : Cluster) : Prop :=
  ∃ c, op.prom.load (configOf (some s.running)) = some c ∧ istioPromRecordingRulesFileName ∈ op.prom.ruleFiles c ∧
    s.running.lookup istioPromRecordingRulesFileName = some op.asset

end Attempts

variable (op : Operator C E) {s : Cluster} {data : Entries} {c : C} {a : Attempt}
  {attempts : List Attempt}

/-- **An attempt**: a get fails, or an object is not there, or both are read, and what is left to do goes by what they
    are. -/
theorem runAttempt_cases (a : Attempt) (s : Cluster) :
    (¬ (a.2.headD .served = .served ∧ a.2.tail.headD .served = .served) ∧
      runAttempt op a s = (.failed op.failure, s)) ∨
    ((s.configMap = none ∨ s.deployment = none) ∧ runAttempt op a s = (.returned (), s)) ∨
    ∃ data labels, a.2.headD .served = .served ∧ a.2.tail.headD .served = .served ∧
      s.configMap = some data ∧ s.deployment = some labels ∧
      runAttempt op a s = Calls.run (serve op.notFound) op.failure
        (match op.prom.load (configOf data) with
          | none => .crash
          | some pConfig =>
            if istioPromRecordingRulesFileName ∈ op.prom.ruleFiles pConfig then .done ()
            else match data with
              | none => .crash
              | some data =>
                Action.invoke (Call.updateConfigMap (withRules op.prom op.asset data pConfig)) >>= fun _ =>
                  match labels with
                  | none => .crash
                  | some _ => Action.invoke (Call.patchDeployment (itoa a.1)))
        a.2.tail.tail s := by
  unfold runAttempt addRecordingRules
  rw [Calls.run_invoke_ok (serve op.notFound) op.failure (s := s) (t := s) (v := s.configMap) rfl]
  cases a.2.headD .served with
  | refused => exact Or.inl ⟨fun h => (nomatch h.1), rfl⟩
  | lost => exact Or.inl ⟨fun h => (nomatch h.1), rfl⟩
  | served =>
    cases s.configMap with
    | none => exact Or.inr (Or.inl ⟨Or.inl rfl, rfl⟩)
    | some data =>
      dsimp only
      rw [Calls.run_invoke_ok (serve op.notFound) op.failure (s := s) (t := s) (v := s.deployment) rfl]
      cases a.2.tail.headD .served with
      | refused => exact Or.inl ⟨fun h => (nomatch h.2), rfl⟩
      | lost => exact Or.inl ⟨fun h => (nomatch h.2), rfl⟩
      | served =>
        cases s.deployment with
        | none => exact Or.inr (Or.inl ⟨Or.inr rfl, rfl⟩)
        | some labels => exact Or.inr (Or.inr ⟨data, labels, rfl, rfl, rfl, rfl, rfl⟩)

theorem serve_updateConfigMap (h : s.configMap = some (some data)) (c : C) :
    serve op.notFound (.updateConfigMap (withRules op.prom op.asset data c)) s = (.ok (), storedRules op s data c) := by
  rw [serve, h]
  rfl

/-- Where nothing is missing, nothing happens. -/
theorem runAttempt_of_not_missing (h : ∀ data c, ¬ Missing op s data c) (a : Attempt) :
    (runAttempt op a s).2 = s := by
  rcases runAttempt_cases op a s with ⟨-, hrun⟩ | ⟨-, hrun⟩ | ⟨data, labels, -, -, hcm, hdp, hrun⟩
  · rw [hrun]
  · rw [hrun]
  · rw [hrun]
    cases hload : op.prom.load (configOf data) with
    | none => rfl
    | some c =>
      dsimp only
      by_cases hlisted : istioPromRecordingRulesFileName ∈ op.prom.ruleFiles c
      · rw [if_pos hlisted]
        rfl
      · rw [if_neg hlisted]
        cases data with
        | none => rfl
        | some data => exact absurd ⟨hcm, by rw [hdp]; rfl, hload, hlisted⟩ (h data c)

/-- What an attempt does where the rules are missing, up to the patch. -/
theorem runAttempt_of_missing (h : Missing op s data c) (a : Attempt) :
    (stores a.2 = false ∧ restarts a.2 = false ∧ runAttempt op a s = (.failed op.failure, s)) ∨
    (stores a.2 = true ∧ restarts a.2 = false ∧
      runAttempt op a s = (.failed op.failure, storedRules op s data c)) ∨
    (stores a.2 = true ∧ a.2.tail.tail.headD .served = .served ∧
      restarts a.2 = decide (a.2.tail.tail.tail.headD .served ≠ .refused) ∧
      runAttempt op a s =
        Calls.run (serve op.notFound) op.failure
          (match s.deployment.getD none with
            | none => .crash
            | some _ => Action.invoke (Call.patchDeployment (itoa a.1)))
          a.2.tail.tail.tail (storedRules op s data c)) := by
  obtain ⟨labels, hlabels⟩ := Option.isSome_iff_exists.mp h.deployment
  rcases runAttempt_cases op a s with ⟨hgets, hrun⟩ | ⟨hnone, -⟩ | ⟨_, _, hget, hget', hcm, hdp, hrun⟩
  · refine Or.inl ⟨?_, ?_, hrun⟩
    · rw [stores, Bool.and_eq_false_iff]
      exact Or.inl (by simpa using hgets)
    · rw [restarts, Bool.and_assoc, Bool.and_eq_false_iff]
      exact Or.inl (by simpa using hgets)
  · rw [h.configMap, hlabels] at hnone
    rcases hnone with hnone | hnone
    · cases hnone
    · cases hnone
  · cases h.configMap.symm.trans hcm
    cases hlabels.symm.trans hdp
    rw [h.loaded] at hrun
    dsimp only at hrun
    rw [if_neg h.unlisted,
      Calls.run_invoke_ok (serve op.notFound) op.failure (serve_updateConfigMap op h.configMap c)] at hrun
    rw [stores, restarts, hget, hget', hrun, hlabels]
    cases a.2.tail.tail.headD .served with
    | refused => exact Or.inl ⟨rfl, rfl, rfl⟩
    | lost => exact Or.inr (Or.inl ⟨rfl, rfl, rfl⟩)
    | served => exact Or.inr (Or.inr ⟨rfl, rfl, rfl, rfl⟩)

/-- The state behind an attempt where the rules are missing. -/
theorem state_of_missing (h : Missing op s data c) (a : Attempt) :
    (runAttempt op a s).2 =
      if stores a.2 then
        match s.deployment.getD none with
        | some labels =>
          if restarts a.2 then restarted (itoa a.1) (storedRules op s data c) labels
          else storedRules op s data c
        | none => storedRules op s data c
      else s := by
  rcases runAttempt_of_missing op h a with
    ⟨hstores, _, hrun⟩ | ⟨hstores, hrestarts, hrun⟩ | ⟨hstores, _, hrestarts, hrun⟩
  · rw [hrun, hstores, if_neg Bool.false_ne_true]
  · rw [hrun, hstores, hrestarts, if_pos rfl]
    cases s.deployment.getD none <;> rfl
  · rw [hrun, hstores, if_pos rfl]
    obtain ⟨labels, hlabels⟩ := Option.isSome_iff_exists.mp h.deployment
    rw [hlabels, Option.getD_some]
    cases labels with
    | none => rfl
    | some labels =>
        have hserve : serve op.notFound (.patchDeployment (itoa a.1)) (storedRules op s data c) =
            (.ok (), restarted (itoa a.1) (storedRules op s data c) labels) := by
          have hdp : (storedRules op s data c).deployment = some (some labels) := hlabels
          rw [serve, hdp]
          rfl
        dsimp only
        rw [Calls.run_invoke_end, hrestarts]
        cases a.2.tail.tail.tail.headD .served with
        | served => rw [Calls.meet, hserve]; rfl
        | refused => rfl
        | lost => rw [Calls.meet, hserve]; rfl

theorem file_ne_prometheusYml : istioPromRecordingRulesFileName ≠ prometheusYml := by decide

theorem lookup_withRules (data : Entries) (c : C) (k : Str) : (withRules op.prom op.asset data c).lookup k =
    if k = istioPromRecordingRulesFileName then some op.asset
    else if k = prometheusYml then some (op.prom.withRuleFile c istioPromRecordingRulesFileName)
    else data.lookup k := by
  unfold withRules
  by_cases hfile : k = istioPromRecordingRulesFileName
  · rw [if_pos hfile, hfile, AList.lookup_insert]
  · rw [if_neg hfile, AList.lookup_insert_ne hfile]
    by_cases hyml : k = prometheusYml
    · rw [if_pos hyml, hyml, AList.lookup_insert]
    · rw [if_neg hyml, AList.lookup_insert_ne hyml]

/-- The rules that are stored are read again. -/
theorem load_withRules (h : Missing op s data c) : ∃ c',
    op.prom.load (configOf (some (withRules op.prom op.asset data c))) = some c' ∧
      op.prom.ruleFiles c' = op.prom.ruleFiles c ++ [istioPromRecordingRulesFileName] := by
  rw [configOf, Option.getD_some, lookup_withRules, if_neg file_ne_prometheusYml.symm, if_pos rfl]
  exact op.prom.reloads _ _ h.loaded

/-- **Behind a store nothing is missing.** -/
theorem not_missing_of_stored (h : Missing op s data c) {s' : Cluster}
    (hs' : s'.configMap = some (some (withRules op.prom op.asset data c))) (data' : Entries) (c' : C) :
    ¬ Missing op s' data' c' := by
  intro hmissing
  obtain ⟨c'', hload, hfiles⟩ := load_withRules op h
  have hdata : withRules op.prom op.asset data c = data' :=
    Option.some.inj (Option.some.inj (hs'.symm.trans hmissing.configMap))
  have hc : c'' = c' := Option.some.inj (hload.symm.trans (hdata ▸ hmissing.loaded))
  refine hmissing.unlisted ?_
  rw [← hc, hfiles]
  exact List.mem_append_right _ List.mem_cons_self

theorem configMap_of_stores (h : Missing op s data c) (ha : stores a.2 = true) :
    (runAttempt op a s).2.configMap = some (some (withRules op.prom op.asset data c)) := by
  rw [state_of_missing op h, if_pos ha]
  split
  · split
    · rfl
    · rfl
  · rfl

/-! ## 4. Every sequence of attempts -/

theorem afterAttempts_of_not_missing (h : ∀ data c, ¬ Missing op s data c) (attempts : List Attempt) :
    afterAttempts op attempts s = s := by
  induction attempts with
  | nil => rfl
  | cons a attempts ih => rw [afterAttempts, List.foldl_cons, runAttempt_of_not_missing op h, ← afterAttempts, ih]

theorem afterAttempts_of_no_store (h : Missing op s data c) (hattempts : ∀ a ∈ attempts, stores a.2 = false) :
    afterAttempts op attempts s = s := by
  induction attempts with
  | nil => rfl
  | cons a attempts ih =>
      obtain ⟨ha, hrest⟩ := List.forall_mem_cons.mp hattempts
      rw [afterAttempts, List.foldl_cons, state_of_missing op h, ha, if_neg Bool.false_ne_true, ← afterAttempts,
        ih hrest]

/-- **The first attempt that stores the rules decides.** -/
theorem afterAttempts_of_store (h : Missing op s data c) {front back : List Attempt}
    (hfront : ∀ b ∈ front, stores b.2 = false) (ha : stores a.2 = true) :
    afterAttempts op (front ++ a :: back) s =
      (runAttempt op a s).2 := by
  have hback := afterAttempts_of_not_missing op
    (not_missing_of_stored op h (configMap_of_stores op h ha)) back
  have hnone := afterAttempts_of_no_store op h hfront
  rw [afterAttempts] at hback hnone ⊢
  rw [List.foldl_append, hnone, List.foldl_cons, hback]

theorem stores_of_restarts {faults : List Fault} (h : restarts faults = true) : stores faults = true := by
  unfold restarts at h
  simp only [Bool.and_eq_true, decide_eq_true_eq] at h
  obtain ⟨⟨⟨hget, hget'⟩, hupdate⟩, _⟩ := h
  rw [stores, hget, hget', hupdate]
  rfl

theorem reached_congr {s' : Cluster} (h : s'.running = s.running) : Reached op s' ↔ Reached op s := by
  rw [Reached, Reached, h]

/-- Pods that have read the stored rules. -/
theorem reached_of_running (h : Missing op s data c) {s' : Cluster}
    (hs' : s'.running = withRules op.prom op.asset data c) : Reached op s' := by
  obtain ⟨c', hload, hfiles⟩ := load_withRules op h
  rw [Reached, hs']
  refine ⟨c', hload, ?_, ?_⟩
  · rw [hfiles]
    exact List.mem_append_right _ List.mem_cons_self
  · rw [lookup_withRules, if_pos rfl]

/-- The first attempt of a list that stores the rules, if there is one. -/
theorem exists_first (attempts : List Attempt) : (∀ a ∈ attempts, stores a.2 = false) ∨
    ∃ front a back, attempts = front ++ a :: back ∧ (∀ b ∈ front, stores b.2 = false) ∧ stores a.2 = true := by
  cases hfind : attempts.find? fun a => stores a.2 with
  | none => exact Or.inl fun a ha => by simpa using List.find?_eq_none.mp hfind a ha
  | some a =>
      obtain ⟨ha, front, back, hattempts, hfront⟩ := List.find?_eq_some_iff_append.mp hfind
      exact Or.inr ⟨front, a, back, hattempts, fun b hb => by simpa using hfront b hb, ha⟩

/-- **The pods behind an attempt that stores the rules**: they have reached them when it patches the deployment with
    another date, and run on otherwise. -/
theorem reached_of_store (h : Missing op s data c) (ha : stores a.2 = true) :
    Reached op (runAttempt op a s).2 ↔ Reached op s ∨ ∃ labels, s.deployment = some (some labels) ∧
      restarts a.2 = true ∧ labels.lookup dateLabel ≠ some (itoa a.1) := by
  obtain ⟨labels, hlabels⟩ := Option.isSome_iff_exists.mp h.deployment
  rw [state_of_missing op h, if_pos ha, hlabels, Option.getD_some]
  cases labels with
  | none =>
      rw [or_iff_left fun ⟨_, heq, _⟩ => nomatch heq]
      exact reached_congr op rfl
  | some labels =>
      dsimp only
      cases restarts a.2 with
      | false =>
          rw [if_neg Bool.false_ne_true, or_iff_left fun ⟨_, _, heq, _⟩ => nomatch heq]
          exact reached_congr op rfl
      | true =>
          rw [if_pos rfl]
          by_cases hdate : labels.lookup dateLabel = some (itoa a.1)
          · have hnone : ¬ ∃ labels', some (some labels) = some (some labels') ∧ true = true ∧
                labels'.lookup dateLabel ≠ some (itoa a.1) := by
              rintro ⟨labels', heq, _, hne⟩
              cases heq
              exact hne hdate
            rw [or_iff_left hnone]
            exact reached_congr op (if_pos hdate)
          · exact iff_of_true (reached_of_running op h (if_neg hdate)) (Or.inr ⟨labels, rfl, rfl, hdate⟩)

/-- **The rules reach the pods** exactly when they have reached them before, or they are missing, the first attempt that
    stores them also patches the deployment, and its second is not the date that is there. -/
theorem rulesReach_iff (attempts : List Attempt) (s : Cluster) : Reached op (afterAttempts op attempts s) ↔
    Reached op s ∨ ∃ data c labels front a back, Missing op s data c ∧ s.deployment = some (some labels) ∧
      attempts = front ++ a :: back ∧ (∀ b ∈ front, stores b.2 = false) ∧ restarts a.2 = true ∧
        labels.lookup dateLabel ≠ some (itoa a.1) := by
  by_cases hmissing : ∃ data c, Missing op s data c
  · obtain ⟨data, c, h⟩ := hmissing
    rcases exists_first attempts with hnone | ⟨front, a, back, rfl, hfront, ha⟩
    · rw [afterAttempts_of_no_store op h hnone]
      refine (or_iff_left ?_).symm
      rintro ⟨_, _, _, front, a, back, _, _, rfl, _, hrestarts, _⟩
      have ha := hnone a (List.mem_append_right _ List.mem_cons_self)
      rw [stores_of_restarts hrestarts] at ha
      cases ha
    · constructor
      · rw [afterAttempts_of_store op h hfront ha, reached_of_store op h ha]
        refine Or.imp_right fun ⟨labels, hlabels, hrestarts, hdate⟩ => ?_
        exact ⟨data, c, labels, front, a, back, h, hlabels, rfl, hfront, hrestarts, hdate⟩
      · rintro (hreached | ⟨_, _, labels, front', a', back', _, hlabels, heq, hfront', hrestarts, hdate⟩)
        · rw [afterAttempts_of_store op h hfront ha, reached_of_store op h ha]
          exact Or.inl hreached
        · rw [heq, afterAttempts_of_store op h hfront' (stores_of_restarts hrestarts),
            reached_of_store op h (stores_of_restarts hrestarts)]
          exact Or.inr ⟨labels, hlabels, hrestarts, hdate⟩
  · rw [afterAttempts_of_not_missing op fun data c h => hmissing ⟨data, c, h⟩]
    refine (or_iff_left ?_).symm
    rintro ⟨data, c, _, _, _, _, h, _⟩
    exact hmissing ⟨data, c, h⟩

/-! ### A Prometheus that is configured by rule files alone -/

/-- What Prometheus writes in front of the rule files where everything else is as by default. -/
def defaultLines : List Str :=
  [str "global:", str "  scrape_interval: 1m", str "  scrape_timeout: 10s", str "  evaluation_interval: 1m",
    str "rule_files:"]

/-- A name that YAML writes without quotes: digits, small letters, `-` and `.`, up to `.yaml`. -/
def isPlain (file : Str) : Bool :=
  (str ".yaml").isSuffixOf file &&
    file.all fun b => b = 45 || b = 46 || (48 ≤ b && b ≤ 57) || (97 ≤ b && b ≤ 122)

/-- The line of a file. -/
def ruleLine (file : Str) : Str := str "- " ++ file

/-- The lines of the files, up to the empty one behind them. -/
def readRuleLines : List Str → Option (List Str)
  | [] => none
  | line :: lines =>
    if line = [] then if lines = [] then some [] else none
    else if (str "- ").isPrefixOf line && isPlain (line.drop 2) then (readRuleLines lines).map (line.drop 2 :: ·)
    else none

theorem readRuleLines_map {files : List Str} (h : ∀ file ∈ files, isPlain file = true) :
    readRuleLines (files.map ruleLine ++ [[]]) = some files := by
  induction files with
  | nil => rfl
  | cons file files ih =>
      obtain ⟨hfile, hrest⟩ := List.forall_mem_cons.mp h
      have hline : ((str "- ").isPrefixOf (ruleLine file) && isPlain ((ruleLine file).drop 2)) = true := by
        rw [Bool.and_eq_true, List.isPrefixOf_iff_prefix]
        exact ⟨List.prefix_append _ _, hfile⟩
      have hne : ruleLine file ≠ [] := List.append_ne_nil_of_left_ne_nil (by decide) file
      rw [List.map_cons, List.cons_append, readRuleLines, if_neg hne, if_pos hline, ih hrest]
      rfl

theorem isPlain_of_readRuleLines {lines files : List Str} (h : readRuleLines lines = some files) :
    ∀ file ∈ files, isPlain file = true := by
  induction lines generalizing files with
  | nil => cases h
  | cons line lines ih =>
      rw [readRuleLines] at h
      split at h
      · split at h
        · cases h
          exact fun _ hfile => absurd hfile List.not_mem_nil
        · cases h
      · split at h
        · rename_i hline
          obtain ⟨files, hfiles, rfl⟩ := Option.map_eq_some_iff.mp h
          exact List.forall_mem_cons.mpr ⟨(Bool.and_eq_true _ _ ▸ hline).2, ih hfiles⟩
        · cases h

theorem newline_not_mem_ruleLine {file : Str} (h : isPlain file = true) : newline ∉ ruleLine file := by
  rw [isPlain, Bool.and_eq_true, List.all_eq_true] at h
  refine fun hmem => (List.mem_append.mp hmem).elim (by decide) fun hfile => ?_
  exact absurd (h.2 _ hfile) (by decide)

/-- `Load` and `String` where only the rule files are chosen: the empty text is the default, and what neither writes is
    an error. -/
def rulesOnly : PromConfig (List Str) where
  load v :=
    if v = [] then some []
    else if defaultLines.isPrefixOf (v.splitOn newline) then readRuleLines ((v.splitOn newline).drop 5)
    else none
  ruleFiles := id
  withRuleFile c file := [newline].intercalate (defaultLines ++ ((c ++ [file]).map ruleLine ++ [[]]))
  reloads := by
    intro v c h
    have hplain : ∀ file ∈ c ++ [istioPromRecordingRulesFileName], isPlain file = true := by
      refine List.forall_mem_append.mpr ⟨?_, List.forall_mem_singleton.mpr (by decide)⟩
      split at h
      · cases h
        exact fun _ hfile => absurd hfile List.not_mem_nil
      · split at h
        · exact isPlain_of_readRuleLines h
        · cases h
    refine ⟨_, ?_, rfl⟩
    have hlines : ∀ line ∈ defaultLines ++ ((c ++ [istioPromRecordingRulesFileName]).map ruleLine ++ [[]]),
        newline ∉ line := by
      refine List.forall_mem_append.mpr ⟨by decide, List.forall_mem_append.mpr ⟨?_, by decide⟩⟩
      exact List.forall_mem_map.mpr fun file hfile => newline_not_mem_ruleLine (hplain file hfile)
    have hsplit := List.splitOn_intercalate newline hlines (List.cons_ne_nil _ _)
    rw [if_neg (fun h => nomatch h), hsplit, if_pos (List.isPrefixOf_iff_prefix.mpr (List.prefix_append _ _))]
    exact readRuleLines_map hplain

/-- An operator that has this Prometheus. -/
def rulesOperator : Operator (List Str) Unit := ⟨rulesOnly, str "groups: []", (), ()⟩

/-- A cluster whose configuration is the default. -/
def defaultCluster : Cluster := ⟨some (some ∅), some (some ∅), ∅⟩

theorem missing_defaultCluster : Missing rulesOperator defaultCluster ∅ [] := ⟨rfl, rfl, rfl, List.not_mem_nil⟩

/-- An update that is refused is made up for, and a patch that is refused is not. -/
theorem rulesReach_refused :
    Reached rulesOperator (afterAttempts rulesOperator [(1, [.served, .served, .refused]), (2, [])] defaultCluster) ∧
      ¬ Reached rulesOperator
        (afterAttempts rulesOperator [(1, [.served, .served, .served, .refused]), (2, [])] defaultCluster) := by
  rw [rulesReach_iff, rulesReach_iff]
  constructor
  · refine Or.inr ⟨∅, [], ∅, [(1, [.served, .served, .refused])], (2, []), [], missing_defaultCluster, rfl, rfl, ?_,
      rfl, nofun⟩
    exact List.forall_mem_singleton.mpr rfl
  · rintro (⟨c, hload, hlisted, _⟩ | ⟨_, _, _, front, a, back, _, _, hattempts, hfront, hrestarts, _⟩)
    · cases hload
      cases hlisted
    · cases front with
      | nil =>
          obtain rfl := (List.cons.inj hattempts).1
          cases hrestarts
      | cons b front =>
          obtain rfl := (List.cons.inj hattempts).1
          cases (List.forall_mem_cons.mp hfront).1

/-- **What attempts leave**: they change nothing, or they store the rules once, behind the files that were
    there, and leave the other keys. -/
theorem afterAttempts_cases (attempts : List Attempt) (s : Cluster) :
    afterAttempts op attempts s = s ∨
      ∃ data c c' data', Missing op s data c ∧ (afterAttempts op attempts s).configMap = some (some data') ∧
        op.prom.load (configOf (some data')) = some c' ∧
        op.prom.ruleFiles c' = op.prom.ruleFiles c ++ [istioPromRecordingRulesFileName] ∧
        (op.prom.ruleFiles c').count istioPromRecordingRulesFileName = 1 ∧
        data'.lookup istioPromRecordingRulesFileName = some op.asset ∧
        ∀ k, k ≠ istioPromRecordingRulesFileName → k ≠ prometheusYml → data'.lookup k = data.lookup k := by
  by_cases hmissing : ∃ data c, Missing op s data c
  · obtain ⟨data, c, h⟩ := hmissing
    rcases exists_first attempts with hnone | ⟨front, a, back, rfl, hfront, ha⟩
    · exact Or.inl (afterAttempts_of_no_store op h hnone)
    · obtain ⟨c', hload, hfiles⟩ := load_withRules op h
      refine Or.inr ⟨data, c, c', withRules op.prom op.asset data c, h, ?_, hload, hfiles, ?_, ?_, ?_⟩
      · rw [afterAttempts_of_store op h hfront ha]
        exact configMap_of_stores op h ha
      · rw [hfiles, List.count_append, List.count_eq_zero.mpr h.unlisted, List.count_singleton_self]
      · rw [lookup_withRules, if_pos rfl]
      · intro k hfile hyml
        rw [lookup_withRules, if_neg hfile, if_neg hyml]
  · have hnone : ∀ data c, ¬ Missing op s data c := fun data c h => hmissing ⟨data, c, h⟩
    exact Or.inl (afterAttempts_of_not_missing op hnone attempts)

/-! ## 5. Crashes -/

/-- Where both objects are there the configuration is loaded, and names the file, or there are data and labels to write
    to. -/
def Sound (s : Cluster) : Prop :=
  ∀ data labels, s.configMap = some data → s.deployment = some labels →
    ∃ c, op.prom.load (configOf data) = some c ∧
      (istioPromRecordingRulesFileName ∈ op.prom.ruleFiles c ∨ data.isSome ∧ labels.isSome)

/-- **An attempt crashes** exactly when both gets are answered, and the cluster is not sound: at once, or, when only the
    labels are nil, behind an update that is answered. -/
theorem attemptCrashes_iff (a : Attempt) (s : Cluster) : (runAttempt op a s).1 = .crashed ↔
    a.2.headD .served = .served ∧ a.2.tail.headD .served = .served ∧
      ∃ data labels, s.configMap = some data ∧ s.deployment = some labels ∧
        (op.prom.load (configOf data) = none ∨
          ∃ c, op.prom.load (configOf data) = some c ∧ istioPromRecordingRulesFileName ∉ op.prom.ruleFiles c ∧
            (data = none ∨ labels = none ∧ a.2.tail.tail.headD .served = .served)) := by
  rcases runAttempt_cases op a s with ⟨hgets, hrun⟩ | ⟨hnone, hrun⟩ | ⟨data, labels, hget, hget', hcm, hdp, hrun⟩
  · rw [hrun]
    refine iff_of_false (fun h => by cases h) ?_
    rintro ⟨hget, hget', _⟩
    exact hgets ⟨hget, hget'⟩
  · rw [hrun]
    refine iff_of_false (fun h => by cases h) ?_
    rintro ⟨_, _, data, labels, hcm, hdp, _⟩
    rcases hnone with hnone | hnone
    · cases hnone.symm.trans hcm
    · cases hnone.symm.trans hdp
  · rw [and_iff_right hget, and_iff_right hget', hrun]
    cases hload : op.prom.load (configOf data) with
    | none => exact iff_of_true rfl ⟨data, labels, hcm, hdp, Or.inl hload⟩
    | some c =>
      have hcause : (∃ data' labels', s.configMap = some data' ∧ s.deployment = some labels' ∧
          (op.prom.load (configOf data') = none ∨ ∃ c, op.prom.load (configOf data') = some c ∧
            istioPromRecordingRulesFileName ∉ op.prom.ruleFiles c ∧
              (data' = none ∨ labels' = none ∧ a.2.tail.tail.headD .served = .served))) ↔
          istioPromRecordingRulesFileName ∉ op.prom.ruleFiles c ∧
            (data = none ∨ labels = none ∧ a.2.tail.tail.headD .served = .served) := by
        constructor
        · intro ⟨data', labels', hcm', hdp', hor⟩
          cases hcm.symm.trans hcm'
          cases hdp.symm.trans hdp'
          rcases hor with hnone | ⟨_, hload', hrest⟩
          · cases hload.symm.trans hnone
          · cases Option.some.inj (hload.symm.trans hload')
            exact hrest
        · exact fun hrest => ⟨data, labels, hcm, hdp, Or.inr ⟨c, hload, hrest⟩⟩
      rw [hcause]
      dsimp only
      by_cases hlisted : istioPromRecordingRulesFileName ∈ op.prom.ruleFiles c
      · rw [if_pos hlisted]
        exact iff_of_false nofun fun h => h.1 hlisted
      · rw [if_neg hlisted, and_iff_right hlisted]
        cases data with
        | none => exact iff_of_true rfl (Or.inl rfl)
        | some data =>
          dsimp only
          rw [Calls.run_invoke_ok (serve op.notFound) op.failure (serve_updateConfigMap op hcm c), or_iff_right nofun]
          cases a.2.tail.tail.headD .served with
          | refused => exact iff_of_false nofun fun h => nomatch h.2
          | lost => exact iff_of_false nofun fun h => nomatch h.2
          | served =>
            cases labels with
            | none => exact iff_of_true rfl ⟨rfl, rfl⟩
            | some labels =>
              refine iff_of_false ?_ fun h => nomatch h.1
              dsimp only
              rw [Calls.run_invoke_end]
              cases (Calls.meet (serve op.notFound) op.failure (a.2.tail.tail.tail.headD .served)
                (.patchDeployment (itoa a.1)) (storedRules op s data c)).1 with
              | ok u => exact nofun
              | error e => exact nofun

/-- **No attempt crashes**, in any sequence, exactly where the cluster is sound. -/
theorem crashless_iff (s : Cluster) :
    (∀ attempts a, (runAttempt op a (afterAttempts op attempts s)).1 ≠ .crashed) ↔ Sound op s := by
  constructor
  · intro h data labels hcm hdp
    have hfirst := h [] (0, [])
    rw [Ne, attemptCrashes_iff] at hfirst
    by_contra hnone
    refine hfirst ⟨rfl, rfl, data, labels, hcm, hdp, ?_⟩
    cases hload : op.prom.load (configOf data) with
    | none => exact Or.inl rfl
    | some c =>
        refine Or.inr ⟨c, rfl, fun hlisted => hnone ⟨c, hload, Or.inl hlisted⟩, ?_⟩
        cases data with
        | none => exact Or.inl rfl
        | some data =>
            cases labels with
            | none => exact Or.inr ⟨rfl, rfl⟩
            | some labels => exact absurd ⟨c, hload, Or.inr ⟨rfl, rfl⟩⟩ hnone
  · intro hsound attempts a hcrashed
    obtain ⟨_, _, data, labels, hcm, hdp, hcause⟩ := (attemptCrashes_iff op a _).mp hcrashed
    rcases afterAttempts_cases op attempts s with hsame | ⟨_, _, c', data', _, hcm', hload', hfiles', _⟩
    · rw [hsame] at hcm hdp
      obtain ⟨c', hload', hgood⟩ := hsound data labels hcm hdp
      rcases hcause with hnone | ⟨c, hload, hunlisted, hnil⟩
      · cases hload'.symm.trans hnone
      · cases Option.some.inj (hload'.symm.trans hload)
        obtain ⟨hdata, hlabels⟩ := hgood.resolve_left hunlisted
        rcases hnil with rfl | ⟨rfl, _⟩
        · cases hdata
        · cases hlabels
    · obtain rfl : some data' = data := Option.some.inj (hcm'.symm.trans hcm)
      rcases hcause with hnone | ⟨c, hload, hunlisted, _⟩
      · cases hload'.symm.trans hnone
      · cases Option.some.inj (hload'.symm.trans hload)
        refine hunlisted ?_
        rw [hfiles']
        exact List.mem_append_right _ List.mem_cons_self

/-- The default configuration is sound; a text that is no list of rule files is not, and nor are labels that are nil. -/
theorem crashless_default :
    (∀ attempts a,
      (runAttempt rulesOperator a (afterAttempts rulesOperator attempts defaultCluster)).1 ≠ .crashed) ∧
    (∃ attempts a, (runAttempt rulesOperator a (afterAttempts rulesOperator attempts
      ⟨some (some (AList.insert prometheusYml (str "rule_files: 3") ∅)), some (some ∅), ∅⟩)).1 = .crashed) ∧
    ∃ attempts a, (runAttempt rulesOperator a (afterAttempts rulesOperator attempts
      ⟨some (some ∅), some none, ∅⟩)).1 = .crashed := by
  refine ⟨(crashless_iff rulesOperator _).mpr ?_, ?_, ?_⟩
  · intro data labels hcm hdp
    cases hcm
    cases hdp
    exact ⟨[], rfl, Or.inr ⟨rfl, rfl⟩⟩
  · by_contra hnone
    push Not at hnone
    obtain ⟨c, hload, _⟩ := (crashless_iff rulesOperator _).mp hnone _ _ rfl rfl
    cases hload
  · by_contra hnone
    push Not at hnone
    obtain ⟨c, hload, hsound⟩ := (crashless_iff rulesOperator _).mp hnone _ _ rfl rfl
    cases hload
    rcases hsound with hlisted | ⟨_, hlabels⟩
    · cases hlisted
    · cases hlabels

end Kalm.RecordingRules
