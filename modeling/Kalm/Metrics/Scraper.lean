/-
  File:      Kalm/Metrics/Scraper.lean
  Subject:   THE METRIC DATABASE: `UpdateDatabase`, `CullDatabase` and the queries of api/resources/metric_scraper.go,
             over every run of calls, whatever statement fails and however the clock moves.

  * `updateDatabase`, `cullDatabase` -- the transactions; `getMetricHistories` -- what the queries read;
  * `Ran`, `runAfter` -- a call with its statements and their answers, and a run of calls, up to a crash;
  * `stored_run` -- the tables are those of the calls that returned, each as one step;
  * `survivors`, `rows_apply` -- a row stays until a cull passes its time;
  * `told_of_run` -- the histories behind a run, of pods and of nodes;
  * `opened_run` -- the transactions that a run leaves open.
-/
import Kalm.Pods.Metrics
import Kalm.Lib.Series
import Kalm.Lib.Transactions

namespace Kalm.Metrics

open Calls (Action Outcome Traces)
open Series (Point grouped total times)
open Transactions

/-! ## 1. The tables -/

/-- `NodeMetrics`; the quantities are in thousandths. -/
structure NodeMetrics where
  uid : Str
  name : Str
  cpu : Int
  memory : Int
  storage : Int
  deriving DecidableEq

/-- A row of the table `nodes`, without its time. -/
structure NodeRow where
  uid : Str
  name : Str
  cpu : Int
  memory : Int
  storage : Int
  deriving DecidableEq

/-- The row of a node. -/
def nodeRowOf (metric : NodeMetrics) : NodeRow :=
  ⟨metric.uid, metric.name, metric.cpu, metric.memory.tdiv 1000, metric.storage.tdiv 1000⟩

/-- A row with its `time`, in seconds. -/
structure Stamped (R : Type) where
  row : R
  time : Int
  deriving DecidableEq

/-- The tables of `CreateDatabase`. -/
structure Tables where
  nodes : List (Stamped NodeRow)
  pods : List (Stamped Row)

/-- What is prepared. -/
inductive Prepared where
  | insertNodes
  | insertPods
  | deleteNodes
  | deletePods
  deriving DecidableEq

/-- What is executed; the window is in seconds. -/
inductive Statement where
  | insertNode (row : NodeRow)
  | insertPod (row : Row)
  | deleteNodes (window : Int)
  | deletePods (window : Int)
  deriving DecidableEq

/-- What it does, when `datetime('now')` is `now`. -/
def effect : Statement → Int → Tables → Tables
  | .insertNode row, now, s => { s with nodes := s.nodes ++ [⟨row, now⟩] }
  | .insertPod row, now, s => { s with pods := s.pods ++ [⟨row, now⟩] }
  | .deleteNodes window, now, s => { s with nodes := s.nodes.filter fun r => ¬ r.time ≤ now - window }
  | .deletePods window, now, s => { s with pods := s.pods.filter fun r => ¬ r.time ≤ now - window }

/-! ## 2. The transactions -/

section Programs

variable {E : Type}

/-- `UpdateDatabase` behind its begin, up to the commit. -/
def updateBody (nodeMetrics : List NodeMetrics) (podMetrics : List PodMetrics) :
    Program Prepared Statement E Unit :=
  Action.invoke (.prepare .insertNodes) >>= fun _ =>
    execAll (nodeMetrics.map fun metric => .insertNode (nodeRowOf metric)) >>= fun _ =>
      Action.invoke (.prepare .insertPods) >>= fun _ => execAll ((podRows podMetrics).map .insertPod)

/-- `UpdateDatabase` -/
def updateDatabase (nodeMetrics : List NodeMetrics) (podMetrics : List PodMetrics) :
    Program Prepared Statement E Unit :=
  Action.invoke .begin >>= fun _ => within (updateBody nodeMetrics podMetrics)

/-- `CullDatabase` behind its begin, up to the commit. The error of the second prepare is not looked at, and what it
    returns is used. -/
def cullBody (window : Int) : Program Prepared Statement E Unit :=
  Action.invoke (.prepare .deleteNodes) >>= fun _ =>
    Action.invoke (.exec (.deleteNodes window)) >>= fun _ =>
      .call (.prepare .deletePods) fun
        | .ok _ => execAll [.deletePods window]
        | .error _ => .crash

/-- `CullDatabase`. The error of the begin is not looked at either. -/
def cullDatabase (window : Int) : Program Prepared Statement E Unit :=
  .call .begin fun
    | .ok _ => within (cullBody window)
    | .error _ => .crash

end Programs

/-- `metricDuration` -/
def metricDuration : Int := 900

/-! ## 3. The queries -/

/-- A table: its rows, the quantities that are added up, what is inserted into it, and the window of a cull. -/
structure Table (R : Type) where
  rows : Tables → List (Stamped R)
  cpu : R → Int
  memory : R → Int
  inserts : Statement → Option R
  window : Statement → Option Int
  rows_effect : ∀ q now s, rows (effect q now s) =
    ((rows s).filter fun r => (window q).all fun window => ¬ r.time ≤ now - window) ++
      (inserts q).toList.map fun row => ⟨row, now⟩

/-- The table `pods`. -/
def podTable : Table Row where
  rows := Tables.pods
  cpu := Row.cpu
  memory := Row.memory
  inserts := fun
    | .insertPod row => some row
    | _ => none
  window := fun
    | .deletePods window => some window
    | _ => none
  rows_effect := by
    intro q now s
    cases q with
    | insertPod row => exact congrArg (· ++ [⟨row, now⟩]) (List.filter_true s.pods).symm
    | deletePods window => exact (List.append_nil _).symm
    | insertNode row => exact ((List.append_nil _).trans (List.filter_true s.pods)).symm
    | deleteNodes window => exact ((List.append_nil _).trans (List.filter_true s.pods)).symm

/-- The table `nodes`. -/
def nodeTable : Table NodeRow where
  rows := Tables.nodes
  cpu := NodeRow.cpu
  memory := NodeRow.memory
  inserts := fun
    | .insertNode row => some row
    | _ => none
  window := fun
    | .deleteNodes window => some window
    | _ => none
  rows_effect := by
    intro q now s
    cases q with
    | insertNode row => exact congrArg (· ++ [⟨row, now⟩]) (List.filter_true s.nodes).symm
    | deleteNodes window => exact (List.append_nil _).symm
    | insertPod row => exact ((List.append_nil _).trans (List.filter_true s.nodes)).symm
    | deletePods window => exact ((List.append_nil _).trans (List.filter_true s.nodes)).symm

/-- `MetricHistories` -/
structure MetricHistories (F : Type) where
  cpu : List (Point Int F)
  memory : List (Point Int F)

/-- How a query goes: there is no database or `Query` fails; or so many rows are read before the end, or an error of
    `Scan`, `Parse` or `Err`. -/
inductive Reading where
  | failed
  | upTo (rows : Nat)

/-- The points of the rows that are read; `parseFloat` is `ParseFloat` of the text of a sum. -/
def Reading.points {F : Type} (parseFloat : Int → F) (series : List (Point Int Int)) : Reading → List (Point Int F)
  | .failed => []
  | .upTo rows => (series.take rows).map fun p => ⟨p.time, parseFloat p.value⟩

/-- What the database adds up by the times, in the order of the times. -/
def series {R : Type} (selected : R → Bool) (value : R → Int) (rows : List (Stamped R)) : List (Point Int Int) :=
  grouped ((rows.filter fun r => selected r.row).map fun r => ⟨r.time, value r.row⟩)

section Queries

variable {F R : Type} (parseFloat : Int → F)

/-- `getMetricHistories` -/
def getMetricHistories (T : Table R) (selected : R → Bool) (reading : Reading) (s : Tables) : MetricHistories F where
  cpu := reading.points parseFloat (series selected T.cpu (T.rows s))
  memory := reading.points parseFloat (series selected T.memory (T.rows s))

/-- `GetPodMetric` -/
def getPodMetric (podName ns : Str) : Reading → Tables → MetricHistories F :=
  getMetricHistories parseFloat podTable fun row => row.name = podName && row.ns = ns

/-- `GetComponentMetric` -/
def getComponentMetric (componentName ns : Str) : Reading → Tables → MetricHistories F :=
  getMetricHistories parseFloat podTable fun row => row.component = componentName && row.ns = ns

/-- `GetApplicationMetric` -/
def getApplicationMetric (ns : Str) : Reading → Tables → MetricHistories F :=
  getMetricHistories parseFloat podTable fun row => row.ns = ns

/-- `GetFilteredNodeMetrics`: all nodes together, and each that is asked for. -/
def getFilteredNodeMetrics (nodes : List Str) (together : Reading) (each : Str → Reading) (s : Tables) :
    MetricHistories F × List (Str × MetricHistories F) :=
  (getMetricHistories parseFloat nodeTable (fun _ => true) together s, nodes.map fun node =>
    (node, getMetricHistories parseFloat nodeTable (fun row => row.name = node) (each node) s))

end Queries

/-! ## 4. Runs -/

/-- What the scraper calls. -/
inductive Job where
  | update (nodeMetrics : List NodeMetrics) (podMetrics : List PodMetrics)
  | cull

variable {E : Type}

/-- The program of a call. -/
def Job.program : Job → Program Prepared Statement E Unit
  | .update nodeMetrics podMetrics => updateDatabase nodeMetrics podMetrics
  | .cull => cullDatabase metricDuration

/-- **A call that ran**: its statements, their answers, and how it ended. -/
structure Ran (E : Type) where
  job : Job
  statements : List (Done Prepared Statement E)
  outcome : Outcome E Unit
  traces : Traces job.program statements outcome

/-- What the call stored. -/
def Ran.committed (r : Ran E) : Changes Statement :=
  match r.outcome with
  | .returned _ => executed r.statements
  | _ => []

/-- The call stopped at a statement inside of its transaction. -/
def Ran.StopsInside (r : Ran E) : Prop :=
  ∃ front c e, r.statements = front ++ [⟨c, .error e⟩] ∧ Inner c

/-- The calls of a run that are made: behind a crash there are none. -/
def made : List (Ran E) → List (Ran E)
  | [] => []
  | r :: runs =>
    match r.outcome with
    | .crashed => [r]
    | _ => r :: made runs

/-- The calls of a run, one after the other. -/
def runAfter (db : Database Tables Statement) (runs : List (Ran E)) : Database Tables Statement :=
  (made runs).foldl (fun db r => db.after effect r.statements) db

/-- The database of `CreateDatabase`, before the first call. -/
def created : Database Tables Statement := ⟨⟨[], []⟩, [], 0⟩

section Survivors

variable {R : Type} (T : Table R)

/-- No later cull passes the time of a row. -/
def kept (changes : Changes Statement) (time : Int) : Bool := changes.all fun c =>
  (T.window c.1).all fun window => ¬ time ≤ c.2 - window

/-- **The rows that no later cull passes.** -/
def survivors : Changes Statement → List (Stamped R)
  | [] => []
  | (q, now) :: changes =>
    (((T.inserts q).toList.map fun row => ⟨row, now⟩).filter fun r => kept T changes r.time) ++ survivors changes

end Survivors

variable {nodeMetrics : List NodeMetrics} {podMetrics : List PodMetrics} {h : List (Done Prepared Statement E)}
  {o : Outcome E Unit}

/-! ## 5. One call -/

theorem uses_updateBody (nodeMetrics : List NodeMetrics) (podMetrics : List PodMetrics) :
    Calls.Uses Inner (updateBody nodeMetrics podMetrics : Program Prepared Statement E Unit) :=
  Calls.uses_bind (Calls.uses_invoke trivial) fun _ => Calls.uses_bind (uses_execAll _) fun _ =>
    Calls.uses_bind (Calls.uses_invoke trivial) fun _ => uses_execAll _

theorem uses_cullBody (window : Int) : Calls.Uses Inner (cullBody window : Program Prepared Statement E Unit) := by
  refine Calls.uses_bind (Calls.uses_invoke trivial) fun _ => Calls.uses_bind (Calls.uses_invoke trivial) fun _ => ?_
  refine ⟨trivial, fun r => ?_⟩
  cases r with
  | ok _ => exact uses_execAll _
  | error _ => trivial

theorem stops_updateBody (nodeMetrics : List NodeMetrics) (podMetrics : List PodMetrics) :
    Stops (updateBody nodeMetrics podMetrics : Program Prepared Statement E Unit) :=
  stops_bind (stops_invoke _) fun _ => stops_bind (stops_execAll _) fun _ =>
    stops_bind (stops_invoke _) fun _ => stops_execAll _

theorem stops_cullBody (window : Int) : Stops (cullBody window : Program Prepared Statement E Unit) := by
  refine stops_bind (stops_invoke _) fun _ => stops_bind (stops_invoke _) fun _ => ?_
  rintro h o ⟨r, rest, rfl, hrest⟩
  cases r with
  | ok _ => exact (stops_execAll _ _ _ hrest).imp_right fun hlast => hlast.behind [_]
  | error e =>
      obtain ⟨rfl, _⟩ := hrest
      exact Or.inr ⟨[], _, e, rfl⟩

/-- **A call begins, or it does nothing**; behind the begin is a transaction. -/
theorem Ran.begins (r : Ran E) :
    (∃ e, r.statements = [⟨.begin, .error e⟩] ∧ ∀ u, r.outcome ≠ .returned u) ∨
      ∃ u rest body, r.statements = ⟨.begin, .ok u⟩ :: rest ∧ Calls.Uses Inner body ∧ Stops body ∧
        Traces (within body) rest r.outcome := by
  obtain ⟨job, h, o, ht⟩ := r
  cases job with
  | update nodeMetrics podMetrics =>
      rcases Calls.traces_invoke.mp ht with ⟨u, rest, rfl, hrest⟩ | ⟨e, rfl, rfl⟩
      · exact Or.inr ⟨u, rest, _, rfl, uses_updateBody _ _, stops_updateBody _ _, hrest⟩
      · exact Or.inl ⟨e, rfl, nofun⟩
  | cull =>
      obtain ⟨a, rest, rfl, hrest⟩ := ht
      cases a with
      | ok u => exact Or.inr ⟨u, rest, _, rfl, uses_cullBody _, stops_cullBody _, hrest⟩
      | error e =>
          obtain ⟨rfl, rfl⟩ := hrest
          exact Or.inl ⟨e, rfl, nofun⟩

/-- A transaction behind its begin. -/
theorem after_begin (db : Database Tables Statement) (u : Answer (.begin : Call Prepared Statement))
    (rest : List (Done Prepared Statement E)) : db.after effect (⟨.begin, .ok u⟩ :: rest) =
      (⟨db.stored, [], db.opened + 1⟩ : Database Tables Statement).after effect rest := rfl

/-- **A call is one step**: what it committed is stored. -/
theorem stored_after (r : Ran E) (db : Database Tables Statement) :
    (db.after effect r.statements).stored = applyAll effect r.committed db.stored := by
  unfold Ran.committed
  rcases r.begins with ⟨e, hstatements, ho⟩ | ⟨u, rest, body, hstatements, huses, _, ht⟩
  · rw [hstatements]
    split
    · rename_i u hu
      exact absurd hu (ho u)
    · rfl
  · have hexecuted : executed r.statements = executed rest := by
      rw [hstatements]
      rfl
    rw [hexecuted, hstatements, after_begin]
    rcases after_within effect ⟨db.stored, [], db.opened + 1⟩ huses ht rfl with
      ⟨ho, _, hafter⟩ | ⟨ho, _, hafter⟩ | ⟨ho, _, hafter, _⟩
    · rw [hafter, ho]
    · rw [hafter]
      split
      · rename_i u hu
        exact absurd hu ho
      · rfl
    · rw [hafter]
      split
      · rename_i u hu
        exact absurd hu ho
      · rfl

/-- Behind a commit a call does not stop inside of its transaction. -/
theorem stopsInside_iff {body : Program Prepared Statement E Unit} (huses : Calls.Uses Inner body) (hstops : Stops body)
    (ht : Traces (within body) h o) : (∃ front c e, h = front ++ [⟨c, .error e⟩] ∧ Inner c) ↔ ¬ Committed h := by
  have hlast {front front' : List (Done Prepared Statement E)} {x y : Done Prepared Statement E}
      (heq : front ++ [x] = front' ++ [y]) : x = y :=
    List.singleton_inj.mp (List.append_inj_right' heq rfl)
  rcases Calls.traces_bind.mp ht with ⟨_, h₁, h₂, rfl, _, hfinish⟩ | ⟨e, hbody, _⟩ | ⟨hbody, _⟩
  · obtain ⟨a, rest, rfl, hrest⟩ := hfinish
    refine iff_of_false ?_ (not_not.mpr ⟨a, List.mem_append_right _ List.mem_cons_self⟩)
    rintro ⟨front, c, e, heq, hinner⟩
    cases a with
    | ok u =>
        obtain ⟨rfl, _⟩ := hrest
        cases hlast heq
    | error e' =>
        obtain ⟨a', rest', rfl, hrest'⟩ := hrest
        have hrest' : rest' = [] := by cases a' <;> exact hrest'.1
        rw [hrest', List.append_cons] at heq
        cases congrArg Sigma.fst (hlast heq)
        exact hinner
  · have hinner := Calls.mem_of_traces huses hbody
    obtain ⟨front, c, e', heq⟩ := (hstops h _ hbody).resolve_left fun ⟨_, ho⟩ => nomatch ho
    refine iff_of_true ⟨front, c, e', heq, ?_⟩ (not_committed_of_inner hinner)
    exact hinner ⟨c, .error e'⟩ (heq ▸ List.mem_append_right _ List.mem_cons_self)
  · have hinner := Calls.mem_of_traces huses hbody
    obtain ⟨front, c, e', heq⟩ := (hstops h _ hbody).resolve_left fun ⟨_, ho⟩ => nomatch ho
    refine iff_of_true ⟨front, c, e', heq, ?_⟩ (not_committed_of_inner hinner)
    exact hinner ⟨c, .error e'⟩ (heq ▸ List.mem_append_right _ List.mem_cons_self)

open Classical in
/-- **A call leaves its transaction open** exactly when it stops at a statement inside of it. -/
theorem opened_after (r : Ran E) (db : Database Tables Statement) :
    (db.after effect r.statements).opened = db.opened + if r.StopsInside then 1 else 0 := by
  rcases r.begins with ⟨e, hstatements, _⟩ | ⟨u, rest, body, hstatements, huses, hstops, ht⟩
  · have hnot : ¬ r.StopsInside := by
      rintro ⟨front, c, e', heq, hinner⟩
      rw [hstatements, List.singleton_eq_append_iff] at heq
      rcases heq with ⟨_, heq⟩ | ⟨_, heq⟩
      · cases congrArg Sigma.fst (List.singleton_inj.mp heq.symm)
        exact hinner
      · cases heq
    rw [if_neg hnot, hstatements]
    rfl
  · have hiff : r.StopsInside ↔ ¬ Committed rest := by
      rw [← stopsInside_iff huses hstops ht]
      constructor
      · rintro ⟨front, c, e, heq, hinner⟩
        rw [hstatements] at heq
        cases front with
        | nil => cases heq
        | cons x front => exact ⟨front, c, e, (List.cons.inj heq).2, hinner⟩
      · rintro ⟨front, c, e, heq, hinner⟩
        exact ⟨⟨.begin, .ok u⟩ :: front, c, e, by rw [hstatements, heq]; rfl, hinner⟩
    rw [hstatements, after_begin]
    rcases after_within effect ⟨db.stored, [], db.opened + 1⟩ huses ht rfl with
      ⟨_, hcommitted, hafter⟩ | ⟨_, hcommitted, hafter⟩ | ⟨_, hcommitted, _, hopened⟩
    · rw [hafter, if_neg fun hstop => hiff.mp hstop hcommitted]
      rfl
    · rw [hafter, if_neg fun hstop => hiff.mp hstop hcommitted]
      rfl
    · rw [hopened, if_pos (hiff.mpr hcommitted)]

/-! ## 6. Every run -/

/-- **The tables behind a run** are those of the calls that returned, each as one step. -/
theorem stored_run (runs : List (Ran E)) (db : Database Tables Statement) :
    (runAfter db runs).stored = applyAll effect ((made runs).flatMap Ran.committed) db.stored := by
  unfold runAfter
  induction made runs generalizing db with
  | nil => rfl
  | cons r runs ih => rw [List.foldl_cons, ih, stored_after, List.flatMap_cons, applyAll_append]

open Classical in
/-- **The transactions behind a run**: one is left open for each call that stops inside of its own. -/
theorem opened_run (runs : List (Ran E)) (db : Database Tables Statement) :
    (runAfter db runs).opened = db.opened + ((made runs).filter fun r => r.StopsInside).length := by
  unfold runAfter
  induction made runs generalizing db with
  | nil => rfl
  | cons r runs ih =>
      rw [List.foldl_cons, ih, opened_after, List.filter_cons]
      by_cases hstop : r.StopsInside
      · rw [if_pos hstop, if_pos (decide_eq_true hstop), List.length_cons]
        omega
      · rw [if_neg hstop, if_neg (by rwa [decide_eq_true_iff])]
        omega

/-- **The rows of a table** behind some changes: those that were there and those that are inserted, unless a later cull
    passes them. -/
theorem rows_apply {R : Type} (T : Table R) (changes : Changes Statement) (s : Tables) :
    T.rows (applyAll effect changes s) = ((T.rows s).filter fun r => kept T changes r.time) ++ survivors T changes := by
  induction changes generalizing s with
  | nil => exact (List.filter_true (T.rows s)).symm.trans (List.append_nil _).symm
  | cons c changes ih =>
      obtain ⟨q, now⟩ := c
      rw [applyAll, List.foldl_cons, ← applyAll, ih, T.rows_effect, List.filter_append, List.filter_filter, survivors,
        List.append_assoc]
      congr 1
      refine List.filter_congr fun r _ => ?_
      rw [kept, kept, List.all_cons, Bool.and_comm]

/-- **A successful update** inserts each node, and then each container of each pod, once. -/
theorem executed_update (ht : Traces (updateDatabase nodeMetrics podMetrics) h (.returned ())) :
    (executed h).map Prod.fst = (nodeMetrics.map fun metric => .insertNode (nodeRowOf metric)) ++
      (podRows podMetrics).map .insertPod := by
  obtain ⟨_, h₁, h₂, rfl, hbegin, hwithin⟩ := Calls.traces_bind_returned.mp ht
  obtain ⟨_, h₃, h₄, rfl, hbody, hfinish⟩ := Calls.traces_bind_returned.mp hwithin
  obtain ⟨_, h₅, h₆, rfl, hprepare, hbody⟩ := Calls.traces_bind_returned.mp hbody
  obtain ⟨_, h₇, h₈, rfl, hnodes, hbody⟩ := Calls.traces_bind_returned.mp hbody
  obtain ⟨_, h₉, h₁₀, rfl, hprepare', hpods⟩ := Calls.traces_bind_returned.mp hbody
  have hnone (c : Call Prepared Statement) (hc : ∀ q, c ≠ .exec q) {g : List (Done Prepared Statement E)}
      {v : Answer c} (hg : Traces (Action.invoke c) g (.returned v)) : executed g = [] := by
    obtain rfl := Calls.traces_last.mp hg
    cases c with
    | exec q => exact absurd rfl (hc q)
    | begin => rfl
    | prepare p => rfl
    | commit => rfl
    | rollback => rfl
  have hfinished : executed h₄ = [] := by
    obtain ⟨a, rest, rfl, hrest⟩ := hfinish
    cases a with
    | ok u =>
        rw [hrest.1]
        rfl
    | error e =>
        obtain ⟨a', rest', rfl, hrest'⟩ := hrest
        cases a' with
        | ok u => cases hrest'.2
        | error e' => cases hrest'.2
  have hbegun := hnone .begin (fun _ => nofun) hbegin
  have hprepared := hnone (.prepare .insertNodes) (fun _ => nofun) hprepare
  have hprepared' := hnone (.prepare .insertPods) (fun _ => nofun) hprepare'
  simp only [executed_append, List.map_append, hbegun, hprepared, hprepared', hfinished, executed_execAll hnodes,
    executed_execAll hpods, List.nil_append, List.append_nil]

/-- **A series sums the rows up**: it has one point for each second in which a row was inserted, in order, and its value
    is the sum over these rows. -/
structure Sums {R : Type} (value : R → Int) (rows : List (Stamped R)) (series : List (Point Int Int)) : Prop where
  inOrder : Series.Increasing series
  times : ∀ t, t ∈ times series ↔ ∃ r ∈ rows, r.time = t
  totals : ∀ t, total series t = ((rows.filter fun r => r.time = t).map fun r => value r.row).sum

theorem sums_series {R : Type} (selected : R → Bool) (value : R → Int) (rows : List (Stamped R)) :
    Sums value (rows.filter fun r => selected r.row) (series selected value rows) := by
  refine ⟨Series.increasing_grouped _, fun t => ?_, fun t => ?_⟩
  · rw [series, Series.mem_times_grouped, times, List.map_map, List.mem_map]
    rfl
  · rw [series, Series.total_grouped, total, List.filter_map, List.map_map]
    rfl

/-- **The histories of a table tell its rows**: the points that are read are the first ones of a series that sums up the
    rows of the updates that returned, which no later cull has passed. -/
def Tells {R : Type} (T : Table R) (runs : List (Ran E)) : Prop :=
  ∀ selected : R → Bool, ∃ cpu memory,
    Sums T.cpu ((survivors T ((made runs).flatMap Ran.committed)).filter fun r => selected r.row) cpu ∧
    Sums T.memory ((survivors T ((made runs).flatMap Ran.committed)).filter fun r => selected r.row) memory ∧
    ∀ {F : Type} (parseFloat : Int → F) (reading : Reading),
      getMetricHistories parseFloat T selected reading (runAfter created runs).stored =
        ⟨reading.points parseFloat cpu, reading.points parseFloat memory⟩

theorem tells_run {R : Type} (T : Table R) (hempty : T.rows created.stored = []) (runs : List (Ran E)) :
    Tells T runs := by
  intro selected
  refine ⟨_, _, sums_series selected T.cpu _, sums_series selected T.memory _, fun parseFloat reading => ?_⟩
  have hrows : T.rows (runAfter created runs).stored = survivors T ((made runs).flatMap Ran.committed) := by
    rw [stored_run, rows_apply, hempty]
    rfl
  rw [getMetricHistories, hrows]

/-- **What is told behind a run**: the histories of pods and of nodes tell the rows; and an update that returned has
    inserted each node and each container once. -/
theorem told_of_run (runs : List (Ran E)) : Tells podTable runs ∧ Tells nodeTable runs ∧
    ∀ r ∈ runs, ∀ nodeMetrics podMetrics, r.job = .update nodeMetrics podMetrics → r.outcome = .returned () →
      r.committed.map Prod.fst = (nodeMetrics.map fun metric => .insertNode (nodeRowOf metric)) ++
        (podRows podMetrics).map .insertPod := by
  refine ⟨tells_run podTable rfl runs, tells_run nodeTable rfl runs, fun r _ nodeMetrics podMetrics hjob ho => ?_⟩
  have ht := r.traces
  rw [hjob, ho] at ht
  rw [Ran.committed, ho]
  exact executed_update ht

end Kalm.Metrics
