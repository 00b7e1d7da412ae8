import Mathlib.Algebra.BigOperators.Ring.Finset
import Perfana.PerformanceTest.ErrorPanels

/-!
# The error panels over a run

While a test runs, every tick writes the errors so far at the start of the run, again and
again. When it is completed, the analysis writes the errors over time, writes those of the
whole run at the time they are analysed at, and deletes the points of the ticks; or it
rebuilds both panels; or it leaves them, where there is nothing to do.

* `Inv`: what ticks and passes keep, those that stop half-way included (`run_inv`);
* `Shows.agree`: what the panel of the whole run shows adds up;
* `run_panelsAgree`: so after any pass that succeeds the two panels agree.
-/

namespace Perfana.PerformanceTest

namespace ErrorRun

/-- What is stored of the errors of a run. -/
structure ErrorState where
  /-- The errors that have arrived. -/
  errors : List RequestError
  /-- The metrics of the two panels. -/
  dsMetrics : Table DsMetricKey DsMetric
  /-- The time of the last tick, in milliseconds. -/
  clock : ℤ
  completed : Bool
  /-- Whether a pass over the completed run has started. -/
  analysed : Bool
  /-- Whether the metrics are final. -/
  isComplete : Bool

/-- What a full collection does. -/
inductive Plan
  /-- Nothing: the metrics are final. -/
  | skip
  /-- It finishes the work of the ticks. -/
  | tail
  /-- It deletes the metrics and writes them anew. -/
  | rebuild
  deriving DecidableEq, Repr

variable (run : ErrorRun)

/-- Nothing is stored yet. -/
def init : ErrorState := ⟨[], Table.empty, run.startTime, false, false, false⟩

/-- The metrics after some rows are inserted; none if the statement fails. -/
def saveDsMetrics (metrics : List (DsMetricKey × DsMetric)) (upsert : Bool)
    (dsMetrics : Table DsMetricKey DsMetric) : Option (Table DsMetricKey DsMetric) :=
  if upsert then (Table.ofRows metrics).map fun new => Table.upsert onConflict new dsMetrics
  else Table.ofRows (dsMetrics.rows ++ metrics)

/-- The metrics after the statement of the panel over time. -/
def processOverTime (errors : List RequestError) (isIncremental : Bool)
    (dsMetrics : Table DsMetricKey DsMetric) : Option (Table DsMetricKey DsMetric) :=
  insertDsMetricsFromAggregate run.times run.dashboards (run.overTimeRows errors) isIncremental
    dsMetrics

/-- The metrics without the points of the whole run at any other time. -/
def deleteInterim (dsMetrics : Table DsMetricKey DsMetric) : Table DsMetricKey DsMetric :=
  dsMetrics.filter fun k _ =>
    !(k.panelId ∈ SCENARIO_PANEL_IDS ∧ k.time ≠ run.scenarioMetricTime true)

/-- The statements of a plan, one after the other. A dashboard that cannot be created
    stops it before the first one that inserts. -/
def statements (s : ErrorState) (requestScenarios : List String) :
    Plan → List (Table DsMetricKey DsMetric → Option (Table DsMetricKey DsMetric))
  | .skip => []
  | .tail =>
    match run.process true run.endTime requestScenarios s.errors with
    | none => [fun _ => none]
    | some metrics =>
      [run.processOverTime s.errors true, saveDsMetrics metrics true,
       fun dsMetrics => some (run.deleteInterim dsMetrics)]
  | .rebuild =>
    if !run.hasRawRows then []
    else
      match run.process true run.endTime requestScenarios s.errors with
      | none => [fun _ => some Table.empty, fun _ => none]
      | some metrics =>
        [fun _ => some Table.empty, run.processOverTime s.errors false,
         saveDsMetrics metrics false]

/-- The metrics after some statements, up to the first that fails, and whether none does. -/
def execute : List (Table DsMetricKey DsMetric → Option (Table DsMetricKey DsMetric)) →
    Table DsMetricKey DsMetric → Table DsMetricKey DsMetric × Bool
  | [], dsMetrics => (dsMetrics, true)
  | statement :: statements, dsMetrics =>
    match statement dsMetrics with
    | some dsMetrics' => execute statements dsMetrics'
    | none => (dsMetrics, false)

/-- A plan is one that a full collection may take: nothing if the metrics are final, and
    the tail only of a run that the ticks wrote raw rows of. -/
def possible (s : ErrorState) : Plan → Bool
  | .skip => s.isComplete
  | .tail => !s.isComplete && run.hasRawRows
  | .rebuild => true

/-- A full collection of a completed run, and whether it succeeds: it may stop after some
    statements, and it may make the metrics final if it writes them. -/
def pass (s : ErrorState) (plan : Plan) (requestScenarios : List String) (stop : Option ℕ)
    (certify : Bool) : ErrorState × Bool :=
  let statements := run.statements s requestScenarios plan
  let (dsMetrics, ok) :=
    match stop with
    | none => execute statements s.dsMetrics
    | some n => ((execute (statements.take n) s.dsMetrics).1, false)
  let isComplete := if statements.isEmpty then s.isComplete else ok && certify
  ({ s with dsMetrics, analysed := true, isComplete }, ok)

/-- A tick up to a time. A completed run is left to the analysis. -/
def tick (s : ErrorState) (toTime : ℤ) (requestScenarios : List String) : ErrorState :=
  if s.completed then s
  else
    let s := { s with clock := toTime }
    match run.process false toTime requestScenarios s.errors with
    | none => s
    | some metrics =>
      match saveDsMetrics metrics true s.dsMetrics with
      | none => s
      | some dsMetrics => { s with dsMetrics }

/-- What happens to a run. -/
inductive Event
  /-- An error becomes visible. -/
  | arrive (e : RequestError)
  /-- A tick collects up to a time. -/
  | tick (toTime : ℤ) (requestScenarios : List String)
  /-- The run is completed. -/
  | complete
  /-- The analysis collects all. -/
  | analyse (plan : Plan) (requestScenarios : List String) (stop : Option ℕ) (certify : Bool)
  deriving DecidableEq, Repr

/-- A step of a run. Ticks follow the clock. -/
def step (s : ErrorState) : Event → Option ErrorState
  | .arrive e => some { s with errors := s.errors ++ [e] }
  | .tick toTime requestScenarios =>
    if s.clock ≤ toTime then some (run.tick s toTime requestScenarios) else none
  | .complete => some { s with completed := true }
  | .analyse plan requestScenarios stop certify =>
    if s.completed && run.possible s plan then
      some (run.pass s plan requestScenarios stop certify).1
    else none

/-- The errors are those of the run, and are all there when it is analysed. -/
def Admissible (s : ErrorState) : Event → Prop
  | .arrive e => run.startTime ≤ e.time ∧ e.time ≤ run.endTime ∧ s.analysed = false
  | _ => True

/-! ## What the panels show -/

/-- The value of a metric. -/
def valueAt (dsMetrics : Table DsMetricKey DsMetric) (k : DsMetricKey) : Option ℚ :=
  (dsMetrics.get k).map DsMetric.value

/-- What the panel of the whole run says of a series of a scenario: nothing is zero. -/
def errorCount (dsMetrics : Table DsMetricKey DsMetric) (time : ℤ) (scenarioName name : String) :
    ℚ :=
  ((run.dashboards.dashboardId scenarioName).bind fun applicationDashboardId =>
    valueAt dsMetrics ⟨applicationDashboardId, SCENARIO_ERROR_COUNT, name, time⟩).getD 0

/-- The errors of the scenarios, each as the panel of the whole run has it. A scenario of
    the roll-up's name has no series of its own. -/
def scenarioCounts (dsMetrics : Table DsMetricKey DsMetric) (time : ℤ)
    (errors : List RequestError) (name : String → String) (p : RequestError → Bool) : List ℚ :=
  (errors.map RequestError.scenario).dedup.map fun scenarioName =>
    if scenarioName = ALL_AGGREGATED_SCENARIO then
      (errors.countP fun e => e.scenario = scenarioName ∧ p e : ℚ)
    else run.errorCount dsMetrics time scenarioName (name scenarioName)

/-- The two panels agree on some errors. -/
structure PanelsAgree (errors : List RequestError) (time : ℤ)
    (dsMetrics : Table DsMetricKey DsMetric) : Prop where
  /-- The panel of the whole run has points of one time. -/
  point : ∀ row ∈ dsMetrics.rows, row.1.panelId = SCENARIO_ERROR_COUNT → row.1.time = time
  /-- They count the errors. -/
  code : ∀ scenarioName code, (run.dashboards.dashboardId scenarioName).isSome →
    run.errorCount dsMetrics time scenarioName (codeName scenarioName code) =
      codeCount errors scenarioName code
  /-- The total of a scenario is the sum of its other series. -/
  total : ∀ scenarioName d, run.dashboards.dashboardId scenarioName = some d →
    run.errorCount dsMetrics time scenarioName (baseName scenarioName) =
      ((dsMetrics.rows.filter fun row => row.1.applicationDashboardId = d ∧
        row.1.panelId = SCENARIO_ERROR_COUNT ∧ row.1.metricName ≠ baseName scenarioName).map
          fun row => row.2.value).sum
  /-- The roll-up has the sums over all scenarios, of every response code. -/
  rollupCode : ∀ code, run.errorCount dsMetrics time ALL_AGGREGATED_SCENARIO
      (codeName ALL_AGGREGATED_SCENARIO code) =
    (run.scenarioCounts dsMetrics time errors (codeName · code) fun e => e.code = code).sum
  /-- And in total. -/
  rollupTotal : run.errorCount dsMetrics time ALL_AGGREGATED_SCENARIO
      (baseName ALL_AGGREGATED_SCENARIO) =
    (run.scenarioCounts dsMetrics time errors baseName fun _ => true).sum
  /-- A series over time has a point in every bucket of the run, and nowhere else, and adds
      up to the point of the same name for the whole run, on the same dashboard. -/
  overTime : ∀ row ∈ dsMetrics.rows, row.1.panelId = SCENARIO_ERRORS_OVER_TIME →
    row.1.time ∈ run.grid ∧
      (∀ bucketTime ∈ run.grid,
        (valueAt dsMetrics { row.1 with time := bucketTime }).isSome) ∧
      (run.grid.map fun bucketTime =>
        (valueAt dsMetrics { row.1 with time := bucketTime }).getD 0 * run.bucketSizeSeconds).sum =
        (valueAt dsMetrics
          { row.1 with panelId := SCENARIO_ERROR_COUNT, time }).getD 0

/-- The panel of the whole run shows some errors: it has their points at a time, and none
    but theirs, and those of scenarios without errors. -/
structure Shows (errors : List RequestError) (time : ℤ)
    (dsMetrics : Table DsMetricKey DsMetric) : Prop where
  /-- Their scenarios have dashboards, and so has the roll-up. -/
  dashboards : errors ≠ [] → ∀ scenarioName name n, ErrorPoint errors scenarioName name n →
    (run.dashboards.dashboardId scenarioName).isSome
  /-- Their points are there. -/
  rows : errors ≠ [] → ∀ k v, run.ErrorCountRow errors time k v → valueAt dsMetrics k = some v
  /-- No others are. -/
  only : ∀ k v, k.panelId = SCENARIO_ERROR_COUNT → valueAt dsMetrics k = some v →
    run.ErrorCountRow errors time k v ∨ run.NoErrorRow time k v

variable {run} {errors : List RequestError} {time : ℤ}
  {dsMetrics dsMetrics' : Table DsMetricKey DsMetric}

section Shows

theorem mem_rows_valueAt {row : DsMetricKey × DsMetric} (h : row ∈ dsMetrics.rows) :
    valueAt dsMetrics row.1 = some row.2.value := by
  rw [valueAt, Table.mem_rows.1 h, Option.map_some]

theorem exists_of_valueAt {k : DsMetricKey} {v : ℚ} (h : valueAt dsMetrics k = some v) :
    ∃ m, (k, m) ∈ dsMetrics.rows ∧ m.value = v := by
  obtain ⟨m, hm, rfl⟩ := Option.map_eq_some_iff.1 h
  exact ⟨m, Table.mem_rows.2 hm, rfl⟩

/-- A point on the dashboard of a scenario is one of its points. -/
theorem ErrorCountRow.cases {k : DsMetricKey} {v : ℚ} (h : run.ErrorCountRow errors time k v)
    {scenarioName : String}
    (hd : run.dashboards.dashboardId scenarioName = some k.applicationDashboardId) :
    (k.metricName = baseName scenarioName ∧ v = scenarioCount errors scenarioName) ∨
      ∃ e ∈ errors, e.CountsFor scenarioName ∧ k.metricName = codeName scenarioName e.code ∧
        v = codeCount errors scenarioName e.code := by
  obtain ⟨s, n, hpoint, rfl, hs⟩ := h.point
  obtain rfl := run.dashboards.injective _ _ _ hs hd
  generalize hname : k.metricName = name at hpoint
  cases hpoint with
  | total => exact .inl ⟨rfl, rfl⟩
  | code e he hscenario => exact .inr ⟨e, he, hscenario, rfl, rfl⟩

theorem NoErrorRow.metricName_eq {k : DsMetricKey} {v : ℚ} (h : run.NoErrorRow time k v)
    {scenarioName : String}
    (hd : run.dashboards.dashboardId scenarioName = some k.applicationDashboardId) :
    k.metricName = baseName scenarioName := by
  obtain ⟨s, hname, hs⟩ := h.total
  obtain rfl := run.dashboards.injective _ _ _ hs hd
  exact hname

theorem codeCount_eq_zero {scenarioName code : String}
    (h : ¬∃ e ∈ errors, e.CountsFor scenarioName ∧ e.code = code) :
    codeCount errors scenarioName code = 0 :=
  List.countP_eq_zero.2 fun e he hcount => h ⟨e, he, of_decide_eq_true hcount⟩

variable (h : run.Shows errors time dsMetrics)

include h

/-- A code has its count. -/
theorem Shows.code {scenarioName d : String} (hd : run.dashboards.dashboardId scenarioName = some d)
    (code : String) :
    (valueAt dsMetrics ⟨d, SCENARIO_ERROR_COUNT, codeName scenarioName code, time⟩).getD 0 =
      codeCount errors scenarioName code := by
  by_cases hcode : ∃ e ∈ errors, e.CountsFor scenarioName ∧ e.code = code
  · obtain ⟨e, he, hscenario, rfl⟩ := hcode
    rw [h.rows (List.ne_nil_of_mem he) _ (codeCount errors scenarioName e.code : ℚ)
      ⟨⟨scenarioName, _, .code _ e he hscenario, rfl, hd⟩, rfl, rfl⟩]
    rfl
  · -- There is no row of it.
    cases hvalue : valueAt dsMetrics
      ⟨d, SCENARIO_ERROR_COUNT, codeName scenarioName code, time⟩ with
    | none => rw [codeCount_eq_zero hcode, Option.getD_none, Nat.cast_zero]
    | some v =>
      rcases h.only _ v rfl hvalue with hrow | hrow
      · rcases hrow.cases hd with ⟨hname, -⟩ | ⟨e, he, hscenario, hname, -⟩
        · exact absurd hname codeName_ne_baseName
        · exact absurd ⟨e, he, hscenario, (codeName_inj.1 hname).symm⟩ hcode
      · exact absurd (hrow.metricName_eq hd) codeName_ne_baseName

/-- A scenario has its total. -/
theorem Shows.total {scenarioName d : String}
    (hd : run.dashboards.dashboardId scenarioName = some d) :
    (valueAt dsMetrics ⟨d, SCENARIO_ERROR_COUNT, baseName scenarioName, time⟩).getD 0 =
      scenarioCount errors scenarioName := by
  by_cases hscenario : errors ≠ [] ∧
      (scenarioName = ALL_AGGREGATED_SCENARIO ∨ ∃ e ∈ errors, e.scenario = scenarioName)
  · rw [h.rows hscenario.1 _ (scenarioCount errors scenarioName : ℚ)
      ⟨⟨scenarioName, _, .total _ hscenario.2, rfl, hd⟩, rfl, rfl⟩]
    rfl
  · have hzero : scenarioCount errors scenarioName = 0 := by
      refine List.countP_eq_zero.2 fun e he hcount => hscenario ⟨List.ne_nil_of_mem he, ?_⟩
      exact (of_decide_eq_true hcount).imp_right fun hs => ⟨e, he, hs⟩
    cases hvalue : valueAt dsMetrics ⟨d, SCENARIO_ERROR_COUNT, baseName scenarioName, time⟩ with
    | none => rw [hzero, Option.getD_none, Nat.cast_zero]
    | some v =>
      rcases h.only _ v rfl hvalue with hrow | hrow
      · rcases hrow.cases hd with ⟨-, hv⟩ | ⟨e, -, -, hname, -⟩
        · exact hv
        · exact absurd hname.symm codeName_ne_baseName
      · rw [hzero, Nat.cast_zero]
        exact hrow.value

omit h in
/-- The counts of the codes of a scenario add up. -/
theorem sum_codeCount (errors : List RequestError) (scenarioName : String) :
    ((((errors.filter fun e => e.CountsFor scenarioName).map RequestError.code).dedup).map
      fun code => codeCount errors scenarioName code).sum = scenarioCount errors scenarioName := by
  have hsum := Aggregate.sum_length_fibers RequestError.code
    (List.nodup_dedup ((errors.filter fun e => e.CountsFor scenarioName).map RequestError.code))
    fun e he => List.mem_dedup.2 (List.mem_map_of_mem he)
  rw [scenarioCount, List.countP_eq_length_filter, ← hsum]
  refine congrArg List.sum (List.map_congr_left fun code _ => ?_)
  rw [codeCount, List.countP_eq_length_filter, List.filter_filter]
  refine congrArg List.length (List.filter_congr fun e _ => ?_)
  by_cases hcode : e.code = code <;> simp [hcode]

/-- The series of the codes of a scenario are those of its errors. -/
theorem Shows.codes_perm {scenarioName d : String}
    (hd : run.dashboards.dashboardId scenarioName = some d) :
    ((dsMetrics.rows.filter fun row => row.1.applicationDashboardId = d ∧
        row.1.panelId = SCENARIO_ERROR_COUNT ∧ row.1.metricName ≠ baseName scenarioName).map
          Prod.fst).Perm
      (((errors.filter fun e => e.CountsFor scenarioName).map RequestError.code).dedup.map
        fun code => ⟨d, SCENARIO_ERROR_COUNT, codeName scenarioName code, time⟩) := by
  refine (List.perm_ext_iff_of_nodup (dsMetrics.nodup.sublist (List.filter_sublist.map _))
    ((List.nodup_dedup _).map fun code code' hcode =>
      codeName_inj.1 (DsMetricKey.mk.inj hcode).2.2.1)).2 fun k => ?_
  simp only [List.mem_map, List.mem_filter, List.mem_dedup, decide_eq_true_eq]
  constructor
  · rintro ⟨row, ⟨hrow, rfl, hpanel, hname⟩, rfl⟩
    rcases h.only _ _ hpanel (mem_rows_valueAt hrow) with hpoint | hpoint
    · rcases hpoint.cases hd with ⟨hbase, -⟩ | ⟨e, he, hscenario, hcode, -⟩
      · exact absurd hbase hname
      · refine ⟨e.code, ⟨e, ⟨he, hscenario⟩, rfl⟩, ?_⟩
        exact DsMetricKey.mk.injEq .. ▸ ⟨rfl, hpanel.symm, hcode.symm, hpoint.time.symm⟩
    · exact absurd (hpoint.metricName_eq hd) hname
  · rintro ⟨_, ⟨e, ⟨he, hscenario⟩, rfl⟩, rfl⟩
    obtain ⟨m, hm, -⟩ := exists_of_valueAt (h.rows (List.ne_nil_of_mem he)
      ⟨d, SCENARIO_ERROR_COUNT, codeName scenarioName e.code, time⟩
      (codeCount errors scenarioName e.code : ℚ)
      ⟨⟨scenarioName, _, .code _ e he hscenario, rfl, hd⟩, rfl, rfl⟩)
    exact ⟨_, ⟨hm, rfl, rfl, codeName_ne_baseName⟩, rfl⟩

/-- They add up to its total. -/
theorem Shows.sum_codes {scenarioName d : String}
    (hd : run.dashboards.dashboardId scenarioName = some d) :
    ((dsMetrics.rows.filter fun row => row.1.applicationDashboardId = d ∧
        row.1.panelId = SCENARIO_ERROR_COUNT ∧ row.1.metricName ≠ baseName scenarioName).map
          fun row => row.2.value).sum = scenarioCount errors scenarioName := by
  have hvalues : (dsMetrics.rows.filter fun row => row.1.applicationDashboardId = d ∧
      row.1.panelId = SCENARIO_ERROR_COUNT ∧ row.1.metricName ≠ baseName scenarioName).map
        (fun row => row.2.value) =
      ((dsMetrics.rows.filter fun row => row.1.applicationDashboardId = d ∧
        row.1.panelId = SCENARIO_ERROR_COUNT ∧ row.1.metricName ≠ baseName scenarioName).map
          Prod.fst).map fun k => (valueAt dsMetrics k).getD 0 := by
    rw [List.map_map]
    refine List.map_congr_left fun row hrow => ?_
    rw [Function.comp_apply, mem_rows_valueAt (List.mem_filter.1 hrow).1, Option.getD_some]
  rw [hvalues, ((h.codes_perm hd).map _).sum_eq, List.map_map, ← sum_codeCount, Nat.cast_list_sum,
    List.map_map]
  exact congrArg List.sum (List.map_congr_left fun code _ => h.code hd code)

/-- The scenarios that have errors have them in their series. -/
theorem Shows.sum_scenarioCounts {name : String → String} {p : RequestError → Bool}
    (hname : ∀ scenarioName d, run.dashboards.dashboardId scenarioName = some d →
      (valueAt dsMetrics ⟨d, SCENARIO_ERROR_COUNT, name scenarioName, time⟩).getD 0 =
        errors.countP fun e => e.CountsFor scenarioName ∧ p e) :
    (run.scenarioCounts dsMetrics time errors name p).sum = errors.countP p := by
  have hall : ∀ e ∈ errors.filter p, e.scenario ∈ (errors.map RequestError.scenario).dedup :=
    fun e he => List.mem_dedup.2 (List.mem_map_of_mem (List.mem_filter.1 he).1)
  have hsum := Aggregate.sum_length_fibers RequestError.scenario (List.nodup_dedup _) hall
  rw [List.countP_eq_length_filter, ← hsum, Nat.cast_list_sum, List.map_map, scenarioCounts]
  refine congrArg List.sum (List.map_congr_left fun s hs => ?_)
  obtain ⟨e, he, rfl⟩ := List.mem_map.1 (List.mem_dedup.1 hs)
  have hcount : ((errors.filter p).filter fun e' => e'.scenario = e.scenario).length =
      errors.countP fun e' => e'.scenario = e.scenario ∧ p e' := by
    rw [List.countP_eq_length_filter, List.filter_filter]
    exact congrArg List.length (List.filter_congr fun e' _ => by simp)
  rw [Function.comp_apply, hcount]
  split
  · rfl
  · rename_i hne
    obtain ⟨d, hd⟩ := Option.isSome_iff_exists.1 (h.dashboards (List.ne_nil_of_mem he) _ _ _
      (.total e.scenario (.inr ⟨e, he, rfl⟩)))
    rw [errorCount, hd, Option.bind_some, hname _ d hd]
    refine congrArg Nat.cast (List.countP_congr fun e' _ => ?_)
    simp [RequestError.CountsFor, hne]

theorem Shows.time_eq {k : DsMetricKey} {v : ℚ} (hpanel : k.panelId = SCENARIO_ERROR_COUNT)
    (hv : valueAt dsMetrics k = some v) : k.time = time := by
  rcases h.only k v hpanel hv with hrow | hrow
  · exact hrow.time
  · exact hrow.time

/-- A series of the roll-up, which has a dashboard if there are errors. -/
theorem Shows.rollup {name : String} {p : RequestError → Bool}
    (hname : ∀ d, run.dashboards.dashboardId ALL_AGGREGATED_SCENARIO = some d →
      (valueAt dsMetrics ⟨d, SCENARIO_ERROR_COUNT, name, time⟩).getD 0 = errors.countP p) :
    run.errorCount dsMetrics time ALL_AGGREGATED_SCENARIO name = errors.countP p := by
  rw [errorCount]
  cases hd : run.dashboards.dashboardId ALL_AGGREGATED_SCENARIO with
  | some d => exact hname d hd
  | none =>
    have hnil : errors = [] := by
      by_contra hne
      have hsome := h.dashboards hne _ _ _ (.total ALL_AGGREGATED_SCENARIO (.inl rfl))
      rw [hd] at hsome
      cases hsome
    rw [hnil]
    rfl

/-- A series over time is of a scenario and a response code, and adds up to their count. -/
theorem Shows.overTime (hgrid : ∀ e ∈ errors, run.bucketOf e ∈ run.grid) {k : DsMetricKey} {v : ℚ}
    (hk : run.OverTimeRow errors k v)
    (hall : ∀ k v, run.OverTimeRow errors k v → valueAt dsMetrics k = some v) :
    (∀ bucketTime ∈ run.grid, (valueAt dsMetrics { k with time := bucketTime }).isSome) ∧
      (run.grid.map fun bucketTime =>
        (valueAt dsMetrics { k with time := bucketTime }).getD 0 * run.bucketSizeSeconds).sum =
      (valueAt dsMetrics { k with panelId := SCENARIO_ERROR_COUNT, time }).getD 0 := by
  obtain ⟨scenarioName, code, hcode, hname, -, hd⟩ := hk.series
  have hvalue : ∀ bucketTime ∈ run.grid, valueAt dsMetrics { k with time := bucketTime } =
      some (run.bucketCount errors scenarioName code bucketTime / (run.bucketSizeSeconds : ℚ)) :=
    fun bucketTime hb => hall _ _ ⟨⟨scenarioName, code, hcode, hname, rfl, hd⟩, hk.panelId, hb⟩
  refine ⟨fun bucketTime hb => Option.isSome_of_eq_some (hvalue bucketTime hb), ?_⟩
  have hsize : (run.bucketSizeSeconds : ℚ) ≠ 0 := Nat.cast_ne_zero.2 run.bucketSize_pos.ne'
  have hcount : (run.grid.map fun bucketTime =>
      (valueAt dsMetrics { k with time := bucketTime }).getD 0 * run.bucketSizeSeconds) =
      run.grid.map fun bucketTime =>
        (run.bucketCount errors scenarioName code bucketTime : ℚ) := by
    refine List.map_congr_left fun bucketTime hb => ?_
    rw [hvalue bucketTime hb, Option.getD_some, div_mul_cancel₀ _ hsize]
  have hsum := congrArg (Nat.cast : ℕ → ℚ) (sum_bucketCount hgrid scenarioName code)
  rw [Nat.cast_list_sum, List.map_map] at hsum
  rw [hcount, hname, h.code hd]
  exact hsum

/-- What the panel of the whole run shows adds up, and the panel over time, if it is
    written, adds up to it. -/
theorem Shows.agree (hgrid : ∀ e ∈ errors, run.bucketOf e ∈ run.grid)
    (hoverTime : ∀ k v, k.panelId = SCENARIO_ERRORS_OVER_TIME → valueAt dsMetrics k = some v →
      run.OverTimeRow errors k v ∧
        ∀ k' v', run.OverTimeRow errors k' v' → valueAt dsMetrics k' = some v') :
    run.PanelsAgree errors time dsMetrics := by
  have hcode : ∀ scenarioName d code, run.dashboards.dashboardId scenarioName = some d →
      (valueAt dsMetrics ⟨d, SCENARIO_ERROR_COUNT, codeName scenarioName code, time⟩).getD 0 =
        errors.countP fun e => e.CountsFor scenarioName ∧ decide (e.code = code) := by
    intro scenarioName d code hd
    rw [h.code hd, codeCount]
    simp
  have htotal : ∀ scenarioName d, run.dashboards.dashboardId scenarioName = some d →
      (valueAt dsMetrics ⟨d, SCENARIO_ERROR_COUNT, baseName scenarioName, time⟩).getD 0 =
        errors.countP fun e => e.CountsFor scenarioName ∧ true := by
    intro scenarioName d hd
    rw [h.total hd, scenarioCount]
    simp
  have hall : ∀ p : RequestError → Bool,
      (errors.countP fun e => e.CountsFor ALL_AGGREGATED_SCENARIO ∧ p e) = errors.countP p := by
    intro p
    exact List.countP_congr fun e _ => by simp [RequestError.CountsFor]
  refine ⟨fun row hrow hpanel => h.time_eq hpanel (mem_rows_valueAt hrow), ?_, ?_, fun code => ?_,
    ?_, fun row hrow hpanel => ?_⟩
  · intro scenarioName code hd
    obtain ⟨d, hd⟩ := Option.isSome_iff_exists.1 hd
    rw [errorCount, hd, Option.bind_some, h.code hd]
  · intro scenarioName d hd
    rw [errorCount, hd, Option.bind_some, h.total hd, h.sum_codes hd]
  · rw [h.sum_scenarioCounts fun scenarioName d hd => hcode scenarioName d code hd]
    exact h.rollup fun d hd => (hcode _ d code hd).trans (congrArg Nat.cast (hall _))
  · rw [h.sum_scenarioCounts htotal]
    exact h.rollup fun d hd => (htotal _ d hd).trans (congrArg Nat.cast (hall _))
  · obtain ⟨hk, hwritten⟩ := hoverTime _ _ hpanel (mem_rows_valueAt hrow)
    exact ⟨hk.time, h.overTime hgrid hk hwritten⟩

end Shows

/-! ## What the statements leave -/

section Statements

variable {metrics : List (DsMetricKey × DsMetric)} {upsert : Bool} {k : DsMetricKey} {v : ℚ}

/-- Either form of the statement leaves the rows that it inserts, and the others as they
    were. -/
theorem valueAt_saveDsMetrics (h : saveDsMetrics metrics upsert dsMetrics = some dsMetrics') :
    valueAt dsMetrics' k = some v ↔ (∃ m, (k, m) ∈ metrics ∧ m.value = v) ∨
      (∀ m, (k, m) ∉ metrics) ∧ valueAt dsMetrics k = some v := by
  cases upsert with
  | true =>
    obtain ⟨new, hnew, rfl⟩ := Option.map_eq_some_iff.1 h
    simp only [← Table.mem_of_ofRows hnew]
    rw [valueAt, Table.get_upsert, valueAt]
    cases new.get k with
    | none => simp
    | some m => cases dsMetrics.get k <;> simp [onConflict]
  | false =>
    have hmem := Table.mem_of_ofRows h k
    have hnodup := Table.ofRows_isSome.1 (Option.isSome_of_eq_some h)
    rw [List.map_append] at hnodup
    rw [valueAt, valueAt, Option.map_eq_some_iff, Option.map_eq_some_iff]
    simp only [hmem, List.mem_append, Table.mem_rows]
    constructor
    · rintro ⟨m, hold | hnew, hv⟩
      · refine .inr ⟨fun m' hm' => ?_, m, hold, hv⟩
        exact (List.nodup_append'.1 hnodup).2.2
          (List.mem_map.2 ⟨(k, m), Table.mem_rows.2 hold, rfl⟩) (List.mem_map.2 ⟨_, hm', rfl⟩)
      · exact .inl ⟨m, hnew, hv⟩
    · rintro (⟨m, hnew, hv⟩ | ⟨-, m, hold, hv⟩)
      · exact ⟨m, .inr hnew, hv⟩
      · exact ⟨m, .inl hold, hv⟩

/-- The statement does not fail if no two of its rows, nor those that are there unless they
    are updated, have the same key. -/
theorem saveDsMetrics_isSome (hnodup : (metrics.map Prod.fst).Nodup)
    (hdisjoint : upsert = false → ∀ k v m, valueAt dsMetrics k = some v → (k, m) ∉ metrics) :
    (saveDsMetrics metrics upsert dsMetrics).isSome := by
  cases upsert with
  | true =>
    rw [saveDsMetrics, if_pos rfl, Option.isSome_map]
    exact Table.ofRows_isSome.2 hnodup
  | false =>
    refine Table.ofRows_isSome.2 ?_
    rw [List.map_append]
    refine dsMetrics.nodup.append hnodup fun k hold hnew => ?_
    obtain ⟨row, hrow, rfl⟩ := List.mem_map.1 hold
    obtain ⟨row', hrow', hk⟩ := List.mem_map.1 hnew
    exact hdisjoint rfl row.1 _ row'.2 (mem_rows_valueAt hrow) (hk ▸ hrow')

/-- The statement of the panel over time leaves its rows. -/
theorem valueAt_processOverTime
    (h : run.processOverTime errors upsert dsMetrics = some dsMetrics') :
    valueAt dsMetrics' k = some v ↔ run.OverTimeRow (run.errorsUntil run.endTime errors) k v ∨
      (∀ v', ¬run.OverTimeRow (run.errorsUntil run.endTime errors) k v') ∧
        valueAt dsMetrics k = some v := by
  have hsave : saveDsMetrics ((run.overTimeRows errors).filterMap
      (dsMetric run.times run.dashboards)) upsert dsMetrics = some dsMetrics' := h
  rw [valueAt_saveDsMetrics hsave, mem_overTimeRows]
  refine or_congr_right (and_congr_left fun _ => ?_)
  simp only [← mem_overTimeRows]
  constructor
  · rintro hnone v' ⟨m, hm, -⟩
    exact hnone m hm
  · intro hnone m hm
    exact hnone m.value ⟨m, hm, rfl⟩

theorem valueAt_deleteInterim : valueAt (run.deleteInterim dsMetrics) k = some v ↔
    valueAt dsMetrics k = some v ∧
      (k.panelId ∈ SCENARIO_PANEL_IDS → k.time = run.scenarioMetricTime true) := by
  rw [valueAt, deleteInterim, Table.get_filter, valueAt]
  cases dsMetrics.get k with
  | none => simp
  | some m =>
    by_cases hpanel : k.panelId ∈ SCENARIO_PANEL_IDS <;> simp [Option.filter, hpanel, and_comm]

end Statements

/-! ## What is kept -/

/-- More errors have a point where fewer have. -/
theorem ErrorCountRow.mono {errors' : List RequestError} {k : DsMetricKey} {v : ℚ}
    (h : run.ErrorCountRow errors time k v) (hsubset : errors ⊆ errors') :
    ∃ v', run.ErrorCountRow errors' time k v' := by
  obtain ⟨s, n, hpoint, rfl, hd⟩ := h.point
  obtain ⟨n', hpoint'⟩ := hpoint.mono hsubset
  exact ⟨n', ⟨s, n', hpoint', rfl, hd⟩, h.panelId, h.time⟩

variable (run) in
/-- A row of the panel of the whole run that some errors will write anew: at the key of one
    of their points, or one that says that a scenario has none. -/
def Covered (errors : List RequestError) (k : DsMetricKey) (v : ℚ) : Prop :=
  (∃ v', run.ErrorCountRow errors k.time k v') ∨ run.NoErrorRow k.time k v

variable (run) in
/-- The metrics of a run are of its errors, whatever ticks and passes have written. -/
def Sound (errors : List RequestError) (dsMetrics : Table DsMetricKey DsMetric) : Prop :=
  ∀ k v, valueAt dsMetrics k = some v →
    k.panelId = SCENARIO_ERROR_COUNT ∧ run.Covered errors k v ∨ run.OverTimeRow errors k v

section Statements

variable {completed : Bool} {filterToTime : ℤ} {requestScenarios : List String}
  {metrics : List (DsMetricKey × DsMetric)} {upsert : Bool}

theorem sound_empty : run.Sound errors Table.empty := fun _ _ h => by cases h

/-- The rows of a tick or a pass are of the errors. -/
theorem Sound.saveDsMetrics (h : run.Sound errors dsMetrics)
    (hprocess : run.process completed filterToTime requestScenarios errors = some metrics)
    (hsave : ErrorRun.saveDsMetrics metrics upsert dsMetrics = some dsMetrics') :
    run.Sound errors dsMetrics' := by
  intro k v hv
  rcases (valueAt_saveDsMetrics hsave).1 hv with ⟨m, hm, rfl⟩ | ⟨-, hold⟩
  · rcases cases_of_mem_process hprocess hm with hrow | hrow
    · obtain ⟨v', hv'⟩ := hrow.mono (List.filter_subset_self _)
      exact .inl ⟨hrow.panelId, .inl ⟨v', hrow.time.symm ▸ hv'⟩⟩
    · exact .inl ⟨hrow.panelId, .inr (hrow.time.symm ▸ hrow)⟩
  · exact h k v hold

theorem Sound.deleteInterim (h : run.Sound errors dsMetrics) :
    run.Sound errors (run.deleteInterim dsMetrics) :=
  fun k v hv => h k v (valueAt_deleteInterim.1 hv).1

theorem errorsUntil_endTime
    (hinside : ∀ e ∈ errors, run.startTime ≤ e.time ∧ e.time ≤ run.endTime) :
    run.errorsUntil run.endTime errors = errors :=
  List.filter_eq_self.2 fun e he => decide_eq_true (hinside e he)

theorem Sound.processOverTime (h : run.Sound errors dsMetrics)
    (hinside : ∀ e ∈ errors, run.startTime ≤ e.time ∧ e.time ≤ run.endTime)
    (hwrite : run.processOverTime errors upsert dsMetrics = some dsMetrics') :
    run.Sound errors dsMetrics' := by
  intro k v hv
  rcases (valueAt_processOverTime hwrite).1 hv with hrow | ⟨-, hold⟩
  · rw [errorsUntil_endTime hinside] at hrow
    exact .inr hrow
  · exact h k v hold

/-- After the errors of a window are written, the panel of the whole run shows them, but
    for points of other times. -/
theorem shows_of_saveDsMetrics
    (hprocess : run.process completed filterToTime requestScenarios errors = some metrics)
    (hsave : saveDsMetrics metrics upsert dsMetrics = some dsMetrics')
    (hcovered : ∀ k v, k.panelId = SCENARIO_ERROR_COUNT →
      k.time = run.scenarioMetricTime completed → valueAt dsMetrics k = some v →
      run.Covered (run.errorsUntil filterToTime errors) k v)
    {shown : Table DsMetricKey DsMetric}
    (hshown : ∀ k v, k.panelId = SCENARIO_ERROR_COUNT → (valueAt shown k = some v ↔
      valueAt dsMetrics' k = some v ∧ k.time = run.scenarioMetricTime completed)) :
    run.Shows (run.errorsUntil filterToTime errors) (run.scenarioMetricTime completed) shown := by
  refine ⟨fun hne s name n hpoint => ?_, fun hne k v hrow => ?_, fun k v hpanel hv => ?_⟩
  · obtain ⟨hall, -⟩ := process_eq_some hprocess
    rw [pointsOf, if_neg (mt errorsData_eq_nil.1 hne)] at hall
    exact hall ((s, name), n) (mem_errorPoints.2 hpoint)
  · have hmem := (mem_process hprocess hne).2 hrow
    exact (hshown k v hrow.panelId).2 ⟨(valueAt_saveDsMetrics hsave).2 (.inl hmem), hrow.time⟩
  · obtain ⟨hv', htime⟩ := (hshown k v hpanel).1 hv
    rcases (valueAt_saveDsMetrics hsave).1 hv' with ⟨m, hm, rfl⟩ | ⟨hnone, hold⟩
    · exact cases_of_mem_process hprocess hm
    · -- A row that is not written anew says that there are no errors.
      rcases hcovered k v hpanel htime hold with ⟨v', hrow⟩ | hrow
      · rw [htime] at hrow
        by_cases hnil : run.errorsUntil filterToTime errors = []
        · obtain ⟨d, m, hd, hm⟩ := exists_rollup hprocess hnil
          obtain ⟨s, n, hpoint, -, hs⟩ := hrow.point
          rw [hnil] at hpoint
          obtain ⟨rfl, hname⟩ := hpoint.of_nil
          obtain rfl : d = k.applicationDashboardId := Option.some.inj (hd.symm.trans hs)
          rw [← hname, ← hpanel, ← htime] at hm
          exact absurd hm (hnone m)
        · obtain ⟨m, hm, -⟩ := (mem_process hprocess hnil).2 hrow
          exact absurd hm (hnone m)
      · exact .inr (htime ▸ hrow)

/-- Statements that keep a property leave it, wherever they stop. -/
theorem execute_keeps {P : Table DsMetricKey DsMetric → Prop}
    {statements : List (Table DsMetricKey DsMetric → Option (Table DsMetricKey DsMetric))}
    (hkeep : ∀ statement ∈ statements, ∀ t t', P t → statement t = some t' → P t')
    {dsMetrics : Table DsMetricKey DsMetric} (h : P dsMetrics) :
    P (execute statements dsMetrics).1 := by
  induction statements generalizing dsMetrics with
  | nil => exact h
  | cons statement statements ih =>
    rw [execute]
    split
    · rename_i dsMetrics' hstatement
      have hhead := hkeep statement List.mem_cons_self _ _ h hstatement
      exact ih (fun st hst => hkeep st (List.mem_cons_of_mem _ hst)) hhead
    · exact h

/-- Every statement of a plan keeps the metrics sound. -/
theorem sound_statements {s : ErrorState} {plan : Plan}
    (hinside : ∀ e ∈ s.errors, run.startTime ≤ e.time ∧ e.time ≤ run.endTime) :
    ∀ statement ∈ run.statements s requestScenarios plan, ∀ t t', run.Sound s.errors t →
      statement t = some t' → run.Sound s.errors t' := by
  cases plan with
  | skip => exact fun statement h => absurd h List.not_mem_nil
  | tail =>
    simp only [statements]
    cases hprocess : run.process true run.endTime requestScenarios s.errors with
    | none => simp
    | some metrics =>
      simp only [List.mem_cons, List.not_mem_nil, or_false]
      rintro statement (rfl | rfl | rfl) t t' h hstatement
      · exact h.processOverTime hinside hstatement
      · exact h.saveDsMetrics hprocess hstatement
      · obtain rfl := Option.some.inj hstatement
        exact h.deleteInterim
  | rebuild =>
    simp only [statements]
    split
    · exact fun statement h => absurd h List.not_mem_nil
    · cases hprocess : run.process true run.endTime requestScenarios s.errors with
      | none =>
        simp only [List.mem_cons, List.not_mem_nil, or_false]
        rintro statement (rfl | rfl) t t' h hstatement
        · obtain rfl := Option.some.inj hstatement
          exact sound_empty
        · cases hstatement
      | some metrics =>
        simp only [List.mem_cons, List.not_mem_nil, or_false]
        rintro statement (rfl | rfl | rfl) t t' h hstatement
        · obtain rfl := Option.some.inj hstatement
          exact sound_empty
        · exact h.processOverTime hinside hstatement
        · exact h.saveDsMetrics hprocess hstatement

variable (run) in
/-- The metrics are final: the panel of the whole run shows all errors, and all rows of the
    panel over time are there. -/
structure Final (errors : List RequestError) (dsMetrics : Table DsMetricKey DsMetric) : Prop where
  /-- The panel of the whole run. -/
  shows : run.Shows errors (run.scenarioMetricTime true) dsMetrics
  /-- The panel over time. -/
  overTime : ∀ k v, run.OverTimeRow errors k v → valueAt dsMetrics k = some v

theorem overTimeRow_panelId_ne {k : DsMetricKey} {v : ℚ} (h : run.OverTimeRow errors k v) :
    k.panelId ≠ SCENARIO_ERROR_COUNT := by
  rw [h.panelId]
  decide

/-- The rows of the whole run leave the panel over time as it is. -/
theorem valueAt_overTime {k : DsMetricKey} {v : ℚ}
    (hprocess : run.process completed filterToTime requestScenarios errors = some metrics)
    (hsave : saveDsMetrics metrics upsert dsMetrics = some dsMetrics')
    (hpanel : k.panelId ≠ SCENARIO_ERROR_COUNT) :
    valueAt dsMetrics' k = some v ↔ valueAt dsMetrics k = some v := by
  have hnone : ∀ m, (k, m) ∉ metrics := by
    intro m hm
    rcases cases_of_mem_process hprocess hm with hrow | hrow
    · exact hpanel hrow.panelId
    · exact hpanel hrow.panelId
  rw [valueAt_saveDsMetrics hsave]
  constructor
  · rintro (⟨m, hm, -⟩ | ⟨-, hold⟩)
    · exact absurd hm (hnone m)
    · exact hold
  · exact fun hold => .inr ⟨hnone, hold⟩

/-- A statement that succeeds goes on with the next. -/
theorem execute_cons_eq_true
    {statement : Table DsMetricKey DsMetric → Option (Table DsMetricKey DsMetric)}
    {statements : List (Table DsMetricKey DsMetric → Option (Table DsMetricKey DsMetric))}
    (h : execute (statement :: statements) dsMetrics = (dsMetrics', true)) :
    ∃ next, statement dsMetrics = some next ∧ execute statements next = (dsMetrics', true) := by
  rw [execute] at h
  split at h
  · rename_i next hnext
    exact ⟨next, hnext, h⟩
  · cases h

/-- A plan that succeeds makes the metrics final, unless it does nothing. -/
theorem final_of_execute {s : ErrorState} {plan : Plan}
    (hinside : ∀ e ∈ s.errors, run.startTime ≤ e.time ∧ e.time ≤ run.endTime)
    (hsound : run.Sound s.errors s.dsMetrics)
    (hstatements : run.statements s requestScenarios plan ≠ [])
    (h : execute (run.statements s requestScenarios plan) s.dsMetrics = (dsMetrics', true)) :
    run.Final s.errors dsMetrics' := by
  have huntil := errorsUntil_endTime hinside
  cases plan with
  | skip => exact absurd rfl hstatements
  | tail =>
    simp only [statements] at h
    cases hprocess : run.process true run.endTime requestScenarios s.errors with
    | none =>
      rw [hprocess] at h
      cases h
    | some metrics =>
      rw [hprocess] at h
      obtain ⟨t₁, h₁, h⟩ := execute_cons_eq_true h
      obtain ⟨t₂, h₂, h⟩ := execute_cons_eq_true h
      obtain ⟨t₃, h₃, h⟩ := execute_cons_eq_true h
      obtain rfl := Option.some.inj h₃
      obtain rfl : run.deleteInterim t₂ = dsMetrics' := congrArg Prod.fst h
      have hsound₁ := hsound.processOverTime hinside h₁
      have hcovered : ∀ k v, k.panelId = SCENARIO_ERROR_COUNT →
          k.time = run.scenarioMetricTime true → valueAt t₁ k = some v →
          run.Covered (run.errorsUntil run.endTime s.errors) k v := by
        intro k v hpanel _ hv
        rcases hsound₁ k v hv with ⟨-, hrow⟩ | hrow
        · rwa [huntil]
        · exact absurd hpanel (overTimeRow_panelId_ne hrow)
      have hshown : ∀ k v, k.panelId = SCENARIO_ERROR_COUNT →
          (valueAt (run.deleteInterim t₂) k = some v ↔
            valueAt t₂ k = some v ∧ k.time = run.scenarioMetricTime true) := by
        intro k v hpanel
        have hscenario : k.panelId ∈ SCENARIO_PANEL_IDS := hpanel ▸ List.mem_cons_self
        rw [valueAt_deleteInterim]
        exact and_congr_right fun _ => ⟨fun htime => htime hscenario, fun htime _ => htime⟩
      refine ⟨huntil ▸ shows_of_saveDsMetrics hprocess h₂ hcovered hshown, fun k v hrow => ?_⟩
      -- The panel over time is written first, and is not one of those with one point.
      have hwritten : valueAt t₁ k = some v :=
        (valueAt_processOverTime h₁).2 (.inl (huntil.symm ▸ hrow))
      have hkept := (valueAt_overTime hprocess h₂ (overTimeRow_panelId_ne hrow)).2 hwritten
      refine valueAt_deleteInterim.2 ⟨hkept, fun hscenario => ?_⟩
      rw [hrow.panelId] at hscenario
      exact absurd hscenario (by decide)
  | rebuild =>
    simp only [statements] at h hstatements
    split at h
    · rename_i hraw
      exact absurd (if_pos hraw) hstatements
    · cases hprocess : run.process true run.endTime requestScenarios s.errors with
      | none =>
        rw [hprocess] at h
        cases h
      | some metrics =>
        rw [hprocess] at h
        obtain ⟨t₁, h₁, h⟩ := execute_cons_eq_true h
        obtain ⟨t₂, h₂, h⟩ := execute_cons_eq_true h
        obtain ⟨t₃, h₃, h⟩ := execute_cons_eq_true h
        have hempty : t₁ = Table.empty := (Option.some.inj h₁).symm
        have hdone : (t₃, true) = (dsMetrics', true) := h
        obtain rfl : t₃ = dsMetrics' := congrArg Prod.fst hdone
        -- Before the rows of the whole run, there are those over time only.
        have honly : ∀ k v, valueAt t₂ k = some v → run.OverTimeRow s.errors k v := by
          intro k v hv
          rcases (valueAt_processOverTime h₂).1 hv with hrow | ⟨-, hold⟩
          · exact huntil ▸ hrow
          · rw [hempty] at hold
            cases hold
        have hcovered : ∀ k v, k.panelId = SCENARIO_ERROR_COUNT →
            k.time = run.scenarioMetricTime true → valueAt t₂ k = some v →
            run.Covered (run.errorsUntil run.endTime s.errors) k v :=
          fun k v hpanel _ hv => absurd hpanel (overTimeRow_panelId_ne (honly k v hv))
        have hshown : ∀ k v, k.panelId = SCENARIO_ERROR_COUNT → (valueAt t₃ k = some v ↔
            valueAt t₃ k = some v ∧ k.time = run.scenarioMetricTime true) := by
          intro k v hpanel
          refine ⟨fun hv => ⟨hv, ?_⟩, And.left⟩
          rcases (valueAt_saveDsMetrics h₃).1 hv with ⟨m, hm, -⟩ | ⟨-, hold⟩
          · rcases cases_of_mem_process hprocess hm with hrow | hrow
            · exact hrow.time
            · exact hrow.time
          · exact absurd hpanel (overTimeRow_panelId_ne (honly k v hold))
        refine ⟨huntil ▸ shows_of_saveDsMetrics hprocess h₃ hcovered hshown, fun k v hrow => ?_⟩
        have hwritten : valueAt t₂ k = some v :=
          (valueAt_processOverTime h₂).2 (.inl (huntil.symm ▸ hrow))
        exact (valueAt_overTime hprocess h₃ (overTimeRow_panelId_ne hrow)).2 hwritten

end Statements

/-! ## Runs -/

variable (run) in
/-- What ticks and passes keep. -/
structure Inv (s : ErrorState) : Prop where
  /-- The errors are of the run. -/
  inside : ∀ e ∈ s.errors, run.startTime ≤ e.time ∧ e.time ≤ run.endTime
  /-- The metrics are of the errors. -/
  sound : run.Sound s.errors s.dsMetrics
  /-- The panel over time is written by passes, where there are raw rows. -/
  overTime : ∀ k v, k.panelId ≠ SCENARIO_ERROR_COUNT → valueAt s.dsMetrics k = some v →
    s.analysed = true ∧ run.hasRawRows = true
  /-- Where there are none, the panel of the whole run shows what the last tick has read. -/
  interim : run.hasRawRows = false → ∃ shown, shown.Sublist (s.errors.filter (·.time ≤ s.clock)) ∧
    run.Shows shown run.startTime s.dsMetrics
  /-- What is final is complete. -/
  final : s.isComplete = true → s.analysed = true ∧ run.Final s.errors s.dsMetrics
  /-- A completed run is analysed. -/
  completed : s.analysed = true → s.completed = true

theorem inv_init : run.Inv run.init where
  inside _ he := absurd he List.not_mem_nil
  sound := sound_empty
  overTime _ _ _ h := by cases h
  interim _ := ⟨[], List.nil_sublist _, fun h => absurd rfl h, fun h => absurd rfl h,
    fun _ _ _ h => by cases h⟩
  final h := by cases h
  completed h := by cases h

theorem inv_arrive {s : ErrorState} {e : RequestError} (h : run.Inv s)
    (hok : run.Admissible s (.arrive e)) : run.Inv { s with errors := s.errors ++ [e] } := by
  obtain ⟨hstart, hend, hanalysed⟩ := hok
  refine { h with
    inside := fun e' he' => ?_
    sound := fun k v hv => ?_
    interim := fun hraw => ?_
    final := fun hcomplete => ?_ }
  · rcases List.mem_append.1 he' with he' | he'
    · exact h.inside e' he'
    · obtain rfl := List.mem_singleton.1 he'
      exact ⟨hstart, hend⟩
  · rcases h.sound k v hv with ⟨hpanel, hrow | hrow⟩ | hrow
    · obtain ⟨v', hv'⟩ := hrow
      exact .inl ⟨hpanel, .inl (hv'.mono (List.subset_append_left _ _))⟩
    · exact .inl ⟨hpanel, .inr hrow⟩
    · have hwritten := (h.overTime k v (overTimeRow_panelId_ne hrow) hv).1
      rw [hanalysed] at hwritten
      cases hwritten
  · obtain ⟨shown, hsublist, hshows⟩ := h.interim hraw
    refine ⟨shown, hsublist.trans ?_, hshows⟩
    rw [List.filter_append]
    exact List.sublist_append_left _ _
  · have hwritten := (h.final hcomplete).1
    rw [hanalysed] at hwritten
    cases hwritten

/-- What a tick does. -/
theorem tick_cases (s : ErrorState) (toTime : ℤ) (requestScenarios : List String) :
    s.completed = true ∧ run.tick s toTime requestScenarios = s ∨
      s.completed = false ∧ (run.tick s toTime requestScenarios = { s with clock := toTime } ∨
        ∃ metrics dsMetrics, run.process false toTime requestScenarios s.errors = some metrics ∧
          saveDsMetrics metrics true s.dsMetrics = some dsMetrics ∧
          run.tick s toTime requestScenarios = { s with clock := toTime, dsMetrics }) := by
  rw [tick]
  split
  · rename_i hcompleted
    exact .inl ⟨hcompleted, rfl⟩
  · rename_i hcompleted
    refine .inr ⟨eq_false_of_ne_true hcompleted, ?_⟩
    dsimp only
    cases hprocess : run.process false toTime requestScenarios s.errors with
    | none => exact .inl rfl
    | some metrics =>
      cases hsave : saveDsMetrics metrics true s.dsMetrics with
      | none => exact .inl (by simp only [hsave])
      | some dsMetrics => exact .inr ⟨metrics, dsMetrics, rfl, hsave, by simp only [hsave]⟩

theorem inv_tick {s : ErrorState} {toTime : ℤ} {requestScenarios : List String} (h : run.Inv s)
    (hclock : s.clock ≤ toTime) : run.Inv (run.tick s toTime requestScenarios) := by
  have hsublist : (s.errors.filter (·.time ≤ s.clock)).Sublist
      (s.errors.filter (·.time ≤ toTime)) :=
    List.monotone_filter_right _ fun e he =>
      decide_eq_true ((of_decide_eq_true he).trans hclock)
  rcases tick_cases s toTime requestScenarios with ⟨-, htick⟩ | ⟨hcompleted, htick | htick⟩
  · rw [htick]
    exact h
  · rw [htick]
    refine { h with interim := fun hraw => ?_ }
    obtain ⟨shown, hshown, hshows⟩ := h.interim hraw
    exact ⟨shown, hshown.trans hsublist, hshows⟩
  · obtain ⟨metrics, dsMetrics, hprocess, hsave, htick⟩ := htick
    have hanalysed : s.analysed ≠ true := fun ha => by
      rw [h.completed ha] at hcompleted
      cases hcompleted
    rw [htick]
    refine { h with
      sound := h.sound.saveDsMetrics hprocess hsave
      overTime := fun k v hpanel hv =>
        h.overTime k v hpanel ((valueAt_overTime hprocess hsave hpanel).1 hv)
      interim := fun hraw => ?_
      final := fun hcomplete => absurd (h.final hcomplete).1 hanalysed }
    obtain ⟨shown, hshown, hshows⟩ := h.interim hraw
    have hread : s.errors.filter (·.time ≤ toTime) = run.errorsUntil toTime s.errors :=
      List.filter_congr fun e he => by simp [(h.inside e he).1]
    have hsubset : shown ⊆ run.errorsUntil toTime s.errors :=
      hread ▸ (hshown.trans hsublist).subset
    -- What the last tick wrote is written again, at the same time.
    have hcovered : ∀ k v, k.panelId = SCENARIO_ERROR_COUNT →
        k.time = run.scenarioMetricTime false → valueAt s.dsMetrics k = some v →
        run.Covered (run.errorsUntil toTime s.errors) k v := by
      intro k v hpanel htime hv
      rcases hshows.only k v hpanel hv with hrow | hrow
      · exact .inl (htime ▸ hrow.mono hsubset)
      · exact .inr (htime ▸ hrow)
    have hshown' : ∀ k v, k.panelId = SCENARIO_ERROR_COUNT → (valueAt dsMetrics k = some v ↔
        valueAt dsMetrics k = some v ∧ k.time = run.scenarioMetricTime false) := by
      intro k v hpanel
      refine ⟨fun hv => ⟨hv, ?_⟩, And.left⟩
      rcases (valueAt_saveDsMetrics hsave).1 hv with ⟨m, hm, -⟩ | ⟨-, hold⟩
      · rcases cases_of_mem_process hprocess hm with hrow | hrow
        · exact hrow.time
        · exact hrow.time
      · exact hshows.time_eq hpanel hold
    exact ⟨_, hread ▸ List.Sublist.refl _, shows_of_saveDsMetrics hprocess hsave hcovered hshown'⟩

theorem inv_complete {s : ErrorState} (h : run.Inv s) : run.Inv { s with completed := true } :=
  { h with completed := fun _ => rfl }

/-- Where there are no raw rows, a pass has nothing to do. -/
theorem statements_eq_nil {s : ErrorState} {plan : Plan} {requestScenarios : List String}
    (hraw : run.hasRawRows = false) (hpossible : run.possible s plan = true) :
    run.statements s requestScenarios plan = [] := by
  cases plan with
  | skip => rfl
  | tail => simp [possible, hraw] at hpossible
  | rebuild => simp [statements, hraw]

/-- What a pass does. -/
theorem pass_cases (s : ErrorState) (plan : Plan) (requestScenarios : List String)
    (stop : Option ℕ) (certify : Bool) : ∃ n dsMetrics ok,
    run.pass s plan requestScenarios stop certify =
      ({ s with
          dsMetrics
          analysed := true
          isComplete := if (run.statements s requestScenarios plan).isEmpty then s.isComplete
            else ok && certify }, ok) ∧
      dsMetrics = (execute ((run.statements s requestScenarios plan).take n) s.dsMetrics).1 ∧
      (ok = true →
        execute (run.statements s requestScenarios plan) s.dsMetrics = (dsMetrics, true)) := by
  cases stop with
  | none =>
    refine ⟨(run.statements s requestScenarios plan).length, _, _, rfl, ?_, fun hok => ?_⟩
    · rw [List.take_length]
    · exact Prod.ext rfl hok
  | some n => exact ⟨n, _, _, rfl, rfl, fun hstop => absurd hstop Bool.false_ne_true⟩

theorem inv_pass {s : ErrorState} {plan : Plan} {requestScenarios : List String}
    {stop : Option ℕ} {certify : Bool} (h : run.Inv s) (hcompleted : s.completed = true)
    (hpossible : run.possible s plan = true) :
    run.Inv (run.pass s plan requestScenarios stop certify).1 := by
  obtain ⟨n, dsMetrics, ok, hpass, hdsMetrics, hok⟩ :=
    run.pass_cases s plan requestScenarios stop certify
  have hnothing : run.statements s requestScenarios plan = [] → dsMetrics = s.dsMetrics := by
    intro hnil
    rw [hdsMetrics, hnil, List.take_nil]
    rfl
  rw [hpass]
  refine { h with
    sound := ?_
    overTime := fun k v hpanel hv => ⟨rfl, ?_⟩
    interim := fun hraw => ?_
    final := fun hcomplete => ⟨rfl, ?_⟩
    completed := fun _ => hcompleted }
  · rw [hdsMetrics]
    exact execute_keeps (fun st hst => sound_statements h.inside st (List.mem_of_mem_take hst))
      h.sound
  · by_contra hraw
    have hnil : run.statements s requestScenarios plan = [] :=
      statements_eq_nil (eq_false_of_ne_true hraw) hpossible
    exact hraw (h.overTime k v hpanel (hnothing hnil ▸ hv)).2
  · obtain rfl := hnothing (statements_eq_nil hraw hpossible)
    exact h.interim hraw
  · by_cases hnil : run.statements s requestScenarios plan = []
    · obtain rfl := hnothing hnil
      rw [hnil] at hcomplete
      exact (h.final hcomplete).2
    · have hdone : (ok && certify) = true := by
        rwa [if_neg (by simpa using hnil)] at hcomplete
      have hfinal : run.Final s.errors dsMetrics :=
        final_of_execute h.inside h.sound hnil (hok (Bool.and_eq_true_iff.1 hdone).1)
      exact hfinal

theorem inv_step {s s' : ErrorState} {e : Event} (h : run.Inv s) (hok : run.Admissible s e)
    (hstep : run.step s e = some s') : run.Inv s' := by
  cases e with
  | arrive e =>
    cases hstep
    exact inv_arrive h hok
  | tick toTime requestScenarios =>
    simp only [step] at hstep
    split at hstep
    · rename_i hclock
      cases hstep
      exact inv_tick h hclock
    · cases hstep
  | complete =>
    cases hstep
    exact inv_complete h
  | analyse plan requestScenarios stop certify =>
    simp only [step] at hstep
    split at hstep
    · rename_i hpossible
      obtain ⟨hcompleted, hplan⟩ := Bool.and_eq_true_iff.1 hpossible
      cases hstep
      exact inv_pass h hcompleted hplan
    · cases hstep

/-- What ticks and passes keep holds along every run. -/
theorem run_inv {es : List Event} {s : ErrorState}
    (h : Run run.step run.Admissible run.init es s) : run.Inv s :=
  h.state_invariant inv_init fun _ _ _ => inv_step

/-- A pass that succeeds makes the metrics of a run with raw rows final. -/
theorem final_of_pass {s s' : ErrorState} {plan : Plan} {requestScenarios : List String}
    {certify : Bool} (h : run.Inv s) (hraw : run.hasRawRows = true)
    (hpossible : run.possible s plan = true)
    (hpass : run.pass s plan requestScenarios none certify = (s', true)) :
    run.Final s.errors s'.dsMetrics := by
  obtain ⟨n, dsMetrics, ok, hcases, hdsMetrics, hok⟩ :=
    run.pass_cases s plan requestScenarios none certify
  rw [hcases] at hpass
  obtain ⟨rfl, rfl⟩ := Prod.mk.inj hpass
  by_cases hnil : run.statements s requestScenarios plan = []
  · -- Only a run that is final is skipped.
    have hskip : plan = .skip := by
      cases plan with
      | skip => rfl
      | tail =>
        simp only [statements] at hnil
        split at hnil <;> cases hnil
      | rebuild =>
        simp only [statements, hraw, Bool.not_true, Bool.false_eq_true, if_false] at hnil
        split at hnil <;> cases hnil
    subst hskip
    rw [hnil, List.take_nil] at hdsMetrics
    obtain rfl : dsMetrics = s.dsMetrics := hdsMetrics
    exact (h.final hpossible).2
  · exact final_of_execute h.inside h.sound hnil (hok rfl)

/-- After any run, whatever its ticks and earlier passes did, a pass that succeeds leaves
    panels that agree: on all errors of the run, if it has raw rows, else on those that
    the last tick has read. No statement of either panel inserts two rows of one key. -/
theorem run_panelsAgree {es : List Event} {s s' : ErrorState} {plan : Plan}
    {requestScenarios : List String} {certify : Bool}
    (h : Run run.step run.Admissible run.init es s) (hcompleted : s.completed = true)
    (hpossible : run.possible s plan = true)
    (hpass : run.pass s plan requestScenarios none certify = (s', true)) :
    (∃ shown time, shown.Sublist s.errors ∧
      (run.hasRawRows = true → shown = s.errors ∧ time = run.scenarioMetricTime true) ∧
      run.PanelsAgree shown time s'.dsMetrics) ∧
    (((run.overTimeRows s.errors).filterMap (dsMetric run.times run.dashboards)).map
      Prod.fst).Nodup ∧
    ∀ completed filterToTime rows,
      run.process completed filterToTime requestScenarios s.errors = some rows →
        (rows.map Prod.fst).Nodup := by
  have hinv := run_inv h
  have hgrid : ∀ e ∈ s.errors, run.bucketOf e ∈ run.grid := fun e he =>
    bucketOf_mem_grid (errorsUntil_endTime hinv.inside ▸ he)
  refine ⟨?_, nodup_overTimeRows s.errors, fun _ _ _ => nodup_process⟩
  obtain ⟨n, dsMetrics, ok, hcases, hdsMetrics, hok⟩ :=
    run.pass_cases s plan requestScenarios none certify
  have hinv' : run.Inv s' := by
    have hkept := @inv_pass run s plan requestScenarios none certify hinv hcompleted hpossible
    rwa [hpass] at hkept
  have herrors : s'.errors = s.errors := by
    rw [hcases] at hpass
    rw [← (Prod.mk.inj hpass).1]
  cases hraw : run.hasRawRows with
  | true =>
    have hfinal := final_of_pass hinv hraw hpossible hpass
    refine ⟨s.errors, _, List.Sublist.refl _, fun _ => ⟨rfl, rfl⟩,
      hfinal.shows.agree hgrid fun k v hpanel hv => ⟨?_, hfinal.overTime⟩⟩
    rcases hinv'.sound k v hv with ⟨hwhole, -⟩ | hrow
    · rw [hpanel] at hwhole
      exact absurd hwhole (by decide)
    · rwa [herrors] at hrow
  | false =>
    obtain ⟨shown, hshown, hshows⟩ := hinv'.interim hraw
    have hsublist : shown.Sublist s.errors :=
      herrors ▸ hshown.trans List.filter_sublist
    refine ⟨shown, run.startTime, hsublist, fun h => absurd h Bool.false_ne_true,
      hshows.agree (fun e he => hgrid e (hsublist.subset he)) fun k v hpanel hv => ?_⟩
    have hwritten := (hinv'.overTime k v (by rw [hpanel]; decide) hv).2
    rw [hraw] at hwritten
    cases hwritten

instance (s : ErrorState) (e : Event) : Decidable (run.Admissible s e) :=
  match e with
  | .arrive e => inferInstanceAs (Decidable (run.startTime ≤ e.time ∧ e.time ≤ run.endTime ∧
      s.analysed = false))
  | .tick _ _ => inferInstanceAs (Decidable True)
  | .complete => inferInstanceAs (Decidable True)
  | .analyse _ _ _ _ => inferInstanceAs (Decidable True)

/-! ## A run -/

/-- A run of two minutes in buckets of one. -/
def twoMinutes : ErrorRun where
  startTime := 0
  endTime := 120000
  rampUpTime := 0
  rampDownTime := 0
  dashboards := allDashboards
  bucketSizeSeconds := 60
  bucketSize_pos := by decide
  hasRawRows := true

/-- Errors of two scenarios, one of them without a code, a tick between them, and an
    analysis that stops half-way. -/
def twoErrors : List Event :=
  [.arrive ⟨30000, none, some "500"⟩, .tick 60000 [], .arrive ⟨90000, some "checkout", some ""⟩,
   .complete, .analyse .tail [] (some 2) true]

theorem run_panelsAgree_twoErrors : ∃ s s', Run twoMinutes.step twoMinutes.Admissible
    twoMinutes.init twoErrors s ∧ twoMinutes.pass s .tail [] none true = (s', true) ∧
    ∃ shown time, shown.Sublist s.errors ∧
      (twoMinutes.hasRawRows = true →
        shown = s.errors ∧ time = twoMinutes.scenarioMetricTime true) ∧
      twoMinutes.PanelsAgree shown time s'.dsMetrics := by
  have htest : (twoErrors.foldlM (Run.checked twoMinutes.step twoMinutes.Admissible)
      twoMinutes.init).any (fun s => s.completed && twoMinutes.possible s .tail &&
        (twoMinutes.pass s .tail [] none true).2) = true := by
    decide +kernel
  obtain ⟨s, hrun, hs⟩ := Run.exists_of_checked htest
  simp only [Bool.and_eq_true] at hs
  obtain ⟨⟨hcompleted, hpossible⟩, hok⟩ := hs
  have hpass := PerfTest.eq_fst_true hok
  exact ⟨s, _, hrun, hpass, (run_panelsAgree hrun hcompleted hpossible hpass).1⟩

end ErrorRun

end Perfana.PerformanceTest
