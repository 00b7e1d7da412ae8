import Perfana.Adapt.ControlGroups
import Perfana.Lib.Run

/-!
# Tracked regressions

Completed runs are analysed one after the other (`analyseRun`): the control group of
a run is created, its statistics are computed, and the run is compared with them. A
regression that was found is compared again with later runs, as long as the run it
was found in is one of their control runs.

* `Consistent`: what holds of everything that is stored, along every sequence of runs;
* `remembers_analyseRun`: a run that still violates the thresholds of a regression is
  concluded a regression, if the regression is still tracked (`StillTracked`);
* `run_remembers`: so along every sequence of runs in which regressions stay tracked;
* `forgets_after_ten`: a regression is forgotten as soon as ten runs follow it.
-/

namespace Perfana

open Table

/-- A completed run, with its statistics and its samples. -/
structure AnalysedRun (K Sk : Type) where
  testRunId : String
  /-- Its row. -/
  run : TestRun
  statistics : List (MetricStatistics K Sk)
  samples : List (MetricSample K)
  /-- When it is analysed. -/
  now : ℤ

namespace AdaptDatabase

variable {K Sk : Type}

section

variable (db : AdaptDatabase K Sk) (e : AnalysedRun K Sk)

/-- A deployment without runs. -/
def start (applicationDashboards : List (String × String))
    (dynatraceQueries : List (Option String × String))
    (compareConfigs : List (CompareConfigRow K)) : AdaptDatabase K Sk where
  testRuns := Table.empty
  changePoints := []
  applicationDashboards
  dynatraceQueries
  compareConfigs
  samples := []
  metricStatistics := []
  controlGroups := Table.empty
  controlGroupStatistics := Table.empty
  results := Table.empty
  trackedResults := Table.empty
  conclusions := Table.empty

/-- A run is stored with its statistics and samples. -/
def arrive : AdaptDatabase K Sk :=
  { db with
    testRuns := db.testRuns.insert (fun _ new => new) e.testRunId e.run
    metricStatistics := db.metricStatistics ++ e.statistics
    samples := db.samples ++ e.samples }

variable [Field K] [LinearOrder K] (env : AdaptEnvironment) (functions : Database K Sk)

/-- The analysis of a run, none if it fails. -/
def analyseRun : Option (AdaptDatabase K Sk) := do
  let db ← (db.arrive e).createControlGroupForTestRun e.testRunId
  let db := db.calculateControlGroupStatistics e.testRunId functions
  match db.execute env e.now [e.testRunId] with
  | (true, db) => return db
  | (false, _) => none

/-! ## What is claimed -/

/-- The next run of a scope: completed, later than all runs before it, meeting its
    requirements and not denied, with statistics of its own. -/
structure Follows (scope : CompareScope) : Prop where
  /-- It was not analysed before. -/
  fresh : db.testRuns.get e.testRunId = none
  /-- The statistics are its own. -/
  ofRun : ∀ ms ∈ e.statistics, ms.testRunId = e.testRunId
  scope : e.run.compareScope = scope
  completed : e.run.endTime.isSome
  /-- It started after all runs before it. -/
  later : ∀ row ∈ db.testRuns.rows, before row.2.startTime e.run.startTime
  /-- It meets its requirements. -/
  meetsRequirement : e.run.meetsRequirement ≠ some false
  notDenied : e.run.isDenied = false

/-- A result is that of comparing statistics of its run with a row of the control
    group of the run. -/
structure Compared (scope : CompareScope) (key : ResultKey) (result : AdaptResult K)
    (ms : MetricStatistics K Sk) (row : ControlGroupStatistics K) : Prop where
  /-- It is of the run and its control group. -/
  key_eq : key = ⟨ms.testRunId, ms.testRunId, ms.key⟩
  /-- The statistics are stored. -/
  statistics : ms ∈ db.metricStatistics
  /-- The dashboard exists. -/
  dashboard : ms.key.applicationDashboardId ∈ db.validDashboards
  control : some row ∈ db.withControl ms.testRunId ms notDistinct
  /-- The configuration is that of the metric. -/
  config : result.compareConfig ∈ resolve db.compareConfigs scope ms.key
  /-- The metrics source is that of the statistics. -/
  source : result.metricsSourceId = ms.metadata.metricsSourceId
  /-- The comparison is that of the statistics with the row. -/
  comparison : result.comparison = compareMetric result.compareConfig
    (adaptMinSampleCount env.ADAPT_MIN_SAMPLE_COUNT) ms (some row)

/-- A run still violates the thresholds of a regression found in an earlier run that
    was not accepted: with the value `test` of the same metric, it violates all
    thresholds of the row that the earlier run was compared with. -/
structure StillViolates (scope : CompareScope) (key : ResultKey) (result : AdaptResult K)
    (earlier : TestRun) (ms : MetricStatistics K Sk) : Prop where
  /-- There is the result. -/
  result_eq : db.results.get key = some result
  regression : result.comparison.conclusion.label = .regression
  /-- There is its run. -/
  earlier_eq : db.testRuns.get key.testRunId = some earlier
  notAccepted : earlier.isAccepted = false
  /-- The later run has statistics of the metric. -/
  statistics : ms ∈ e.statistics
  /-- The metric is the same. -/
  metric : ms.key = key.key
  /-- The value violates the thresholds. -/
  violates : ∀ ms₀ row, db.Compared env scope key result ms₀ row →
    ∃ test ∈ ms.columns.value result.compareConfig.aggregation, ∃ value,
      ViolatesThresholds result.compareConfig row value test

/-- A run that still violates the thresholds of a regression found before is concluded
    a regression. -/
def Remembers (scope : CompareScope) : Prop :=
  ∀ key result earlier ms, key.testRunId ≠ e.testRunId →
    db.StillViolates e env scope key result earlier ms →
    ∃ c ∈ db.conclusions.get e.testRunId, c.conclusion = .REGRESSION

/-! ## When it holds -/

/-- The control group of a run that arrives. -/
def arrivingGroup : ControlGroup := (db.arrive e).controlGroupOf e.testRunId e.run

/-- A run that arrives has something to be compared with: statistics of a metric on a
    dashboard that there is, and statistics of a control run for it, of the same
    source, that can be aggregated. -/
def HasBaseline : Prop :=
  let input := (db.arrive e).aggregationInput functions
  let group := db.arrivingGroup e
  ∃ ms ∈ e.statistics, ms.key.applicationDashboardId ∈ db.validDashboards ∧
    ∃ base ∈ input.metricStatistics, base.testRunId ∈ AggregationInput.controlRuns group ∧
      base.key.panelId = ms.key.panelId ∧ base.key.metricName = ms.key.metricName ∧
      input.InScope group base.key ∧ (input.Sketched group ∨ input.HasSamples group base.key) ∧
      input.sourceOf group base.key = ms.metadata.metricsSourceId

/-- A regression is still tracked when a run arrives. -/
structure StillTracked (result : AdaptResult K) (earlier : TestRun)
    (ms : MetricStatistics K Sk) : Prop where
  /-- The earlier run is not one for debugging. -/
  notDebug : earlier.adaptConfig.bind AdaptConfig.mode ≠ some .DEBUG
  /-- It is of the same organization, as far as they have one. -/
  organization : ofOrganization e.run.organizationId earlier.organizationId
  /-- At most ten control candidates, the earlier run included, started since. -/
  window : (((db.arrive e).controlCandidates e.testRunId e.run none).filter fun row =>
    earlier.startTime.getD 0 ≤ row.2.startTime.getD 0).length ≤ 10
  /-- The metrics source of the metric is known and the same. -/
  source : sqlEq ms.metadata.metricsSourceId result.metricsSourceId
  /-- There are enough samples. -/
  samples : result.compareConfig.sampleFloor (adaptMinSampleCount env.ADAPT_MIN_SAMPLE_COUNT) ≤
    (ms.count.getD 0 : ℕ)
  /-- The run is not too short. -/
  longEnough : e.run.tooShort = false
  /-- It has something to be compared with. -/
  baseline : db.HasBaseline e functions

omit [Field K] [LinearOrder K] in
theorem follows_iff (scope : CompareScope) : db.Follows e scope ↔
    db.testRuns.get e.testRunId = none ∧ (∀ ms ∈ e.statistics, ms.testRunId = e.testRunId) ∧
      e.run.compareScope = scope ∧ e.run.endTime.isSome ∧
      (∀ row ∈ db.testRuns.rows, before row.2.startTime e.run.startTime) ∧
      e.run.meetsRequirement ≠ some false ∧ e.run.isDenied = false :=
  ⟨fun ⟨h₁, h₂, h₃, h₄, h₅, h₆, h₇⟩ => ⟨h₁, h₂, h₃, h₄, h₅, h₆, h₇⟩,
    fun ⟨h₁, h₂, h₃, h₄, h₅, h₆, h₇⟩ => ⟨h₁, h₂, h₃, h₄, h₅, h₆, h₇⟩⟩

instance (scope : CompareScope) : Decidable (db.Follows e scope) :=
  decidable_of_iff' _ (follows_iff db e scope)

instance : Decidable (db.HasBaseline e functions) :=
  inferInstanceAs (Decidable (∃ ms ∈ e.statistics, _ ∧ ∃ base ∈ AggregationInput.metricStatistics _,
    _ ∧ _ ∧ _ ∧ AggregationInput.InScope _ _ _ ∧
      (AggregationInput.Sketched _ _ ∨ AggregationInput.HasSamples _ _ _) ∧ _))

omit [Field K] [LinearOrder K] in
theorem stillTracked_iff (result : AdaptResult K) (earlier : TestRun)
    (ms : MetricStatistics K Sk) : db.StillTracked e env functions result earlier ms ↔
      earlier.adaptConfig.bind AdaptConfig.mode ≠ some .DEBUG ∧
      ofOrganization e.run.organizationId earlier.organizationId ∧
      (((db.arrive e).controlCandidates e.testRunId e.run none).filter fun row =>
        earlier.startTime.getD 0 ≤ row.2.startTime.getD 0).length ≤ 10 ∧
      sqlEq ms.metadata.metricsSourceId result.metricsSourceId ∧
      result.compareConfig.sampleFloor (adaptMinSampleCount env.ADAPT_MIN_SAMPLE_COUNT) ≤
        (ms.count.getD 0 : ℕ) ∧
      e.run.tooShort = false ∧ db.HasBaseline e functions :=
  ⟨fun ⟨h₁, h₂, h₃, h₄, h₅, h₆, h₇⟩ => ⟨h₁, h₂, h₃, h₄, h₅, h₆, h₇⟩,
    fun ⟨h₁, h₂, h₃, h₄, h₅, h₆, h₇⟩ => ⟨h₁, h₂, h₃, h₄, h₅, h₆, h₇⟩⟩

instance (result : AdaptResult K) (earlier : TestRun) (ms : MetricStatistics K Sk) :
    Decidable (db.StillTracked e env functions result earlier ms) :=
  decidable_of_iff' _ (stillTracked_iff db e env functions result earlier ms)

/-- The regressions that a run still violates are still tracked when it arrives. -/
def Heeds (scope : CompareScope) : Prop :=
  ∀ key result earlier ms, db.StillViolates e env scope key result earlier ms →
    db.StillTracked e env functions result earlier ms

/-- All results are still tracked when a run arrives, with each of its metrics. -/
def TracksAll : Prop :=
  ∀ row ∈ db.results.rows, ∀ earlier ∈ db.testRuns.get row.1.testRunId,
    ∀ ms ∈ e.statistics, db.StillTracked e env functions row.2 earlier ms

instance : Decidable (db.TracksAll e env functions) :=
  inferInstanceAs (Decidable (∀ row ∈ db.results.rows,
    ∀ earlier ∈ db.testRuns.get row.1.testRunId, ∀ ms ∈ e.statistics, _))

variable {db e env functions} in
/-- Where all results are still tracked, so are the regressions. -/
theorem TracksAll.heeds (h : db.TracksAll e env functions) (scope : CompareScope) :
    db.Heeds e env functions scope := fun key result earlier ms hviolates =>
  h (key, result) (mem_rows.2 hviolates.result_eq) earlier hviolates.earlier_eq ms
    hviolates.statistics

end

/-! ## What holds of everything that is stored -/

section Step

variable [Field K] [LinearOrder K] {env : AdaptEnvironment} {functions : Database K Sk}
  {db db' : AdaptDatabase K Sk} {e : AnalysedRun K Sk} {scope : CompareScope}

variable (db env scope) in
/-- What holds of everything that is stored: it is of runs of the scope that may be
    compared with, and every regression is that of a comparison. -/
structure Consistent : Prop where
  /-- There are no change points. -/
  noChangePoints : db.changePoints = []
  /-- The runs are of the scope, and meet their requirements. -/
  runs : ∀ id, ∀ run ∈ db.testRuns.get id, run.compareScope = scope ∧ run.endTime.isSome ∧
    run.isControl
  /-- The statistics are of the runs. -/
  statistics : ∀ ms ∈ db.metricStatistics, (db.testRuns.get ms.testRunId).isSome
  /-- The statistics of control groups are of the runs. -/
  baselines : ∀ id key, (db.controlGroupStatistics.get (id, key)).isSome →
    (db.testRuns.get id).isSome
  /-- The results are of the runs. -/
  results : ∀ key, (db.results.get key).isSome → (db.testRuns.get key.testRunId).isSome
  /-- The regressions are those of comparisons. -/
  regressions : ∀ key, ∀ result ∈ db.results.get key,
    result.comparison.conclusion.label = .regression →
      ∃ ms row, db.Compared env scope key result ms row

variable (db functions e) in
/-- A run that arrived, with its control group and the statistics of that. -/
def prepare : AdaptDatabase K Sk :=
  calculateControlGroupStatistics
    { db.arrive e with
      controlGroups := db.controlGroups.insert (fun _ new => new) e.testRunId
        (db.arrivingGroup e) } e.testRunId functions

omit [Field K] [LinearOrder K] in
theorem get_arrive (id : String) : (db.arrive e).testRuns.get id =
    if id = e.testRunId then some e.run else db.testRuns.get id := by
  rw [arrive]
  dsimp only
  rw [get_insert]
  cases db.testRuns.get e.testRunId <;> rfl

theorem analyseRun_eq_some (h : db.analyseRun e env functions = some db') :
    (db.prepare functions e).execute env e.now [e.testRunId] = (true, db') := by
  obtain ⟨grouped, hgrouped, h⟩ := Option.bind_eq_some_iff.1 h
  obtain ⟨run, hrun, hgroup⟩ := Option.bind_eq_some_iff.1 hgrouped
  rw [get_arrive, if_pos rfl] at hrun
  obtain rfl := Option.some.inj hrun
  obtain rfl := Option.some.inj hgroup
  dsimp only at h
  split at h
  · rename_i after hexecute
    obtain rfl := Option.some.inj h
    exact hexecute
  · cases h

/-- Preparing a run leaves the statistics of the other control groups alone, and
    computes those of its own. -/
theorem get_prepare {id : String} {key : MetricKey} :
    (db.prepare functions e).controlGroupStatistics.get (id, key) =
      if id = e.testRunId then
        (upsert updateConflict (((db.arrive e).aggregationInput functions).calculatedTable
          (db.arrivingGroup e)) db.controlGroupStatistics).get (id, key)
      else db.controlGroupStatistics.get (id, key) := by
  have hgroup : (db.controlGroups.insert (fun _ new => new) e.testRunId
      (db.arrivingGroup e)).get e.testRunId = some (db.arrivingGroup e) := by
    rw [get_insert, if_pos rfl]
    cases db.controlGroups.get e.testRunId <;> rfl
  change (((db.arrive e).aggregationInput functions).calculateStatisticsForControlGroup
    ((db.controlGroups.insert (fun _ new => new) e.testRunId (db.arrivingGroup e)).get
      e.testRunId) db.controlGroupStatistics).1.get (id, key) = _
  rw [hgroup]
  split
  · exact AggregationInput.calculated_eq_upsert _
  · rename_i hid
    exact AggregationInput.calculated_frame hid

/-! ### One analysis -/

section Analysed

variable (h : db.analyseRun e env functions = some db')

include h

/-- The runs after an analysis are those before it and the one that arrived, but for
    what the analysis writes on them. -/
theorem standing_analyseRun (id : String) : (db'.testRuns.get id).map TestRun.standing =
    ((db.arrive e).testRuns.get id).map TestRun.standing := by
  have hstanding := execute_standing (analyseRun_eq_some h) id
  exact hstanding

theorem exists_arrived {id : String} {run : TestRun} (hrun : run ∈ db'.testRuns.get id) :
    ∃ run₀ ∈ (db.arrive e).testRuns.get id, run.standing = run₀.standing := by
  have hstanding := standing_analyseRun h id
  rw [Option.mem_def.1 hrun, Option.map_some, eq_comm, Option.map_eq_some_iff] at hstanding
  obtain ⟨run₀, hrun₀, heq⟩ := hstanding
  exact ⟨run₀, hrun₀, heq.symm⟩

theorem isSome_analyseRun (id : String) :
    (db'.testRuns.get id).isSome ↔ id = e.testRunId ∨ (db.testRuns.get id).isSome := by
  have hstanding := congrArg Option.isSome (standing_analyseRun h id)
  rw [Option.isSome_map, Option.isSome_map, get_arrive] at hstanding
  rw [hstanding]
  split <;> simp [*]

/-- The rest of the tables is read only, but for the statistics and samples that
    arrived, and the control group. -/
theorem sameInput_analyseRun : SameInput (db.prepare functions e) db' :=
  execute_sameInput (analyseRun_eq_some h)

/-- The statistics of other control groups are left alone. -/
theorem baseline_frame {id : String} (hid : id ≠ e.testRunId) (key : MetricKey) :
    db'.controlGroupStatistics.get (id, key) = db.controlGroupStatistics.get (id, key) := by
  rw [(sameInput_analyseRun h).controlGroupStatistics, get_prepare, if_neg hid]

/-- The results of other runs are left alone. -/
theorem result_frame {key : ResultKey} (hkey : key.testRunId ≠ e.testRunId) :
    db'.results.get key = db.results.get key :=
  execute_results_frame (analyseRun_eq_some h) (mt List.mem_singleton.1 hkey)

/-- What a result of another run was compared with is still there. -/
theorem Compared.analyseRun {key : ResultKey} {result : AdaptResult K}
    {ms : MetricStatistics K Sk} {row : ControlGroupStatistics K}
    (hkey : key.testRunId ≠ e.testRunId) (hc : db.Compared env scope key result ms row) :
    db'.Compared env scope key result ms row := by
  have hsame := sameInput_analyseRun h
  obtain ⟨hkeyeq, hms, hdash, hcontrol, hconfig, hsource, hcomparison⟩ := hc
  refine ⟨hkeyeq, ?_, ?_, ?_, ?_, hsource, hcomparison⟩
  · rw [hsame.metricStatistics]
    exact List.mem_append_left _ hms
  · rw [validDashboards, hsame.applicationDashboards, hsame.dynatraceQueries]
    exact hdash
  · obtain ⟨key', hrow, hcond⟩ := some_mem_withControl.1 hcontrol
    rw [hkeyeq] at hkey
    exact some_mem_withControl.2 ⟨key', (baseline_frame h hkey key').trans hrow, hcond⟩
  · rw [hsame.compareConfigs]
    exact hconfig

end Analysed

/-! ### The results of the run itself -/

/-- The run that arrives is of the scope and may be compared with, as those before it. -/
theorem arrived_control (hinv : db.Consistent env scope) (hfollows : db.Follows e scope)
    {id : String} {run : TestRun} (hrun : run ∈ (db.arrive e).testRuns.get id) :
    run.compareScope = scope ∧ run.endTime.isSome ∧ run.isControl := by
  rw [get_arrive] at hrun
  split at hrun
  · obtain rfl := Option.mem_some_iff.1 hrun
    refine ⟨hfollows.scope, hfollows.completed, ?_⟩
    have hmeets := hfollows.meetsRequirement
    rw [TestRun.isControl, hfollows.notDenied]
    rcases hm : e.run.meetsRequirement with _ | _ | _
    · simp
    · exact absurd hm hmeets
    · simp
  · exact hinv.runs id run hrun

/-- If the run is left to analyse, the scope of the analysis is that of the runs. -/
theorem testRunInfo_prepare (hfollows : db.Follows e scope)
    {testRunIds : List String}
    (hids : testRunIds = ((db.prepare functions e).validation [e.testRunId]).1.processableTestRuns)
    (hleft : testRunIds ≠ []) :
    ((db.prepare functions e).validation [e.testRunId]).2.testRunInfo testRunIds =
      some scope := by
  have hself : ∀ id ∈ testRunIds, id = e.testRunId := by
    intro id hid
    rw [hids] at hid
    exact List.mem_singleton.1 (mem_validated_processable.1 hid).1
  have hstanding : ∀ id, (((db.prepare functions e).validation [e.testRunId]).2.testRuns.get
      id).map TestRun.standing = ((db.arrive e).testRuns.get id).map TestRun.standing :=
    fun id => standing_validation
  obtain ⟨id, hid⟩ := List.exists_mem_of_ne_nil _ hleft
  have hrun := hstanding id
  rw [get_arrive, if_pos (hself id hid), Option.map_some, Option.map_eq_some_iff] at hrun
  obtain ⟨run, hrun, -⟩ := hrun
  refine testRunInfo_eq_some hid hrun fun id' hid' run' hrun' => ?_
  have hstanding' := hstanding id'
  rw [Option.mem_def.1 hrun', Option.map_some, get_arrive, if_pos (hself id' hid'),
    Option.map_some] at hstanding'
  have hscope : run'.standing.compareScope = e.run.standing.compareScope :=
    congrArg TestRun.compareScope (Option.some.inj hstanding')
  exact hscope.trans hfollows.scope

/-- The results of a run that was analysed are those of comparing its statistics. -/
theorem result_of_analyseRun (hinv : db.Consistent env scope) (hfollows : db.Follows e scope)
    (h : db.analyseRun e env functions = some db') {key : ResultKey} {result : AdaptResult K}
    (hkey : key.testRunId = e.testRunId) (hresult : db'.results.get key = some result) :
    ∃ ms ∈ db'.metricStatistics, ms.testRunId = e.testRunId ∧
      ms.key.applicationDashboardId ∈ db'.validDashboards ∧
      ∃ control ∈ db'.withControl ms.testRunId ms notDistinct,
        ∃ compareConfig ∈ resolve db'.compareConfigs scope ms.key,
          key = ⟨ms.testRunId, ms.testRunId, ms.key⟩ ∧
          result = ⟨env.newResultId key, ms.metadata.metricsSourceId, compareConfig,
            compareMetric compareConfig (adaptMinSampleCount env.ADAPT_MIN_SAMPLE_COUNT) ms
              control⟩ := by
  have hexecute := analyseRun_eq_some h
  have hsame := sameInput_analyseRun h
  have hold : db.results.get key = none := by
    rw [← Option.not_isSome_iff_eq_none]
    intro hsome
    have hrun := hinv.results key hsome
    rw [hkey, hfollows.fresh] at hrun
    cases hrun
  obtain ⟨scope', hscope', hmem⟩ := execute_new_result hexecute hresult hold
  obtain ⟨ms, hms, control, hcontrol, config, hconfig, hkeyeq, hresulteq⟩ :=
    mem_finalResults.1 hmem
  obtain ⟨hms, hid, hdash⟩ := mem_testMetrics.1 hms
  have hleft : ((db.prepare functions e).validation [e.testRunId]).1.processableTestRuns ≠ [] :=
    List.ne_nil_of_mem hid
  obtain rfl := Option.some.inj ((testRunInfo_prepare hfollows rfl hleft).symm.trans hscope')
  refine ⟨ms, by rwa [hsame.metricStatistics], ?_, ?_, control, ?_, config, ?_, hkeyeq, hresulteq⟩
  · exact List.mem_singleton.1 (mem_validated_processable.1 hid).1
  · rw [validDashboards, hsame.applicationDashboards, hsame.dynatraceQueries]
    exact hdash
  · rw [withControl, hsame.controlGroupStatistics]
    exact hcontrol
  · rw [hsame.compareConfigs]
    exact hconfig

/-- An analysis keeps everything that is stored consistent. -/
theorem consistent_analyseRun (hinv : db.Consistent env scope) (hfollows : db.Follows e scope)
    (h : db.analyseRun e env functions = some db') : db'.Consistent env scope where
  noChangePoints := (sameInput_analyseRun h).changePoints.trans hinv.noChangePoints
  runs := by
    intro id run hrun
    obtain ⟨run₀, hrun₀, hstanding⟩ := exists_arrived h hrun
    -- None of this is written by the analysis.
    have hscope : run.standing.compareScope = run₀.standing.compareScope :=
      congrArg TestRun.compareScope hstanding
    have hend : run.standing.endTime = run₀.standing.endTime := congrArg TestRun.endTime hstanding
    have hcontrol : run.standing.isControl = run₀.standing.isControl :=
      congrArg TestRun.isControl hstanding
    change run.standing.compareScope = scope ∧ run.standing.endTime.isSome ∧ run.standing.isControl
    rw [hscope, hend, hcontrol]
    have harrived : run₀.compareScope = scope ∧ run₀.endTime.isSome ∧ run₀.isControl :=
      arrived_control hinv hfollows hrun₀
    exact harrived
  statistics := by
    intro ms hms
    rw [(sameInput_analyseRun h).metricStatistics] at hms
    rw [isSome_analyseRun h]
    rcases List.mem_append.1 hms with hms | hms
    · exact .inr (hinv.statistics ms hms)
    · exact .inl (hfollows.ofRun ms hms)
  baselines := by
    intro id key hbaseline
    rw [isSome_analyseRun h]
    by_cases hid : id = e.testRunId
    · exact .inl hid
    · rw [baseline_frame h hid] at hbaseline
      exact .inr (hinv.baselines id key hbaseline)
  results := by
    intro key hresult
    rw [isSome_analyseRun h]
    by_cases hid : key.testRunId = e.testRunId
    · exact .inl hid
    · rw [result_frame h hid] at hresult
      exact .inr (hinv.results key hresult)
  regressions := by
    intro key result hresult hlabel
    by_cases hid : key.testRunId = e.testRunId
    · obtain ⟨ms, hms, -, hdash, control, hcontrol, config, hconfig, hkey, rfl⟩ :=
        result_of_analyseRun hinv hfollows h hid hresult
      obtain ⟨row, hrow, -⟩ := label_eq_regression.1 hlabel
      obtain rfl := Option.mem_def.1 hrow
      exact ⟨ms, row, hkey, hms, hdash, hcontrol, hconfig, rfl, rfl⟩
    · rw [result_frame h hid] at hresult
      obtain ⟨ms, row, hc⟩ := hinv.regressions key result hresult hlabel
      exact ⟨ms, row, hc.analyseRun h hid⟩

/-! ### The run is analysed -/

/-- A run with a baseline has a row of its control group to be compared with. -/
theorem exists_baseline (hinv : db.Consistent env scope) (hfollows : db.Follows e scope)
    (hbaseline : db.HasBaseline e functions) :
    ∃ ms ∈ e.statistics, ms.key.applicationDashboardId ∈ db.validDashboards ∧
      ∃ row, some row ∈ (db.prepare functions e).withControl e.testRunId ms notDistinct := by
  obtain ⟨ms, hms, hdash, base, hbase, hrun, hpanel, hname, hscope, hdata, hsource⟩ := hbaseline
  set key := base.key
  have hsome := AggregationInput.calculated_isSome.2 ⟨⟨base, hbase, hrun, rfl⟩, hscope, hdata⟩
  obtain ⟨row, hrow⟩ := Option.isSome_iff_exists.1 hsome
  have hold : db.controlGroupStatistics.get (e.testRunId, key) = none := by
    rw [← Option.not_isSome_iff_eq_none]
    intro hsome
    have hrun := hinv.baselines e.testRunId key hsome
    rw [hfollows.fresh] at hrun
    cases hrun
  have hprepared : (db.prepare functions e).controlGroupStatistics.get (e.testRunId, key) =
      some row := by
    have hnew : (((db.arrive e).aggregationInput functions).calculatedTable
        (db.arrivingGroup e)).get (e.testRunId, key) = some row := hrow
    rw [get_prepare, if_pos rfl, get_upsert, hold, hnew]
  refine ⟨ms, hms, hdash, row, some_mem_withControl.2 ⟨key, hprepared, ?_, hpanel, hname⟩⟩
  rw [AggregationInput.calculated_metricsSourceId hrow, hsource]
  exact decide_eq_true rfl

/-- A run with a baseline that is long enough is not set aside. -/
theorem not_excluded_prepare (hinv : db.Consistent env scope) (hfollows : db.Follows e scope)
    (hbaseline : db.HasBaseline e functions) (hlong : e.run.tooShort = false) :
    ¬(db.prepare functions e).Excluded e.testRunId := by
  rintro (⟨cp, hcp, -⟩ | ⟨run, hrun, hshort⟩ | ⟨-, hempty⟩)
  · have hnone : (db.prepare functions e).changePoints = [] := hinv.noChangePoints
    rw [hnone] at hcp
    cases hcp
  · have hrun' : (db.arrive e).testRuns.get e.testRunId = some run := hrun
    rw [get_arrive, if_pos rfl] at hrun'
    obtain rfl := Option.some.inj hrun'
    rw [hlong] at hshort
    cases hshort
  · obtain ⟨ms, hms, hdash, row, hrow⟩ := exists_baseline hinv hfollows hbaseline
    have hmetric : ms ∈ (db.prepare functions e).testMetrics [e.testRunId] :=
      mem_testMetrics.2 ⟨List.mem_append_right _ hms,
        List.mem_singleton.2 (hfollows.ofRun ms hms), hdash⟩
    have hin : row ∈ (db.prepare functions e).controlStatistics e.testRunId :=
      List.mem_flatMap.2 ⟨ms, hmetric, List.mem_filterMap.2 ⟨some row, hrow, rfl⟩⟩
    rw [hempty] at hin
    cases hin

/-! ### The regression is tracked -/

section Tracked

variable {key : ResultKey} {result : AdaptResult K} {earlier : TestRun}
  {ms : MetricStatistics K Sk}

/-- A regression is not of a metric that is ignored. -/
theorem Compared.ignore_eq_false {ms₀ : MetricStatistics K Sk} {row : ControlGroupStatistics K}
    (hc : db.Compared env scope key result ms₀ row)
    (hlabel : result.comparison.conclusion.label = .regression) :
    result.compareConfig.ignore.getD false = false := by
  rw [hc.comparison] at hlabel
  obtain ⟨-, -, -, -, -, -, -, hignore, -⟩ := label_eq_regression.1 hlabel
  exact hignore

/-- A regression that a run still violates after its analysis is one that it violated
    when it arrived. -/
theorem StillViolates.of_analyseRun (h : db.analyseRun e env functions = some db')
    (hkey : key.testRunId ≠ e.testRunId)
    (hviolates : db'.StillViolates e env scope key result earlier ms) :
    ∃ earlier₀, db.StillViolates e env scope key result earlier₀ ms := by
  obtain ⟨earlier₀, hearlier₀, hstanding⟩ := exists_arrived h hviolates.earlier_eq
  have haccepted : earlier.standing.isAccepted = earlier₀.standing.isAccepted :=
    congrArg TestRun.isAccepted hstanding
  rw [get_arrive, if_neg hkey] at hearlier₀
  refine ⟨earlier₀, ?_, hviolates.regression, hearlier₀, ?_, hviolates.statistics,
    hviolates.metric, fun ms₀ row hc => hviolates.violates ms₀ row (hc.analyseRun h hkey)⟩
  · rw [← result_frame h hkey]
    exact hviolates.result_eq
  · exact haccepted.symm.trans hviolates.notAccepted

variable (hinv : db.Consistent env scope) (hfollows : db.Follows e scope)
  (hkey : key.testRunId ≠ e.testRunId)
  (hviolates : db.StillViolates e env scope key result earlier ms)
  (htracked : db.StillTracked e env functions result earlier ms)

include hinv hfollows hkey hviolates htracked

/-- The earlier run is a control run of the run that arrives. -/
theorem mem_arrivingGroup : key.testRunId ∈ (db.arrivingGroup e).testRuns.getD [] := by
  have hearlier : (key.testRunId, earlier) ∈ (db.arrive e).testRuns.rows := by
    rw [mem_rows, get_arrive, if_neg hkey]
    exact hviolates.earlier_eq
  have hbefore := hfollows.later (key.testRunId, earlier) (mem_rows.2 hviolates.earlier_eq)
  obtain ⟨hscope, hcompleted, hcontrol⟩ :=
    hinv.runs key.testRunId earlier hviolates.earlier_eq
  have hcandidate : (key.testRunId, earlier) ∈
      (db.arrive e).controlCandidates e.testRunId e.run none := by
    refine List.mem_filter.2 ⟨hearlier, decide_eq_true ⟨hscope.trans hfollows.scope.symm, hkey,
      hbefore, hcompleted, ?_, htracked.organization, hcontrol⟩⟩
    intro cp hcp
    cases hcp
  have hnone : (db.arrive e).detectChangePoint e.run = none :=
    detectChangePoint_eq_none hinv.noChangePoints
  rw [arrivingGroup, controlGroupOf, hnone]
  exact mem_findDefaultControlTestRuns hcandidate htracked.window

/-- The metric is compared again with the row that the regression was found against,
    and is a regression again. -/
theorem exists_trackedResult {left : AdaptDatabase K Sk}
    (hgroups : left.controlGroups = (db.prepare functions e).controlGroups)
    (hbaselines : left.controlGroupStatistics = (db.prepare functions e).controlGroupStatistics)
    (hstatistics : left.metricStatistics = (db.prepare functions e).metricStatistics)
    (hconfigs : left.compareConfigs = db.compareConfigs)
    (hstanding : (left.testRuns.get key.testRunId).map TestRun.standing =
      (db.testRuns.get key.testRunId).map TestRun.standing)
    (hresult : left.results.get key = some result) {testRunIds : List String}
    (hid : e.testRunId ∈ testRunIds) :
    ∃ r : TrackedResult K, (⟨e.testRunId, ms.key, key.testRunId⟩, r) ∈
        left.finalTrackedResults env testRunIds scope ∧
      r.comparison.conclusion.label = .regression ∧ r.comparison.conclusion.ignore = false := by
  obtain ⟨ms₀, row, hc⟩ :=
    hinv.regressions key result hviolates.result_eq hviolates.regression
  have hrun : ms.testRunId = e.testRunId := hfollows.ofRun ms hviolates.statistics
  have hmetric : ms₀.key = ms.key := by rw [hviolates.metric, hc.key_eq]
  have hgroup₀ : ms₀.testRunId = key.testRunId := by rw [hc.key_eq]
  have hignore := hc.ignore_eq_false hviolates.regression
  obtain ⟨test, htest, value, hthresholds⟩ := hviolates.violates ms₀ row hc
  -- The earlier run is the one stored, but for its status.
  rw [hviolates.earlier_eq, Option.map_some, Option.map_eq_some_iff] at hstanding
  obtain ⟨run, hget, hstanding⟩ := hstanding
  have hadapt : run.standing.adaptConfig = earlier.standing.adaptConfig :=
    congrArg TestRun.adaptConfig hstanding
  have hadapt' : run.adaptConfig = earlier.adaptConfig := hadapt
  -- The control row is still there, and of the source of the metric.
  obtain ⟨key', hrow, hsource₀, hpanel, hname⟩ := some_mem_withControl.1 hc.control
  have hrowSource : row.metricsSourceId = result.metricsSourceId :=
    (of_decide_eq_true hsource₀).trans hc.source.symm
  obtain ⟨hknown, hsame⟩ := of_decide_eq_true htracked.source
  have hcontrol : some row ∈ left.withControl key.controlGroupId ms sqlEq := by
    have hgroup : key.controlGroupId = key.testRunId := by rw [hc.key_eq]
    refine some_mem_withControl.2 ⟨key', ?_, decide_eq_true ⟨?_, ?_⟩, ?_, ?_⟩
    · rw [hbaselines, hgroup, get_prepare, if_neg hkey, ← hgroup₀]
      exact hrow
    · rw [hrowSource, ← hsame]
      exact hknown
    · rw [hrowSource, hsame]
    · rw [hpanel, hmetric]
    · rw [hname, hmetric]
  have harriving : left.controlGroups.get ms.testRunId = some (db.arrivingGroup e) := by
    rw [hgroups, hrun]
    change (db.controlGroups.insert (fun _ new => new) e.testRunId
      (db.arrivingGroup e)).get e.testRunId = _
    rw [get_insert, if_pos rfl]
    cases db.controlGroups.get e.testRunId <;> rfl
  have haccepted : run.adaptConfig.bind AdaptConfig.differencesAccepted ≠ some .ACCEPTED := by
    rw [hadapt']
    exact of_decide_eq_false hviolates.notAccepted
  have hdebug : run.adaptConfig.bind AdaptConfig.mode ≠ some .DEBUG := by
    rw [hadapt']
    exact htracked.notDebug
  have hhistorical : (key, result) ∈ left.historicalRegressions key.testRunId := by
    refine List.mem_filter.2 ⟨List.mem_filter.2 ⟨mem_rows.2 hresult, decide_eq_true rfl⟩, ?_⟩
    refine decide_eq_true ⟨?_, ?_⟩
    · rw [hviolates.regression]
      decide
    · have hignored : result.comparison.conclusion.ignore =
          result.compareConfig.ignore.getD false := by
        rw [hc.comparison]
        rfl
      rw [hignored, hignore]
      decide
  have hms : ms ∈ left.metricStatistics := by
    rw [hstatistics]
    exact List.mem_append_right _ hviolates.statistics
  have hconfig : result.compareConfig ∈ resolve left.compareConfigs scope ms.key := by
    rw [hconfigs, ← hmetric]
    exact hc.config
  obtain ⟨r, hr, hcomparison⟩ := mem_finalTrackedResults harriving (hrun ▸ hid)
    (mem_arrivingGroup hinv hfollows hkey hviolates htracked) hget haccepted hdebug hhistorical
    hms htracked.source (by rw [hviolates.metric]) (by rw [hviolates.metric]) hcontrol hconfig
  rw [hrun] at hr
  refine ⟨r, hr, ?_, ?_⟩
  · have hlabel := hviolates.regression
    rw [hc.comparison] at hlabel
    obtain ⟨row', hrow', -, -, -, -, hfloor, -⟩ := label_eq_regression.1 hlabel
    obtain rfl := Option.mem_some_iff.1 hrow'
    rw [hcomparison, label_eq_regression]
    exact ⟨row, rfl, test, htest, value, htracked.samples, hfloor, hignore, hthresholds⟩
  · rw [hcomparison]
    exact hignore

end Tracked

/-- A run that still violates the thresholds of a regression found before is concluded
    a regression, if the regression is still tracked when it arrives. -/
theorem remembers_analyseRun (hinv : db.Consistent env scope) (hfollows : db.Follows e scope)
    (hheeds : db.Heeds e env functions scope) (h : db.analyseRun e env functions = some db') :
    db'.Remembers e env scope := by
  intro key result earlier ms hkey hviolates'
  obtain ⟨earlier₀, hviolates⟩ := hviolates'.of_analyseRun h hkey
  have htracked := hheeds key result earlier₀ ms hviolates
  have hrun : ms.testRunId = e.testRunId := hfollows.ofRun ms hviolates.statistics
  obtain ⟨ms₀, row, hc⟩ :=
    hinv.regressions key result hviolates.result_eq hviolates.regression
  have hmetric : ms₀.key = ms.key := by rw [hviolates.metric, hc.key_eq]
  have hdash : ms.key.applicationDashboardId ∈ db.validDashboards := hmetric ▸ hc.dashboard
  have hms : ms ∈ (db.prepare functions e).metricStatistics :=
    List.mem_append_right _ hviolates.statistics
  have hconfig : result.compareConfig ∈ resolve db.compareConfigs scope ms.key :=
    hmetric ▸ hc.config
  -- The run is left to analyse.
  have hleft : e.testRunId ∈
      ((db.prepare functions e).validation [e.testRunId]).1.processableTestRuns :=
    mem_validated_processable.2 ⟨List.mem_singleton_self _,
      not_excluded_prepare hinv hfollows htracked.baseline htracked.longEnough⟩
  obtain ⟨hruns, ⟨hnone, -⟩ | ⟨hne, hanalyse⟩⟩ :=
    transaction_eq_some (execute_eq_true (analyseRun_eq_some h)).2
  · rw [hnone] at hleft
    cases hleft
  have hscope := testRunInfo_prepare hfollows rfl hne
  obtain ⟨conclusion, hconclusion, -, -, -, hsummary, -⟩ :=
    analysed_of_keepsResult hanalyse (List.mem_singleton_self _) hleft
      (isSome_testRuns_validation.trans (hruns _ (List.mem_singleton_self _)))
      (.inl ⟨ms, hms, hrun, hdash⟩)
  refine ⟨conclusion, hconclusion, ?_⟩
  rw [hsummary.conclusion, if_neg, if_neg]
  · -- It has a tracked regression.
    rintro ⟨-, hnone⟩
    obtain ⟨left, hsame, hleftRuns, hleftResults, hstored⟩ :=
      analysed_trackedResult hanalyse hscope
    have hstanding : (left.testRuns.get key.testRunId).map TestRun.standing =
        (db.testRuns.get key.testRunId).map TestRun.standing := by
      have harrived : (db.arrive e).testRuns.get key.testRunId =
          db.testRuns.get key.testRunId := by rw [get_arrive, if_neg hkey]
      rw [hleftRuns, standing_validation, ← harrived]
      rfl
    obtain ⟨r, hr, hlabel, hignore⟩ := exists_trackedResult hinv hfollows hkey hviolates htracked
      hsame.controlGroups hsame.controlGroupStatistics hsame.metricStatistics
      hsame.compareConfigs hstanding (hleftResults ▸ hviolates'.result_eq) hleft
    have hin : r.id ∈ db'.trackedRegressionsOf e.testRunId := by
      refine List.mem_map.2 ⟨(_, r), List.mem_filter.2 ⟨mem_rows.2 (hstored _ r hleft hr), ?_⟩, rfl⟩
      exact decide_eq_true ⟨rfl, hlabel, by rw [hignore]; decide⟩
    have hlisted := hsummary.trackedRegressions.symm.subset hin
    rw [hnone] at hlisted
    cases hlisted
  · -- It has a result that is not ignored.
    intro hall
    obtain ⟨r, control, hr, hcomparison⟩ := analysed_result hanalyse hscope
      (mem_testMetrics.2 ⟨hms, hrun ▸ hleft, hdash⟩) hconfig
    have hignored := hall (_, r) (List.mem_filter.2 ⟨hr, decide_eq_true hrun⟩)
    have hignore : (compareMetric result.compareConfig (adaptMinSampleCount
        env.ADAPT_MIN_SAMPLE_COUNT) ms control).conclusion.ignore = false :=
      hc.ignore_eq_false hviolates.regression
    rw [hcomparison, hignore] at hignored
    cases hignored

/-! ### All analyses -/

/-- Without runs, nothing is stored. -/
theorem consistent_start (applicationDashboards : List (String × String))
    (dynatraceQueries : List (Option String × String))
    (compareConfigs : List (CompareConfigRow K)) :
    Consistent env (start applicationDashboards dynatraceQueries compareConfigs :
      AdaptDatabase K Sk) scope where
  noChangePoints := rfl
  runs := fun _ _ hrun => by cases hrun
  statistics := fun _ hms => by cases hms
  baselines := fun _ _ hsome => by cases hsome
  results := fun _ hsome => by cases hsome
  regressions := fun _ _ hresult => by cases hresult

/-- Along every sequence of completed runs, each following those before it, in which
    the regressions that a run still violates are still tracked when it arrives, every
    run that still violates the thresholds of a regression found before is concluded a
    regression. -/
theorem run_remembers {applicationDashboards : List (String × String)}
    {dynatraceQueries : List (Option String × String)} {compareConfigs : List (CompareConfigRow K)}
    {es : List (AnalysedRun K Sk)}
    (h : Run (fun db e => db.analyseRun e env functions)
      (fun db e => db.Follows e scope ∧ db.Heeds e env functions scope)
      (start applicationDashboards dynatraceQueries compareConfigs) es db) :
    ∀ e ∈ es.getLast?, db.Remembers e env scope := by
  let Inv := fun (es : List (AnalysedRun K Sk)) (db : AdaptDatabase K Sk) =>
    db.Consistent env scope ∧ ∀ e ∈ es.getLast?, db.Remembers e env scope
  have hinit : Inv [] (start applicationDashboards dynatraceQueries compareConfigs) :=
    ⟨consistent_start _ _ _, fun e he => by cases he⟩
  have hkeep : ∀ es db e db', Inv es db → db.Follows e scope ∧ db.Heeds e env functions scope →
      db.analyseRun e env functions = some db' → Inv (es ++ [e]) db' := by
    rintro es db e db' ⟨hinv, -⟩ ⟨hfollows, hheeds⟩ hstep
    refine ⟨consistent_analyseRun hinv hfollows hstep, fun e' he' => ?_⟩
    rw [List.getLast?_concat] at he'
    obtain rfl := Option.mem_some_iff.1 he'
    exact remembers_analyseRun hinv hfollows hheeds hstep
  have hrun : Inv es db := h.invariant hinit hkeep
  exact hrun.2

end Step

end AdaptDatabase

/-! ## A slowdown -/

section Slowdown

open AdaptDatabase

/-- A completed run of the shop, with its latency. -/
def shopRun (testRunId : String) (startTime : ℤ) (latency : ℚ) :
    AnalysedRun ℚ (Multiset ℚ) where
  testRunId
  run := adaptRun testRunId startTime
  statistics := [adaptStatistics testRunId latency]
  samples := []
  now := startTime + 600000

/-- The shop, before its first run. -/
def shop : AdaptDatabase ℚ (Multiset ℚ) :=
  AdaptDatabase.start [("dashboard", "organization")] [] [latencyConfig]

/-- The scope of its runs. -/
def shopScope : CompareScope := ⟨"shop", "test", "load"⟩

/-- The analysis of a run of the shop. -/
def analyseShop (db : AdaptDatabase ℚ (Multiset ℚ)) (e : AnalysedRun ℚ (Multiset ℚ)) :
    Option (AdaptDatabase ℚ (Multiset ℚ)) :=
  db.analyseRun e adaptEnvironment exactDatabase

/-- A fast run, and slow ones that follow it every quarter of an hour. -/
def slowdown (testRunIds : List String) : List (AnalysedRun ℚ (Multiset ℚ)) :=
  shopRun "fast" 0 100 ::
    testRunIds.zipIdx.map fun row => shopRun row.1 ((row.2 + 1) * 900000) 200

/-- The result of the first slow run. -/
def firstSlow : ResultKey := ⟨"R0", "R0", metricOf "latency"⟩

/-- The first slow run is a regression, found against a latency of a hundred, and was
    not accepted. -/
def FirstRegressed (db : AdaptDatabase ℚ (Multiset ℚ)) : Prop :=
  (∃ result ∈ db.results.get firstSlow, result.comparison.conclusion.label = .regression ∧
    result.compareConfig = latencyConfig.configData) ∧
  (∃ run ∈ db.testRuns.get firstSlow.testRunId, run.isAccepted = false) ∧
  ∀ row ∈ db.controlGroupStatistics.rows, row.1.1 = firstSlow.testRunId →
    row.2.columns.maxValue = some 100 ∧ row.2.columns.iqr = some 0

instance (db : AdaptDatabase ℚ (Multiset ℚ)) : Decidable (FirstRegressed db) :=
  inferInstanceAs (Decidable ((∃ result ∈ db.results.get firstSlow, _ ∧ _) ∧
    (∃ run ∈ db.testRuns.get firstSlow.testRunId, _) ∧
    ∀ row ∈ db.controlGroupStatistics.rows, _ → _ ∧ _))

/-- Every run that is as slow still violates the thresholds of the regression. -/
theorem FirstRegressed.stillViolates {db : AdaptDatabase ℚ (Multiset ℚ)} (h : FirstRegressed db)
    (testRunId : String) (startTime : ℤ) :
    ∃ result earlier, db.StillViolates (shopRun testRunId startTime 200) adaptEnvironment
      shopScope firstSlow result earlier (adaptStatistics testRunId 200) := by
  obtain ⟨⟨result, hresult, hlabel, hconfig⟩, ⟨earlier, hearlier, haccepted⟩, hrows⟩ := h
  refine ⟨result, earlier, hresult, hlabel, hearlier, haccepted, List.mem_singleton_self _, rfl,
    fun ms₀ row hc => ?_⟩
  obtain ⟨key, hrow, -⟩ := some_mem_withControl.1 hc.control
  have hgroup : ms₀.testRunId = firstSlow.testRunId := by rw [hc.key_eq]
  obtain ⟨hmax, hiqr⟩ := hrows _ (mem_rows.2 hrow) hgroup
  rw [hconfig]
  refine ⟨200, rfl, 100, hmax, ?_, ⟨1 / 2, rfl, ?_⟩, ?_, fun _ h => by cases h⟩
  · change (100 : ℚ) ≤ 200
    norm_num
  · norm_num [outside]
  · intro range hrange hne
    rw [hiqr] at hrange
    exact absurd (Option.mem_some_iff.1 hrange).symm hne

/-- With ten slow runs in between, the first is forgotten: the next run is as slow, and
    passes. -/
theorem forgets_after_ten :
    ∃ db, Run analyseShop (fun db e => db.Follows e shopScope) shop (slowdown
        ["R0", "R1", "R2", "R3", "R4", "R5", "R6", "R7", "R8", "R9", "R10", "R11"]) db ∧
      (∃ c ∈ db.conclusions.get "R11", c.conclusion = .PASSED) ∧
      ¬db.Remembers (shopRun "R11" 10800000 200) adaptEnvironment shopScope := by
  have hrun : ((slowdown ["R0", "R1", "R2", "R3", "R4", "R5", "R6", "R7", "R8", "R9", "R10",
      "R11"]).foldlM (Run.checked analyseShop fun db e => db.Follows e shopScope) shop).any
        fun db => FirstRegressed db ∧
          ∃ c ∈ db.conclusions.get "R11", c.conclusion = .PASSED := by decide +kernel
  obtain ⟨db, hdb, hfacts⟩ := (Option.any_eq_true _ _).1 hrun
  obtain ⟨hfirst, hpassed⟩ := of_decide_eq_true hfacts
  refine ⟨db, Run.of_checked hdb, hpassed, fun h => ?_⟩
  obtain ⟨result, earlier, hviolates⟩ := hfirst.stillViolates "R11" 10800000
  obtain ⟨c, hc, hregression⟩ := h _ _ _ _ (by decide) hviolates
  obtain ⟨c', hc', hpassed⟩ := hpassed
  obtain rfl := Option.mem_unique hc hc'
  rw [hregression] at hpassed
  cases hpassed

/-- The run after the first slow one is a regression too. -/
theorem run_remembers_slowdown :
    ∃ db, Run analyseShop
        (fun db e => db.Follows e shopScope ∧ db.Heeds e adaptEnvironment exactDatabase shopScope)
        shop (slowdown ["R0", "R1"]) db ∧
      ∃ c ∈ db.conclusions.get "R1", c.conclusion = .REGRESSION := by
  have hrun : ((slowdown ["R0", "R1"]).foldlM (Run.checked analyseShop fun db e =>
      db.Follows e shopScope ∧ db.TracksAll e adaptEnvironment exactDatabase) shop).any
        fun db => FirstRegressed db := by decide +kernel
  obtain ⟨db, hdb, hfirst⟩ := (Option.any_eq_true _ _).1 hrun
  have htracked := (Run.of_checked hdb).mono fun db e h =>
    And.intro h.1 (h.2.heeds shopScope)
  refine ⟨db, htracked, ?_⟩
  obtain ⟨result, earlier, hviolates⟩ :=
    (of_decide_eq_true hfirst).stillViolates "R1" 1800000
  exact run_remembers htracked (shopRun "R1" 1800000 200) rfl _ _ _ _ (by decide) hviolates

end Slowdown

end Perfana
