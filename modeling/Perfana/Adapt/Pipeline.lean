import Perfana.Adapt.Conclusion
import Perfana.Lib.Run

/-!
# The ADAPT pipeline

The analysis of a list of runs first sets aside those that cannot be compared: the
change points, the runs too short, and those whose control group has no statistics
to compare with. If none is left, a conclusion of insufficient data is written for
each; otherwise those that are left are analysed (`Perfana.Adapt.Results`), and the
status of all of them updated.
-/

namespace Perfana

open Table

/-- The ramp-up of a run takes all of its duration. -/
def TestRun.tooShort (run : TestRun) : Bool :=
  match run.analysisStartOffset, run.duration with
  | some rampUp, some duration => duration ≤ rampUp
  | _, _ => false

/-- A run is a baseline. -/
def TestRun.isBaseline (run : TestRun) : Bool :=
  run.adaptConfig.bind AdaptConfig.mode = some .BASELINE

/-- The differences of a run are accepted. -/
def TestRun.isAccepted (run : TestRun) : Bool :=
  run.adaptConfig.bind AdaptConfig.differencesAccepted = some .ACCEPTED

/-- Whether a run meets its requirements, as far as that is known. -/
def TestRun.meetsRequirement (run : TestRun) : Option Bool :=
  run.consolidatedResult.bind ConsolidatedResult.meetsRequirement

/-- A run but for what the analysis writes on it. -/
def TestRun.standing (run : TestRun) : TestRun :=
  { run with
    evaluatingAdapt := none
    consolidatedResult := some { meetsRequirement := run.meetsRequirement } }

/-- The runs set aside, by reason, and those that are left. -/
structure PreProcessingValidationResult where
  /-- The change points. -/
  changepoints : List String
  tooShortTestRuns : List String
  /-- The runs without statistics to compare with. -/
  emptyControlGroups : List String
  /-- The runs that are left. -/
  processableTestRuns : List String
  deriving DecidableEq, Repr

namespace AdaptDatabase

variable {K Sk : Type} [Field K] [LinearOrder K]

section

omit [Field K] [LinearOrder K]

variable (db : AdaptDatabase K Sk) (testRunIds : List String)

/-! ## Setting runs aside -/

/-- Sets the status of the analysis of the runs. -/
def updateEvaluationStatus (status : EvaluationStatus) : AdaptDatabase K Sk :=
  { db with
    testRuns := db.testRuns.update fun id run =>
      if id ∈ testRunIds then { run with evaluatingAdapt := some status } else run }

/-- The runs that are change points. -/
def checkForChangepoints : List String :=
  ((db.changePoints.map ChangePoint.testRunId).filter fun id => id ∈ testRunIds).dedup

def checkTooShortTestRuns : List String :=
  (db.testRuns.rows.filter fun row => row.1 ∈ testRunIds ∧ row.2.tooShort).map Prod.fst

/-- The rows of the control group that the statistics of a run are compared with. -/
def controlStatistics (testRunId : String) : List (ControlGroupStatistics K) :=
  (db.testMetrics [testRunId]).flatMap fun ms =>
    (db.withControl testRunId ms notDistinct).filterMap id

/-- The runs with statistics but none to compare them with. -/
def checkEmptyControlGroups : List String :=
  ((db.testMetrics testRunIds).map MetricStatistics.testRunId).dedup.filter fun id =>
    (db.controlStatistics id).length = 0

/-- Sets aside the runs that cannot be compared. -/
def runPreProcessingValidation : PreProcessingValidationResult × AdaptDatabase K Sk :=
  let changepoints := db.checkForChangepoints testRunIds
  let db := db.updateEvaluationStatus changepoints .NO_BASELINES_FOUND
  let nonChangepointTestRuns := testRunIds.filter fun id => id ∉ changepoints
  let tooShortTestRuns := db.checkTooShortTestRuns nonChangepointTestRuns
  let db := db.updateEvaluationStatus tooShortTestRuns .NO_BASELINES_FOUND
  let candidateTestRuns := nonChangepointTestRuns.filter fun id => id ∉ tooShortTestRuns
  let emptyControlGroups := db.checkEmptyControlGroups candidateTestRuns
  let db := db.updateEvaluationStatus emptyControlGroups .NO_BASELINES_FOUND
  let processableTestRuns := candidateTestRuns.filter fun id => id ∉ emptyControlGroups
  ({ changepoints, tooShortTestRuns, emptyControlGroups, processableTestRuns }, db)

/-! ## The conclusions about runs set aside -/

/-- Why a run was set aside. -/
def exclusionDetails (validation : PreProcessingValidationResult) (testRunId : String) :
    ConclusionDetails :=
  if testRunId ∈ validation.changepoints then
    .excluded ("This test run is a changepoint — a new baseline was established. " ++
      "ADAPT comparison starts fresh from this run.") "changepoint" []
  else if testRunId ∈ validation.tooShortTestRuns then
    let info := db.testRuns.get testRunId
    let message := match info.bind TestRun.analysisStartOffset, info.bind TestRun.duration with
      | some rampUp, some duration =>
        "This test run is too short to analyze — the analysis start offset " ++
          s!"({rampUp}s ramp-up) exceeds the test duration ({duration}s). No steady-state data " ++
          "was available for comparison. Run a full-duration test to generate ADAPT results."
      | _, _ =>
        "This test run is too short to analyze — the analysis start offset exceeds the test " ++
          "duration. No steady-state data was available for comparison. Run a full-duration " ++
          "test to generate ADAPT results."
    .excluded message "run-too-short" []
  else
    let group := db.controlGroups.get testRunId
    let controlRuns := (group.bind ControlGroup.testRuns).getD []
    let shown := ", ".intercalate (controlRuns.take 3)
    let more := controlRuns.length - 3
    let extra := if 3 < controlRuns.length then s!" and {more} more" else ""
    let plural := if controlRuns.length = 1 then "" else "s"
    let number := controlRuns.length
    let runsClause :=
      if 0 < controlRuns.length then s!"{number} control run{plural} ({shown}{extra})"
      else "the control run(s)"
    let statCount := db.controlGroupStatistics.rows.countP fun row => row.1.1 = testRunId
    let metricStatCount := db.metricStatistics.countP fun ms => ms.testRunId ∈ controlRuns
    if 0 < statCount then
      .excluded ("ADAPT found no comparable metrics: this run and its baseline " ++
        s!"({runsClause}) resolved to different metrics sources — usually different " ++
        "scenario/workload naming between ingestion paths (e.g. JTL upload vs the " ++
        "jmeter-timescale listener). Verify both runs use the same system-under-test / " ++
        "environment / workload.") "metrics-source-mismatch" []
    else if 0 < metricStatCount then
      .excluded (s!"ADAPT could not build a baseline. The {runsClause} do have metric " ++
        "statistics, but aggregating them into control-group statistics failed — most often a " ++
        "query timeout on an older baseline. Recalculate the statistics for the control " ++
        "run(s), then re-evaluate this run.") "baseline-aggregation-failed" controlRuns
    else
      .excluded (s!"ADAPT requires valid baseline data. The {runsClause} contained " ++
        "insufficient metrics — they may have been too short or aborted. Run at least one " ++
        "full-duration test to establish a baseline.") "baseline-insufficient-data" []

/-- The conclusion that is inserted for a run set aside. -/
def exclusionConclusion (now : ℤ) (validation : PreProcessingValidationResult)
    (testRunId : String) : AdaptConclusion where
  controlGroupId := testRunId
  regressions := []
  improvements := []
  differences := []
  trackedRegressions := []
  conclusion := .INSUFFICIENT_DATA
  details := db.exclusionDetails validation testRunId
  updatedAt := now

/-- Updating the conclusion about a run set aside keeps the identifiers it lists. -/
def updateExclusion (old new : AdaptConclusion) : AdaptConclusion :=
  { old with conclusion := new.conclusion, details := new.details, updatedAt := new.updatedAt }

/-- Writes the conclusions about the runs set aside. -/
def writeExclusionConclusions (now : ℤ) (validation : PreProcessingValidationResult) :
    AdaptDatabase K Sk :=
  let allExcluded := validation.changepoints ++ validation.tooShortTestRuns ++
    validation.emptyControlGroups
  { db with
    conclusions := allExcluded.foldl (fun conclusions id =>
      conclusions.insert updateExclusion id (db.exclusionConclusion now validation id))
      db.conclusions }

/-! ## The status of the runs -/

/-- The status of a run after the analysis. -/
def finalStatus (testRunId : String) (run : TestRun) : TestRun :=
  let regression := (db.conclusions.get testRunId).any fun c => c.conclusion = .REGRESSION
  let adaptTestRunOK := run.isBaseline || !regression
  let result := run.consolidatedResult.getD {}
  { run with
    evaluatingAdapt := some .COMPLETED
    consolidatedResult := some
      { result with
        adaptTestRunOK := some adaptTestRunOK
        overall :=
          if run.isAccepted then result.overall
          else some (result.meetsRequirement.getD true && adaptTestRunOK) } }

/-- Updates the status of the runs after the analysis. -/
def updateFinalStatus : AdaptDatabase K Sk :=
  { db with
    testRuns := db.testRuns.update fun id run =>
      if id ∈ testRunIds then db.finalStatus id run else run }

/-- Updates the status of the runs after a failure. -/
def updateFailureStatus : AdaptDatabase K Sk :=
  { db with
    testRuns := db.testRuns.update fun id run =>
      if id ∈ testRunIds then
        { run with
          evaluatingAdapt := some .FAILED
          consolidatedResult :=
            some { run.consolidatedResult.getD {} with adaptTestRunOK := some false } }
      else run }

end

/-! ## The pipeline -/

variable (env : AdaptEnvironment) (now : ℤ) (db : AdaptDatabase K Sk) (testRunIds : List String)

/-- The analysis of the runs that are left. -/
def analyse (processable : List String) : Option (AdaptDatabase K Sk) := do
  let db ← db.processAdaptResults env processable
  let db := db.deleteOrphanedResults processable
  let db := db.deleteTrackedResults processable
  let db ← db.storeTrackedResults env processable
  let db ← db.generateConclusions processable now
  return db.updateFinalStatus testRunIds

/-- The transaction of the analysis, none if it fails. -/
def transaction : Option (AdaptDatabase K Sk) :=
  if testRunIds.all fun id => (db.testRuns.get id).isSome then
    let db := db.updateEvaluationStatus testRunIds .IN_PROGRESS
    let (preValidation, db) := db.runPreProcessingValidation testRunIds
    if preValidation.processableTestRuns = [] then
      some (db.writeExclusionConclusions now preValidation)
    else db.analyse env now testRunIds preValidation.processableTestRuns
  else none

/-- The pipeline: whether it succeeds, and what it leaves. -/
def execute : Bool × AdaptDatabase K Sk :=
  if testRunIds = [] then (false, db)
  else
    match db.transaction env now testRunIds with
    | some db' => (true, db')
    | none => (false, db.updateFailureStatus testRunIds)

/-! ## The runs set aside -/

section Validation

omit [Field K] [LinearOrder K]

variable (testRunId : String)

/-- A run is a change point. -/
def IsChangepoint : Prop := ∃ cp ∈ db.changePoints, cp.testRunId = testRunId

/-- A run is too short. -/
def IsTooShort : Prop := ∃ run, db.testRuns.get testRunId = some run ∧ run.tooShort

/-- A run has statistics, but no statistics of its control group to compare them with. -/
def LacksBaseline : Prop :=
  db.testMetrics [testRunId] ≠ [] ∧ db.controlStatistics testRunId = []

/-- A run is set aside. -/
def Excluded : Prop :=
  db.IsChangepoint testRunId ∨ db.IsTooShort testRunId ∨ db.LacksBaseline testRunId

variable {db testRunIds testRunId}

theorem get_updateEvaluationStatus {status : EvaluationStatus} :
    (db.updateEvaluationStatus testRunIds status).testRuns.get testRunId =
      (db.testRuns.get testRunId).map fun run =>
        if testRunId ∈ testRunIds then { run with evaluatingAdapt := some status } else run :=
  get_update _ _ _

theorem mem_checkForChangepoints :
    testRunId ∈ db.checkForChangepoints testRunIds ↔
      testRunId ∈ testRunIds ∧ db.IsChangepoint testRunId := by
  rw [checkForChangepoints, List.mem_dedup, List.mem_filter, decide_eq_true_eq, List.mem_map,
    and_comm, IsChangepoint]

theorem mem_checkTooShortTestRuns :
    testRunId ∈ db.checkTooShortTestRuns testRunIds ↔
      testRunId ∈ testRunIds ∧ db.IsTooShort testRunId := by
  rw [checkTooShortTestRuns, List.mem_map]
  constructor
  · rintro ⟨row, hrow, rfl⟩
    obtain ⟨hrow, hid, hshort⟩ := (List.mem_filter.1 hrow).imp_right of_decide_eq_true
    exact ⟨hid, row.2, mem_rows.1 hrow, hshort⟩
  · rintro ⟨hid, run, hrun, hshort⟩
    exact ⟨(testRunId, run), List.mem_filter.2 ⟨mem_rows.2 hrun, decide_eq_true ⟨hid, hshort⟩⟩, rfl⟩

theorem mem_testMetrics {ms : MetricStatistics K Sk} :
    ms ∈ db.testMetrics testRunIds ↔ ms ∈ db.metricStatistics ∧ ms.testRunId ∈ testRunIds ∧
      ms.key.applicationDashboardId ∈ db.validDashboards := by
  rw [testMetrics, List.mem_filter, decide_eq_true_eq]

theorem mem_checkEmptyControlGroups :
    testRunId ∈ db.checkEmptyControlGroups testRunIds ↔
      testRunId ∈ testRunIds ∧ db.LacksBaseline testRunId := by
  rw [checkEmptyControlGroups, List.mem_filter, decide_eq_true_eq, List.length_eq_zero_iff,
    List.mem_dedup, List.mem_map, LacksBaseline]
  constructor
  · rintro ⟨⟨ms, hms, rfl⟩, hempty⟩
    obtain ⟨hms, hid, hdash⟩ := mem_testMetrics.1 hms
    refine ⟨hid, List.ne_nil_of_mem (mem_testMetrics.2 ⟨hms, ?_, hdash⟩), hempty⟩
    exact List.mem_singleton_self _
  · rintro ⟨hid, hne, hempty⟩
    obtain ⟨ms, hms⟩ := List.exists_mem_of_ne_nil _ hne
    obtain ⟨hin, hrun, hdash⟩ := mem_testMetrics.1 hms
    obtain rfl := List.mem_singleton.1 hrun
    exact ⟨⟨ms, mem_testMetrics.2 ⟨hin, hid, hdash⟩, rfl⟩, hempty⟩

/-- A status does not make a run too short. -/
theorem isTooShort_updateEvaluationStatus {status : EvaluationStatus} {ids : List String} :
    (db.updateEvaluationStatus ids status).IsTooShort testRunId ↔ db.IsTooShort testRunId := by
  have hshort : ∀ run : TestRun, (if testRunId ∈ ids then
      { run with evaluatingAdapt := some status } else run).tooShort = run.tooShort := by
    intro run
    split <;> rfl
  simp only [IsTooShort, get_updateEvaluationStatus, Option.map_eq_some_iff]
  constructor
  · rintro ⟨_, ⟨run, hrun, rfl⟩, h⟩
    exact ⟨run, hrun, by rwa [hshort] at h⟩
  · rintro ⟨run, hrun, h⟩
    exact ⟨_, ⟨run, hrun, rfl⟩, by rwa [hshort]⟩

/-- The runs that are left are those not set aside. -/
theorem mem_processableTestRuns :
    testRunId ∈ (db.runPreProcessingValidation testRunIds).1.processableTestRuns ↔
      testRunId ∈ testRunIds ∧ ¬db.Excluded testRunId := by
  simp only [runPreProcessingValidation, List.mem_filter, decide_eq_true_eq,
    mem_checkForChangepoints, mem_checkTooShortTestRuns, mem_checkEmptyControlGroups,
    isTooShort_updateEvaluationStatus]
  change ((_ ∧ ¬(_ ∧ _)) ∧ ¬((_ ∧ ¬(_ ∧ _)) ∧ _)) ∧ ¬(_ ∧ db.LacksBaseline testRunId) ↔ _
  rw [Excluded]
  tauto

/-- The runs set aside, for whatever reason. -/
theorem mem_allExcluded :
    testRunId ∈ (db.runPreProcessingValidation testRunIds).1.changepoints ++
        (db.runPreProcessingValidation testRunIds).1.tooShortTestRuns ++
        (db.runPreProcessingValidation testRunIds).1.emptyControlGroups ↔
      testRunId ∈ testRunIds ∧ db.Excluded testRunId := by
  simp only [runPreProcessingValidation, List.mem_append, List.mem_filter, decide_eq_true_eq,
    mem_checkForChangepoints, mem_checkTooShortTestRuns, mem_checkEmptyControlGroups,
    isTooShort_updateEvaluationStatus]
  change ((_ ∧ _) ∨ ((_ ∧ ¬(_ ∧ _)) ∧ _)) ∨ (_ ∧ db.LacksBaseline testRunId) ↔ _
  rw [Excluded]
  tauto

/-- A run set aside has no baselines, whatever its status was. -/
theorem get_testRuns_of_excluded (hid : testRunId ∈ testRunIds) (h : db.Excluded testRunId) :
    (db.runPreProcessingValidation testRunIds).2.testRuns.get testRunId =
      (db.testRuns.get testRunId).map fun run =>
        { run with evaluatingAdapt := some .NO_BASELINES_FOUND } := by
  have hmem := mem_allExcluded.2 ⟨hid, h⟩
  simp only [runPreProcessingValidation, List.mem_append] at hmem ⊢
  rw [get_updateEvaluationStatus, get_updateEvaluationStatus, get_updateEvaluationStatus,
    Option.map_map, Option.map_map]
  refine congrArg (fun f => Option.map f _) (funext fun run => ?_)
  dsimp only [Function.comp]
  grind

/-- The runs stay. -/
theorem isSome_testRuns_validated :
    ((db.runPreProcessingValidation testRunIds).2.testRuns.get testRunId).isSome =
      (db.testRuns.get testRunId).isSome := by
  simp only [runPreProcessingValidation, get_updateEvaluationStatus, Option.isSome_map]

theorem excluded_updateEvaluationStatus {status : EvaluationStatus} {ids : List String} :
    (db.updateEvaluationStatus ids status).Excluded testRunId ↔ db.Excluded testRunId :=
  or_congr Iff.rfl (or_congr isTooShort_updateEvaluationStatus Iff.rfl)

end Validation

/-! ## The conclusion is up to date -/

section UpToDate

omit [Field K] [LinearOrder K]

/-- A conclusion is that about the results of a run as they are: it lists exactly the
    results with the labels it lists, and follows from them. -/
structure Summarises (db : AdaptDatabase K Sk) (testRunId : String) (row : AdaptConclusion) :
    Prop where
  /-- It lists the regressions. -/
  regressions : row.regressions.Perm (idsOf (db.resultsOf testRunId) [.regression])
  /-- It lists the improvements. -/
  improvements : row.improvements.Perm (idsOf (db.resultsOf testRunId) [.improvement])
  /-- It lists the other differences. -/
  differences : row.differences.Perm (idsOf (db.resultsOf testRunId) differenceLabels)
  /-- It lists the tracked regressions. -/
  trackedRegressions : row.trackedRegressions.Perm (db.trackedRegressionsOf testRunId)
  /-- It is a regression if it lists one, of a run with results that are not ignored. -/
  conclusion : row.conclusion =
    if ∀ result ∈ db.resultsOf testRunId, result.2.comparison.conclusion.ignore then .SKIPPED
    else if row.regressions = [] ∧ row.trackedRegressions = [] then .PASSED
    else .REGRESSION

/-- A conclusion lists nothing. -/
structure ListsNothing (row : AdaptConclusion) : Prop where
  regressions : row.regressions = []
  improvements : row.improvements = []
  differences : row.differences = []
  trackedRegressions : row.trackedRegressions = []

/-- What a run records of its analysis agrees with a conclusion: that it has no
    baselines if there is insufficient data, and otherwise that it is completed, and
    whether there is a regression. -/
structure AgreesWith (run : TestRun) (row : AdaptConclusion) : Prop where
  /-- The status of the analysis. -/
  evaluatingAdapt : run.evaluatingAdapt =
    some (if row.conclusion = .INSUFFICIENT_DATA then .NO_BASELINES_FOUND else .COMPLETED)
  /-- A result is recorded for every verdict. -/
  recorded : row.conclusion ≠ .INSUFFICIENT_DATA →
    (run.consolidatedResult.bind ConsolidatedResult.adaptTestRunOK).isSome
  /-- A result that is recorded is that of the conclusion. -/
  adaptTestRunOK : ∀ ok ∈ run.consolidatedResult.bind ConsolidatedResult.adaptTestRunOK,
    ok = (run.isBaseline || row.conclusion ≠ .REGRESSION)

/-- After the analysis of a run there is a conclusion that was derived by it: of
    insufficient data, and listing nothing, if the run was set aside, and otherwise
    that about its results as they are; and what the run records agrees with it. -/
def UpToDate (db db' : AdaptDatabase K Sk) (now : ℤ) (testRunId : String) : Prop :=
  ∃ row ∈ db'.conclusions.get testRunId, ∃ run ∈ db'.testRuns.get testRunId,
    row.updatedAt = now ∧
    (db.Excluded testRunId → row.conclusion = .INSUFFICIENT_DATA ∧ ListsNothing row) ∧
    (¬db.Excluded testRunId → Summarises db' testRunId row) ∧ AgreesWith run row

/-- Nothing is on record about a run that speaks against insufficient data: no
    conclusion that lists a result, and no regression. -/
structure NothingAgainst (db : AdaptDatabase K Sk) (testRunId : String) : Prop where
  /-- The conclusion on record lists nothing. -/
  listsNothing : ∀ row ∈ db.conclusions.get testRunId, ListsNothing row
  /-- No regression is on record. -/
  noRegression : ∀ run ∈ db.testRuns.get testRunId,
    run.consolidatedResult.bind ConsolidatedResult.adaptTestRunOK ≠ some false

variable {db} {db' : AdaptDatabase K Sk} {testRunIds} {now} {testRunId : String}

/-- The conclusion about some results summarises them. -/
theorem summarises_conclude (controlGroupId : String) :
    Summarises db testRunId
      (db.conclude now testRunId controlGroupId (db.resultsOf testRunId)) where
  regressions := .rfl
  improvements := .rfl
  differences := .rfl
  trackedRegressions := .rfl
  conclusion := by
    dsimp only [conclude]
    simp only [List.countP_eq_zero, List.length_pos_iff, decide_eq_true_eq, not_not, ne_eq,
      ← not_and_or, ite_not]
    exact ite_congr rfl (fun _ => rfl) fun _ => ite_congr rfl (fun _ => rfl) fun _ => rfl

/-- The conclusion about some results is a verdict. -/
theorem conclude_ne_insufficientData (controlGroupId : String)
    (results : List (ResultKey × AdaptResult K)) :
    (db.conclude now testRunId controlGroupId results).conclusion ≠ .INSUFFICIENT_DATA := by
  rw [conclude]
  dsimp only
  split_ifs <;> simp

theorem get_updateFinalStatus :
    (db.updateFinalStatus testRunIds).testRuns.get testRunId =
      (db.testRuns.get testRunId).map fun run =>
        if testRunId ∈ testRunIds then db.finalStatus testRunId run else run :=
  get_update _ _ _

/-- The final status of a run agrees with its conclusion, if that is a verdict. -/
theorem agreesWith_finalStatus {row : AdaptConclusion} (run : TestRun)
    (hrow : db.conclusions.get testRunId = some row)
    (hverdict : row.conclusion ≠ .INSUFFICIENT_DATA) :
    AgreesWith (db.finalStatus testRunId run) row where
  evaluatingAdapt := by rw [if_neg hverdict, finalStatus]
  recorded := fun _ => rfl
  adaptTestRunOK := by
    intro ok hok
    have hbaseline : (db.finalStatus testRunId run).isBaseline = run.isBaseline := rfl
    rw [hbaseline, ← Option.mem_some_iff.1 hok, hrow]
    simp

end UpToDate

variable {env now db testRunIds} {db' : AdaptDatabase K Sk} {testRunId : String}

/-- The analysis fails, or it inserts results, replaces tracked results and draws
    conclusions from what is left. -/
theorem analyse_eq_some {processable : List String}
    (h : db.analyse env now testRunIds processable = some db') :
    ∃ db₁ trackedResults new, db.processAdaptResults env processable = some db₁ ∧
      ((db₁.deleteOrphanedResults processable).deleteTrackedResults processable).storeTrackedResults
        env processable = some { db₁.deleteOrphanedResults processable with trackedResults } ∧
      ofRows (conclusionRows { db₁.deleteOrphanedResults processable with trackedResults }
        processable now) = some new ∧
      db' = updateFinalStatus { db₁.deleteOrphanedResults processable with
        trackedResults, conclusions := upsert (fun _ new => new) new db₁.conclusions }
          testRunIds := by
  obtain ⟨db₁, h₁, h⟩ := Option.bind_eq_some_iff.1 h
  obtain ⟨db₂, h₂, h⟩ := Option.bind_eq_some_iff.1 h
  obtain ⟨db₃, h₃, h⟩ := Option.bind_eq_some_iff.1 h
  obtain ⟨trackedResults, rfl⟩ := storeTrackedResults_eq_some h₂
  obtain ⟨new, hnew, rfl⟩ := generateConclusions_eq_some h₃
  exact ⟨db₁, trackedResults, new, h₁, h₂, hnew, (Option.some.inj h).symm⟩

variable (db testRunIds) in
omit [Field K] [LinearOrder K] in
/-- The runs set aside, and what setting them aside leaves. -/
def validation : PreProcessingValidationResult × AdaptDatabase K Sk :=
  (db.updateEvaluationStatus testRunIds .IN_PROGRESS).runPreProcessingValidation testRunIds

/-- The transaction fails, or it finds all the runs, and writes about them all that
    they were set aside, or analyses those that are left. -/
theorem transaction_eq_some (h : db.transaction env now testRunIds = some db') :
    (∀ id ∈ testRunIds, (db.testRuns.get id).isSome) ∧
      (((db.validation testRunIds).1.processableTestRuns = [] ∧
        db' = (db.validation testRunIds).2.writeExclusionConclusions now
          (db.validation testRunIds).1) ∨
      ((db.validation testRunIds).1.processableTestRuns ≠ [] ∧
        (db.validation testRunIds).2.analyse env now testRunIds
          (db.validation testRunIds).1.processableTestRuns = some db')) := by
  rw [transaction] at h
  split at h
  · rename_i hruns
    refine ⟨List.all_eq_true.1 hruns, ?_⟩
    change (if (db.validation testRunIds).1.processableTestRuns = [] then
      some ((db.validation testRunIds).2.writeExclusionConclusions now
        (db.validation testRunIds).1)
      else (db.validation testRunIds).2.analyse env now testRunIds
        (db.validation testRunIds).1.processableTestRuns) = some db' at h
    split at h
    · rename_i hnone
      exact .inl ⟨hnone, (Option.some.inj h).symm⟩
    · rename_i hsome
      exact .inr ⟨hsome, h⟩
  · cases h

omit [Field K] [LinearOrder K] in
theorem mem_validated_processable :
    testRunId ∈ (db.validation testRunIds).1.processableTestRuns ↔
      testRunId ∈ testRunIds ∧ ¬db.Excluded testRunId := by
  rw [validation, mem_processableTestRuns, excluded_updateEvaluationStatus]

omit [Field K] [LinearOrder K] in
theorem isSome_testRuns_validation :
    ((db.validation testRunIds).2.testRuns.get testRunId).isSome =
      (db.testRuns.get testRunId).isSome := by
  rw [validation, isSome_testRuns_validated, get_updateEvaluationStatus, Option.isSome_map]

theorem execute_eq_true (h : db.execute env now testRunIds = (true, db')) :
    testRunIds ≠ [] ∧ db.transaction env now testRunIds = some db' := by
  rw [execute] at h
  split at h
  · cases h
  · rename_i hids
    split at h
    · rename_i htransaction
      rw [htransaction, (Prod.mk.inj h).2]
      exact ⟨hids, rfl⟩
    · cases h

/-! ### What the analysis leaves alone -/

/-- The tables that the analysis only reads are the same. -/
structure SameInput (db db' : AdaptDatabase K Sk) : Prop where
  changePoints : db'.changePoints = db.changePoints
  applicationDashboards : db'.applicationDashboards = db.applicationDashboards
  dynatraceQueries : db'.dynatraceQueries = db.dynatraceQueries
  compareConfigs : db'.compareConfigs = db.compareConfigs
  samples : db'.samples = db.samples
  metricStatistics : db'.metricStatistics = db.metricStatistics
  controlGroups : db'.controlGroups = db.controlGroups
  controlGroupStatistics : db'.controlGroupStatistics = db.controlGroupStatistics

theorem execute_sameInput (h : db.execute env now testRunIds = (true, db')) :
    SameInput db db' := by
  obtain ⟨-, ⟨-, rfl⟩ | ⟨-, h⟩⟩ := transaction_eq_some (execute_eq_true h).2
  · exact ⟨rfl, rfl, rfl, rfl, rfl, rfl, rfl, rfl⟩
  · obtain ⟨db₁, trackedResults, new, h₁, -, -, rfl⟩ := analyse_eq_some h
    obtain ⟨scope, rows, -, -, rfl⟩ := processAdaptResults_eq_some h₁
    exact ⟨rfl, rfl, rfl, rfl, rfl, rfl, rfl, rfl⟩

omit [Field K] [LinearOrder K] in
theorem standing_updateEvaluationStatus {status : EvaluationStatus} :
    ((db.updateEvaluationStatus testRunIds status).testRuns.get testRunId).map TestRun.standing =
      (db.testRuns.get testRunId).map TestRun.standing := by
  rw [get_updateEvaluationStatus, Option.map_map]
  refine congrArg (fun f => Option.map f _) (funext fun run => ?_)
  dsimp only [Function.comp]
  split <;> rfl

omit [Field K] [LinearOrder K] in
theorem standing_updateFinalStatus :
    ((db.updateFinalStatus testRunIds).testRuns.get testRunId).map TestRun.standing =
      (db.testRuns.get testRunId).map TestRun.standing := by
  rw [get_updateFinalStatus, Option.map_map]
  refine congrArg (fun f => Option.map f _) (funext fun run => ?_)
  dsimp only [Function.comp]
  split
  · rw [TestRun.standing, TestRun.standing, TestRun.meetsRequirement, TestRun.meetsRequirement,
      finalStatus]
    cases run.consolidatedResult <;> rfl
  · rfl

omit [Field K] [LinearOrder K] in
theorem standing_validation :
    ((db.validation testRunIds).2.testRuns.get testRunId).map TestRun.standing =
      (db.testRuns.get testRunId).map TestRun.standing := by
  simp only [validation, runPreProcessingValidation, standing_updateEvaluationStatus]

/-- The runs are left as they are, but for what the analysis writes on them. -/
theorem execute_standing (h : db.execute env now testRunIds = (true, db')) (testRunId : String) :
    (db'.testRuns.get testRunId).map TestRun.standing =
      (db.testRuns.get testRunId).map TestRun.standing := by
  obtain ⟨-, ⟨-, rfl⟩ | ⟨-, h⟩⟩ := transaction_eq_some (execute_eq_true h).2
  · exact standing_validation
  · obtain ⟨db₁, trackedResults, new, h₁, -, -, rfl⟩ := analyse_eq_some h
    obtain ⟨scope, rows, -, -, rfl⟩ := processAdaptResults_eq_some h₁
    rw [standing_updateFinalStatus]
    exact standing_validation

/-- The results of other runs are left as they are. -/
theorem execute_results_frame (h : db.execute env now testRunIds = (true, db'))
    {key : ResultKey} (hkey : key.testRunId ∉ testRunIds) :
    db'.results.get key = db.results.get key := by
  obtain ⟨-, ⟨-, rfl⟩ | ⟨-, h⟩⟩ := transaction_eq_some (execute_eq_true h).2
  · rfl
  · obtain ⟨db₁, trackedResults, new, h₁, -, -, rfl⟩ := analyse_eq_some h
    obtain ⟨scope, rows, -, hrows, rfl⟩ := processAdaptResults_eq_some h₁
    have hprocessable : key.testRunId ∉ (db.validation testRunIds).1.processableTestRuns :=
      fun hmem => hkey (mem_validated_processable.1 hmem).1
    have hnone : rows.get key = none := by
      rw [← Option.not_isSome_iff_eq_none, Option.isSome_iff_exists]
      rintro ⟨r, hr⟩
      obtain ⟨ms, hms, -, -, -, -, rfl, -⟩ := mem_finalResults.1 ((mem_of_ofRows hrows _ _).1 hr)
      exact hprocessable (mem_testMetrics.1 hms).2.1
    refine (get_filter _ _ _).trans ?_
    rw [upsert_of_none hnone]
    simp only [hprocessable, false_and, decide_false, Bool.not_false]
    change Option.filter (fun _ => true) (db.results.get key) = db.results.get key
    cases db.results.get key <;> rfl

/-- A result that was not there before is one that was inserted, for the scope of the
    runs that are left. -/
theorem execute_new_result (h : db.execute env now testRunIds = (true, db')) {key : ResultKey}
    {result : AdaptResult K} (hresult : db'.results.get key = some result)
    (hold : db.results.get key = none) :
    ∃ scope, (db.validation testRunIds).2.testRunInfo
        (db.validation testRunIds).1.processableTestRuns = some scope ∧
      (key, result) ∈ db.finalResults env
        (db.validation testRunIds).1.processableTestRuns scope := by
  obtain ⟨-, ⟨-, rfl⟩ | ⟨-, h⟩⟩ := transaction_eq_some (execute_eq_true h).2
  · rw [← Option.not_isSome_iff_eq_none, Option.isSome_iff_exists] at hold
    exact absurd ⟨result, hresult⟩ hold
  · obtain ⟨db₁, trackedResults, new, h₁, -, -, rfl⟩ := analyse_eq_some h
    obtain ⟨scope, rows, hscope, hrows, rfl⟩ := processAdaptResults_eq_some h₁
    have hleft := (mem_deleteOrphanedResults.1 (mem_rows.2 hresult)).1
    have hupsert : (upsert updateResult rows db.results).get key = some result :=
      mem_rows.1 hleft
    rw [get_upsert, hold] at hupsert
    refine ⟨scope, hscope, (mem_of_ofRows hrows _ _).1 ?_⟩
    cases hrow : rows.get key <;> rw [hrow] at hupsert <;> exact hupsert

/-! ### A run that is analysed -/

/-- A run that is analysed, and has a result left, gets a conclusion about its results,
    and its status agrees. -/
theorem analysed_of_keepsResult {processable : List String}
    (h : db.analyse env now testRunIds processable = some db') (hid : testRunId ∈ testRunIds)
    (hprocessable : testRunId ∈ processable) (hrun : (db.testRuns.get testRunId).isSome)
    (hkeeps : db.KeepsResult testRunId) :
    ∃ row ∈ db'.conclusions.get testRunId, ∃ run ∈ db'.testRuns.get testRunId,
      row.updatedAt = now ∧ Summarises db' testRunId row ∧ AgreesWith run row := by
  obtain ⟨db₁, trackedResults, new, h₁, -, hnew, rfl⟩ := analyse_eq_some h
  obtain ⟨controlGroupId, hrow⟩ := conclusion_of_results hnew hprocessable
    ((exists_result_iff hprocessable h₁).2 hkeeps)
  obtain ⟨scope, rows, -, -, rfl⟩ := processAdaptResults_eq_some h₁
  obtain ⟨run, hrun⟩ := Option.isSome_iff_exists.1 hrun
  set left : AdaptDatabase K Sk :=
    { deleteOrphanedResults { db with results := upsert updateResult rows db.results }
        processable with
      trackedResults
      conclusions := upsert (fun _ new => new) new db.conclusions } with hleft
  have hconclusion : left.conclusions.get testRunId =
      some (left.conclude now testRunId controlGroupId (left.resultsOf testRunId)) := by
    change (upsert (fun _ new => new) new db.conclusions).get testRunId = _
    rw [get_upsert, hrow]
    cases db.conclusions.get testRunId <;> rfl
  refine ⟨_, hconclusion, left.finalStatus testRunId run, ?_, rfl, ?_, ?_⟩
  · have hfinal : (left.updateFinalStatus testRunIds).testRuns.get testRunId =
        (db.testRuns.get testRunId).map fun run =>
          if testRunId ∈ testRunIds then left.finalStatus testRunId run else run :=
      get_updateFinalStatus
    rw [Option.mem_def, hfinal, hrun, Option.map_some, if_pos hid]
  · -- The status update leaves the results as they are.
    have hsummary : Summarises left testRunId
        (left.conclude now testRunId controlGroupId (left.resultsOf testRunId)) :=
      summarises_conclude controlGroupId
    exact ⟨hsummary.regressions, hsummary.improvements, hsummary.differences,
      hsummary.trackedRegressions, hsummary.conclusion⟩
  · exact agreesWith_finalStatus run hconclusion (conclude_ne_insufficientData _ _)

/-- The analysis leaves a result of every metric that is compared. -/
theorem analysed_result {processable : List String} {scope : CompareScope}
    {ms : MetricStatistics K Sk} {compareConfig : CompareConfig K}
    (h : db.analyse env now testRunIds processable = some db')
    (hscope : db.testRunInfo processable = some scope) (hms : ms ∈ db.testMetrics processable)
    (hconfig : compareConfig ∈ resolve db.compareConfigs scope ms.key) :
    ∃ r control, (⟨ms.testRunId, ms.testRunId, ms.key⟩, r) ∈ db'.results.rows ∧
      r.comparison = compareMetric compareConfig
        (adaptMinSampleCount env.ADAPT_MIN_SAMPLE_COUNT) ms control := by
  obtain ⟨db₁, trackedResults, new, h₁, -, -, rfl⟩ := analyse_eq_some h
  exact exists_result_of_metric h₁ hscope hms hconfig

/-- The tracked results that the analysis leaves are those found in the tables that it
    reads, with the results that it leaves. -/
theorem analysed_trackedResult {processable : List String} {scope : CompareScope}
    (h : db.analyse env now testRunIds processable = some db')
    (hscope : db.testRunInfo processable = some scope) :
    ∃ left, SameInput db left ∧ left.testRuns = db.testRuns ∧ left.results = db'.results ∧
      ∀ k r, k.testRunId ∈ processable → (k, r) ∈ left.finalTrackedResults env processable scope →
        db'.trackedResults.get k = some r := by
  obtain ⟨db₁, trackedResults, new, h₁, hstore, -, rfl⟩ := analyse_eq_some h
  refine ⟨db₁.deleteOrphanedResults processable, ?_, ?_, rfl, ?_⟩
  · obtain ⟨scope', rows, -, -, rfl⟩ := processAdaptResults_eq_some h₁
    exact ⟨rfl, rfl, rfl, rfl, rfl, rfl, rfl, rfl⟩
  · obtain ⟨scope', rows, -, -, rfl⟩ := processAdaptResults_eq_some h₁
    rfl
  · intro k r hid hr
    have hscope' : (db₁.deleteOrphanedResults processable).testRunInfo processable =
        some scope := by
      obtain ⟨scope', rows, -, -, rfl⟩ := processAdaptResults_eq_some h₁
      exact hscope
    have htracked := get_storeTrackedResults hstore hscope' hid hr
    exact htracked

/-- Any other run keeps its conclusion. -/
theorem conclusion_kept {processable : List String}
    (h : db.analyse env now testRunIds processable = some db')
    (hkeeps : testRunId ∈ processable → ¬db.KeepsResult testRunId) :
    db'.conclusions.get testRunId = db.conclusions.get testRunId := by
  obtain ⟨db₁, trackedResults, new, h₁, -, hnew, rfl⟩ := analyse_eq_some h
  have hnone : new.get testRunId = none := by
    refine conclusion_eq_none hnew fun hprocessable row hrow hrun => hkeeps hprocessable ?_
    exact (exists_result_iff hprocessable h₁).1 ⟨row, hrow, hrun⟩
  obtain ⟨scope, rows, -, -, rfl⟩ := processAdaptResults_eq_some h₁
  exact upsert_of_none hnone

/-! ### A run that is set aside with all the others -/

variable (now) in
omit [Field K] [LinearOrder K] in
theorem get_writeExclusionConclusions (hid : testRunId ∈ testRunIds)
    (hexcluded : db.Excluded testRunId) :
    ((db.validation testRunIds).2.writeExclusionConclusions now
        (db.validation testRunIds).1).conclusions.get testRunId =
      some (((db.conclusions.get testRunId).map fun old => updateExclusion old
        ((db.validation testRunIds).2.exclusionConclusion now (db.validation testRunIds).1
          testRunId)).getD
        ((db.validation testRunIds).2.exclusionConclusion now (db.validation testRunIds).1
          testRunId)) := by
  have hmem : testRunId ∈ (db.validation testRunIds).1.changepoints ++
      (db.validation testRunIds).1.tooShortTestRuns ++
        (db.validation testRunIds).1.emptyControlGroups :=
    mem_allExcluded.2 ⟨hid, excluded_updateEvaluationStatus.2 hexcluded⟩
  have hself : ∀ r, updateExclusion r r = r := fun _ => rfl
  have hagain : ∀ o r, updateExclusion (updateExclusion o r) r = updateExclusion o r :=
    fun _ _ => rfl
  rw [writeExclusionConclusions]
  dsimp only
  rw [get_foldl_insert hself hagain, if_pos hmem]
  rfl

omit [Field K] [LinearOrder K] in
/-- A run that is set aside with all the others gets a conclusion of insufficient data
    that is up to date if and only if nothing on record speaks against that. -/
theorem upToDate_of_excluded (hid : testRunId ∈ testRunIds) (hexcluded : db.Excluded testRunId)
    (hrun : (db.testRuns.get testRunId).isSome) :
    UpToDate db ((db.validation testRunIds).2.writeExclusionConclusions now
      (db.validation testRunIds).1) now testRunId ↔ db.NothingAgainst testRunId := by
  obtain ⟨run, hrun⟩ := Option.isSome_iff_exists.1 hrun
  have hrow := get_writeExclusionConclusions now hid hexcluded
  set new := (db.validation testRunIds).2.exclusionConclusion now
    (db.validation testRunIds).1 testRunId
  have hafter : ((db.validation testRunIds).2.writeExclusionConclusions now
      (db.validation testRunIds).1).testRuns.get testRunId =
        some { run with evaluatingAdapt := some .NO_BASELINES_FOUND } := by
    change (db.validation testRunIds).2.testRuns.get testRunId = _
    rw [validation, get_testRuns_of_excluded hid (excluded_updateEvaluationStatus.2 hexcluded),
      get_updateEvaluationStatus, hrun, Option.map_some, Option.map_some, if_pos hid]
  set row := ((db.conclusions.get testRunId).map fun old => updateExclusion old new).getD new
    with hrowdef
  have hverdict : row.conclusion = .INSUFFICIENT_DATA ∧ row.updatedAt = now := by
    rw [hrowdef]
    cases db.conclusions.get testRunId <;> exact ⟨rfl, rfl⟩
  have hlists : ListsNothing row ↔ ∀ old ∈ db.conclusions.get testRunId, ListsNothing old := by
    rw [hrowdef]
    cases db.conclusions.get testRunId with
    | none => exact ⟨fun _ _ h => absurd h (Option.not_mem_none _), fun _ => ⟨rfl, rfl, rfl, rfl⟩⟩
    | some old =>
      constructor
      · rintro ⟨h₁, h₂, h₃, h₄⟩ _ hold
        obtain rfl := Option.mem_some_iff.1 hold
        exact ⟨h₁, h₂, h₃, h₄⟩
      · intro h
        obtain ⟨h₁, h₂, h₃, h₄⟩ := h old rfl
        exact ⟨h₁, h₂, h₃, h₄⟩
  constructor
  · rintro ⟨row', hrow', run', hrun', -, hex, -, hagrees⟩
    obtain rfl := Option.some.inj (hrow.symm.trans hrow')
    obtain rfl := Option.some.inj (hafter.symm.trans hrun')
    refine ⟨hlists.1 (hex hexcluded).2, fun run'' hrun'' hok => ?_⟩
    obtain rfl := Option.some.inj (hrun.symm.trans hrun'')
    have := hagrees.adaptTestRunOK false hok
    simp [hverdict.1] at this
  · rintro ⟨hnothing, hok⟩
    refine ⟨row, hrow, _, hafter, hverdict.2, fun _ => ⟨hverdict.1, hlists.2 hnothing⟩,
      fun h => absurd hexcluded h, ?_⟩
    refine ⟨by rw [if_pos hverdict.1], fun h => absurd hverdict.1 h, ?_⟩
    intro ok hrecorded
    cases ok with
    | false => exact absurd hrecorded (hok run hrun)
    | true => simp [hverdict.1]

/-! ### The pipeline -/

/-- The analysis of some runs leaves each of them up to date if and only if it sets all
    of them aside, and nothing on record speaks against insufficient data, or it sets
    none of them aside, and each has a result left. -/
theorem execute_upToDate_iff
    (hnow : ∀ id, ∀ row ∈ db.conclusions.get id, row.updatedAt < now)
    (h : db.execute env now testRunIds = (true, db')) :
    (∀ id ∈ testRunIds, UpToDate db db' now id) ↔
      (∀ id ∈ testRunIds, db.Excluded id ∧ db.NothingAgainst id) ∨
        ∀ id ∈ testRunIds, ¬db.Excluded id ∧ db.KeepsResult id := by
  obtain ⟨hruns, ⟨hnone, rfl⟩ | ⟨hsome, hanalyse⟩⟩ := transaction_eq_some (execute_eq_true h).2
  · -- All runs are set aside.
    have hexcluded : ∀ id ∈ testRunIds, db.Excluded id := by
      intro id hid
      by_contra hex
      have hmem := mem_validated_processable.2 ⟨hid, hex⟩
      rw [hnone] at hmem
      cases hmem
    constructor
    · intro hall
      exact .inl fun id hid => ⟨hexcluded id hid,
        (upToDate_of_excluded hid (hexcluded id hid) (hruns id hid)).1 (hall id hid)⟩
    · rintro (hall | hall) id hid
      · exact (upToDate_of_excluded hid (hexcluded id hid) (hruns id hid)).2 (hall id hid).2
      · exact absurd (hexcluded id hid) (hall id hid).1
  · -- Some run is left: the conclusions about the others are those on record.
    have hstale : ∀ id, db'.conclusions.get id = db.conclusions.get id →
        ¬UpToDate db db' now id := by
      rintro id hkept ⟨row, hrow, -, -, hupdated, -⟩
      have := hnow id row (hkept ▸ hrow)
      omega
    obtain ⟨id₁, hid₁⟩ := List.exists_mem_of_ne_nil _ hsome
    rw [mem_validated_processable] at hid₁
    constructor
    · intro hall
      refine .inr fun id hid => ?_
      by_contra hnot
      have hkept := conclusion_kept hanalyse fun hmem hkeeps =>
        hnot ⟨(mem_validated_processable.1 hmem).2, hkeeps⟩
      exact hstale id hkept (hall id hid)
    · rintro (hall | hall) id hid
      · exact absurd (hall id₁ hid₁.1).1 hid₁.2
      · obtain ⟨hexcluded, hkeeps⟩ := hall id hid
        obtain ⟨row, hrow, run, hrun, hupdated, hsummary, hagrees⟩ :=
          analysed_of_keepsResult hanalyse hid (mem_validated_processable.2 ⟨hid, hexcluded⟩)
            (isSome_testRuns_validation.trans (hruns id hid)) hkeeps
        exact ⟨row, hrow, run, hrun, hupdated, fun hex => absurd hex hexcluded,
          fun _ => hsummary, hagrees⟩

end AdaptDatabase

/-! ## A regression made a change point -/

/-- A run of a shop that met its requirements. -/
def adaptRun (testRunId : String) (startTime : ℤ) : TestRun where
  testRunId
  systemUnderTestId := "shop"
  testEnvironment := "test"
  workload := "load"
  organizationId := some "organization"
  teamId := none
  startTime := some startTime
  endTime := some (startTime + 600000)
  duration := some 600
  analysisStartOffset := some 60
  analysisEndOffset := none
  adaptConfig := none
  evaluatingChecks := some .COMPLETED
  evaluatingAdapt := none
  consolidatedResult := some { meetsRequirement := some true }
  valid := some true
  reasonsNotValid := none
  dataWarnings := none

/-- The statistics of two samples of one value. -/
def adaptStatistics (testRunId : String) (value : ℚ) : MetricStatistics ℚ (Multiset ℚ) where
  testRunId
  key := metricOf "latency"
  columns := ⟨some value, some value, some value, some value, some 0, some value, some value,
    some value, some value, some value, some value, some value, some 0⟩
  count := some 2
  nMissing := some 0
  nNonZero := some 2
  sumValue := some (2 * value)
  sumSqValue := some (2 * value * value)
  pctAgg := some {value, value}
  metadata := ⟨none, none, none, none, none, some "source"⟩

/-- The greatest latency must not be half as high again. -/
def latencyConfig : CompareConfigRow ℚ where
  systemUnderTestId := "shop"
  testEnvironment := none
  workload := "load"
  applicationDashboardId := some "dashboard"
  panelId := none
  metricName := none
  configData :=
    { aggregation := some "max"
      percentageThreshold := some (1 / 2)
      higherIsBetter := some false }

/-- A deployment that names rows after their runs. -/
def adaptEnvironment : AdaptEnvironment where
  ADAPT_MIN_SAMPLE_COUNT := none
  newResultId key := "result of " ++ key.testRunId
  newTrackedId key := "tracked result of " ++ key.testRunId

/-- A run that is twice as slow as its control group. -/
def slowRun : AdaptDatabase ℚ (Multiset ℚ) where
  testRuns := ⟨[("slow", adaptRun "slow" 1000000)], List.nodup_singleton _⟩
  changePoints := []
  applicationDashboards := [("dashboard", "organization")]
  dynatraceQueries := []
  compareConfigs := [latencyConfig]
  samples := []
  metricStatistics := [adaptStatistics "slow" 200]
  controlGroups :=
    ⟨[("slow", ⟨"slow", some ["fast"], some "organization", none⟩)], List.nodup_singleton _⟩
  controlGroupStatistics :=
    ⟨[(("slow", metricOf "latency"),
      { leftoverRow 100 with count := 2, metricsSourceId := some "source" })],
      List.nodup_singleton _⟩
  results := Table.empty
  trackedResults := Table.empty
  conclusions := Table.empty

/-- The run was concluded a regression. -/
def regressedBefore : AdaptDatabase ℚ (Multiset ℚ) :=
  (slowRun.execute adaptEnvironment 0 ["slow"]).2

/-- It was made a change point since. -/
def changedBefore : AdaptDatabase ℚ (Multiset ℚ) :=
  { regressedBefore with
    changePoints := [⟨"slow", "shop", "test", "load", some "organization"⟩] }

/-- A run that was concluded a regression and made a change point still lists the
    regression once it is analysed again. -/
theorem changed_keeps_regression :
    (∀ row ∈ changedBefore.conclusions.rows, row.2.updatedAt < 1) ∧
      (changedBefore.execute adaptEnvironment 1 ["slow"]).1 ∧
      ¬AdaptDatabase.UpToDate changedBefore
        (changedBefore.execute adaptEnvironment 1 ["slow"]).2 1 "slow" := by
  refine ⟨by decide +kernel, by decide +kernel, ?_⟩
  rintro ⟨row, hrow, -, -, -, hexcluded, -⟩
  have hchanged : changedBefore.Excluded "slow" := .inl ⟨_, List.mem_singleton_self _, rfl⟩
  have hlists : ((changedBefore.execute adaptEnvironment 1 ["slow"]).2.conclusions.get
      "slow").all fun row => row.regressions = ["result of slow"] := by decide +kernel
  rw [Option.mem_def.1 hrow, Option.all_some, (hexcluded hchanged).2.regressions] at hlists
  cases hlists

/-- Analysed again without being made a change point, it is up to date. -/
theorem execute_upToDate_regressed :
    AdaptDatabase.UpToDate regressedBefore
      (regressedBefore.execute adaptEnvironment 1 ["slow"]).2 1 "slow" := by
  have hnow : ∀ id, ∀ row ∈ regressedBefore.conclusions.get id, row.updatedAt < 1 := by
    have hrows : ∀ row ∈ regressedBefore.conclusions.rows, row.2.updatedAt < 1 := by
      decide +kernel
    exact fun id row hrow => hrows (id, row) (mem_rows.2 hrow)
  have hsucceeds : regressedBefore.execute adaptEnvironment 1 ["slow"] =
      (true, (regressedBefore.execute adaptEnvironment 1 ["slow"]).2) :=
    Prod.ext (by decide +kernel) rfl
  refine (AdaptDatabase.execute_upToDate_iff hnow hsucceeds).2 (.inr ?_) "slow"
    (List.mem_singleton_self _)
  intro id hid
  obtain rfl := List.mem_singleton.1 hid
  have hprocessable : "slow" ∈ (regressedBefore.validation ["slow"]).1.processableTestRuns := by
    decide +kernel
  have hstatistics : ∃ ms ∈ regressedBefore.metricStatistics, ms.testRunId = "slow" ∧
      ms.key.applicationDashboardId ∈ regressedBefore.validDashboards := by decide +kernel
  exact ⟨(AdaptDatabase.mem_validated_processable.1 hprocessable).2, .inl hstatistics⟩

/-! ## What the conclusions count -/

namespace AdaptDatabase

variable {K Sk : Type} [Field K] [LinearOrder K] {db db' : AdaptDatabase K Sk}

/-- A batch of runs is analysed, or the tables change, and there are no new results. -/
inductive AdaptStep (K Sk : Type)
  | analyse (env : AdaptEnvironment) (now : ℤ) (testRunIds : List String)
  | change (db' : AdaptDatabase K Sk)

def adaptStep (db : AdaptDatabase K Sk) : AdaptStep K Sk → Option (AdaptDatabase K Sk)
  | .analyse env now testRunIds => some (db.execute env now testRunIds).2
  | .change db' => some db'

def KeepsResults (db : AdaptDatabase K Sk) : AdaptStep K Sk → Prop
  | .analyse _ _ _ => True
  | .change db' => ∀ row ∈ db'.results.rows, row ∈ db.results.rows

/-- The results are those of comparisons. -/
def IsCompared (db : AdaptDatabase K Sk) : Prop := ∀ row ∈ db.results.rows,
  ∃ config n, ∃ ms : MetricStatistics K Sk, ∃ control,
    row.2.comparison = compareMetric config n ms control

theorem IsCompared.execute (h : db.IsCompared) (env : AdaptEnvironment) (now : ℤ)
    (testRunIds : List String) : (db.execute env now testRunIds).2.IsCompared := by
  rintro ⟨key, result⟩ hrow
  rw [AdaptDatabase.execute] at hrow
  split at hrow
  · exact h _ hrow
  split at hrow
  · rename_i db' htransaction
    obtain ⟨-, ⟨-, rfl⟩ | ⟨-, hanalyse⟩⟩ := transaction_eq_some htransaction
    · exact h _ hrow
    · obtain ⟨db₁, trackedResults, new, h₁, -, -, rfl⟩ := analyse_eq_some hanalyse
      obtain ⟨scope, rows, -, hrows, rfl⟩ := processAdaptResults_eq_some h₁
      have hupsert : (upsert updateResult rows db.results).get key = some result :=
        mem_rows.1 (mem_deleteOrphanedResults.1 hrow).1
      rw [get_upsert] at hupsert
      cases hnew : rows.get key with
      | none =>
        rw [hnew] at hupsert
        exact h _ (mem_rows.2 hupsert)
      | some row =>
        obtain ⟨ms, -, control, -, config, -, -, rfl⟩ :=
          mem_finalResults.1 ((mem_of_ofRows hrows _ _).1 hnew)
        refine ⟨config, adaptMinSampleCount env.ADAPT_MIN_SAMPLE_COUNT, ms, control, ?_⟩
        cases hold : db.results.get key <;> rw [hnew, hold] at hupsert <;> cases hupsert <;> rfl
  · exact h _ hrow

/-- However often runs are analysed, each result of a run that is not ignored is in one of the
    classes that its conclusion counts. -/
theorem run_countsAddUp {es : List (AdaptStep K Sk)} (h : Run adaptStep KeepsResults db es db')
    (hnone : db.results.rows = []) (testRunId : String) :
    let results := resultsOfRun (db'.results.rows.map storedResult) testRunId
    (conclusionClasses.map (countWith results)).sum =
      results.countP fun r => r.conclusion.counted := by
  have hstart : db.IsCompared := by
    intro row hrow
    rw [hnone] at hrow
    cases hrow
  have hcompared : db'.IsCompared := h.state_invariant hstart fun s e s' hs hok hstep => by
    cases e with
    | analyse env now testRunIds =>
      cases hstep
      exact hs.execute env now testRunIds
    | change db' =>
      cases hstep
      exact fun row hrow => hs row (hok row hrow)
  dsimp only
  rw [sum_classes]
  refine List.countP_congr fun r hr => ⟨StoredConclusion.counted_of_any, fun hcounted => ?_⟩
  obtain ⟨row, hrow, rfl⟩ := List.mem_map.1 (List.mem_filter.1 hr).1
  obtain ⟨config, n, ms, control, hcomparison⟩ := hcompared row hrow
  rw [storedResult, hcomparison] at hcounted ⊢
  exact hasLabel_of_compareMetric config n ms control hcounted

theorem run_countsAddUp_slow :
    let results := resultsOfRun
      ((slowRun.execute adaptEnvironment 1 ["slow"]).2.results.rows.map storedResult) "slow"
    (conclusionClasses.map (countWith results)).sum =
      results.countP fun r => r.conclusion.counted := by
  have hrun : Run adaptStep KeepsResults slowRun
      ([] ++ [.analyse adaptEnvironment 1 ["slow"]]) _ := .snoc .start trivial rfl
  exact run_countsAddUp hrun rfl "slow"

end AdaptDatabase

end Perfana
