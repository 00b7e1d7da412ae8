import Mathlib.Data.List.Induction
import Mathlib.Tactic.SplitIfs
import Perfana.Checks.Verdict
import Perfana.Lib.Table
import Perfana.Lib.Transaction

/-!
# The transactions of the checks stage

The stage goes through its runs one by one. It sets the status of a run to in
progress in a transaction of its own, so that it is seen at once, and evaluates
the run in a second one; every operation of either may throw. An evaluation that
throws sets the status to an error in the transaction that it then rolls back, so
that the run is left in progress.

* `runCheckPipeline_status`: after the stage, the status of a run is the one that
  its last evaluation leaves;
* `runCheckPipeline_evaluated_iff`: no run is left in progress, and those that
  failed end in an error, if and only if the last evaluation of every run goes
  through.
-/

namespace Perfana

namespace ChecksPipeline

/-- The runs with their check results, by their id. -/
abbrev Database := Table String CheckedRun

/-- What the stage meets at a run of its list: the operations that throw, each with
    its error, and the benchmarks with their outcomes. -/
structure Attempt where
  testRunId : String
  /-- The update of its status to in progress. -/
  inProgressUpdate : Option String := none
  /-- The commit of that update. -/
  inProgressCommit : Option String := none
  /-- The query for the run. -/
  load : Option String := none
  deletion : Option String := none
  /-- The query for its benchmarks, each with its outcome. -/
  benchmarks : Except MatchError (List BenchmarkOutcome)
  /-- The update of its status after the benchmarks. -/
  statusUpdate : Option String := none
  /-- The update of its validity. -/
  validUpdate : Option String := none
  consolidatedUpdate : Option String := none
  /-- The update of its status in the handler. -/
  handlerUpdate : Option String := none
  /-- The commit of the evaluation. -/
  commit : Option String := none

/-- What the stage reports. -/
structure ChecksPipelineResult where
  /-- The number of runs evaluated. -/
  processedTestRuns : ℕ := 0
  /-- The runs that failed, each with its error. -/
  failedTestRuns : List (String × MatchError) := []

/-- An operation that writes nothing, and may throw. -/
def operation (fault : Option String) : Tx Database MatchError PUnit :=
  Tx.write (fault.map .failed) id

def updateRun (testRunId : String) (fault : Option String) (f : CheckedRun → CheckedRun) :
    Tx Database MatchError PUnit :=
  Tx.write (fault.map .failed) fun db =>
    db.update fun id state => if id = testRunId then f state else state

/-- A run with another status of its checks. -/
def setEvaluatingChecks (status : EvaluationStatus) (state : CheckedRun) : CheckedRun :=
  { state with run := { state.run with evaluatingChecks := some status } }

/-- An update of the status of the checks of a run. -/
def updateTestRunStatus (testRunId : String) (fault : Option String)
    (status : EvaluationStatus) : Tx Database MatchError PUnit :=
  updateRun testRunId fault (setEvaluatingChecks status)

/-- The handler of an evaluation that throws: it sets the status, and throws again. -/
def processingFailed (a : Attempt) (error : String) : Tx Database MatchError PUnit := do
  updateTestRunStatus a.testRunId a.handlerUpdate .ERROR
  throw (.failed ("Failed to process test run " ++ a.testRunId ++ ": " ++ error))

/-- The evaluation of a run whose old results are deleted. -/
def processSingleTestRun (a : Attempt) : Tx Database MatchError PUnit := do
  try
    match a.benchmarks with
    | .error e => throw e
    | .ok [] => updateTestRunStatus a.testRunId a.statusUpdate .NOT_CONFIGURED
    | .ok outcomes =>
      let error := hasError outcomes
      -- A benchmark that fails is rolled back to its savepoint.
      updateRun a.testRunId none fun state =>
        { state with
          checkResults := state.checkResults ++ outcomes.filterMap BenchmarkOutcome.checkResult? }
      updateTestRunStatus a.testRunId a.statusUpdate (if error then .ERROR else .COMPLETED)
      updateRun a.testRunId a.validUpdate fun state =>
        { state with run := { state.run with valid := some (!error) } }
      updateRun a.testRunId a.consolidatedUpdate fun state =>
        { state with
          run :=
            { state.run with
              consolidatedResult := updateConsolidatedResult state.checkResults
                (hasBenchmarkFailure outcomes) state.run.consolidatedResult } }
  catch
    | .benchmarkNotFound => updateTestRunStatus a.testRunId a.handlerUpdate .NOT_CONFIGURED
    | .failed error => processingFailed a error

/-- The transaction that sets the status of a run to in progress. -/
def startTestRun (a : Attempt) : Tx Database MatchError PUnit :=
  Tx.withTransaction do
    updateTestRunStatus a.testRunId a.inProgressUpdate .IN_PROGRESS
    operation a.inProgressCommit

/-- The transaction that evaluates a run; whether the run was found. -/
def evaluateTestRun (metricFilter : MetricFilter) (a : Attempt) : Tx Database MatchError Bool :=
  Tx.withTransaction do
    operation a.load
    match (← get).get a.testRunId with
    | none =>
      operation a.commit
      return false
    | some _ =>
      updateRun a.testRunId a.deletion fun state =>
        { state with checkResults := deleteExistingCheckResults metricFilter state.checkResults }
      processSingleTestRun a
      operation a.commit
      return true

/-- The stage at a run: what it reports, and the database it leaves. -/
def processTestRun (metricFilter : MetricFilter) (a : Attempt)
    (s : ChecksPipelineResult × Database) : ChecksPipelineResult × Database :=
  let (result, db) := s
  let evaluation : Tx Database MatchError Bool := do
    startTestRun a
    evaluateTestRun metricFilter a
  let failed := fun e =>
    { result with failedTestRuns := result.failedTestRuns ++ [(a.testRunId, e)] }
  match evaluation.exec db with
  | (.ok true, db) => ({ result with processedTestRuns := result.processedTestRuns + 1 }, db)
  | (.ok false, db) => (failed (.failed "Test run not found"), db)
  | (.error e, db) => (failed e, db)

/-- The stage over its runs, one by one. -/
def runCheckPipeline (metricFilter : MetricFilter) (attempts : List Attempt) (db : Database) :
    ChecksPipelineResult × Database :=
  attempts.foldl (fun s a => processTestRun metricFilter a s) ({}, db)

/-! ## The stage at a run -/

namespace Attempt

variable (a : Attempt)

/-- The status of the run is committed as in progress. -/
def Started : Bool := a.inProgressUpdate.isNone && a.inProgressCommit.isNone

/-- The run is evaluated without an operation that throws, its benchmarks aside. -/
def Processes : Bool :=
  match a.benchmarks with
  | .error .benchmarkNotFound => a.handlerUpdate.isNone
  | .error (.failed _) => false
  | .ok [] => a.statusUpdate.isNone
  | .ok _ => a.statusUpdate.isNone && a.validUpdate.isNone && a.consolidatedUpdate.isNone

/-- The evaluation of the run goes through, from its query to its commit. -/
def Commits : Bool :=
  a.load.isNone && a.deletion.isNone && a.Processes && a.commit.isNone

/-- The attempt, its transactions aside. -/
def stage (metricFilter : MetricFilter) : ChecksStage where
  metricFilter
  started := a.Started
  found := a.load.isNone && a.deletion.isNone
  benchmarks := a.benchmarks
  committed := a.Processes && a.commit.isNone

end Attempt

section Exec

variable (a : Attempt) (metricFilter : MetricFilter) (db : Database)

/-- The database with a run updated. -/
def updated (testRunId : String) (f : CheckedRun → CheckedRun) (db : Database) : Database :=
  db.update fun id state => if id = testRunId then f state else state

theorem get_updated (testRunId : String) (f : CheckedRun → CheckedRun) (id : String) :
    (updated testRunId f db).get id =
      (db.get id).map fun state => if id = testRunId then f state else state :=
  Table.get_update _ db id

theorem updated_updated (testRunId : String) (f g : CheckedRun → CheckedRun) :
    updated testRunId g (updated testRunId f db) = updated testRunId (g ∘ f) db := by
  simp only [updated, Table.update, Table.mk.injEq, List.map_map]
  refine List.map_congr_left fun row _ => ?_
  by_cases h : row.1 = testRunId <;> simp [h]

@[simp] theorem exec_updateRun_none (testRunId : String) (f : CheckedRun → CheckedRun) :
    (updateRun testRunId none f).exec db = (.ok ⟨⟩, updated testRunId f db) := rfl

@[simp] theorem exec_updateRun_some (testRunId e : String) (f : CheckedRun → CheckedRun) :
    (updateRun testRunId (some e) f).exec db = (.error (.failed e), db) := rfl

@[simp] theorem exec_operation_none : (operation none).exec db = (.ok ⟨⟩, db) := rfl

@[simp] theorem exec_operation_some (e : String) :
    (operation (some e)).exec db = (.error (.failed e), db) := rfl

/-- The transaction that starts a run writes its status, or nothing. -/
theorem exec_startTestRun :
    (a.Started = true ∧ (startTestRun a).exec db =
        (.ok ⟨⟩, updated a.testRunId (setEvaluatingChecks .IN_PROGRESS) db)) ∨
      (a.Started = false ∧ ∃ e, (startTestRun a).exec db = (.error e, db)) := by
  simp only [startTestRun, updateTestRunStatus, Attempt.Started, Tx.exec_withTransaction,
    Tx.exec_bind]
  cases hupdate : a.inProgressUpdate with
  | some e => exact .inr ⟨rfl, by simp⟩
  | none =>
    cases hcommit : a.inProgressCommit with
    | some e => exact .inr ⟨rfl, by simp⟩
    | none => exact .inl ⟨rfl, by simp⟩

/-- The handler throws, whether or not its update does. -/
theorem exec_processingFailed (error : String) :
    ∃ e db', (processingFailed a error).exec db = (.error e, db') := by
  rw [processingFailed, updateTestRunStatus, Tx.exec_bind]
  cases a.handlerUpdate with
  | some e => exact ⟨_, _, rfl⟩
  | none => exact ⟨_, _, rfl⟩

/-- The evaluation of a run whose old results are deleted writes what it should, or
    throws. -/
theorem exec_processSingleTestRun :
    (a.Processes = true ∧ ∃ f, (processSingleTestRun a).exec db =
        (.ok ⟨⟩, updated a.testRunId f db) ∧
        ∀ stage : ChecksStage, stage.benchmarks = a.benchmarks → stage.committed = true →
          ∀ state, Perfana.processSingleTestRun stage state = some (f state)) ∨
      (a.Processes = false ∧ ∃ e db', (processSingleTestRun a).exec db = (.error e, db')) := by
  rw [processSingleTestRun, Attempt.Processes, Tx.exec_tryCatch]
  match hbenchmarks : a.benchmarks with
  | .error .benchmarkNotFound =>
    cases hhandler : a.handlerUpdate with
    | some e => exact .inr ⟨rfl, by simp [updateTestRunStatus]⟩
    | none =>
      refine .inl ⟨rfl, setEvaluatingChecks .NOT_CONFIGURED, by simp [updateTestRunStatus], ?_⟩
      intro stage hstage hcommitted state
      simp [Perfana.processSingleTestRun, hstage, hcommitted, setEvaluatingChecks]
  | .error (.failed e) => exact .inr ⟨rfl, by simpa using exec_processingFailed a db e⟩
  | .ok [] =>
    cases hstatus : a.statusUpdate with
    | some e =>
      exact .inr ⟨rfl, by simpa [updateTestRunStatus] using exec_processingFailed a db e⟩
    | none =>
      refine .inl ⟨rfl, setEvaluatingChecks .NOT_CONFIGURED, by simp [updateTestRunStatus], ?_⟩
      intro stage hstage hcommitted state
      simp [Perfana.processSingleTestRun, hstage, hcommitted, setEvaluatingChecks]
  | .ok (o :: os) =>
    cases hstatus : a.statusUpdate with
    | some e =>
      exact .inr ⟨rfl, by simpa [updateTestRunStatus] using exec_processingFailed a _ e⟩
    | none =>
      cases hvalid : a.validUpdate with
      | some e =>
        exact .inr ⟨rfl, by simpa [updateTestRunStatus] using exec_processingFailed a _ e⟩
      | none =>
        cases hconsolidated : a.consolidatedUpdate with
        | some e =>
          exact .inr ⟨rfl, by simpa [updateTestRunStatus] using exec_processingFailed a _ e⟩
        | none =>
          refine .inl ⟨rfl, _, by simp [updateTestRunStatus, updated_updated]; rfl, ?_⟩
          intro stage hstage hcommitted state
          simp [Perfana.processSingleTestRun, hstage, hcommitted, setEvaluatingChecks]

/-- The transaction that evaluates a run that is there writes what it should, or
    nothing. -/
theorem exec_evaluateTestRun {state : CheckedRun} (hstate : db.get a.testRunId = some state) :
    (a.Commits = true ∧ ∃ f, (evaluateTestRun metricFilter a).exec db =
        (.ok true, updated a.testRunId f db) ∧
        ∀ state, Perfana.processSingleTestRun (a.stage metricFilter)
          { state with
            checkResults := deleteExistingCheckResults metricFilter state.checkResults } =
          some (f state)) ∨
      (a.Commits = false ∧ ∃ e, (evaluateTestRun metricFilter a).exec db = (.error e, db)) := by
  rw [evaluateTestRun, Attempt.Commits, Tx.exec_withTransaction]
  cases hload : a.load with
  | some e => exact .inr ⟨rfl, by simp⟩
  | none =>
    cases hdeletion : a.deletion with
    | some e => exact .inr ⟨rfl, by simp [hstate]⟩
    | none =>
      let cleared := updated a.testRunId (fun state =>
        { state with
          checkResults := deleteExistingCheckResults metricFilter state.checkResults }) db
      rcases exec_processSingleTestRun a cleared with ⟨hp, f, hexec, hf⟩ | ⟨hp, e, db', hexec⟩
      · cases hcommit : a.commit with
        | some e => exact .inr ⟨by simp, by simp [hstate, hexec, cleared]⟩
        | none =>
          refine .inl ⟨by simp [hp], _, ?_, fun state => hf _ rfl (by simp [Attempt.stage, hp, hcommit]) _⟩
          simp [hstate, hexec, cleared, updated_updated]
          rfl
      · exact .inr ⟨by simp [hp], by simp [hstate, hexec, cleared]⟩

/-- The transaction that evaluates a run that is not there writes nothing. -/
theorem exec_evaluateTestRun_none (hnone : db.get a.testRunId = none) :
    ∃ r, (evaluateTestRun metricFilter a).exec db = (r, db) := by
  rw [evaluateTestRun, Tx.exec_withTransaction]
  cases hload : a.load with
  | some e => exact ⟨_, rfl⟩
  | none =>
    cases hcommit : a.commit with
    | some e => exact ⟨.error (.failed e), by simp [hnone]⟩
    | none => exact ⟨.ok false, by simp [hnone]⟩

/-- The stage at a run whose evaluation goes through. -/
theorem runCheckPipeline_commits {stage : ChecksStage} {state processed : CheckedRun}
    (hstarted : stage.started = true) (hfound : stage.found = true)
    (h : Perfana.processSingleTestRun stage
      { setEvaluatingChecks .IN_PROGRESS state with
        checkResults := deleteExistingCheckResults stage.metricFilter state.checkResults } =
      some processed) :
    (Perfana.runCheckPipeline stage state).1 = processed := by
  rw [setEvaluatingChecks] at h
  simp [Perfana.runCheckPipeline, hstarted, hfound, h]

/-- The evaluation of a run whose old results are deleted throws if it cannot commit. -/
theorem processSingleTestRun_eq_none {metricFilter : MetricFilter} {state : CheckedRun}
    (h : (a.Processes && a.commit.isNone) = false) :
    Perfana.processSingleTestRun (a.stage metricFilter) state = none := by
  rw [Perfana.processSingleTestRun]
  simp only [Attempt.stage, h]
  split <;> simp

/-- The stage at a run whose evaluation does not go through leaves it in progress. -/
theorem runCheckPipeline_not_commits {state : CheckedRun} (hstarted : a.Started = true)
    (hcommits : a.Commits = false) :
    (Perfana.runCheckPipeline (a.stage metricFilter) state).1 =
      setEvaluatingChecks .IN_PROGRESS state := by
  rw [Perfana.runCheckPipeline, if_pos (show (a.stage metricFilter).started = true from hstarted)]
  dsimp only
  split
  · rename_i hfound
    have hnone : (a.Processes && a.commit.isNone) = false := by
      rw [Attempt.stage] at hfound
      dsimp only at hfound
      rwa [Attempt.Commits, hfound, Bool.true_and] at hcommits
    rw [processSingleTestRun_eq_none a hnone]
    rfl
  · rfl

/-- The stage at a run leaves the database that its transactions leave. -/
theorem processTestRun_snd (result : ChecksPipelineResult) :
    (processTestRun metricFilter a (result, db)).2 =
      (Tx.exec (do startTestRun a; evaluateTestRun metricFilter a) db).2 := by
  rw [processTestRun]
  dsimp only
  split
  all_goals
    rename_i h
    rw [h]

/-- With its transactions, the stage does at a run what `Perfana.runCheckPipeline`
    says, and nothing at the others. -/
theorem get_processTestRun (result : ChecksPipelineResult) (id : String) :
    (processTestRun metricFilter a (result, db)).2.get id =
      (db.get id).map fun state =>
        if id = a.testRunId then (Perfana.runCheckPipeline (a.stage metricFilter) state).1
        else state := by
  rw [processTestRun_snd, Tx.exec_bind]
  rcases exec_startTestRun a db with ⟨hstarted, hstart⟩ | ⟨hstarted, e, hstart⟩
  · rw [hstart]
    dsimp only
    let started := updated a.testRunId (setEvaluatingChecks .IN_PROGRESS) db
    cases hstate : started.get a.testRunId with
    | none =>
      obtain ⟨r, hexec⟩ := exec_evaluateTestRun_none a metricFilter started hstate
      have hnone : db.get a.testRunId = none := by simpa [started, get_updated] using hstate
      have hstays : started.get id = (db.get id).map fun state =>
          if id = a.testRunId then (Perfana.runCheckPipeline (a.stage metricFilter) state).1
          else state := by
        rw [get_updated]
        by_cases hid : id = a.testRunId
        · rw [hid, hnone]; rfl
        · simp [hid]
      rw [hexec]
      exact hstays
    | some state =>
      rcases exec_evaluateTestRun a metricFilter started hstate with
        ⟨hcommits, f, hexec, hf⟩ | ⟨hcommits, e, hexec⟩
      · have hfound : (a.stage metricFilter).found = true := by
          rw [Attempt.Commits, Bool.and_assoc, Bool.and_eq_true] at hcommits
          exact hcommits.1
        rw [hexec]
        dsimp only
        rw [get_updated, get_updated, Option.map_map]
        refine Option.map_congr fun state _ => ?_
        rw [Function.comp_apply]
        split
        · exact (runCheckPipeline_commits hstarted hfound (hf _)).symm
        · rfl
      · dsimp only [started] at hexec
        rw [hexec]
        dsimp only
        rw [get_updated]
        refine Option.map_congr fun state _ => ?_
        rw [runCheckPipeline_not_commits a metricFilter hstarted hcommits]
  · simp [hstart, Perfana.runCheckPipeline, Attempt.stage, hstarted]

end Exec

/-! ## The status of a run after the stage -/

namespace Attempt

variable (a : Attempt)

/-- The status of a run whose evaluation goes through. -/
def finalStatus : EvaluationStatus :=
  match a.benchmarks with
  | .error _ | .ok [] => .NOT_CONFIGURED
  | .ok outcomes => if hasError outcomes then .ERROR else .COMPLETED

/-- The run failed: its evaluation did not go through, or a benchmark failed. -/
def Failed : Bool :=
  !a.Commits ||
    match a.benchmarks with
    | .error _ => false
    | .ok outcomes => hasBenchmarkFailure outcomes

end Attempt

/-- A started evaluation leaves its final status if it goes through, and the run in
    progress otherwise. -/
theorem runCheckPipeline_started (a : Attempt) (metricFilter : MetricFilter) (state : CheckedRun)
    (hstarted : a.Started = true) :
    (Perfana.runCheckPipeline (a.stage metricFilter) state).1.run.evaluatingChecks =
      some (if a.Commits then a.finalStatus else .IN_PROGRESS) := by
  cases hcommits : a.Commits with
  | false =>
    rw [runCheckPipeline_not_commits a metricFilter hstarted hcommits]
    rfl
  | true =>
    rw [Attempt.Commits, Bool.and_assoc, Bool.and_eq_true] at hcommits
    obtain ⟨hfound, hcommitted⟩ := hcommits
    have hprocesses : a.Processes = true := (Bool.and_eq_true_iff.1 hcommitted).1
    replace hcommitted : (a.stage metricFilter).committed = true := hcommitted
    have hbenchmarks : (a.stage metricFilter).benchmarks = a.benchmarks := rfl
    rw [Perfana.runCheckPipeline, if_pos (show (a.stage metricFilter).started = true from hstarted),
      if_pos (show (a.stage metricFilter).found = true from hfound)]
    rw [Attempt.Processes] at hprocesses
    rcases h : a.benchmarks with (_ | e) | (_ | ⟨o, os⟩)
    · simp [Perfana.processSingleTestRun, Attempt.finalStatus, hbenchmarks, h, hcommitted]
    · simp [h] at hprocesses
    · simp [Perfana.processSingleTestRun, Attempt.finalStatus, hbenchmarks, h, hcommitted]
    · simp [Perfana.processSingleTestRun, Attempt.finalStatus, hbenchmarks, h, hcommitted]

/-- The last attempt that commits a run as in progress. -/
def lastStarted (attempts : List Attempt) (id : String) : Option Attempt :=
  (attempts.filter fun a => a.testRunId = id ∧ a.Started = true).getLast?

theorem lastStarted_append (attempts : List Attempt) (a : Attempt) (id : String) :
    lastStarted (attempts ++ [a]) id =
      if a.testRunId = id ∧ a.Started = true then some a else lastStarted attempts id := by
  rw [lastStarted, List.filter_append]
  split_ifs with h
  · simp [h]
  · simp [h, lastStarted]

/-- After the stage, the runs are those before it, each with the status that its last
    evaluation leaves. -/
theorem runCheckPipeline_status (metricFilter : MetricFilter) (attempts : List Attempt)
    (db : Database) (id : String) :
    ((runCheckPipeline metricFilter attempts db).2.get id).map (·.run.evaluatingChecks) =
      (db.get id).map fun state =>
        match lastStarted attempts id with
        | none => state.run.evaluatingChecks
        | some a => some (if a.Commits then a.finalStatus else .IN_PROGRESS) := by
  induction attempts using List.reverseRecOn with
  | nil => rfl
  | append_singleton attempts a ih =>
    rw [runCheckPipeline, List.foldl_append, List.foldl_cons, List.foldl_nil]
    change ((processTestRun metricFilter a (runCheckPipeline metricFilter attempts db)).2.get id).map
      (·.run.evaluatingChecks) = _
    rw [get_processTestRun, Option.map_map, lastStarted_append]
    by_cases hid : id = a.testRunId
    · cases hstarted : a.Started with
      | true =>
        rw [if_pos ⟨hid.symm, rfl⟩]
        -- Only the rows are those before: the status is this attempt's.
        have hrows := congrArg Option.isSome ih
        rw [Option.isSome_map, Option.isSome_map] at hrows
        cases hbefore : (runCheckPipeline metricFilter attempts db).2.get id with
        | none =>
          rw [hbefore] at hrows
          have hdb : db.get id = none := Option.isNone_iff_eq_none.1 (by simpa using hrows.symm)
          rw [hdb]
          rfl
        | some state =>
          rw [hbefore] at hrows
          obtain ⟨before, hdb⟩ := Option.isSome_iff_exists.1 hrows.symm
          rw [hdb, Option.map_some, Option.map_some, Function.comp_apply, if_pos hid,
            runCheckPipeline_started a metricFilter state hstarted]
      | false =>
        rw [if_neg (by simp), ← ih]
        simp [hid, Function.comp_def, Perfana.runCheckPipeline, Attempt.stage, hstarted]
    · have hne : ¬(a.testRunId = id ∧ a.Started = true) := fun h => hid h.1.symm
      rw [if_neg hne, ← ih]
      simp [hid, Function.comp_def]

/-- No run that the stage commits as in progress is left so, and a run whose last
    evaluation failed is left in an error. -/
structure Evaluated (metricFilter : MetricFilter) (attempts : List Attempt) (db : Database) :
    Prop where
  /-- No run is left in progress. -/
  noneInProgress : ∀ a ∈ attempts, a.Started = true →
    ∀ state, (runCheckPipeline metricFilter attempts db).2.get a.testRunId = some state →
      state.run.evaluatingChecks ≠ some .IN_PROGRESS
  /-- A run that failed is left in an error. -/
  failedInError : ∀ id a, lastStarted attempts id = some a → a.Failed = true →
    ∀ state, (runCheckPipeline metricFilter attempts db).2.get id = some state →
      state.run.evaluatingChecks = some .ERROR

theorem lastStarted_isSome {attempts : List Attempt} {a : Attempt} (ha : a ∈ attempts)
    (hstarted : a.Started = true) : ∃ b, lastStarted attempts a.testRunId = some b := by
  have hmem : a ∈ attempts.filter fun b => b.testRunId = a.testRunId ∧ b.Started = true :=
    List.mem_filter.2 ⟨ha, by simp [hstarted]⟩
  exact ⟨_, List.getLast?_eq_some_getLast (List.ne_nil_of_mem hmem)⟩

theorem of_lastStarted {attempts : List Attempt} {id : String} {a : Attempt}
    (h : lastStarted attempts id = some a) :
    a ∈ attempts ∧ a.testRunId = id ∧ a.Started = true := by
  have hmem := List.mem_filter.1 (List.mem_of_getLast? h)
  exact ⟨hmem.1, by simpa using hmem.2⟩

namespace Attempt

theorem finalStatus_ne_inProgress (a : Attempt) : a.finalStatus ≠ .IN_PROGRESS := by
  rw [finalStatus]
  split
  · simp
  · simp
  · split <;> simp

/-- A run that failed although its evaluation went through is left in an error. -/
theorem finalStatus_of_failed {a : Attempt} (hcommits : a.Commits = true)
    (hfailed : a.Failed = true) : a.finalStatus = .ERROR := by
  rw [Failed, hcommits, Bool.not_true, Bool.false_or] at hfailed
  rw [finalStatus]
  match h : a.benchmarks with
  | .error _ | .ok [] => simp [h, hasBenchmarkFailure] at hfailed
  | .ok (o :: os) =>
    rw [h] at hfailed
    dsimp only at hfailed ⊢
    rw [if_pos]
    rw [hasError, hfailed, Bool.or_true]

end Attempt

/-- No run is left in progress, and those that failed end in an error, if and only if
    the last evaluation that the stage starts of every run that exists goes through. -/
theorem runCheckPipeline_evaluated_iff (metricFilter : MetricFilter) (attempts : List Attempt)
    (db : Database) :
    Evaluated metricFilter attempts db ↔
      ∀ id a, lastStarted attempts id = some a → db.get id ≠ none → a.Commits = true := by
  have hstatus := runCheckPipeline_status metricFilter attempts db
  constructor
  · intro h id a ha hdb
    obtain ⟨before, hbefore⟩ := Option.ne_none_iff_exists'.1 hdb
    obtain ⟨hmem, rfl, hstarted⟩ := of_lastStarted ha
    specialize hstatus a.testRunId
    rw [hbefore, ha, Option.map_some, Option.map_eq_some_iff] at hstatus
    obtain ⟨state, hstate, hafter⟩ := hstatus
    by_contra hcommits
    dsimp only at hafter
    rw [if_neg hcommits] at hafter
    exact h.noneInProgress a hmem hstarted state hstate hafter
  · intro h
    have hafter : ∀ id a, lastStarted attempts id = some a → ∀ state,
        (runCheckPipeline metricFilter attempts db).2.get id = some state →
          a.Commits = true ∧ state.run.evaluatingChecks = some a.finalStatus := by
      intro id a ha state hstate
      specialize hstatus id
      rw [hstate, ha, Option.map_some, eq_comm, Option.map_eq_some_iff] at hstatus
      obtain ⟨before, hbefore, hafter⟩ := hstatus
      have hcommits := h id a ha (by simp [hbefore])
      dsimp only at hafter
      rw [if_pos hcommits] at hafter
      exact ⟨hcommits, hafter.symm⟩
    constructor
    · intro a hmem hstarted state hstate
      obtain ⟨b, hb⟩ := lastStarted_isSome hmem hstarted
      rw [(hafter _ b hb state hstate).2]
      exact fun heq => b.finalStatus_ne_inProgress (Option.some.inj heq)
    · intro id a ha hfailed state hstate
      obtain ⟨hcommits, hfinal⟩ := hafter id a ha state hstate
      rw [hfinal, a.finalStatus_of_failed hcommits hfailed]

/-- A run of the list whose benchmarks cannot be queried. -/
def lostConnection : Attempt where
  testRunId := "R"
  benchmarks := .error (.failed "connection terminated")

/-- A database with one run. -/
def oneRun : Database := ⟨[("R", failedRun)], by simp⟩

/-- The status of an error is rolled back with the evaluation, and the run is left in
    progress. -/
theorem lost_connection_leaves_in_progress :
    (runCheckPipeline {} [lostConnection] oneRun).1.failedTestRuns.map Prod.fst = ["R"] ∧
      ((runCheckPipeline {} [lostConnection] oneRun).2.get "R").map (·.run.evaluatingChecks) =
        some (some .IN_PROGRESS) ∧
      ¬Evaluated {} [lostConnection] oneRun := by
  have hleft : ((runCheckPipeline {} [lostConnection] oneRun).2.get "R").map
      (·.run.evaluatingChecks) = some (some .IN_PROGRESS) := by decide
  refine ⟨by decide, hleft, fun h => ?_⟩
  obtain ⟨state, hstate, hstatus⟩ := Option.map_eq_some_iff.1 hleft
  exact h.noneInProgress lostConnection (by simp) rfl state hstate hstatus

end ChecksPipeline

end Perfana
