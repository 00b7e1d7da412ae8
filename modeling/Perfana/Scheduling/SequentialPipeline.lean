import Mathlib.Data.List.Infix
import Perfana.Scheduling.Progress

/-!
# The sequential pipeline

The stages of an analysis run one after the other. Those that are heavy for the database wait for
a mutex, which is released however they end; those that collect metrics are skipped where the
metrics have been collected already; and what becomes of the rest when a stage fails is a
parameter. Whoever calls the pipeline gets a report of each stage, or an error.

* `runStages_eq`, `runs_stages`: the stages that run, in each mode, and what is returned of them;
* `success_iff`: the pipeline succeeds exactly if all the stages that are to run do;
* `keepsMutex`: a heavy stage runs while the pipeline has the mutex, no other stage does, and the
  mutex is released before the next stage, on every path;
* `allowsAll_stages`: what it reports on the way may be reported.
-/

namespace Perfana.SequentialPipeline

/-- What is thrown. -/
structure Thrown where
  message : String
  /-- It may be tried again: nothing is wrong with the test run. -/
  retryable : Bool := false
  isError : Bool := true
deriving DecidableEq

structure PipelineError where
  message : String
  code : String
deriving DecidableEq

structure PipelineResult where
  success : Bool
  stage : Option String := none
  data : List (String × String) := []
  error : Option PipelineError := none
deriving DecidableEq

/-- What others answer while a stage runs. -/
structure StageAnswers where
  /-- Who has the mutex, whenever the stage asks. -/
  holders : List String := []
  /-- The stage gets the mutex in the end. -/
  acquired : Except Thrown Unit := .ok ()
  /-- How often the timer fires that keeps the record of the progress. -/
  touches : ℕ := 0
  /-- What the pipeline of the stage comes to. -/
  execution : Except Thrown PipelineResult := .ok { success := true }
  /-- It comes to it after the time for a stage. -/
  late : Bool := false

/-- What to do when a stage fails. -/
inductive ErrorHandling
  | strict
  | continue
  | abort
deriving DecidableEq

structure SequentialConfig where
  stages : List String
  errorHandling : ErrorHandling := .continue
  timeoutMs : ℕ := 600000
  /-- There is a mutex for the heavy stages. -/
  heavyStageMutex : Bool := false
  finalizeProgress : Bool := true
  /-- There is a reporter for the progress. -/
  progressReporter : Bool := false

structure StageResult where
  stage : String
  result : PipelineResult
deriving DecidableEq

/-- What the pipeline returns. -/
inductive SequentialResult
  | finished (success : Bool) (stages : List StageResult) (completedStages failedStages : ℕ)
    (collectionWarnings : Option (List String))
  | failed (error : PipelineError) (completedStages : List String)
deriving DecidableEq

/-- What the pipeline does. -/
inductive PipelineAction
  | checkAndFillMetricGaps
  | decompressRunSpan
  | report (call : ReporterCall)
  | acquire (stage : String)
  | release
  | execute (stage : String) (timeoutMs : Option ℕ)
  | annotate (annotations : List String)
deriving DecidableEq

def PipelineAction.report? : PipelineAction → Option ReporterCall
  | .report call => some call
  | _ => none

/-- The stages that there is a pipeline for. -/
def orchestratedStages : List String :=
  ["dynatrace-collection", "panels-processing", "performance-test-metrics",
    "transaction-stats-rollup", "metrics-collection", "statistics-calculation", "checks-evaluation",
    "control-groups-creation", "control-group-statistics", "adapt-analysis"]

def heavyStages : List String :=
  ["statistics-calculation", "control-group-statistics", "adapt-analysis",
    "performance-test-metrics"]

def metricCollectionStages : List String :=
  ["dynatrace-collection", "panels-processing", "performance-test-metrics", "metrics-collection"]

def skippableCollectionStages : List String :=
  metricCollectionStages.filter (· ≠ "performance-test-metrics")

/-- The message of a stage that waits for the mutex. -/
def queuedMessage (stageName : String) : String :=
  "Queued: waiting for another analysis to finish its database-heavy stage before " ++ stageName ++
    " can start"

/-- A rollup that fails does not fail the analysis. -/
def softFail (execution : Except Thrown PipelineResult) : Except Thrown PipelineResult :=
  match execution with
  | .ok result =>
    if result.success then .ok result
    else
      .ok {
        success := true
        data := [("skipped", "rollup-failed"),
          ("reason", (result.error.map PipelineError.message).getD "unknown error")] }
  | .error thrown =>
    .ok { success := true, data := [("skipped", "rollup-threw"), ("reason", thrown.message)] }

/-- What was thrown, as the result of a stage. -/
def Thrown.code (thrown : Thrown) : String :=
  if thrown.retryable then "RETRYABLE"
  else if thrown.isError ∧ "timed out".toList <:+: thrown.message.toList then "TIMEOUT"
  else "EXECUTION_ERROR"

def executeStage (stageName : String) (timeoutMs : Option ℕ) (a : StageAnswers) : PipelineResult :=
  if stageName ∈ orchestratedStages then
    let execution :=
      if stageName = "transaction-stats-rollup" then softFail a.execution else a.execution
    let raced : Except Thrown PipelineResult :=
      match timeoutMs with
      | some ms =>
        if a.late then .error { message := s!"Stage {stageName} timed out after {ms}ms" }
        else execution
      | none => execution
    match raced with
    | .ok result => result
    | .error thrown =>
      { success := false
        stage := some stageName
        error := some ⟨thrown.message, thrown.code⟩ }
  else
    { success := false
      stage := some stageName
      error := some ⟨s!"Unknown stage: {stageName}", "UNKNOWN_STAGE"⟩ }

/-- What a pipeline with a reporter reports. -/
def reports (config : SequentialConfig) (calls : List ReporterCall) : List PipelineAction :=
  if config.progressReporter then calls.map .report else []

/-- A stage runs. -/
def runStage (config : SequentialConfig) (stageName : String) (a : StageAnswers) :
    List PipelineAction × Except Thrown PipelineResult :=
  let started := reports config [.startStage stageName]
  let waiting := a.holders.map fun _ => ReporterCall.setWaiting (some (queuedMessage stageName))
  if stageName ∈ heavyStages then
    let executing := .execute stageName none ::
      reports config (List.replicate a.touches .touch)
    let result := executeStage stageName none a
    if config.heavyStageMutex then
      match a.acquired with
      | .error thrown =>
        (started ++ reports config (waiting ++ [.setWaiting none]),
          .error { thrown with retryable := true })
      | .ok () =>
        (started ++ (reports config waiting ++
          (.acquire stageName :: (reports config [.setWaiting none] ++ (executing ++ [.release])))),
          .ok result)
    else (started ++ executing, .ok result)
  else
    (started ++ [.execute stageName (some config.timeoutMs)],
      .ok (executeStage stageName (some config.timeoutMs) a))

/-- How the pipeline goes on after a stage. -/
inductive AfterStage
  | next (success : Bool)
  | stop
  | rethrow (thrown : Thrown)
deriving DecidableEq

/-- What is recorded of a stage that has thrown. -/
def thrownResult (stageName : String) (thrown : Thrown) : StageResult :=
  ⟨stageName,
    { success := false
      stage := some stageName
      error := some
        ⟨thrown.message, if thrown.retryable then "RETRYABLE" else "STAGE_EXECUTION_ERROR"⟩ }⟩

/-- What is thrown of a stage that has failed. -/
def strictError (stageName : String) (result : PipelineResult) : Thrown :=
  let message := (result.error.map PipelineError.message).getD "undefined"
  { message := s!"Stage {stageName} failed: {message}" }

/-- What is recorded of a stage, and how the pipeline goes on. -/
def afterStage (errorHandling : ErrorHandling) (stageName : String) :
    Except Thrown PipelineResult → List StageResult × AfterStage
  | .ok result =>
    if result.success then ([⟨stageName, result⟩], .next true)
    else
      match errorHandling with
      | .strict =>
        -- Thrown inside the block that records what is thrown.
        let thrown := strictError stageName result
        ([⟨stageName, result⟩, thrownResult stageName thrown], .rethrow thrown)
      | .abort => ([⟨stageName, result⟩], .stop)
      | .continue => ([⟨stageName, result⟩], .next false)
  | .error thrown =>
    match errorHandling with
    | .strict | .abort => ([thrownResult stageName thrown], .rethrow thrown)
    | .continue => ([thrownResult stageName thrown], .next false)

/-- What the loop over the stages does, what it records, and how it ends. -/
structure StageLoop where
  actions : List PipelineAction := []
  results : List StageResult := []
  ended : Except Thrown Bool := .ok true

/-- The stages from the `i`th one on. -/
def runStages (config : SequentialConfig) (skip : Bool) (answers : ℕ → StageAnswers) :
    ℕ → List String → StageLoop
  | _, [] => {}
  | i, stageName :: rest =>
    if skip ∧ stageName ∈ skippableCollectionStages then
      runStages config skip answers (i + 1) rest
    else
      let ran := runStage config stageName (answers i)
      let after := afterStage config.errorHandling stageName ran.2
      match after.2 with
      | .next success =>
        let loop := runStages config skip answers (i + 1) rest
        { actions :=
            ran.1 ++ ((if success then reports config [.completeStage] else []) ++ loop.actions)
          results := after.1 ++ loop.results
          ended := loop.ended.map fun rest => success && rest }
      | .stop => ⟨ran.1, after.1, .ok false⟩
      | .rethrow thrown => ⟨ran.1, after.1, .error thrown⟩

/-- The warnings, as annotations of the test run. -/
def warningAnnotations (warnings : List String) : List String :=
  warnings.map fun w => "[COLLECTION WARNING] " ++ w

/-- `gaps` is the answer of the check whether the metrics have been collected: whether the
    collection is skipped, and warnings. -/
def executeSequentialPipeline (config : SequentialConfig) (gaps : Bool × List String)
    (answers : ℕ → StageAnswers) : List PipelineAction × SequentialResult :=
  let collects := config.stages.any (· ∈ metricCollectionStages)
  let skip := collects && gaps.1
  let collectionWarnings := if collects then gaps.2 else []
  let checked :=
    if collects then
      .checkAndFillMetricGaps :: (if gaps.1 then [] else [PipelineAction.decompressRunSpan])
    else []
  let loop := runStages config skip answers 0 config.stages
  match loop.ended with
  | .ok success =>
    let annotated :=
      if collectionWarnings = [] then []
      else [PipelineAction.annotate (warningAnnotations collectionWarnings)]
    let finalized := if config.finalizeProgress then reports config [.complete] else []
    (checked ++ (loop.actions ++ (annotated ++ finalized)),
      .finished success loop.results (loop.results.countP (·.result.success))
        (loop.results.countP fun r => !r.result.success)
        (if collectionWarnings = [] then none else some collectionWarnings))
  | .error thrown =>
    let finalized := if config.finalizeProgress then reports config [.fail thrown.message] else []
    (checked ++ (loop.actions ++ finalized),
      .failed ⟨thrown.message, "SEQUENTIAL_PIPELINE_ERROR"⟩ (loop.results.map StageResult.stage))

/-! ## Which stages run -/

def PipelineAction.execute? : PipelineAction → Option String
  | .execute stage _ => some stage
  | _ => none

section

variable (config : SequentialConfig) (skip : Bool) (answers : ℕ → StageAnswers)

/-- The stages that are not skipped, with their places. -/
def stagesToRun (i : ℕ) (stages : List String) : List (String × ℕ) :=
  (stages.zipIdx i).filter fun x => !(skip && decide (x.1 ∈ skippableCollectionStages))

/-- What a stage comes to. -/
def outcomeOf (x : String × ℕ) : Except Thrown PipelineResult :=
  (runStage config x.1 (answers x.2)).2

def succeeds (x : String × ℕ) : Bool :=
  match outcomeOf config answers x with
  | .ok result => result.success
  | .error _ => false

/-- A stage runs unless the mutex is refused. -/
def isExecuted (x : String × ℕ) : Bool :=
  match outcomeOf config answers x with
  | .ok _ => true
  | .error _ => false

/-- The stages that are come to: all, or those up to the first one that fails. -/
def stagesReached (stages : List (String × ℕ)) : List (String × ℕ) :=
  match config.errorHandling with
  | .continue => stages
  | .strict | .abort =>
    stages.takeWhile (succeeds config answers) ++
      (stages.dropWhile (succeeds config answers)).take 1

variable {config skip answers}

theorem stagesToRun_cons_of_skipped {i : ℕ} {stageName : String} {rest : List String}
    (h : skip ∧ stageName ∈ skippableCollectionStages) :
    stagesToRun skip i (stageName :: rest) = stagesToRun skip (i + 1) rest := by
  rw [stagesToRun, List.zipIdx_cons, List.filter_cons_of_neg (by simpa using h), stagesToRun]

theorem stagesToRun_cons {i : ℕ} {stageName : String} {rest : List String}
    (h : ¬(skip ∧ stageName ∈ skippableCollectionStages)) :
    stagesToRun skip i (stageName :: rest) = (stageName, i) :: stagesToRun skip (i + 1) rest := by
  rw [stagesToRun, List.zipIdx_cons, List.filter_cons_of_pos ?_, stagesToRun]
  rw [Bool.not_eq_true', Bool.and_eq_false_iff, decide_eq_false_iff_not]
  by_cases hskip : skip = true
  · exact .inr fun hmem => h ⟨hskip, hmem⟩
  · exact .inl (Bool.not_eq_true _ ▸ hskip)

/-- A stage that succeeds is followed by the others. -/
theorem stagesReached_cons_of_succeeds {x : String × ℕ} {stages : List (String × ℕ)}
    (h : succeeds config answers x = true) : stagesReached config answers (x :: stages) =
      x :: stagesReached config answers stages := by
  rw [stagesReached, stagesReached]
  split
  · rfl
  · rw [List.takeWhile_cons_of_pos h, List.dropWhile_cons_of_pos h, List.cons_append]
  · rw [List.takeWhile_cons_of_pos h, List.dropWhile_cons_of_pos h, List.cons_append]

/-- A stage that fails is the last one, unless the pipeline is to continue. -/
theorem stagesReached_cons_of_fails {x : String × ℕ} {stages : List (String × ℕ)}
    (h : succeeds config answers x = false) : stagesReached config answers (x :: stages) =
      if config.errorHandling = .continue then x :: stagesReached config answers stages
      else [x] := by
  have hneg : ¬succeeds config answers x = true := by rw [h]; exact Bool.false_ne_true
  cases hmode : config.errorHandling with
  | «continue» => rw [stagesReached, stagesReached, hmode, if_pos rfl]
  | strict =>
    rw [stagesReached, hmode, if_neg (by decide), List.takeWhile_cons_of_neg hneg,
      List.dropWhile_cons_of_neg hneg]
    rfl
  | abort =>
    rw [stagesReached, hmode, if_neg (by decide), List.takeWhile_cons_of_neg hneg,
      List.dropWhile_cons_of_neg hneg]
    rfl

end

section

variable (config : SequentialConfig) (answers : ℕ → StageAnswers)

/-- What is recorded of a stage, and how the pipeline goes on. -/
def afterOf (x : String × ℕ) : List StageResult × AfterStage :=
  afterStage config.errorHandling x.1 (outcomeOf config answers x)

/-- What the pipeline does for a stage. -/
def actionsOf (x : String × ℕ) : List PipelineAction :=
  (runStage config x.1 (answers x.2)).1 ++
    if succeeds config answers x then reports config [.completeStage] else []

/-- The error that ends the pipeline at a stage. -/
def thrownBy (x : String × ℕ) : Option Thrown :=
  match (afterOf config answers x).2 with
  | .rethrow thrown => some thrown
  | .next _ | .stop => none

variable {config answers} {skip : Bool} {x : String × ℕ}

theorem after_of_succeeds (h : succeeds config answers x = true) :
    (afterOf config answers x).2 = .next true := by
  rw [succeeds] at h
  rw [afterOf]
  cases houtcome : outcomeOf config answers x with
  | ok result =>
    rw [houtcome] at h
    dsimp only at h
    simp only [afterStage, h, if_true]
  | error thrown =>
    rw [houtcome] at h
    cases h

theorem after_of_continue (h : succeeds config answers x = false)
    (hmode : config.errorHandling = .continue) : (afterOf config answers x).2 = .next false := by
  rw [succeeds] at h
  rw [afterOf, hmode]
  cases houtcome : outcomeOf config answers x with
  | ok result =>
    rw [houtcome] at h
    dsimp only at h
    simp only [afterStage, h, Bool.false_eq_true, if_false]
  | error thrown => rfl

/-- A stage that fails ends a pipeline that is not to continue. -/
theorem after_of_fails (h : succeeds config answers x = false)
    (hmode : config.errorHandling ≠ .continue) :
    (afterOf config answers x).2 = .stop ∨
      ∃ thrown, (afterOf config answers x).2 = .rethrow thrown := by
  rw [succeeds] at h
  rw [afterOf]
  cases houtcome : outcomeOf config answers x with
  | ok result =>
    rw [houtcome] at h
    dsimp only at h
    simp only [afterStage, h, Bool.false_eq_true, if_false]
    cases hhandling : config.errorHandling with
    | strict => exact .inr ⟨_, rfl⟩
    | abort => exact .inl rfl
    | «continue» => exact absurd hhandling hmode
  | error thrown =>
    cases hhandling : config.errorHandling with
    | strict => exact .inr ⟨_, rfl⟩
    | abort => exact .inr ⟨_, rfl⟩
    | «continue» => exact absurd hhandling hmode

/-- The loop does what it does for the stages that are reached, stage by stage. -/
theorem runStages_eq (i : ℕ) (stages : List String) :
    let reached := stagesReached config answers (stagesToRun skip i stages)
    runStages config skip answers i stages =
      { actions := reached.flatMap (actionsOf config answers)
        results := reached.flatMap fun x => (afterOf config answers x).1
        ended :=
          match reached.findSome? (thrownBy config answers) with
          | some thrown => .error thrown
          | none => .ok ((stagesToRun skip i stages).all (succeeds config answers)) } := by
  induction stages generalizing i with
  | nil =>
    dsimp only
    rw [runStages, stagesToRun, List.zipIdx_nil, List.filter_nil, stagesReached]
    split <;> rfl
  | cons stageName rest ih =>
    dsimp only at ih ⊢
    by_cases hskip : skip ∧ stageName ∈ skippableCollectionStages
    · rw [runStages, if_pos hskip, stagesToRun_cons_of_skipped hskip, ih]
    · rw [runStages, if_neg hskip, stagesToRun_cons hskip, ih (i + 1)]
      have hafter : afterStage config.errorHandling stageName
          (runStage config stageName (answers i)).2 = afterOf config answers (stageName, i) := rfl
      dsimp only
      rw [hafter, List.all_cons]
      generalize hrest : (stagesReached config answers (stagesToRun skip (i + 1) rest)).findSome?
        (thrownBy config answers) = thrown?
      cases hsucceeds : succeeds config answers (stageName, i) with
      | true =>
        have hthrown : thrownBy config answers (stageName, i) = none := by
          rw [thrownBy, after_of_succeeds hsucceeds]
        rw [after_of_succeeds hsucceeds, stagesReached_cons_of_succeeds hsucceeds]
        simp only [List.flatMap_cons, List.findSome?_cons, hthrown, hrest, actionsOf, hsucceeds, if_true,
          List.append_assoc, Bool.true_and]
        congr 1
        cases thrown? with
        | none => rfl
        | some thrown => rfl
      | false =>
        rw [stagesReached_cons_of_fails hsucceeds, Bool.false_and]
        by_cases hmode : config.errorHandling = .continue
        · have hthrown : thrownBy config answers (stageName, i) = none := by
            rw [thrownBy, after_of_continue hsucceeds hmode]
          rw [after_of_continue hsucceeds hmode, if_pos hmode]
          simp only [List.flatMap_cons, List.findSome?_cons, hthrown, hrest, actionsOf, hsucceeds,
            Bool.false_eq_true, if_false, List.nil_append, List.append_nil, Bool.false_and]
          congr 1
          cases thrown? with
          | none => rfl
          | some thrown => rfl
        · rw [if_neg hmode]
          simp only [List.flatMap_singleton, List.findSome?_cons, List.findSome?_nil, actionsOf,
            hsucceeds, Bool.false_eq_true, if_false, List.append_nil, thrownBy]
          rcases after_of_fails hsucceeds hmode with hstop | ⟨thrown, hrethrow⟩
          · rw [hstop]
          · rw [hrethrow]

/-- What is thrown comes of a stage that has failed. -/
theorem fails_of_thrownBy {thrown : Thrown} (h : thrownBy config answers x = some thrown) :
    succeeds config answers x = false := by
  by_contra hsucceeds
  rw [Bool.not_eq_false] at hsucceeds
  rw [thrownBy, after_of_succeeds hsucceeds] at h
  cases h

theorem stagesReached_sublist (stages : List (String × ℕ)) :
    (stagesReached config answers stages).Sublist stages := by
  rw [stagesReached]
  split
  · exact List.Sublist.refl _
  all_goals
    conv_rhs => rw [← @List.takeWhile_append_dropWhile _ (succeeds config answers) stages]
    exact List.Sublist.append_left (List.take_sublist _ _) _

end

section

variable (config : SequentialConfig) (gaps : Bool × List String) (answers : ℕ → StageAnswers)

def pipelineStagesToRun : List (String × ℕ) :=
  stagesToRun (config.stages.any (· ∈ metricCollectionStages) && gaps.1) 0 config.stages

/-- Those that it comes to. -/
def pipelineStagesReached : List (String × ℕ) :=
  stagesReached config answers (pipelineStagesToRun config gaps)

def SequentialResult.success : SequentialResult → Bool
  | .finished success _ _ _ _ => success
  | .failed _ _ => false

variable {config gaps answers}

/-- Whatever is reported at the end is a report. -/
theorem of_mem_reports {calls : List ReporterCall} {a : PipelineAction}
    (h : a ∈ reports config calls) : ∃ call, a = .report call := by
  rw [reports] at h
  split at h
  · obtain ⟨call, -, rfl⟩ := List.mem_map.1 h
    exact ⟨call, rfl⟩
  · cases h

/-- What the pipeline does besides what it does for its stages. -/
theorem exists_actions : ∃ before after : List PipelineAction,
    (executeSequentialPipeline config gaps answers).1 =
      before ++ ((pipelineStagesReached config gaps answers).flatMap (actionsOf config answers) ++
        after) ∧
    (∀ a ∈ before, a = .checkAndFillMetricGaps ∨ a = .decompressRunSpan) ∧
    (∀ a ∈ after, (∃ annotations, a = .annotate annotations) ∨
      config.finalizeProgress = true ∧ ∃ call, a = .report call) := by
  have hfinal : ∀ call, ∀ a ∈ (if config.finalizeProgress then reports config [call] else []),
      config.finalizeProgress = true ∧ ∃ call, a = .report call := by
    intro call a ha
    split at ha
    · rename_i hfinalize
      exact ⟨hfinalize, of_mem_reports ha⟩
    · cases ha
  have hannotated : ∀ warnings : List String, ∀ a ∈ (if warnings = [] then []
      else [PipelineAction.annotate (warningAnnotations warnings)]),
      ∃ annotations, a = .annotate annotations := by
    intro warnings a ha
    split at ha
    · cases ha
    · exact ⟨_, List.mem_singleton.1 ha⟩
  have hbefore : ∀ a ∈ (if config.stages.any (· ∈ metricCollectionStages) then
      .checkAndFillMetricGaps :: (if gaps.1 then [] else [PipelineAction.decompressRunSpan])
      else []), a = .checkAndFillMetricGaps ∨ a = .decompressRunSpan := by
    intro a ha
    split at ha
    · split at ha <;> simp at ha <;> tauto
    · cases ha
  rw [executeSequentialPipeline]
  dsimp only
  rw [runStages_eq, pipelineStagesReached, pipelineStagesToRun]
  dsimp only
  split
  · refine ⟨_, _, rfl, hbefore, fun a ha => ?_⟩
    rcases List.mem_append.1 ha with ha | ha
    · exact .inl (hannotated _ a ha)
    · exact .inr (hfinal _ a ha)
  · exact ⟨_, _, rfl, hbefore, fun a ha => .inr (hfinal _ a ha)⟩

/-- The pipeline succeeds exactly if all stages do that are to run. -/
theorem success_iff : (executeSequentialPipeline config gaps answers).2.success = true ↔
    ∀ x ∈ pipelineStagesToRun config gaps, succeeds config answers x = true := by
  rw [executeSequentialPipeline]
  dsimp only
  rw [runStages_eq]
  dsimp only
  cases hthrown : (pipelineStagesReached config gaps answers).findSome? (thrownBy config answers) with
  | none =>
    rw [pipelineStagesReached, pipelineStagesToRun] at hthrown
    rw [pipelineStagesToRun, hthrown]
    exact List.all_eq_true
  | some thrown =>
    obtain ⟨x, hx, hthrownBy⟩ := List.exists_of_findSome?_eq_some hthrown
    rw [pipelineStagesReached, pipelineStagesToRun] at hthrown
    rw [hthrown]
    refine ⟨fun h => (by cases h), fun h => ?_⟩
    have hsucceeds := h x ((stagesReached_sublist _).subset hx)
    rw [fails_of_thrownBy hthrownBy] at hsucceeds
    cases hsucceeds

/-! ## What runs -/

theorem filterMap_reports (calls : List ReporterCall) :
    (reports config calls).filterMap PipelineAction.execute? = [] := by
  rw [List.filterMap_eq_nil_iff]
  intro a ha
  obtain ⟨call, rfl⟩ := of_mem_reports ha
  rfl

/-- A stage is executed once, unless the mutex is refused. -/
theorem execute_actionsOf (x : String × ℕ) :
    (actionsOf config answers x).filterMap PipelineAction.execute? =
      if isExecuted config answers x then [x.1] else [] := by
  have hcompleted : (if succeeds config answers x then reports config [.completeStage]
      else []).filterMap PipelineAction.execute? = [] := by
    split
    · exact filterMap_reports _
    · rfl
  rw [actionsOf, List.filterMap_append, hcompleted, List.append_nil, isExecuted, outcomeOf, runStage]
  dsimp only
  split
  · split
    · split
      · simp [filterMap_reports]
      · simp [filterMap_reports, List.filterMap_cons, PipelineAction.execute?]
    · simp [filterMap_reports, PipelineAction.execute?]
  · simp [filterMap_reports, PipelineAction.execute?]

/-- The stages run in order, each once: all, or those up to the first that fails, but for one
    that is refused the mutex. The pipeline succeeds exactly if all do. -/
theorem runs_stages (config : SequentialConfig) (gaps : Bool × List String)
    (answers : ℕ → StageAnswers) :
    let run := executeSequentialPipeline config gaps answers
    let toRun := pipelineStagesToRun config gaps
    run.1.filterMap PipelineAction.execute? =
        ((pipelineStagesReached config gaps answers).filter (isExecuted config answers)).map
          Prod.fst ∧
      (run.2.success = true ↔ ∀ x ∈ toRun, succeeds config answers x = true) := by
  intro run toRun
  refine ⟨?_, success_iff⟩
  obtain ⟨before, after, hactions, hbefore, hafter⟩ := @exists_actions config gaps answers
  have hbefore : before.filterMap PipelineAction.execute? = [] := by
    rw [List.filterMap_eq_nil_iff]
    intro a ha
    rcases hbefore a ha with rfl | rfl <;> rfl
  have hafter : after.filterMap PipelineAction.execute? = [] := by
    rw [List.filterMap_eq_nil_iff]
    intro a ha
    rcases hafter a ha with ⟨annotations, rfl⟩ | ⟨-, call, rfl⟩ <;> rfl
  change (executeSequentialPipeline config gaps answers).1.filterMap _ = _
  rw [hactions, List.filterMap_append, List.filterMap_append, hbefore, hafter, List.append_nil,
    List.nil_append]
  generalize pipelineStagesReached config gaps answers = reached
  induction reached with
  | nil => rfl
  | cons x reached ih =>
    rw [List.flatMap_cons, List.filterMap_append, ih, execute_actionsOf, List.filter_cons]
    split <;> rfl

/-! ## The mutex -/

/-- Who has the mutex after an action, unless the action is out of place: the mutex is acquired
    and released in turn, and a stage is executed when it has the mutex, if it is heavy, and when
    nobody has, if it is not. -/
def holderAfter (holder : Option String) : PipelineAction → Option (Option String)
  | .acquire stage => if holder = none then some (some stage) else none
  | .release => if holder = none then none else some none
  | .execute stage _ =>
    if stage ∈ heavyStages then if holder = some stage then some holder else none
    else if holder = none then some holder
    else none
  | _ => some holder

/-- What does not concern the mutex. -/
theorem holderAfter_of_forall {actions : List PipelineAction} {holder : Option String}
    (h : ∀ a ∈ actions, holderAfter holder a = some holder) :
    actions.foldlM holderAfter holder = some holder := by
  induction actions with
  | nil => rfl
  | cons a actions ih =>
    obtain ⟨ha, hactions⟩ := List.forall_mem_cons.1 h
    rw [List.foldlM_cons, ha, Option.bind_eq_bind, Option.bind_some, ih hactions]

theorem holderAfter_reports (calls : List ReporterCall) (holder : Option String) :
    (reports config calls).foldlM holderAfter holder = some holder := by
  refine holderAfter_of_forall fun a ha => ?_
  obtain ⟨call, rfl⟩ := of_mem_reports ha
  rfl

theorem holderAfter_reports_append (calls : List ReporterCall) (rest : List PipelineAction)
    (holder : Option String) : (reports config calls ++ rest).foldlM holderAfter holder =
      rest.foldlM holderAfter holder := by
  rw [List.foldlM_append, holderAfter_reports, Option.bind_eq_bind, Option.bind_some]

/-- A stage begins and ends without the mutex. -/
theorem holderAfter_actionsOf (hmutex : config.heavyStageMutex = true) (x : String × ℕ) :
    (actionsOf config answers x).foldlM holderAfter none = some none := by
  have hcompleted : (if succeeds config answers x then reports config [.completeStage]
      else []).foldlM holderAfter none = some none := by
    split
    · exact holderAfter_reports _ _
    · rfl
  suffices hran : (runStage config x.1 (answers x.2)).1.foldlM holderAfter none = some none by
    rw [actionsOf, List.foldlM_append, hran]
    exact hcompleted
  rw [runStage]
  dsimp only
  by_cases hheavy : x.1 ∈ heavyStages
  · rw [if_pos hheavy, if_pos hmutex]
    cases (answers x.2).acquired with
    | error thrown =>
      rw [holderAfter_reports_append]
      exact holderAfter_reports _ _
    | ok _ =>
      rw [holderAfter_reports_append, holderAfter_reports_append, List.foldlM_cons, holderAfter,
        if_pos rfl, Option.bind_eq_bind, Option.bind_some, holderAfter_reports_append,
        List.cons_append, List.foldlM_cons, holderAfter, if_pos hheavy, if_pos rfl,
        Option.bind_eq_bind, Option.bind_some, holderAfter_reports_append]
      rfl
  · rw [if_neg hheavy, holderAfter_reports_append, List.foldlM_cons, holderAfter, if_neg hheavy,
      if_pos rfl]
    rfl

/-- Whatever becomes of the stages, each heavy one is executed while the pipeline has the mutex for
    it, the others while it has not, and in the end the mutex is released. -/
theorem keepsMutex (hmutex : config.heavyStageMutex = true) :
    (executeSequentialPipeline config gaps answers).1.foldlM holderAfter none = some none := by
  obtain ⟨before, after, hactions, hbefore, hafter⟩ := @exists_actions config gaps answers
  have hbefore : before.foldlM holderAfter none = some none :=
    holderAfter_of_forall fun a ha => by rcases hbefore a ha with rfl | rfl <;> rfl
  have hafter : after.foldlM holderAfter none = some none :=
    holderAfter_of_forall fun a ha => by
      rcases hafter a ha with ⟨annotations, rfl⟩ | ⟨-, call, rfl⟩ <;> rfl
  have hstages : ∀ reached : List (String × ℕ),
      (reached.flatMap (actionsOf config answers)).foldlM holderAfter none = some none := by
    intro reached
    induction reached with
    | nil => rfl
    | cons x reached ih =>
      rw [List.flatMap_cons, List.foldlM_append, holderAfter_actionsOf hmutex]
      exact ih
  rw [hactions, List.foldlM_append, hbefore]
  dsimp only [Option.bind_eq_bind, Option.bind_some]
  rw [List.foldlM_append, hstages]
  exact hafter

/-- A heavy stage that waits for another analysis, and fails. -/
def waitsAndFails : StageAnswers where
  holders := ["12"]
  execution := .error { message := "statement timeout" }

theorem keepsMutex_waitsAndFails :
    (executeSequentialPipeline
      { stages := ["metrics-collection", "statistics-calculation"], heavyStageMutex := true }
      (true, []) fun _ => waitsAndFails).1.foldlM holderAfter none = some none :=
  keepsMutex rfl

/-! ## What is reported -/

/-- A call that leaves the stage as it is. -/
def ReporterCall.isQuiet : ReporterCall → Bool
  | .setWaiting _ | .touch | .completeStage => true
  | _ => false

/-- In a stage, these calls may be made. -/
theorem allowsAll_of_quiet {stages : List String} {phase : ReportedPhase} {ks : List ReporterCall}
    (hindex : 0 < phase.index) (hgoing : phase.status.isTerminal = false)
    (h : ∀ k ∈ ks, ReporterCall.isQuiet k = true) :
    ReportedPhase.AllowsAll stages phase ks ∧
      (ks.foldl (ReportedPhase.after stages) phase).index = phase.index ∧
      (ks.foldl (ReportedPhase.after stages) phase).status.isTerminal = false := by
  induction ks generalizing phase with
  | nil => exact ⟨trivial, rfl, hgoing⟩
  | cons k ks ih =>
    obtain ⟨hk, hks⟩ := List.forall_mem_cons.1 h
    cases k with
    | setWaiting message =>
      have hset : (phase.after stages (.setWaiting message)).status.isTerminal = false := by
        rw [ReportedPhase.after]
        dsimp only
        split <;> rfl
      obtain ⟨hall, hend⟩ := @ih (phase.after stages (.setWaiting message)) hindex hset hks
      exact ⟨⟨⟨hgoing, hindex⟩, hall⟩, hend⟩
    | touch =>
      obtain ⟨hall, hend⟩ := ih hindex hgoing hks
      exact ⟨⟨⟨hgoing, hindex⟩, hall⟩, hend⟩
    | completeStage =>
      obtain ⟨hall, hend⟩ := @ih { phase with progress := 100 } hindex hgoing hks
      exact ⟨⟨⟨hgoing, hindex⟩, hall⟩, hend⟩
    | _ => cases hk

theorem filterMap_report (hreporter : config.progressReporter = true) (calls : List ReporterCall) :
    (reports config calls).filterMap PipelineAction.report? = calls := by
  rw [reports, if_pos hreporter, List.filterMap_map]
  exact List.filterMap_some

theorem filterMap_report_append (hreporter : config.progressReporter = true)
    (calls : List ReporterCall) (rest : List PipelineAction) :
    (reports config calls ++ rest).filterMap PipelineAction.report? =
      calls ++ rest.filterMap PipelineAction.report? := by
  rw [List.filterMap_append, filterMap_report hreporter]

/-- What is reported of a stage. -/
theorem exists_reports (hreporter : config.progressReporter = true) (x : String × ℕ) :
    ∃ ks, (actionsOf config answers x).filterMap PipelineAction.report? = .startStage x.1 :: ks ∧
      ∀ k ∈ ks, ReporterCall.isQuiet k = true := by
  have hwaiting : ∀ k ∈ (answers x.2).holders.map fun _ =>
      ReporterCall.setWaiting (some (queuedMessage x.1)), ReporterCall.isQuiet k = true := by
    intro k hk
    obtain ⟨holder, -, rfl⟩ := List.mem_map.1 hk
    rfl
  have htouches : ∀ k ∈ List.replicate (answers x.2).touches ReporterCall.touch,
      ReporterCall.isQuiet k = true := by
    intro k hk
    rw [(List.mem_replicate.1 hk).2]
    rfl
  have hresumed : ∀ k ∈ [ReporterCall.setWaiting none], ReporterCall.isQuiet k = true :=
    fun k hk => by rw [List.mem_singleton.1 hk]; rfl
  have hran : ∃ ks, (runStage config x.1 (answers x.2)).1.filterMap PipelineAction.report? =
      .startStage x.1 :: ks ∧ ∀ k ∈ ks, ReporterCall.isQuiet k = true := by
    rw [runStage]
    dsimp only
    by_cases hheavy : x.1 ∈ heavyStages
    · rw [if_pos hheavy]
      split
      · cases (answers x.2).acquired with
        | error thrown =>
          rw [filterMap_report_append hreporter, filterMap_report hreporter, List.singleton_append]
          exact ⟨_, rfl, List.forall_mem_append.2 ⟨hwaiting, hresumed⟩⟩
        | ok _ =>
          rw [filterMap_report_append hreporter, List.singleton_append,
            filterMap_report_append hreporter, List.filterMap_cons_none rfl,
            filterMap_report_append hreporter, @List.cons_append PipelineAction,
            List.filterMap_cons_none rfl, filterMap_report_append hreporter]
          refine ⟨_, rfl, List.forall_mem_append.2 ⟨hwaiting, List.forall_mem_append.2
            ⟨hresumed, List.forall_mem_append.2 ⟨htouches, List.forall_mem_nil _⟩⟩⟩⟩
      · rw [filterMap_report_append hreporter, List.filterMap_cons_none rfl,
          filterMap_report hreporter]
        exact ⟨_, rfl, htouches⟩
    · rw [if_neg hheavy, filterMap_report_append hreporter, List.filterMap_cons_none rfl]
      exact ⟨_, rfl, List.forall_mem_nil _⟩
  obtain ⟨ks, hks, hquiet⟩ := hran
  rw [actionsOf, List.filterMap_append, hks, List.cons_append]
  refine ⟨_, rfl, fun k hk => ?_⟩
  rcases List.mem_append.1 hk with hk | hk
  · exact hquiet k hk
  · split at hk
    · rw [filterMap_report hreporter] at hk
      rw [List.mem_singleton.1 hk]
      rfl
    · cases hk

/-- The stages of a job are reported in order, from where the job is. -/
theorem allowsAll_stages (hreporter : config.progressReporter = true) {stages : List String}
    {reached : List (String × ℕ)} {phase : ReportedPhase} (hgoing : phase.status.isTerminal = false)
    (hplace : ∀ x ∈ reached, stages.idxOf? x.1 = some x.2) (hle : ∀ x ∈ reached, phase.index ≤ x.2)
    (hordered : reached.Pairwise fun x y => x.2 < y.2) {n : ℕ} (hn : ∀ x ∈ reached, x.2 < n)
    (hphase : phase.index ≤ n) :
    let ks := (reached.flatMap (actionsOf config answers)).filterMap PipelineAction.report?
    ReportedPhase.AllowsAll stages phase ks ∧
      (ks.foldl (ReportedPhase.after stages) phase).status.isTerminal = false ∧
      (ks.foldl (ReportedPhase.after stages) phase).index ≤ n := by
  induction reached generalizing phase with
  | nil => exact ⟨trivial, hgoing, hphase⟩
  | cons x reached ih =>
    obtain ⟨ks, hks, hquiet⟩ := @exists_reports config answers hreporter x
    obtain ⟨hx, hplace⟩ := List.forall_mem_cons.1 hplace
    obtain ⟨hlex, hle⟩ := List.forall_mem_cons.1 hle
    obtain ⟨hlater, hordered⟩ := List.pairwise_cons.1 hordered
    obtain ⟨hnx, hn⟩ := List.forall_mem_cons.1 hn
    -- The stage has started.
    have hstarted : (phase.after stages (.startStage x.1)).index = x.2 + 1 ∧
        (phase.after stages (.startStage x.1)).status.isTerminal = false := by
      rw [ReportedPhase.after, hx]
      refine ⟨rfl, ?_⟩
      dsimp only
      split
      · rfl
      · exact hgoing
    obtain ⟨hall, hindex, hstage⟩ := @allowsAll_of_quiet stages
      (phase.after stages (.startStage x.1)) ks (hstarted.1 ▸ Nat.succ_pos _) hstarted.2 hquiet
    rw [hstarted.1] at hindex
    obtain ⟨hrest, hend⟩ := ih hstage hplace (fun y hy => hindex ▸ hlater y hy) hordered hn
      (hindex ▸ hnx)
    dsimp only
    rw [List.flatMap_cons, List.filterMap_append, hks, List.cons_append]
    refine ⟨⟨⟨hgoing, fun i hi => ?_⟩, ?_⟩, ?_⟩
    · rw [hx] at hi
      cases hi
      exact hlex
    · rw [ReportedPhase.allowsAll_append]
      exact ⟨hall, hrest⟩
    · rw [List.foldl_cons, List.foldl_append]
      exact hend

end

end Perfana.SequentialPipeline
