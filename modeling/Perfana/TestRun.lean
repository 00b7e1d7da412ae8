import Mathlib.Data.Int.Notation

/-!
# Test runs

The row of a run, as far as the analysis reads and writes it.
-/

namespace Perfana

/-- The status of a stage of the analysis of a run. -/
inductive EvaluationStatus
  | IN_PROGRESS
  | COMPLETED
  | ERROR
  | FAILED
  | NOT_CONFIGURED
  | NO_BASELINES_FOUND
  deriving DecidableEq, Repr

/-- How the performance differences of a run are judged. -/
inductive AdaptMode
  /-- Compared to the runs before it. -/
  | DEFAULT
  /-- A baseline itself. -/
  | BASELINE
  /-- Not to be compared to. -/
  | DEBUG
  deriving DecidableEq, Repr

/-- Whether the differences of a run were accepted. -/
inductive DifferencesAccepted
  | TBD
  | ACCEPTED
  | DENIED
  deriving DecidableEq, Repr

/-- The ADAPT configuration of a run; keys may be absent. -/
structure AdaptConfig where
  mode : Option AdaptMode
  /-- The acceptance of its differences. -/
  differencesAccepted : Option DifferencesAccepted
  deriving DecidableEq, Repr

/-- The consolidated result of a run; keys may be absent. -/
structure ConsolidatedResult where
  /-- Whether all checks meet their requirement. -/
  meetsRequirement : Option Bool := none
  /-- Whether ADAPT found no regression. -/
  adaptTestRunOK : Option Bool := none
  overall : Option Bool := none
  /-- Why the result cannot be trusted. -/
  error : Option String := none
  deriving DecidableEq, Repr

/-- A row of `test_runs`. -/
structure TestRun where
  testRunId : String
  systemUnderTestId : String
  testEnvironment : String
  workload : String
  organizationId : Option String
  teamId : Option String
  /-- The start, in milliseconds. -/
  startTime : Option ℤ
  /-- The end, in milliseconds. -/
  endTime : Option ℤ
  /-- The duration, in seconds. -/
  duration : Option ℤ
  /-- The start of the analysis window, in seconds after the start: the ramp-up. -/
  analysisStartOffset : Option ℤ
  /-- The end of the analysis window, in seconds before the end. -/
  analysisEndOffset : Option ℤ
  /-- The ADAPT configuration. -/
  adaptConfig : Option AdaptConfig
  /-- The status of the checks. -/
  evaluatingChecks : Option EvaluationStatus
  /-- The status of ADAPT. -/
  evaluatingAdapt : Option EvaluationStatus
  consolidatedResult : Option ConsolidatedResult
  /-- Whether the run is valid, once that is known. -/
  valid : Option Bool
  /-- Why it is not. -/
  reasonsNotValid : Option (List String)
  /-- What is suspect about its data. -/
  dataWarnings : Option (List String)
  deriving DecidableEq, Repr

end Perfana
