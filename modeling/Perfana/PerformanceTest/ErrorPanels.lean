import Perfana.Lib.Tally
import Perfana.PerformanceTest.Collection

/-!
# The error panels of a performance test

The errors of a run are counted on two panels of the dashboards of its scenarios: by
response code over the whole run, added up in maps (`ErrorRun.process`), and by response
code in buckets of time, from one statement (`ErrorRun.overTimeRows`).

* `mem_errorPoints`, `mem_counted`: both count the same errors, those of a scenario, or
  all on the dashboard of the roll-up;
* `ErrorRun.mem_process`, `ErrorRun.mem_overTimeRows`: what is written to the panels;
* `ErrorRun.nodup_process`, `ErrorRun.nodup_overTimeRows`: no two rows of the same key.
-/

namespace Perfana.PerformanceTest

open Aggregate

/-- The name that the series of a scenario are composed from. -/
def ERROR_COUNT_METRIC : String := "error_count"

/-- The panel of the errors of the whole run. -/
def SCENARIO_ERROR_COUNT : ℕ := 301

/-- The panel of the errors over time. -/
def SCENARIO_ERRORS_OVER_TIME : ℕ := 304

/-- The panels with one point for the whole run. -/
def SCENARIO_PANEL_IDS : List ℕ := [SCENARIO_ERROR_COUNT, 302, 303]

/-- How much of a response code reaches the name of a metric. -/
def MAX_RESPONSE_CODE_LENGTH : ℕ :=
  (255 - 1 - max ERROR_COUNT_METRIC.length ALL_AGGREGATED_METRIC.length) / 2

/-- How many series a scenario has over time at most. -/
def MAX_CODE_SERIES : ℕ := 20

/-- A row of `requests_error`. -/
structure RequestError where
  /-- The time, in milliseconds. -/
  time : ℤ
  scenarioName : Option String
  responseCode : Option String
  deriving DecidableEq, Repr

namespace RequestError

variable (e : RequestError)

/-- The scenario of an error. -/
def scenario : String := e.scenarioName.getD "default"

/-- Its response code, as far as it reaches the name of a metric. -/
def code : String :=
  left ((e.responseCode.filter (· ≠ "")).getD "unknown") MAX_RESPONSE_CODE_LENGTH

/-- It counts for a scenario: its own, and the roll-up. -/
def CountsFor (scenarioName : String) : Prop :=
  scenarioName = ALL_AGGREGATED_SCENARIO ∨ e.scenario = scenarioName

instance (scenarioName : String) : Decidable (e.CountsFor scenarioName) :=
  inferInstanceAs (Decidable (_ ∨ _))

end RequestError

/-- The name of the total of a scenario. -/
def baseName (scenarioName : String) : String :=
  if scenarioName = ALL_AGGREGATED_SCENARIO then ALL_AGGREGATED_METRIC else ERROR_COUNT_METRIC

/-- The name of the series of a response code. -/
def codeName (scenarioName code : String) : String := baseName scenarioName ++ "." ++ code

/-- How many code units of UTF-16 a character has. -/
def utf16Size (c : Char) : ℕ := if c.toNat < 0x10000 then 1 else 2

/-- The first characters of a text that fit into some code units of UTF-16. -/
def takeUnits : ℕ → List Char → List Char
  | _, [] => []
  | length, c :: cs =>
    if utf16Size c ≤ length then c :: takeUnits (length - utf16Size c) cs else []

/-- `substring(0, length)`. A character that would be cut in half is left out. -/
def substring (text : String) (length : ℕ) : String := String.ofList (takeUnits length text.toList)

/-! ## Counting -/

/-- How many errors a scenario has. -/
def scenarioCount (errors : List RequestError) (scenarioName : String) : ℕ :=
  errors.countP fun e => e.CountsFor scenarioName

/-- How many of them have a response code. -/
def codeCount (errors : List RequestError) (scenarioName code : String) : ℕ :=
  errors.countP fun e => e.CountsFor scenarioName ∧ e.code = code

/-- The counts of the errors, by scenario and by response code, and those of all. -/
structure ErrorCounts where
  /-- The counts of each scenario but the roll-up. -/
  byScenario : Table String (Table String ℕ)
  /-- Those of all errors. -/
  rollup : Table String ℕ

/-- A row of the query is counted. -/
def ErrorCounts.add (counts : ErrorCounts) (row : (String × String) × ℕ) : ErrorCounts :=
  let rollup := counts.rollup.add (row.1.2, row.2)
  if row.1.1 = ALL_AGGREGATED_SCENARIO then { counts with rollup }
  else { byScenario := counts.byScenario.addBy row, rollup }

/-- The series of a scenario: the total first. -/
def errorSeries (scenarioName : String) (codeCounts : Table String ℕ) : List (String × ℕ) :=
  (baseName scenarioName, (codeCounts.rows.map Prod.snd).sum) ::
    codeCounts.rows.map fun row => (codeName scenarioName row.1, row.2)

/-- The errors by scenario and response code: `GROUP BY 1, 2`. -/
def errorsData (errors : List RequestError) : List ((String × String) × ℕ) :=
  sumBy (fun e => (e.scenario, e.code)) (fun _ => 1) errors

/-- The points of the series, each of a scenario. -/
def errorPoints (errors : List RequestError) : List ((String × String) × ℕ) :=
  let counts := (errorsData errors).foldl ErrorCounts.add ⟨Table.empty, Table.empty⟩
  let rows := counts.byScenario.rows ++ [( ALL_AGGREGATED_SCENARIO, counts.rollup)]
  rows.flatMap fun row => (errorSeries row.1 row.2).map fun point => ((row.1, point.1), point.2)

/-- The points without errors: no errors in the scenarios that have requests. -/
def noErrorPoints (requestScenarios : List String) : List ((String × String) × ℕ) :=
  let scenarioNames := if requestScenarios = [] then ["default"] else requestScenarios
  (scenarioNames ++ [ ALL_AGGREGATED_SCENARIO]).dedup.map fun scenarioName =>
    ((scenarioName, baseName scenarioName), 0)

/-- The points of some errors, if there are any. -/
def pointsOf (requestScenarios : List String) (errors : List RequestError) :
    List ((String × String) × ℕ) :=
  if errorsData errors = [] then noErrorPoints requestScenarios else errorPoints errors

/-! ## The rows of the panels -/

/-- What the error panels of a run depend on besides its errors. -/
structure ErrorRun where
  /-- The start, in milliseconds. -/
  startTime : ℤ
  /-- The end, in milliseconds. -/
  endTime : ℤ
  /-- The ramp-up, in seconds. -/
  rampUpTime : ℤ
  /-- The ramp-down, in seconds. -/
  rampDownTime : ℤ
  dashboards : ScenarioDashboards
  bucketSizeSeconds : ℕ
  bucketSize_pos : 0 < bucketSizeSeconds
  /-- There are rows in `requests_raw` or `transactions`. -/
  hasRawRows : Bool

namespace ErrorRun

variable (run : ErrorRun)

/-- The times of the run. -/
def times : RunTimes := ⟨run.startTime, some run.rampUpTime⟩

/-- The buckets of the run. -/
def buckets : Buckets := ⟨run.startTime, run.bucketSizeSeconds⟩

/-- The time of the one point for the whole run: within the run once it is completed. -/
def scenarioMetricTime (completed : Bool) : ℤ :=
  if !completed then run.startTime
  else if run.rampDownTime ≤ 0 ∨
      ((run.endTime - run.startTime : ℤ) : ℚ) / 1000 ≤ run.rampUpTime + run.rampDownTime then
    run.endTime
  else run.endTime - run.rampDownTime * 1000

/-- The row of a point; none without a dashboard. -/
def createDsMetricsRecord (time : ℤ) (point : (String × String) × ℕ) :
    Option (DsMetricKey × DsMetric) :=
  (run.dashboards.dashboardId point.1.1).map fun applicationDashboardId =>
    ({ applicationDashboardId
       panelId := SCENARIO_ERROR_COUNT
       metricName := substring point.1.2 255
       time },
     { timestep := 0
       rampUp := run.times.isRampUp time
       value := point.2 })

/-- The errors of a window that starts with the run. -/
def errorsUntil (filterToTime : ℤ) (errors : List RequestError) : List RequestError :=
  errors.filter fun e => run.startTime ≤ e.time ∧ e.time ≤ filterToTime

/-- The rows of the panel of the whole run; none if a dashboard cannot be created. -/
def process (completed : Bool) (filterToTime : ℤ) (requestScenarios : List String)
    (errors : List RequestError) : Option (List (DsMetricKey × DsMetric)) :=
  let metricTime := run.scenarioMetricTime completed
  let points := pointsOf requestScenarios (run.errorsUntil filterToTime errors)
  if points.all fun point => (run.dashboards.dashboardId point.1.1).isSome then
    some (points.filterMap (run.createDsMetricsRecord metricTime))
  else none

/-- The bucket of an error. -/
def bucketOf (e : RequestError) : ℤ := run.buckets.bucketTime e.time

/-- The errors by scenario, response code and bucket. -/
def base (errors : List RequestError) : List ((String × String × ℤ) × ℕ) :=
  sumBy (fun e => (e.scenario, e.code, run.bucketOf e)) (fun _ => 1) errors

/-- Those of the scenarios, and those of all, rolled up. -/
def counted (errors : List RequestError) : List ((String × String × ℤ) × ℕ) :=
  (run.base errors).filter (·.1.1 ≠ ALL_AGGREGATED_SCENARIO) ++
    (sumBy (fun row => (row.1.2.1, row.1.2.2)) Prod.snd (run.base errors)).map fun row =>
      (( ALL_AGGREGATED_SCENARIO, row.1.1, row.1.2), row.2)

/-- The response codes of a scenario, those with most errors first. -/
def ranked (totals : List ((String × String) × ℕ)) (scenarioName : String) :
    List ((String × String) × ℕ) :=
  (totals.filter (·.1.1 = scenarioName)).insertionSort fun row row' =>
    row'.2 < row.2 ∨ row.2 = row'.2 ∧ row.1.2 ≤ row'.1.2

/-- The series that are kept: those with most errors in each scenario. -/
def codes (errors : List RequestError) : List (String × String) :=
  let totals := sumBy (fun row => (row.1.1, row.1.2.1)) Prod.snd (run.counted errors)
  (totals.map fun row => row.1.1).dedup.flatMap fun scenarioName =>
    ((ranked totals scenarioName).take MAX_CODE_SERIES).map Prod.fst

/-- `generate_series`: the times from one to another in steps of a length. -/
def generateSeries (start stop step : ℤ) : List ℤ :=
  (List.range ((stop - start) / step + 1).toNat).map fun i : ℕ => start + i * step

/-- The buckets of the run. -/
def grid : List ℤ := generateSeries run.startTime run.endTime run.buckets.width

/-- The rows of the panel over time: for every series and bucket, with zeros. -/
def overTimeRows (errors : List RequestError) : List EmittedRow :=
  let errors := run.errorsUntil run.endTime errors
  (run.codes errors).flatMap fun c => run.grid.flatMap fun bucketTime =>
    (leftJoin (run.counted errors) fun n => n.1 = (c.1, c.2, bucketTime)).map fun n =>
      { scenarioName := c.1
        metricName := codeName c.1 c.2
        panelId := SCENARIO_ERRORS_OVER_TIME
        value := some (((n.map Prod.snd).getD 0 : ℕ) / (run.bucketSizeSeconds : ℚ))
        bucketTime
        timestep := run.buckets.timestep bucketTime }

end ErrorRun

/-! ## Names -/

theorem left_eq_self {text : String} {length : ℕ} (h : text.toList.length ≤ length) :
    left text length = text := by
  rw [left, List.take_of_length_le h, String.ofList_toList]

/-- No character has more than two code units. -/
theorem units_le (cs : List Char) : (cs.map utf16Size).sum ≤ 2 * cs.length := by
  induction cs with
  | nil => rfl
  | cons c cs ih =>
    have hc : utf16Size c ≤ 2 := by
      rw [utf16Size]
      split <;> omega
    rw [List.map_cons, List.sum_cons, List.length_cons]
    omega

/-- Characters that fit are not cut. -/
theorem takeUnits_eq_self {cs : List Char} {length : ℕ} (h : (cs.map utf16Size).sum ≤ length) :
    takeUnits length cs = cs := by
  induction cs generalizing length with
  | nil => rfl
  | cons c cs ih =>
    rw [List.map_cons, List.sum_cons] at h
    rw [takeUnits, if_pos (by omega), ih (by omega)]

theorem substring_eq_self {text : String} {length : ℕ}
    (h : (text.toList.map utf16Size).sum ≤ length) : substring text length = text := by
  rw [substring, takeUnits_eq_self h, String.ofList_toList]

/-- The code of an error is short enough for the name of a metric. -/
theorem length_code_le (e : RequestError) : e.code.toList.length ≤ MAX_RESPONSE_CODE_LENGTH := by
  rw [RequestError.code, left, String.toList_ofList]
  exact List.length_take_le _ _

theorem maxResponseCodeLength_eq : MAX_RESPONSE_CODE_LENGTH = 120 := by decide +kernel

/-- The base of a name is short, and of characters of one unit. -/
theorem units_baseName_le (scenarioName : String) :
    ((baseName scenarioName).toList.map utf16Size).sum ≤ 14 ∧
      (baseName scenarioName).toList.length ≤ 14 := by
  have hall : ∀ name ∈ [ALL_AGGREGATED_METRIC, ERROR_COUNT_METRIC],
      (name.toList.map utf16Size).sum ≤ 14 ∧ name.toList.length ≤ 14 := by decide +kernel
  refine hall _ ?_
  rw [baseName]
  split <;> simp

section CodeName

variable {scenarioName code code' : String}

theorem toList_codeName : (codeName scenarioName code).toList =
    (baseName scenarioName).toList ++ '.' :: code.toList := by
  simp [codeName]

/-- A name of a code is stored whole, by either writer. -/
theorem left_codeName (h : code.toList.length ≤ MAX_RESPONSE_CODE_LENGTH) :
    left (codeName scenarioName code) 255 = codeName scenarioName code := by
  have := (units_baseName_le scenarioName).2
  rw [maxResponseCodeLength_eq] at h
  refine left_eq_self ?_
  rw [toList_codeName, List.length_append, List.length_cons]
  omega

theorem substring_codeName (h : code.toList.length ≤ MAX_RESPONSE_CODE_LENGTH) :
    substring (codeName scenarioName code) 255 = codeName scenarioName code := by
  have hbase := (units_baseName_le scenarioName).1
  have hcode := units_le code.toList
  have hdot : utf16Size '.' = 1 := by decide
  rw [maxResponseCodeLength_eq] at h
  refine substring_eq_self ?_
  rw [toList_codeName, List.map_append, List.map_cons, List.sum_append, List.sum_cons, hdot]
  omega

theorem substring_baseName (scenarioName : String) :
    substring (baseName scenarioName) 255 = baseName scenarioName :=
  substring_eq_self ((units_baseName_le scenarioName).1.trans (by omega))

/-- The names of a scenario tell its series apart. -/
theorem codeName_inj : codeName scenarioName code = codeName scenarioName code' ↔ code = code' := by
  simp [codeName, String.append_right_inj]

theorem codeName_ne_baseName : codeName scenarioName code ≠ baseName scenarioName := by
  intro h
  have hlength := congrArg (fun name => name.toList.length) h
  simp only [toList_codeName, List.length_append, List.length_cons] at hlength
  omega

end CodeName

/-! ## The points of the whole run -/

/-- A point of the panel of the whole run: the total of a scenario that has errors, or of
    the roll-up, or one of its response codes. -/
inductive ErrorPoint (errors : List RequestError) : String → String → ℕ → Prop
  | total (scenarioName : String)
      (h : scenarioName = ALL_AGGREGATED_SCENARIO ∨ ∃ e ∈ errors, e.scenario = scenarioName) :
      ErrorPoint errors scenarioName (baseName scenarioName) (scenarioCount errors scenarioName)
  | code (scenarioName : String) (e : RequestError) (he : e ∈ errors)
      (hscenario : e.CountsFor scenarioName) :
      ErrorPoint errors scenarioName (codeName scenarioName e.code)
        (codeCount errors scenarioName e.code)

/-- More errors have a point where fewer have. -/
theorem ErrorPoint.mono {errors errors' : List RequestError} {scenarioName name : String} {n : ℕ}
    (h : ErrorPoint errors scenarioName name n) (hsubset : errors ⊆ errors') :
    ∃ n', ErrorPoint errors' scenarioName name n' := by
  cases h with
  | total hs => exact ⟨_, .total _ (hs.imp_right fun h => h.imp fun e he => ⟨hsubset he.1, he.2⟩)⟩
  | code e he hs => exact ⟨_, .code _ e (hsubset he) hs⟩

/-- No errors have the total of the roll-up only. -/
theorem ErrorPoint.of_nil {scenarioName name : String} {n : ℕ}
    (h : ErrorPoint [] scenarioName name n) :
    scenarioName = ALL_AGGREGATED_SCENARIO ∧ name = baseName ALL_AGGREGATED_SCENARIO := by
  cases h with
  | total hs =>
    rcases hs with rfl | ⟨e, he, -⟩
    · exact ⟨rfl, rfl⟩
    · exact absurd he List.not_mem_nil
  | code e he => exact absurd he List.not_mem_nil

section Points

variable {errors : List RequestError} {scenarioName code : String} {n : ℕ}

/-- The errors of some groups. -/
theorem sum_errorsData (errors : List RequestError) (p : String × String → Bool) :
    (((errorsData errors).filter fun row => p row.1).map Prod.snd).sum =
      errors.countP fun e => p (e.scenario, e.code) := by
  rw [errorsData, sum_sumBy, List.countP_eq_length_filter]
  simp

/-- The rows of the query that are added up for a scenario. -/
def rowsFor (errors : List RequestError) (scenarioName : String) : List (String × ℕ) :=
  ((errorsData errors).filter fun row =>
    scenarioName = ALL_AGGREGATED_SCENARIO ∨ row.1.1 = scenarioName).map fun row => (row.1.2, row.2)

/-- Every row is added up in the table of its scenario, but for the roll-up's own, and in
    that of all. -/
theorem foldl_add (rows : List ((String × String) × ℕ)) (counts : ErrorCounts) :
    rows.foldl ErrorCounts.add counts =
      { byScenario := (rows.filter fun row => row.1.1 ≠ ALL_AGGREGATED_SCENARIO).foldl
          Table.addBy counts.byScenario
        rollup := (rows.map fun row => (row.1.2, row.2)).foldl Table.add counts.rollup } := by
  induction rows generalizing counts with
  | nil => rfl
  | cons row rows ih =>
    rw [List.foldl_cons, ih]
    by_cases h : row.1.1 = ALL_AGGREGATED_SCENARIO <;> simp [ErrorCounts.add, h]

/-- The tables that the series are read off. -/
theorem mem_counts {errors : List RequestError} {counts : ErrorCounts}
    (h : counts = (errorsData errors).foldl ErrorCounts.add ⟨Table.empty, Table.empty⟩)
    {codeCounts : Table String ℕ} :
    (scenarioName, codeCounts) ∈
        counts.byScenario.rows ++ [( ALL_AGGREGATED_SCENARIO, counts.rollup)] ↔
      (scenarioName = ALL_AGGREGATED_SCENARIO ∨ ∃ e ∈ errors, e.scenario = scenarioName) ∧
        codeCounts = Table.tally (rowsFor errors scenarioName) := by
  rw [foldl_add] at h
  rw [List.mem_append, List.mem_singleton, Prod.mk.injEq, Table.mem_rows, h, Table.get_tallyBy]
  by_cases hs : scenarioName = ALL_AGGREGATED_SCENARIO
  · subst hs
    have hnone : Table.ofGroup ALL_AGGREGATED_SCENARIO ((errorsData errors).filter fun row =>
        row.1.1 ≠ ALL_AGGREGATED_SCENARIO) = [] := by
      simp [Table.ofGroup]
    have hall : rowsFor errors ALL_AGGREGATED_SCENARIO =
        (errorsData errors).map fun row => (row.1.2, row.2) := by
      simp [rowsFor]
    rw [if_pos hnone, hall]
    simp [Table.tally]
  · have hgroup : Table.ofGroup scenarioName ((errorsData errors).filter fun row =>
        row.1.1 ≠ ALL_AGGREGATED_SCENARIO) = rowsFor errors scenarioName := by
      rw [Table.ofGroup, rowsFor, List.filter_filter]
      refine congrArg _ (List.filter_congr fun row _ => ?_)
      by_cases hrow : row.1.1 = scenarioName <;> simp [hrow, hs]
    have hnil : rowsFor errors scenarioName = [] ↔ ¬∃ e ∈ errors, e.scenario = scenarioName := by
      simp only [rowsFor, List.map_eq_nil_iff, List.filter_eq_nil_iff, hs, false_or,
        decide_eq_true_eq, not_exists, not_and]
      constructor
      · intro hrows e he
        exact hrows ((e.scenario, e.code), _) (mem_sumBy.2 ⟨⟨e, he, rfl⟩, rfl⟩)
      · rintro hrows ⟨k, m⟩ hrow
        obtain ⟨⟨e, he, rfl⟩, -⟩ := mem_sumBy.1 hrow
        exact hrows e he
    rw [hgroup]
    split
    · rename_i hrows
      simp [hs, hnil.1 hrows]
    · rename_i hrows
      have hex : ∃ e ∈ errors, e.scenario = scenarioName := not_not.1 (mt hnil.2 hrows)
      rw [Option.some.injEq]
      constructor
      · rintro (rfl | ⟨rfl, -⟩)
        · exact ⟨.inr hex, rfl⟩
        · exact absurd rfl hs
      · rintro ⟨-, rfl⟩
        exact .inl rfl

/-- The table of a scenario has the counts of its codes. -/
theorem mem_tally_rowsFor : (code, n) ∈ (Table.tally (rowsFor errors scenarioName)).rows ↔
    (∃ e ∈ errors, e.CountsFor scenarioName ∧ e.code = code) ∧
      n = codeCount errors scenarioName code := by
  have hsum : (((rowsFor errors scenarioName).filter (·.1 = code)).map Prod.snd).sum =
      codeCount errors scenarioName code := by
    have hsum := sum_errorsData errors fun k =>
      (scenarioName = ALL_AGGREGATED_SCENARIO ∨ k.1 = scenarioName) ∧ k.2 = code
    have hfilter : ((errorsData errors).filter fun row =>
        scenarioName = ALL_AGGREGATED_SCENARIO ∨ row.1.1 = scenarioName).filter (·.1.2 = code) =
        (errorsData errors).filter fun row =>
          (scenarioName = ALL_AGGREGATED_SCENARIO ∨ row.1.1 = scenarioName) ∧ row.1.2 = code := by
      rw [List.filter_filter]
      exact List.filter_congr fun row _ => by simp [and_comm]
    rw [rowsFor, List.filter_map, List.map_map]
    refine Eq.trans ?_ hsum
    rw [← hfilter]
    rfl
  rw [(Table.tally_perm _).mem_iff, mem_sumBy, hsum]
  refine and_congr_left fun _ => ?_
  simp only [rowsFor, List.mem_map, List.mem_filter, decide_eq_true_eq]
  constructor
  · rintro ⟨-, ⟨row, ⟨hrow, hscenario⟩, rfl⟩, rfl⟩
    obtain ⟨⟨e, he, hkey⟩, -⟩ := mem_sumBy.1 hrow
    refine ⟨e, he, ?_, congrArg Prod.snd hkey⟩
    exact hscenario.imp_right fun h => (congrArg Prod.fst hkey).trans h
  · rintro ⟨e, he, hscenario, rfl⟩
    exact ⟨_, ⟨_, ⟨mem_sumBy.2 ⟨⟨e, he, rfl⟩, rfl⟩, hscenario⟩, rfl⟩, rfl⟩

theorem sum_tally_rowsFor : ((Table.tally (rowsFor errors scenarioName)).rows.map Prod.snd).sum =
    scenarioCount errors scenarioName := by
  have hsum := sum_errorsData errors fun k =>
    decide (scenarioName = ALL_AGGREGATED_SCENARIO ∨ k.1 = scenarioName)
  rw [Table.sum_tally, rowsFor, List.map_map]
  exact hsum

/-- The points that are added up. -/
theorem mem_errorPoints {name : String} :
    ((scenarioName, name), n) ∈ errorPoints errors ↔ ErrorPoint errors scenarioName name n := by
  simp only [errorPoints, errorSeries, List.mem_flatMap, List.mem_map, List.mem_cons, Prod.exists,
    Prod.mk.injEq, mem_counts rfl]
  constructor
  · rintro ⟨s, _, ⟨hs, rfl⟩, name, n, ⟨rfl, rfl⟩ | ⟨code, n, hcode, rfl, rfl⟩, ⟨rfl, rfl⟩, rfl⟩
    · rw [sum_tally_rowsFor]
      exact .total _ hs
    · obtain ⟨⟨e, he, hscenario, rfl⟩, rfl⟩ := mem_tally_rowsFor.1 hcode
      exact .code _ e he hscenario
  · rintro (hs | ⟨e, he, hscenario⟩)
    · exact ⟨_, _, ⟨hs, rfl⟩, _, _, .inl ⟨rfl, sum_tally_rowsFor.symm⟩, ⟨rfl, rfl⟩, rfl⟩
    · refine ⟨_, _, ⟨?_, rfl⟩, _, _, .inr ⟨_, _, ?_, rfl, rfl⟩, ⟨rfl, rfl⟩, rfl⟩
      · exact hscenario.imp_right fun h => ⟨e, he, h⟩
      · exact mem_tally_rowsFor.2 ⟨⟨e, he, hscenario, rfl⟩, rfl⟩

/-- No two points have the same name in a scenario. -/
theorem nodup_errorPoints (errors : List RequestError) :
    ((errorPoints errors).map Prod.fst).Nodup := by
  have hscenarios : ∀ counts : ErrorCounts,
      counts = (errorsData errors).foldl ErrorCounts.add ⟨Table.empty, Table.empty⟩ →
      ((counts.byScenario.rows ++ [( ALL_AGGREGATED_SCENARIO, counts.rollup)]).map
        Prod.fst).Nodup := by
    intro counts h
    rw [List.map_append]
    refine counts.byScenario.nodup.append (List.nodup_singleton _) ?_
    rw [List.map_singleton, List.disjoint_singleton, ← Table.get_eq_none, h, foldl_add]
    exact (Table.get_tallyBy _ _).trans (if_pos (by simp [Table.ofGroup]))
  have hseries : ∀ scenarioName codeCounts,
      ((errorSeries scenarioName codeCounts).map Prod.fst).Nodup := by
    intro scenarioName codeCounts
    rw [errorSeries, List.map_cons, List.map_map]
    refine List.nodup_cons.2 ⟨?_, ?_⟩
    · intro h
      obtain ⟨row, -, hrow⟩ := List.mem_map.1 h
      exact codeName_ne_baseName hrow
    · have hcodes := codeCounts.nodup.map fun _ _ => (@codeName_inj scenarioName _ _).1
      rwa [List.map_map] at hcodes
  rw [errorPoints, List.map_flatMap]
  refine List.nodup_flatMap.2 ⟨fun row _ => ?_, ?_⟩
  · rw [List.map_map]
    have hpairs := (hseries row.1 row.2).map fun _ _ => (Prod.mk_right_injective row.1).eq_iff.1
    rwa [List.map_map] at hpairs
  · refine (List.pairwise_map.1 (hscenarios _ rfl)).imp ?_
    rintro row row' hne ⟨s, name⟩ h h'
    simp only [List.map_map, List.mem_map] at h h'
    obtain ⟨_, -, h⟩ := h
    obtain ⟨_, -, h'⟩ := h'
    exact hne ((congrArg Prod.fst h).trans (congrArg Prod.fst h').symm)

end Points

/-! ## The counts over time -/

namespace ErrorRun

variable (run : ErrorRun)

/-- How many errors a scenario has with a response code in a bucket. -/
def bucketCount (errors : List RequestError) (scenarioName code : String) (bucketTime : ℤ) : ℕ :=
  errors.countP fun e => e.CountsFor scenarioName ∧ e.code = code ∧ run.bucketOf e = bucketTime

variable {run} {errors : List RequestError} {scenarioName code : String} {bucketTime : ℤ} {n : ℕ}

theorem sum_base (errors : List RequestError) (p : String × String × ℤ → Bool) :
    (((run.base errors).filter fun row => p row.1).map Prod.snd).sum =
      errors.countP fun e => p (e.scenario, e.code, run.bucketOf e) := by
  rw [base, sum_sumBy, List.countP_eq_length_filter]
  simp

/-- The groups of all scenarios, rolled up. -/
theorem mem_rollup {k : String × ℤ} :
    (k, n) ∈ sumBy (fun row => (row.1.2.1, row.1.2.2)) Prod.snd (run.base errors) ↔
      (∃ e ∈ errors, (e.code, run.bucketOf e) = k) ∧
        n = errors.countP fun e => (e.code, run.bucketOf e) = k := by
  rw [mem_sumBy]
  refine and_congr ?_ ?_
  · constructor
    · rintro ⟨row, hrow, rfl⟩
      obtain ⟨⟨e, he, hkey⟩, -⟩ := mem_sumBy.1 hrow
      exact ⟨e, he, congrArg Prod.snd hkey⟩
    · rintro ⟨e, he, rfl⟩
      exact ⟨_, mem_sumBy.2 ⟨⟨e, he, rfl⟩, rfl⟩, rfl⟩
  · rw [← sum_base errors fun key => (key.2.1, key.2.2) = k]

/-- What is counted over time: a scenario of the roll-up's name in the roll-up only. -/
theorem mem_counted : ((scenarioName, code, bucketTime), n) ∈ run.counted errors ↔
    (∃ e ∈ errors, e.CountsFor scenarioName ∧ e.code = code ∧ run.bucketOf e = bucketTime) ∧
      n = run.bucketCount errors scenarioName code bucketTime := by
  rw [counted, List.mem_append, List.mem_filter, List.mem_map]
  by_cases hs : scenarioName = ALL_AGGREGATED_SCENARIO
  · subst hs
    have hcount : (errors.countP fun e => (e.code, run.bucketOf e) = (code, bucketTime)) =
        run.bucketCount errors ALL_AGGREGATED_SCENARIO code bucketTime :=
      List.countP_congr fun e _ => by simp [RequestError.CountsFor]
    constructor
    · rintro (⟨-, hne⟩ | ⟨⟨⟨c, b⟩, m⟩, hrow, hkey⟩)
      · exact absurd rfl (of_decide_eq_true hne)
      · cases hkey
        obtain ⟨⟨e, he, hk⟩, rfl⟩ := mem_rollup.1 hrow
        obtain ⟨rfl, rfl⟩ := Prod.mk.inj hk
        exact ⟨⟨e, he, .inl rfl, rfl, rfl⟩, hcount⟩
    · rintro ⟨⟨e, he, -, rfl, rfl⟩, rfl⟩
      exact .inr ⟨_, mem_rollup.2 ⟨⟨e, he, rfl⟩, rfl⟩, by rw [hcount]⟩
  · have hcount : (errors.countP fun e =>
        (e.scenario, e.code, run.bucketOf e) = (scenarioName, code, bucketTime)) =
        run.bucketCount errors scenarioName code bucketTime :=
      List.countP_congr fun e _ => by simp [RequestError.CountsFor, hs]
    have hsum : ((errors.filter fun e =>
        (e.scenario, e.code, run.bucketOf e) = (scenarioName, code, bucketTime)).map
          fun _ => 1).sum = run.bucketCount errors scenarioName code bucketTime := by
      rw [← hcount, List.countP_eq_length_filter]
      simp
    constructor
    · rintro (⟨hrow, -⟩ | ⟨row, -, hkey⟩)
      · obtain ⟨⟨e, he, hk⟩, rfl⟩ := mem_sumBy.1 hrow
        cases hk
        exact ⟨⟨e, he, .inr rfl, rfl, rfl⟩, hsum⟩
      · exact absurd (congrArg (fun row => row.1.1) hkey).symm hs
    · rintro ⟨⟨e, he, hscenario, rfl, rfl⟩, rfl⟩
      obtain rfl := hscenario.resolve_left hs
      exact .inl ⟨mem_sumBy.2 ⟨⟨e, he, rfl⟩, hsum.symm⟩, decide_eq_true hs⟩

/-- No two counts have the same key. -/
theorem nodup_counted (errors : List RequestError) :
    ((run.counted errors).map Prod.fst).Nodup := by
  rw [counted, List.map_append, List.map_map]
  refine List.Nodup.append ((nodup_sumBy _ _ errors).sublist (List.filter_sublist.map _)) ?_ ?_
  · have hkeys := (nodup_sumBy (fun row : (String × String × ℤ) × ℕ => (row.1.2.1, row.1.2.2))
      Prod.snd (run.base errors)).map fun _ _ =>
        (Prod.mk_right_injective ALL_AGGREGATED_SCENARIO).eq_iff.1
    rwa [List.map_map] at hkeys
  · intro k hscenario hrollup
    obtain ⟨row, hrow, rfl⟩ := List.mem_map.1 hscenario
    obtain ⟨row', -, hrow'⟩ := List.mem_map.1 hrollup
    exact of_decide_eq_true (List.mem_filter.1 hrow).2 (congrArg Prod.fst hrow').symm

/-! ## The grid -/

variable {start stop step time : ℤ}

theorem mem_generateSeries (hstep : 0 < step) : time ∈ generateSeries start stop step ↔
    ∃ i : ℕ, time = start + i * step ∧ time ≤ stop := by
  simp only [generateSeries, List.mem_map, List.mem_range]
  constructor
  · rintro ⟨i, hi, rfl⟩
    refine ⟨i, rfl, ?_⟩
    have hle : (i : ℤ) ≤ (stop - start) / step := by omega
    have := (Int.le_ediv_iff_mul_le hstep).1 hle
    omega
  · rintro ⟨i, rfl, hle⟩
    have hi : (i : ℤ) ≤ (stop - start) / step := (Int.le_ediv_iff_mul_le hstep).2 (by omega)
    exact ⟨i, by omega, rfl⟩

theorem nodup_generateSeries (hstep : 0 < step) : (generateSeries start stop step).Nodup := by
  refine List.nodup_range.map fun i j h => ?_
  have hij := Int.eq_of_mul_eq_mul_right hstep.ne' (add_left_cancel h)
  exact Int.ofNat_inj.1 hij

theorem grid_width_pos (run : ErrorRun) : 0 < run.buckets.width :=
  @PerfTest.width_pos run.buckets run.bucketSize_pos

/-- The buckets of the errors of the run are on its grid. -/
theorem bucketOf_mem_grid {e : RequestError} (he : e ∈ run.errorsUntil run.endTime errors) :
    run.bucketOf e ∈ run.grid := by
  obtain ⟨-, htime⟩ := List.mem_filter.1 he
  obtain ⟨hstart, hend⟩ := of_decide_eq_true htime
  have hle : run.bucketOf e ≤ e.time := @PerfTest.bucketTime_le run.buckets run.bucketSize_pos _
  have hpos := run.grid_width_pos
  refine (mem_generateSeries hpos).2
    ⟨((e.time - run.startTime) / run.buckets.width).toNat, ?_, hle.trans hend⟩
  rw [Int.toNat_of_nonneg (Int.ediv_nonneg (by omega) hpos.le)]
  rfl

/-- The counts of a code in the buckets of the grid add up to its count. -/
theorem sum_bucketCount {errors : List RequestError}
    (h : ∀ e ∈ errors, run.bucketOf e ∈ run.grid) (scenarioName code : String) :
    (run.grid.map fun bucketTime => run.bucketCount errors scenarioName code bucketTime).sum =
      codeCount errors scenarioName code := by
  let rows := errors.filter fun e => e.CountsFor scenarioName ∧ e.code = code
  have hgrid : run.grid.Nodup := nodup_generateSeries run.grid_width_pos
  have hrows : ∀ e ∈ rows, run.bucketOf e ∈ run.grid := fun e he => h e (List.mem_filter.1 he).1
  have hsum := sum_length_fibers run.bucketOf hgrid hrows
  have hbucket : ∀ bucketTime, (rows.filter (run.bucketOf · = bucketTime)).length =
      run.bucketCount errors scenarioName code bucketTime := by
    intro bucketTime
    rw [bucketCount, List.countP_eq_length_filter, List.filter_filter]
    refine congrArg List.length (List.filter_congr fun e _ => ?_)
    by_cases hb : run.bucketOf e = bucketTime <;> simp [hb]
  simp only [hbucket] at hsum
  rw [hsum, codeCount, List.countP_eq_length_filter]

/-! ## The series that are kept -/

theorem mem_totals {row : (String × String) × ℕ}
    (h : row ∈ sumBy (fun row => (row.1.1, row.1.2.1)) Prod.snd (run.counted errors)) :
    ∃ e ∈ errors, e.CountsFor row.1.1 ∧ e.code = row.1.2 := by
  obtain ⟨⟨⟨⟨s, c, b⟩, n⟩, hcounted, hkey⟩, -⟩ := mem_sumBy.1 h
  obtain ⟨⟨e, he, hscenario, hcode, -⟩, -⟩ := mem_counted.1 hcounted
  rw [← hkey]
  exact ⟨e, he, hscenario, hcode⟩

theorem ranked_perm (totals : List ((String × String) × ℕ)) (scenarioName : String) :
    (ranked totals scenarioName).Perm (totals.filter (·.1.1 = scenarioName)) :=
  List.perm_insertionSort _ _

/-- A series that is kept has errors. -/
theorem exists_of_mem_codes (h : (scenarioName, code) ∈ run.codes errors) :
    ∃ e ∈ errors, e.CountsFor scenarioName ∧ e.code = code := by
  simp only [codes, List.mem_flatMap, List.mem_map] at h
  obtain ⟨s, -, row, hrow, hkey⟩ := h
  have htotal := (ranked_perm _ _).subset (List.mem_of_mem_take hrow)
  obtain ⟨e, he, hscenario, hcode⟩ := mem_totals (List.mem_filter.1 htotal).1
  rw [hkey] at hscenario hcode
  exact ⟨e, he, hscenario, hcode⟩

/-- No series is kept twice. -/
theorem nodup_codes (errors : List RequestError) : (run.codes errors).Nodup := by
  have hnodup := nodup_sumBy (fun row : (String × String × ℤ) × ℕ => (row.1.1, row.1.2.1))
    Prod.snd (run.counted errors)
  refine List.nodup_flatMap.2 ⟨fun s _ => ?_, ?_⟩
  · have hranked := ((ranked_perm (sumBy (fun row => (row.1.1, row.1.2.1)) Prod.snd
      (run.counted errors)) s).map Prod.fst).nodup_iff.2
      (hnodup.sublist (List.filter_sublist.map _))
    exact hranked.sublist ((List.take_sublist _ _).map _)
  · refine (List.nodup_dedup _).imp ?_
    rintro s s' hne ⟨t, c⟩ h h'
    have hof : ∀ s, (t, c) ∈ ((ranked (sumBy (fun row => (row.1.1, row.1.2.1)) Prod.snd
        (run.counted errors)) s).take MAX_CODE_SERIES).map Prod.fst → t = s := by
      intro s h
      obtain ⟨row, hrow, hkey⟩ := List.mem_map.1 h
      have htotal := (ranked_perm _ _).subset (List.mem_of_mem_take hrow)
      exact (congrArg Prod.fst hkey).symm.trans (of_decide_eq_true (List.mem_filter.1 htotal).2)
    exact hne ((hof s h).symm.trans (hof s' h'))

/-! ## What is written -/

variable (run) in
/-- A row of the panel of the whole run: of a point. -/
structure ErrorCountRow (errors : List RequestError) (time : ℤ) (k : DsMetricKey) (v : ℚ) :
    Prop where
  point : ∃ scenarioName n, ErrorPoint errors scenarioName k.metricName n ∧ v = n ∧
    run.dashboards.dashboardId scenarioName = some k.applicationDashboardId
  panelId : k.panelId = SCENARIO_ERROR_COUNT
  time : k.time = time

variable (run) in
/-- A row that says that a scenario has no errors. -/
structure NoErrorRow (time : ℤ) (k : DsMetricKey) (v : ℚ) : Prop where
  total : ∃ scenarioName, k.metricName = baseName scenarioName ∧
    run.dashboards.dashboardId scenarioName = some k.applicationDashboardId
  /-- There are none. -/
  value : v = 0
  panelId : k.panelId = SCENARIO_ERROR_COUNT
  time : k.time = time

variable (run) in
/-- A row of the panel over time: of a series that is kept, in a bucket of the run. -/
structure OverTimeRow (errors : List RequestError) (k : DsMetricKey) (v : ℚ) : Prop where
  series : ∃ scenarioName code, (scenarioName, code) ∈ run.codes errors ∧
    k.metricName = codeName scenarioName code ∧
    v = run.bucketCount errors scenarioName code k.time / (run.bucketSizeSeconds : ℚ) ∧
    run.dashboards.dashboardId scenarioName = some k.applicationDashboardId
  panelId : k.panelId = SCENARIO_ERRORS_OVER_TIME
  /-- The bucket. -/
  time : k.time ∈ run.grid

theorem errorsData_eq_nil {errors : List RequestError} : errorsData errors = [] ↔ errors = [] := by
  simp [errorsData, sumBy, groupBy]

theorem errorPoint_substring {name : String} (h : ErrorPoint errors scenarioName name n) :
    substring name 255 = name := by
  cases h with
  | total => exact substring_baseName _
  | code e => exact substring_codeName (length_code_le e)

section Process

variable {completed : Bool} {filterToTime : ℤ} {requestScenarios : List String}
  {rows : List (DsMetricKey × DsMetric)}

theorem process_eq_some
    (h : run.process completed filterToTime requestScenarios errors = some rows) :
    (∀ point ∈ pointsOf requestScenarios (run.errorsUntil filterToTime errors),
      (run.dashboards.dashboardId point.1.1).isSome) ∧
    rows = (pointsOf requestScenarios (run.errorsUntil filterToTime errors)).filterMap
      (run.createDsMetricsRecord (run.scenarioMetricTime completed)) := by
  simp only [process] at h
  split at h
  · rename_i hall
    exact ⟨List.all_eq_true.1 hall, (Option.some.inj h).symm⟩
  · cases h

/-- The rows of a run with errors are those of its points. -/
theorem mem_process (h : run.process completed filterToTime requestScenarios errors = some rows)
    (hne : run.errorsUntil filterToTime errors ≠ []) {k : DsMetricKey} {v : ℚ} :
    (∃ m, (k, m) ∈ rows ∧ m.value = v) ↔ run.ErrorCountRow (run.errorsUntil filterToTime errors)
      (run.scenarioMetricTime completed) k v := by
  obtain ⟨-, rfl⟩ := process_eq_some h
  rw [pointsOf, if_neg (mt errorsData_eq_nil.1 hne)]
  simp only [List.mem_filterMap, createDsMetricsRecord, Option.map_eq_some_iff]
  constructor
  · rintro ⟨m, ⟨⟨⟨s, name⟩, n⟩, hpoint, d, hd, hrow⟩, rfl⟩
    cases hrow
    rw [mem_errorPoints] at hpoint
    exact ⟨⟨s, n, (errorPoint_substring hpoint).symm ▸ hpoint, rfl, hd⟩, rfl, rfl⟩
  · rintro ⟨⟨s, n, hpoint, rfl, hd⟩, hpanel, htime⟩
    obtain ⟨d, panelId, name, time⟩ := k
    obtain rfl : panelId = _ := hpanel
    obtain rfl : time = _ := htime
    have hname : substring name 255 = name := errorPoint_substring hpoint
    refine ⟨⟨0, run.times.isRampUp (run.scenarioMetricTime completed), n⟩,
      ⟨((s, name), n), mem_errorPoints.2 hpoint, d, hd, ?_⟩, rfl⟩
    rw [hname]

/-- Those of a run without errors say so. -/
theorem of_mem_process (h : run.process completed filterToTime requestScenarios errors = some rows)
    (hnil : run.errorsUntil filterToTime errors = []) {k : DsMetricKey} {m : DsMetric}
    (hm : (k, m) ∈ rows) : run.NoErrorRow (run.scenarioMetricTime completed) k m.value := by
  obtain ⟨-, rfl⟩ := process_eq_some h
  rw [pointsOf, if_pos (errorsData_eq_nil.2 hnil)] at hm
  simp only [List.mem_filterMap, createDsMetricsRecord, Option.map_eq_some_iff, noErrorPoints,
    List.mem_map] at hm
  obtain ⟨_, ⟨s, -, rfl⟩, d, hd, hrow⟩ := hm
  cases hrow
  exact ⟨⟨s, substring_baseName s, hd⟩, Nat.cast_zero, rfl, rfl⟩

/-- The roll-up has such a row. -/
theorem exists_rollup (h : run.process completed filterToTime requestScenarios errors = some rows)
    (hnil : run.errorsUntil filterToTime errors = []) : ∃ d m,
      run.dashboards.dashboardId ALL_AGGREGATED_SCENARIO = some d ∧
        (⟨d, SCENARIO_ERROR_COUNT, baseName ALL_AGGREGATED_SCENARIO,
          run.scenarioMetricTime completed⟩, m) ∈ rows := by
  obtain ⟨hall, rfl⟩ := process_eq_some h
  rw [pointsOf, if_pos (errorsData_eq_nil.2 hnil)] at hall ⊢
  have hpoint : (( ALL_AGGREGATED_SCENARIO, baseName ALL_AGGREGATED_SCENARIO), 0) ∈
      noErrorPoints requestScenarios :=
    List.mem_map.2 ⟨ ALL_AGGREGATED_SCENARIO, List.mem_dedup.2 (by simp), rfl⟩
  obtain ⟨d, hd⟩ := Option.isSome_iff_exists.1 (hall _ hpoint)
  refine ⟨d, ⟨0, run.times.isRampUp (run.scenarioMetricTime completed), (0 : ℕ)⟩, hd,
    List.mem_filterMap.2 ⟨_, hpoint, ?_⟩⟩
  rw [createDsMetricsRecord, hd, Option.map_some, substring_baseName]

/-- A row is of a point, or says that there are no errors. -/
theorem cases_of_mem_process
    (h : run.process completed filterToTime requestScenarios errors = some rows) {k : DsMetricKey}
    {m : DsMetric} (hm : (k, m) ∈ rows) :
    run.ErrorCountRow (run.errorsUntil filterToTime errors) (run.scenarioMetricTime completed) k
        m.value ∨ run.NoErrorRow (run.scenarioMetricTime completed) k m.value := by
  by_cases hnil : run.errorsUntil filterToTime errors = []
  · exact .inr (of_mem_process h hnil hm)
  · exact .inl ((mem_process h hnil).1 ⟨m, hm, rfl⟩)

/-- No two rows for the whole run have the same key. -/
theorem nodup_process (h : run.process completed filterToTime requestScenarios errors = some rows) :
    (rows.map Prod.fst).Nodup := by
  obtain ⟨-, rfl⟩ := process_eq_some h
  -- The key of a row is that of its point, stored whole.
  have hkeys : ∀ points : List ((String × String) × ℕ), (points.map Prod.fst).Nodup →
      (∀ point ∈ points, substring point.1.2 255 = point.1.2) →
      ((points.filterMap (run.createDsMetricsRecord (run.scenarioMetricTime completed))).map
        Prod.fst).Nodup := by
    intro points hnodup hname
    rw [List.map_filterMap]
    refine (Table.nodup_filterMap_iff hnodup.of_map).2 ?_
    intro point hpoint point' hpoint' k hk hk'
    simp only [createDsMetricsRecord, Option.map_map, Option.map_eq_some_iff] at hk hk'
    obtain ⟨d, hd, rfl⟩ := hk
    obtain ⟨d', hd', hk'⟩ := hk'
    obtain ⟨rfl, -, hnames, -⟩ := DsMetricKey.mk.inj hk'
    rw [hname _ hpoint, hname _ hpoint'] at hnames
    have hscenario := run.dashboards.injective _ _ _ hd' hd
    exact List.inj_on_of_nodup_map hnodup hpoint hpoint'
      (Prod.ext hscenario.symm hnames.symm)
  refine hkeys _ ?_ ?_
  · rw [pointsOf]
    split
    · rw [noErrorPoints, List.map_map]
      exact (List.nodup_dedup _).map fun _ _ h => congrArg Prod.fst h
    · exact nodup_errorPoints _
  · rintro ⟨⟨s, name⟩, n⟩ hpoint
    rw [pointsOf] at hpoint
    split at hpoint
    · obtain ⟨s, -, hs⟩ := List.mem_map.1 hpoint
      cases hs
      exact substring_baseName s
    · exact errorPoint_substring (mem_errorPoints.1 hpoint)

end Process

/-! ## What is written over time -/

variable (run) in
/-- The row of a series in a bucket. -/
def overTimeRow (errors : List RequestError) (c : String × String) (bucketTime : ℤ) :
    EmittedRow where
  scenarioName := c.1
  metricName := codeName c.1 c.2
  panelId := SCENARIO_ERRORS_OVER_TIME
  value := some (run.bucketCount errors c.1 c.2 bucketTime / (run.bucketSizeSeconds : ℚ))
  bucketTime
  timestep := run.buckets.timestep bucketTime

/-- The count of a bucket is there, unless there are no errors. -/
theorem get_counted (errors : List RequestError) (c : String × String) (bucketTime : ℤ) :
    ((⟨run.counted errors, nodup_counted errors⟩ : Table _ ℕ).get (c.1, c.2, bucketTime)).getD 0 =
      run.bucketCount errors c.1 c.2 bucketTime := by
  have hmem := @mem_counted run errors c.1 c.2 bucketTime
  cases hget : (⟨run.counted errors, nodup_counted errors⟩ : Table _ ℕ).get
    (c.1, c.2, bucketTime) with
  | none =>
    refine Eq.symm (List.countP_eq_zero.2 fun e he hcount => ?_)
    have hrow := hmem.2 ⟨⟨e, he, of_decide_eq_true hcount⟩, rfl⟩
    have hsome := (@Table.mem_rows _ _ _ ⟨run.counted errors, nodup_counted errors⟩ _ _).1 hrow
    rw [hget] at hsome
    cases hsome
  | some n =>
    have hrow := (@Table.mem_rows _ _ _ ⟨run.counted errors, nodup_counted errors⟩ _ _).2 hget
    exact (hmem.1 hrow).2

/-- Every series has one row in every bucket. -/
theorem overTimeRows_eq (errors : List RequestError) : run.overTimeRows errors =
    (run.codes (run.errorsUntil run.endTime errors)).flatMap fun c =>
      run.grid.map (run.overTimeRow (run.errorsUntil run.endTime errors) c) := by
  simp only [overTimeRows]
  generalize run.errorsUntil run.endTime errors = window
  refine List.flatMap_congr fun c _ => ?_
  rw [List.map_eq_flatMap]
  refine List.flatMap_congr fun bucketTime _ => ?_
  have hjoin := leftJoin_table (⟨run.counted window, nodup_counted window⟩ : Table _ ℕ)
    (c.1, c.2, bucketTime)
  have hcount : ((((⟨run.counted window, nodup_counted window⟩ : Table _ ℕ).get
      (c.1, c.2, bucketTime)).map fun n => ((c.1, c.2, bucketTime), n)).map Prod.snd).getD 0 =
      run.bucketCount window c.1 c.2 bucketTime := by
    rw [Option.map_map, ← get_counted]
    exact congrArg (fun o => Option.getD o 0) (congrFun Option.map_id _)
  rw [hjoin, List.map_singleton, hcount, overTimeRow]

theorem left_codeName_of_mem {errors : List RequestError} {c : String × String}
    (hc : c ∈ run.codes errors) : left (codeName c.1 c.2) 255 = codeName c.1 c.2 := by
  obtain ⟨s, code⟩ := c
  obtain ⟨e, -, -, rfl⟩ := exists_of_mem_codes hc
  exact left_codeName (length_code_le e)

/-- The row of a series in a bucket that is stored. -/
theorem dsMetric_overTimeRow {errors : List RequestError} {c : String × String}
    (hc : c ∈ run.codes errors) (bucketTime : ℤ) (k : DsMetricKey) (m : DsMetric) :
    dsMetric run.times run.dashboards (run.overTimeRow errors c bucketTime) = some (k, m) ↔
      run.dashboards.dashboardId c.1 = some k.applicationDashboardId ∧
        k.panelId = SCENARIO_ERRORS_OVER_TIME ∧ k.metricName = codeName c.1 c.2 ∧
        k.time = bucketTime ∧ m =
          { timestep := run.buckets.timestep bucketTime
            rampUp := run.times.isRampUp bucketTime
            value := run.bucketCount errors c.1 c.2 bucketTime / (run.bucketSizeSeconds : ℚ) } := by
  obtain ⟨d, panelId, name, time⟩ := k
  simp only [dsMetric, overTimeRow, left_codeName_of_mem hc]
  cases run.dashboards.dashboardId c.1 with
  | none => simp
  | some d' =>
    simp only [Option.some.injEq, Prod.mk.injEq, DsMetricKey.mk.injEq]
    constructor
    · rintro ⟨⟨rfl, rfl, rfl, rfl⟩, rfl⟩
      exact ⟨rfl, rfl, rfl, rfl, rfl⟩
    · rintro ⟨rfl, rfl, rfl, rfl, rfl⟩
      exact ⟨⟨rfl, rfl, rfl, rfl⟩, rfl⟩

/-- The rows that are written over time. -/
theorem mem_overTimeRows {k : DsMetricKey} {v : ℚ} :
    (∃ m, (k, m) ∈ (run.overTimeRows errors).filterMap (dsMetric run.times run.dashboards) ∧
      m.value = v) ↔ run.OverTimeRow (run.errorsUntil run.endTime errors) k v := by
  rw [overTimeRows_eq]
  simp only [List.mem_filterMap, List.mem_flatMap, List.mem_map]
  constructor
  · rintro ⟨m, ⟨_, ⟨c, hc, bucketTime, hbucket, rfl⟩, hrow⟩, rfl⟩
    obtain ⟨hd, hpanel, hname, rfl, rfl⟩ := (dsMetric_overTimeRow hc _ _ _).1 hrow
    exact ⟨⟨c.1, c.2, hc, hname, rfl, hd⟩, hpanel, hbucket⟩
  · rintro ⟨⟨s, c, hc, hname, rfl, hd⟩, hpanel, htime⟩
    exact ⟨_, ⟨_, ⟨(s, c), hc, k.time, htime, rfl⟩,
      (dsMetric_overTimeRow hc _ _ _).2 ⟨hd, hpanel, hname, rfl, rfl⟩⟩, rfl⟩

/-- No two of them have the same key. -/
theorem nodup_overTimeRows (errors : List RequestError) :
    (((run.overTimeRows errors).filterMap (dsMetric run.times run.dashboards)).map
      Prod.fst).Nodup := by
  let window := run.errorsUntil run.endTime errors
  have hgrid : run.grid.Nodup := nodup_generateSeries run.grid_width_pos
  have hproduct : ((run.codes window).product run.grid).Nodup := (nodup_codes window).product hgrid
  have hrows : run.overTimeRows errors = ((run.codes window).product run.grid).map fun p =>
      run.overTimeRow window p.1 p.2 := by
    rw [overTimeRows_eq, List.product, List.map_flatMap]
    simp only [List.map_map]
    rfl
  rw [hrows, List.filterMap_map, List.map_filterMap]
  refine (Table.nodup_filterMap_iff hproduct).2 ?_
  rintro ⟨c, b⟩ hp ⟨c', b'⟩ hp' k hk hk'
  obtain ⟨⟨k₁, m⟩, hm, hk₁⟩ := Option.map_eq_some_iff.1 hk
  obtain ⟨⟨k₂, m'⟩, hm', hk₂⟩ := Option.map_eq_some_iff.1 hk'
  obtain rfl : k₁ = k := hk₁
  obtain rfl : k₂ = k₁ := hk₂
  obtain ⟨hd, -, hname, htime, -⟩ :=
    (dsMetric_overTimeRow (List.mem_product.1 hp).1 b _ _).1 hm
  obtain ⟨hd', -, hname', htime', -⟩ :=
    (dsMetric_overTimeRow (List.mem_product.1 hp').1 b' _ _).1 hm'
  have hscenario : c.1 = c'.1 := run.dashboards.injective _ _ _ hd hd'
  have hcode : c.2 = c'.2 := by
    rw [hname, hscenario] at hname'
    exact codeName_inj.1 hname'
  exact Prod.ext (Prod.ext hscenario hcode) (htime.symm.trans htime')

end ErrorRun

end Perfana.PerformanceTest
