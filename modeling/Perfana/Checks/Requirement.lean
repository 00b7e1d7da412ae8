import Mathlib.Data.List.Forall2
import Perfana.Adapt.Statistics
import Perfana.Checks.Pipeline

/-!
# Requirements on the metrics of a panel

A metric benchmark asks a requirement of the series of a panel: of each of them, or
of their average as well. The series that its pattern filters out are reported but
not judged. The average is taken before the pattern is applied, over all series.

* `createCheckResult_independent_iff`: the series that are filtered out have no say
  in the verdict if and only if the average is not judged, and the panel has more
  than a single series that is reported under another name.
-/

namespace Perfana

/-- A row of the statistics of a panel. -/
structure MetricStatistic where
  /-- The series. -/
  metricName : String
  /-- Its statistics. -/
  columns : StatisticColumns ℚ
  /-- The slope of its trend. -/
  trendPctPerHour : Option ℚ
  /-- The correlation of its trend. -/
  trendCorr : Option ℚ
  /-- The number of samples. -/
  count : Option ℕ
  isConstant : Bool
  dashboardLabel : Option String
  deriving DecidableEq, Repr

/-- The statistics of a panel, and its error rates of whole runs, by the label of the
    dashboard and the series, unless they cannot be read. -/
structure PanelStatistics where
  rows : List MetricStatistic
  pooledErrorRates : String → Except String (String → Option ℚ)

/-- A metric benchmark. -/
structure MetricBenchmark where
  panelId : Option ℤ
  /-- The pattern of the series that are judged. -/
  matchPattern : Option String
  /-- Whether the pattern is that of the others. -/
  invertMatchPattern : Bool
  requirementOperator : Option String
  /-- The threshold of the requirement, none inside if it is not a number. -/
  requirementValue : Option (Option ℚ)
  /-- Whether the average is judged. -/
  averageAll : Bool
  /-- The statistic that is judged. -/
  evaluateType : Option String
  /-- Whether a panel without data has a default value. -/
  validateWithDefaultIfNoData : Bool
  validateWithDefaultIfNoDataValue : Option ℚ

/-- A statistic of a series. -/
inductive StatisticField
  | mean
  | minValue
  | maxValue
  | median
  | q10
  | q25
  | q75
  | q90
  | q95
  | q99
  | lastValue
  | trendPctPerHour
  | stdDev
  deriving DecidableEq, Repr

/-- A series with its value. -/
structure MetricTarget where
  /-- The series. -/
  target : String
  value : Option ℚ
  /-- Whether the value is a default. -/
  isArtificial : Bool
  /-- Whether it has a trend, but a weak one. -/
  weakTrend : Bool := false
  /-- The correlation of its trend. -/
  trendCorr : Option ℚ := none
  deriving DecidableEq, Repr

/-- The series of a panel, and their average. -/
structure AggregationResult where
  panelAverage : Option ℚ
  /-- The series. -/
  targets : List MetricTarget
  deriving DecidableEq, Repr

/-! ## The aggregation of a panel -/

/-- The panels whose series are rates of a bucket. -/
def POOLED_ERROR_RATE_PANELS : List ℤ := [105, 205]

/-- The least correlation of a trend that is judged. -/
def TREND_MIN_CORR : ℚ := 1 / 2

/-- The least number of samples of a trend that is judged. -/
def TREND_MIN_POINTS : ℕ := 10

/-- The statistic that an aggregation asks for. -/
def mapAggregationTypeToField (aggregationType : String) : StatisticField :=
  match aggregationType.toLower with
  | "mean" | "avg" => .mean
  | "min" => .minValue
  | "max" => .maxValue
  | "median" | "q50" => .median
  | "q10" => .q10
  | "q25" => .q25
  | "q75" => .q75
  | "q90" => .q90
  | "q95" => .q95
  | "q99" => .q99
  | "last" => .lastValue
  | "trend" => .trendPctPerHour
  | "std" => .stdDev
  | _ => .mean

/-- A statistic of a series. -/
def getFieldValue (stat : MetricStatistic) : StatisticField → Option ℚ
  | .mean => stat.columns.mean
  | .minValue => stat.columns.minValue
  | .maxValue => stat.columns.maxValue
  | .median => stat.columns.median
  | .q10 => stat.columns.q10
  | .q25 => stat.columns.q25
  | .q75 => stat.columns.q75
  | .q90 => stat.columns.q90
  | .q95 => stat.columns.q95
  | .q99 => stat.columns.q99
  | .lastValue => stat.columns.lastValue
  | .trendPctPerHour => stat.trendPctPerHour
  | .stdDev => stat.columns.stdDev

/-- The statistic that a benchmark judges. -/
def MetricBenchmark.field (benchmark : MetricBenchmark) : StatisticField :=
  match benchmark.evaluateType with
  | none | some "" => .mean
  | some evaluateType => mapAggregationTypeToField evaluateType

/-- A row with the error rate of the whole run as its mean, if there is one. -/
def withPooledMean (pooled : String → Option ℚ) (stat : MetricStatistic) : MetricStatistic :=
  match pooled stat.metricName with
  | some pct => { stat with columns := { stat.columns with mean := some pct } }
  | none => stat

/-- The rows that a benchmark reads of a panel. -/
def readStatistics (benchmark : MetricBenchmark) (panelId : ℤ) (panel : PanelStatistics) :
    List MetricStatistic :=
  if benchmark.field = .mean ∧ panelId ∈ POOLED_ERROR_RATE_PANELS then
    let dashboardLabel := (panel.rows.head?.bind MetricStatistic.dashboardLabel).getD ""
    match panel.pooledErrorRates dashboardLabel with
    | .ok pooled => panel.rows.map (withPooledMean pooled)
    | .error _ => panel.rows
  else panel.rows

/-- The series of a row, if it has a value and a name. -/
def targetOf (field : StatisticField) (stat : MetricStatistic) : Option MetricTarget :=
  let isDefaultRow : Bool := stat.isConstant ∧ stat.metricName = "default"
  let value :=
    if field = .trendPctPerHour ∧ isDefaultRow then stat.columns.mean
    else getFieldValue stat field
  if value = none ∨ stat.metricName = "" then none
  else if field = .trendPctPerHour ∧ !isDefaultRow then
    let weakTrend : Bool :=
      stat.trendCorr.all (fun r => |r| < TREND_MIN_CORR) ∨ stat.count.getD 0 < TREND_MIN_POINTS
    some ⟨stat.metricName, value, stat.isConstant, weakTrend, stat.trendCorr⟩
  else some ⟨stat.metricName, value, stat.isConstant, false, none⟩

/-- The average of the series of a panel that are not weak trends. -/
def panelAverageOf (averageAll : Bool) (targets : List MetricTarget) : Option ℚ :=
  let values := (targets.filter fun t => !t.weakTrend).filterMap MetricTarget.value
  if averageAll then
    if values = [] then none else some (values.sum / values.length)
  else values.head?

/-- The aggregation of the series of a panel. -/
def aggregateSeries (benchmark : MetricBenchmark) (stats : List MetricStatistic) :
    AggregationResult :=
  let targets := stats.filterMap (targetOf benchmark.field)
  ⟨panelAverageOf benchmark.averageAll targets, targets⟩

/-- The aggregation of the rows that a benchmark reads. -/
def aggregateStatistics (benchmark : MetricBenchmark) (stats : List MetricStatistic) :
    AggregationResult :=
  match stats with
  | [] =>
    if benchmark.validateWithDefaultIfNoData then
      let defaultValue := benchmark.validateWithDefaultIfNoDataValue.getD 0
      ⟨some defaultValue, [⟨"default", some defaultValue, true, false, none⟩]⟩
    else ⟨none, []⟩
  | [stat] =>
    -- A single constant series is taken for the default value.
    if stat.isConstant ∧ benchmark.field ≠ .trendPctPerHour then
      ⟨stat.columns.mean, [⟨"default", stat.columns.mean, true, false, none⟩]⟩
    else aggregateSeries benchmark stats
  | _ => aggregateSeries benchmark stats

/-- The aggregation of a panel for a benchmark. -/
def aggregateMetricsForBenchmark (benchmark : MetricBenchmark) (panel : PanelStatistics) :
    Except String AggregationResult :=
  match benchmark.panelId with
  | none | some 0 => .error "No panel ID found in benchmark configuration"
  | some panelId => .ok (aggregateStatistics benchmark (readStatistics benchmark panelId panel))

/-! ## The requirement -/

/-- A judged series. -/
structure CheckResultTarget where
  /-- The series. -/
  target : String
  value : Option ℚ
  /-- Whether it meets the requirement; none if it was not judged. -/
  meetsRequirement : Option Bool
  /-- Whether the value is a default. -/
  isArtificial : Bool
  /-- Whether it has a trend, but a weak one. -/
  weakTrend : Bool
  /-- The correlation of its trend. -/
  trendCorr : Option ℚ
  deriving DecidableEq, Repr

/-- The outcome of a requirement on a panel. -/
structure CheckResultDocument where
  /-- How the evaluation went. -/
  status : CheckStatus
  /-- The outcome in words. -/
  message : String
  panelAverage : Option ℚ
  /-- Whether the requirement is met; none if it was not judged. -/
  meetsRequirement : Option Bool
  /-- The series. -/
  targets : List CheckResultTarget
  deriving DecidableEq, Repr

/-- Whether a value meets a requirement; none for an operator that nobody defined. -/
def evaluateRequirement (value : ℚ) (operator : String) (threshold : ℚ) : Option Bool :=
  match (String.ofList (trim operator)).toLower with
  | "lt" | "<" => some (value < threshold)
  | "lte" | "le" | "<=" => some (value ≤ threshold)
  | "gt" | ">" => some (value > threshold)
  | "gte" | "ge" | ">=" => some (value ≥ threshold)
  | "eq" | "=" | "==" => some (value = threshold)
  | "ne" | "!=" | "<>" => some (value ≠ threshold)
  | _ => none

namespace MetricBenchmark

/-- The benchmark has an operator or a threshold. -/
def hasValidRequirement (benchmark : MetricBenchmark) : Bool :=
  benchmark.requirementOperator.isSome || benchmark.requirementValue.isSome

/-- Whether a value meets the requirement; one that cannot be evaluated is met. -/
def checkRequirement (benchmark : MetricBenchmark) (value : ℚ) : Bool :=
  match benchmark.requirementOperator, benchmark.requirementValue with
  | some operator, some (some threshold) =>
    if operator = "" then true
    else (evaluateRequirement value operator threshold).getD true
  | _, _ => true

/-- The judgement of a series. -/
def createTargetResult (benchmark : MetricBenchmark) (t : MetricTarget) : CheckResultTarget where
  target := t.target
  value := t.value
  meetsRequirement :=
    if t.weakTrend then some true
    else if benchmark.hasValidRequirement then t.value.map benchmark.checkRequirement
    else none
  isArtificial := t.isArtificial
  weakTrend := t.weakTrend
  trendCorr := t.trendCorr

end MetricBenchmark

/-- The outcome in words. -/
def generateStatusMessage (meetsRequirement : Bool) (targets : List CheckResultTarget) : String :=
  let total := targets.length
  let failedCount := targets.countP fun t => t.meetsRequirement = some false
  if total = 0 then "No targets found for processing"
  else if meetsRequirement then s!"All {total} targets meet requirements"
  else s!"{failedCount} of {total} targets failed requirements"

section Checker

-- The tests of the patterns that are safe and valid.
variable (validateRegexPattern : String → Option (String → Bool))

/-- The pattern of a benchmark filters out a series. -/
def filtersOut (benchmark : MetricBenchmark) (target : String) : Bool :=
  match benchmark.matchPattern with
  | none | some "" => false
  | some matchPattern =>
    match validateRegexPattern matchPattern with
    | some test => test target == benchmark.invertMatchPattern
    | none => false

/-- The judgement of a series, none if the pattern filters it out. -/
def judgeTarget (benchmark : MetricBenchmark) (t : MetricTarget) : CheckResultTarget :=
  let targetResult := benchmark.createTargetResult t
  if filtersOut validateRegexPattern benchmark t.target then
    { targetResult with meetsRequirement := none }
  else targetResult

/-- The outcome of a benchmark on a panel, if it has a requirement. -/
def createCheckResult (organizationId : Option String) (benchmark : MetricBenchmark)
    (aggregation : AggregationResult) : Except String (Option CheckResultDocument) :=
  if benchmark.hasValidRequirement then
    let targetResults := aggregation.targets.map (judgeTarget validateRegexPattern benchmark)
    let panelMeetsRequirement :=
      if benchmark.averageAll then aggregation.panelAverage.map benchmark.checkRequirement
      else none
    let overallMeetsRequirement : Bool :=
      (∀ t ∈ targetResults, t.meetsRequirement ≠ some false) ∧ panelMeetsRequirement ≠ some false
    let anyJudged : Bool :=
      (∃ t ∈ targetResults, t.meetsRequirement ≠ none) ∨ panelMeetsRequirement ≠ none
    let total := targetResults.length
    if organizationId.getD "" = "" then .error "test run has no organization_id"
    else
      .ok (some
        { status := if targetResults = [] then .ERROR else .COMPLETE
          message :=
            if anyJudged ∨ targetResults = [] then
              generateStatusMessage overallMeetsRequirement targetResults
            else s!"None of the {total} targets could be evaluated"
          panelAverage := aggregation.panelAverage
          meetsRequirement :=
            if targetResults ≠ [] ∧ anyJudged then some overallMeetsRequirement else none
          targets := targetResults })
  else .ok none

/-! ## The series that are filtered out -/

/-- What one sees of the outcome: whether the requirement is met, and the average if
    it is judged. -/
def observed (organizationId : Option String) (benchmark : MetricBenchmark)
    (aggregation : AggregationResult) : Except String (Option (Option Bool × Option ℚ)) :=
  (createCheckResult validateRegexPattern organizationId benchmark aggregation).map
    fun document => document.map fun d =>
      (d.meetsRequirement, if benchmark.averageAll then d.panelAverage else none)

/-- What one sees of the outcome of a benchmark on a panel. -/
def checkPanel (organizationId : Option String) (benchmark : MetricBenchmark)
    (panel : PanelStatistics) : Except String (Option (Option Bool × Option ℚ)) :=
  (aggregateMetricsForBenchmark benchmark panel).bind
    (observed validateRegexPattern organizationId benchmark)

/-- Two rows of a series are the same, unless the pattern filters it out. -/
def SameSeries (benchmark : MetricBenchmark) (stat stat' : MetricStatistic) : Prop :=
  stat.metricName = stat'.metricName ∧
    (filtersOut validateRegexPattern benchmark stat.metricName = false → stat = stat')

/-- Two panels have the same series, and differ only in the values of those that the
    pattern filters out. -/
structure DifferInExcluded (benchmark : MetricBenchmark) (panel panel' : PanelStatistics) :
    Prop where
  /-- The rows of the series that are judged are the same. -/
  rows : List.Forall₂ (SameSeries validateRegexPattern benchmark) panel.rows panel'.rows
  /-- The series are those of one dashboard. -/
  labels : panel.rows.map MetricStatistic.dashboardLabel =
    panel'.rows.map MetricStatistic.dashboardLabel
  /-- The error rates of the series that are judged are the same. -/
  pooled : ∀ label name, filtersOut validateRegexPattern benchmark name = false →
    (panel.pooledErrorRates label).map (fun rates => rates name) =
      (panel'.pooledErrorRates label).map fun rates => rates name

/-- The requirement of the benchmark is judged. -/
def Judges (organizationId : Option String) (benchmark : MetricBenchmark) : Prop :=
  benchmark.hasValidRequirement = true ∧ organizationId.getD "" ≠ "" ∧
    benchmark.panelId.getD 0 ≠ 0

/-- A series that the pattern filters out has a say in the verdict: it counts in an
    average that is judged, or it is reported under another name. -/
def Leaks (benchmark : MetricBenchmark) (names : List String) : Prop :=
  (benchmark.averageAll = true ∧
      ∃ name ∈ names, name ≠ "" ∧ filtersOut validateRegexPattern benchmark name = true) ∨
    ∃ name, names = [name] ∧ filtersOut validateRegexPattern benchmark name = true ∧
      benchmark.field ≠ .trendPctPerHour ∧
      (benchmark.averageAll = true ∨
        filtersOut validateRegexPattern benchmark "default" = false)

section Independent

variable {validateRegexPattern} {organizationId : Option String} {benchmark : MetricBenchmark}
  {panel panel' : PanelStatistics} {stats stats' : List MetricStatistic}

theorem metricName_withPooledMean (pooled : String → Option ℚ) (stat : MetricStatistic) :
    (withPooledMean pooled stat).metricName = stat.metricName := by
  rw [withPooledMean]
  split <;> rfl

theorem head_dashboardLabel (h : panel.rows.map MetricStatistic.dashboardLabel =
      panel'.rows.map MetricStatistic.dashboardLabel) :
    panel.rows.head?.bind MetricStatistic.dashboardLabel =
      panel'.rows.head?.bind MetricStatistic.dashboardLabel := by
  cases hrows : panel.rows with
  | nil =>
    rw [hrows, List.map_nil, eq_comm, List.map_eq_nil_iff] at h
    rw [h]
  | cons stat stats =>
    cases hrows' : panel'.rows with
    | nil => simp [hrows, hrows'] at h
    | cons stat' stats' =>
      rw [hrows, hrows', List.map_cons, List.map_cons, List.cons.injEq] at h
      exact h.1

/-- The rows that the benchmark reads differ as the panels do. -/
theorem readStatistics_sameSeries (h : DifferInExcluded validateRegexPattern benchmark panel panel')
    (panelId : ℤ) :
    List.Forall₂ (SameSeries validateRegexPattern benchmark)
      (readStatistics benchmark panelId panel) (readStatistics benchmark panelId panel') := by
  rw [readStatistics, readStatistics]
  split_ifs
  · dsimp only
    rw [head_dashboardLabel h.labels]
    have hpooled := h.pooled ((panel'.rows.head?.bind MetricStatistic.dashboardLabel).getD "")
    revert hpooled
    generalize panel.pooledErrorRates _ = rates
    generalize panel'.pooledErrorRates _ = rates'
    intro hpooled
    match rates, rates' with
    | .error e, .error e' => exact h.rows
    | .ok pooled, .ok pooled' =>
      rw [List.forall₂_map_left_iff, List.forall₂_map_right_iff]
      refine h.rows.imp fun stat stat' hsame => ?_
      refine ⟨by rw [metricName_withPooledMean, metricName_withPooledMean, hsame.1], fun hjudged => ?_⟩
      rw [metricName_withPooledMean] at hjudged
      obtain rfl := hsame.2 hjudged
      have hrate : pooled stat.metricName = pooled' stat.metricName :=
        Except.ok.inj (hpooled _ hjudged)
      rw [withPooledMean, withPooledMean, hrate]
    | .ok pooled, .error e =>
      rw [List.forall₂_map_left_iff]
      refine h.rows.imp fun stat stat' hsame => ?_
      refine ⟨by rw [metricName_withPooledMean, hsame.1], fun hjudged => ?_⟩
      rw [metricName_withPooledMean] at hjudged
      cases hpooled _ hjudged
    | .error e, .ok pooled =>
      rw [List.forall₂_map_right_iff]
      refine h.rows.imp fun stat stat' hsame => ?_
      refine ⟨by rw [metricName_withPooledMean, hsame.1], fun hjudged => ?_⟩
      cases hpooled _ hjudged
  · exact h.rows

/-! ## Independence -/

theorem targetOf_target {field : StatisticField} {stat : MetricStatistic} {t : MetricTarget}
    (h : targetOf field stat = some t) : t.target = stat.metricName := by
  rw [targetOf] at h
  dsimp only at h
  split_ifs at h <;> cases h <;> rfl

theorem targetOf_unnamed {field : StatisticField} {stat : MetricStatistic}
    (h : stat.metricName = "") : targetOf field stat = none := by
  rw [targetOf]
  dsimp only
  rw [if_pos (.inr h)]

/-- The judgements of some series, those that are judged. -/
def judgements (validateRegexPattern : String → Option (String → Bool))
    (benchmark : MetricBenchmark) (targets : List MetricTarget) : List Bool :=
  targets.filterMap fun t => (judgeTarget validateRegexPattern benchmark t).meetsRequirement

theorem judgeTarget_filtersOut {t : MetricTarget}
    (h : filtersOut validateRegexPattern benchmark t.target = true) :
    (judgeTarget validateRegexPattern benchmark t).meetsRequirement = none := by
  rw [judgeTarget, if_pos h]

/-- The verdict over some series: none if none is judged. -/
def verdictOver (js : List Bool) : Option Bool :=
  if js = [] then none else some (js.all id)

/-- What one sees of an outcome in which the average is not judged. -/
theorem observed_eq (haverage : benchmark.averageAll = false) (aggregation : AggregationResult) :
    observed validateRegexPattern organizationId benchmark aggregation =
      if benchmark.hasValidRequirement then
        if organizationId.getD "" = "" then .error "test run has no organization_id"
        else
          .ok (some
            (verdictOver (judgements validateRegexPattern benchmark aggregation.targets), none))
      else .ok none := by
  let ts := aggregation.targets.map (judgeTarget validateRegexPattern benchmark)
  have hjs : judgements validateRegexPattern benchmark aggregation.targets =
      ts.filterMap CheckResultTarget.meetsRequirement := by
    rw [List.filterMap_map]
    rfl
  have hnone : judgements validateRegexPattern benchmark aggregation.targets = [] ↔
      ¬∃ t ∈ ts, t.meetsRequirement ≠ none := by
    rw [hjs, List.filterMap_eq_nil_iff]
    push Not
    rfl
  have hall : (judgements validateRegexPattern benchmark aggregation.targets).all id = true ↔
      ∀ t ∈ ts, t.meetsRequirement ≠ some false := by
    rw [hjs, List.all_eq_true]
    constructor
    · intro h t ht hfalse
      exact Bool.false_ne_true (h false (List.mem_filterMap.2 ⟨t, ht, hfalse⟩))
    · intro h b hb
      obtain ⟨t, ht, hmeets⟩ := List.mem_filterMap.1 hb
      cases b with
      | true => rfl
      | false => exact absurd hmeets (h t ht)
  have hverdict : verdictOver (judgements validateRegexPattern benchmark aggregation.targets) =
      if ts ≠ [] ∧ ∃ t ∈ ts, t.meetsRequirement ≠ none then
        some (decide (∀ t ∈ ts, t.meetsRequirement ≠ some false))
      else none := by
    rw [verdictOver]
    by_cases hjudged : ∃ t ∈ ts, t.meetsRequirement ≠ none
    · have hne : ts ≠ [] := by
        obtain ⟨t, ht, -⟩ := hjudged
        exact List.ne_nil_of_mem ht
      rw [if_neg fun h => hnone.1 h hjudged, if_pos ⟨hne, hjudged⟩, Option.some_inj,
        Bool.eq_iff_iff, hall, decide_eq_true_iff]
    · rw [if_pos (hnone.2 hjudged), if_neg fun h => hjudged h.2]
  cases hvalid : benchmark.hasValidRequirement with
  | false =>
    simp only [observed, createCheckResult, hvalid, Bool.false_eq_true, if_false]
    rfl
  | true =>
    by_cases horganization : organizationId.getD "" = ""
    · simp only [observed, createCheckResult, hvalid, horganization, if_true]
      rfl
    · rw [hverdict]
      simp [observed, createCheckResult, hvalid, haverage, horganization, Except.map, ts]

/-- The series that are judged are judged alike. -/
theorem judgements_aggregateSeries
    (h : List.Forall₂ (SameSeries validateRegexPattern benchmark) stats stats') :
    judgements validateRegexPattern benchmark (aggregateSeries benchmark stats).targets =
      judgements validateRegexPattern benchmark (aggregateSeries benchmark stats').targets := by
  have hexcluded : ∀ stat : MetricStatistic,
      filtersOut validateRegexPattern benchmark stat.metricName = true →
      (targetOf benchmark.field stat).bind (fun t =>
        (judgeTarget validateRegexPattern benchmark t).meetsRequirement) = none := by
    intro stat hstat
    cases ht : targetOf benchmark.field stat with
    | none => rfl
    | some t => exact judgeTarget_filtersOut (by rwa [targetOf_target ht])
  simp only [judgements, aggregateSeries, List.filterMap_filterMap]
  induction h with
  | nil => rfl
  | @cons stat stat' stats stats' hsame _ ih =>
    rw [List.filterMap_cons, List.filterMap_cons, ih]
    cases hstat : filtersOut validateRegexPattern benchmark stat.metricName with
    | false => rw [hsame.2 hstat]
    | true => rw [hexcluded stat hstat, hexcluded stat' (hsame.1 ▸ hstat)]

/-- The series are the same if those that are filtered out have no name. -/
theorem targets_aggregateSeries
    (h : List.Forall₂ (SameSeries validateRegexPattern benchmark) stats stats')
    (hnames : ∀ stat ∈ stats, filtersOut validateRegexPattern benchmark stat.metricName = true →
      stat.metricName = "") :
    aggregateSeries benchmark stats = aggregateSeries benchmark stats' := by
  have htargets : stats.filterMap (targetOf benchmark.field) =
      stats'.filterMap (targetOf benchmark.field) := by
    induction h with
    | nil => rfl
    | @cons stat stat' stats stats' hsame _ ih =>
      rw [List.forall_mem_cons] at hnames
      rw [List.filterMap_cons, List.filterMap_cons, ih hnames.2]
      cases hstat : filtersOut validateRegexPattern benchmark stat.metricName with
      | false => rw [hsame.2 hstat]
      | true =>
        have hname := hnames.1 hstat
        rw [targetOf_unnamed hname, targetOf_unnamed (hsame.1 ▸ hname)]
  rw [aggregateSeries, aggregateSeries, htargets]

theorem observed_aggregateSeries
    (h : List.Forall₂ (SameSeries validateRegexPattern benchmark) stats stats')
    (hleaks : benchmark.averageAll = true → ∀ stat ∈ stats,
      filtersOut validateRegexPattern benchmark stat.metricName = true → stat.metricName = "") :
    observed validateRegexPattern organizationId benchmark (aggregateSeries benchmark stats) =
      observed validateRegexPattern organizationId benchmark (aggregateSeries benchmark stats') := by
  cases haverage : benchmark.averageAll with
  | true => rw [targets_aggregateSeries h (hleaks haverage)]
  | false => rw [observed_eq haverage, observed_eq haverage, judgements_aggregateSeries h]

/-- No series is judged if all are filtered out. -/
theorem judgements_eq_nil (h : ∀ stat ∈ stats,
      filtersOut validateRegexPattern benchmark stat.metricName = true) :
    judgements validateRegexPattern benchmark (aggregateSeries benchmark stats).targets = [] := by
  rw [judgements, List.filterMap_eq_nil_iff]
  intro t ht
  obtain ⟨stat, hmem, hvalue⟩ := List.mem_filterMap.1 ht
  exact judgeTarget_filtersOut (by rw [targetOf_target hvalue, h stat hmem])

/-- A single series that is filtered out is not judged if its other name is filtered
    out as well. -/
theorem judgements_singleton {stat : MetricStatistic}
    (hstat : filtersOut validateRegexPattern benchmark stat.metricName = true)
    (hdefault : filtersOut validateRegexPattern benchmark "default" = true) :
    judgements validateRegexPattern benchmark
      (aggregateStatistics benchmark [stat]).targets = [] := by
  rw [aggregateStatistics]
  split_ifs
  · rw [judgements, List.filterMap_eq_nil_iff]
    intro t ht
    obtain rfl := List.mem_singleton.1 ht
    exact judgeTarget_filtersOut hdefault
  · exact judgements_eq_nil (by simpa using hstat)

/-- What is filtered out has no say if it does not leak. -/
theorem observed_aggregateStatistics
    (h : List.Forall₂ (SameSeries validateRegexPattern benchmark) stats stats')
    (hleaks : ¬Leaks validateRegexPattern benchmark (stats.map MetricStatistic.metricName)) :
    observed validateRegexPattern organizationId benchmark (aggregateStatistics benchmark stats) =
      observed validateRegexPattern organizationId benchmark
        (aggregateStatistics benchmark stats') := by
  have hseries : benchmark.averageAll = true → ∀ stat ∈ stats,
      filtersOut validateRegexPattern benchmark stat.metricName = true →
        stat.metricName = "" := by
    intro haverage stat hstat hfilters
    by_contra hname
    exact hleaks (.inl ⟨haverage, _, List.mem_map_of_mem hstat, hname, hfilters⟩)
  cases h with
  | nil => rfl
  | @cons stat stat' rest rest' hsame hrest =>
    cases hrest with
    | cons hsame' hrest => exact observed_aggregateSeries (.cons hsame (.cons hsame' hrest)) hseries
    | nil =>
      cases hstat : filtersOut validateRegexPattern benchmark stat.metricName with
      | false => rw [hsame.2 hstat]
      | true =>
        by_cases htrend : benchmark.field = .trendPctPerHour
        · have hnot : ∀ stat : MetricStatistic,
              ¬(stat.isConstant = true ∧ benchmark.field ≠ .trendPctPerHour) :=
            fun stat h => h.2 htrend
          rw [aggregateStatistics, aggregateStatistics, if_neg (hnot stat), if_neg (hnot stat')]
          exact observed_aggregateSeries (.cons hsame .nil) hseries
        · have hopen : benchmark.averageAll = false ∧
              filtersOut validateRegexPattern benchmark "default" = true := by
            have hshown : ¬(benchmark.averageAll = true ∨
                filtersOut validateRegexPattern benchmark "default" = false) :=
              fun hor => hleaks (.inr ⟨_, rfl, hstat, htrend, hor⟩)
            simpa [not_or] using hshown
          rw [observed_eq hopen.1, observed_eq hopen.1, judgements_singleton hstat hopen.2,
            judgements_singleton (hsame.1 ▸ hstat) hopen.2]

/-! ## Leaks -/

/-- A row all of whose statistics are a value. -/
def flatRow (isConstant : Bool) (value : ℚ) (name : String) : MetricStatistic where
  metricName := name
  columns := ⟨some value, some value, some value, some value, some value, some value, some value,
    some value, some value, some value, some value, some value, some value⟩
  trendPctPerHour := some value
  trendCorr := some 1
  count := some 10
  isConstant
  dashboardLabel := none

/-- A panel of such rows. -/
def flatPanel (isConstant : Bool) (value : String → ℚ) (names : List String) :
    PanelStatistics where
  rows := names.map fun name => flatRow isConstant (value name) name
  pooledErrorRates _ := .ok fun _ => none

theorem readStatistics_flatPanel (panelId : ℤ) (isConstant : Bool) (value : String → ℚ)
    (names : List String) :
    readStatistics benchmark panelId (flatPanel isConstant value names) =
      names.map fun name => flatRow isConstant (value name) name := by
  rw [readStatistics]
  split_ifs
  · exact List.map_id' _
  · rfl

theorem targetOf_flatRow (field : StatisticField) (value : ℚ) {name : String} (hname : name ≠ "") :
    targetOf field (flatRow false value name) =
      some ⟨name, some value, false, false,
        if field = .trendPctPerHour then some 1 else none⟩ := by
  cases field <;> simp [targetOf, flatRow, getFieldValue, hname, TREND_MIN_CORR, TREND_MIN_POINTS]
  norm_num

/-- The average of a flat panel, if it is judged. -/
theorem panelAverage_flatRows (haverage : benchmark.averageAll = true) (value : String → ℚ)
    (names : List String) :
    (aggregateSeries benchmark (names.map fun name => flatRow false (value name) name)).panelAverage =
      let named := names.filter (· ≠ "")
      if named = [] then none else some ((named.map value).sum / named.length) := by
  have hvalues : (((names.map fun name => flatRow false (value name) name).filterMap
      (targetOf benchmark.field)).filter fun t => !t.weakTrend).filterMap MetricTarget.value =
      (names.filter (· ≠ "")).map value := by
    induction names with
    | nil => rfl
    | cons name names ih =>
      rw [List.map_cons, List.filterMap_cons]
      by_cases hname : name = ""
      · rw [targetOf_unnamed (show (flatRow false (value name) name).metricName = "" from hname),
          List.filter_cons_of_neg (by simpa using hname)]
        exact ih
      · rw [targetOf_flatRow _ _ hname, List.filter_cons_of_pos (by simp), List.filterMap_cons,
          List.filter_cons_of_pos (by simpa using hname), List.map_cons, ih]
  rw [aggregateSeries, panelAverageOf]
  dsimp only
  rw [hvalues, if_pos haverage, List.length_map]
  simp only [List.map_eq_nil_iff]

theorem aggregateStatistics_flatRows (value : String → ℚ) {names : List String}
    (hne : names ≠ []) :
    aggregateStatistics benchmark (names.map fun name => flatRow false (value name) name) =
      aggregateSeries benchmark (names.map fun name => flatRow false (value name) name) := by
  match names with
  | [] => exact absurd rfl hne
  | [name] => simp [aggregateStatistics, flatRow]
  | _ :: _ :: _ => rfl

/-- The average is seen if it is judged. -/
theorem observed_average (validateRegexPattern : String → Option (String → Bool))
    (haverage : benchmark.averageAll = true)
    (hvalid : benchmark.hasValidRequirement = true) (horganization : organizationId.getD "" ≠ "")
    (aggregation : AggregationResult) :
    ∃ meets, observed validateRegexPattern organizationId benchmark aggregation =
      .ok (some (meets, aggregation.panelAverage)) := by
  simp only [observed, createCheckResult, hvalid, haverage, if_true, if_neg horganization]
  exact ⟨_, rfl⟩

/-- Two flat panels differ in the series that are filtered out if the others have the
    same values. -/
theorem differInExcluded_flatPanel {isConstant isConstant' : Bool} {value value' : String → ℚ}
    {names : List String}
    (h : ∀ name ∈ names, filtersOut validateRegexPattern benchmark name = false →
      isConstant = isConstant' ∧ value name = value' name) :
    DifferInExcluded validateRegexPattern benchmark (flatPanel isConstant value names)
      (flatPanel isConstant' value' names) where
  rows := by
    rw [flatPanel, flatPanel, List.forall₂_map_left_iff, List.forall₂_map_right_iff,
      List.forall₂_same]
    intro name hname
    refine ⟨rfl, fun hjudged => ?_⟩
    obtain ⟨rfl, hvalue⟩ := h name hname hjudged
    rw [hvalue]
  labels := by
    rw [flatPanel, flatPanel, List.map_map, List.map_map]
    rfl
  pooled _ _ _ := rfl

theorem checkPanel_eq {panelId : ℤ} (hpanel : benchmark.panelId = some panelId)
    (hzero : panelId ≠ 0) :
    checkPanel validateRegexPattern organizationId benchmark panel =
      observed validateRegexPattern organizationId benchmark
        (aggregateStatistics benchmark (readStatistics benchmark panelId panel)) := by
  rw [checkPanel, aggregateMetricsForBenchmark, hpanel]
  split
  · contradiction
  · rename_i h
    exact absurd (Option.some.inj h) hzero
  · rename_i h
    cases h
    rfl

/-- A series that is filtered out counts in the average. -/
theorem leaks_average (haverage : benchmark.averageAll = true)
    (hvalid : benchmark.hasValidRequirement = true) (horganization : organizationId.getD "" ≠ "")
    {names : List String} {name : String} (hmem : name ∈ names) (hname : name ≠ "")
    (hfilters : filtersOut validateRegexPattern benchmark name = true) :
    observed validateRegexPattern organizationId benchmark (aggregateStatistics benchmark
        (names.map fun name => flatRow false 0 name)) ≠
      observed validateRegexPattern organizationId benchmark (aggregateStatistics benchmark
        (names.map fun name => flatRow false
          (if filtersOut validateRegexPattern benchmark name then 1 else 0) name)) := by
  let value : String → ℚ := fun name =>
    if filtersOut validateRegexPattern benchmark name then 1 else 0
  have hne : names ≠ [] := List.ne_nil_of_mem hmem
  have hnamed : name ∈ names.filter (· ≠ "") := List.mem_filter.2 ⟨hmem, by simpa using hname⟩
  have hnamed' : names.filter (· ≠ "") ≠ [] := List.ne_nil_of_mem hnamed
  obtain ⟨meets, hzero⟩ := observed_average validateRegexPattern haverage
    hvalid horganization (aggregateSeries benchmark (names.map fun name => flatRow false 0 name))
  obtain ⟨meets', hone⟩ := observed_average validateRegexPattern
    haverage hvalid horganization
    (aggregateSeries benchmark (names.map fun name => flatRow false (value name) name))
  rw [panelAverage_flatRows haverage (fun _ => 0)] at hzero
  rw [panelAverage_flatRows haverage value] at hone
  rw [aggregateStatistics_flatRows (fun _ => 0) hne, aggregateStatistics_flatRows value hne,
    hzero, hone]
  have hlength : (0 : ℚ) < (names.filter (· ≠ "")).length :=
    Nat.cast_pos.2 (List.length_pos_iff.2 hnamed')
  have hsum : 1 ≤ ((names.filter (· ≠ "")).map value).sum := by
    have hle := List.single_le_sum (l := (names.filter (· ≠ "")).map value) (by
      intro x hx
      obtain ⟨y, -, rfl⟩ := List.mem_map.1 hx
      dsimp only [value]
      split_ifs <;> norm_num) _ (List.mem_map_of_mem hnamed)
    rwa [show value name = 1 from if_pos hfilters] at hle
  have hpos : 0 < ((names.filter (· ≠ "")).map value).sum / (names.filter (· ≠ "")).length :=
    div_pos (one_pos.trans_le hsum) hlength
  intro heq
  simp only [if_neg hnamed', Except.ok.injEq, Option.some.injEq, Prod.mk.injEq, List.map_const',
    List.sum_replicate, nsmul_zero, zero_div] at heq
  exact hpos.ne heq.2

/-- A single constant series is judged under its other name. -/
theorem judgements_default (validateRegexPattern : String → Option (String → Bool))
    (hvalid : benchmark.hasValidRequirement = true)
    (hdefault : filtersOut validateRegexPattern benchmark "default" = false) (value : ℚ) :
    judgements validateRegexPattern benchmark [⟨"default", some value, true, false, none⟩] =
      [benchmark.checkRequirement value] := by
  simp [judgements, judgeTarget, hdefault, MetricBenchmark.createTargetResult, hvalid]

theorem map_metricName_readStatistics (panelId : ℤ) :
    (readStatistics benchmark panelId panel).map MetricStatistic.metricName =
      panel.rows.map MetricStatistic.metricName := by
  rw [readStatistics]
  split_ifs
  · dsimp only
    split
    · rw [List.map_map]
      exact List.map_congr_left fun stat _ => metricName_withPooledMean _ stat
    · rfl
  · rfl

/-- What one sees of a requirement that is not judged is the same for all panels. -/
theorem checkPanel_of_not_judges (h : ¬Judges organizationId benchmark) :
    checkPanel validateRegexPattern organizationId benchmark panel =
      checkPanel validateRegexPattern organizationId benchmark panel' := by
  have hobserved : benchmark.hasValidRequirement = false ∨ organizationId.getD "" = "" →
      ∀ aggregation aggregation',
        observed validateRegexPattern organizationId benchmark aggregation =
          observed validateRegexPattern organizationId benchmark aggregation' := by
    rintro hor aggregation aggregation'
    cases hvalid : benchmark.hasValidRequirement with
    | false => simp [observed, createCheckResult, hvalid]
    | true =>
      have horganization := hor.resolve_left (by simp [hvalid])
      simp [observed, createCheckResult, hvalid, horganization]
  rw [checkPanel, checkPanel, aggregateMetricsForBenchmark, aggregateMetricsForBenchmark]
  split
  · rfl
  · rfl
  · rename_i panelId hzero hpanel
    refine hobserved ?_ _ _
    by_contra hor
    rw [not_or, Bool.not_eq_false] at hor
    refine h ⟨hor.1, hor.2, ?_⟩
    rw [hpanel]
    exact fun h => hzero h

/-- The series that are filtered out have no say in the verdict, nor in the average if
    it is judged, if and only if the requirement is not judged, or they do not leak. -/
theorem createCheckResult_independent_iff
    (validateRegexPattern : String → Option (String → Bool)) (organizationId : Option String)
    (benchmark : MetricBenchmark) (names : List String) :
    (∀ panel panel', panel.rows.map MetricStatistic.metricName = names →
      DifferInExcluded validateRegexPattern benchmark panel panel' →
      checkPanel validateRegexPattern organizationId benchmark panel =
        checkPanel validateRegexPattern organizationId benchmark panel') ↔
      ¬(Judges organizationId benchmark ∧ Leaks validateRegexPattern benchmark names) := by
  constructor
  · rintro h ⟨⟨hvalid, horganization, hpanel⟩, hleaks⟩
    obtain ⟨panelId, hpanelId⟩ : ∃ panelId, benchmark.panelId = some panelId := by
      cases hid : benchmark.panelId with
      | none => exact absurd (by rw [hid]; rfl) hpanel
      | some panelId => exact ⟨panelId, rfl⟩
    have hzero : panelId ≠ 0 := by simpa [hpanelId] using hpanel
    have hnames : ∀ isConstant value, (flatPanel isConstant value names).rows.map
        MetricStatistic.metricName = names := fun isConstant value => by
      rw [flatPanel, List.map_map]
      exact List.map_id' _
    have hsame : ∀ (isConstant isConstant' : Bool) (value value' : String → ℚ),
        (∀ name ∈ names, filtersOut validateRegexPattern benchmark name = false →
          isConstant = isConstant' ∧ value name = value' name) →
        observed validateRegexPattern organizationId benchmark (aggregateStatistics benchmark
            (names.map fun name => flatRow isConstant (value name) name)) =
          observed validateRegexPattern organizationId benchmark (aggregateStatistics benchmark
            (names.map fun name => flatRow isConstant' (value' name) name)) := by
      intro isConstant isConstant' value value' hagree
      have heq := h _ _ (hnames isConstant value) (differInExcluded_flatPanel hagree)
      rwa [checkPanel_eq hpanelId hzero, checkPanel_eq hpanelId hzero, readStatistics_flatPanel,
        readStatistics_flatPanel] at heq
    rcases hleaks with ⟨haverage, name, hmem, hname, hfilters⟩ | ⟨name, rfl, hfilters, htrend, hor⟩
    · refine leaks_average haverage hvalid horganization hmem hname hfilters
        (hsame false false (fun _ => 0) _ fun name _ hjudged => ⟨rfl, ?_⟩)
      rw [hjudged]
      rfl
    · have hvacuous : ∀ name' ∈ [name],
          filtersOut validateRegexPattern benchmark name' = false → False := by
        intro name' hname' hjudged
        obtain rfl := List.mem_singleton.1 hname'
        rw [hfilters] at hjudged
        cases hjudged
      by_cases haverage : benchmark.averageAll = true
      · have heq := hsame true true (fun _ => 0) (fun _ => 1) fun name' hname' hjudged =>
          (hvacuous name' hname' hjudged).elim
        simp only [List.map_cons, List.map_nil, aggregateStatistics] at heq
        rw [if_pos ⟨rfl, htrend⟩, if_pos ⟨rfl, htrend⟩] at heq
        obtain ⟨meets, hzero⟩ := observed_average validateRegexPattern
          haverage hvalid horganization
          ⟨some 0, [⟨"default", some 0, true, false, none⟩]⟩
        obtain ⟨meets', hone⟩ := observed_average validateRegexPattern
          haverage hvalid horganization
          ⟨some 1, [⟨"default", some 1, true, false, none⟩]⟩
        have hdiffer := hzero.symm.trans (heq.trans hone)
        simp at hdiffer
      · have hdefault := hor.resolve_left haverage
        have heq := hsame true false (fun _ => 0) (fun _ => 0) fun name' hname' hjudged =>
          (hvacuous name' hname' hjudged).elim
        rw [Bool.not_eq_true] at haverage
        rw [observed_eq haverage, observed_eq haverage, if_pos hvalid, if_neg horganization,
          if_pos hvalid, if_neg horganization] at heq
        have hnone : judgements validateRegexPattern benchmark (aggregateSeries benchmark
            [flatRow false 0 name]).targets = [] :=
          judgements_eq_nil fun stat hstat => by rwa [List.mem_singleton.1 hstat]
        have hone := judgements_default validateRegexPattern hvalid
          hdefault 0
        simp only [List.map_cons, List.map_nil, aggregateStatistics] at heq
        rw [if_pos ⟨rfl, htrend⟩, if_neg fun h => Bool.false_ne_true h.1, hnone] at heq
        dsimp only [flatRow] at heq
        rw [hone] at heq
        simp [verdictOver] at heq
  · intro h panel panel' hnames hdiffer
    by_cases hjudges : Judges organizationId benchmark
    · have hleaks : ¬Leaks validateRegexPattern benchmark names := fun hleaks => h ⟨hjudges, hleaks⟩
      obtain ⟨-, -, hpanel⟩ := hjudges
      cases hid : benchmark.panelId with
      | none => exact absurd (by rw [hid]; rfl) hpanel
      | some panelId =>
        have hzero : panelId ≠ 0 := by simpa [hid] using hpanel
        rw [checkPanel_eq hid hzero, checkPanel_eq hid hzero]
        refine observed_aggregateStatistics (readStatistics_sameSeries hdiffer panelId) ?_
        rwa [map_metricName_readStatistics, hnames]
    · exact checkPanel_of_not_judges hjudges

end Independent

end Checker

/-- Patterns that are the name of a series. -/
def literalPattern (matchPattern : String) : Option (String → Bool) :=
  some fun name => name == matchPattern

/-- The average of the panel, and each series but one, below 100. -/
def belowHundred : MetricBenchmark :=
  ⟨some 1, some "batch", true, some "lt", some (some 100), true, none, false, none⟩

/-- A panel with a series that is judged, and one that is filtered out. -/
def loginAndBatch (batch : ℚ) : PanelStatistics where
  rows := [flatRow false 50 "login", flatRow false batch "batch"]
  pooledErrorRates _ := .ok fun _ => none

/-- The series that is filtered out tips the verdict. -/
theorem excluded_series_tips_average :
    DifferInExcluded literalPattern belowHundred (loginAndBatch 10) (loginAndBatch 1000) ∧
      checkPanel literalPattern (some "org") belowHundred (loginAndBatch 10) =
        .ok (some (some true, some 30)) ∧
      checkPanel literalPattern (some "org") belowHundred (loginAndBatch 1000) =
        .ok (some (some false, some 525)) := by
  refine ⟨⟨?_, rfl, fun _ _ _ => rfl⟩, by decide +kernel, by decide +kernel⟩
  refine .cons ⟨rfl, fun _ => rfl⟩ (.cons ⟨rfl, fun h => ?_⟩ .nil)
  exact absurd h (by decide +kernel)

end Perfana
