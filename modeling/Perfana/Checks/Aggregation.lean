import Perfana.Checks.Requirement

/-!
# The series of an aggregation

The aggregation of a panel reports each series under its name, with the statistic that the
benchmark asks for. The row that stands for a panel without data is a default, not a series; a
weak trend is reported, but not judged; and on the panels of error rates the mean is that of the
whole run. A constant series is taken for the default if it is the only one of its panel.

* `aggregateMetricsForBenchmark_targets`: apart from that, each series that has a name and the
  statistic has one target, whatever the others are;
* `aggregateMetricsForBenchmark_exceptions`: the series that are not judged, have no target, or
  another mean.
-/

namespace Perfana

/-- The row of a panel without data. -/
def MetricStatistic.isDefaultRow (stat : MetricStatistic) : Bool :=
  stat.isConstant && stat.metricName = "default"

/-- The target of that row. -/
def MetricTarget.isDefault (t : MetricTarget) : Bool := t.isArtificial && t.target = "default"

/-- The error rates of the whole run, if the mean of the panel is replaced by them. -/
def pooledRates (benchmark : MetricBenchmark) (panelId : ℤ) (panel : PanelStatistics) :
    String → Option ℚ :=
  if benchmark.field = .mean ∧ panelId ∈ POOLED_ERROR_RATE_PANELS then
    match panel.pooledErrorRates
        ((panel.rows.head?.bind MetricStatistic.dashboardLabel).getD "") with
    | .ok pooled => pooled
    | .error _ => fun _ => none
  else fun _ => none

/-- A trend that is too weak to be judged. -/
def isWeakTrend (benchmark : MetricBenchmark) (stat : MetricStatistic) : Bool :=
  benchmark.field = .trendPctPerHour ∧
    ((stat.trendCorr.all fun r => |r| < TREND_MIN_CORR) ∨ stat.count.getD 0 < TREND_MIN_POINTS)

/-- The target of a series: its name with the statistic that is asked for, if it has both. -/
def seriesTarget (benchmark : MetricBenchmark) (pooled : String → Option ℚ)
    (stat : MetricStatistic) : Option MetricTarget :=
  if stat.metricName = "" then none
  else
    ((pooled stat.metricName).or (getFieldValue stat benchmark.field)).map fun value =>
      { target := stat.metricName, value := some value, isArtificial := stat.isConstant
        weakTrend := isWeakTrend benchmark stat
        trendCorr := if benchmark.field = .trendPctPerHour then stat.trendCorr else none }

/-- The panel has a single series, which is constant, and its trend is not asked for. -/
def LoneConstant (benchmark : MetricBenchmark) (panel : PanelStatistics) : Prop :=
  ∃ stat, panel.rows = [stat] ∧ stat.isConstant = true ∧ stat.metricName ≠ "default" ∧
    benchmark.field ≠ .trendPctPerHour

variable {benchmark : MetricBenchmark} {panel : PanelStatistics} {panelId : ℤ}
  {stat : MetricStatistic}

theorem readStatistics_eq : readStatistics benchmark panelId panel =
    panel.rows.map (withPooledMean (pooledRates benchmark panelId panel)) := by
  have hid : panel.rows.map (withPooledMean fun _ => none) = panel.rows := List.map_id _
  rw [readStatistics, pooledRates]
  split_ifs
  · dsimp only
    cases panel.pooledErrorRates ((panel.rows.head?.bind MetricStatistic.dashboardLabel).getD "") with
    | ok pooled => rfl
    | error e => exact hid.symm
  · exact hid.symm

/-- The rates replace a mean only. -/
theorem pooledRates_of_ne (h : benchmark.field ≠ .mean) (name : String) :
    pooledRates benchmark panelId panel name = none := by
  rw [pooledRates, if_neg fun hmean => h hmean.1]

theorem isDefaultRow_withPooledMean (pooled : String → Option ℚ) (stat : MetricStatistic) :
    (withPooledMean pooled stat).isDefaultRow = stat.isDefaultRow := by
  rw [MetricStatistic.isDefaultRow, MetricStatistic.isDefaultRow, withPooledMean]
  split <;> rfl

/-- The row of a series becomes its target, if its value is what is asked for. -/
theorem targetOf_eq {value : Option ℚ} {row : MetricStatistic} (hdefault : row.isDefaultRow = false)
    (hvalue : getFieldValue row benchmark.field = value) :
    targetOf benchmark.field row = if row.metricName = "" then none else value.map fun value =>
      { target := row.metricName, value := some value, isArtificial := row.isConstant
        weakTrend := isWeakTrend benchmark row
        trendCorr := if benchmark.field = .trendPctPerHour then row.trendCorr else none } := by
  have hrow : ¬(row.isConstant = true ∧ row.metricName = "default") := by
    rintro ⟨hconstant, hname⟩
    rw [MetricStatistic.isDefaultRow, hconstant, hname] at hdefault
    cases hdefault
  rw [targetOf]
  simp only [hrow, decide_false, Bool.false_eq_true, and_false, if_false, Bool.not_false, and_true,
    hvalue]
  cases value with
  | none => simp
  | some value =>
    by_cases hname : row.metricName = ""
    · simp [hname]
    · by_cases htrend : benchmark.field = .trendPctPerHour
      · simp [hname, htrend, isWeakTrend]
      · simp [hname, htrend, isWeakTrend]

theorem targetOf_withPooledMean (h : stat.isDefaultRow = false) :
    targetOf benchmark.field (withPooledMean (pooledRates benchmark panelId panel) stat) =
      seriesTarget benchmark (pooledRates benchmark panelId panel) stat := by
  by_cases hmean : benchmark.field = .mean
  · rw [targetOf_eq ((isDefaultRow_withPooledMean _ stat).trans h) rfl, seriesTarget, hmean,
      withPooledMean]
    cases pooledRates benchmark panelId panel stat.metricName with
    | none => simp [isWeakTrend, hmean]
    | some pct => simp [isWeakTrend, hmean, getFieldValue]
  · have hnone := @pooledRates_of_ne benchmark panel panelId hmean stat.metricName
    have hsame : withPooledMean (pooledRates benchmark panelId panel) stat = stat := by
      rw [withPooledMean, hnone]
    rw [hsame, targetOf_eq h rfl, seriesTarget, hnone, Option.none_or]

/-- The default row becomes the default, or nothing. -/
theorem isDefault_of_targetOf {row : MetricStatistic} {t : MetricTarget}
    (h : targetOf benchmark.field row = some t) : t.isDefault = row.isDefaultRow := by
  rw [targetOf] at h
  dsimp only at h
  split_ifs at h <;> cases h <;> rfl

/-- Apart from the default, each series has its own target. -/
theorem filterMap_targetOf (rows : List MetricStatistic) :
    ((rows.map (withPooledMean (pooledRates benchmark panelId panel))).filterMap
        (targetOf benchmark.field)).filter (fun t => !t.isDefault) =
      (rows.filter fun stat => !stat.isDefaultRow).filterMap
        (seriesTarget benchmark (pooledRates benchmark panelId panel)) := by
  induction rows with
  | nil => rfl
  | cons stat rows ih =>
    rw [List.map_cons, List.filterMap_cons, List.filter_cons]
    cases hdefault : stat.isDefaultRow with
    | true =>
      rw [Bool.not_true, if_neg Bool.false_ne_true]
      cases htarget : targetOf benchmark.field
          (withPooledMean (pooledRates benchmark panelId panel) stat) with
      | none => exact ih
      | some t =>
        have ht : t.isDefault = true := by
          rw [isDefault_of_targetOf htarget, isDefaultRow_withPooledMean, hdefault]
        dsimp only
        rw [List.filter_cons_of_neg (by simp [ht])]
        exact ih
    | false =>
      rw [Bool.not_false, if_pos rfl, List.filterMap_cons, targetOf_withPooledMean hdefault]
      cases htarget : seriesTarget benchmark (pooledRates benchmark panelId panel) stat with
      | none => exact ih
      | some t =>
        have ht : t.isDefault = false := by
          rw [← targetOf_withPooledMean hdefault] at htarget
          rw [isDefault_of_targetOf htarget, isDefaultRow_withPooledMean, hdefault]
        dsimp only
        rw [List.filter_cons_of_pos (by simp [ht]), ih]

/-- A single constant row is the default row, or its trend is asked for. -/
theorem aggregateStatistics_eq (hlone : ¬LoneConstant benchmark panel) :
    (aggregateStatistics benchmark (readStatistics benchmark panelId panel)).targets.filter
        (fun t => !t.isDefault) =
      ((readStatistics benchmark panelId panel).filterMap (targetOf benchmark.field)).filter
        fun t => !t.isDefault := by
  rw [readStatistics_eq]
  rcases hrows : panel.rows with _ | ⟨stat, _ | ⟨stat', rows⟩⟩
  · rw [List.map_nil, aggregateStatistics]
    split_ifs <;> rfl
  · rw [List.map_cons, List.map_nil, aggregateStatistics]
    split_ifs with hconstant
    · -- It is the default row.
      obtain ⟨hconstant, htrend⟩ := hconstant
      have hstat : stat.isConstant = true := by
        rw [withPooledMean] at hconstant
        split at hconstant <;> exact hconstant
      have hname : stat.metricName = "default" := by
        by_contra hname
        exact hlone ⟨stat, hrows, hstat, hname, htrend⟩
      have hdefault : stat.isDefaultRow = true := by
        rw [MetricStatistic.isDefaultRow, hstat, hname]
        rfl
      have hnone := @filterMap_targetOf benchmark panel panelId [stat]
      rw [List.filter_cons_of_neg (by simp [hdefault])] at hnone
      exact hnone.symm
    · rfl
  · rfl

/-- Apart from the default, and unless a panel has a single constant series, the targets are those
    of its series, each by itself. -/
theorem aggregateMetricsForBenchmark_targets (hpanel : benchmark.panelId = some panelId)
    (hne : panelId ≠ 0) (hlone : ¬LoneConstant benchmark panel) :
    ∃ result, aggregateMetricsForBenchmark benchmark panel = .ok result ∧
      (result.targets.filter fun t => !t.isDefault) =
        (panel.rows.filter fun stat => !stat.isDefaultRow).filterMap
          (seriesTarget benchmark (pooledRates benchmark panelId panel)) := by
  refine ⟨aggregateStatistics benchmark (readStatistics benchmark panelId panel), ?_, ?_⟩
  · rw [aggregateMetricsForBenchmark, hpanel]
    split
    · rename_i h
      cases h
    · rename_i h
      exact absurd (Option.some.inj h) hne
    · rename_i h
      rw [Option.some.inj h]
  · rw [aggregateStatistics_eq hlone, readStatistics_eq, filterMap_targetOf]

/-- A benchmark of the mean or of the trend of a panel. -/
def benchmarkOf (panelId : ℤ) (evaluateType : String) : MetricBenchmark where
  panelId := some panelId
  matchPattern := none
  invertMatchPattern := false
  requirementOperator := none
  requirementValue := none
  averageAll := false
  evaluateType := some evaluateType
  validateWithDefaultIfNoData := false
  validateWithDefaultIfNoDataValue := none

/-- A series that is not constant. -/
def checkoutRow (mean : Option ℚ) : MetricStatistic where
  metricName := "checkout"
  columns :=
    { mean := mean, median := none, minValue := none, maxValue := none, stdDev := none
      q10 := none, q25 := none, q75 := none, q90 := none, q95 := none, q99 := none
      lastValue := none, iqr := none }
  trendPctPerHour := some 5
  trendCorr := some (1 / 10)
  count := some 20
  isConstant := false
  dashboardLabel := none

/-- The panel of that series, whose rate over the whole run is 7.49. -/
def checkoutPanel (mean : Option ℚ) : PanelStatistics where
  rows := [checkoutRow mean]
  pooledErrorRates := fun _ => .ok fun _ => some (749 / 100)

/-- The mean of a panel of its own. -/
theorem aggregateMetricsForBenchmark_checkout :
    ∃ result, aggregateMetricsForBenchmark (benchmarkOf 1 "mean") (checkoutPanel (some 10)) =
        .ok result ∧
      (result.targets.filter fun t => !t.isDefault) =
        ((checkoutPanel (some 10)).rows.filter fun stat => !stat.isDefaultRow).filterMap
          (seriesTarget (benchmarkOf 1 "mean")
            (pooledRates (benchmarkOf 1 "mean") 1 (checkoutPanel (some 10)))) := by
  have hlone : ¬LoneConstant (benchmarkOf 1 "mean") (checkoutPanel (some 10)) := by
    rintro ⟨stat, hrows, hconstant, -⟩
    obtain rfl : checkoutRow (some 10) = stat := (List.cons.inj hrows).1
    cases hconstant
  exact aggregateMetricsForBenchmark_targets rfl (by decide) hlone

/-- A weak trend has a target that is not judged, the mean of a panel of error rates is that of the
    whole run, and a series without a mean has no target. -/
theorem aggregateMetricsForBenchmark_exceptions :
    aggregateMetricsForBenchmark (benchmarkOf 1 "trend") (checkoutPanel (some 10)) =
        .ok ⟨none, [⟨"checkout", some 5, false, true, some (1 / 10)⟩]⟩ ∧
      aggregateMetricsForBenchmark (benchmarkOf 105 "mean") (checkoutPanel (some 10)) =
        .ok ⟨some (749 / 100), [⟨"checkout", some (749 / 100), false, false, none⟩]⟩ ∧
      aggregateMetricsForBenchmark (benchmarkOf 1 "mean") (checkoutPanel none) =
        .ok ⟨none, []⟩ := by
  decide +kernel

end Perfana
