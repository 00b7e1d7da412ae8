import Perfana.Adapt.Pipeline
import Perfana.Lib.ThreeValued

/-!
# The query for tracked results

The differences of the control runs are compared again by a query with a copy of its
own of the comparison (`TrackedMetric`), over columns that may be absent. The copy
computes what the comparison of the results does (`TrackedMetric.comparison_eq`).

What differs is how the rows are found: the sources of the metric, of the difference
and of the control group must be known to be equal, where the results also match
sources that are all absent.

* `comparisonsOfTracked_perm_iff`: a metric is compared alike if and only if its
  source is known.
-/

namespace Perfana

open Table ThreeValued

/-! ## The copy -/

/-- A row of the metrics that are compared again, with the statistics of the control
    group, absent if there are none, and the configuration. -/
structure TrackedMetric (K : Type) where
  /-- The configuration. -/
  compareConfig : CompareConfig K
  /-- The statistics of the run. -/
  test : StatisticColumns K
  /-- Its number of samples. -/
  testN : Option ℕ
  /-- The statistics of the control group. -/
  control : StatisticColumns K
  /-- Its number of samples. -/
  controlN : Option ℕ
  /-- There is a row of the control group. -/
  controlRowExists : Bool

/-- The checks as the query writes them. -/
structure TrackedChecks where
  /-- The check of the share could be made. -/
  pctValid : Truth
  /-- The share is exceeded. -/
  pctIsDifference : Truth
  /-- The check of the range could be made. -/
  iqrValid : Truth
  /-- The multiple of the range is exceeded. -/
  iqrIsDifference : Truth
  /-- The check of the difference could be made. -/
  absValid : Truth
  /-- The absolute threshold is exceeded. -/
  absIsDifference : Truth
  deriving DecidableEq, Repr

/-- The conclusion as the query writes it. -/
structure TrackedConclusion where
  /-- The metric could be compared. -/
  valid : Truth
  /-- The value is higher. -/
  increase : Truth
  /-- The value is lower. -/
  decrease : Truth
  /-- Some threshold is exceeded. -/
  partialDifference : Truth
  /-- All thresholds that apply are exceeded. -/
  allDifference : Truth
  /-- Differences are ignored. -/
  ignore : Truth
  label : Option AdaptLabel
  deriving DecidableEq, Repr

/-- A comparison as the query writes it. -/
structure TrackedComparison (K : Type) where
  /-- There is a control row, and both sides have enough samples. -/
  controlExists : Truth
  /-- The value of the run. -/
  testStatValue : Option K
  /-- The value of the control group. -/
  controlStatValue : Option K
  /-- The upper bounds. -/
  upper : ThresholdBounds K
  /-- The lower bounds. -/
  lower : ThresholdBounds K
  checks : TrackedChecks
  conclusion : TrackedConclusion
  deriving DecidableEq, Repr

section

variable {K : Type}

/-- The statistic that is configured. -/
def trackedStatValue (columns : StatisticColumns K) (aggregation : Option String) : Option K :=
  match aggregation with
  | some "mean" => columns.mean
  | some "median" => columns.median
  | some "min" => columns.minValue
  | some "max" => columns.maxValue
  | some "last" => columns.lastValue
  | some "q10" => columns.q10
  | some "p10" => columns.q10
  | some "q25" => columns.q25
  | some "p25" => columns.q25
  | some "q75" => columns.q75
  | some "p75" => columns.q75
  | some "q90" => columns.q90
  | some "p90" => columns.q90
  | some "q95" => columns.q95
  | some "p95" => columns.q95
  | some "q99" => columns.q99
  | some "p99" => columns.q99
  | _ => columns.median

namespace TrackedMetric

variable [Field K] [LinearOrder K] (wds : TrackedMetric K)

/-- The value of the run. -/
def testStatValue : Option K := trackedStatValue wds.test wds.compareConfig.aggregation

/-- The value of the control group. -/
def controlStatValue : Option K := trackedStatValue wds.control wds.compareConfig.aggregation

/-- The interquartile range of the control group. -/
def controlIqr : Option K := wds.control.iqr

/-- There is a control row, and both sides have enough samples. -/
def controlExists (minSampleCount : ℤ) : Truth :=
  let floor := wds.compareConfig.sampleFloor minSampleCount
  and (and (some wds.controlRowExists)
      (between (fun (n : ℕ) (floor : ℤ) => floor ≤ n) (coalesce wds.testN 0) (some floor)))
    (between (fun (n : ℕ) (floor : ℤ) => floor ≤ n) (coalesce wds.controlN 0) (some floor))

/-- The greatest of the values that there are. -/
def greatest (values : List (Option K)) : Option K := (values.filterMap id).max?

/-- The least of the values that there are. -/
def least (values : List (Option K)) : Option K := (values.filterMap id).min?

/-- The upper bounds. -/
def upper : ThresholdBounds K :=
  let config := wds.compareConfig
  let pct := caseWhen (isNotNull config.percentageThreshold)
    (do return (← wds.controlStatValue) * (1 + (← config.percentageThreshold))) none
  let iqr := caseWhen (and (isNotNull wds.controlIqr) (isNotNull config.iqrThreshold))
    (do return (← wds.controlStatValue) + (← wds.controlIqr) * (← config.iqrThreshold)) none
  let abs := caseWhen (isNotNull config.absoluteThreshold)
    (do return (← wds.controlStatValue) + (← config.absoluteThreshold)) none
  caseWhen (isNotNull wds.controlStatValue) ⟨pct, iqr, abs, greatest [pct, iqr, abs]⟩
    ⟨none, none, none, none⟩

/-- The lower bounds. -/
def lower : ThresholdBounds K :=
  let config := wds.compareConfig
  let pct := caseWhen (isNotNull config.percentageThreshold)
    (do return (← wds.controlStatValue) * (1 - (← config.percentageThreshold))) none
  let iqr := caseWhen (and (isNotNull wds.controlIqr) (isNotNull config.iqrThreshold))
    (do return (← wds.controlStatValue) - (← wds.controlIqr) * (← config.iqrThreshold)) none
  let abs := caseWhen (isNotNull config.absoluteThreshold)
    (do return (← wds.controlStatValue) - (← config.absoluteThreshold)) none
  caseWhen (isNotNull wds.controlStatValue) ⟨pct, iqr, abs, least [pct, iqr, abs]⟩
    ⟨none, none, none, none⟩

/-- The checks of the thresholds. -/
def checks (minSampleCount : ℤ) : TrackedChecks :=
  let config := wds.compareConfig
  let test := wds.testStatValue
  let control := wds.controlStatValue
  let iqr := wds.controlIqr
  let gt := between fun a b : K => decide (b < a)
  let lt := between fun a b : K => decide (a < b)
  let ne := between fun a b : K => decide (a ≠ b)
  let comparable := and (and (wds.controlExists minSampleCount) (isNotNull test))
    (isNotNull control)
  let ranged := and (and comparable (isNotNull iqr)) (ne iqr (some 0))
  { pctValid := comparable
    pctIsDifference := caseWhen (and comparable (isNotNull config.percentageThreshold))
      (or (gt test (do return (← control) * (1 + (← config.percentageThreshold))))
        (lt test (do return (← control) * (1 - (← config.percentageThreshold))))) (some false)
    iqrValid := ranged
    iqrIsDifference := caseWhen (and ranged (isNotNull config.iqrThreshold))
      (or (gt test (do return (← control) + (← iqr) * (← config.iqrThreshold)))
        (lt test (do return (← control) - (← iqr) * (← config.iqrThreshold)))) (some false)
    absValid := and comparable (isNotNull config.absoluteThreshold)
    absIsDifference := caseWhen (and comparable (isNotNull config.absoluteThreshold))
      (gt (do return |(← test) - (← control)|) config.absoluteThreshold) (some false) }

/-- The condition is known to be true. -/
def isTrue (a : Truth) : Truth := between (· == ·) a (some true)

/-- Some threshold is exceeded. -/
def someDifference (checks : TrackedChecks) : Truth :=
  or (or (isTrue checks.pctIsDifference) (isTrue checks.iqrIsDifference))
    (isTrue checks.absIsDifference)

/-- The share is exceeded, and so are the other thresholds as far as they apply. -/
def everyDifference (checks : TrackedChecks) : Truth :=
  and (and (isTrue checks.pctIsDifference)
      (caseWhen (isTrue checks.iqrValid) checks.iqrIsDifference (some true)))
    (caseWhen (isTrue checks.absValid) checks.absIsDifference (some true))

/-- The conclusion from the checks. -/
def conclusion (minSampleCount : ℤ) : TrackedConclusion :=
  let config := wds.compareConfig
  let test := wds.testStatValue
  let control := wds.controlStatValue
  let checks := wds.checks minSampleCount
  let gt := between fun a b : K => decide (b < a)
  let lt := between fun a b : K => decide (a < b)
  let both := and (isNotNull test) (isNotNull control)
  let valid := and (wds.controlExists minSampleCount) (isNotNull test)
  let ignore := coalesce config.ignore false
  -- The label by the classification of the metric.
  let classified (higher lower better worse : AdaptLabel) : Option AdaptLabel :=
    caseWhen (isNull config.higherIsBetter)
      (caseWhen (gt test control) (some higher) (some lower))
      (caseWhen (isTrue config.higherIsBetter)
        (caseWhen (gt test control) (some better) (some worse))
        (caseWhen (between (· == ·) config.higherIsBetter (some false))
          (caseWhen (lt test control) (some better) (some worse)) none))
  { valid
    increase := caseWhen both (gt test control) (some false)
    decrease := caseWhen both (lt test control) (some false)
    partialDifference := caseWhen (someDifference checks) (some true) (some false)
    allDifference := caseWhen (everyDifference checks) (some true) (some false)
    ignore
    label :=
      caseWhen (not valid) (some .incomparable)
        (caseWhen (isTrue ignore) (some .ignored)
          (caseWhen (everyDifference checks)
            (classified .increase .decrease .improvement .regression)
            (caseWhen (someDifference checks)
              (classified .partialIncrease .partialDecrease .partialImprovement
                .partialRegression)
              (some .noDifference)))) }

/-- The comparison of a metric. -/
def comparison (minSampleCount : ℤ) : TrackedComparison K where
  controlExists := wds.controlExists minSampleCount
  testStatValue := wds.testStatValue
  controlStatValue := wds.controlStatValue
  upper := wds.upper
  lower := wds.lower
  checks := wds.checks minSampleCount
  conclusion := wds.conclusion minSampleCount

/-! ## What the copy computes -/

variable {Sk : Type}

/-- The columns of a control group without a row. -/
def absentColumns : StatisticColumns K :=
  ⟨none, none, none, none, none, none, none, none, none, none, none, none, none⟩

/-- The row of a metric that is joined with a row of a control group, or with none. -/
def ofMetric (compareConfig : CompareConfig K) (ms : MetricStatistics K Sk)
    (control : Option (ControlGroupStatistics K)) : TrackedMetric K where
  compareConfig
  test := ms.columns
  testN := ms.count
  control := (control.map ControlGroupStatistics.columns).getD absentColumns
  controlN := control.map ControlGroupStatistics.count
  controlRowExists := control.isSome

omit [Field K] [LinearOrder K] in
theorem trackedStatValue_eq (columns : StatisticColumns K) (aggregation : Option String) :
    trackedStatValue columns aggregation = columns.value aggregation := by
  refine (trackedStatValue.eq_def _ _).trans (Eq.trans ?_ (StatisticColumns.value.eq_def _ _).symm)
  split <;> first | rfl | (split <;> first | rfl | contradiction)

end TrackedMetric

end

/-- Checks as the query writes them. -/
def ThresholdChecks.written (checks : ThresholdChecks) : TrackedChecks where
  pctValid := some checks.pct.valid
  pctIsDifference := some checks.pct.isDifference
  iqrValid := some checks.iqr.valid
  iqrIsDifference := some checks.iqr.isDifference
  absValid := some checks.abs.valid
  absIsDifference := some checks.abs.isDifference

/-- A conclusion as the query writes it. -/
def MetricConclusion.written (conclusion : MetricConclusion) : TrackedConclusion where
  valid := some conclusion.valid
  increase := some conclusion.increase
  decrease := some conclusion.decrease
  partialDifference := some conclusion.partialDifference
  allDifference := some conclusion.allDifference
  ignore := some conclusion.ignore
  label := some conclusion.label

/-- A comparison as the query writes it. -/
def Comparison.written {K : Type} (c : Comparison K) : TrackedComparison K where
  controlExists := some c.controlExists
  testStatValue := c.testStatValue
  controlStatValue := c.controlStatValue
  upper := c.upper
  lower := c.lower
  checks := c.checks.written
  conclusion := c.conclusion.written

namespace TrackedMetric

section

variable {K Sk : Type} [Field K] [LinearOrder K] (wds : TrackedMetric K)

theorem upper_eq :
    wds.upper =
      thresholdBounds wds.compareConfig wds.controlStatValue wds.controlIqr 1 List.max? := by
  rw [upper, thresholdBounds.eq_def]
  cases wds.controlStatValue with
  | none => rfl
  | some value =>
    cases wds.compareConfig.percentageThreshold <;> cases wds.compareConfig.iqrThreshold <;>
      cases wds.compareConfig.absoluteThreshold <;> cases wds.controlIqr <;> simp [greatest]

theorem lower_eq :
    wds.lower =
      thresholdBounds wds.compareConfig wds.controlStatValue wds.controlIqr (-1) List.min? := by
  rw [lower, thresholdBounds.eq_def]
  cases wds.controlStatValue with
  | none => rfl
  | some value =>
    cases wds.compareConfig.percentageThreshold <;> cases wds.compareConfig.iqrThreshold <;>
      cases wds.compareConfig.absoluteThreshold <;> cases wds.controlIqr <;>
      simp [least, sub_eq_add_neg]

variable {wds} {minSampleCount : ℤ} {exists_ : Bool}

theorem checks_eq (h : wds.controlExists minSampleCount = some exists_) :
    wds.checks minSampleCount =
      (thresholdChecks wds.compareConfig exists_ wds.testStatValue wds.controlStatValue
        wds.controlIqr).written := by
  rw [checks, h, thresholdChecks.eq_def]
  -- The guards of the query are those under which the checks can be made.
  cases exists_ with
  | false =>
    cases wds.testStatValue <;> cases wds.controlStatValue <;>
      simp [ThresholdChecks.written]
  | true =>
    cases wds.testStatValue with
    | none => cases wds.controlStatValue <;> simp [ThresholdChecks.written]
    | some test =>
      cases wds.controlStatValue with
      | none => simp [ThresholdChecks.written]
      | some control =>
        cases wds.controlIqr with
        | none =>
          cases wds.compareConfig.percentageThreshold <;>
            cases wds.compareConfig.absoluteThreshold <;>
            simp [ThresholdChecks.written, outside]
        | some range =>
          by_cases hrange : range = 0 <;>
            cases wds.compareConfig.percentageThreshold <;>
            cases wds.compareConfig.absoluteThreshold <;>
            cases wds.compareConfig.iqrThreshold <;>
            simp [ThresholdChecks.written, outside, Option.filter_some, hrange]

omit [Field K] [LinearOrder K] in
theorem someDifference_written (checks : ThresholdChecks) :
    someDifference checks.written = some checks.partialDifference := by
  simp [someDifference, isTrue, ThresholdChecks.written, ThresholdChecks.partialDifference]

omit [Field K] [LinearOrder K] in
theorem everyDifference_written (checks : ThresholdChecks) :
    everyDifference checks.written = some checks.allDifference := by
  obtain ⟨⟨-, pct⟩, ⟨iqrValid, iqr⟩, ⟨absValid, abs⟩⟩ := checks
  cases iqrValid <;> cases absValid <;>
    simp [everyDifference, isTrue, ThresholdChecks.written, ThresholdChecks.allDifference]

theorem conclusion_eq (h : wds.controlExists minSampleCount = some exists_) :
    wds.conclusion minSampleCount =
      (conclusionOf wds.compareConfig exists_ wds.testStatValue wds.controlStatValue
        (thresholdChecks wds.compareConfig exists_ wds.testStatValue wds.controlStatValue
          wds.controlIqr)).written := by
  rw [conclusion, checks_eq h, h, someDifference_written, everyDifference_written,
    conclusionOf.eq_def]
  generalize thresholdChecks wds.compareConfig exists_ wds.testStatValue wds.controlStatValue
    wds.controlIqr = checks
  rw [MetricConclusion.written]
  congr 1
  · cases wds.testStatValue <;> simp
  · cases wds.testStatValue <;> cases wds.controlStatValue <;> simp
  · cases wds.testStatValue <;> cases wds.controlStatValue <;> simp
  · cases checks.partialDifference <;> rfl
  · cases checks.allDifference <;> rfl
  · dsimp only
    cases exists_ with
    | false => cases wds.testStatValue <;> simp
    | true =>
      cases wds.testStatValue with
      | none => simp
      | some test =>
        rw [coalesce]
        cases wds.compareConfig.ignore.getD false with
        | true => simp [isTrue]
        | false =>
          cases checks.allDifference <;> cases checks.partialDifference <;>
            rcases wds.compareConfig.higherIsBetter with - | - | - <;>
            cases wds.controlStatValue <;> simp [isTrue, apply_ite some]

variable (config : CompareConfig K) (minSampleCount) (ms : MetricStatistics K Sk)
  (control : Option (ControlGroupStatistics K))

omit [Field K] [LinearOrder K] in
theorem testStatValue_ofMetric :
    (ofMetric config ms control).testStatValue = ms.columns.value config.aggregation :=
  trackedStatValue_eq _ _

omit [Field K] [LinearOrder K] in
theorem controlStatValue_ofMetric :
    (ofMetric config ms control).controlStatValue =
      control.bind fun row => row.columns.value config.aggregation := by
  rw [controlStatValue, trackedStatValue_eq]
  cases control with
  | some row => rfl
  | none =>
    rw [StatisticColumns.value.eq_def]
    dsimp only [ofMetric]
    split <;> rfl

omit [Field K] [LinearOrder K] in
theorem controlIqr_ofMetric :
    (ofMetric config ms control).controlIqr = control.bind fun row => row.columns.iqr := by
  cases control <;> rfl

theorem controlExists_ofMetric :
    (ofMetric config ms control).controlExists minSampleCount =
      some (compareMetric config minSampleCount ms control).controlExists := by
  cases control <;> simp [controlExists, ofMetric, compareMetric, coalesce]

/-- The copy computes what the comparison of the results does. -/
theorem comparison_eq :
    (ofMetric config ms control).comparison minSampleCount =
      (compareMetric config minSampleCount ms control).written := by
  have hexists := controlExists_ofMetric minSampleCount config ms control
  rw [comparison, hexists, checks_eq hexists, conclusion_eq hexists, upper_eq, lower_eq,
    testStatValue_ofMetric, controlStatValue_ofMetric, controlIqr_ofMetric]
  rfl

end

end TrackedMetric

namespace AdaptDatabase

variable {K Sk : Type} [Field K] [LinearOrder K] (env : AdaptEnvironment)
  (db : AdaptDatabase K Sk) (scope : CompareScope)

/-- What the results are made of for a metric: the comparisons, each with its
    configuration. -/
def comparisonsOf (ms : MetricStatistics K Sk) : List (CompareConfig K × Comparison K) := do
  let control ← db.withControl ms.testRunId ms notDistinct
  let compareConfig ← resolve db.compareConfigs scope ms.key
  return (compareConfig,
    compareMetric compareConfig (adaptMinSampleCount env.ADAPT_MIN_SAMPLE_COUNT) ms control)

/-- What the query finds for a metric and a difference of a control run. -/
def comparisonsOfTracked (historical : ResultKey × AdaptResult K) (ms : MetricStatistics K Sk) :
    List (CompareConfig K × TrackedComparison K) :=
  if sqlEq ms.metadata.metricsSourceId historical.2.metricsSourceId ∧
      ms.key.panelId = historical.1.key.panelId ∧
      ms.key.metricName = historical.1.key.metricName then do
    let control ← db.withControl historical.1.controlGroupId ms sqlEq
    let compareConfig ← resolve db.compareConfigs scope ms.key
    return (compareConfig, (TrackedMetric.ofMetric compareConfig ms control).comparison
      (adaptMinSampleCount env.ADAPT_MIN_SAMPLE_COUNT))
  else []

/-- The rows of a control group with the metric's name and panel. -/
def controlRows (controlGroupId : String) (ms : MetricStatistics K Sk) :
    List (ControlGroupStatistics K) :=
  (db.controlGroupStatistics.rows.filter fun row => row.1.1 = controlGroupId ∧
    row.1.2.panelId = ms.key.panelId ∧ row.1.2.metricName = ms.key.metricName).map Prod.snd

variable {db}

omit [Field K] [LinearOrder K] in
theorem withControl_eq (controlGroupId : String) (ms : MetricStatistics K Sk)
    (sameSource : Option String → Option String → Bool) :
    db.withControl controlGroupId ms sameSource =
      leftJoin (db.controlRows controlGroupId ms) fun row =>
        sameSource row.metricsSourceId ms.metadata.metricsSourceId := by
  rw [withControl, controlRows, leftJoin_map_filter]
  congr 2
  funext row
  grind

variable {env scope} {testRunIds : List String}

/-- A metric that is found again with the same statistics of its control group is
    compared as it is for the results if and only if its source is known. -/
theorem comparisonsOfTracked_perm_iff {historical : ResultKey × AdaptResult K}
    {ms : MetricStatistics K Sk}
    (hsource : historical.2.metricsSourceId = ms.metadata.metricsSourceId)
    (hpanel : historical.1.key.panelId = ms.key.panelId)
    (hname : historical.1.key.metricName = ms.key.metricName)
    (hcontrol : (db.controlRows historical.1.controlGroupId ms).Perm
      (db.controlRows ms.testRunId ms)) :
    (db.comparisonsOfTracked env scope historical ms).Perm
        ((db.comparisonsOf env scope ms).map (Prod.map id Comparison.written)) ↔
      ms.metadata.metricsSourceId ≠ none := by
  cases hms : ms.metadata.metricsSourceId with
  | none =>
    -- Nothing is equal to a source that is not known.
    have hnone : db.comparisonsOfTracked env scope historical ms = [] := by
      rw [comparisonsOfTracked, if_neg]
      simp [sqlEq, hms]
    have hsome : db.comparisonsOf env scope ms ≠ [] := by
      obtain ⟨control, hcontrol⟩ :=
        List.exists_mem_of_ne_nil _ (withControl_ne_nil db ms.testRunId ms notDistinct)
      obtain ⟨config, hconfig⟩ :=
        List.exists_mem_of_ne_nil _ (resolve_ne_nil db.compareConfigs scope ms.key)
      refine List.ne_nil_of_mem (a := (config, compareMetric config
        (adaptMinSampleCount env.ADAPT_MIN_SAMPLE_COUNT) ms control)) ?_
      simp only [comparisonsOf, List.bind_eq_flatMap, List.pure_def, List.mem_flatMap,
        List.mem_singleton]
      exact ⟨control, hcontrol, config, hconfig, rfl⟩
    refine iff_of_false (fun h => hsome ?_) fun h => h rfl
    rw [hnone] at h
    exact List.map_eq_nil_iff.1 h.nil_eq.symm
  | some source =>
    refine iff_of_true ?_ (Option.some_ne_none _)
    have hcond : sqlEq ms.metadata.metricsSourceId historical.2.metricsSourceId ∧
        ms.key.panelId = historical.1.key.panelId ∧
        ms.key.metricName = historical.1.key.metricName :=
      ⟨by simp [sqlEq, hsource, hms], hpanel.symm, hname.symm⟩
    -- A known source matches the same rows in both ways.
    have hjoin : (db.withControl historical.1.controlGroupId ms sqlEq).Perm
        (db.withControl ms.testRunId ms notDistinct) := by
      have hsame : (fun row : ControlGroupStatistics K =>
          sqlEq row.metricsSourceId ms.metadata.metricsSourceId) =
          fun row => notDistinct row.metricsSourceId ms.metadata.metricsSourceId := by
        funext row
        rw [hms, sqlEq, notDistinct]
        cases row.metricsSourceId <;> simp
      rw [withControl_eq, withControl_eq, hsame]
      exact leftJoin_perm hcontrol _
    rw [comparisonsOfTracked, if_pos hcond]
    simp only [comparisonsOf, List.bind_eq_flatMap, List.pure_def, List.map_flatMap,
      List.map_singleton, TrackedMetric.comparison_eq]
    exact hjoin.flatMap_right _

/-! ## Two slow runs -/

/-- The control group statistics of two runs, alike but for their names. -/
def slowTwice (metricsSourceId : Option String) : AdaptDatabase ℚ (Multiset ℚ) :=
  { slowRun with
    controlGroupStatistics :=
      ⟨[(("slow", metricOf "latency"), { leftoverRow 100 with count := 2, metricsSourceId }),
        (("slower", metricOf "latency"), { leftoverRow 100 with count := 2, metricsSourceId })],
        show [("slow", metricOf "latency"), ("slower", metricOf "latency")].Nodup by decide⟩ }

/-- The statistics of the second of them. -/
def slowerStatistics (metricsSourceId : Option String) : MetricStatistics ℚ (Multiset ℚ) :=
  { adaptStatistics "slower" 200 with metadata := ⟨none, none, none, none, none, metricsSourceId⟩ }

/-- The regression of the first. -/
def slowResult (metricsSourceId : Option String) : ResultKey × AdaptResult ℚ :=
  (⟨"slow", "slow", metricOf "latency"⟩,
    { id := "result of slow"
      metricsSourceId
      compareConfig := latencyConfig.configData
      comparison := compareMetric latencyConfig.configData 2 (adaptStatistics "slow" 200)
        (some { leftoverRow 100 with count := 2, metricsSourceId }) })

/-- The scope of both. -/
def slowScope : CompareScope := ⟨"shop", "test", "load"⟩

theorem comparisonsOfTracked_perm_slow :
    ((slowTwice (some "source")).comparisonsOfTracked adaptEnvironment slowScope
        (slowResult (some "source")) (slowerStatistics (some "source"))).Perm
      (((slowTwice (some "source")).comparisonsOf adaptEnvironment slowScope
        (slowerStatistics (some "source"))).map (Prod.map id Comparison.written)) ↔
    (slowerStatistics (some "source")).metadata.metricsSourceId ≠ none :=
  comparisonsOfTracked_perm_iff rfl rfl rfl (List.Perm.of_eq rfl)

/-- A regression without a source is not found again, although the run has it. -/
theorem comparisonsOfTracked_sourceless :
    ((slowResult none).2.metricsSourceId = (slowerStatistics none).metadata.metricsSourceId ∧
      (slowResult none).1.key = (slowerStatistics none).key ∧
      (slowTwice none).controlRows (slowResult none).1.controlGroupId (slowerStatistics none) =
        (slowTwice none).controlRows "slower" (slowerStatistics none)) ∧
    ((slowTwice none).comparisonsOf adaptEnvironment slowScope (slowerStatistics none)).map
        (fun c => c.2.conclusion.label) = [.regression] ∧
    (slowTwice none).comparisonsOfTracked adaptEnvironment slowScope (slowResult none)
      (slowerStatistics none) = [] ∧
    ¬((slowTwice none).comparisonsOfTracked adaptEnvironment slowScope (slowResult none)
      (slowerStatistics none)).Perm
        (((slowTwice none).comparisonsOf adaptEnvironment slowScope (slowerStatistics none)).map
          (Prod.map id Comparison.written)) := by
  have hlabels : ((slowTwice none).comparisonsOf adaptEnvironment slowScope
      (slowerStatistics none)).map (fun c => c.2.conclusion.label) = [.regression] := by
    decide +kernel
  have hnone : (slowTwice none).comparisonsOfTracked adaptEnvironment slowScope (slowResult none)
      (slowerStatistics none) = [] := by
    decide +kernel
  refine ⟨⟨rfl, rfl, rfl⟩, hlabels, hnone, fun h => ?_⟩
  rw [hnone] at h
  rw [List.map_eq_nil_iff.1 h.nil_eq.symm] at hlabels
  exact List.cons_ne_nil _ _ hlabels.symm

end AdaptDatabase

end Perfana
