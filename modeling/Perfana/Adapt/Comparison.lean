import Mathlib.Algebra.Order.Group.Abs
import Perfana.Adapt.CompareConfig
import Perfana.Adapt.Pooling

/-!
# The comparison of a metric with its control group

A statistic of the metric is compared with that of the control group, under up to
three thresholds: a share of the control value, a multiple of its interquartile
range, and an absolute one. The difference is full if every threshold that applies
is exceeded, and partial if only some are; what it means depends on whether higher
values are better.

`label_eq_regression`: a metric is labelled a regression if and only if it can be
compared, is not ignored, and its value violates the thresholds on the worse side
(`ViolatesThresholds`).
-/

namespace Perfana

/-- The label of a comparison. -/
inductive AdaptLabel
  | incomparable
  | ignored
  | increase
  | decrease
  | improvement
  | regression
  | partialIncrease
  | partialDecrease
  | partialImprovement
  | partialRegression
  | noDifference
  deriving DecidableEq, Repr

/-- The check of a threshold. -/
structure ThresholdCheck where
  /-- It could be made. -/
  valid : Bool
  /-- The threshold is exceeded. -/
  isDifference : Bool
  deriving DecidableEq, Repr

/-- The checks of the three thresholds. -/
structure ThresholdChecks where
  /-- Of the share of the control value. -/
  pct : ThresholdCheck
  /-- Of the multiple of the interquartile range. -/
  iqr : ThresholdCheck
  /-- Of the absolute threshold. -/
  abs : ThresholdCheck
  deriving DecidableEq, Repr

namespace ThresholdChecks

variable (checks : ThresholdChecks)

/-- Some threshold is exceeded. -/
def partialDifference : Bool :=
  checks.pct.isDifference || checks.iqr.isDifference || checks.abs.isDifference

/-- The share is exceeded, and so are the other thresholds as far as they apply. -/
def allDifference : Bool :=
  checks.pct.isDifference && (!checks.iqr.valid || checks.iqr.isDifference) &&
    (!checks.abs.valid || checks.abs.isDifference)

end ThresholdChecks

/-- The bounds that the thresholds give on one side of the control value. -/
structure ThresholdBounds (K : Type*) where
  /-- By the share of the control value. -/
  pct : Option K
  /-- By the multiple of the interquartile range. -/
  iqr : Option K
  /-- By the absolute threshold. -/
  abs : Option K
  /-- The widest of them. -/
  overall : Option K
  deriving DecidableEq, Repr

/-- The conclusion about a metric. -/
structure MetricConclusion where
  /-- It could be compared. -/
  valid : Bool
  /-- The value is higher than that of the control group. -/
  increase : Bool
  /-- The value is lower than that of the control group. -/
  decrease : Bool
  /-- Some threshold is exceeded. -/
  partialDifference : Bool
  /-- All thresholds that apply are exceeded. -/
  allDifference : Bool
  /-- Differences of the metric are ignored. -/
  ignore : Bool
  label : AdaptLabel
  deriving DecidableEq, Repr

/-- The comparison of a metric. -/
structure Comparison (K : Type*) where
  /-- There is a control row, and both sides have enough samples. -/
  controlExists : Bool
  /-- The value of the run. -/
  testStatValue : Option K
  /-- The value of the control group. -/
  controlStatValue : Option K
  /-- The upper bounds, empty without a control value. -/
  upper : ThresholdBounds K
  /-- The lower bounds, empty without a control value. -/
  lower : ThresholdBounds K
  /-- The checks of the thresholds. -/
  checks : ThresholdChecks
  conclusion : MetricConclusion
  deriving DecidableEq, Repr

/-! ## The sample floor -/

/-- The least number of samples of a deployment that does not configure one. -/
def DEFAULT_ADAPT_MIN_SAMPLE_COUNT : ℤ := 2

/-- The least number of samples of a deployment, as far as it is configured with a
    positive whole number. -/
def adaptMinSampleCount (ADAPT_MIN_SAMPLE_COUNT : Option ℚ) : ℤ :=
  match ADAPT_MIN_SAMPLE_COUNT with
  | some n => if n.den = 1 ∧ 1 ≤ n then n.num else DEFAULT_ADAPT_MIN_SAMPLE_COUNT
  | none => DEFAULT_ADAPT_MIN_SAMPLE_COUNT

section

variable {K : Type}

/-- The least number of samples of a metric: as configured, but at least one, and
    that of the deployment otherwise. -/
def CompareConfig.sampleFloor (config : CompareConfig K) (minSampleCount : ℤ) : ℤ :=
  max 1 ((config.minSampleCount.map fun n => ⌊n⌋).getD minSampleCount)

/-- The statistic that is configured, the median if none is. -/
def StatisticColumns.value (columns : StatisticColumns K) (aggregation : Option String) :
    Option K :=
  match aggregation with
  | some "mean" => columns.mean
  | some "median" => columns.median
  | some "min" => columns.minValue
  | some "max" => columns.maxValue
  | some "last" => columns.lastValue
  | some "q10" | some "p10" => columns.q10
  | some "q25" | some "p25" => columns.q25
  | some "q75" | some "p75" => columns.q75
  | some "q90" | some "p90" => columns.q90
  | some "q95" | some "p95" => columns.q95
  | some "q99" | some "p99" => columns.q99
  | _ => columns.median

/-! ## The comparison -/

variable [Field K] [LinearOrder K]

/-- The bounds on one side of the control value, `sign` being one for the upper and
    minus one for the lower side. -/
def thresholdBounds (config : CompareConfig K) (control iqr : Option K) (sign : K)
    (widest : List K → Option K) : ThresholdBounds K :=
  match control with
  | none => ⟨none, none, none, none⟩
  | some control =>
    let pct := config.percentageThreshold.map fun threshold => control * (1 + sign * threshold)
    let iqr := do return control + sign * ((← iqr) * (← config.iqrThreshold))
    let abs := config.absoluteThreshold.map fun threshold => control + sign * threshold
    { pct, iqr, abs
      -- The greatest, or the least, of the bounds that there are.
      overall := widest ([pct, iqr, abs].filterMap id) }

/-- The value lies outside a band around the control value. -/
def outside (test lower upper : K) : Bool := upper < test ∨ test < lower

/-- The checks of the thresholds, none of which can be made without both values. -/
def thresholdChecks (config : CompareConfig K) (controlExists : Bool)
    (test control iqr : Option K) : ThresholdChecks :=
  match controlExists, test, control with
  | true, some test, some control =>
    { pct :=
        { valid := true
          isDifference :=
            match config.percentageThreshold with
            | some threshold =>
              outside test (control * (1 - threshold)) (control * (1 + threshold))
            | none => false }
      iqr :=
        -- A range of zero would make any difference a large one.
        match iqr.filter (· ≠ 0) with
        | some iqr =>
          { valid := true
            isDifference :=
              match config.iqrThreshold with
              | some threshold =>
                outside test (control - iqr * threshold) (control + iqr * threshold)
              | none => false }
        | none => ⟨false, false⟩
      abs :=
        match config.absoluteThreshold with
        | some threshold => ⟨true, threshold < |test - control|⟩
        | none => ⟨false, false⟩ }
  | _, _, _ => ⟨⟨false, false⟩, ⟨false, false⟩, ⟨false, false⟩⟩

omit [Field K] in
/-- The conclusion from the checks. -/
def conclusionOf (config : CompareConfig K) (controlExists : Bool) (test control : Option K)
    (checks : ThresholdChecks) : MetricConclusion :=
  let valid := controlExists && test.isSome
  let above : Bool := match test, control with
    | some test, some control => control < test
    | _, _ => false
  let below : Bool := match test, control with
    | some test, some control => test < control
    | _, _ => false
  { valid
    increase := above
    decrease := below
    partialDifference := checks.partialDifference
    allDifference := checks.allDifference
    ignore := config.ignore.getD false
    label :=
      if !valid then .incomparable
      else if config.ignore.getD false then .ignored
      else if checks.allDifference then
        match config.higherIsBetter with
        | none => if above then .increase else .decrease
        | some true => if above then .improvement else .regression
        | some false => if below then .improvement else .regression
      else if checks.partialDifference then
        match config.higherIsBetter with
        | none => if above then .partialIncrease else .partialDecrease
        | some true => if above then .partialImprovement else .partialRegression
        | some false => if below then .partialImprovement else .partialRegression
      else .noDifference }

variable {Sk : Type}

/-- The comparison of the statistics of a metric with a row of its control group. -/
def compareMetric (config : CompareConfig K) (minSampleCount : ℤ) (ms : MetricStatistics K Sk)
    (control : Option (ControlGroupStatistics K)) : Comparison K :=
  let floor := config.sampleFloor minSampleCount
  let controlExists : Bool := match control with
    | none => false
    | some row => floor ≤ (ms.count.getD 0 : ℕ) ∧ floor ≤ row.count
  let testStatValue := ms.columns.value config.aggregation
  let controlStatValue := control.bind fun row => row.columns.value config.aggregation
  let controlIqr := control.bind fun row => row.columns.iqr
  let checks := thresholdChecks config controlExists testStatValue controlStatValue controlIqr
  { controlExists, testStatValue, controlStatValue
    upper := thresholdBounds config controlStatValue controlIqr 1 List.max?
    lower := thresholdBounds config controlStatValue controlIqr (-1) List.min?
    checks
    conclusion := conclusionOf config controlExists testStatValue controlStatValue checks }

/-! ## Regressions -/

/-- A value lies on the worse side of the control value, or on neither. -/
def NotBetter (config : CompareConfig K) (control test : K) : Prop :=
  match config.higherIsBetter with
  | some true => test ≤ control
  | some false => control ≤ test
  | none => False

/-- A value violates the thresholds of a control group on the worse side: that of the
    share, and those of the interquartile range and of the difference as far as
    they apply. -/
structure ViolatesThresholds (config : CompareConfig K) (row : ControlGroupStatistics K)
    (control test : K) : Prop where
  /-- It is compared with the value of the control group. -/
  control_eq : row.columns.value config.aggregation = some control
  notBetter : NotBetter config control test
  /-- It lies outside the share of the control value. -/
  pct : ∃ threshold ∈ config.percentageThreshold,
    outside test (control * (1 - threshold)) (control * (1 + threshold))
  /-- It lies outside the multiple of the range, unless the range is zero. -/
  iqr : ∀ range ∈ row.columns.iqr, range ≠ 0 → ∃ threshold ∈ config.iqrThreshold,
    outside test (control - range * threshold) (control + range * threshold)
  /-- It differs by more than the absolute threshold. -/
  abs : ∀ threshold ∈ config.absoluteThreshold, threshold < |test - control|

/-- All thresholds that apply are exceeded if the value lies outside each of them. -/
theorem allDifference_iff {config : CompareConfig K} {test control : K} {iqr : Option K} :
    (thresholdChecks config true (some test) (some control) iqr).allDifference ↔
      (∃ threshold ∈ config.percentageThreshold,
        outside test (control * (1 - threshold)) (control * (1 + threshold))) ∧
      (∀ range ∈ iqr, range ≠ 0 → ∃ threshold ∈ config.iqrThreshold,
        outside test (control - range * threshold) (control + range * threshold)) ∧
      ∀ threshold ∈ config.absoluteThreshold, threshold < |test - control| := by
  rw [thresholdChecks, ThresholdChecks.allDifference, Bool.and_eq_true, Bool.and_eq_true, and_assoc]
  refine and_congr ?_ (and_congr ?_ ?_)
  · cases config.percentageThreshold <;> simp
  · cases iqr with
    | none => simp
    | some range =>
      by_cases hrange : range = 0
      · simp [Option.filter_some, hrange]
      · cases config.iqrThreshold <;> simp [Option.filter_some, hrange]
  · cases config.absoluteThreshold <;> simp

omit [Field K] in
/-- The conclusion about two values is a regression if they can be compared, all
    thresholds are exceeded, and the value is not better. -/
theorem conclusionOf_eq_regression {config : CompareConfig K} {controlExists : Bool}
    {test control : K} {checks : ThresholdChecks} :
    (conclusionOf config controlExists (some test) (some control) checks).label = .regression ↔
      controlExists ∧ config.ignore.getD false = false ∧ checks.allDifference ∧
        NotBetter config control test := by
  cases controlExists with
  | false => simp [conclusionOf]
  | true =>
    rw [conclusionOf, NotBetter]
    cases hignore : config.ignore.getD false with
    | true => simp
    | false =>
      cases hall : checks.allDifference with
      | true =>
        -- A full label: the classification decides.
        rcases config.higherIsBetter with - | - | -
        · by_cases h : control < test <;> simp [h]
        · rcases lt_or_ge test control with h | h <;> simp [h, h.not_gt]
        · rcases lt_or_ge control test with h | h <;> simp [h, h.not_gt]
      | false =>
        -- A partial label, or none.
        cases checks.partialDifference with
        | false => simp
        | true =>
          rcases config.higherIsBetter with - | - | -
          · by_cases h : control < test <;> simp [h]
          · by_cases h : test < control <;> simp [h]
          · by_cases h : control < test <;> simp [h]

/-- A metric is labelled a regression if and only if both sides have enough samples,
    it is not ignored, and its value violates the thresholds. -/
theorem label_eq_regression {config : CompareConfig K} {minSampleCount : ℤ}
    {ms : MetricStatistics K Sk} {control : Option (ControlGroupStatistics K)} :
    (compareMetric config minSampleCount ms control).conclusion.label = .regression ↔
      ∃ row ∈ control, ∃ test ∈ ms.columns.value config.aggregation, ∃ value,
        config.sampleFloor minSampleCount ≤ (ms.count.getD 0 : ℕ) ∧
        config.sampleFloor minSampleCount ≤ row.count ∧
        config.ignore.getD false = false ∧ ViolatesThresholds config row value test := by
  cases control with
  | none => simp [compareMetric, conclusionOf]
  | some row =>
    cases htest : ms.columns.value config.aggregation with
    | none => simp [compareMetric, conclusionOf, htest]
    | some test =>
      cases hcontrol : row.columns.value config.aggregation with
      | none =>
        -- Without a control value no threshold is exceeded.
        have hnone : ∀ value test, ¬ViolatesThresholds config row value test := by
          intro value test h
          rw [h.control_eq] at hcontrol
          cases hcontrol
        simp only [compareMetric, conclusionOf, thresholdChecks, ThresholdChecks.allDifference,
          ThresholdChecks.partialDifference, htest, hcontrol, Option.bind_some]
        split
        · simp [hnone]
        · cases config.ignore.getD false <;> simp [hnone]
      | some control =>
        dsimp only [compareMetric]
        rw [htest, Option.bind_some, hcontrol, conclusionOf_eq_regression, decide_eq_true_eq]
        constructor
        · rintro ⟨⟨hms, hrow⟩, hignore, hall, hbetter⟩
          rw [decide_eq_true ⟨hms, hrow⟩, allDifference_iff] at hall
          exact ⟨row, rfl, test, rfl, control, hms, hrow, hignore,
            ⟨hcontrol, hbetter, hall.1, hall.2.1, hall.2.2⟩⟩
        · rintro ⟨_, hrow', _, htest', _, hms, hrow, hignore, h⟩
          obtain rfl := Option.mem_some_iff.1 hrow'
          obtain rfl := Option.mem_some_iff.1 htest'
          obtain rfl := Option.some.inj (hcontrol.symm.trans h.control_eq)
          rw [decide_eq_true ⟨hms, hrow⟩, allDifference_iff]
          exact ⟨⟨hms, hrow⟩, hignore, ⟨h.pct, h.iqr, h.abs⟩, h.notBetter⟩

end

end Perfana
