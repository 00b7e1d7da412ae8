import Mathlib.Data.List.Sort
import Mathlib.Algebra.Order.Field.Basic
import Perfana.TestRun
import Perfana.Adapt.Statistics
import Perfana.Lib.Table

/-!
# The configuration of a comparison

How a metric is compared is configured at several levels: for the metric, for its
panel, for its dashboard, or for all. The rows of a scope are loaded into a map,
the most specific first (`fetchCompareConfigCache`), from which a temporary table
is filled (`tempConfigCache`), which the metrics are joined with (`resolve`).
-/

namespace Perfana

/-- The configuration of a comparison; keys may be absent. -/
structure CompareConfig (K : Type*) where
  /-- The statistic that is compared. -/
  aggregation : Option String := none
  /-- The threshold as a share of the control value. -/
  percentageThreshold : Option K := none
  /-- The threshold as a multiple of the interquartile range. -/
  iqrThreshold : Option K := none
  absoluteThreshold : Option K := none
  /-- The least number of samples, if it is a number. -/
  minSampleCount : Option ℚ := none
  /-- Whether higher values are better, if the metric is classified. -/
  higherIsBetter : Option Bool := none
  /-- Whether differences are ignored. -/
  ignore : Option Bool := none
  deriving DecidableEq, Repr

/-- The configuration of a metric without one. -/
def DEFAULT_COMPARE_CONFIG {K : Type*} [Field K] : CompareConfig K where
  aggregation := some "median"
  percentageThreshold := some 0.15
  iqrThreshold := some 2
  ignore := some false

/-- The scope of a configuration. -/
structure CompareScope where
  systemUnderTestId : String
  testEnvironment : String
  workload : String
  deriving DecidableEq, Repr

/-- The scope of a run. -/
def TestRun.compareScope (run : TestRun) : CompareScope :=
  ⟨run.systemUnderTestId, run.testEnvironment, run.workload⟩

/-- A row of `ds_compare_config`. -/
structure CompareConfigRow (K : Type*) where
  systemUnderTestId : String
  /-- The environment, if it is not for all of them. -/
  testEnvironment : Option String
  workload : String
  applicationDashboardId : Option String
  panelId : Option ℤ
  metricName : Option String
  /-- The configuration. -/
  configData : CompareConfig K

/-- The keys of the map of configurations. A key is written as the dashboard, the
    panel and the metric, with a colon between them. -/
inductive CacheKey
  | metric (applicationDashboardId : String) (panelId : ℤ) (metricName : String)
  | panel (applicationDashboardId : String) (panelId : ℤ)
  | dashboard (applicationDashboardId : String)
  | global
  deriving DecidableEq, Repr

/-- A row of the temporary table. -/
structure TempConfig (K : Type*) where
  applicationDashboardId : String
  panelId : Option ℤ
  metricName : Option String
  /-- The configuration. -/
  configData : CompareConfig K

section

variable {K : Type*}

namespace CompareConfigRow

variable (row : CompareConfigRow K)

/-- How specific a row is, the most specific first. -/
def specificity : ℕ :=
  if row.metricName.isSome then 1
  else if row.panelId.isSome then 2
  else if row.applicationDashboardId.isSome then 3
  else if row.testEnvironment.isSome then 4
  else 5

/-- The key of a row, if it has one. An empty name and the panel zero count as absent. -/
def key : Option CacheKey :=
  match row.applicationDashboardId.filter (· ≠ ""), row.panelId.filter (· ≠ 0),
    row.metricName.filter (· ≠ "") with
  | some dashboard, some panel, some metric => some (.metric dashboard panel metric)
  | some dashboard, some panel, none => some (.panel dashboard panel)
  | some dashboard, none, _ => some (.dashboard dashboard)
  | none, none, _ => some .global
  | none, some _, _ => none

end CompareConfigRow

/-- The configurations of a scope by key, the first row of a key winning. -/
def fetchCompareConfigCache (rows : List (CompareConfigRow K)) (scope : CompareScope) :
    List (CacheKey × CompareConfig K) :=
  let result := rows.filter fun row => row.systemUnderTestId = scope.systemUnderTestId ∧
    (row.testEnvironment = some scope.testEnvironment ∨ row.testEnvironment = none ∨
      row.testEnvironment = some "") ∧ row.workload = scope.workload
  let sorted := result.insertionSort fun a b => a.specificity ≤ b.specificity
  sorted.foldl (fun cache row =>
    match row.key with
    | none => cache
    | some key =>
      if (cache.lookup key).isSome then cache else cache ++ [(key, row.configData)]) []

/-- The row that a key is inserted as. The key is split at its colons, so that only
    what stands before the first colon of a metric's name is inserted as its name. -/
def CacheKey.tempConfig (config : CompareConfig K) : CacheKey → Option (TempConfig K)
  | .metric dashboardId panelId metricName =>
    let name := String.ofList (metricName.toList.takeWhile (· ≠ ':'))
    some ⟨dashboardId, some panelId, if name = "" then none else some name, config⟩
  | .panel dashboardId panelId => some ⟨dashboardId, some panelId, none, config⟩
  | .dashboard dashboardId => some ⟨dashboardId, none, none, config⟩
  -- Taken to be handled elsewhere.
  | .global => none

/-- The temporary table of a scope. -/
def tempConfigCache (rows : List (CompareConfigRow K)) (scope : CompareScope) :
    List (TempConfig K) :=
  (fetchCompareConfigCache rows scope).filterMap fun entry => entry.1.tempConfig entry.2

variable [Field K]

/-- The configurations that a metric is joined with: at each level the rows of the
    metric, and of each combination the most specific one. There is no row for all
    dashboards to join with. -/
def resolve (rows : List (CompareConfigRow K)) (scope : CompareScope) (key : MetricKey) :
    List (CompareConfig K) :=
  let cache := tempConfigCache rows scope
  let ofDashboard := fun c : TempConfig K => c.applicationDashboardId = key.applicationDashboardId
  do
    let metric ← leftJoin cache fun c =>
      ofDashboard c ∧ c.panelId = some key.panelId ∧ c.metricName = some key.metricName
    let panel ← leftJoin cache fun c =>
      ofDashboard c ∧ c.panelId = some key.panelId ∧ c.metricName = none
    let dashboard ← leftJoin cache fun c =>
      ofDashboard c ∧ c.panelId = none ∧ c.metricName = none
    return (((metric.or panel).or dashboard).map TempConfig.configData).getD DEFAULT_COMPARE_CONFIG

/-- Every metric has a configuration. -/
theorem resolve_ne_nil (rows : List (CompareConfigRow K)) (scope : CompareScope)
    (key : MetricKey) : resolve rows scope key ≠ [] := by
  have hbind : ∀ {α β : Type _} (xs : List α) (f : α → List β), xs ≠ [] → (∀ x, f x ≠ []) →
      (xs >>= f) ≠ [] := by
    intro α β xs f hxs hf h
    rw [List.bind_eq_flatMap, List.flatMap_eq_nil_iff] at h
    obtain ⟨x, hx⟩ := List.exists_mem_of_ne_nil xs hxs
    exact hf x (h x hx)
  rw [resolve]
  exact hbind _ _ (leftJoin_ne_nil _ _) fun _ => hbind _ _ (leftJoin_ne_nil _ _) fun _ =>
    hbind _ _ (leftJoin_ne_nil _ _) fun _ => List.cons_ne_nil _ _

end

end Perfana
