import Mathlib.Algebra.BigOperators.Group.Finset.Basic
import Mathlib.Algebra.Order.BigOperators.Group.Finset
import Mathlib.Data.List.Sort
import Perfana.Checks.ApdexVerdict

/-!
# Transactions of several scenarios

The transactions of a workload are listed with their scenarios, and what is counted for one is
counted by its name alone, in all scenarios together. A transaction of two scenarios is judged
twice.

* `foldl_record_counts`: the totals of a workload are the sums over the list;
* `evaluateWorkload_iff`: each transaction is counted and judged once if and only if nothing is
  counted for those that are listed with several scenarios.
-/

namespace Perfana

namespace ApdexScenarios

variable {sketch : ExactSketch}

/-- A row of the rollup of a run. -/
structure RollupRow (sketch : ExactSketch) extends TransactionStats sketch where
  transactionName : Option String
  rampUpExcluded : Bool

/-- A sample of a run. -/
structure TransactionRow extends TransactionSample where
  transactionName : Option String

/-- What the database holds of a run, or answers. -/
structure WorkloadRun (sketch : ExactSketch) where
  rollup : List (RollupRow sketch)
  /-- The samples in the window of the run. -/
  transactions : List TransactionRow
  /-- The thresholds of transactions, which may be empty. -/
  transactionThresholds : List (String × Option ℚ)
  /-- Those of the workload. -/
  workloadThresholds : List (Option ℚ)
  /-- The statement for all transactions at once was answered. -/
  bulkAnswered : Bool
  /-- The samples of a transaction that are scored, or why they could not be read. -/
  scan : String → Except String (List TransactionSample)

/-- An Apdex requirement of a workload. -/
structure WorkloadBenchmark extends ApdexBenchmark where
  includeFailedRequests : Bool
  excludeRampUpTime : Bool

/-- The transactions of a run with their scenarios. -/
def getTransactionsWithScenarios (run : WorkloadRun sketch) : List (String × String) :=
  let order := fun a b : String × String => a.2 < b.2 ∨ a.2 = b.2 ∧ a.1 ≤ b.1
  let rollupResult := (run.rollup.filterMap fun row =>
    if row.rampUpExcluded then none
    else row.transactionName.map fun name =>
      (name, if row.scenarioName = "" then "default" else row.scenarioName)).dedup
  if rollupResult ≠ [] then rollupResult.insertionSort order
  else
    (run.transactions.filterMap fun row => row.transactionName.map fun name =>
      (name, row.scenarioName.getD "default")).dedup.insertionSort order

/-- The threshold of a transaction: its own, that of the requirement, that of the workload, or the
    default. -/
def resolveThreshold (benchmark : WorkloadBenchmark) (run : WorkloadRun sketch)
    (transactionName : String) : ℚ :=
  -- The last one that is not zero.
  let specific := (run.transactionThresholds.filter fun row =>
    row.1 = transactionName ∧ row.2.any (· ≠ 0)).getLast?.bind Prod.snd
  let workloadLevel := run.workloadThresholds.head?.bind fun threshold => threshold.filter (· ≠ 0)
  ((specific.or benchmark.apdexThresholdMs).or workloadLevel).getD 500

/-- What the rollup says of a transaction. -/
def rollupHit (benchmark : WorkloadBenchmark) (run : WorkloadRun sketch)
    (transactionName : String) : Option ApdexResult :=
  if run.bulkAnswered then
    calculateApdexFromRollup benchmark.includeFailedRequests
      ((run.rollup.filter fun row => row.transactionName = some transactionName ∧
        row.rampUpExcluded = benchmark.excludeRampUpTime).map RollupRow.toTransactionStats)
      (resolveThreshold benchmark run transactionName)
  else none

/-- The Apdex result of a transaction, or why it could not be calculated. -/
def apdexOf (benchmark : WorkloadBenchmark) (run : WorkloadRun sketch) (transactionName : String) :
    Except String ApdexResult :=
  match rollupHit benchmark run transactionName with
  | some hit => .ok hit
  | none => (run.scan transactionName).map fun samples =>
      calculateApdexRaw benchmark.includeFailedRequests samples
        (resolveThreshold benchmark run transactionName)

/-- The result of a requirement of a workload. -/
def evaluateWorkload (benchmark : WorkloadBenchmark) (run : WorkloadRun sketch) :
    ApdexCheckResult :=
  evaluateWorkloadLevelApdex benchmark.toApdexBenchmark
    ((getTransactionsWithScenarios run).map fun t =>
      { transactionName := t.1
        scenarioName := t.2
        thresholdMs := resolveThreshold benchmark run t.1
        apdex := apdexOf benchmark run t.1 })

/-! ## What is counted -/

/-- The names of the transactions, each once. -/
def names (run : WorkloadRun sketch) : List String :=
  ((getTransactionsWithScenarios run).map Prod.fst).dedup

/-- One of the counts of a transaction. -/
def counted (count : ApdexResult → ℕ) : Except String ApdexResult → ℕ
  | .ok r => count r
  | .error _ => 0

/-- The counts of a result. -/
def counts : List (ApdexResult → ℕ) :=
  [ApdexResult.satisfiedCount, ApdexResult.toleratingCount, ApdexResult.frustratedCount,
    ApdexResult.totalCount, ApdexResult.observedCount]

/-- A transaction has requests, and enough executions to be judged. -/
def isJudged (benchmark : ApdexBenchmark) : Except String ApdexResult → Bool
  | .ok r => 0 < r.totalCount ∧ benchmark.apdexMinSamples ≤ r.observedCount
  | .error _ => false

/-- The names of the transactions that were judged. -/
def judgedNames (result : ApdexCheckResult) : List String :=
  (result.transactionResults.filter fun t => t.meetsRequirement.isSome).map
    TransactionApdexResult.transactionName

/-- Each transaction is counted once, and judged once. -/
structure CountsOnce (benchmark : WorkloadBenchmark) (run : WorkloadRun sketch) : Prop where
  counted : ∀ count ∈ counts, count (evaluateWorkload benchmark run).apdexResult =
    ((names run).map fun name => counted count (apdexOf benchmark run name)).sum
  judged : (judgedNames (evaluateWorkload benchmark run)).Perm
    ((names run).filter fun name =>
      isJudged benchmark.toApdexBenchmark (apdexOf benchmark run name))

/-- Nothing is counted for a transaction. -/
def NothingCounted (apdex : Except String ApdexResult) : Prop :=
  ∀ count ∈ counts, counted count apdex = 0

/-- What the loop over the transactions counted. -/
def totalsResult (thresholdMs : ℚ) (totals : WorkloadTotals) : ApdexResult where
  satisfiedCount := totals.totalSatisfied
  toleratingCount := totals.totalTolerating
  frustratedCount := totals.totalFrustrated
  totalCount := totals.totalCount
  observedCount := totals.totalObserved
  thresholdMs := thresholdMs
  avgResponseTimeMs := none

/-- The names that the loop judged. -/
def judgedOf (totals : WorkloadTotals) : List String :=
  (totals.transactionResults.filter fun t => t.meetsRequirement.isSome).map
    TransactionApdexResult.transactionName

variable {benchmark : ApdexBenchmark} {count : ApdexResult → ℕ} {thresholdMs : ℚ}

theorem record_counts (hcount : count ∈ counts) (totals : WorkloadTotals)
    (t : WorkloadTransaction) :
    count (totalsResult thresholdMs (record benchmark totals t)) =
      count (totalsResult thresholdMs totals) + counted count t.apdex := by
  obtain ⟨name, scenario, threshold, apdex⟩ := t
  simp only [counts, List.mem_cons, List.not_mem_nil, or_false] at hcount
  cases apdex with
  | error e => rcases hcount with rfl | rfl | rfl | rfl | rfl <;> rfl
  | ok r => rcases hcount with rfl | rfl | rfl | rfl | rfl <;> rfl

theorem record_judged (totals : WorkloadTotals) (t : WorkloadTransaction) :
    judgedOf (record benchmark totals t) =
      judgedOf totals ++ if isJudged benchmark t.apdex then [t.transactionName] else [] := by
  obtain ⟨name, scenario, threshold, apdex⟩ := t
  cases apdex with
  | error e =>
    rw [judgedOf, record, List.filter_append, List.map_append]
    rfl
  | ok r =>
    rw [judgedOf, record, List.filter_append, List.map_append, isJudged]
    dsimp only
    congr 1
    by_cases hpos : 0 < r.totalCount
    · by_cases hmin : benchmark.apdexMinSamples ≤ r.observedCount
      · simp [hpos, hmin]
      · simp [hpos, hmin, not_le.1 hmin]
    · simp [hpos]

/-- The totals of a workload are the sums over the list of its transactions. -/
theorem foldl_record_counts (ts : List WorkloadTransaction) (totals : WorkloadTotals) :
    (∀ count ∈ counts, count (totalsResult thresholdMs (ts.foldl (record benchmark) totals)) =
        count (totalsResult thresholdMs totals) +
          (ts.map fun t => counted count t.apdex).sum) ∧
      judgedOf (ts.foldl (record benchmark) totals) = judgedOf totals ++
        (ts.filter fun t => isJudged benchmark t.apdex).map
          WorkloadTransaction.transactionName := by
  induction ts generalizing totals with
  | nil => exact ⟨fun _ _ => rfl, (List.append_nil _).symm⟩
  | cons t ts ih =>
    obtain ⟨hcounts, hjudged⟩ := ih (record benchmark totals t)
    rw [List.foldl_cons]
    constructor
    · intro count hcount
      rw [hcounts count hcount, record_counts hcount, List.map_cons, List.sum_cons, Nat.add_assoc]
    · rw [hjudged, record_judged, List.append_assoc, List.filter_cons]
      split_ifs <;> rfl

/-! ## Once -/

/-- A sum over a list is that over its elements, each once, if and only if those that occur several
    times count nothing. -/
theorem sum_dedup_iff (l : List String) (f : String → ℕ) :
    (l.map f).sum = (l.dedup.map f).sum ↔ ∀ a, 1 < l.count a → f a = 0 := by
  have hlist : (l.map f).sum = ∑ a ∈ l.toFinset, l.count a * f a := by
    simpa using Finset.sum_list_map_count l f
  have hdedup : (l.dedup.map f).sum = ∑ a ∈ l.toFinset, f a := by
    have hsame : l.dedup.toFinset = l.toFinset := by
      ext a
      rw [List.mem_toFinset, List.mem_toFinset, List.mem_dedup]
    rw [← List.sum_toFinset f (List.nodup_dedup l), hsame]
  have hle : ∀ a ∈ l.toFinset, f a ≤ l.count a * f a := fun a ha =>
    Nat.le_mul_of_pos_left _ (List.count_pos_iff.2 (List.mem_toFinset.1 ha))
  rw [hlist, hdedup, eq_comm, Finset.sum_eq_sum_iff_of_le hle]
  constructor
  · intro h a ha
    have hmem : a ∈ l.toFinset :=
      List.mem_toFinset.2 (List.count_pos_iff.1 (Nat.zero_lt_one.trans ha))
    have heq := h a hmem
    by_contra hne
    have hlt : 1 * f a < l.count a * f a := Nat.mul_lt_mul_of_pos_right ha (Nat.pos_of_ne_zero hne)
    rw [Nat.one_mul, ← heq] at hlt
    exact lt_irrefl _ hlt
  · intro h a ha
    have hpos := List.count_pos_iff.2 (List.mem_toFinset.1 ha)
    rcases Nat.lt_or_ge 1 (l.count a) with hseveral | hone
    · rw [h a hseveral, Nat.mul_zero]
    · rw [Nat.le_antisymm hone hpos, Nat.one_mul]

variable {benchmark : WorkloadBenchmark} {run : WorkloadRun sketch}

theorem count_empty (hcount : count ∈ counts) : count (emptyApdexResult thresholdMs) = 0 := by
  simp only [counts, List.mem_cons, List.not_mem_nil, or_false] at hcount
  rcases hcount with rfl | rfl | rfl | rfl | rfl <;> rfl

/-- The counts of a workload are the sums over its list, and the judged names are those of the
    list. -/
theorem evaluateWorkload_eq :
    (∀ count ∈ counts, count (evaluateWorkload benchmark run).apdexResult =
      (((getTransactionsWithScenarios run).map Prod.fst).map fun name =>
        counted count (apdexOf benchmark run name)).sum) ∧
    judgedNames (evaluateWorkload benchmark run) =
      ((getTransactionsWithScenarios run).map Prod.fst).filter fun name =>
        isJudged benchmark.toApdexBenchmark (apdexOf benchmark run name) := by
  rw [evaluateWorkload, evaluateWorkloadLevelApdex]
  by_cases hnil : getTransactionsWithScenarios run = []
  · rw [hnil, if_pos List.map_nil]
    exact ⟨fun count hcount => count_empty hcount, rfl⟩
  · rw [if_neg fun h => hnil (List.map_eq_nil_iff.1 h)]
    obtain ⟨hcounts, hjudged⟩ := @foldl_record_counts benchmark.toApdexBenchmark
      (reportedThreshold benchmark.toApdexBenchmark)
      ((getTransactionsWithScenarios run).map fun t =>
        { transactionName := t.1, scenarioName := t.2
          thresholdMs := resolveThreshold benchmark run t.1
          apdex := apdexOf benchmark run t.1 }) {}
    constructor
    · intro count hcount
      have hsum := hcounts count hcount
      have hzero : count (totalsResult (reportedThreshold benchmark.toApdexBenchmark) {}) = 0 :=
        count_empty hcount
      rw [hzero, Nat.zero_add, List.map_map] at hsum
      rw [List.map_map]
      exact hsum
    · refine hjudged.trans ?_
      rw [List.filter_map, List.filter_map, List.map_map]
      rfl

/-- The names of the transactions are those of the list, each once. -/
theorem judged_perm_iff (names : List String) (judged : String → Bool) :
    (names.filter judged).Perm (names.dedup.filter judged) ↔
      ∀ name, 1 < names.count name → judged name = false := by
  constructor
  · intro hperm name hseveral
    by_contra htrue
    have hjudged : judged name = true := (Bool.not_eq_false _).mp htrue
    have hcount := hperm.count_eq name
    rw [List.count_filter hjudged, List.count_filter hjudged] at hcount
    have hone := List.nodup_iff_count_le_one.1 (List.nodup_dedup names) name
    omega
  · intro h
    rw [List.perm_iff_count]
    intro name
    cases hjudged : judged name with
    | false =>
      have hnot : ∀ l : List String, (l.filter judged).count name = 0 := fun l =>
        List.count_eq_zero.2 fun hmem => by
          rw [(List.mem_filter.1 hmem).2] at hjudged
          cases hjudged
      rw [hnot, hnot]
    | true =>
      rw [List.count_filter hjudged, List.count_filter hjudged, List.count_dedup]
      have hle : names.count name ≤ 1 := by
        by_contra hlt
        rw [h name (not_le.1 hlt)] at hjudged
        cases hjudged
      split_ifs with hmem
      · exact Nat.le_antisymm hle (List.count_pos_iff.2 hmem)
      · exact List.count_eq_zero.2 hmem

/-- A transaction for which nothing is counted is not judged. -/
theorem NothingCounted.isJudged {apdex : Except String ApdexResult} (h : NothingCounted apdex)
    (benchmark : ApdexBenchmark) : isJudged benchmark apdex = false := by
  cases apdex with
  | error e => rfl
  | ok r =>
    have hzero : r.totalCount = 0 := h ApdexResult.totalCount (by simp [counts])
    simp [ApdexScenarios.isJudged, hzero]

/-- Each transaction is counted once and judged once if and only if nothing is counted for those
    that are listed with several scenarios. -/
theorem evaluateWorkload_iff (benchmark : WorkloadBenchmark) (run : WorkloadRun sketch) :
    CountsOnce benchmark run ↔
      ∀ name, 1 < ((getTransactionsWithScenarios run).map Prod.fst).count name →
        NothingCounted (apdexOf benchmark run name) := by
  obtain ⟨hcounts, hjudged⟩ := @evaluateWorkload_eq sketch benchmark run
  constructor
  · intro h name hseveral count hcount
    have hsum := h.counted count hcount
    rw [hcounts count hcount] at hsum
    exact (sum_dedup_iff _ _).1 hsum name hseveral
  · intro h
    refine ⟨fun count hcount => ?_, ?_⟩
    · rw [hcounts count hcount]
      exact (sum_dedup_iff _ _).2 fun name hseveral => h name hseveral count hcount
    · rw [hjudged]
      exact (judged_perm_iff _ _).2 fun name hseveral => (h name hseveral).isJudged _

/-- A login that was executed once in each of two scenarios. -/
def loginTwice : WorkloadRun listSketch where
  rollup := []
  transactions := [⟨⟨some "browse", true, some 100⟩, some "login"⟩,
    ⟨⟨some "buy", true, some 100⟩, some "login"⟩]
  transactionThresholds := []
  workloadThresholds := []
  bulkAnswered := true
  scan := fun _ => .ok [⟨some "browse", true, some 100⟩, ⟨some "buy", true, some 100⟩]

/-- Two executions of one transaction are counted as four, and it is judged twice. -/
theorem loginTwice_counts :
    (evaluateWorkload ⟨⟨some 500, 3 / 4, 1⟩, false, false⟩ loginTwice).apdexResult.totalCount = 4 ∧
      counted ApdexResult.totalCount
        (apdexOf ⟨⟨some 500, 3 / 4, 1⟩, false, false⟩ loginTwice "login") = 2 ∧
      judgedNames (evaluateWorkload ⟨⟨some 500, 3 / 4, 1⟩, false, false⟩ loginTwice) =
        ["login", "login"] := by
  decide +kernel

end ApdexScenarios

end Perfana
