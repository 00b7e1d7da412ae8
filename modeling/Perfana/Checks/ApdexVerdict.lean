import Perfana.Checks.Apdex
import Perfana.Checks.Pipeline

/-!
# Apdex verdicts

An Apdex requirement asks for a least score, of one transaction or of every
transaction of a workload. A transaction without requests has no score, one with
too few executions is reported but not judged, and one whose samples cannot be
read is an error.

* `foldl_record`: what the loop over the transactions of a workload accumulates;
* `evaluateWorkloadLevelApdex_verdict`: the verdict of a workload is that of its
  scored transactions, if it has any.
-/

namespace Perfana

/-- An Apdex requirement. -/
structure ApdexBenchmark where
  /-- The threshold of the requirement, if it has one. -/
  apdexThresholdMs : Option ℚ
  /-- The least score. -/
  minApdexScore : ℚ
  /-- The least number of executions of a transaction that is judged. -/
  apdexMinSamples : ℕ
  deriving DecidableEq, Repr

/-- A transaction of a workload. -/
structure WorkloadTransaction where
  transactionName : String
  scenarioName : String
  /-- The threshold it is held to. -/
  thresholdMs : ℚ
  /-- Its Apdex result, or why it could not be calculated. -/
  apdex : Except String ApdexResult

/-- How a transaction of a workload was judged. -/
structure TransactionApdexResult where
  transactionName : String
  scenarioName : String
  apdexScore : Option ℚ
  /-- The threshold it is held to. -/
  thresholdMs : ℚ
  /-- Whether it meets the requirement; none if it was not judged. -/
  meetsRequirement : Option Bool
  /-- It has requests, but too few executions. -/
  belowMinSamples : Bool
  deriving DecidableEq, Repr

/-- The result of an Apdex requirement. -/
structure ApdexCheckResult where
  /-- Whether the requirement is met; none if it was not judged. -/
  meetsRequirement : Option Bool
  /-- How the evaluation went. -/
  status : CheckStatus
  /-- Nothing was judged for lack of executions. -/
  belowMinSamples : Bool
  /-- The Apdex result, that of all transactions for a workload. -/
  apdexResult : ApdexResult
  /-- How the transactions of a workload were judged. -/
  transactionResults : List TransactionApdexResult
  deriving DecidableEq, Repr

/-- A score meets the requirement. -/
def meetsMinimum (benchmark : ApdexBenchmark) (r : ApdexResult) : Bool :=
  r.apdexScore.any fun score => benchmark.minApdexScore ≤ score

/-- The result without any counts. -/
def emptyApdexResult (thresholdMs : ℚ) : ApdexResult :=
  ⟨0, 0, 0, 0, 0, thresholdMs, none⟩

/-- The threshold that is reported for a benchmark. -/
def reportedThreshold (benchmark : ApdexBenchmark) : ℚ :=
  match benchmark.apdexThresholdMs with
  | some thresholdMs => if thresholdMs = 0 then 500 else thresholdMs
  | none => 500

/-- The result of a transaction held to the requirement on its own. -/
def evaluateSingleTransaction (benchmark : ApdexBenchmark) (apdex : Except String ApdexResult) :
    ApdexCheckResult :=
  match apdex with
  | .error _ =>
    { meetsRequirement := none, status := .ERROR, belowMinSamples := false
      apdexResult := emptyApdexResult (reportedThreshold benchmark), transactionResults := [] }
  | .ok r =>
    if r.totalCount = 0 then
      { meetsRequirement := some false, status := .NO_DATA, belowMinSamples := false
        apdexResult := r, transactionResults := [] }
    else if r.observedCount < benchmark.apdexMinSamples then
      { meetsRequirement := none, status := .COMPLETE, belowMinSamples := true
        apdexResult := r, transactionResults := [] }
    else
      { meetsRequirement := some (meetsMinimum benchmark r), status := .COMPLETE
        belowMinSamples := false, apdexResult := r, transactionResults := [] }

/-! ## The loop over the transactions -/

/-- What the loop over the transactions of a workload accumulates. -/
structure WorkloadTotals where
  /-- No transaction failed so far. -/
  allPass : Bool := true
  /-- Some transaction could not be evaluated. -/
  anyError : Bool := false
  /-- The counts of all transactions, category by category. -/
  totalSatisfied : ℕ := 0
  totalTolerating : ℕ := 0
  totalFrustrated : ℕ := 0
  /-- The number of executions that are scored. -/
  totalCount : ℕ := 0
  /-- The number of all executions. -/
  totalObserved : ℕ := 0
  failedTransactions : List String := []
  /-- Those with too few executions. -/
  belowMinSamplesTransactions : List String := []
  /-- How the transactions were judged. -/
  transactionResults : List TransactionApdexResult := []
  deriving DecidableEq, Repr

/-- A transaction of the workload is recorded. -/
def record (benchmark : ApdexBenchmark) (totals : WorkloadTotals) (t : WorkloadTransaction) :
    WorkloadTotals :=
  match t.apdex with
  | .error _ =>
    { totals with
      anyError := true
      transactionResults := totals.transactionResults ++
        [⟨t.transactionName, t.scenarioName, none, reportedThreshold benchmark, none, false⟩] }
  | .ok r =>
    let meetsReq := meetsMinimum benchmark r
    let belowMinSamples : Bool := 0 < r.totalCount ∧ r.observedCount < benchmark.apdexMinSamples
    let evaluated : Bool := 0 < r.totalCount ∧ !belowMinSamples
    let failed : Bool := !belowMinSamples && evaluated && !meetsReq
    { totals with
      allPass := totals.allPass && !failed
      totalSatisfied := totals.totalSatisfied + r.satisfiedCount
      totalTolerating := totals.totalTolerating + r.toleratingCount
      totalFrustrated := totals.totalFrustrated + r.frustratedCount
      totalCount := totals.totalCount + r.totalCount
      totalObserved := totals.totalObserved + r.observedCount
      failedTransactions :=
        totals.failedTransactions ++ if failed then [t.transactionName] else []
      belowMinSamplesTransactions :=
        totals.belowMinSamplesTransactions ++ if belowMinSamples then [t.transactionName] else []
      transactionResults := totals.transactionResults ++
        [⟨t.transactionName, t.scenarioName, r.apdexScore, t.thresholdMs,
          if evaluated then some meetsReq else none, belowMinSamples⟩] }

/-- The result of a workload held to the requirement. -/
def evaluateWorkloadLevelApdex (benchmark : ApdexBenchmark)
    (transactions : List WorkloadTransaction) : ApdexCheckResult :=
  if transactions = [] then
    { meetsRequirement := some false, status := .NO_DATA, belowMinSamples := false
      apdexResult := emptyApdexResult (reportedThreshold benchmark), transactionResults := [] }
  else
    let totals := transactions.foldl (record benchmark) {}
    let belowMin := totals.belowMinSamplesTransactions.length
    let nothingEvaluated : Bool := 0 < belowMin ∧ transactions.length ≤ belowMin
    { meetsRequirement :=
        if 0 < totals.totalCount then
          if nothingEvaluated then none else some totals.allPass
        else some false
      status :=
        if totals.anyError then .ERROR
        else if totals.totalCount = 0 then .NO_DATA
        else .COMPLETE
      belowMinSamples := nothingEvaluated
      apdexResult :=
        { satisfiedCount := totals.totalSatisfied
          toleratingCount := totals.totalTolerating
          frustratedCount := totals.totalFrustrated
          totalCount := totals.totalCount
          observedCount := totals.totalObserved
          thresholdMs := reportedThreshold benchmark
          avgResponseTimeMs := none }
      transactionResults := totals.transactionResults }

/-! ## Kinds of transactions -/

namespace WorkloadTransaction

variable (benchmark : ApdexBenchmark) (t : WorkloadTransaction)

/-- The number of executions that are scored; zero for an error. -/
def requests : ℕ :=
  match t.apdex with
  | .error _ => 0
  | .ok r => r.totalCount

/-- The transaction could not be evaluated. -/
def errored : Bool :=
  match t.apdex with
  | .error _ => true
  | .ok _ => false

/-- The transaction has requests, but too few executions. -/
def belowMinSamples : Bool :=
  match t.apdex with
  | .error _ => false
  | .ok r => 0 < r.totalCount ∧ r.observedCount < benchmark.apdexMinSamples

/-- The transaction is scored against the minimum. -/
def Scored : Prop := 0 < t.requests ∧ t.belowMinSamples benchmark = false

instance : Decidable (t.Scored benchmark) := inferInstanceAs (Decidable (_ ∧ _))

/-- What the requirement would say of the transaction on its own. -/
def verdict : Option Bool := (evaluateSingleTransaction benchmark t.apdex).meetsRequirement

/-- The transaction has requests, and fails the requirement on its own. -/
def failing : Bool := 0 < t.requests ∧ t.verdict benchmark = some false

variable {benchmark t}

theorem failing_iff : t.failing benchmark = true ↔
    0 < t.requests ∧ t.verdict benchmark = some false :=
  decide_eq_true_iff

theorem requests_of_belowMinSamples (h : t.belowMinSamples benchmark = true) :
    0 < t.requests := by
  obtain ⟨name, scenario, thresholdMs, apdex⟩ := t
  cases apdex with
  | error e => cases h
  | ok r => exact (decide_eq_true_iff.1 h).1

theorem verdict_ok (name scenario : String) (thresholdMs : ℚ) (r : ApdexResult) :
    verdict benchmark ⟨name, scenario, thresholdMs, .ok r⟩ =
      if r.totalCount = 0 then some false
      else if r.observedCount < benchmark.apdexMinSamples then none
      else some (meetsMinimum benchmark r) := by
  simp only [verdict, evaluateSingleTransaction]
  split_ifs <;> rfl

end WorkloadTransaction

/-- What the loop adds for a transaction. -/
theorem record_eq (benchmark : ApdexBenchmark) (totals : WorkloadTotals)
    (t : WorkloadTransaction) :
    (record benchmark totals t).allPass = (totals.allPass && !t.failing benchmark) ∧
      (record benchmark totals t).anyError = (totals.anyError || t.errored) ∧
      (record benchmark totals t).totalCount = totals.totalCount + t.requests ∧
      (record benchmark totals t).belowMinSamplesTransactions.length =
        totals.belowMinSamplesTransactions.length +
          if t.belowMinSamples benchmark then 1 else 0 := by
  obtain ⟨name, scenario, thresholdMs, apdex⟩ := t
  cases apdex with
  | error e =>
    simp [record, WorkloadTransaction.failing, WorkloadTransaction.errored,
      WorkloadTransaction.requests, WorkloadTransaction.belowMinSamples]
  | ok r =>
    refine ⟨?_, ?_, rfl, ?_⟩
    · rw [record, WorkloadTransaction.failing, WorkloadTransaction.verdict_ok]
      dsimp only [WorkloadTransaction.requests]
      by_cases hzero : r.totalCount = 0
      · simp [hzero]
      · have hpos : 0 < r.totalCount := Nat.pos_of_ne_zero hzero
        by_cases hbelow : r.observedCount < benchmark.apdexMinSamples
        · simp [hzero, hpos, hbelow]
        · simp [hzero, hpos, hbelow]
    · simp [record, WorkloadTransaction.errored]
    · rw [record, WorkloadTransaction.belowMinSamples]
      dsimp only
      split_ifs <;> simp_all

/-- What the loop over the transactions accumulates. -/
theorem foldl_record (benchmark : ApdexBenchmark) (ts : List WorkloadTransaction)
    (totals : WorkloadTotals) :
    (ts.foldl (record benchmark) totals).allPass =
        (totals.allPass && ts.all fun t => !t.failing benchmark) ∧
      (ts.foldl (record benchmark) totals).anyError =
        (totals.anyError || ts.any WorkloadTransaction.errored) ∧
      (ts.foldl (record benchmark) totals).totalCount =
        totals.totalCount + (ts.map WorkloadTransaction.requests).sum ∧
      (ts.foldl (record benchmark) totals).belowMinSamplesTransactions.length =
        totals.belowMinSamplesTransactions.length +
          ts.countP fun t => t.belowMinSamples benchmark := by
  induction ts generalizing totals with
  | nil => simp
  | cons t ts ih =>
    obtain ⟨hpass, herror, hcount, hbelow⟩ := ih (record benchmark totals t)
    obtain ⟨hpass', herror', hcount', hbelow'⟩ := record_eq benchmark totals t
    rw [List.foldl_cons, hpass, herror, hcount, hbelow, hpass', herror', hcount', hbelow']
    refine ⟨?_, ?_, ?_, ?_⟩
    · rw [List.all_cons, Bool.and_assoc]
    · rw [List.any_cons, Bool.or_assoc]
    · rw [List.map_cons, List.sum_cons, Nat.add_assoc]
    · rw [List.countP_cons]
      omega

/-! ## The verdict of a workload -/

/-- The result of a workload that has transactions. -/
theorem evaluateWorkloadLevelApdex_of_ne_nil (benchmark : ApdexBenchmark)
    {ts : List WorkloadTransaction} (hne : ts ≠ []) :
    (evaluateWorkloadLevelApdex benchmark ts).meetsRequirement =
        (if 0 < (ts.map WorkloadTransaction.requests).sum then
          if ∀ t ∈ ts, t.belowMinSamples benchmark = true then none
          else some (ts.all fun t => !t.failing benchmark)
        else some false) ∧
      ((evaluateWorkloadLevelApdex benchmark ts).status = .ERROR ↔
        ∃ t ∈ ts, t.errored = true) := by
  obtain ⟨hpass, herror, hcount, hbelow⟩ := foldl_record benchmark ts {}
  rw [evaluateWorkloadLevelApdex, if_neg hne]
  dsimp only
  rw [hpass, herror, hcount, hbelow]
  have hall : (0 < ts.countP (fun t => t.belowMinSamples benchmark) ∧
      ts.length ≤ ts.countP fun t => t.belowMinSamples benchmark) ↔
        ∀ t ∈ ts, t.belowMinSamples benchmark = true := by
    rw [← List.countP_eq_length]
    exact ⟨fun h => List.countP_le_length.antisymm h.2,
      fun h => ⟨h ▸ List.length_pos_iff.2 hne, h.ge⟩⟩
  constructor
  · simp only [Nat.zero_add, Bool.true_and, List.length_nil, decide_eq_true_eq, hall]
  · simp only [Nat.zero_add, Bool.false_or, List.any_eq_true]
    split_ifs with herrored hzero <;> simp [herrored]

/-- The verdict of a workload: that of its scored transactions, if it has any. -/
structure WorkloadVerdict (benchmark : ApdexBenchmark) (ts : List WorkloadTransaction)
    (result : ApdexCheckResult) : Prop where
  /-- If a transaction is scored, the verdict is that no transaction with requests
      fails the requirement on its own. -/
  scored : (∃ t ∈ ts, t.Scored benchmark) → result.meetsRequirement =
    some (decide (∀ t ∈ ts, 0 < t.requests → t.verdict benchmark ≠ some false))
  /-- It is false if some scored transaction fails. -/
  failing : (∃ t ∈ ts, t.Scored benchmark ∧ t.verdict benchmark = some false) →
    result.meetsRequirement = some false
  /-- It is false if no transaction has requests. -/
  noRequests : (∀ t ∈ ts, t.requests = 0) → result.meetsRequirement = some false
  /-- It is open if every transaction has requests, but too few executions. -/
  tooFew : ts ≠ [] → (∀ t ∈ ts, t.belowMinSamples benchmark = true) →
    result.meetsRequirement = none
  /-- It is open only if no transaction is scored. -/
  undecided : result.meetsRequirement = none → ∀ t ∈ ts, ¬t.Scored benchmark
  /-- A transaction that could not be evaluated makes it an error. -/
  error : result.status = .ERROR ↔ ∃ t ∈ ts, t.errored = true

/-- The verdict of a workload is that of its scored transactions, if it has any. -/
theorem evaluateWorkloadLevelApdex_verdict (benchmark : ApdexBenchmark)
    (ts : List WorkloadTransaction) :
    WorkloadVerdict benchmark ts (evaluateWorkloadLevelApdex benchmark ts) := by
  rcases eq_or_ne ts [] with rfl | hne
  · constructor <;> simp [evaluateWorkloadLevelApdex]
  obtain ⟨hverdict, herror⟩ := evaluateWorkloadLevelApdex_of_ne_nil benchmark hne
  have hscored : (∃ t ∈ ts, t.Scored benchmark) →
      (evaluateWorkloadLevelApdex benchmark ts).meetsRequirement =
        some (ts.all fun t => !t.failing benchmark) := by
    rintro ⟨t, ht, hpos, hbelow⟩
    have hsum : 0 < (ts.map WorkloadTransaction.requests).sum :=
      hpos.trans_le (List.le_sum_of_mem (List.mem_map_of_mem ht))
    have hsome : ¬∀ t ∈ ts, t.belowMinSamples benchmark = true := fun h => by
      simp [h t ht] at hbelow
    rw [hverdict, if_pos hsum, if_neg hsome]
  refine ⟨fun h => ?_, ?_, fun h => ?_, fun _ h => ?_, fun h => ?_, herror⟩
  · rw [hscored h, Option.some_inj, Bool.eq_iff_iff, List.all_eq_true, decide_eq_true_iff]
    refine forall₂_congr fun t _ => ?_
    rw [Bool.not_eq_true', ← Bool.not_eq_true, WorkloadTransaction.failing_iff, not_and]
  · rintro ⟨t, ht, htscored, htverdict⟩
    rw [hscored ⟨t, ht, htscored⟩, Option.some_inj, List.all_eq_false]
    refine ⟨t, ht, ?_⟩
    rw [WorkloadTransaction.failing_iff.2 ⟨htscored.1, htverdict⟩]
    exact Bool.false_ne_true
  · have hsum : ¬0 < (ts.map WorkloadTransaction.requests).sum := by
      rw [not_lt, Nat.le_zero, List.sum_eq_zero_iff, List.forall_mem_map]
      exact h
    rw [hverdict, if_neg hsum]
  · obtain ⟨t, ht⟩ := List.exists_mem_of_ne_nil _ hne
    have hpos := WorkloadTransaction.requests_of_belowMinSamples (h t ht)
    have hsum : 0 < (ts.map WorkloadTransaction.requests).sum :=
      hpos.trans_le (List.le_sum_of_mem (List.mem_map_of_mem ht))
    rw [hverdict, if_pos hsum, if_pos h]
  · intro t ht htscored
    rw [hscored ⟨t, ht, htscored⟩] at h
    cases h

/-- The requirement of a score of 0.75 over 50 executions. -/
def threeQuarters : ApdexBenchmark := ⟨some 500, 3 / 4, 50⟩

/-- A transaction that passes, and one without requests. -/
def loginAndEmpty : List WorkloadTransaction :=
  [⟨"login", "default", 500, .ok ⟨100, 0, 0, 100, 100, 500, some 200⟩⟩,
    ⟨"empty", "default", 500, .ok ⟨0, 0, 0, 0, 0, 500, none⟩⟩]

/-- The workload passes although one transaction fails on its own. -/
theorem workload_passes_without_requests :
    (evaluateWorkloadLevelApdex threeQuarters loginAndEmpty).meetsRequirement = some true ∧
      ∃ t ∈ loginAndEmpty, t.verdict threeQuarters = some false := by
  decide +kernel

end Perfana
