import Mathlib.Data.Rat.Floor
import Perfana.Lib.Aggregate

/-!
# Apdex scores

The Apdex score of a transaction is the fraction of its executions that satisfy a
threshold, those up to four times the threshold counting half. It is computed from
a scan of the samples, or from the rows of a rollup, one for each scenario, that
hold counts, a mean rounded to two decimals and sketches of the durations.

* `calculateApdexFromRollup_counts`: from exact sketches, the rollup gives the
  counts of the scan if every sample that is scored has a duration.
-/

namespace Perfana

/-- An execution of a transaction. -/
structure TransactionSample where
  scenarioName : Option String
  /-- Whether it succeeded. -/
  success : Bool
  /-- The duration in milliseconds, if it was measured. -/
  responseTime : Option ℕ
  deriving DecidableEq, Repr

/-- The Apdex result of a transaction. -/
structure ApdexResult where
  /-- The number of executions within the threshold. -/
  satisfiedCount : ℕ
  /-- The number of those over it, within four times the threshold. -/
  toleratingCount : ℕ
  /-- The number of the others. -/
  frustratedCount : ℕ
  /-- The number of executions that are scored. -/
  totalCount : ℕ
  /-- The number of all executions. -/
  observedCount : ℕ
  /-- The threshold in milliseconds. -/
  thresholdMs : ℚ
  /-- The mean duration, if there is one. -/
  avgResponseTimeMs : Option ℚ
  deriving DecidableEq, Repr

/-- A number rounded to a multiple of `1 / scale`, ties up. -/
def roundTo (scale : ℕ) (x : ℚ) : ℚ := ⌊x * scale + 1 / 2⌋ / scale

/-- The score of some counts, if there are any. -/
def scoreOf (satisfied tolerating total : ℕ) : Option ℚ :=
  if 0 < total then some (roundTo 1000 ((satisfied + tolerating * (1 / 2)) / total)) else none

/-- The score of a transaction, if it has samples that are scored. -/
def ApdexResult.apdexScore (r : ApdexResult) : Option ℚ :=
  scoreOf r.satisfiedCount r.toleratingCount r.totalCount

/-! ## The scan of the samples -/

section Raw

variable (includeFailedRequests : Bool) (samples : List TransactionSample)

/-- The sample feeds the score. -/
def scored (s : TransactionSample) : Bool :=
  s.responseTime.isSome && (includeFailedRequests || s.success)

/-- The durations of the samples that are scored. -/
def scoredTimes : List ℚ :=
  (samples.filter (scored includeFailedRequests)).filterMap fun s => s.responseTime.map Nat.cast

/-- The Apdex result of a scan of the samples. -/
def calculateApdexRaw (thresholdMs : ℚ) : ApdexResult :=
  let toleratingThreshold := thresholdMs * 4
  let times := scoredTimes includeFailedRequests samples
  { satisfiedCount := times.countP fun t => t ≤ thresholdMs
    toleratingCount := times.countP fun t => thresholdMs < t ∧ t ≤ toleratingThreshold
    frustratedCount := times.countP fun t => toleratingThreshold < t
    totalCount := times.length
    observedCount := samples.length
    thresholdMs
    avgResponseTimeMs := (Aggregate.avg times).map (roundTo 100) }

end Raw

/-! ## The rollup -/

/-- Sketches of durations with exact ranks. -/
structure ExactSketch where
  /-- The sketches. -/
  Digest : Type
  /-- The sketch of some durations. -/
  tdigest : List ℚ → Digest
  /-- Several sketches as one. -/
  rollup : List Digest → Digest
  /-- The rank of a duration in a sketch; none if it is not a number. -/
  approxPercentileRank : ℚ → Digest → Option ℚ
  /-- The rank is the fraction of the durations that are not greater. -/
  exact : ∀ (parts : List (List ℚ)) (x : ℚ), parts.flatten ≠ [] →
    approxPercentileRank x (rollup (parts.map tdigest)) =
      some ((parts.flatten.countP (· ≤ x) : ℚ) / parts.flatten.length)

section Rollup

variable (sketch : ExactSketch)

/-- A row of the rollup: a transaction in a scenario. -/
structure TransactionStats where
  /-- The scenario; empty for none. -/
  scenarioName : String
  /-- The number of executions. -/
  totalCount : ℕ
  /-- The number of those that succeeded. -/
  passedCount : ℕ
  /-- The mean duration. -/
  avgResponseTime : Option ℚ
  /-- The sketch of the durations. -/
  pctAgg : sketch.Digest
  /-- That of the executions that succeeded, if there are any. -/
  pctAggPassed : Option sketch.Digest

/-- The row of a scenario. -/
def statsRow (scenarioName : String) (group : List TransactionSample) :
    TransactionStats sketch where
  scenarioName
  totalCount := group.length
  passedCount := group.countP TransactionSample.success
  avgResponseTime := (Aggregate.avg (scoredTimes true group)).map (roundTo 100)
  pctAgg := sketch.tdigest (scoredTimes true group)
  pctAggPassed :=
    if scoredTimes false group = [] then none else some (sketch.tdigest (scoredTimes false group))

/-- The scenarios of some samples. -/
def scenarios (samples : List TransactionSample) : List String :=
  (samples.map fun s => s.scenarioName.getD "").dedup

/-- The samples of a scenario. -/
def ofScenario (samples : List TransactionSample) (scenarioName : String) :
    List TransactionSample :=
  samples.filter fun s => s.scenarioName.getD "" = scenarioName

/-- The rows of the rollup of some samples. A scenario without a duration has no
    sketch, which fails the rollup, and leaves it without rows. -/
def transactionRollup (samples : List TransactionSample) : List (TransactionStats sketch) :=
  if ∀ name ∈ scenarios samples, scoredTimes true (ofScenario samples name) ≠ [] then
    (scenarios samples).map fun name => statsRow sketch name (ofScenario samples name)
  else []

variable {sketch}

/-- The Apdex result of the rows of a rollup, if they have one. -/
def calculateApdexFromRollup (includeFailedRequests : Bool)
    (rows : List (TransactionStats sketch)) (thresholdMs : ℚ) : Option ApdexResult :=
  let effectiveTotal :=
    (rows.map fun s => if includeFailedRequests then s.totalCount else s.passedCount).sum
  let sumTotalCount := (rows.map TransactionStats.totalCount).sum
  let hasPassedSketch := rows.all fun s => s.pctAggPassed.isSome
  let sumAvgXTotal := Aggregate.sum (rows.filterMap fun s =>
    s.avgResponseTime.map fun avg => avg * (s.totalCount : ℚ))
  let pctEff := sketch.rollup (rows.filterMap fun s =>
    if includeFailedRequests then some s.pctAgg else s.pctAggPassed)
  -- A rank that is not a number is that of the greatest duration.
  let rank := fun x => (sketch.approxPercentileRank x pctEff).getD 1
  let atMost := fun x => round (rank x * effectiveTotal)
  if rows ≠ [] ∧ 0 < effectiveTotal ∧ (includeFailedRequests || hasPassedSketch) = true then
    some
      { satisfiedCount := (atMost thresholdMs).toNat
        toleratingCount := (atMost (thresholdMs * 4) - atMost thresholdMs).toNat
        frustratedCount := (effectiveTotal - atMost (thresholdMs * 4)).toNat
        totalCount := effectiveTotal
        observedCount := sumTotalCount
        thresholdMs
        avgResponseTimeMs :=
          sumAvgXTotal.bind fun sum =>
            if sumTotalCount = 0 then none
            else some (roundTo 100 (roundTo 100 (sum / sumTotalCount))) }
  else none

/-- The Apdex result of a transaction: that of its rollup, if it has one, and that of
    a scan otherwise. -/
def calculateApdex (includeFailedRequests : Bool) (rows : List (TransactionStats sketch))
    (samples : List TransactionSample) (thresholdMs : ℚ) : ApdexResult :=
  (calculateApdexFromRollup includeFailedRequests rows thresholdMs).getD
    (calculateApdexRaw includeFailedRequests samples thresholdMs)

end Rollup

/-! ## What the rollup knows of the samples -/

section Groups

variable (samples : List TransactionSample) (includeFailedRequests : Bool)

/-- The samples, scenario by scenario. -/
theorem perm_flatMap_ofScenario :
    samples.Perm ((scenarios samples).flatMap (ofScenario samples)) := by
  have h := Aggregate.filter_mem_perm_flatMap (fun s : TransactionSample => s.scenarioName.getD "")
    samples (List.nodup_dedup (samples.map fun s => s.scenarioName.getD ""))
  rwa [List.filter_eq_self.2] at h
  intro s hs
  simpa using ⟨s, hs, rfl⟩

theorem scoredTimes_perm {samples samples' : List TransactionSample}
    (h : samples.Perm samples') :
    (scoredTimes includeFailedRequests samples).Perm (scoredTimes includeFailedRequests samples') :=
  (h.filter _).filterMap _

theorem scoredTimes_flatMap (names : List String) (f : String → List TransactionSample) :
    scoredTimes includeFailedRequests (names.flatMap f) =
      names.flatMap fun name => scoredTimes includeFailedRequests (f name) := by
  induction names with
  | nil => rfl
  | cons name names ih =>
    rw [List.flatMap_cons, List.flatMap_cons, ← ih]
    simp only [scoredTimes, List.filter_append, List.filterMap_append]

/-- The scored durations of the scenarios are those of the samples. -/
theorem flatten_scoredTimes_perm :
    ((scenarios samples).map fun name =>
      scoredTimes includeFailedRequests (ofScenario samples name)).flatten.Perm
      (scoredTimes includeFailedRequests samples) := by
  have h := scoredTimes_perm includeFailedRequests (perm_flatMap_ofScenario samples)
  rw [scoredTimes_flatMap] at h
  exact h.symm

theorem sum_countP_ofScenario (p : TransactionSample → Bool) :
    ((scenarios samples).map fun name => (ofScenario samples name).countP p).sum =
      samples.countP p := by
  rw [(perm_flatMap_ofScenario samples).countP_eq p, List.countP_flatMap]
  rfl

end Groups

section Hit

variable {sketch : ExactSketch} {includeFailedRequests : Bool} {samples : List TransactionSample}
  {thresholdMs : ℚ} {r : ApdexResult}

/-- The number of executions that the rollup counts for the score. -/
def executions (includeFailedRequests : Bool) (samples : List TransactionSample) : ℕ :=
  samples.countP fun s => includeFailedRequests || s.success

/-- The number of scored samples up to a duration, as read off the sketches. -/
def atMost (includeFailedRequests : Bool) (samples : List TransactionSample) (x : ℚ) : ℤ :=
  let times := scoredTimes includeFailedRequests samples
  round ((times.countP (· ≤ x) : ℚ) / times.length * executions includeFailedRequests samples)

/-- The sum of the rounded means of the scenarios, each weighted by its executions. -/
def weightedMeans (samples : List TransactionSample) : ℚ :=
  ((scenarios samples).map fun name =>
    let times := scoredTimes true (ofScenario samples name)
    roundTo 100 (times.sum / times.length) * (ofScenario samples name).length).sum

/-- The executions that the rows count for the score. -/
theorem sum_executions :
    (((scenarios samples).map fun name => statsRow sketch name (ofScenario samples name)).map
      fun s => if includeFailedRequests then s.totalCount else s.passedCount).sum =
      executions includeFailedRequests samples := by
  rw [executions, ← sum_countP_ofScenario, List.map_map]
  congr 2
  funext name
  cases includeFailedRequests <;> simp [statsRow]

/-- All the executions that the rows count. -/
theorem sum_totalCount :
    (((scenarios samples).map fun name => statsRow sketch name (ofScenario samples name)).map
      TransactionStats.totalCount).sum = samples.length := by
  have h := @sum_executions sketch true samples
  simpa [executions] using h

/-- The sketches that the rows give for the score, if they all have one. -/
theorem filterMap_pctAgg
    (h : includeFailedRequests = true ∨
      ∀ name ∈ scenarios samples, scoredTimes false (ofScenario samples name) ≠ []) :
    (((scenarios samples).map fun name =>
        statsRow sketch name (ofScenario samples name)).filterMap fun s =>
      if includeFailedRequests then some s.pctAgg else s.pctAggPassed) =
      ((scenarios samples).map fun name =>
        scoredTimes includeFailedRequests (ofScenario samples name)).map sketch.tdigest := by
  rw [List.filterMap_map, List.map_map, ← List.filterMap_eq_map]
  refine List.filterMap_congr fun name hname => ?_
  cases includeFailedRequests with
  | true => rfl
  | false =>
    have hne := h.resolve_left Bool.false_ne_true name hname
    simp [statsRow, hne]

/-- The means that the rows give, if they all have one. -/
theorem filterMap_avgResponseTime
    (h : ∀ name ∈ scenarios samples, scoredTimes true (ofScenario samples name) ≠ []) :
    (((scenarios samples).map fun name =>
        statsRow sketch name (ofScenario samples name)).filterMap fun s =>
      s.avgResponseTime.map fun avg => avg * (s.totalCount : ℚ)) =
      (scenarios samples).map fun name =>
        let times := scoredTimes true (ofScenario samples name)
        roundTo 100 (times.sum / times.length) * (ofScenario samples name).length := by
  rw [List.filterMap_map, ← List.filterMap_eq_map]
  refine List.filterMap_congr fun name hname => ?_
  simp [statsRow, Aggregate.avg_of_ne_nil (h name hname)]

/-- What a rollup that has a result says of the samples. -/
theorem of_calculateApdexFromRollup
    (h : calculateApdexFromRollup includeFailedRequests (transactionRollup sketch samples)
      thresholdMs = some r) :
    scoredTimes includeFailedRequests samples ≠ [] ∧
      0 < executions includeFailedRequests samples ∧
      r =
        { satisfiedCount := (atMost includeFailedRequests samples thresholdMs).toNat
          toleratingCount :=
            (atMost includeFailedRequests samples (thresholdMs * 4) -
              atMost includeFailedRequests samples thresholdMs).toNat
          frustratedCount :=
            (executions includeFailedRequests samples -
              atMost includeFailedRequests samples (thresholdMs * 4)).toNat
          totalCount := executions includeFailedRequests samples
          observedCount := samples.length
          thresholdMs
          avgResponseTimeMs :=
            some (roundTo 100 (roundTo 100 (weightedMeans samples / samples.length))) } := by
  rw [transactionRollup] at h
  by_cases hall : ∀ name ∈ scenarios samples, scoredTimes true (ofScenario samples name) ≠ []
  · rw [if_pos hall, calculateApdexFromRollup] at h
    dsimp only at h
    rw [sum_executions, sum_totalCount, filterMap_avgResponseTime hall] at h
    obtain ⟨⟨hrows, hexecutions, hsketch⟩, h⟩ := Option.ite_none_right_eq_some.1 h
    rw [ne_eq, List.map_eq_nil_iff] at hrows
    have hparts : includeFailedRequests = true ∨
        ∀ name ∈ scenarios samples, scoredTimes false (ofScenario samples name) ≠ [] := by
      rw [Bool.or_eq_true, List.all_map, List.all_eq_true] at hsketch
      refine hsketch.imp id fun hpassed name hname hnil => ?_
      simpa [statsRow, hnil] using hpassed name hname
    obtain ⟨name, hname⟩ := List.exists_mem_of_ne_nil _ hrows
    have hne : ((scenarios samples).map fun name =>
        scoredTimes includeFailedRequests (ofScenario samples name)).flatten ≠ [] := by
      intro hnil
      have hpart := List.flatten_eq_nil_iff.1 hnil _ (List.mem_map_of_mem hname)
      cases includeFailedRequests with
      | true => exact hall name hname hpart
      | false => exact hparts.resolve_left Bool.false_ne_true name hname hpart
    have hperm := flatten_scoredTimes_perm samples includeFailedRequests
    have hrank : ∀ x, (sketch.approxPercentileRank x (sketch.rollup
        (((scenarios samples).map fun name =>
          scoredTimes includeFailedRequests (ofScenario samples name)).map
            sketch.tdigest))).getD 1 =
        ((scoredTimes includeFailedRequests samples).countP (· ≤ x) : ℚ) /
          (scoredTimes includeFailedRequests samples).length := by
      intro x
      rw [sketch.exact _ x hne, hperm.countP_eq, hperm.length_eq]
      rfl
    have hsamples : samples.length ≠ 0 := by
      intro hnil
      rw [List.length_eq_zero_iff] at hnil
      subst hnil
      cases hname
    rw [filterMap_pctAgg hparts, Aggregate.sum_of_ne_nil (mt List.map_eq_nil_iff.1 hrows),
      Option.bind_some, if_neg hsamples] at h
    simp only [hrank] at h
    exact ⟨fun hnil => hne (List.Perm.eq_nil (hnil ▸ hperm)), hexecutions,
      (Option.some.inj h).symm⟩
  · rw [if_neg hall] at h
    simp [calculateApdexFromRollup] at h

end Hit

/-! ## Counts and scores -/

section Counts

variable {includeFailedRequests : Bool} {samples : List TransactionSample} {thresholdMs : ℚ}

theorem length_scoredTimes : (scoredTimes includeFailedRequests samples).length =
    samples.countP (scored includeFailedRequests) := by
  induction samples with
  | nil => rfl
  | cons s samples ih =>
    rw [scoredTimes] at ih ⊢
    cases hs : scored includeFailedRequests s with
    | false => rw [List.filter_cons_of_neg (by simp [hs]), ih, List.countP_cons_of_neg (by simp [hs])]
    | true =>
      obtain ⟨t, ht⟩ := Option.isSome_iff_exists.1 (Bool.and_eq_true_iff.1 hs).1
      rw [List.filter_cons_of_pos hs, List.filterMap_cons_some (by rw [ht]; rfl), List.length_cons,
        ih, List.countP_cons_of_pos hs]

/-- Every sample that the score counts has a duration. -/
def Measured (includeFailedRequests : Bool) (samples : List TransactionSample) : Prop :=
  ∀ s ∈ samples, (includeFailedRequests || s.success) = true → s.responseTime.isSome = true

/-- The rollup counts the samples that are scored if and only if they all have a
    duration. -/
theorem executions_eq_iff :
    executions includeFailedRequests samples = (scoredTimes includeFailedRequests samples).length ↔
      Measured includeFailedRequests samples := by
  rw [length_scoredTimes, executions]
  induction samples with
  | nil => simp [Measured]
  | cons s samples ih =>
    have hle : samples.countP (scored includeFailedRequests) ≤
        samples.countP fun s => includeFailedRequests || s.success :=
      List.countP_mono_left fun s _ hs => (Bool.and_eq_true_iff.1 hs).2
    rw [Measured, List.forall_mem_cons, ← Measured, ← ih, List.countP_cons, List.countP_cons]
    cases hcounted : (includeFailedRequests || s.success) with
    | false => simp [scored, hcounted]
    | true =>
      cases htime : s.responseTime.isSome with
      | true => simp [scored, hcounted, htime]
      | false =>
        simp [scored, hcounted, htime]
        omega

theorem countP_add_countP {T U : ℚ} (hTU : T ≤ U) (times : List ℚ) :
    times.countP (· ≤ T) + times.countP (fun t => T < t ∧ t ≤ U) = times.countP (· ≤ U) := by
  induction times with
  | nil => rfl
  | cons t times ih =>
    simp only [List.countP_cons, ← ih]
    grind

theorem countP_le_add_countP_lt (U : ℚ) (times : List ℚ) :
    times.countP (· ≤ U) + times.countP (fun t => U < t) = times.length := by
  induction times with
  | nil => rfl
  | cons t times ih =>
    simp only [List.countP_cons, List.length_cons, ← ih]
    grind

/-- With all durations, the sketches give the number of the scored samples up to a
    duration. -/
theorem atMost_eq (hne : scoredTimes includeFailedRequests samples ≠ [])
    (h : Measured includeFailedRequests samples) (x : ℚ) :
    atMost includeFailedRequests samples x =
      (scoredTimes includeFailedRequests samples).countP (· ≤ x) := by
  have hpos : ((scoredTimes includeFailedRequests samples).length : ℚ) ≠ 0 :=
    (Aggregate.length_pos hne).ne'
  rw [atMost, executions_eq_iff.2 h, div_mul_cancel₀ _ hpos]
  exact round_natCast _

theorem round_le_round {x y : ℚ} (h : x ≤ y) : round x ≤ round y := by
  rw [round_eq, round_eq]
  exact Int.floor_mono (by linarith)

theorem atMost_mono {x y : ℚ} (hxy : x ≤ y) :
    atMost includeFailedRequests samples x ≤ atMost includeFailedRequests samples y := by
  refine round_le_round (mul_le_mul_of_nonneg_right ?_ (Nat.cast_nonneg _))
  refine div_le_div_of_nonneg_right (Nat.cast_le.2 ?_) (Nat.cast_nonneg _)
  exact List.countP_mono_left fun t _ ht => by
    simp only [decide_eq_true_eq] at ht ⊢
    exact ht.trans hxy

theorem atMost_nonneg (x : ℚ) : 0 ≤ atMost includeFailedRequests samples x := by
  have h : (0 : ℚ) ≤ (scoredTimes includeFailedRequests samples).countP (· ≤ x) /
      (scoredTimes includeFailedRequests samples).length *
        executions includeFailedRequests samples := by positivity
  rw [atMost]
  simpa using round_le_round h

theorem atMost_le (x : ℚ) :
    atMost includeFailedRequests samples x ≤ executions includeFailedRequests samples := by
  have hle : ((scoredTimes includeFailedRequests samples).countP (· ≤ x) : ℚ) /
      (scoredTimes includeFailedRequests samples).length ≤ 1 :=
    div_le_one_of_le₀ (Nat.cast_le.2 List.countP_le_length) (Nat.cast_nonneg _)
  have h := round_le_round (mul_le_mul_of_nonneg_right hle
    (Nat.cast_nonneg (executions includeFailedRequests samples)))
  rwa [one_mul, round_natCast] at h

end Counts

/-! ## The two paths -/

/-- The categories of a result sum to its total, and its score is one. -/
structure ApdexResult.WellFormed (r : ApdexResult) : Prop where
  /-- Every execution that is scored is in one category. -/
  sum : r.satisfiedCount + r.toleratingCount + r.frustratedCount = r.totalCount
  /-- The score lies between 0 and 1. -/
  score : 0 < r.totalCount →
    0 ≤ ((r.satisfiedCount + r.toleratingCount * (1 / 2)) / r.totalCount : ℚ) ∧
      ((r.satisfiedCount + r.toleratingCount * (1 / 2)) / r.totalCount : ℚ) ≤ 1

/-- Two results have the same counts. -/
structure ApdexResult.SameCounts (r r' : ApdexResult) : Prop where
  satisfied : r.satisfiedCount = r'.satisfiedCount
  tolerating : r.toleratingCount = r'.toleratingCount
  frustrated : r.frustratedCount = r'.frustratedCount
  observed : r.observedCount = r'.observedCount
  total : r.totalCount = r'.totalCount

theorem ApdexResult.WellFormed.of_sum {r : ApdexResult}
    (h : r.satisfiedCount + r.toleratingCount + r.frustratedCount = r.totalCount) :
    r.WellFormed := by
  refine ⟨h, fun hpos => ⟨by positivity, ?_⟩⟩
  have htotal : (r.satisfiedCount + r.toleratingCount + r.frustratedCount : ℚ) = r.totalCount := by
    exact_mod_cast h
  have htolerating : (0 : ℚ) ≤ r.toleratingCount := Nat.cast_nonneg _
  have hfrustrated : (0 : ℚ) ≤ r.frustratedCount := Nat.cast_nonneg _
  refine div_le_one_of_le₀ ?_ (Nat.cast_nonneg _)
  linarith

section Paths

variable {sketch : ExactSketch} {includeFailedRequests : Bool} {samples : List TransactionSample}
  {thresholdMs : ℚ} {r : ApdexResult}

theorem calculateApdexRaw_wellFormed (hT : 0 < thresholdMs) :
    (calculateApdexRaw includeFailedRequests samples thresholdMs).WellFormed := by
  refine .of_sum ?_
  have hTU : thresholdMs ≤ thresholdMs * 4 := by linarith
  rw [calculateApdexRaw]
  dsimp only
  rw [countP_add_countP hTU, countP_le_add_countP_lt]

theorem calculateApdexFromRollup_wellFormed (hT : 0 < thresholdMs)
    (h : calculateApdexFromRollup includeFailedRequests (transactionRollup sketch samples)
      thresholdMs = some r) : r.WellFormed := by
  obtain ⟨-, -, rfl⟩ := of_calculateApdexFromRollup h
  refine .of_sum ?_
  have h₀ : 0 ≤ atMost includeFailedRequests samples thresholdMs := atMost_nonneg thresholdMs
  have h₁ : atMost includeFailedRequests samples thresholdMs ≤
      atMost includeFailedRequests samples (thresholdMs * 4) := atMost_mono (by linarith)
  have h₂ : atMost includeFailedRequests samples (thresholdMs * 4) ≤
      executions includeFailedRequests samples := atMost_le (thresholdMs * 4)
  dsimp only
  omega

/-- The rollup gives the counts of the scan if and only if every sample that the score
    counts has a duration. -/
theorem calculateApdexFromRollup_counts (hT : 0 < thresholdMs)
    (h : calculateApdexFromRollup includeFailedRequests (transactionRollup sketch samples)
      thresholdMs = some r) :
    r.SameCounts (calculateApdexRaw includeFailedRequests samples thresholdMs) ↔
      Measured includeFailedRequests samples := by
  obtain ⟨hne, -, rfl⟩ := of_calculateApdexFromRollup h
  constructor
  · intro hsame
    exact executions_eq_iff.1 hsame.total
  · intro hmeasured
    have hTU : thresholdMs ≤ thresholdMs * 4 := by linarith
    have htolerating := countP_add_countP hTU (scoredTimes includeFailedRequests samples)
    have hfrustrated := countP_le_add_countP_lt (thresholdMs * 4)
      (scoredTimes includeFailedRequests samples)
    have htotal := executions_eq_iff.2 hmeasured
    constructor
    · simp [calculateApdexRaw, atMost_eq hne hmeasured]
    · simp only [calculateApdexRaw, atMost_eq hne hmeasured]
      omega
    · simp only [calculateApdexRaw, atMost_eq hne hmeasured]
      omega
    · rfl
    · exact htotal

@[simp] theorem roundTo_roundTo (scale : ℕ) (x : ℚ) :
    roundTo scale (roundTo scale x) = roundTo scale x := by
  obtain rfl | hscale := Nat.eq_zero_or_pos scale
  · simp [roundTo]
  · have hne : (scale : ℚ) ≠ 0 := by positivity
    have hhalf : ∀ k : ℤ, ⌊(k : ℚ) + 1 / 2⌋ = k := fun k => by
      rw [Int.floor_intCast_add]
      norm_num
    rw [roundTo, roundTo, div_mul_cancel₀ _ hne, hhalf]

/-- Every sample is scored. -/
def AllScored (includeFailedRequests : Bool) (samples : List TransactionSample) : Prop :=
  ∀ s ∈ samples, scored includeFailedRequests s = true

/-- There is one scenario, or the means of the scenarios have two decimals. -/
def ExactMeans (samples : List TransactionSample) : Prop :=
  (scenarios samples).length = 1 ∨
    ∀ name ∈ scenarios samples, ∀ μ ∈ Aggregate.avg (scoredTimes true (ofScenario samples name)),
      roundTo 100 μ = μ

theorem AllScored.measured (h : AllScored includeFailedRequests samples) :
    Measured includeFailedRequests samples :=
  fun s hs _ => (Bool.and_eq_true_iff.1 (h s hs)).1

theorem AllScored.scoredTimes_true (h : AllScored includeFailedRequests samples) :
    scoredTimes true samples = scoredTimes includeFailedRequests samples := by
  rw [scoredTimes, scoredTimes, List.filter_eq_self.2 h, List.filter_eq_self.2]
  intro s hs
  rw [scored, Bool.true_or, Bool.and_true]
  exact h.measured s hs (Bool.and_eq_true_iff.1 (h s hs)).2

theorem AllScored.length_scoredTimes (h : AllScored includeFailedRequests samples) :
    (scoredTimes includeFailedRequests samples).length = samples.length := by
  rw [Perfana.length_scoredTimes, List.countP_eq_length]
  exact h

theorem AllScored.ofScenario (h : AllScored includeFailedRequests samples) (name : String) :
    AllScored includeFailedRequests (ofScenario samples name) :=
  fun s hs => h s (List.mem_of_mem_filter hs)

/-- The rounded mean of the rollup, if every sample is scored. -/
theorem roundTo_weightedMeans (h : AllScored includeFailedRequests samples)
    (hmeans : ExactMeans samples) (hne : scoredTimes includeFailedRequests samples ≠ []) :
    roundTo 100 (weightedMeans samples / samples.length) =
      roundTo 100 ((scoredTimes includeFailedRequests samples).sum /
        (scoredTimes includeFailedRequests samples).length) := by
  have hlength : ((samples.length : ℕ) : ℚ) ≠ 0 := by
    rw [← h.length_scoredTimes]
    exact (Aggregate.length_pos hne).ne'
  rcases hmeans with hone | hexact
  · obtain ⟨name, hname⟩ := List.length_eq_one_iff.1 hone
    have hself : ofScenario samples name = samples := by
      have hperm := perm_flatMap_ofScenario samples
      rw [hname, List.flatMap_singleton] at hperm
      exact List.Sublist.eq_of_length List.filter_sublist hperm.length_eq.symm
    rw [weightedMeans, hname, List.map_singleton, List.sum_singleton, hself,
      mul_div_cancel_right₀ _ hlength, roundTo_roundTo, h.scoredTimes_true]
  · have hsum : weightedMeans samples = (scoredTimes includeFailedRequests samples).sum := by
      rw [← (flatten_scoredTimes_perm samples includeFailedRequests).sum_eq, List.sum_flatten,
        List.map_map, weightedMeans]
      congr 1
      refine List.map_congr_left fun name hname => ?_
      have hscored := h.ofScenario name
      have hgroup : scoredTimes includeFailedRequests (ofScenario samples name) ≠ [] := by
        rw [← List.length_pos_iff, hscored.length_scoredTimes, List.length_pos_iff]
        obtain ⟨s, hs, hsname⟩ := List.mem_map.1 (List.mem_dedup.1 hname)
        exact List.ne_nil_of_mem (List.mem_filter.2 ⟨hs, decide_eq_true hsname⟩)
      have hμ := hexact name hname
      rw [hscored.scoredTimes_true, Aggregate.avg_of_ne_nil hgroup] at hμ
      dsimp only [Function.comp_apply]
      rw [hscored.scoredTimes_true, ← hscored.length_scoredTimes, hμ _ rfl,
        div_mul_cancel₀ _ (Aggregate.length_pos hgroup).ne']
    rw [hsum, h.length_scoredTimes]

/-- If every sample is scored, and the means of the scenarios are not rounded, the
    rollup gives the result of the scan. -/
theorem calculateApdexFromRollup_eq (hT : 0 < thresholdMs)
    (h : calculateApdexFromRollup includeFailedRequests (transactionRollup sketch samples)
      thresholdMs = some r)
    (hscored : AllScored includeFailedRequests samples) (hmeans : ExactMeans samples) :
    r = calculateApdexRaw includeFailedRequests samples thresholdMs := by
  have hcounts := (calculateApdexFromRollup_counts hT h).2 hscored.measured
  obtain ⟨hne, -, rfl⟩ := of_calculateApdexFromRollup h
  obtain ⟨hsatisfied, htolerating, hfrustrated, -, htotal⟩ := hcounts
  rw [roundTo_roundTo, roundTo_weightedMeans hscored hmeans hne]
  simp only [calculateApdexRaw, ApdexResult.mk.injEq] at *
  refine ⟨hsatisfied, htolerating, hfrustrated, htotal, trivial, trivial, ?_⟩
  rw [Aggregate.avg_of_ne_nil hne]
  rfl

/-- More samples within each bound give a score that is not lower. -/
theorem scoreOf_mono {a b a' b' n : ℕ} (ha : a ≤ a') (hb : b ≤ b') (hab : a ≤ b) (hab' : a' ≤ b')
    (hn : b' ≤ n) {score score' : ℚ} (h : scoreOf a (b - a) n = some score)
    (h' : scoreOf a' (b' - a') n = some score') : 0 ≤ score ∧ score ≤ score' ∧ score' ≤ 1 := by
  rw [scoreOf] at h h'
  split at h
  · rename_i hpos
    rw [if_pos hpos] at h'
    cases h
    cases h'
    have hmono : ∀ {x y : ℚ}, x ≤ y → roundTo 1000 x ≤ roundTo 1000 y := fun hxy =>
      div_le_div_of_nonneg_right (Int.cast_le.2 (Int.floor_mono (by push_cast; linarith)))
        (by norm_num)
    have hzero : roundTo 1000 0 = 0 := by norm_num [roundTo]
    have hone : roundTo 1000 1 = 1 := by norm_num [roundTo]
    have hle : (a + b : ℚ) ≤ a' + b' := by exact_mod_cast Nat.add_le_add ha hb
    have hle' : (a' + b' : ℚ) ≤ n + n := by exact_mod_cast Nat.add_le_add (hab'.trans hn) hn
    rw [Nat.cast_sub hab, Nat.cast_sub hab']
    refine ⟨hzero.ge.trans (hmono ?_), hmono ?_, (hmono ?_).trans hone.le⟩
    · rw [← Nat.cast_sub hab]
      positivity
    · exact div_le_div_of_nonneg_right (by linarith) (Nat.cast_nonneg _)
    · exact div_le_one_of_le₀ (by linarith) (Nat.cast_nonneg _)
  · cases h

end Paths

/-- Sketches that keep all durations. -/
def listSketch : ExactSketch where
  Digest := List ℚ
  tdigest times := times
  rollup := List.flatten
  approxPercentileRank x times :=
    if times = [] then none else some ((times.countP (· ≤ x) : ℚ) / times.length)
  exact parts x hne := by
    rw [List.map_id', if_neg hne]

/-- An execution that succeeded, and a slow one that failed. -/
def oneFailed : List TransactionSample := [⟨none, true, some 100⟩, ⟨none, false, some 900⟩]

end Perfana
