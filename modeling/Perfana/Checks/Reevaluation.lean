import Perfana.Checks.FilteredChecks

/-!
# Re-evaluating some metrics of a run

A re-evaluation under a filter should leave what a full evaluation would leave for the
benchmarks that the filter matches, and the other rows as they are.

* `agrees_iff`: whatever the data, it leaves what it should if and only if its filter has
  no metrics source, does not narrow the series of a panel that it judges, and deletes the
  results of the benchmarks that it matches;
* `not_agrees_oneSeries`: a panel is judged on one of its series, though nothing has
  changed.
-/

namespace Perfana

namespace Reevaluation

/-! ## Agreement -/

section Agreement

variable (validateRegexPattern : String → Option (String → Bool)) (run : CheckedTestRun)

/-- A re-evaluation of a run, evaluated before on other benchmarks and other data, leaves
    what a full evaluation would leave for the benchmarks that the filter matches, and the
    other rows. -/
def Agrees (earlier current : Benchmarks) (before now : EvaluationData) (filter : Filter) : Prop :=
  let rows := fullEvaluation validateRegexPattern run before earlier
  let isMatched := fun row : CheckResultRow =>
    decide (row.benchmarkId ∈ (matching run current filter).map Benchmark.id)
  ∃ rows', reevaluate validateRegexPattern run now current filter rows = some rows' ∧
    rows'.Perm (rows.filter (fun row => !isMatched row) ++
      (fullEvaluation validateRegexPattern run now current).filter isMatched)

/-- The readings of a filter correspond. -/
structure Corresponds (earlier current : Benchmarks) (filter : Filter) : Prop where
  /-- The filter does not name a metrics source. -/
  noSource : nonempty filter.metricsSourceId = none
  /-- The filter deletes the result of a benchmark if and only if it matches it now. -/
  sameRows : ∀ b ∈ matching run earlier {}, b.MayLeave run →
    (deletes filter b.resultDashboard b.resultPanel = true ↔
      b.id ∈ (matching run current filter).map Benchmark.id)
  /-- The filter does not narrow the series of a panel that it judges. -/
  wholePanels : nonempty filter.metricName ≠ none → ∀ b ∈ matching run current filter,
    b.MayLeave run → b.benchmarkType = .metric → b.applicationDashboardId = none

variable {validateRegexPattern run} {earlier current benchmarks : Benchmarks}
  {before now data : EvaluationData} {filter : Filter} {b b' : Benchmark}

theorem matching_eq (filter : Filter) : matching run benchmarks filter =
    (benchmarks.rows.filter fun b => b.isOf run && b.matchesFilter filter).filter
      Benchmark.isBenchmarkValid := by
  rw [matching, findMatchingBenchmarks]
  by_cases hempty : (benchmarks.rows.filter fun b => b.isOf run && b.matchesFilter filter) = []
  · simp only [hempty, if_true, List.filter_nil]
  · simp only [if_neg hempty]

theorem mem_matching : b ∈ matching run benchmarks filter ↔
    b ∈ benchmarks.rows ∧ b.isOf run = true ∧ b.matchesFilter filter = true ∧
      b.isBenchmarkValid = true := by
  rw [matching_eq, List.mem_filter, List.mem_filter, Bool.and_eq_true]
  tauto

theorem matching_filter : matching run benchmarks filter =
    (matching run benchmarks {}).filter fun b => b.matchesFilter filter := by
  have hall : ∀ b : Benchmark, b.matchesFilter {} = true := fun _ => rfl
  rw [matching_eq, matching_eq, List.filter_filter, List.filter_filter, List.filter_filter]
  refine List.filter_congr fun b _ => ?_
  rw [hall, Bool.and_true, Bool.and_comm (b.isOf run), ← Bool.and_assoc,
    Bool.and_comm b.isBenchmarkValid, Bool.and_assoc]

theorem hasValidRequirement_of_mem (h : b ∈ matching run benchmarks filter)
    (hkind : b.benchmarkType = .metric) : b.hasValidRequirement = true := by
  have hof := (mem_matching.1 h).2.1
  rw [Benchmark.isOf, decide_eq_true_iff] at hof
  have hcolumns := hof.2.2.2.2.2.1
  rwa [Benchmark.hasRequirementColumns, hkind] at hcolumns

theorem eq_of_id_eq (h : b ∈ benchmarks.rows) (h' : b' ∈ benchmarks.rows) (hid : b.id = b'.id) :
    b = b' :=
  List.inj_on_of_nodup_map benchmarks.nodup h h' hid

/-- The rows of a benchmark are matched if the benchmark is. -/
theorem id_mem_matching (h : b ∈ matching run benchmarks {}) :
    b.id ∈ (matching run benchmarks filter).map Benchmark.id ↔ b.matchesFilter filter = true := by
  rw [matching_filter, List.mem_map]
  constructor
  · rintro ⟨b', hb', hid⟩
    obtain ⟨hmem, hmatches⟩ := List.mem_filter.1 hb'
    rwa [eq_of_id_eq (mem_matching.1 h).1 (mem_matching.1 hmem).1 hid.symm]
  · exact fun hmatches => ⟨b, List.mem_filter.2 ⟨h, hmatches⟩, rfl⟩

/-- The rows of the benchmarks that a filter matches, each judged over all of its series,
    are those of a full evaluation. -/
theorem evaluateBenchmarks_matching (statistics : Statistics) :
    evaluateBenchmarks validateRegexPattern run data none (matching run current filter)
        statistics =
      (evaluateBenchmarks validateRegexPattern run data none (matching run current {})
        statistics).filter fun row =>
          decide (row.benchmarkId ∈ (matching run current filter).map Benchmark.id) := by
  let onPanel : Option String → Option ℤ → Bool := fun id panelId =>
    ((nonempty filter.applicationDashboardId).all fun id' => id = some id') &&
      filter.panelId.all fun id' => panelId = some id'
  have hkept : ∀ b ∈ matching run current {}, ∀ document,
      decide ((b.row document).benchmarkId ∈ (matching run current filter).map Benchmark.id) =
        onPanel b.applicationDashboardId b.panelId := by
    intro b hb document
    rw [Bool.eq_iff_iff, decide_eq_true_iff]
    exact id_mem_matching hb
  have hmatching : matching run current filter = (matching run current {}).filter fun b =>
      onPanel b.applicationDashboardId b.panelId := matching_filter
  conv_lhs => rw [hmatching]
  exact evaluateBenchmarks_filter hkept fun _ _ _ _ _ _ _ => rfl

theorem reevaluate_of_noSource (h : nonempty filter.metricsSourceId = none)
    (rows : List CheckResultRow) :
    reevaluate validateRegexPattern run data benchmarks filter rows =
      some ((rows.filter fun row => !deletes filter row.applicationDashboardId row.panelId) ++
        evaluateBenchmarks validateRegexPattern run data filter.metricName
          (matching run benchmarks filter) data.statistics) := by
  rw [reevaluate, deleteExistingCheckResults, h, Option.map_some, matching]
  cases findMatchingBenchmarks run benchmarks filter with
  | error e => simp [evaluateBenchmarks]
  | ok bs => rfl

/-- The rows of an earlier evaluation that are deleted are those that are matched, if the
    readings correspond. -/
theorem filter_deletes (h : ∀ b ∈ matching run earlier {}, b.MayLeave run →
      (deletes filter b.resultDashboard b.resultPanel = true ↔
        b.id ∈ (matching run current filter).map Benchmark.id)) :
    (fullEvaluation validateRegexPattern run before earlier).filter
        (fun row => !deletes filter row.applicationDashboardId row.panelId) =
      (fullEvaluation validateRegexPattern run before earlier).filter fun row =>
        !decide (row.benchmarkId ∈ (matching run current filter).map Benchmark.id) := by
  refine List.filter_congr fun row hrow => ?_
  obtain ⟨b, hb, -, -, hleaves, document, rfl⟩ :=
    exists_of_mem_evaluateBenchmarks (fun b => hasValidRequirement_of_mem) hrow
  rw [Bool.eq_iff_iff, Bool.not_eq_true', Bool.not_eq_true', Bool.eq_false_iff, Bool.eq_false_iff,
    not_iff_not, decide_eq_true_iff]
  exact h b hb hleaves

/-- A benchmark that reads no series, or leaves no row, does not heed the narrowing. -/
theorem processBenchmark_metricName (hvalid : b.benchmarkType = .metric →
      b.hasValidRequirement = true) (metricName : Option String)
    (h : b.MayLeave run → b.benchmarkType = .metric → b.applicationDashboardId = none)
    (statistics : Statistics) :
    processBenchmark validateRegexPattern run data metricName b statistics =
      processBenchmark validateRegexPattern run data none b statistics := by
  rw [processBenchmark, processBenchmark]
  cases hkind : b.benchmarkType with
  | apdex | aggregated => rfl
  | metric =>
    by_cases hleaves : b.MayLeave run
    · have hnone := h hleaves hkind
      simp only [evaluateMetric, metricStatistics_none hnone]
    · have hnot : ¬((nonempty run.organizationId).isSome = true ∧ b.LeavesMetric) :=
        fun hand => hleaves ⟨hand.1, fun _ => hand.2⟩
      obtain ⟨e, he⟩ := evaluateMetric_not_mayLeave validateRegexPattern data metricName
        statistics (hvalid hkind) hnot
      obtain ⟨e', he'⟩ := evaluateMetric_not_mayLeave validateRegexPattern data none
        statistics (hvalid hkind) hnot
      dsimp only
      rw [he, he']
      rfl

theorem processBenchmark_nonempty {metricName : Option String} (h : nonempty metricName = none)
    (statistics : Statistics) :
    processBenchmark validateRegexPattern run data metricName b statistics =
      processBenchmark validateRegexPattern run data none b statistics := by
  have hstatistics : metricStatistics run data metricName b statistics =
      metricStatistics run data none b statistics := by
    rw [metricStatistics, metricStatistics, h]
    rfl
  simp only [processBenchmark, evaluateMetric, hstatistics]

/-- If the readings of a filter correspond, a re-evaluation leaves what it should. -/
theorem agrees_of_corresponds (h : Corresponds run earlier current filter) :
    Agrees validateRegexPattern run earlier current before now filter := by
  have hseries : evaluateBenchmarks validateRegexPattern run now filter.metricName
      (matching run current filter) now.statistics =
        evaluateBenchmarks validateRegexPattern run now none (matching run current filter)
          now.statistics := by
    refine evaluateBenchmarks_congr fun b hb statistics => ?_
    by_cases hname : nonempty filter.metricName = none
    · exact processBenchmark_nonempty hname statistics
    · exact processBenchmark_metricName (hasValidRequirement_of_mem hb) _
        (h.wholePanels hname b hb) statistics
  refine ⟨_, reevaluate_of_noSource h.noSource _, ?_⟩
  rw [hseries, evaluateBenchmarks_matching, filter_deletes h.sameRows]
  exact List.Perm.refl _

/-- Data in which every dashboard is visible, and every outcome on transactions is the
    same. -/
def plainData (stats : List MetricStatistic) (result : Except String CheckResultDocument) :
    EvaluationData where
  statistics _ _ := stats
  pooledErrorRates _ _ := .ok fun _ => none
  organizations _ := [none]
  transactionResult _ := result

/-- An outcome. -/
def plainDocument : CheckResultDocument := ⟨.COMPLETE, "", none, none, []⟩

variable (validateRegexPattern) in
/-- A benchmark that may leave a row leaves one, if the outcomes on transactions are
    there. -/
theorem exists_row (hb : b ∈ matching run earlier {}) (hleaves : b.MayLeave run)
    (stats : List MetricStatistic) :
    ∃ document, b.row document ∈ fullEvaluation validateRegexPattern run
      (plainData stats (.ok plainDocument)) earlier := by
  have hids : (fullEvaluation validateRegexPattern run (plainData stats (.ok plainDocument))
      earlier).map CheckResultRow.benchmarkId = _ :=
    map_benchmarkId_evaluateBenchmarks fun b => hasValidRequirement_of_mem
  have hmem : b.id ∈ ((matching run earlier {}).filter fun b =>
      b.leaves run (plainData stats (.ok plainDocument))).map Benchmark.id :=
    List.mem_map_of_mem (List.mem_filter.2 ⟨hb, decide_eq_true ⟨hleaves, fun _ => rfl⟩⟩)
  rw [← hids, List.mem_map] at hmem
  obtain ⟨row, hrow, hid⟩ := hmem
  obtain ⟨b', hb', -, -, -, document, rfl⟩ :=
    exists_of_mem_evaluateBenchmarks (fun b => hasValidRequirement_of_mem) hrow
  have heq : b' = b := eq_of_id_eq (mem_matching.1 hb').1 (mem_matching.1 hb).1 hid
  rw [heq] at hrow
  exact ⟨document, hrow⟩

/-- The row of a benchmark is kept under a test of the rows of a benchmark if it passes
    the test. -/
theorem id_mem_filter {test : CheckResultRow → Bool} {document : CheckResultDocument}
    (hb : b ∈ matching run earlier {})
    (htest : ∀ document', test (b.row document') = test (b.row document))
    (hrow : b.row document ∈ fullEvaluation validateRegexPattern run before earlier) :
    b.id ∈ ((fullEvaluation validateRegexPattern run before earlier).filter test).map
        CheckResultRow.benchmarkId ↔ test (b.row document) = true := by
  constructor
  · intro h
    obtain ⟨row, hmem, hid⟩ := List.mem_map.1 h
    obtain ⟨hmem, hpass⟩ := List.mem_filter.1 hmem
    obtain ⟨b', hb', -, -, -, document', rfl⟩ :=
      exists_of_mem_evaluateBenchmarks (fun b => hasValidRequirement_of_mem) hmem
    have heq : b' = b := eq_of_id_eq (mem_matching.1 hb').1 (mem_matching.1 hb).1 hid
    rwa [heq, htest] at hpass
  · exact fun hpass => List.mem_map.2 ⟨_, List.mem_filter.2 ⟨hrow, hpass⟩, rfl⟩

/-- A filter with a metrics source cannot be evaluated. -/
theorem noSource_of_agrees
    (h : Agrees validateRegexPattern run earlier current before now filter) :
    nonempty filter.metricsSourceId = none := by
  obtain ⟨rows', hrows', -⟩ := h
  by_contra hsome
  obtain ⟨source, heq⟩ := Option.ne_none_iff_exists'.1 hsome
  rw [reevaluate, deleteExistingCheckResults, heq] at hrows'
  cases hrows'

/-- The rows that are kept are those of the benchmarks that are not matched. -/
theorem sameRows_of_agrees
    (h : Agrees validateRegexPattern run earlier current (plainData [] (.ok plainDocument)) now
      filter)
    (hb : b ∈ matching run earlier {}) (hleaves : b.MayLeave run) :
    deletes filter b.resultDashboard b.resultPanel = true ↔
      b.id ∈ (matching run current filter).map Benchmark.id := by
  have hsource := noSource_of_agrees h
  obtain ⟨rows', hrows', hperm⟩ := h
  rw [reevaluate_of_noSource hsource, Option.some_inj] at hrows'
  subst hrows'
  have hids := hperm.map CheckResultRow.benchmarkId
  have hvalid : ∀ b ∈ matching run current filter, b.benchmarkType = .metric →
      b.hasValidRequirement = true := fun b => hasValidRequirement_of_mem
  -- What is evaluated now leaves the same ids on both sides.
  rw [List.map_append, List.map_append, map_benchmarkId_evaluateBenchmarks hvalid,
    fullEvaluation, fullEvaluation, ← evaluateBenchmarks_matching,
    map_benchmarkId_evaluateBenchmarks hvalid, List.perm_append_right_iff] at hids
  obtain ⟨document, hrow⟩ := exists_row validateRegexPattern hb hleaves []
  have hmem := hids.mem_iff (a := b.id)
  rw [← fullEvaluation, id_mem_filter hb (fun _ => rfl) hrow,
    id_mem_filter hb (fun _ => rfl) hrow, Bool.not_eq_true', Bool.not_eq_true',
    decide_eq_false_iff_not, Bool.eq_false_iff, not_iff_not] at hmem
  exact hmem

theorem visible_plain (id : String) (stats : List MetricStatistic)
    (result : Except String CheckResultDocument) :
    visible run (plainData stats result) id = true := by
  rw [visible]
  cases nonempty run.organizationId <;> rfl

theorem metricStatistics_plain {metricName : Option String} {stats : List MetricStatistic}
    {result : Except String CheckResultDocument} {id : String} {panelId : ℤ}
    (hid : b.applicationDashboardId = some id) (hpanel : b.panelId = some panelId) :
    metricStatistics run (plainData stats result) metricName b (fun _ _ => stats) =
      stats.filter fun stat => (nonempty metricName).all fun name => stat.metricName = name := by
  simp only [metricStatistics, hid, hpanel, visible_plain, if_true]

/-- Rows that no benchmark finds wanting are not written to. -/
theorem processBenchmark_plain {metricName : Option String} {stats : List MetricStatistic}
    (hne : (stats.filter fun stat =>
      (nonempty metricName).all fun name => stat.metricName = name) ≠ [])
    (hvalid : b.benchmarkType = .metric → b.hasValidRequirement = true)
    (result : Except String CheckResultDocument) :
    (processBenchmark validateRegexPattern run (plainData stats result) metricName b
      fun _ _ => stats).2 = fun _ _ => stats := by
  have htransactions : (inSavepoint (fun _ _ => stats)
      (evaluateTransactions run (plainData stats result) b fun _ _ => stats)).2 =
        fun _ _ => stats := by
    rw [evaluateTransactions]
    cases (plainData stats result).transactionResult b with
    | error e => rfl
    | ok document => cases (nonempty run.organizationId).isSome <;> rfl
  rw [processBenchmark]
  cases hkind : b.benchmarkType with
  | apdex | aggregated => exact htransactions
  | metric =>
    by_cases hleaves : (nonempty run.organizationId).isSome = true ∧ b.LeavesMetric
    · obtain ⟨panelId, hsome, hzero⟩ := hleaves.2.exists_panelId
      obtain ⟨document, s, heval, -, hsame⟩ := evaluateMetric_mayLeave validateRegexPattern
        (plainData stats result) metricName (fun _ _ => stats) (hvalid hkind) hleaves.1 hsome
        hzero hleaves.2.2
      dsimp only
      rw [heval]
      refine hsame fun hempty => ?_
      cases hid : b.applicationDashboardId with
      | none =>
        have hdashboard := hleaves.2.2
        rw [hid, hempty.2] at hdashboard
        simp at hdashboard
      | some id =>
        rw [metricStatistics_plain hid hsome] at hempty
        exact hne hempty.1
    · obtain ⟨e, he⟩ := evaluateMetric_not_mayLeave validateRegexPattern (plainData stats result)
        metricName (fun _ _ => stats) (hvalid hkind) hleaves
      dsimp only
      rw [he]
      rfl

theorem mem_evaluateBenchmarks_plain {metricName : Option String} {stats : List MetricStatistic}
    {result : Except String CheckResultDocument} {bs : List Benchmark} {row : CheckResultRow}
    (hne : (stats.filter fun stat =>
      (nonempty metricName).all fun name => stat.metricName = name) ≠ [])
    (hvalid : ∀ b ∈ bs, b.benchmarkType = .metric → b.hasValidRequirement = true) :
    row ∈ evaluateBenchmarks validateRegexPattern run (plainData stats result) metricName bs
        (fun _ _ => stats) ↔
      ∃ b ∈ bs, (processBenchmark validateRegexPattern run (plainData stats result) metricName b
        fun _ _ => stats).1 = some row := by
  induction bs with
  | nil => simp [evaluateBenchmarks]
  | cons b bs ih =>
    rw [List.forall_mem_cons] at hvalid
    rw [evaluateBenchmarks_cons, processBenchmark_plain hne hvalid.1, List.mem_append, ih hvalid.2,
      Option.mem_toList]
    simp only [List.mem_cons, exists_eq_or_imp]

/-- A row for each of some series. -/
def seriesRows (names : List String) : List MetricStatistic :=
  names.map fun name => flatRow false 0 name

theorem targets_seriesRows (benchmark : MetricBenchmark) {names : List String} (hne : names ≠ [])
    (hnames : ∀ name ∈ names, name ≠ "") :
    (aggregateStatistics benchmark (seriesRows names)).targets.length = names.length := by
  have htargets : (seriesRows names).filterMap (targetOf benchmark.field) =
      names.map fun name => ⟨name, some 0, false, false,
        if benchmark.field = .trendPctPerHour then some 1 else none⟩ := by
    rw [seriesRows, List.filterMap_map, ← List.filterMap_eq_map]
    exact List.filterMap_congr fun name hname => targetOf_flatRow _ _ (hnames name hname)
  rw [seriesRows, aggregateStatistics_flatRows _ hne, ← seriesRows, aggregateSeries]
  dsimp only
  rw [htargets, List.length_map]

variable (validateRegexPattern) in
/-- A metric benchmark is judged over each of the series that it reads. -/
theorem exists_processBenchmark_series {metricName : Option String} {names : List String}
    (result : Except String CheckResultDocument) {id : String} (hleaves : b.MayLeave run)
    (hkind : b.benchmarkType = .metric) (hvalid : b.hasValidRequirement = true)
    (hid : b.applicationDashboardId = some id) (names' : List String)
    (hfilter : ((seriesRows names).filter fun stat =>
      (nonempty metricName).all fun name => stat.metricName = name) = seriesRows names')
    (hne : names' ≠ []) (hnames : ∀ name ∈ names', name ≠ "") :
    ∃ document : CheckResultDocument, document.targets.length = names'.length ∧
      (processBenchmark validateRegexPattern run (plainData (seriesRows names) result) metricName b
        fun _ _ => seriesRows names).1 = some (b.row document) := by
  obtain ⟨horganization, hmetric⟩ := hleaves
  obtain ⟨panelId, hsome, hzero⟩ := (hmetric hkind).exists_panelId
  obtain ⟨document, s, heval, hdocument, -⟩ := evaluateMetric_mayLeave validateRegexPattern
    (plainData (seriesRows names) result) metricName (fun _ _ => seriesRows names) hvalid
    horganization hsome hzero (hmetric hkind).2
  refine ⟨document, ?_, by simp only [processBenchmark, hkind, heval, inSavepoint]⟩
  rw [metricStatistics_plain hid hsome, hfilter] at hdocument
  have hread : readStatistics b.withColumnMatchPattern panelId
      ⟨seriesRows names', (plainData (seriesRows names) result).pooledErrorRates b⟩ =
        seriesRows names' := readStatistics_flatPanel panelId false (fun _ => 0) names'
  rw [hread] at hdocument
  obtain ⟨document', hdocument', htargets⟩ := createCheckResult_valid validateRegexPattern
    (withColumnMatchPattern_hasValidRequirement.trans hvalid) horganization
    (aggregateStatistics b.withColumnMatchPattern (seriesRows names'))
  rw [hdocument, Except.ok.injEq, Option.some_inj] at hdocument'
  rw [hdocument', htargets, List.length_map, targets_seriesRows _ hne hnames]

/-- The filter does not narrow the series of a panel that it judges. -/
theorem wholePanels_of_agrees (h : ∀ before now,
      Agrees validateRegexPattern run earlier current before now filter)
    (hname : nonempty filter.metricName ≠ none) (hb : b ∈ matching run current filter)
    (hleaves : b.MayLeave run) (hkind : b.benchmarkType = .metric) :
    b.applicationDashboardId = none := by
  obtain ⟨name, hsome⟩ := Option.ne_none_iff_exists'.1 hname
  have hnonempty : name ≠ "" := of_decide_eq_true (Option.filter_eq_some_iff.1 hsome).2
  have hother : name ++ "'" ≠ name := fun heq => by
    have hlength := congrArg String.length heq
    rw [String.length_append] at hlength
    exact absurd hlength (Nat.ne_of_gt (Nat.lt_add_of_pos_right (by decide)))
  by_contra hdashboard
  obtain ⟨id, hid⟩ := Option.ne_none_iff_exists'.1 hdashboard
  -- Every panel has a series of that name, and another one.
  let stats := seriesRows [name, name ++ "'"]
  have hall : (stats.filter fun stat =>
      (nonempty none).all fun name => stat.metricName = name) = seriesRows [name, name ++ "'"] :=
    List.filter_eq_self.2 fun _ _ => rfl
  have hone : (stats.filter fun stat => (nonempty filter.metricName).all fun name =>
      stat.metricName = name) = seriesRows [name] := by
    simp [hsome, stats, seriesRows, flatRow, hother]
  have hvalid : ∀ filter, ∀ b ∈ matching run current filter, b.benchmarkType = .metric →
      b.hasValidRequirement = true := fun _ b => hasValidRequirement_of_mem
  have hfull : b ∈ matching run current {} := by
    rw [matching_filter] at hb
    exact (List.mem_filter.1 hb).1
  obtain ⟨document, hlength, hprocess⟩ := exists_processBenchmark_series
    validateRegexPattern (.ok plainDocument) hleaves hkind (hvalid _ b hb hkind) hid _ hall
    (List.cons_ne_nil _ _) (by simp [hnonempty])
  obtain ⟨document', hlength', hprocess'⟩ := exists_processBenchmark_series
    validateRegexPattern (.ok plainDocument) hleaves hkind (hvalid _ b hb hkind) hid _ hone
    (List.cons_ne_nil _ _) (by simp [hnonempty])
  have hagrees := h (plainData [] (.ok plainDocument)) (plainData stats (.ok plainDocument))
  have hsame := fun b hb => sameRows_of_agrees (b := b) hagrees hb
  have hsource := noSource_of_agrees hagrees
  obtain ⟨rows', hrows', hperm⟩ := hagrees
  rw [reevaluate_of_noSource hsource, Option.some_inj, filter_deletes hsame] at hrows'
  subst hrows'
  have hmem : b.row document ∈ (fullEvaluation validateRegexPattern run
      (plainData stats (.ok plainDocument)) current).filter fun row =>
        decide (row.benchmarkId ∈ (matching run current filter).map Benchmark.id) := by
    refine List.mem_filter.2 ⟨?_, decide_eq_true (List.mem_map_of_mem hb)⟩
    exact (mem_evaluateBenchmarks_plain (by rw [hall]; exact List.cons_ne_nil _ _)
      (hvalid {})).2 ⟨b, hfull, hprocess⟩
  rcases List.mem_append.1 (hperm.mem_iff.2 (List.mem_append_right _ hmem)) with hkept | hnew
  · -- The old row of a benchmark that is matched is not kept.
    have hnot := (List.mem_filter.1 hkept).2
    rw [Bool.not_eq_true', decide_eq_false_iff_not] at hnot
    exact hnot (List.mem_map_of_mem hb)
  · obtain ⟨b', hb', hprocess''⟩ := (mem_evaluateBenchmarks_plain
      (by rw [hone]; exact List.cons_ne_nil _ _) (hvalid filter)).1 hnew
    obtain ⟨⟨saved, hsaved⟩, -⟩ := processBenchmark_saves validateRegexPattern run
      (plainData stats (.ok plainDocument)) filter.metricName b' fun _ _ => stats
    rw [hprocess'', eq_comm, Option.map_eq_some_iff] at hsaved
    obtain ⟨document'', -, hrow⟩ := hsaved
    have heq : b' = b := eq_of_id_eq (mem_matching.1 hb').1 (mem_matching.1 hb).1
      (congrArg CheckResultRow.benchmarkId hrow)
    rw [heq, hprocess', Option.some_inj] at hprocess''
    have htargets := congrArg (fun row : CheckResultRow => row.targets.length) hprocess''
    have htwo : document'.targets.length = document.targets.length := htargets
    rw [hlength, hlength'] at htwo
    cases htwo

/-- Whatever the data, a re-evaluation leaves what it should if and only if the readings
    of its filter correspond. -/
theorem agrees_iff (validateRegexPattern : String → Option (String → Bool)) (run : CheckedTestRun)
    (earlier current : Benchmarks) (filter : Filter) :
    (∀ before now, Agrees validateRegexPattern run earlier current before now filter) ↔
      Corresponds run earlier current filter := by
  constructor
  · intro h
    have hagrees := h (plainData [] (.ok plainDocument)) (plainData [] (.ok plainDocument))
    exact
      { noSource := noSource_of_agrees hagrees
        sameRows := fun b hb hleaves => sameRows_of_agrees hagrees hb hleaves
        wholePanels := fun hname b hb => wholePanels_of_agrees h hname hb }
  · exact fun h before now => agrees_of_corresponds h

end Agreement

/-! ## A panel judged on one of its series -/

def shopRun : CheckedTestRun := ⟨"shop", "acc", "load", some "acme"⟩

/-- A benchmark on a panel of response times. -/
def responseTimes : Benchmarks where
  rows :=
    [{ panelId := some 3, matchPattern := none, invertMatchPattern := false
       requirementOperator := none, requirementValue := some (some 5), averageAll := false
       evaluateType := none, validateWithDefaultIfNoData := false
       validateWithDefaultIfNoDataValue := none, id := "response times"
       systemUnderTestId := "shop", testEnvironment := "acc", workload := "load"
       organizationId := some "acme", dashboardLabel := none
       applicationDashboardId := some "web", columnMatchPattern := none, valid := true
       enabled := true, benchmarkType := .metric, minApdexScore := none
       aggregateMetric := none }]
  nodup := by decide

/-- A re-evaluation of one series leaves the panel judged on that series, though nothing
    has changed. -/
theorem not_agrees_oneSeries :
    ¬Agrees (fun _ => none) shopRun responseTimes responseTimes
      (plainData (seriesRows ["checkout", "login"]) (.error ""))
      (plainData (seriesRows ["checkout", "login"]) (.error ""))
      { metricName := some "checkout" } := by
  have htest : (reevaluate (fun _ => none) shopRun
      (plainData (seriesRows ["checkout", "login"]) (.error "")) responseTimes
      { metricName := some "checkout" } (fullEvaluation (fun _ => none) shopRun
        (plainData (seriesRows ["checkout", "login"]) (.error "")) responseTimes)).all (fun rows =>
          rows.all fun row => row.targets.length = 1) = true := by decide +kernel
  have hfull : ((fullEvaluation (fun _ => none) shopRun
      (plainData (seriesRows ["checkout", "login"]) (.error "")) responseTimes).filter fun row =>
        decide (row.benchmarkId ∈ (matching shopRun responseTimes
          { metricName := some "checkout" }).map Benchmark.id)).any (fun row =>
            row.targets.length = 2) = true := by decide +kernel
  rintro ⟨rows', hrows', hperm⟩
  obtain ⟨row, hrow, htwo⟩ := List.any_eq_true.1 hfull
  rw [hrows', Option.all_some, List.all_eq_true] at htest
  have hone := htest row (hperm.mem_iff.2 (List.mem_append_right _ hrow))
  rw [decide_eq_true_iff] at hone htwo
  rw [hone] at htwo
  cases htwo

end Reevaluation

end Perfana
