import Perfana.Benchmarks.Benchmark
import Perfana.Lib.Run

/-!
# Copying benchmarks to another scope

The benchmarks of a scope are copied to another one, one by one. Before each a query looks for
a benchmark of the target that is taken to be the same, among them the copies that were just
made; if it finds one, the benchmark is left out or written over it. The query looks at the
dashboard, the generic check and the titles, but not at the series or the statistic, and a
column that is null, or empty, is left out of it.

* `copyToScope_faithful`: a copy is faithful if the query tells the benchmarks that are copied
  from each other and from those of the target;
* `not_faithful_variants`: of two benchmarks on one panel the second is taken to be the copy of
  the first.
-/

namespace Perfana

/-! ## The program -/

/-- What happens to a benchmark that is taken to be in the target. -/
inductive ConflictStrategy
  | skip
  | overwrite
deriving DecidableEq

/-- A request to copy benchmarks. -/
structure CopyBenchmarksDto where
  source : BenchmarkScope
  target : BenchmarkScope
  conflictStrategy : ConflictStrategy
  /-- The benchmarks to copy; all of the scope if there are none. -/
  ids : Option (List String)

/-- The benchmark is one to copy. -/
def CopyBenchmarksDto.selects (dto : CopyBenchmarksDto) (id : String) (b : Benchmark) : Bool :=
  b.scope = dto.source && dto.ids.all fun ids => ids.isEmpty || ids.contains id

/-- The benchmarks to copy. -/
def CopyBenchmarksDto.selected (dto : CopyBenchmarksDto) (table : BenchmarkTable) :
    List (String × Benchmark) :=
  table.rows.rows.filter fun row => dto.selects row.1 row.2

/-- The conditions of a query on the columns; those that are null are left out. -/
structure ConflictKey where
  benchmarkType : BenchmarkType
  transactionName : Option String := none
  aggregateMetric : Option AggregateMetric := none
  aggregateStat : Option AggregateStat := none
  applicationDashboardId : Option String := none
  genericCheckId : Option String := none
  configTitle : Option String := none
  panelTitle : Option String := none

/-- What identifies the same benchmark inside one scope. -/
def conflictKey (b : BenchmarkColumns) : ConflictKey :=
  match b.benchmarkType with
  | .apdex => { benchmarkType := .apdex, transactionName := b.transactionName }
  | .aggregated => {
      benchmarkType := .aggregated
      aggregateMetric := b.aggregateMetric
      aggregateStat := b.aggregateStat }
  | .metric => {
      benchmarkType := .metric
      applicationDashboardId := b.applicationDashboardId.filter (· ≠ "")
      genericCheckId := b.genericCheckId.filter (· ≠ "")
      configTitle := b.configTitle.filter (· ≠ "")
      panelTitle := b.panelTitle.filter (· ≠ "") }

/-- A column has the value of a condition, if there is one. -/
def meets {α : Type} [DecidableEq α] (condition column : Option α) : Bool :=
  condition.all fun value => column = some value

/-- The columns meet the conditions. -/
def ConflictKey.matches (key : ConflictKey) (b : BenchmarkColumns) : Bool :=
  b.benchmarkType = key.benchmarkType && meets key.transactionName b.transactionName &&
    meets key.aggregateMetric b.aggregateMetric && meets key.aggregateStat b.aggregateStat &&
    meets key.applicationDashboardId b.applicationDashboardId &&
    meets key.genericCheckId b.genericCheckId && meets key.configTitle b.configTitle &&
    meets key.panelTitle b.panelTitle

/-- A system. -/
structure SystemUnderTest where
  organizationId : String
  teamId : Option String
  createdBy : Option String

/-- Why benchmarks are not copied. -/
inductive CopyError
  | forbidden (message : String)
  | query (error : QueryFailedError)
deriving DecidableEq

/-- The system, if the user may access it. -/
def validateSystemAccess (systems : String → Option SystemUnderTest)
    (canAccessResource : SystemUnderTest → Bool) (systemId : String) :
    Except CopyError SystemUnderTest :=
  match systems systemId with
  | none => .error (.forbidden s!"System under test {systemId} not found")
  | some system =>
    if canAccessResource system then .ok system
    else .error (.forbidden "You do not have access to this system")

/-- What the database answers: the orders in which it reads the rows, and the ids it draws. -/
structure CopyAnswers (table : BenchmarkTable) where
  /-- The order in which the benchmarks to copy are read. -/
  findOrder : RowOrder (String × Benchmark)
  /-- The order in which the query before a benchmark reads. -/
  probeOrder : String → RowOrder (String × Benchmark)
  /-- The id of the copy of a benchmark. -/
  newId : String → String
  /-- No two copies have the same id. -/
  newId_injective : newId.Injective
  /-- No benchmark had it. -/
  newId_fresh : ∀ id, table.rows.get (newId id) = none

/-- What became of a benchmark to copy. -/
inductive Outcome
  /-- A row of the target was taken to be the same, and left. -/
  | skipped (id : String)
  /-- It was written over. -/
  | overwritten (id : String)
  /-- A row was added. -/
  | copied (id : String)
  /-- The index on the targets refused the write. -/
  | refused
deriving DecidableEq

namespace Outcome

/-- The row of the target that stands for the benchmark. -/
def row : Outcome → Option String
  | .skipped id | .overwritten id | .copied id => some id
  | .refused => none

/-- The benchmark was copied. -/
def isCopy : Outcome → Bool
  | .overwritten _ | .copied _ => true
  | .skipped _ | .refused => false

end Outcome

/-- What the loop has done so far. -/
structure CopyState where
  table : BenchmarkTable
  copied : ℕ
  skipped : ℕ
  /-- What became of each benchmark. -/
  settled : List (String × Outcome)

/-- Count a benchmark. -/
def CopyState.settle (s : CopyState) (id : String) (outcome : Outcome) : CopyState where
  table := s.table
  copied := if outcome.isCopy then s.copied + 1 else s.copied
  skipped := if outcome.isCopy then s.skipped else s.skipped + 1
  settled := s.settled ++ [(id, outcome)]

/-- Run one write, without effect if the index on the targets refuses it. -/
def saveSkippingDuplicateTarget (write : Except QueryFailedError BenchmarkTable) :
    Except QueryFailedError (Option BenchmarkTable) :=
  match write with
  | .ok table => .ok (some table)
  | .error error => if isDuplicateSloTargetError error then .ok none else .error error

/-- What became of the copying. -/
structure CopyResult where
  copied : ℕ
  skipped : ℕ
  total : ℕ
  table : BenchmarkTable
  settled : List (String × Outcome)

section

variable (systems : String → Option SystemUnderTest) (canAccessResource : SystemUnderTest → Bool)
  (userId : String) (dto : CopyBenchmarksDto) {table : BenchmarkTable}
  (answers : CopyAnswers table)

/-- The row is one of the target that is taken to be the same as a benchmark. -/
def probed (b row : Benchmark) : Bool :=
  row.scope = dto.target && (conflictKey b.columns).matches row.columns

/-- Copy a benchmark. -/
def copyOne (targetSystem : SystemUnderTest) (s : CopyState) (benchmark : String × Benchmark) :
    Except QueryFailedError CopyState :=
  let existing := s.table.rows.findOne (answers.probeOrder benchmark.1) (probed dto benchmark.2)
  match existing, dto.conflictStrategy with
  | some (id, _), .skip => .ok (s.settle benchmark.1 (.skipped id))
  | some (id, _), .overwrite => do
    let overwritten ← saveSkippingDuplicateTarget (s.table.update id fun row =>
      { row with columns := benchmark.2.columns, updatedBy := some userId })
    match overwritten with
    | none => .ok (s.settle benchmark.1 .refused)
    | some table => .ok ({ s with table }.settle benchmark.1 (.overwritten id))
  | none, _ => do
    let inserted ← saveSkippingDuplicateTarget (s.table.save (answers.newId benchmark.1) {
      scope := dto.target
      columns := benchmark.2.columns
      organizationId := targetSystem.organizationId
      teamId := targetSystem.teamId
      createdBy := some userId
      updatedBy := some userId
      baselineTestRunId := none })
    match inserted with
    | none => .ok (s.settle benchmark.1 .refused)
    | some table => .ok ({ s with table }.settle benchmark.1 (.copied (answers.newId benchmark.1)))

/-- The benchmarks to copy, in the order in which they are read. -/
def CopyAnswers.sources : List (String × Benchmark) :=
  (answers.findOrder.read table.rows.rows).filter fun row => dto.selects row.1 row.2

/-- Copy the benchmarks of a scope to another one. -/
def copyToScope : Except CopyError CopyResult := do
  let _ ← validateSystemAccess systems canAccessResource dto.source.systemUnderTestId
  let targetSystem ← validateSystemAccess systems canAccessResource dto.target.systemUnderTestId
  let sources := answers.sources dto
  let s ← (sources.foldlM (copyOne userId dto answers targetSystem) ⟨table, 0, 0, []⟩).mapError
    .query
  return ⟨s.copied, s.skipped, sources.length, s.table, s.settled⟩

end

/-! ## Faithful copies -/

/-- What makes two benchmarks of a scope the same. -/
inductive SloIdentity
  | apdex (transactionName : Option String)
  | aggregated (metric : Option AggregateMetric) (stat : Option AggregateStat)
  | metric (applicationDashboardId panelId : Option String) (seriesPattern invertPattern : String)
      (averageAll : Bool) (evaluateType : String)
deriving DecidableEq

/-- The transaction of a benchmark, its aggregate, or its panel, its series and its statistic. -/
def BenchmarkColumns.identity (b : BenchmarkColumns) : SloIdentity :=
  match b.benchmarkType with
  | .apdex => .apdex b.transactionName
  | .aggregated => .aggregated b.aggregateMetric b.aggregateStat
  | .metric => .metric b.applicationDashboardId (b.configuration.text "id") b.seriesPattern
      b.invertPattern b.averageAll (b.evaluateType.getD "")

section

variable (dto : CopyBenchmarksDto) (table : BenchmarkTable)

/-- The row of a table stands for a benchmark in the target. -/
def StandsFor (b : Benchmark) (after : BenchmarkTable) (id : String) : Prop :=
  ∃ row, after.rows.get id = some row ∧ row.scope = dto.target ∧
    row.columns.identity = b.columns.identity

/-- A row has the columns of a benchmark in the target. -/
def Copies (b : Benchmark) (after : BenchmarkTable) (id : String) : Prop :=
  ∃ row, after.rows.get id = some row ∧ row.scope = dto.target ∧ row.columns = b.columns

/-- What became of a benchmark is that it has its copy, or the same benchmark, in the target,
    unless the index refused it. -/
def Settles (b : Benchmark) (after : BenchmarkTable) : Outcome → Prop
  | .skipped id => StandsFor dto b after id
  | .overwritten id | .copied id => Copies dto b after id
  | .refused => True

/-- The benchmarks are copied faithfully. -/
structure Faithful (result : CopyResult) : Prop where
  /-- Nothing changes in other scopes. -/
  other : ∀ id row, row.scope ≠ dto.target →
    (result.table.rows.get id = some row ↔ table.rows.get id = some row)
  /-- No benchmark is changed if those of the target are left. -/
  skip : dto.conflictStrategy = .skip → ∀ id row, table.rows.get id = some row →
    result.table.rows.get id = some row
  /-- One that is changed is the same as one that is copied; none is lost. -/
  overwrite : ∀ id row, table.rows.get id = some row → row.scope = dto.target →
    result.table.rows.get id = some row ∨
      (∃ row', result.table.rows.get id = some row' ∧ row'.scope = dto.target) ∧
      ∃ b ∈ dto.selected table, row.columns.identity = b.2.columns.identity
  /-- Every benchmark to copy has a copy of its own, or is there, unless it is refused. -/
  own : ∀ b ∈ dto.selected table,
    ∃ outcome, (b.1, outcome) ∈ result.settled ∧ Settles dto b.2 result.table outcome
  /-- No two have the same row. -/
  apart : ∀ id id' outcome outcome' row, (id, outcome) ∈ result.settled →
    (id', outcome') ∈ result.settled → outcome.row = some row → outcome'.row = some row → id = id'
  /-- Every one is counted. -/
  counted : result.copied + result.skipped = result.total ∧
    result.total = (dto.selected table).length

/-- The query before a benchmark tells it from the others: what it can find in the target is the
    same benchmark, and neither another benchmark to copy nor one that another one's query can
    find, too; and it finds a benchmark of the target that was made for the same generic check,
    and no other. -/
structure Distinguishes : Prop where
  same : ∀ b ∈ dto.selected table, ∀ row ∈ table.rows.rows, probed dto b.2 row.2 = true →
    row.2.columns.identity = b.2.columns.identity
  apart : ∀ b ∈ dto.selected table, ∀ b' ∈ dto.selected table,
    (conflictKey b.2.columns).matches b'.2.columns = true → b.1 = b'.1
  once : ∀ b ∈ dto.selected table, ∀ b' ∈ dto.selected table, ∀ row ∈ table.rows.rows,
    probed dto b.2 row.2 = true → probed dto b'.2 row.2 = true → b.1 = b'.1
  check : ∀ b ∈ dto.selected table, ∀ row ∈ table.rows.rows, row.2.genericCheck ≠ none →
    ({ b.2 with scope := dto.target } : Benchmark).genericCheck = row.2.genericCheck →
      ∀ row' ∈ table.rows.rows, (probed dto b.2 row'.2 = true ↔ row'.1 = row.1)

end

/-! ## The loop -/

theorem CopyBenchmarksDto.get_of_selected {dto : CopyBenchmarksDto} {table : BenchmarkTable}
    {b : String × Benchmark} (h : b ∈ dto.selected table) : table.rows.get b.1 = some b.2 :=
  Table.mem_rows.1 (List.mem_of_mem_filter h)

/-- A benchmark to copy is of the source. -/
theorem CopyBenchmarksDto.scope_of_selected {dto : CopyBenchmarksDto} {table : BenchmarkTable}
    {b : String × Benchmark} (h : b ∈ dto.selected table) : b.2.scope = dto.source :=
  of_decide_eq_true (Bool.and_eq_true_iff.1 (List.mem_filter.1 h).2).1

theorem mem_sources {table : BenchmarkTable} {answers : CopyAnswers table}
    {dto : CopyBenchmarksDto} {b : String × Benchmark} :
    b ∈ answers.sources dto ↔ b ∈ dto.selected table := by
  rw [CopyAnswers.sources, CopyBenchmarksDto.selected, List.mem_filter, List.mem_filter,
    (answers.findOrder.perm _).mem_iff]

/-- Every benchmark is read once. -/
theorem nodup_sources {table : BenchmarkTable} (answers : CopyAnswers table)
    (dto : CopyBenchmarksDto) : ((answers.sources dto).map Prod.fst).Nodup := by
  have hread : ((answers.findOrder.read table.rows.rows).map Prod.fst).Nodup :=
    ((answers.findOrder.perm _).map Prod.fst).nodup_iff.2 table.rows.nodup
  exact hread.sublist (List.filter_sublist.map _)

section

variable (dto : CopyBenchmarksDto) {table : BenchmarkTable} (answers : CopyAnswers table)

/-- What became of a benchmark, so far: the row that was taken to be the same was there before. -/
def SettledAs (s : CopyState) (benchmark : String × Benchmark) : Outcome → Prop
  | .skipped id => ∃ row, table.rows.get id = some row ∧ s.table.rows.get id = some row ∧
      probed dto benchmark.2 row = true
  | .overwritten id => table.rows.get id ≠ none ∧ Copies dto benchmark.2 s.table id
  | .copied id => id = answers.newId benchmark.1 ∧ Copies dto benchmark.2 s.table id
  | .refused => True

/-- A row has the columns of one of the benchmarks, which it stands for. -/
def WrittenFor (gone : List (String × Benchmark)) (settled : List (String × Outcome)) (id : String)
    (row : Benchmark) : Prop :=
  ∃ b ∈ gone, ∃ outcome, (b.1, outcome) ∈ settled ∧ outcome.row = some id ∧
    row.columns = b.2.columns ∧ row.scope = dto.target

/-- What holds of the loop when it has gone through some benchmarks. -/
structure CopyInv (gone : List (String × Benchmark)) (s : CopyState) : Prop where
  /-- A row of the table was there before, or has the columns of a benchmark. -/
  origin : ∀ id row, s.table.rows.get id = some row → table.rows.get id = some row ∨
    WrittenFor dto gone s.settled id row
  /-- A row that was there is left, or written over where the query may find it. -/
  kept : ∀ id row, table.rows.get id = some row → s.table.rows.get id = some row ∨
    dto.conflictStrategy = .overwrite ∧ (∃ b ∈ gone, probed dto b.2 row = true) ∧
      ∃ row', s.table.rows.get id = some row' ∧ row'.scope = dto.target
  settled : ∀ id outcome, (id, outcome) ∈ s.settled →
    ∃ b, (id, b) ∈ gone ∧ SettledAs dto answers s (id, b) outcome
  /-- No two have the same row. -/
  apart : (s.settled.filterMap fun entry => entry.2.row).Nodup
  ids : s.settled.map Prod.fst = gone.map Prod.fst
  counted : s.copied + s.skipped = s.settled.length

end

/-- A write that the index on the generic checks does not refuse is skipped if the index on the
    targets refuses it, and made otherwise. -/
theorem saveSkippingDuplicateTarget_save {t : BenchmarkTable} {id : String} {b : Benchmark}
    (hcheck : t.rows.conflicts Benchmark.genericCheck id b = false) :
    saveSkippingDuplicateTarget (t.save id b) = .ok none ∨
      ∃ t', t.save id b = .ok t' ∧ saveSkippingDuplicateTarget (t.save id b) = .ok (some t') := by
  cases hsave : t.save id b with
  | ok t' => exact .inr ⟨t', rfl, rfl⟩
  | error error =>
    rcases BenchmarkTable.save_error.1 hsave with ⟨htrue, -⟩ | ⟨-, -, rfl⟩
    · rw [hcheck] at htrue
      cases htrue
    · exact .inl rfl

section Step

variable {userId : String} {dto : CopyBenchmarksDto} {table : BenchmarkTable}
  {answers : CopyAnswers table} {targetSystem : SystemUnderTest}
  {gone : List (String × Benchmark)} {s : CopyState} {id : String} {b row : Benchmark}

theorem probed_iff : probed dto b row = true ↔
    row.scope = dto.target ∧ (conflictKey b.columns).matches row.columns = true := by
  rw [probed, Bool.and_eq_true, decide_eq_true_eq]

/-- The row that stands for a benchmark is there. -/
theorem SettledAs.get {benchmark : String × Benchmark} {outcome : Outcome}
    (h : SettledAs dto answers s benchmark outcome) (hrow : outcome.row = some id) :
    ∃ row, s.table.rows.get id = some row ∧ row.scope = dto.target ∧
      (row.columns = benchmark.2.columns ∨
        table.rows.get id = some row ∧ probed dto benchmark.2 row = true) := by
  cases outcome with
  | skipped id' =>
    obtain rfl := Option.some.inj hrow
    obtain ⟨row, hbefore, hget, hprobed⟩ := h
    exact ⟨row, hget, (probed_iff.1 hprobed).1, .inr ⟨hbefore, hprobed⟩⟩
  | overwritten id' =>
    obtain rfl := Option.some.inj hrow
    obtain ⟨-, row, hget, hscope, hcolumns⟩ := h
    exact ⟨row, hget, hscope, .inl hcolumns⟩
  | copied id' =>
    obtain rfl := Option.some.inj hrow
    obtain ⟨-, row, hget, hscope, hcolumns⟩ := h
    exact ⟨row, hget, hscope, .inl hcolumns⟩
  | refused => cases hrow

/-- It was there before, or its id was drawn for the benchmark. -/
theorem SettledAs.known {benchmark : String × Benchmark} {outcome : Outcome}
    (h : SettledAs dto answers s benchmark outcome) (hrow : outcome.row = some id) :
    table.rows.get id ≠ none ∨ id = answers.newId benchmark.1 := by
  cases outcome with
  | skipped id' =>
    obtain rfl := Option.some.inj hrow
    obtain ⟨row, hbefore, -⟩ := h
    exact .inl (Option.ne_none_iff_exists'.2 ⟨row, hbefore⟩)
  | overwritten id' =>
    obtain rfl := Option.some.inj hrow
    exact .inl h.1
  | copied id' =>
    obtain rfl := Option.some.inj hrow
    exact .inr h.1
  | refused => cases hrow

/-- What became of a benchmark is not changed by a write to another row. -/
theorem SettledAs.frame {s' : CopyState} {benchmark : String × Benchmark} {outcome : Outcome}
    (h : SettledAs dto answers s benchmark outcome)
    (hframe : ∀ id, outcome.row = some id → s'.table.rows.get id = s.table.rows.get id) :
    SettledAs dto answers s' benchmark outcome := by
  cases outcome with
  | skipped id =>
    obtain ⟨row, hbefore, hget, hprobed⟩ := h
    exact ⟨row, hbefore, (hframe id rfl).trans hget, hprobed⟩
  | overwritten id =>
    obtain ⟨hbefore, row, hget, h⟩ := h
    exact ⟨hbefore, row, (hframe id rfl).trans hget, h⟩
  | copied id =>
    obtain ⟨hnew, row, hget, h⟩ := h
    exact ⟨hnew, row, (hframe id rfl).trans hget, h⟩
  | refused => trivial

/-- No row has the id that is drawn for the benchmark. -/
theorem CopyInv.get_newId (hinv : CopyInv dto answers gone s) (hnew : id ∉ gone.map Prod.fst) :
    s.table.rows.get (answers.newId id) = none := by
  rw [← Option.not_isSome_iff_eq_none, Option.isSome_iff_exists]
  rintro ⟨row, hrow⟩
  have hfresh := answers.newId_fresh id
  rcases hinv.origin _ row hrow with hbefore | ⟨x, hx, outcome, hentry, hsome, -, -⟩
  · rw [hfresh] at hbefore
    cases hbefore
  · obtain ⟨b', hb', hsettled⟩ := hinv.settled x.1 outcome hentry
    rcases hsettled.known hsome with hbefore | hid
    · exact hbefore hfresh
    · exact hnew (List.mem_map.2 ⟨x, hx, (answers.newId_injective hid).symm⟩)

/-- A benchmark is settled with a row that stands for no other, written or not. -/
theorem CopyInv.settle (hinv : CopyInv dto answers gone s) {after : BenchmarkTable}
    {outcome : Outcome}
    (hframe : ∀ id', outcome.row ≠ some id' → after.rows.get id' = s.table.rows.get id')
    (hapart : ∀ entry ∈ s.settled, ∀ id', outcome.row = some id' → entry.2.row ≠ some id')
    (hrow : ∀ id', outcome.row = some id' → after.rows.get id' = s.table.rows.get id' ∨
      (Copies dto b after id' ∧ ∀ row, table.rows.get id' = some row →
        dto.conflictStrategy = .overwrite ∧ probed dto b row = true))
    (hsettled : SettledAs dto answers { s with table := after } (id, b) outcome) :
    CopyInv dto answers (gone ++ [(id, b)]) ({ s with table := after }.settle id outcome) where
  origin := by
    intro id' row hget
    have hold : s.table.rows.get id' = some row → table.rows.get id' = some row ∨
        WrittenFor dto (gone ++ [(id, b)]) (s.settled ++ [(id, outcome)]) id' row := by
      intro hget
      rcases hinv.origin id' row hget with hbefore | ⟨x, hx, outcome', hentry, h⟩
      · exact .inl hbefore
      · exact .inr ⟨x, List.mem_append_left _ hx, outcome', List.mem_append_left _ hentry, h⟩
    by_cases hsome : outcome.row = some id'
    · rcases hrow id' hsome with heq | ⟨⟨written, hwritten, hscope, hcolumns⟩, -⟩
      · exact hold (heq.symm.trans hget)
      · obtain rfl := Option.some.inj (hwritten.symm.trans hget)
        exact .inr ⟨(id, b), List.mem_append_right _ List.mem_cons_self, outcome,
          List.mem_append_right _ List.mem_cons_self, hsome, hcolumns, hscope⟩
    · exact hold ((hframe id' hsome).symm.trans hget)
  kept := by
    intro id' row hbefore
    have hkeep : after.rows.get id' = s.table.rows.get id' → after.rows.get id' = some row ∨
        dto.conflictStrategy = .overwrite ∧
          (∃ x ∈ gone ++ [(id, b)], probed dto x.2 row = true) ∧
          ∃ row', after.rows.get id' = some row' ∧ row'.scope = dto.target := by
      intro heq
      rw [heq]
      rcases hinv.kept id' row hbefore with hsame | ⟨hstrategy, ⟨x, hx, hprobed⟩, hrow'⟩
      · exact .inl hsame
      · exact .inr ⟨hstrategy, ⟨x, List.mem_append_left _ hx, hprobed⟩, hrow'⟩
    by_cases hsome : outcome.row = some id'
    · rcases hrow id' hsome with heq | ⟨⟨written, hwritten, hscope, -⟩, hprobed⟩
      · exact hkeep heq
      · obtain ⟨hstrategy, hprobed⟩ := hprobed row hbefore
        exact .inr ⟨hstrategy, ⟨(id, b), List.mem_append_right _ List.mem_cons_self, hprobed⟩,
          written, hwritten, hscope⟩
    · exact hkeep (hframe id' hsome)
  settled := by
    intro id' outcome' hentry
    rcases List.mem_append.1 hentry with hentry | hentry
    · obtain ⟨x, hx, hsettled'⟩ := hinv.settled id' outcome' hentry
      refine ⟨x, List.mem_append_left _ hx, hsettled'.frame fun id'' hsome => hframe id'' ?_⟩
      exact fun hrow' => hapart _ hentry id'' hrow' hsome
    · obtain ⟨rfl, rfl⟩ := Prod.mk.inj (List.mem_singleton.1 hentry)
      exact ⟨b, List.mem_append_right _ List.mem_cons_self, hsettled⟩
  apart := by
    rw [CopyState.settle, List.filterMap_append]
    refine hinv.apart.append ?_ ?_
    · cases hsome : outcome.row <;> simp [hsome]
    · intro id' hold hthis
      obtain ⟨entry, hentry, hsome⟩ := List.mem_filterMap.1 hold
      obtain ⟨entry', hentry', hsome'⟩ := List.mem_filterMap.1 hthis
      rw [List.mem_singleton.1 hentry'] at hsome'
      exact hapart entry hentry id' hsome' hsome
  ids := by
    rw [CopyState.settle, List.map_append, List.map_append, hinv.ids]
    rfl
  counted := by
    have hcounted := hinv.counted
    cases hcopy : outcome.isCopy <;> simp [CopyState.settle, hcopy] <;> omega

variable (hcond : Distinguishes dto table) (hinv : CopyInv dto answers gone s)
  (hgone : ∀ x ∈ gone, x ∈ dto.selected table) (hmem : (id, b) ∈ dto.selected table)
  (hnew : id ∉ gone.map Prod.fst)

include hcond hinv hgone hmem hnew

/-- What the query finds was there before, and stands for no benchmark yet. -/
theorem CopyInv.of_probed {id' : String} (hrow : s.table.rows.get id' = some row)
    (hprobed : probed dto b row = true) :
    table.rows.get id' = some row ∧ ∀ entry ∈ s.settled, entry.2.row ≠ some id' := by
  -- The columns of a benchmark that is gone do not meet the conditions of this one.
  have hother : ∀ x ∈ gone, row.columns ≠ x.2.columns := by
    intro x hx hcolumns
    have hmatches := (probed_iff.1 hprobed).2
    rw [hcolumns] at hmatches
    have hid := hcond.apart _ hmem x (hgone x hx) hmatches
    exact hnew (List.mem_map.2 ⟨x, hx, hid.symm⟩)
  constructor
  · rcases hinv.origin id' row hrow with hbefore | ⟨x, hx, -, -, -, hcolumns, -⟩
    · exact hbefore
    · exact absurd hcolumns (hother x hx)
  · rintro ⟨id'', outcome⟩ hentry hsome
    obtain ⟨b', hb', hsettled⟩ := hinv.settled id'' outcome hentry
    obtain ⟨row', hrow', -, hwhich⟩ := hsettled.get hsome
    obtain rfl := Option.some.inj (hrow.symm.trans hrow')
    rcases hwhich with hcolumns | ⟨hbefore, hprobed'⟩
    · exact hother _ hb' hcolumns
    · have hid := hcond.once _ hmem _ (hgone _ hb') (id', row) (Table.mem_rows.2 hbefore) hprobed
        hprobed'
      exact hnew (List.mem_map.2 ⟨_, hb', hid.symm⟩)

/-- A row with the generic check of the benchmark in the target is the one that the query
    finds. -/
theorem CopyInv.of_genericCheck {id' : String} (hrow : s.table.rows.get id' = some row)
    (hcheck : row.genericCheck ≠ none)
    (heq : ({ b with scope := dto.target } : Benchmark).genericCheck = row.genericCheck) :
    table.rows.get id' = some row ∧ ∀ id'' row', table.rows.get id'' = some row' →
      (probed dto b row' = true ↔ id'' = id') := by
  rcases hinv.origin id' row hrow with hbefore | ⟨x, hx, -, -, -, hcolumns, hscope⟩
  · refine ⟨hbefore, fun id'' row' hrow' => ?_⟩
    exact hcond.check _ hmem (id', row) (Table.mem_rows.2 hbefore) hcheck heq (id'', row')
      (Table.mem_rows.2 hrow')
  · -- A benchmark that is gone would have the generic check of this one in the source.
    exfalso
    have hsource : b.scope = x.2.scope :=
      (CopyBenchmarksDto.scope_of_selected hmem).trans
        (CopyBenchmarksDto.scope_of_selected (hgone x hx)).symm
    obtain ⟨check, hsome⟩ := Option.ne_none_iff_exists'.1 hcheck
    rw [hsome] at heq
    simp only [Benchmark.genericCheck, Option.bind_eq_bind, Option.bind_eq_some_iff,
      Option.some.injEq, hcolumns] at heq hsome
    obtain ⟨dashboard, hdashboard, genericCheckId, hgeneric, hkey⟩ := heq
    obtain ⟨dashboard', hdashboard', genericCheckId', hgeneric', hkey'⟩ := hsome
    obtain ⟨hd, hg⟩ := Prod.mk.inj (Prod.mk.inj (hkey.trans hkey'.symm)).2
    have hown : b.genericCheck = some (b.scope, dashboard, genericCheckId) := by
      rw [Benchmark.genericCheck, hdashboard, hgeneric]
      rfl
    have hother : x.2.genericCheck = some (b.scope, dashboard, genericCheckId) := by
      rw [Benchmark.genericCheck, hdashboard', hgeneric', ← hd, ← hg, hsource]
      rfl
    have hid := table.uniqueGenericCheck id b x.1 x.2 _ (CopyBenchmarksDto.get_of_selected hmem)
      (CopyBenchmarksDto.get_of_selected (hgone x hx)) hown hother
    exact hnew (List.mem_map.2 ⟨x, hx, hid.symm⟩)

/-- The index on the generic checks does not refuse to write over what the query finds. -/
theorem CopyInv.conflicts_overwrite {id' : String} (hrow : s.table.rows.get id' = some row)
    (hprobed : probed dto b row = true) {written : Benchmark} (hscope : written.scope = dto.target)
    (hcolumns : written.columns = b.columns) :
    s.table.rows.conflicts Benchmark.genericCheck id' written = false := by
  rw [Bool.eq_false_iff]
  intro hconflict
  obtain ⟨id'', row'', check, hne, hrow'', hcheck, hwritten⟩ := Table.conflicts_iff.1 hconflict
  have heq : ({ b with scope := dto.target } : Benchmark).genericCheck = row''.genericCheck := by
    rw [hcheck, ← hwritten, Benchmark.genericCheck, Benchmark.genericCheck, hcolumns, hscope]
  obtain ⟨-, honly⟩ := hinv.of_genericCheck hcond hgone hmem hnew hrow''
    (Option.ne_none_iff_exists'.2 ⟨check, hcheck⟩) heq
  have hbefore := (hinv.of_probed hcond hgone hmem hnew hrow hprobed).1
  exact hne ((honly id' row hbefore).1 hprobed).symm

/-- Nor to add a row where the query finds none. -/
theorem CopyInv.conflicts_create {id' : String}
    (hnone : ∀ id' row, s.table.rows.get id' = some row → probed dto b row = false)
    {written : Benchmark} (hscope : written.scope = dto.target)
    (hcolumns : written.columns = b.columns) :
    s.table.rows.conflicts Benchmark.genericCheck id' written = false := by
  rw [Bool.eq_false_iff]
  intro hconflict
  obtain ⟨id'', row'', check, -, hrow'', hcheck, hwritten⟩ := Table.conflicts_iff.1 hconflict
  have heq : ({ b with scope := dto.target } : Benchmark).genericCheck = row''.genericCheck := by
    rw [hcheck, ← hwritten, Benchmark.genericCheck, Benchmark.genericCheck, hcolumns, hscope]
  obtain ⟨hbefore, honly⟩ := hinv.of_genericCheck hcond hgone hmem hnew hrow''
    (Option.ne_none_iff_exists'.2 ⟨check, hcheck⟩) heq
  exact ne_true_of_eq_false (hnone id'' row'' hrow'') ((honly id'' row'' hbefore).2 rfl)

/-- A benchmark is copied, left out or refused, and the loop goes on. -/
theorem CopyInv.step : ∃ s', copyOne userId dto answers targetSystem s (id, b) = .ok s' ∧
    CopyInv dto answers (gone ++ [(id, b)]) s' := by
  have hnotRefused : ∀ entry ∈ s.settled, ∀ id', Outcome.refused.row = some id' →
      entry.2.row ≠ some id' := by
    intro entry _ id' h
    cases h
  have hrefused : CopyInv dto answers (gone ++ [(id, b)]) (s.settle id .refused) :=
    hinv.settle (fun _ _ => rfl) hnotRefused (fun _ _ => .inl rfl) trivial
  cases hfound : s.table.rows.findOne (answers.probeOrder id) (probed dto b) with
  | none =>
    have hnone : ∀ id' row, s.table.rows.get id' = some row → probed dto b row = false :=
      fun _ _ hrow => Table.not_of_findOne_eq_none hfound hrow
    have hcheck : s.table.rows.conflicts Benchmark.genericCheck (answers.newId id) ⟨dto.target,
        b.columns, targetSystem.organizationId, targetSystem.teamId, some userId, some userId,
        none⟩ = false :=
      hinv.conflicts_create hcond hgone hmem hnew hnone rfl rfl
    rcases saveSkippingDuplicateTarget_save hcheck with hskip | ⟨after, hsave, hwritten⟩
    · exact ⟨_, by simp only [copyOne, hfound, hskip]; rfl, hrefused⟩
    · have hcopies : Copies dto b after (answers.newId id) :=
        ⟨_, BenchmarkTable.get_self_of_save hsave, rfl, rfl⟩
      refine ⟨_, by simp only [copyOne, hfound, hwritten]; rfl, hinv.settle ?_ ?_ ?_ ?_⟩
      · intro id' hne
        exact BenchmarkTable.get_ne_of_save hsave fun h => hne (congrArg some h.symm)
      · -- A row that stands for a benchmark is there, and none is there with the new id.
        rintro ⟨id'', outcome⟩ hentry id' hsome hsome'
        obtain rfl := Option.some.inj hsome
        obtain ⟨x, -, hsettled⟩ := hinv.settled id'' outcome hentry
        obtain ⟨row, hrow, -⟩ := hsettled.get hsome'
        rw [hinv.get_newId hnew] at hrow
        cases hrow
      · intro id' hsome
        obtain rfl := Option.some.inj hsome
        refine .inr ⟨hcopies, fun row hrow => ?_⟩
        rw [answers.newId_fresh] at hrow
        cases hrow
      · exact ⟨rfl, hcopies⟩
  | some found =>
    obtain ⟨id', row⟩ := found
    obtain ⟨hrow, hprobed⟩ := Table.get_of_findOne hfound
    obtain ⟨hbefore, hapart⟩ := hinv.of_probed hcond hgone hmem hnew hrow hprobed
    have hfree : ∀ entry ∈ s.settled, ∀ id'', some id' = some id'' → entry.2.row ≠ some id'' := by
      intro entry hentry id'' h
      rw [← h]
      exact hapart entry hentry
    cases hstrategy : dto.conflictStrategy with
    | skip =>
      refine ⟨s.settle id (.skipped id'), by simp only [copyOne, hfound, hstrategy], ?_⟩
      exact hinv.settle (fun _ _ => rfl) hfree (fun _ _ => .inl rfl) ⟨row, hbefore, hrow, hprobed⟩
    | overwrite =>
      have hscope : row.scope = dto.target := (probed_iff.1 hprobed).1
      have hcheck : s.table.rows.conflicts Benchmark.genericCheck id'
          { row with columns := b.columns, updatedBy := some userId } = false :=
        hinv.conflicts_overwrite hcond hgone hmem hnew hrow hprobed hscope rfl
      have hupdate := BenchmarkTable.update_of_get hrow fun row =>
        { row with columns := b.columns, updatedBy := some userId }
      rcases saveSkippingDuplicateTarget_save hcheck with hskip | ⟨after, hsave, hwritten⟩
      · exact ⟨_, by simp only [copyOne, hfound, hstrategy, hupdate, hskip]; rfl, hrefused⟩
      · have hcopies : Copies dto b after id' :=
          ⟨_, BenchmarkTable.get_self_of_save hsave, hscope, rfl⟩
        refine ⟨{ s with table := after }.settle id (.overwritten id'), ?_,
          hinv.settle ?_ ?_ ?_ ?_⟩
        · simp only [copyOne, hfound, hstrategy, hupdate, hwritten]
          rfl
        · intro id'' hne
          exact BenchmarkTable.get_ne_of_save hsave fun h => hne (congrArg some h.symm)
        · exact hfree
        · intro id'' hsome
          obtain rfl := Option.some.inj hsome
          refine .inr ⟨hcopies, fun row' hrow' => ?_⟩
          obtain rfl := Option.some.inj (hbefore.symm.trans hrow')
          exact ⟨hstrategy, hprobed⟩
        · exact ⟨Option.ne_none_iff_exists'.2 ⟨row, hbefore⟩, hcopies⟩

end Step

/-! ## The copy -/

section

variable {systems : String → Option SystemUnderTest}
  {canAccessResource : SystemUnderTest → Bool} {userId : String} {dto : CopyBenchmarksDto}
  {table : BenchmarkTable} {sourceSystem targetSystem : SystemUnderTest}

variable (userId targetSystem) in
/-- The loop goes through all benchmarks. -/
theorem CopyInv.loop (hcond : Distinguishes dto table) (answers : CopyAnswers table) :
    ∃ s, (answers.sources dto).foldlM (copyOne userId dto answers targetSystem)
        ⟨table, 0, 0, []⟩ = .ok s ∧ CopyInv dto answers (answers.sources dto) s := by
  refine exists_foldlM_ok ?_ ?_
  · exact {
      origin := fun _ _ h => .inl h
      kept := fun _ _ h => .inl h
      settled := fun _ _ h => absurd h List.not_mem_nil
      apart := List.nodup_nil
      ids := rfl
      counted := rfl }
  · intro gone benchmark rest s hsources hinv
    have hmem : ∀ x ∈ gone ++ benchmark :: rest, x ∈ dto.selected table := by
      intro x hx
      rw [hsources] at hx
      exact mem_sources.1 hx
    have hnodup := nodup_sources answers dto
    rw [← hsources, List.map_append, List.nodup_append'] at hnodup
    have hnew : benchmark.1 ∉ gone.map Prod.fst :=
      fun hmem => hnodup.2.2 hmem List.mem_cons_self
    exact hinv.step hcond (fun x hx => hmem x (List.mem_append_left _ hx))
      (hmem benchmark (List.mem_append_right _ List.mem_cons_self)) hnew

/-- What a settled benchmark comes to in the end. -/
theorem SettledAs.settles {answers : CopyAnswers table} (hcond : Distinguishes dto table)
    {s : CopyState} {id : String} {b : Benchmark} {outcome : Outcome}
    (h : SettledAs dto answers s (id, b) outcome) (hmem : (id, b) ∈ dto.selected table) :
    Settles dto b s.table outcome := by
  cases outcome with
  | skipped id' =>
    obtain ⟨row, hbefore, hrow, hprobed⟩ := h
    exact ⟨row, hrow, (probed_iff.1 hprobed).1,
      hcond.same _ hmem (id', row) (Table.mem_rows.2 hbefore) hprobed⟩
  | overwritten id' => exact h.2
  | copied id' => exact h.2
  | refused => trivial

end

/-! ## Examples -/

/-- The rows in the order in which they were written, and ids that none of them has. -/
def writtenAnswers (table : BenchmarkTable)
    (h : ∀ row ∈ table.rows.rows, row.1.toList.head? ≠ some 'c') : CopyAnswers table where
  findOrder := .written _
  probeOrder _ := .written _
  newId id := "copy of " ++ id
  newId_injective _ _ heq := String.append_right_inj _ |>.1 heq
  newId_fresh id := by
    refine Table.get_eq_none.2 fun hmem => ?_
    obtain ⟨row, hrow, hid⟩ := List.mem_map.1 hmem
    refine h row hrow ?_
    rw [hid, String.toList_append]
    rfl

/-- A benchmark on the response times of the transactions that match a pattern. -/
def responseTimes (scope : BenchmarkScope) (matchPattern : String) (requirement : ℚ) :
    Benchmark where
  scope
  columns := {
    source := "grafana"
    grafanaInstance := some "Default"
    dashboardLabel := some "Gatling"
    dashboardId := none
    dashboardUid := some "gatling"
    applicationDashboardId := some "6ba7b810-9dad-11d1-80b4-00c04fd430c8"
    metricsSourceId := none
    genericCheckId := none
    panelTitle := some "2-Response times"
    configTitle := some "Response times"
    configId := none
    configType := some "timeseries"
    metricUnit := some "ms"
    evaluateType := some "avg"
    requirementOperator := some "lt"
    requirementValue := some requirement
    description := none
    tags := []
    configuration := [("id", some "2")]
    benchmarkType := .metric
    transactionName := none
    apdexThresholdMs := none
    minApdexScore := none
    includeFailedRequests := false
    excludeRampUpTime := true
    apdexMinSamples := some 50
    aggregateMetric := none
    aggregateStat := none
    averageAll := false
    matchPattern := some matchPattern
    validateWithDefaultIfNoData := false
    validateWithDefaultIfNoDataValue := none
    alertOnBreach := false
    alertChannels := []
    metadata := []
    enabled := true
    valid := true }
  organizationId := "acme"
  teamId := none
  createdBy := some "ann"
  updatedBy := some "ann"
  baselineTestRunId := none

/-- The load tests of a shop in an environment. -/
def shopLoad (testEnvironment : String) : BenchmarkScope := ⟨"shop", testEnvironment, "load"⟩

/-- A benchmark of the shop, and one that is in production, too, with another requirement. -/
def tightened : BenchmarkTable where
  rows := ⟨[("login", responseTimes (shopLoad "test") "login" 500),
    ("payment", { responseTimes (shopLoad "test") "payment" 700 with
      columns := { (responseTimes (shopLoad "test") "payment" 700).columns with
        benchmarkType := .apdex, transactionName := some "payment" } }),
    ("login in production", responseTimes (shopLoad "production") "login" 400)], by decide⟩
  uniqueGenericCheck := by decide +kernel
  uniqueTarget := by decide +kernel

/-- What the database answers when they are copied. -/
def tightenedAnswers : CopyAnswers tightened := writtenAnswers tightened (by decide)

/-- To the production, over what is there. -/
def overProduction : CopyBenchmarksDto := ⟨shopLoad "test", shopLoad "production", .overwrite, none⟩

/-- Two benchmarks on one panel, for two transactions. -/
def variants : BenchmarkTable where
  rows := ⟨[("login", responseTimes (shopLoad "test") "login" 500),
    ("search", responseTimes (shopLoad "test") "search" 900)], by decide⟩
  uniqueGenericCheck := by decide +kernel
  uniqueTarget := by decide +kernel

/-- What the database answers when they are copied. -/
def variantAnswers : CopyAnswers variants := writtenAnswers variants (by decide)

/-- To the production, leaving what is there. -/
def toProduction : CopyBenchmarksDto := ⟨shopLoad "test", shopLoad "production", .skip, none⟩

end Perfana
