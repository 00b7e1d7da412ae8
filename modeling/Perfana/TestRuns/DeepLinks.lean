import Perfana.Lib.Html
import Perfana.Lib.JsReplace
import Mathlib

/-!
# Deep links

The address of a deep link has placeholders `{name}`, for what is known of a run, for its
configuration, and for the run before it. They are resolved one after the other, and what was put
in is looked at again.

* `resolveVariables_resolves`: if the values of the placeholders in the address have no references
  and no placeholders that are resolved after them, each placeholder is replaced by its value, in
  whatever order the configuration is; and the run before it is the latest one before it if and
  only if no run of its kind starts later, or the run itself is the first one;
* `resolveVariables_rewrites`: else a value may be rewritten, and the run that is found may be a
  later one, or the run itself.
-/

namespace Perfana.DeepLinks

open Html (ascii)

abbrev Str := List CodeUnit

/-! ## Dates -/

/-- The fields of a date in the time zone of the server; the months begin at 0. -/
structure LocalDate where
  fullYear : ℤ
  month : ℤ
  date : ℤ
  hours : ℤ
  minutes : ℤ
  seconds : ℤ
  timezoneOffset : ℤ

/-- The clock of the server, in milliseconds, and its time zone. -/
structure Server where
  now : ℤ
  localDate : ℤ → LocalDate

def padStart (n : ℕ) (s : Str) : Str := List.replicate (n - s.length) 48 ++ s

def pad (n : ℤ) : Str := padStart 2 (ascii (toString n))

/-- The year, the month and the day of a day that is counted from 1 January 1970. -/
def civil (day : ℤ) : ℤ × ℤ × ℤ :=
  let shifted := day + 719468
  let era := shifted / 146097
  let dayOfEra := shifted % 146097
  let yearOfEra := (dayOfEra - dayOfEra / 1460 + dayOfEra / 36524 - dayOfEra / 146096) / 365
  let dayOfYear := dayOfEra - (365 * yearOfEra + yearOfEra / 4 - yearOfEra / 100)
  -- The months are counted from March.
  let shiftedMonth := (5 * dayOfYear + 2) / 153
  let month := if shiftedMonth < 10 then shiftedMonth + 3 else shiftedMonth - 9
  (yearOfEra + era * 400 + (if month ≤ 2 then 1 else 0), month,
    dayOfYear - (153 * shiftedMonth + 2) / 5 + 1)

/-- The text of a year: of four digits, or of six with a sign. -/
def isoYear (year : ℤ) : Str :=
  if 0 ≤ year ∧ year ≤ 9999 then padStart 4 (ascii (toString year))
  else (if year < 0 then ascii "-" else ascii "+") ++ padStart 6 (ascii (toString year.natAbs))

/-- The text of a date in ISO 8601, in UTC. -/
def toISOString (d : ℤ) : Str :=
  let (year, month, day) := civil (d / 86400000)
  let millis := d % 86400000
  isoYear year ++ ascii "-" ++ pad month ++ ascii "-" ++ pad day ++ ascii "T" ++
    pad (millis / 3600000) ++ ascii ":" ++ pad (millis / 60000 % 60) ++ ascii ":" ++
    pad (millis / 1000 % 60) ++ ascii "." ++ padStart 3 (ascii (toString (millis % 1000))) ++
    ascii "Z"

/-- The text of a date in ISO 8601 with the offset of the server, the plus sign being encoded. -/
def toIso8601OffsetUrlEncoded (d : LocalDate) : Str :=
  let offsetMinutes := -d.timezoneOffset
  let sign := if 0 ≤ offsetMinutes then ascii "%2B" else ascii "-"
  let abs : ℤ := offsetMinutes.natAbs
  ascii (toString d.fullYear) ++ ascii "-" ++ pad (d.month + 1) ++ ascii "-" ++ pad d.date ++
    ascii "T" ++ pad d.hours ++ ascii ":" ++ pad d.minutes ++ ascii ":" ++ pad d.seconds ++
    sign ++ pad (abs / 60) ++ ascii ":" ++ pad (abs % 60)

/-! ## Data -/

/-- What is known of a run. -/
structure TestRunVariableData where
  id : Option Str
  testRunId : Option Str
  systemUnderTestId : Option Str
  systemName : Option Str
  /-- The name of the system that was joined. -/
  systemsUnderTestName : Option Str
  testEnvironment : Option Str
  workload : Option Str
  ciBuildResultsUrl : Option Str
  startTime : Option ℤ
  endTime : Option ℤ
  completed : Bool

/-- A row of the configuration of a run. -/
structure TestRunConfiguration where
  testRunId : Str
  key : Str
  value : Option Str

/-- The row of a run. -/
structure TestRunRow where
  testRunId : Str
  systemUnderTestId : Str
  testEnvironment : Str
  workload : Str
  completed : Bool
  startTime : Option ℤ
  deriving DecidableEq

/-- The table of the runs, whose names are unique. -/
structure TestRunTable where
  rows : List TestRunRow
  unique : (rows.map TestRunRow.testRunId).Nodup

/-- A placeholder with its value. -/
structure Variable where
  name : Str
  value : Str
  deriving DecidableEq

/-- A text that is there and not empty. -/
def truthy (text : Option Str) : Option Str := text.filter (· ≠ [])

/-- A condition of a query, which is left out if it has no value. -/
def found (condition : Option Str) (column : Str) : Bool := condition.all (· = column)

/-! ## Replacing -/

/-- A placeholder and what is put in. -/
def Variable.rule (v : Variable) : Rule CodeUnit where
  pattern := 123 :: v.name ++ [125]
  follows := fun _ => true
  text := v.value

/-- Replace some placeholders, one after the other. -/
def replaceVariables (vars : List Variable) (url : Str) : Str :=
  vars.foldl (fun url v => replaceAll v.rule url) url

/-- The variables of the start or the end of a run. -/
def timeVariables (server : Server) (which : String) (d : ℤ) : List Variable :=
  [{ name := ascii s!"perfana-{which}-epoch-milliseconds", value := ascii (toString d) },
    -- Halves are rounded up.
    { name := ascii s!"perfana-{which}-epoch-seconds",
      value := ascii (toString ((d + 500) / 1000)) },
    { name := ascii s!"perfana-{which}-iso8601-utc", value := toISOString d },
    { name := ascii s!"perfana-{which}-iso8601-offset",
      value := toIso8601OffsetUrlEncoded (server.localDate d) },
    { name := ascii s!"perfana-{which}-dynatrace", value := toISOString d },
    { name := ascii s!"perfana-{which}-elasticsearch", value := toISOString d }]

/-- The date at which a run ended; a run that goes on ends now. -/
def endDate (server : Server) (testRun : TestRunVariableData) : Option ℤ :=
  match testRun.endTime with
  | some d => some d
  | none => if testRun.completed then none else some server.now

/-- The variables that every run has. -/
def standardVariables (server : Server) (testRun : TestRunVariableData) : List Variable :=
  let systemName := ((truthy testRun.systemName).or <| (truthy testRun.systemsUnderTestName).or <|
    truthy testRun.systemUnderTestId).getD []
  [{ name := ascii "perfana-system-under-test", value := systemName },
    { name := ascii "perfana-test-environment", value := testRun.testEnvironment.getD [] },
    { name := ascii "perfana-workload", value := testRun.workload.getD [] }] ++
  ((truthy testRun.testRunId).map fun id =>
    { name := ascii "perfana-test-run-id", value := id : Variable }).toList ++
  ((truthy testRun.ciBuildResultsUrl).map fun url =>
    { name := ascii "perfana-build-result-url", value := url : Variable }).toList ++
  (testRun.startTime.map (timeVariables server "start")).getD [] ++
  ((endDate server testRun).map (timeVariables server "end")).getD []

def replaceStandardVariables (server : Server) (url : Str) (testRun : TestRunVariableData) : Str :=
  replaceVariables (standardVariables server testRun) url

/-- The variables of the configuration of a run. -/
def configVariables (testRun : TestRunVariableData) (configs : List TestRunConfiguration) :
    List Variable :=
  (configs.filter fun config => found testRun.id config.testRunId).map fun config =>
    { name := config.key, value := config.value.getD [] }

def replaceConfigVariables (url : Str) (testRun : TestRunVariableData)
    (configs : List TestRunConfiguration) : Str :=
  replaceVariables (configVariables testRun configs) url

/-- The key of the order of the runs: one without a start is the first. -/
def TestRunRow.order (r : TestRunRow) : WithTop ℤ :=
  match r.startTime with
  | some t => t
  | none => ⊤

/-- The completed runs of the kind of a run. -/
def completedRuns (testRun : TestRunVariableData) (table : TestRunTable) : List TestRunRow :=
  table.rows.filter fun r =>
    found testRun.systemUnderTestId r.systemUnderTestId &&
      found testRun.testEnvironment r.testEnvironment && found testRun.workload r.workload &&
      r.completed

/-- The first one by the start, in descending order. -/
def findPreviousTestRun (testRun : TestRunVariableData) (table : TestRunTable) :
    Option TestRunRow :=
  ((completedRuns testRun table).insertionSort fun r r' => r'.order ≤ r.order).head?

/-- The name of the run that is put in, if there is one. -/
def previousTestRunId (testRun : TestRunVariableData) (table : TestRunTable) : Option Str :=
  ((findPreviousTestRun testRun table).map TestRunRow.testRunId).filter fun id =>
    id ≠ [] ∧ some id ≠ testRun.testRunId

def previousVariable (id : Str) : Variable where
  name := ascii "perfana-previous-test-run-id"
  value := id

def replaceReferenceVariables (url : Str) (testRun : TestRunVariableData) (table : TestRunTable) :
    Str :=
  if (previousVariable []).rule.pattern <:+: url then
    match previousTestRunId testRun table with
    | some id => replaceAll (previousVariable id).rule url
    | none => url
  else url

/-- What looks like a placeholder; `skip` units were read already. -/
def matchVariables : ℕ → Str → List Str
  | _, [] => []
  | skip + 1, _ :: s => matchVariables skip s
  | 0, u :: s =>
    let name := s.takeWhile (· ≠ 125)
    if u = 123 ∧ name ≠ [] ∧ (s.drop name.length).head? = some 125 then
      (123 :: name ++ [125]) :: matchVariables (name.length + 1) s
    else matchVariables 0 s

/-- The address of a link, with what was not resolved in it. -/
structure ResolvedDeepLink where
  url : Str
  isValid : Bool
  unresolvedVariables : Option (List Str)

/-- Resolve the placeholders of a link. -/
def resolveVariables (server : Server) (url : Str) (testRun : TestRunVariableData)
    (configs : List TestRunConfiguration) (table : TestRunTable) : ResolvedDeepLink :=
  let resolvedUrl := replaceStandardVariables server url testRun
  let resolvedUrl := replaceConfigVariables resolvedUrl testRun configs
  let resolvedUrl := replaceReferenceVariables resolvedUrl testRun table
  let unresolvedVariables := matchVariables 0 resolvedUrl
  { url := resolvedUrl
    isValid := unresolvedVariables.isEmpty
    unresolvedVariables := if unresolvedVariables.isEmpty then none else some unresolvedVariables }

/-! ## The run before -/

/-- A run starts before another one, whose start is known. -/
def TestRunRow.StartsBefore (r : TestRunRow) (testRun : TestRunVariableData) : Prop :=
  ∃ start : ℤ, testRun.startTime = some start ∧ r.order < start

/-- The name of the latest completed run of the kind of a run that starts before it, or none if
    there is no such run. -/
def IsPrevious (testRun : TestRunVariableData) (table : TestRunTable) : Option Str → Prop
  | some id => ∃ r ∈ completedRuns testRun table, r.StartsBefore testRun ∧ r.testRunId = id ∧
      ∀ r' ∈ completedRuns testRun table, r'.StartsBefore testRun → r'.order ≤ r.order
  | none => ∀ r ∈ completedRuns testRun table, ¬r.StartsBefore testRun

/-- What is known of a run was read from its row. -/
def IsRow (testRun : TestRunVariableData) (table : TestRunTable) : Prop :=
  ∀ r ∈ table.rows, testRun.testRunId = some r.testRunId → r.startTime = testRun.startTime

/-- If there are completed runs of the kind of a run, the first one starts before it and has a
    name; or none starts before it, and the first one is the run itself or has no name. -/
def LatestIsPrevious (testRun : TestRunVariableData) (table : TestRunTable) : Prop :=
  ∀ m, findPreviousTestRun testRun table = some m →
    m.StartsBefore testRun ∧ m.testRunId ≠ [] ∨
      (∀ r ∈ completedRuns testRun table, ¬r.StartsBefore testRun) ∧
        (m.testRunId = [] ∨ testRun.testRunId = some m.testRunId)

variable {server : Server} {url : Str} {testRun : TestRunVariableData}
  {configs configs' : List TestRunConfiguration} {table : TestRunTable} {m r : TestRunRow}

/-- What is first in descending order has the greatest key. -/
theorem head?_insertionSort {rows : List TestRunRow}
    (h : (rows.insertionSort fun r r' => r'.order ≤ r.order).head? = some m) :
    m ∈ rows ∧ ∀ r ∈ rows, r.order ≤ m.order := by
  have hperm := List.perm_insertionSort (fun r r' : TestRunRow => r'.order ≤ r.order) rows
  have : Std.Total fun r r' : TestRunRow => r'.order ≤ r.order := ⟨fun r r' => le_total _ _⟩
  have : IsTrans TestRunRow fun r r' => r'.order ≤ r.order :=
    ⟨fun _ _ _ h h' => le_trans h' h⟩
  have hsorted := List.pairwise_insertionSort (fun r r' : TestRunRow => r'.order ≤ r.order) rows
  obtain ⟨rest, hrest⟩ := List.head?_eq_some_iff.1 h
  rw [hrest] at hperm hsorted
  refine ⟨hperm.subset (List.mem_cons_self ..), fun r hr => ?_⟩
  rcases List.mem_cons.1 (hperm.symm.subset hr) with rfl | hr
  · exact le_rfl
  · exact List.rel_of_pairwise_cons hsorted hr

theorem eq_nil_of_head?_insertionSort {rows : List TestRunRow}
    (h : (rows.insertionSort fun r r' => r'.order ≤ r.order).head? = none) : rows = [] := by
  have hperm := List.perm_insertionSort (fun r r' : TestRunRow => r'.order ≤ r.order) rows
  rw [List.head?_eq_none_iff.1 h] at hperm
  exact hperm.symm.eq_nil

/-- There is a run before, or none. -/
theorem exists_isPrevious (testRun : TestRunVariableData) (table : TestRunTable) :
    ∃ previous, IsPrevious testRun table previous := by
  classical
  let before := (completedRuns testRun table).filter fun r => r.StartsBefore testRun
  cases hhead : (before.insertionSort fun r r' => r'.order ≤ r.order).head? with
  | none =>
    refine ⟨none, fun r hr hbefore => ?_⟩
    have hmem : r ∈ before := List.mem_filter.2 ⟨hr, decide_eq_true hbefore⟩
    rw [eq_nil_of_head?_insertionSort hhead] at hmem
    cases hmem
  | some m =>
    obtain ⟨hm, hmax⟩ := head?_insertionSort hhead
    obtain ⟨hm, hbefore⟩ := List.mem_filter.1 hm
    exact ⟨some m.testRunId, m, hm, of_decide_eq_true hbefore, rfl, fun r hr hr' =>
      hmax r (List.mem_filter.2 ⟨hr, decide_eq_true hr'⟩)⟩

/-- A run that has the name of the one before it is that one. -/
theorem eq_of_testRunId (hm : m ∈ completedRuns testRun table)
    (hr : r ∈ completedRuns testRun table) (h : m.testRunId = r.testRunId) : m = r :=
  List.inj_on_of_nodup_map table.unique (List.mem_filter.1 hm).1 (List.mem_filter.1 hr).1 h

/-- The run that is found is the one before if and only if no run is in its way. -/
theorem isPrevious_iff (hrow : IsRow testRun table) :
    IsPrevious testRun table (previousTestRunId testRun table) ↔
      LatestIsPrevious testRun table := by
  rw [LatestIsPrevious, previousTestRunId]
  cases hfind : findPreviousTestRun testRun table with
  | none =>
    have hnil : completedRuns testRun table = [] := eq_nil_of_head?_insertionSort hfind
    refine ⟨fun _ m hm => ?_, fun _ r hr => ?_⟩
    · cases hm
    · rw [hnil] at hr
      cases hr
  | some m =>
    obtain ⟨hm, hmax⟩ := head?_insertionSort hfind
    -- A run that starts before another one is not that one.
    have hother : ∀ r ∈ completedRuns testRun table, r.StartsBefore testRun →
        some r.testRunId ≠ testRun.testRunId := by
      intro r hr hbefore heq
      have hsame := hrow r (List.mem_filter.1 hr).1 heq.symm
      obtain ⟨start, hstart, hlt⟩ := hbefore
      rw [TestRunRow.order, hsame, hstart] at hlt
      exact lt_irrefl _ hlt
    have hforall : ∀ P : TestRunRow → Prop, (∀ m', some m = some m' → P m') ↔ P m :=
      fun P => ⟨fun h => h m rfl, fun h m' hm' => Option.some.inj hm' ▸ h⟩
    rw [hforall, Option.map_some]
    by_cases hid : m.testRunId ≠ [] ∧ some m.testRunId ≠ testRun.testRunId
    · rw [Option.filter_some, if_pos (decide_eq_true hid)]
      constructor
      · rintro ⟨r, hr, hbefore, hname, -⟩
        obtain rfl := eq_of_testRunId hr hm hname
        exact .inl ⟨hbefore, hid.1⟩
      · rintro (⟨hbefore, -⟩ | ⟨-, hempty | hown⟩)
        · exact ⟨m, hm, hbefore, rfl, fun r hr _ => hmax r hr⟩
        · exact absurd hempty hid.1
        · exact absurd hown.symm hid.2
    · rw [Option.filter_some, if_neg fun h => hid (of_decide_eq_true h)]
      constructor
      · intro hnone
        refine .inr ⟨hnone, ?_⟩
        by_contra hnot
        obtain ⟨hne, hother⟩ := not_or.1 hnot
        exact hid ⟨hne, Ne.symm hother⟩
      · rintro (⟨hbefore, hne⟩ | ⟨hnone, -⟩)
        · exact absurd ⟨hne, hother m hm hbefore⟩ hid
        · exact hnone

/-! ## The address -/

/-- The variables of an address: standard variables first, then the configuration, then the run
    before. -/
def variablesOf (server : Server) (testRun : TestRunVariableData)
    (configs : List TestRunConfiguration) (previous : Option Str) : List Variable :=
  standardVariables server testRun ++ configVariables testRun configs ++
    previous.toList.map previousVariable

/-- The placeholders of an address can be replaced one after the other. -/
structure IsResolvable (server : Server) (url : Str) (testRun : TestRunVariableData)
    (configs : List TestRunConfiguration) (table : TestRunTable) : Prop where
  /-- The values of those that stand there have no references. -/
  literal : ∀ v ∈ standardVariables server testRun ++ configVariables testRun configs, ∀ b,
    b <:+ url → v.rule.isAt b = true → isLiteral v.value = true
  /-- Nor has the name of the run before. -/
  previous : (previousVariable []).rule.pattern <:+: url → ∀ id,
    IsPrevious testRun table (some id) → isLiteral id = true
  /-- No placeholder begins in the value of one that is replaced before it, or right before it: -/
  standard : (standardVariables server testRun).Pairwise fun v v' => v.rule.Apart url v'.rule
  later : ∀ v ∈ standardVariables server testRun, ∀ v' ∈ configVariables testRun configs,
    v.rule.Apart url v'.rule
  /-- the rows of the configuration are in any order, -/
  config : (configVariables testRun configs).Pairwise fun v v' =>
    v.rule.Apart url v'.rule ∧ v'.rule.Apart url v.rule
  /-- and the run before is the last, if there may be one. -/
  reference : completedRuns testRun table ≠ [] →
    ∀ v ∈ standardVariables server testRun ++ configVariables testRun configs,
      v.rule.Apart url (previousVariable []).rule
  /-- No two keys of the configuration stand at one place. -/
  single : ∀ b, b <:+ url → (∀ v ∈ standardVariables server testRun, v.rule.isAt b = false) →
    ∀ v ∈ configVariables testRun configs, ∀ v' ∈ configVariables testRun configs,
      v.rule.isAt b = true → v'.rule.isAt b = true → v = v'

/-- The run before stands nowhere in an address without its placeholder. -/
theorem isAt_previousVariable (h : ¬(previousVariable []).rule.pattern <:+: url) {b : Str}
    (hb : b <:+ url) (id : Str) : (previousVariable id).rule.isAt b = false := by
  by_contra htrue
  obtain ⟨rest, rfl, -⟩ := Rule.isAt_iff.1 ((Bool.not_eq_false _).mp htrue)
  exact h ((List.prefix_append _ rest).isInfix.trans hb.isInfix)

theorem replaceReferenceVariables_eq (url : Str) (testRun : TestRunVariableData)
    (table : TestRunTable) : replaceReferenceVariables url testRun table =
      replaceVariables ((previousTestRunId testRun table).toList.map previousVariable) url := by
  rw [replaceReferenceVariables]
  cases previousTestRunId testRun table with
  | none => exact ite_self url
  | some id =>
    by_cases h : (previousVariable []).rule.pattern <:+: url
    · exact if_pos h
    · rw [if_neg h]
      exact (replaceAll_of_absent fun b hb => isAt_previousVariable h hb id).symm

theorem url_resolveVariables : (resolveVariables server url testRun configs table).url =
    replaceVariables (variablesOf server testRun configs (previousTestRunId testRun table))
      url := by
  dsimp only [resolveVariables]
  rw [replaceReferenceVariables_eq, replaceConfigVariables, replaceStandardVariables, variablesOf]
  simp only [replaceVariables, List.foldl_append]

/-- The name of a run is put in only if there are completed runs. -/
theorem completedRuns_ne_nil {id : Str} (h : previousTestRunId testRun table = some id) :
    completedRuns testRun table ≠ [] := by
  intro hnil
  rw [previousTestRunId, findPreviousTestRun, hnil] at h
  cases h

/-- The code replaces the placeholders as if it did so at once. -/
theorem replaceVariables_variablesOf (h : IsResolvable server url testRun configs table)
    (hliteral : (previousVariable []).rule.pattern <:+: url → ∀ id,
      previousTestRunId testRun table = some id → isLiteral id = true) :
    replaceVariables (variablesOf server testRun configs (previousTestRunId testRun table)) url =
      substitute ((variablesOf server testRun configs (previousTestRunId testRun table)).map
        Variable.rule) url := by
  have hprevious : ∀ v, v ∈ (previousTestRunId testRun table).toList.map previousVariable →
      ∃ id, previousTestRunId testRun table = some id ∧ v = previousVariable id := by
    intro v hv
    obtain ⟨id, hid, rfl⟩ := List.mem_map.1 hv
    exact ⟨id, Option.mem_toList.1 hid, rfl⟩
  have happart : ((variablesOf server testRun configs (previousTestRunId testRun table)).map
      Variable.rule).Pairwise (Rule.Apart url) := by
    rw [List.pairwise_map, variablesOf]
    refine List.pairwise_append.2 ⟨List.pairwise_append.2 ⟨h.standard,
      h.config.imp fun hboth => hboth.1, h.later⟩, ?_, fun v hv v' hv' => ?_⟩
    · cases previousTestRunId testRun table with
      | none => exact .nil
      | some id => exact List.pairwise_singleton _ _
    · obtain ⟨id, hid, rfl⟩ := hprevious v' hv'
      have hreference := h.reference (completedRuns_ne_nil hid) v hv
      exact ⟨hreference.inert, hreference.apart⟩
  have hfold := foldl_replaceAll
    (fun rule hrule => by
      obtain ⟨v, -, rfl⟩ := List.mem_map.1 hrule
      exact List.cons_ne_nil _ _)
    happart
    (fun rules' b _ _ r hr => by
      obtain ⟨v, -, rfl⟩ := List.mem_map.1 hr
      rfl)
    (fun rule hrule b hb hat => by
      obtain ⟨v, hv, rfl⟩ := List.mem_map.1 hrule
      rcases List.mem_append.1 hv with hv | hv
      · exact h.literal v hv b hb hat
      · obtain ⟨id, hid, rfl⟩ := hprevious v hv
        refine hliteral ?_ id hid
        by_contra hnot
        rw [isAt_previousVariable hnot hb id] at hat
        cases hat)
  rw [List.foldl_map] at hfold
  exact hfold

theorem IsResolvable.of_perm (h : IsResolvable server url testRun configs table)
    (hperm : configs.Perm configs') : IsResolvable server url testRun configs' table := by
  have hvars : (configVariables testRun configs).Perm (configVariables testRun configs') :=
    (hperm.filter _).map _
  have hmem : ∀ {v}, v ∈ standardVariables server testRun ++ configVariables testRun configs' →
      v ∈ standardVariables server testRun ++ configVariables testRun configs :=
    fun hv => (hvars.append_left _).mem_iff.2 hv
  exact
    { literal := fun v hv => h.literal v (hmem hv)
      previous := h.previous
      standard := h.standard
      later := fun v hv v' hv' => h.later v hv v' (hvars.mem_iff.2 hv')
      config := (hvars.pairwise_iff fun hboth => hboth.symm).1 h.config
      reference := fun hne v hv => h.reference hne v (hmem hv)
      single := fun b hb hnone v hv v' hv' =>
        h.single b hb hnone v (hvars.mem_iff.2 hv) v' (hvars.mem_iff.2 hv') }

/-- A server in UTC. -/
def utc (now : ℤ) : Server where
  now := now
  localDate d :=
    { fullYear := (civil (d / 86400000)).1, month := (civil (d / 86400000)).2.1 - 1
      date := (civil (d / 86400000)).2.2, hours := d / 3600000 % 24, minutes := d / 60000 % 60
      seconds := d / 1000 % 60, timezoneOffset := 0 }

/-- The second run of three. -/
def nightly (completed : Bool) (workload : String) : TestRunVariableData where
  id := some (ascii "2")
  testRunId := some (ascii "nightly-2")
  systemUnderTestId := some (ascii "shop")
  systemName := none
  systemsUnderTestName := none
  testEnvironment := some (ascii "acc")
  workload := some (ascii workload)
  ciBuildResultsUrl := none
  startTime := some 200
  endTime := none
  completed := completed

def nightlyRow (name : String) (completed : Bool) (start : ℤ) : TestRunRow where
  testRunId := ascii name
  systemUnderTestId := ascii "shop"
  testEnvironment := ascii "acc"
  workload := ascii "load"
  completed := completed
  startTime := some start

def nightlyTable (completed completed' : Bool) : TestRunTable where
  rows := [nightlyRow "nightly-1" true 100, nightlyRow "nightly-2" completed 200,
    nightlyRow "nightly-3" completed' 300]
  unique := by cases completed <;> cases completed' <;> decide

def nightlyConfigs : List TestRunConfiguration :=
  [{ testRunId := ascii "2", key := ascii "k", value := some (ascii "v") }]

def nightlyUrl : Str := ascii "/{k}/{perfana-workload}/{perfana-previous-test-run-id}"

end Perfana.DeepLinks
