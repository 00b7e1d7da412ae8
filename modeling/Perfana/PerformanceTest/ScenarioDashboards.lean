import Mathlib.Data.List.DropRight
import Perfana.Lib.Html
import Perfana.Lib.Run
import Perfana.Lib.Table

/-!
# Dashboards of scenarios

The metrics of a performance test are stored on a dashboard for each scenario of a system and an
environment. What identifies it is made of their names: the identifier is the digest of a text with
all three, the name at Grafana is that of the scenario in small letters and hyphens, cut if it is
too long, and the label has the name as it is. A dashboard is inserted unless one with its
identifier is there, and a manager remembers those that it has returned.

* `length_generateScenarioDashboardUid_le`: a name at Grafana fits its column;
* `uid_ne_of_namesApart`: two of them differ unless the names look alike, if digests do;
* `run_inv`: along the runs whose calls tell their scenarios apart (`TellsApart`), what is returned
  is what identifies the scenario, and its dashboard and its source are stored;
* `Inv.keepsDashboardsApart`: and so the dashboards are kept apart;
* `exists_run_not_keepsApart`: two scenarios that are not told apart are mixed up.
-/

namespace Perfana.ScenarioDashboards

open Html

/-- A text, in code units. -/
abbrev Text := List CodeUnit

/-- What is collected on a dashboard of its own. -/
structure Scenario where
  systemUnderTestId : Text
  testEnvironment : Text
  scenarioName : Text
  deriving DecidableEq, Repr

/-! ## Identifiers -/

section Identifiers

-- SHA-256, in hexadecimal digits, and the lower case of a text.
variable (sha256 : Text → Text) (toLowerCase : Text → Text)

/-- What a hexadecimal digit stands for. -/
def hexValue (u : CodeUnit) : ℕ := if u.val < 58 then u.val - 48 else u.val - 87

/-- A hexadecimal digit. -/
def hexDigit (n : ℕ) : CodeUnit := Fin.ofNat 65536 (if n < 10 then n + 48 else n + 87)

/-- A number of two digits. -/
def parseHex (digits : Text) : ℕ := digits.foldl (fun n u => n * 16 + hexValue u) 0

/-- A number from 16 to 255 in hexadecimal digits. -/
def toHex (n : ℕ) : Text := [hexDigit (n / 16), hexDigit (n % 16)]

/-- A part of a text. -/
def substring (s : Text) (start stop : ℕ) : Text := (s.take stop).drop start

/-- An identifier made of the digest of a text, with the version and the variant of a UUID. -/
def generateDeterministicUuid (input : Text) : Text :=
  let hash := sha256 input
  List.intercalate [45] [
    substring hash 0 8,
    substring hash 8 12,
    53 :: substring hash 13 16,
    toHex ((parseHex (substring hash 16 18) &&& 0x3f) ||| 0x80) ++ substring hash 18 20,
    substring hash 20 32]

/-- The text that identifies a scenario. -/
def joined (scenario : Scenario) : Text :=
  scenario.systemUnderTestId ++ 45 :: scenario.testEnvironment ++ ascii "-perf-test-" ++
    scenario.scenarioName

/-- The identifier of the dashboard of a scenario. -/
def generateScenarioDashboardUuid (scenario : Scenario) : Text :=
  generateDeterministicUuid sha256 (joined scenario)

/-- What the name of a dashboard at Grafana starts with. -/
def SCENARIO_DASHBOARD_UID_PREFIX : Text := ascii "performance-test-metrics-"

def SCENARIO_DASHBOARD_UID_MAX_LENGTH : ℕ := 100

def SCENARIO_DASHBOARD_UID_HASH_LENGTH : ℕ := 8

/-- Small letters, digits and hyphens stay as they are. -/
def isUidUnit (u : CodeUnit) : Bool :=
  (97 ≤ u.val && u.val ≤ 122) || (48 ≤ u.val && u.val ≤ 57) || u.val = 45

/-- A name in small letters, with hyphens for all that is not a letter, a digit or a hyphen. -/
def sanitize (scenarioName : Text) : Text :=
  (toLowerCase scenarioName).map fun u => if isUidUnit u then u else 45

/-- What tells names from each other that are too long: part of their digests. -/
def suffix (scenarioName : Text) : Text :=
  45 :: substring (sha256 scenarioName) 0 SCENARIO_DASHBOARD_UID_HASH_LENGTH

/-- The start of a name that is too long, without the hyphens that it ends with. -/
def truncated (scenarioName : Text) : Text :=
  ((sanitize toLowerCase scenarioName).take (SCENARIO_DASHBOARD_UID_MAX_LENGTH -
    SCENARIO_DASHBOARD_UID_PREFIX.length - (suffix sha256 scenarioName).length)).rdropWhile (· = 45)

/-- A name fits behind what all start with. -/
def fits (scenarioName : Text) : Bool :=
  (SCENARIO_DASHBOARD_UID_PREFIX ++ sanitize toLowerCase scenarioName).length ≤
    SCENARIO_DASHBOARD_UID_MAX_LENGTH

/-- The name of the dashboard of a scenario at Grafana. -/
def generateScenarioDashboardUid (scenarioName : Text) : Text :=
  if fits toLowerCase scenarioName then
    SCENARIO_DASHBOARD_UID_PREFIX ++ sanitize toLowerCase scenarioName
  else
    SCENARIO_DASHBOARD_UID_PREFIX ++ truncated sha256 toLowerCase scenarioName ++
      suffix sha256 scenarioName

def generateScenarioDashboardLabel (scenarioName : Text) : Text :=
  ascii "Performance test metrics " ++ scenarioName

end Identifiers

/-! ## The database and the manager -/

/-- What identifies a dashboard. -/
structure DashboardMetadata where
  dashboardId : Text
  /-- Its name at Grafana. -/
  dashboardUid : Text
  dashboardLabel : Text
  /-- The source of its metrics, if that could be stored. -/
  metricsSourceId : Option Text
  deriving DecidableEq, Repr

/-- Whom a system belongs to. -/
structure SutOwnership where
  organizationId : Text
  teamId : Option Text
  deriving DecidableEq, Repr

/-- A row of `application_dashboards`. -/
structure DashboardRow where
  systemUnderTestId : Text
  testEnvironment : Text
  dashboardName : Text
  /-- The name at Grafana. -/
  dashboardUid : Text
  dashboardLabel : Text
  /-- Whom it belongs to. -/
  ownership : SutOwnership
  deriving DecidableEq, Repr

/-- What is unique about a row of `metrics_sources`. -/
structure SourceKey where
  systemUnderTestId : Text
  testEnvironment : Text
  sourceType : Text
  /-- What it refers to. -/
  externalRef : Text
  displayName : Text
  displayLabel : Text
  deriving DecidableEq, Repr

/-- A row of `metrics_sources`. -/
structure SourceRow where
  /-- What is unique about it. -/
  key : SourceKey
  /-- Whom it belongs to. -/
  ownership : SutOwnership
  deriving DecidableEq, Repr

/-- The tables, and what a manager remembers. -/
structure State where
  applicationDashboards : Table Text DashboardRow
  metricsSources : Table Text SourceRow
  /-- The dashboards that the manager has returned. -/
  dashboardCache : Table Text DashboardMetadata
  /-- What the calls so far have returned. -/
  returned : List (Scenario × DashboardMetadata)

/-- What the database says to the statements of a call. -/
structure Answers where
  /-- Whom the system belongs to, or why the call fails. -/
  ownership : Except String SutOwnership
  /-- Why the dashboard cannot be inserted, if so: a label that is too long, for one. -/
  insertError : Option String
  /-- The identifier that a new source gets, or why the source cannot be stored. -/
  source : Except String Text

/-- What happens. -/
inductive Event
  /-- The dashboard of a scenario is asked for. -/
  | getOrCreateScenarioDashboard (scenario : Scenario) (answers : Answers)
  /-- A manager starts with nothing remembered. -/
  | clearCaches

section Manager

variable (sha256 : Text → Text) (toLowerCase : Text → Text)

/-- The key by which a dashboard is remembered. -/
def cacheKey (scenario : Scenario) : Text :=
  scenario.systemUnderTestId ++ ascii "::" ++ scenario.testEnvironment ++ ascii "::" ++
    scenario.scenarioName

/-- The row of the dashboard of a scenario. -/
def dashboardRow (scenario : Scenario) (ownership : SutOwnership) : DashboardRow where
  systemUnderTestId := scenario.systemUnderTestId
  testEnvironment := scenario.testEnvironment
  dashboardName := generateScenarioDashboardLabel scenario.scenarioName
  dashboardUid := generateScenarioDashboardUid sha256 toLowerCase scenario.scenarioName
  dashboardLabel := generateScenarioDashboardLabel scenario.scenarioName
  ownership := ownership

/-- Insert a dashboard, unless there is one with its identifier. The other constraint of the table
    is not met by rows without a Grafana instance. -/
def createScenarioDashboard (scenario : Scenario) (ownership : SutOwnership) (s : State) : State :=
  let dashboardId := generateScenarioDashboardUuid sha256 scenario
  if (s.applicationDashboards.get dashboardId).isSome then s
  else
    { s with
      applicationDashboards := s.applicationDashboards.set dashboardId
        (dashboardRow sha256 toLowerCase scenario ownership) }

/-- What is unique about the source of a scenario. -/
def sourceKey (scenario : Scenario) : SourceKey where
  systemUnderTestId := scenario.systemUnderTestId
  testEnvironment := scenario.testEnvironment
  sourceType := ascii "performance_test"
  externalRef := generateScenarioDashboardUid sha256 toLowerCase scenario.scenarioName
  displayName := generateScenarioDashboardLabel scenario.scenarioName
  displayLabel := generateScenarioDashboardLabel scenario.scenarioName

/-- Insert the source of a scenario, or update the one that is there. -/
def upsertMetricsSource (scenario : Scenario) (ownership : SutOwnership)
    (answer : Except String Text) (s : State) : Except String Text × State :=
  match answer with
  | .error message => (.error message, s)
  | .ok newId =>
    let row : SourceRow :=
      { key := sourceKey sha256 toLowerCase scenario, ownership := ownership }
    match s.metricsSources.rows.find? (·.2.key = row.key) with
    | some existing =>
      (.ok existing.1, { s with metricsSources := s.metricsSources.set existing.1 row })
    | none =>
      if (s.metricsSources.get newId).isSome then
        (.error "duplicate key value violates unique constraint", s)
      else (.ok newId, { s with metricsSources := s.metricsSources.set newId row })

/-- Store the source of a scenario whose dashboard is stored, and remember the dashboard. Where
    the source cannot be stored, there is none. -/
def remember (scenario : Scenario) (ownership : SutOwnership) (answer : Except String Text)
    (s : State) : DashboardMetadata × State :=
  let upserted := upsertMetricsSource sha256 toLowerCase scenario ownership answer s
  let metadata : DashboardMetadata :=
    { dashboardId := generateScenarioDashboardUuid sha256 scenario
      dashboardUid := generateScenarioDashboardUid sha256 toLowerCase scenario.scenarioName
      dashboardLabel := generateScenarioDashboardLabel scenario.scenarioName
      metricsSourceId := upserted.1.toOption }
  (metadata,
    { upserted.2 with
      dashboardCache := upserted.2.dashboardCache.set (cacheKey scenario) metadata })

/-- The dashboard of a scenario that is not remembered: it is created, unless it is stored. -/
def createAndRemember (scenario : Scenario) (answers : Answers) (s : State) :
    Except String (DashboardMetadata × State) :=
  match answers.ownership with
  | .error message => .error message
  | .ok ownership =>
    if (s.applicationDashboards.get (generateScenarioDashboardUuid sha256 scenario)).isSome then
      .ok (remember sha256 toLowerCase scenario ownership answers.source s)
    else
      match answers.insertError with
      | some message => .error message
      | none =>
        .ok (remember sha256 toLowerCase scenario ownership answers.source
          (createScenarioDashboard sha256 toLowerCase scenario ownership s))

/-- The dashboard of a scenario. A call that fails changes nothing. -/
def getOrCreateScenarioDashboard (scenario : Scenario) (answers : Answers) (s : State) :
    Except String (DashboardMetadata × State) :=
  match s.dashboardCache.get (cacheKey scenario) with
  | some metadata => .ok (metadata, s)
  | none => createAndRemember sha256 toLowerCase scenario answers s

/-- A step: what a call returns is kept in mind. -/
def step (s : State) : Event → Option State
  | .clearCaches => some { s with dashboardCache := Table.empty }
  | .getOrCreateScenarioDashboard scenario answers =>
    match getOrCreateScenarioDashboard sha256 toLowerCase scenario answers s with
    | .ok (metadata, s') => some { s' with returned := s'.returned ++ [(scenario, metadata)] }
    | .error _ => some s

end Manager

/-! ## Scenarios that are told apart -/

section Apart

variable (sha256 : Text → Text) (toLowerCase : Text → Text)

/-- The names of two scenarios give different names at Grafana: they do not look alike in small
    letters and hyphens, and none looks like what is made of the other one if that is too long. -/
structure NamesApart (name name' : Text) : Prop where
  /-- Names that fit do not look alike. -/
  fits : fits toLowerCase name = true → fits toLowerCase name' = true →
    sanitize toLowerCase name ≠ sanitize toLowerCase name'
  /-- One that fits does not look like one that is cut, -/
  left : ScenarioDashboards.fits toLowerCase name = true →
    ScenarioDashboards.fits toLowerCase name' = false →
      sanitize toLowerCase name ≠ truncated sha256 toLowerCase name' ++ suffix sha256 name'
  /-- nor the other way round. -/
  right : ScenarioDashboards.fits toLowerCase name = false →
    ScenarioDashboards.fits toLowerCase name' = true →
      truncated sha256 toLowerCase name ++ suffix sha256 name ≠ sanitize toLowerCase name'

/-- Two scenarios are told apart: the texts that are made of their parts are different, and the
    names of two scenarios of one system and environment are kept apart. -/
structure TellsApart (scenario scenario' : Scenario) : Prop where
  /-- The texts that are hashed differ. -/
  joined : joined scenario ≠ joined scenario'
  /-- The texts by which they are remembered differ. -/
  cacheKey : cacheKey scenario ≠ cacheKey scenario'
  /-- So do the names at Grafana. -/
  names : scenario.systemUnderTestId = scenario'.systemUnderTestId →
    scenario.testEnvironment = scenario'.testEnvironment →
      NamesApart sha256 toLowerCase scenario.scenarioName scenario'.scenarioName

/-- A scenario is told apart from those that were asked for before. -/
def CallTellsApart (s : State) : Event → Prop
  | .clearCaches => True
  | .getOrCreateScenarioDashboard scenario _ =>
    ∀ r ∈ s.returned, r.1 ≠ scenario → TellsApart sha256 toLowerCase r.1 scenario

/-- What is hashed for scenarios: the texts made of their parts, and their names. -/
def hashed (scenarios : List Scenario) : List Text :=
  scenarios.map joined ++ scenarios.map Scenario.scenarioName

/-- What is cut from the digests of some texts differs. -/
def CollisionFree (inputs : List Text) : Prop :=
  ∀ a ∈ inputs, ∀ b ∈ inputs,
    (generateDeterministicUuid sha256 a = generateDeterministicUuid sha256 b → a = b) ∧
      (substring (sha256 a) 0 SCENARIO_DASHBOARD_UID_HASH_LENGTH =
        substring (sha256 b) 0 SCENARIO_DASHBOARD_UID_HASH_LENGTH → a = b)

/-- The scenarios that are asked for. -/
def scenarios (events : List Event) : List Scenario :=
  events.filterMap fun
    | .getOrCreateScenarioDashboard scenario _ => some scenario
    | .clearCaches => none

end Apart

/-- The dashboards of different scenarios are kept apart. -/
structure KeepsApart (s : State) : Prop where
  /-- Different scenarios have different dashboards, -/
  ids : ∀ r ∈ s.returned, ∀ r' ∈ s.returned, r.1 ≠ r'.1 → r.2.dashboardId ≠ r'.2.dashboardId
  /-- those of one system and environment have different names at Grafana -/
  uids : ∀ r ∈ s.returned, ∀ r' ∈ s.returned,
    r.1.systemUnderTestId = r'.1.systemUnderTestId →
      r.1.testEnvironment = r'.1.testEnvironment → r.1.scenarioName ≠ r'.1.scenarioName →
        r.2.dashboardUid ≠ r'.2.dashboardUid
  /-- and different sources, -/
  sources : ∀ r ∈ s.returned, ∀ r' ∈ s.returned,
    r.1.systemUnderTestId = r'.1.systemUnderTestId →
      r.1.testEnvironment = r'.1.testEnvironment → r.1.scenarioName ≠ r'.1.scenarioName →
        ∀ id, r.2.metricsSourceId = some id → r'.2.metricsSourceId ≠ some id
  /-- a name at Grafana fits its column, -/
  length : ∀ r ∈ s.returned, r.2.dashboardUid.length ≤ 100
  /-- and what is returned is the dashboard of the scenario. -/
  row : ∀ r ∈ s.returned, ∃ row, s.applicationDashboards.get r.2.dashboardId = some row ∧
    row.systemUnderTestId = r.1.systemUnderTestId ∧ row.testEnvironment = r.1.testEnvironment ∧
      row.dashboardLabel = generateScenarioDashboardLabel r.1.scenarioName

/-- Nothing is remembered yet, and no dashboard has the identifier of one of a scenario. -/
structure IsFresh (sha256 : Text → Text) (s : State) : Prop where
  /-- Nothing is remembered, -/
  dashboardCache : s.dashboardCache = Table.empty
  /-- nothing was returned, -/
  returned : s.returned = []
  /-- and the identifiers are free. -/
  applicationDashboards : ∀ scenario,
    s.applicationDashboards.get (generateScenarioDashboardUuid sha256 scenario) = none

/-! ## Names at Grafana -/

section Names

variable {sha256 : Text → Text} {toLowerCase : Text → Text} {name name' : Text}

theorem length_suffix_le (name : Text) : (suffix sha256 name).length ≤ 9 := by
  rw [suffix, List.length_cons, substring, List.drop_zero, List.length_take]
  exact Nat.succ_le_succ (Nat.min_le_left _ _)

theorem length_truncated_le (name : Text) :
    (truncated sha256 toLowerCase name).length ≤
      SCENARIO_DASHBOARD_UID_MAX_LENGTH - SCENARIO_DASHBOARD_UID_PREFIX.length -
        (suffix sha256 name).length := by
  refine (List.rdropWhile_prefix _ _).length_le.trans ?_
  rw [List.length_take]
  exact Nat.min_le_left _ _

/-- A name at Grafana fits its column. -/
theorem length_generateScenarioDashboardUid_le (name : Text) :
    (generateScenarioDashboardUid sha256 toLowerCase name).length ≤ 100 := by
  rw [generateScenarioDashboardUid]
  split
  · rename_i h
    exact of_decide_eq_true h
  · have hprefix : SCENARIO_DASHBOARD_UID_PREFIX.length = 25 := by decide
    have hsuffix : (suffix sha256 name).length ≤ 9 := length_suffix_le name
    have htruncated : (truncated sha256 toLowerCase name).length ≤
        100 - SCENARIO_DASHBOARD_UID_PREFIX.length - (suffix sha256 name).length :=
      length_truncated_le name
    rw [List.length_append, List.length_append]
    omega

/-- The names of two scenarios at Grafana are the same, if the names are not kept apart. -/
theorem uid_eq_of_not_namesApart (h : ¬NamesApart sha256 toLowerCase name name') :
    generateScenarioDashboardUid sha256 toLowerCase name =
      generateScenarioDashboardUid sha256 toLowerCase name' := by
  by_contra hne
  refine h ⟨fun hfits hfits' heq => hne ?_, fun hfits hfits' heq => hne ?_,
    fun hfits hfits' heq => hne ?_⟩
  · rw [generateScenarioDashboardUid, generateScenarioDashboardUid, if_pos hfits, if_pos hfits',
      heq]
  · rw [generateScenarioDashboardUid, generateScenarioDashboardUid, if_pos hfits,
      if_neg (ne_true_of_eq_false hfits'), heq, List.append_assoc]
  · rw [generateScenarioDashboardUid, generateScenarioDashboardUid,
      if_neg (ne_true_of_eq_false hfits), if_pos hfits', ← heq, List.append_assoc]

/-- They differ, if the names are kept apart, and the digests of those that are cut do. -/
theorem uid_ne_of_namesApart (h : NamesApart sha256 toLowerCase name name')
    (hlength : ∀ input, (sha256 input).length = 64)
    (hdigest : substring (sha256 name) 0 SCENARIO_DASHBOARD_UID_HASH_LENGTH ≠
      substring (sha256 name') 0 SCENARIO_DASHBOARD_UID_HASH_LENGTH) :
    generateScenarioDashboardUid sha256 toLowerCase name ≠
      generateScenarioDashboardUid sha256 toLowerCase name' := by
  rw [generateScenarioDashboardUid, generateScenarioDashboardUid]
  cases hfits : fits toLowerCase name with
  | true =>
    cases hfits' : fits toLowerCase name' with
    | true =>
      rw [if_pos rfl, if_pos rfl]
      exact fun heq => h.fits hfits hfits' (List.append_cancel_left heq)
    | false =>
      rw [if_pos rfl, if_neg Bool.false_ne_true, List.append_assoc]
      exact fun heq => h.left hfits hfits' (List.append_cancel_left heq)
  | false =>
    cases hfits' : fits toLowerCase name' with
    | true =>
      rw [if_neg Bool.false_ne_true, if_pos rfl, List.append_assoc]
      exact fun heq => h.right hfits hfits' (List.append_cancel_left heq)
    | false =>
      rw [if_neg Bool.false_ne_true, if_neg Bool.false_ne_true]
      intro heq
      have hsuffix : ∀ n, (suffix sha256 n).length = 9 := by
        intro n
        rw [suffix, List.length_cons, substring, List.drop_zero, List.length_take, hlength]
        rfl
      have htail := List.append_inj_right' heq ((hsuffix name).trans (hsuffix name').symm)
      exact hdigest (List.cons_injective htail)

theorem NamesApart.symm (h : NamesApart sha256 toLowerCase name name') :
    NamesApart sha256 toLowerCase name' name where
  fits hfits hfits' heq := h.fits hfits' hfits heq.symm
  left hfits hfits' heq := h.right hfits' hfits heq.symm
  right hfits hfits' heq := h.left hfits' hfits heq.symm

theorem TellsApart.symm {scenario scenario' : Scenario}
    (h : TellsApart sha256 toLowerCase scenario scenario') :
    TellsApart sha256 toLowerCase scenario' scenario where
  joined := h.joined.symm
  cacheKey := h.cacheKey.symm
  names hsystem henvironment := (h.names hsystem.symm henvironment.symm).symm

theorem generateScenarioDashboardLabel_injective :
    Function.Injective generateScenarioDashboardLabel := fun _ _ => List.append_cancel_left

end Names

/-! ## What a call does -/

section Calls

variable {sha256 : Text → Text} {toLowerCase : Text → Text} {scenario : Scenario}
  {ownership : SutOwnership} {answer : Except String Text} {answers : Answers} {s s' : State}
  {result : Except String DashboardMetadata} {metadata : DashboardMetadata}

/-- A row is that of the dashboard of a scenario. -/
structure IsRowOf (scenario : Scenario) (row : DashboardRow) : Prop where
  /-- It has the system, -/
  systemUnderTestId : row.systemUnderTestId = scenario.systemUnderTestId
  /-- the environment -/
  testEnvironment : row.testEnvironment = scenario.testEnvironment
  /-- and the label. -/
  dashboardLabel : row.dashboardLabel = generateScenarioDashboardLabel scenario.scenarioName

/-- Storing a source leaves the other tables, and the keys of the sources that are there, and
    returns one of the scenario. -/
theorem upsertMetricsSource_spec {stored : Except String Text}
    (h : upsertMetricsSource sha256 toLowerCase scenario ownership answer s = (stored, s')) :
    s'.applicationDashboards = s.applicationDashboards ∧ s'.dashboardCache = s.dashboardCache ∧
      s'.returned = s.returned ∧
      (∀ id row, s.metricsSources.get id = some row →
        ∃ row', s'.metricsSources.get id = some row' ∧ row'.key = row.key) ∧
      ∀ id, stored.toOption = some id → ∃ row, s'.metricsSources.get id = some row ∧
        row.key = sourceKey sha256 toLowerCase scenario := by
  cases answer with
  | error message =>
    obtain ⟨rfl, rfl⟩ := Prod.mk.inj h
    exact ⟨rfl, rfl, rfl, fun _ row hrow => ⟨row, hrow, rfl⟩, fun id hid => absurd hid (Option.some_ne_none id).symm⟩
  | ok newId =>
    rw [upsertMetricsSource] at h
    dsimp only at h
    split at h
    · -- There is one, and it keeps its key.
      rename_i existing hfind
      have hkey : existing.2.key = sourceKey sha256 toLowerCase scenario :=
        of_decide_eq_true (List.find?_eq_some_iff_append.1 hfind).1
      have hexisting := Table.mem_rows.1 (List.mem_of_find?_eq_some hfind)
      obtain ⟨rfl, rfl⟩ := Prod.mk.inj h
      refine ⟨rfl, rfl, rfl, fun id row hrow => ?_, fun id hid => ?_⟩
      · rw [Table.get_set]
        split
        · rename_i heq
          rw [heq, hexisting, Option.some.injEq] at hrow
          exact ⟨_, rfl, by rw [← hrow, hkey]⟩
        · exact ⟨row, hrow, rfl⟩
      · obtain rfl : existing.1 = id := Option.some.inj hid
        exact ⟨_, by rw [Table.get_set, if_pos rfl], rfl⟩
    · split at h <;> obtain ⟨rfl, rfl⟩ := Prod.mk.inj h
      · exact ⟨rfl, rfl, rfl, fun _ row hrow => ⟨row, hrow, rfl⟩,
          fun id hid => absurd hid (Option.some_ne_none id).symm⟩
      · rename_i hfree
        rw [Bool.not_eq_true, Option.isSome_eq_false_iff, Option.isNone_iff_eq_none] at hfree
        refine ⟨rfl, rfl, rfl, fun id row hrow => ?_, fun id hid => ?_⟩
        · have hne : id ≠ newId := by
            rintro rfl
            rw [hfree] at hrow
            cases hrow
          exact ⟨row, by rw [Table.get_set, if_neg hne, hrow], rfl⟩
        · obtain rfl : newId = id := Option.some.inj hid
          exact ⟨_, by rw [Table.get_set, if_pos rfl], rfl⟩

/-- What storing the source of a scenario and remembering its dashboard leaves. -/
structure IsRemembered (sha256 toLowerCase : Text → Text) (scenario : Scenario) (s s' : State)
    (metadata : DashboardMetadata) : Prop where
  /-- The identifier is that of the scenario, -/
  dashboardId : metadata.dashboardId = generateScenarioDashboardUuid sha256 scenario
  /-- and so is the name at Grafana. -/
  dashboardUid : metadata.dashboardUid =
    generateScenarioDashboardUid sha256 toLowerCase scenario.scenarioName
  applicationDashboards : s'.applicationDashboards = s.applicationDashboards
  /-- The sources keep their keys, -/
  sources : ∀ id row, s.metricsSources.get id = some row →
    ∃ row', s'.metricsSources.get id = some row' ∧ row'.key = row.key
  /-- and the one that is returned has that of the scenario. -/
  source : ∀ id, metadata.metricsSourceId = some id → ∃ row, s'.metricsSources.get id = some row ∧
    row.key = sourceKey sha256 toLowerCase scenario
  /-- The dashboard is remembered. -/
  cache : s'.dashboardCache = s.dashboardCache.set (cacheKey scenario) metadata
  /-- What was returned is as it was. -/
  returned : s'.returned = s.returned

theorem remember_spec
    (h : remember sha256 toLowerCase scenario ownership answer s = (metadata, s')) :
    IsRemembered sha256 toLowerCase scenario s s' metadata := by
  rw [remember] at h
  rcases hupserted : upsertMetricsSource sha256 toLowerCase scenario ownership answer s with
    ⟨stored, upserted⟩
  obtain ⟨hdashboards, hcache, hreturned, hsources, hsource⟩ := upsertMetricsSource_spec hupserted
  rw [hupserted] at h
  obtain ⟨rfl, rfl⟩ := Prod.mk.inj h
  exact {
    dashboardId := rfl
    dashboardUid := rfl
    applicationDashboards := hdashboards
    sources := hsources
    source := hsource
    cache := congrArg (Table.set (cacheKey scenario) _) hcache
    returned := hreturned }

/-- A call that is not answered from memory finds the row of the identifier, or inserts it. -/
theorem createAndRemember_spec
    (h : createAndRemember sha256 toLowerCase scenario answers s = .ok (metadata, s')) :
    ((s.applicationDashboards.get (generateScenarioDashboardUuid sha256 scenario)).isSome = true ∧
      IsRemembered sha256 toLowerCase scenario s s' metadata) ∨
    ∃ row, IsRowOf scenario row ∧
      s.applicationDashboards.get (generateScenarioDashboardUuid sha256 scenario) = none ∧
      IsRemembered sha256 toLowerCase scenario
        { s with
          applicationDashboards := s.applicationDashboards.set
            (generateScenarioDashboardUuid sha256 scenario) row } s' metadata := by
  rw [createAndRemember] at h
  split at h
  · cases h
  rename_i ownership _
  split at h
  · rename_i hsome
    exact .inl ⟨hsome, remember_spec (Except.ok.inj h)⟩
  · rename_i hnone
    split at h
    · cases h
    · rw [createScenarioDashboard, if_neg hnone] at h
      rw [Bool.not_eq_true, Option.isSome_eq_false_iff, Option.isNone_iff_eq_none] at hnone
      exact .inr ⟨_, ⟨rfl, rfl, rfl⟩, hnone, remember_spec (Except.ok.inj h)⟩

end Calls

/-! ## Runs -/

section Runs

variable {sha256 : Text → Text} {toLowerCase : Text → Text} {init s : State} {events : List Event}

/-- What holds along the runs whose calls tell their scenarios apart. -/
structure Inv (sha256 toLowerCase : Text → Text) (s : State) : Prop where
  /-- The scenarios that were asked for are told apart. -/
  apart : ∀ r ∈ s.returned, ∀ r' ∈ s.returned, r.1 ≠ r'.1 →
    TellsApart sha256 toLowerCase r.1 r'.1
  /-- What was returned is what identifies the scenario. -/
  ids : ∀ r ∈ s.returned, r.2.dashboardId = generateScenarioDashboardUuid sha256 r.1 ∧
    r.2.dashboardUid = generateScenarioDashboardUid sha256 toLowerCase r.1.scenarioName
  /-- Its dashboard is stored. -/
  rows : ∀ r ∈ s.returned, ∃ row,
    s.applicationDashboards.get (generateScenarioDashboardUuid sha256 r.1) = some row ∧
      IsRowOf r.1 row
  /-- Its source has its key. -/
  sources : ∀ r ∈ s.returned, ∀ id, r.2.metricsSourceId = some id →
    ∃ row, s.metricsSources.get id = some row ∧ row.key = sourceKey sha256 toLowerCase r.1
  /-- What is remembered was returned. -/
  cache : ∀ key metadata, s.dashboardCache.get key = some metadata →
    ∃ r ∈ s.returned, r.2 = metadata ∧ cacheKey r.1 = key
  /-- Dashboards of scenarios are stored for those that were asked for. -/
  stored : ∀ scenario row,
    s.applicationDashboards.get (generateScenarioDashboardUuid sha256 scenario) = some row →
      ∃ r ∈ s.returned,
        generateScenarioDashboardUuid sha256 r.1 = generateScenarioDashboardUuid sha256 scenario

theorem IsFresh.inv (h : IsFresh sha256 s) : Inv sha256 toLowerCase s where
  apart r hr := by
    rw [h.returned] at hr
    cases hr
  ids r hr := by
    rw [h.returned] at hr
    cases hr
  rows r hr := by
    rw [h.returned] at hr
    cases hr
  sources r hr := by
    rw [h.returned] at hr
    cases hr
  cache key metadata hget := by
    rw [h.dashboardCache] at hget
    cases hget
  stored scenario row hget := by
    rw [h.applicationDashboards] at hget
    cases hget

/-- The invariant says nothing about how often a dashboard was returned. -/
theorem Inv.of_returned (h : Inv sha256 toLowerCase s)
    {returned : List (Scenario × DashboardMetadata)}
    (hmem : ∀ r, r ∈ returned ↔ r ∈ s.returned) :
    Inv sha256 toLowerCase { s with returned := returned } where
  apart r hr r' hr' := h.apart r ((hmem r).1 hr) r' ((hmem r').1 hr')
  ids r hr := h.ids r ((hmem r).1 hr)
  rows r hr := h.rows r ((hmem r).1 hr)
  sources r hr := h.sources r ((hmem r).1 hr)
  cache key metadata hget := by
    obtain ⟨r, hr, hrest⟩ := h.cache key metadata hget
    exact ⟨r, (hmem r).2 hr, hrest⟩
  stored scenario row hget := by
    obtain ⟨r, hr, hrest⟩ := h.stored scenario row hget
    exact ⟨r, (hmem r).2 hr, hrest⟩

/-- It is kept when the dashboard of a scenario that is told apart is remembered, once its row is
    stored. -/
theorem Inv.remembered {scenario : Scenario} {metadata : DashboardMetadata} {created s' : State}
    (h : Inv sha256 toLowerCase s)
    (hapart : ∀ r ∈ s.returned, r.1 ≠ scenario → TellsApart sha256 toLowerCase r.1 scenario)
    (hcreated : created = { s with applicationDashboards := created.applicationDashboards })
    (hrows : ∀ r ∈ s.returned, ∃ row, created.applicationDashboards.get
      (generateScenarioDashboardUuid sha256 r.1) = some row ∧ IsRowOf r.1 row)
    (hrow : ∃ row, created.applicationDashboards.get
      (generateScenarioDashboardUuid sha256 scenario) = some row ∧ IsRowOf scenario row)
    (hstored : ∀ sc, generateScenarioDashboardUuid sha256 sc ≠
      generateScenarioDashboardUuid sha256 scenario →
        created.applicationDashboards.get (generateScenarioDashboardUuid sha256 sc) =
          s.applicationDashboards.get (generateScenarioDashboardUuid sha256 sc))
    (hremembered : IsRemembered sha256 toLowerCase scenario created s' metadata) :
    Inv sha256 toLowerCase { s' with returned := s'.returned ++ [(scenario, metadata)] } := by
  have hreturned : s'.returned = s.returned := hremembered.returned.trans (by rw [hcreated])
  have hsources : created.metricsSources = s.metricsSources := by rw [hcreated]
  have hcache : created.dashboardCache = s.dashboardCache := by rw [hcreated]
  have hmem : ∀ r, r ∈ s'.returned ++ [(scenario, metadata)] ↔
      r ∈ s.returned ∨ r = (scenario, metadata) := by
    intro r
    rw [hreturned, List.mem_append, List.mem_singleton]
  refine ⟨fun r hr r' hr' hne => ?_, fun r hr => ?_, fun r hr => ?_, fun r hr id hid => ?_,
    fun key found hget => ?_, fun sc row hget => ?_⟩
  · rcases (hmem r).1 hr with hr | rfl <;> rcases (hmem r').1 hr' with hr' | rfl
    · exact h.apart r hr r' hr' hne
    · exact hapart r hr hne
    · exact (hapart r' hr' hne.symm).symm
    · exact absurd rfl hne
  · rcases (hmem r).1 hr with hr | rfl
    · exact h.ids r hr
    · exact ⟨hremembered.dashboardId, hremembered.dashboardUid⟩
  · rw [hremembered.applicationDashboards]
    rcases (hmem r).1 hr with hr | rfl
    · exact hrows r hr
    · exact hrow
  · rcases (hmem r).1 hr with hr | rfl
    · obtain ⟨row, hget, hkey⟩ := h.sources r hr id hid
      obtain ⟨row', hget', hkey'⟩ := hremembered.sources id row (hsources ▸ hget)
      exact ⟨row', hget', hkey'.trans hkey⟩
    · exact hremembered.source id hid
  · dsimp only at hget
    rw [hremembered.cache, hcache, Table.get_set] at hget
    split at hget
    · rename_i hkey
      exact ⟨(scenario, metadata), (hmem _).2 (.inr rfl), Option.some.inj hget, hkey.symm⟩
    · obtain ⟨r, hr, hrest⟩ := h.cache key found hget
      exact ⟨r, (hmem r).2 (.inl hr), hrest⟩
  · dsimp only at hget
    rw [hremembered.applicationDashboards] at hget
    by_cases hsc : generateScenarioDashboardUuid sha256 sc =
        generateScenarioDashboardUuid sha256 scenario
    · exact ⟨(scenario, metadata), (hmem _).2 (.inr rfl), hsc.symm⟩
    · obtain ⟨r, hr, hrest⟩ := h.stored sc row (hstored sc hsc ▸ hget)
      exact ⟨r, (hmem r).2 (.inl hr), hrest⟩

/-- It is kept by a step that tells its scenario apart, if its digest differs from the others. -/
theorem Inv.step {e : Event} {s' : State} (h : Inv sha256 toLowerCase s)
    (happart : CallTellsApart sha256 toLowerCase s e)
    (hdigest : ∀ scenario ∈ scenarios [e], ∀ r ∈ s.returned,
      generateScenarioDashboardUuid sha256 r.1 = generateScenarioDashboardUuid sha256 scenario →
        joined r.1 = joined scenario)
    (hstep : ScenarioDashboards.step sha256 toLowerCase s e = some s') :
    Inv sha256 toLowerCase s' := by
  cases e with
  | clearCaches =>
    obtain rfl := Option.some.inj hstep
    exact { h with cache := fun key metadata hget => by cases hget }
  | getOrCreateScenarioDashboard scenario answers =>
    rw [ScenarioDashboards.step] at hstep
    split at hstep
    swap
    · obtain rfl := Option.some.inj hstep
      exact h
    rename_i metadata created hcall
    obtain rfl := Option.some.inj hstep
    rw [getOrCreateScenarioDashboard] at hcall
    split at hcall
    · -- The dashboard that is remembered is that of the scenario.
      rename_i found hfound
      obtain ⟨rfl, rfl⟩ := Prod.mk.inj (Except.ok.inj hcall)
      obtain ⟨r, hr, rfl, hkey⟩ := h.cache _ _ hfound
      have hsame : r.1 = scenario := by
        by_contra hne
        exact (happart r hr hne).cacheKey hkey
      have hmem : (scenario, r.2) ∈ s.returned := by
        rw [← hsame]
        exact hr
      refine h.of_returned fun r' => ?_
      rw [List.mem_append, List.mem_singleton]
      exact or_iff_left_of_imp fun heq => heq ▸ hmem
    · rcases createAndRemember_spec hcall with
        ⟨hsome, hremembered⟩ | ⟨row, hrow, hnone, hremembered⟩
      · -- The row that is stored is that of the scenario, as its digest is its own.
        obtain ⟨row, hget⟩ := Option.isSome_iff_exists.1 hsome
        obtain ⟨r, hr, hid⟩ := h.stored scenario row hget
        have hsame : r.1 = scenario := by
          by_contra hne
          exact (happart r hr hne).joined (hdigest scenario List.mem_cons_self r hr hid)
        exact h.remembered happart rfl h.rows (hsame ▸ h.rows r hr) (fun _ _ => rfl) hremembered
      · refine h.remembered happart rfl (fun r hr => ?_) ⟨row, ?_, hrow⟩ (fun sc hsc => ?_)
          hremembered
        · obtain ⟨row', hget, hrow'⟩ := h.rows r hr
          have hne : generateScenarioDashboardUuid sha256 r.1 ≠
              generateScenarioDashboardUuid sha256 scenario := by
            intro heq
            rw [heq, hnone] at hget
            cases hget
          exact ⟨row', by rw [Table.get_set, if_neg hne, hget], hrow'⟩
        · rw [Table.get_set, if_pos rfl]
        · rw [Table.get_set, if_neg hsc]

/-- What is returned is returned for the scenario. -/
theorem mem_returned_step {e : Event} {s' : State}
    (hstep : ScenarioDashboards.step sha256 toLowerCase s e = some s') :
    ∀ r ∈ s'.returned, r ∈ s.returned ∨ r.1 ∈ scenarios [e] := by
  intro r hr
  cases e with
  | clearCaches =>
    obtain rfl := Option.some.inj hstep
    exact .inl hr
  | getOrCreateScenarioDashboard scenario answers =>
    rw [ScenarioDashboards.step] at hstep
    split at hstep
    swap
    · obtain rfl := Option.some.inj hstep
      exact .inl hr
    rename_i metadata created hcall
    have hreturned : created.returned = s.returned := by
      rw [getOrCreateScenarioDashboard] at hcall
      split at hcall
      · exact congrArg State.returned (Prod.mk.inj (Except.ok.inj hcall)).2.symm
      · rcases createAndRemember_spec hcall with ⟨-, h⟩ | ⟨row, -, -, h⟩
        · exact h.returned
        · exact h.returned
    obtain rfl := Option.some.inj hstep
    rw [hreturned, List.mem_append, List.mem_singleton] at hr
    rcases hr with hr | rfl
    · exact .inl hr
    · exact .inr List.mem_cons_self

theorem scenarios_append (events events' : List Event) :
    scenarios (events ++ events') = scenarios events ++ scenarios events' :=
  List.filterMap_append

theorem joined_mem_hashed {scenario : Scenario} {l : List Scenario} (h : scenario ∈ l) :
    joined scenario ∈ hashed l := List.mem_append_left _ (List.mem_map_of_mem h)

theorem scenarioName_mem_hashed {scenario : Scenario} {l : List Scenario} (h : scenario ∈ l) :
    scenario.scenarioName ∈ hashed l := List.mem_append_right _ (List.mem_map_of_mem h)

theorem mem_hashed {l l' : List Scenario} (h : ∀ scenario ∈ l, scenario ∈ l') :
    ∀ a ∈ hashed l, a ∈ hashed l' := by
  intro a ha
  rcases List.mem_append.1 ha with ha | ha
  · obtain ⟨scenario, hsc, rfl⟩ := List.mem_map.1 ha
    exact joined_mem_hashed (h scenario hsc)
  · obtain ⟨scenario, hsc, rfl⟩ := List.mem_map.1 ha
    exact scenarioName_mem_hashed (h scenario hsc)

/-- The invariant holds along the runs whose calls tell their scenarios apart. -/
theorem run_inv (hinit : IsFresh sha256 init)
    (hrun : Run (ScenarioDashboards.step sha256 toLowerCase) (CallTellsApart sha256 toLowerCase)
      init events s) :
    (∀ r ∈ s.returned, r.1 ∈ scenarios events) ∧
      (CollisionFree sha256 (hashed (scenarios events)) → Inv sha256 toLowerCase s) := by
  refine @Run.invariant _ _ (ScenarioDashboards.step sha256 toLowerCase) _ init
    (fun events s => (∀ r ∈ s.returned, r.1 ∈ scenarios events) ∧
      (CollisionFree sha256 (hashed (scenarios events)) → Inv sha256 toLowerCase s))
    ⟨fun r hr => ?_, fun _ => hinit.inv⟩ ?_ events s hrun
  · rw [hinit.returned] at hr
    cases hr
  · rintro events s e s' ⟨hmem, hinv⟩ happart hstep
    refine ⟨fun r hr => ?_, fun hfree => ?_⟩
    · rw [scenarios_append, List.mem_append]
      exact (mem_returned_step hstep r hr).imp_left (hmem r)
    · have hsubset : ∀ scenario, scenario ∈ scenarios events ∨ scenario ∈ scenarios [e] →
          scenario ∈ scenarios (events ++ [e]) := fun scenario h => by
        rw [scenarios_append, List.mem_append]
        exact h
      have hfree' : CollisionFree sha256 (hashed (scenarios events)) := by
        have hle := mem_hashed fun scenario h => hsubset scenario (.inl h)
        exact fun a ha b hb => hfree a (hle a ha) b (hle b hb)
      refine (hinv hfree').step happart (fun scenario hsc r hr heq => ?_) hstep
      exact (hfree _ (joined_mem_hashed (hsubset r.1 (.inl (hmem r hr)))) _
        (joined_mem_hashed (hsubset scenario (.inr hsc)))).1 heq

/-- Where it holds, and digests differ, the dashboards are kept apart. -/
theorem Inv.keepsDashboardsApart (h : Inv sha256 toLowerCase s)
    (hlength : ∀ input, (sha256 input).length = 64)
    (hfree : CollisionFree sha256 (hashed (s.returned.map Prod.fst))) : KeepsApart s := by
  have hmem : ∀ r ∈ s.returned, r.1 ∈ s.returned.map Prod.fst := fun r hr => List.mem_map_of_mem hr
  refine ⟨fun r hr r' hr' hne => ?_, fun r hr r' hr' hsystem henvironment hname => ?_,
    fun r hr r' hr' hsystem henvironment hname id hid hid' => ?_, fun r hr => ?_, fun r hr => ?_⟩
  · rw [(h.ids r hr).1, (h.ids r' hr').1]
    intro heq
    exact (h.apart r hr r' hr' hne).joined ((hfree _ (joined_mem_hashed (hmem r hr)) _
      (joined_mem_hashed (hmem r' hr'))).1 heq)
  · have hne : r.1 ≠ r'.1 := fun heq => hname (congrArg Scenario.scenarioName heq)
    rw [(h.ids r hr).2, (h.ids r' hr').2]
    refine uid_ne_of_namesApart ((h.apart r hr r' hr' hne).names hsystem henvironment) hlength ?_
    exact fun heq => hname ((hfree _ (scenarioName_mem_hashed (hmem r hr)) _
      (scenarioName_mem_hashed (hmem r' hr'))).2 heq)
  · -- The label is part of what is unique about a source.
    obtain ⟨row, hget, hkey⟩ := h.sources r hr id hid
    obtain ⟨row', hget', hkey'⟩ := h.sources r' hr' id hid'
    rw [hget, Option.some.injEq] at hget'
    rw [← hget', hkey] at hkey'
    exact hname (generateScenarioDashboardLabel_injective (congrArg SourceKey.displayLabel hkey'))
  · rw [(h.ids r hr).2]
    exact length_generateScenarioDashboardUid_le _
  · obtain ⟨row, hget, hrow⟩ := h.rows r hr
    rw [(h.ids r hr).1]
    exact ⟨row, hget, hrow.systemUnderTestId, hrow.testEnvironment, hrow.dashboardLabel⟩

/-! ## Scenarios that are mixed up -/

/-- A call that the database serves returns what is remembered, or what identifies the scenario. -/
theorem exists_getOrCreateScenarioDashboard {scenario : Scenario} {answers : Answers}
    {ownership : SutOwnership} (howner : answers.ownership = .ok ownership)
    (hinsert : answers.insertError = none) (s : State) :
    ∃ metadata s', getOrCreateScenarioDashboard sha256 toLowerCase scenario answers s =
        .ok (metadata, s') ∧ s'.returned = s.returned ∧
      (s.dashboardCache.get (cacheKey scenario) = some metadata ∨
        (s.dashboardCache.get (cacheKey scenario) = none ∧
          metadata.dashboardId = generateScenarioDashboardUuid sha256 scenario ∧
          metadata.dashboardUid =
            generateScenarioDashboardUid sha256 toLowerCase scenario.scenarioName ∧
          s'.dashboardCache = s.dashboardCache.set (cacheKey scenario) metadata)) := by
  rw [getOrCreateScenarioDashboard]
  cases hcache : s.dashboardCache.get (cacheKey scenario) with
  | some metadata => exact ⟨metadata, s, rfl, rfl, .inl rfl⟩
  | none =>
    have hcall : ∃ found, createAndRemember sha256 toLowerCase scenario answers s = .ok found := by
      rw [createAndRemember, howner]
      dsimp only
      split
      · exact ⟨_, rfl⟩
      · rw [hinsert]
        exact ⟨_, rfl⟩
    obtain ⟨⟨metadata, s'⟩, hcall⟩ := hcall
    rcases createAndRemember_spec hcall with ⟨-, h⟩ | ⟨row, -, -, h⟩
    · exact ⟨metadata, s', hcall, h.returned, .inr ⟨rfl, h.dashboardId, h.dashboardUid, h.cache⟩⟩
    · exact ⟨metadata, s', hcall, h.returned, .inr ⟨rfl, h.dashboardId, h.dashboardUid, h.cache⟩⟩

/-- Two scenarios that are not told apart are mixed up by a run with a call for each. -/
theorem exists_run_not_keepsApart (hinit : IsFresh sha256 init) {scenario scenario' : Scenario}
    (hne : scenario ≠ scenario') (hnot : ¬TellsApart sha256 toLowerCase scenario scenario')
    {answers answers' : Answers} {ownership ownership' : SutOwnership}
    (howner : answers.ownership = .ok ownership) (hinsert : answers.insertError = none)
    (howner' : answers'.ownership = .ok ownership') (hinsert' : answers'.insertError = none) :
    ∃ s, Run (ScenarioDashboards.step sha256 toLowerCase) (fun _ _ => True) init
      [.getOrCreateScenarioDashboard scenario answers,
        .getOrCreateScenarioDashboard scenario' answers'] s ∧ ¬KeepsApart s := by
  have hexists : ∀ {sc : Scenario} {a : Answers} {o : SutOwnership} (s : State),
      a.ownership = .ok o → a.insertError = none → ∃ metadata s',
        getOrCreateScenarioDashboard sha256 toLowerCase sc a s = .ok (metadata, s') ∧ _ :=
    fun s howner hinsert => exists_getOrCreateScenarioDashboard howner hinsert s
  obtain ⟨m, s₁, hcall, hreturned, hfirst⟩ := hexists init howner hinsert
  obtain ⟨-, hid, huid, hcache⟩ := hfirst.resolve_left (by rw [hinit.dashboardCache]; exact nofun)
  let s₂ : State := { s₁ with returned := s₁.returned ++ [(scenario, m)] }
  obtain ⟨m', s₃, hcall', hreturned', hsecond⟩ := hexists s₂ howner' hinsert'
  have hstep : ScenarioDashboards.step sha256 toLowerCase init
      (.getOrCreateScenarioDashboard scenario answers) = some s₂ := by
    rw [ScenarioDashboards.step, hcall]
  have hstep' : ScenarioDashboards.step sha256 toLowerCase s₂
      (.getOrCreateScenarioDashboard scenario' answers') =
        some { s₃ with returned := s₃.returned ++ [(scenario', m')] } := by
    rw [ScenarioDashboards.step, hcall']
  have hrun : Run (ScenarioDashboards.step sha256 toLowerCase) (fun _ _ => True) init
      ([] ++ [.getOrCreateScenarioDashboard scenario answers] ++
        [.getOrCreateScenarioDashboard scenario' answers']) _ :=
    .snoc (.snoc .start trivial hstep) trivial hstep'
  refine ⟨_, hrun, fun hapart => ?_⟩
  have hmem : (scenario, m) ∈ s₃.returned ++ [(scenario', m')] := by
    rw [hreturned']
    exact List.mem_append_left _ (List.mem_append_right _ List.mem_cons_self)
  have hmem' : (scenario', m') ∈ s₃.returned ++ [(scenario', m')] :=
    List.mem_append_right _ List.mem_cons_self
  have hids : m.dashboardId ≠ m'.dashboardId := hapart.ids _ hmem _ hmem' hne
  have hget : s₂.dashboardCache.get (cacheKey scenario') =
      if cacheKey scenario' = cacheKey scenario then some m else none := by
    change s₁.dashboardCache.get _ = _
    rw [hcache, Table.get_set, hinit.dashboardCache]
    rfl
  rcases hsecond with hfound | ⟨hnone, hid', huid', -⟩
  · -- The dashboard of the one is remembered for the other.
    rw [hget] at hfound
    split at hfound
    · exact hids (congrArg DashboardMetadata.dashboardId (Option.some.inj hfound))
    · cases hfound
  · have hkey : cacheKey scenario ≠ cacheKey scenario' := by
      intro heq
      rw [hget, if_pos heq.symm] at hnone
      cases hnone
    have hjoined : joined scenario ≠ joined scenario' := by
      intro heq
      refine hids ?_
      rw [hid, hid', generateScenarioDashboardUuid, generateScenarioDashboardUuid, heq]
    refine hnot ⟨hjoined, hkey, fun hsystem henvironment => ?_⟩
    by_contra hnames
    have hname : scenario.scenarioName ≠ scenario'.scenarioName := by
      intro heq
      obtain ⟨system, environment, name⟩ := scenario
      obtain ⟨system', environment', name'⟩ := scenario'
      dsimp only at hsystem henvironment heq
      exact hne (by rw [hsystem, henvironment, heq])
    refine hapart.uids _ hmem _ hmem' hsystem henvironment hname ?_
    rw [huid, huid', uid_eq_of_not_namesApart hnames]

end Runs

/-- The dashboards of scenarios are kept apart along every run whose calls tell them apart, if
    digests do not collide. Two scenarios that are not told apart are mixed up. -/
theorem scenarioDashboards_keepApart (sha256 toLowerCase : Text → Text)
    (hlength : ∀ input, (sha256 input).length = 64) {init : State} (hinit : IsFresh sha256 init) :
    (∀ events s, Run (step sha256 toLowerCase) (CallTellsApart sha256 toLowerCase) init events s →
      CollisionFree sha256 (hashed (scenarios events)) → KeepsApart s) ∧
    ∀ scenario scenario', scenario ≠ scenario' → ¬TellsApart sha256 toLowerCase scenario scenario' →
      ∀ answers answers' ownership ownership', answers.ownership = .ok ownership →
        answers.insertError = none → answers'.ownership = .ok ownership' →
        answers'.insertError = none →
          ∃ s, Run (step sha256 toLowerCase) (fun _ _ => True) init
            [.getOrCreateScenarioDashboard scenario answers,
              .getOrCreateScenarioDashboard scenario' answers'] s ∧ ¬KeepsApart s := by
  refine ⟨fun events s hrun hfree => ?_, fun _ _ hne hnot _ _ _ _ howner hinsert howner' hinsert' =>
    exists_run_not_keepsApart hinit hne hnot howner hinsert howner' hinsert'⟩
  obtain ⟨hmem, hinv⟩ := run_inv hinit hrun
  have hle : ∀ a ∈ hashed (s.returned.map Prod.fst), a ∈ hashed (scenarios events) := by
    refine mem_hashed fun scenario hscenario => ?_
    obtain ⟨r, hr, rfl⟩ := List.mem_map.1 hscenario
    exact hmem r hr
  exact (hinv hfree).keepsDashboardsApart hlength fun a ha b hb => hfree a (hle a ha) b (hle b hb)

/-! ## Examples -/

def system : Text := ascii "5f0c6a52-0f5c-4f0e-9d35-1a2b3c4d5e6f"

/-- The digests of some texts. -/
def digests : List (Text × Text) :=
  [(system ++ ascii "-acc-perf-test-login",
      ascii "f2885febcfc43bb0ffc8367218f10338b41358999a5bee5f352d1a67ac858224"),
    (system ++ ascii "-acc-perf-test-logout",
      ascii "4dbeed7f5e6c121ef038f8fb7abce2818599f02c668e8e49c5bd09561fc363ca"),
    (system ++ ascii "-acc-perf-test-Login",
      ascii "63eb3c8b8f5ad5348a659c67a078f3a975c157efaf72835f2135ff36242f776e"),
    (system ++ ascii "-acc-perf-test-a-perf-test-b",
      ascii "de5b5cd1e44782bf098f245c4a6409c0dee0111b9f7310e22c53f688a8c0880e"),
    (ascii "login", ascii "428821350e9691491f616b754cd8315fb86d797ab35d843479e732ef90665324"),
    (ascii "logout", ascii "00270cf63f93c307e7e9d2cc7e639fa50aca58eeb64be3266a798c9c19535219"),
    (ascii "Login", ascii "9d6322c1f4d9d3f38aed8bfbe0b2bcadf66ad82c008476fa62541fa069138e94"),
    (ascii "b", ascii "3e23e8160039594a33894f6564e1b1348bbd7a0088d42c4acb73eeaed59c009d"),
    (ascii "a-perf-test-b",
      ascii "a0bc221a76a05c39425f423ccad86a26ad307613f0b02d741e423bf44340181a")]

/-- SHA-256 of these texts. -/
def digest (input : Text) : Text := (digests.lookup input).getD (List.replicate 64 48)

/-- Small letters for the capital ones of ASCII. -/
def asciiLower (s : Text) : Text := s.map fun u => if 65 ≤ u.val ∧ u.val ≤ 90 then u + 32 else u

/-- A scenario of the system. -/
def scenario (testEnvironment scenarioName : String) : Scenario where
  systemUnderTestId := system
  testEnvironment := ascii testEnvironment
  scenarioName := ascii scenarioName

/-- A database that serves all that it is asked. -/
def serve (newId : String) : Answers where
  ownership := .ok { organizationId := ascii "perfana", teamId := none }
  insertError := none
  source := .ok (ascii newId)

/-- Tables without rows. -/
def emptyState : State :=
  { applicationDashboards := Table.empty, metricsSources := Table.empty,
    dashboardCache := Table.empty, returned := [] }

theorem emptyState_isFresh : IsFresh digest emptyState := ⟨rfl, rfl, fun _ => rfl⟩

theorem length_digest (input : Text) : (digest input).length = 64 := by
  have hlengths : ∀ entry ∈ digests, entry.2.length = 64 := by decide +kernel
  rw [digest]
  cases hlookup : digests.lookup input with
  | none => rw [Option.getD_none, List.length_replicate]
  | some d =>
    obtain ⟨l₁, l₂, hsplit, -⟩ := List.lookup_eq_some_iff.1 hlookup
    exact hlengths (input, d) (hsplit ▸ List.mem_append_right _ List.mem_cons_self)

/-- The calls for two scenarios. -/
def loginRun : List Event :=
  [.getOrCreateScenarioDashboard (scenario "acc" "login") (serve "1"),
    .getOrCreateScenarioDashboard (scenario "acc" "logout") (serve "2")]

theorem login_tellsApart :
    TellsApart digest asciiLower (scenario "acc" "login") (scenario "acc" "logout") where
  joined := by decide +kernel
  cacheKey := by decide +kernel
  names _ _ :=
    { fits := fun _ _ => by decide +kernel
      left := fun _ h => absurd h (by decide +kernel)
      right := fun h => absurd h (by decide +kernel) }

/-- The scenarios `login` and `logout` are kept apart. -/
theorem login_keepsApart : ∃ s, s.returned.map Prod.fst = scenarios loginRun ∧ KeepsApart s := by
  obtain ⟨s₁, s₂, hstep₁, hreturned₁, hstep₂, hreturned₂⟩ : ∃ s₁ s₂,
      step digest asciiLower emptyState
        (.getOrCreateScenarioDashboard (scenario "acc" "login") (serve "1")) = some s₁ ∧
      s₁.returned.map Prod.fst = [scenario "acc" "login"] ∧
      step digest asciiLower s₁
        (.getOrCreateScenarioDashboard (scenario "acc" "logout") (serve "2")) = some s₂ ∧
      s₂.returned.map Prod.fst = scenarios loginRun := ⟨_, _, rfl, rfl, rfl, rfl⟩
  have hfirst : CallTellsApart digest asciiLower emptyState
      (.getOrCreateScenarioDashboard (scenario "acc" "login") (serve "1")) :=
    fun r hr => absurd hr List.not_mem_nil
  have hsecond : CallTellsApart digest asciiLower s₁
      (.getOrCreateScenarioDashboard (scenario "acc" "logout") (serve "2")) := by
    intro r hr _
    have hmem : r.1 ∈ s₁.returned.map Prod.fst := List.mem_map_of_mem hr
    rw [hreturned₁, List.mem_singleton] at hmem
    rw [hmem]
    exact login_tellsApart
  have hrun : Run (step digest asciiLower) (CallTellsApart digest asciiLower) emptyState
      ([] ++ [.getOrCreateScenarioDashboard (scenario "acc" "login") (serve "1")] ++
        [.getOrCreateScenarioDashboard (scenario "acc" "logout") (serve "2")]) s₂ :=
    .snoc (.snoc .start hfirst hstep₁) hsecond hstep₂
  refine ⟨s₂, hreturned₂, (scenarioDashboards_keepApart digest asciiLower length_digest
    emptyState_isFresh).1 _ s₂ hrun ?_⟩
  unfold CollisionFree
  decide +kernel

/-- The parts of two scenarios make one text, where an environment or a name has what is put
    between them; and the names of two scenarios look alike in small letters. -/
theorem login_mixed :
    (CollisionFree digest
        (hashed [scenario "acc-perf-test-a" "b", scenario "acc" "a-perf-test-b"]) ∧
      ∃ s, Run (step digest asciiLower) (fun _ _ => True) emptyState
        [.getOrCreateScenarioDashboard (scenario "acc-perf-test-a" "b") (serve "1"),
          .getOrCreateScenarioDashboard (scenario "acc" "a-perf-test-b") (serve "2")] s ∧
            ¬KeepsApart s) ∧
    (CollisionFree digest (hashed [scenario "acc" "Login", scenario "acc" "login"]) ∧
      ∃ s, Run (step digest asciiLower) (fun _ _ => True) emptyState
        [.getOrCreateScenarioDashboard (scenario "acc" "Login") (serve "1"),
          .getOrCreateScenarioDashboard (scenario "acc" "login") (serve "2")] s ∧
            ¬KeepsApart s) := by
  refine ⟨⟨?_, exists_run_not_keepsApart emptyState_isFresh (by decide +kernel) (fun h => ?_) rfl
    rfl rfl rfl⟩, ?_, exists_run_not_keepsApart emptyState_isFresh (by decide +kernel) (fun h => ?_)
      rfl rfl rfl rfl⟩
  · unfold CollisionFree
    decide +kernel
  · exact h.joined (by decide +kernel)
  · unfold CollisionFree
    decide +kernel
  · exact (h.names rfl rfl).fits (by decide +kernel) (by decide +kernel) (by decide +kernel)

end Perfana.ScenarioDashboards
