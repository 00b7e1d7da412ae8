import Perfana.GrafanaSync.Sync
import Perfana.Lib.Traced
import Mathlib.Data.List.Nodup

/-!
# Auto-configuration

The dashboards of a profile are set up for the systems whose runs have its tags. A profile names
the Grafana instance by its label, and organizations share labels; which instance a label means is
resolved anew at each place that needs it, within an organization or without one. What a
computation touches is traced: the instances that are read or called, the stored dashboards that
are read or written, and the instances that an application dashboard is linked to.

* `resolve_unscoped`: without an organization, a label means an instance if no other has it.
-/

namespace Perfana.AutoConfig

open GrafanaSync

/-! ## The tables -/

/-- A row of `systems_under_test`. -/
structure SystemUnderTest where
  id : String
  name : String
  organizationId : Option String

/-- A variable of a dashboard with its values. -/
structure DashboardVariable where
  name : String
  values : List String
  deriving DecidableEq

/-- A row of `grafana_dashboards`, with the columns that the sync does not write. -/
structure StoredDashboard extends GrafanaDashboard where
  id : ℕ
  templateDashboardUid : Option String

/-- A row of `application_dashboards`. -/
structure ApplicationDashboard where
  id : ℕ
  systemUnderTestId : String
  testEnvironment : String
  grafanaInstanceId : String
  grafanaDashboardId : Option ℕ
  dashboardName : String
  dashboardLabel : String
  dashboardId : ℤ
  dashboardUid : String
  templateDashboardUid : Option String
  tags : List String
  variableValues : Option (List DashboardVariable)
  organizationId : Option String

/-- The Grafana instances: an organization has at most one with a label. -/
structure Instances where
  rows : List GrafanaInstance
  nodup_id : (rows.map GrafanaInstance.id).Nodup
  nodup_label : (rows.map fun gi => (gi.label, gi.organizationId)).Nodup

/-- The database. -/
structure World where
  instances : Instances
  systems : List SystemUnderTest
  grafanaDashboards : List StoredDashboard
  applicationDashboards : List ApplicationDashboard
  nextId : ℕ

/-- A row of `profile_grafana_dashboards`. -/
structure ProfileGrafanaDashboard where
  dashboardName : String
  dashboardUid : String
  grafanaLabel : String
  createSeparateDashboardForVariable : Option String
  setHardcodedValueForVariables : List DashboardVariable
  readOnly : Bool

/-- A run, with the name of its system. -/
structure TestRun where
  systemUnderTestId : String
  systemUnderTestName : Option String
  testEnvironment : String
  organizationId : Option String

/-- What Grafana answers. -/
structure GrafanaApi where
  getDashboardByUid : String → String → Except String DashboardDetails
  createOrFindFolder : String → String → Except String (ℤ × String)
  createDashboard : String → DashboardDetails → ℤ × String → Except String Unit

/-- What is touched. -/
inductive Touch
  /-- An instance is read, or called. -/
  | grafana (instanceId : String)
  /-- A stored dashboard of an instance is read, or written. -/
  | dashboard (instanceId : String)
  /-- An application dashboard is linked to an instance. -/
  | link (instanceId : String)
  /-- The storing of the application dashboards is reached. -/
  | store
  deriving DecidableEq

/-- A computation of the auto-configuration. -/
abbrev Auto (α : Type) : Type := Traced Touch World α

/-- The name that a run gives its system. -/
def TestRun.sutName (testRun : TestRun) : String :=
  (truthy testRun.systemUnderTestName).getD testRun.systemUnderTestId

/-! ## The uid of a dashboard -/

def DashboardUid.flattenVariables (vars : List DashboardVariable) : String :=
  String.join (vars.flatMap fun v => v.name :: v.values)

section

variable (md5 : String → String) (testRun : TestRun) (autoConfigDashboard : ProfileGrafanaDashboard)
  (vars : List DashboardVariable)

/-- What the uid is a hash of, but for the variables. -/
def uidBase : String :=
  testRun.sutName ++ testRun.testEnvironment ++ autoConfigDashboard.grafanaLabel ++
    autoConfigDashboard.dashboardUid

def DashboardUid.«from» : String :=
  if autoConfigDashboard.readOnly then autoConfigDashboard.dashboardUid
  else md5 (uidBase testRun autoConfigDashboard)

def DashboardUid.legacyFrom : String :=
  let hardCodedVarNames := autoConfigDashboard.setHardcodedValueForVariables.map
    DashboardVariable.name
  let filtered := (vars.filter fun v => !hardCodedVarNames.contains v.name).filter fun v =>
    some v.name = autoConfigDashboard.createSeparateDashboardForVariable ||
      v.name = "system_under_test" || v.name = "test_environment"
  md5 (uidBase testRun autoConfigDashboard ++ DashboardUid.flattenVariables filtered)

/-- The uid of a dashboard: `createDashboardUid`, and `resolveDashboardUid`. -/
def createDashboardUid : String :=
  if (truthy autoConfigDashboard.createSeparateDashboardForVariable).isSome then
    DashboardUid.legacyFrom md5 testRun autoConfigDashboard vars
  else DashboardUid.«from» md5 testRun autoConfigDashboard

/-- The label of a dashboard: with the value of the variable that it is separate for. -/
def resolveDashboardLabel : String :=
  match truthy autoConfigDashboard.createSeparateDashboardForVariable with
  | none => autoConfigDashboard.dashboardName
  | some separate =>
    match vars.find? fun v => v.name = separate with
    | some { name := _, values := value :: _ } => autoConfigDashboard.dashboardName ++ " " ++ value
    | _ => autoConfigDashboard.dashboardName

end

/-! ## Finding dashboards -/

/-- The instances that a label matches, within an organization if one is given. -/
def World.matching (w : World) (label : String) (organizationId : Option String) :
    List GrafanaInstance :=
  w.instances.rows.filter fun gi =>
    gi.label = label && (truthy organizationId).all fun org => gi.organizationId = some org

/-- The instance that a label means, unless it is ambiguous. -/
def World.resolve (w : World) (label : String) (organizationId : Option String) :
    Option GrafanaInstance :=
  match (w.matching label organizationId).take 2 with
  | [gi] => some gi
  | _ => none

def resolveGrafanaInstanceByLabel (label : String) (organizationId : Option String) :
    Auto (Option GrafanaInstance) := do
  let w ← Traced.get
  match w.resolve label organizationId with
  | none => pure none
  | some gi =>
    Traced.touch (.grafana gi.id)
    pure (some gi)

/-- A row with its instance. -/
structure Found where
  row : StoredDashboard
  grafanaInstance : GrafanaInstance

/-- The rows of some uids at an instance. -/
def World.dashboardsOf (w : World) (instanceId : String) (uids : List String) :
    List StoredDashboard :=
  w.grafanaDashboards.filter fun gd => gd.grafanaInstanceId = instanceId && uids.contains gd.uid

/-- The rows of a query are read. -/
def readDashboards (instanceId : String) (uids : List String) : Auto (List StoredDashboard) := do
  let w ← Traced.get
  if (w.dashboardsOf instanceId uids).isEmpty then pure []
  else
    Traced.touch (.dashboard instanceId)
    pure (w.dashboardsOf instanceId uids)

def findGrafanaDashboardOrNull (grafana : String) (dashboardUids : List String)
    (organizationId : Option String) : Auto (Option Found) := do
  match ← resolveGrafanaInstanceByLabel grafana organizationId with
  | none => pure none
  | some gi =>
    match ← readDashboards gi.id dashboardUids with
    | [] => pure none
    | [row] => pure (some { row := row, grafanaInstance := gi })
    | _ => Traced.fail ("Found more than one Grafana dashboard with uid '" ++
        ",".intercalate dashboardUids ++ "' for Grafana '" ++ grafana ++ "'")

/-- It is looked for without an organization. -/
def findGrafanaDashboard (grafana : String) (dashboardUids : List String) : Auto Found := do
  match ← findGrafanaDashboardOrNull grafana dashboardUids none with
  | none => Traced.fail ("Could not find Grafana dashboard with one of uids '" ++
      ",".intercalate dashboardUids ++ "' for Grafana '" ++ grafana ++ "'")
  | some dashboard => pure dashboard

/-- The application dashboards that a system has for a dashboard of an instance with a label. -/
def World.applicationDashboardsOf (w : World) (testRun : TestRun)
    (grafana dashboardUid dashboardLabel : String) : List ApplicationDashboard :=
  w.applicationDashboards.filter fun ad =>
    (w.systems.any fun sut => sut.id = ad.systemUnderTestId && sut.name = testRun.sutName) &&
      (w.instances.rows.any fun gi => gi.id = ad.grafanaInstanceId && gi.label = grafana) &&
      ad.testEnvironment = testRun.testEnvironment && ad.dashboardUid = dashboardUid &&
      ((truthy testRun.organizationId).all fun org => ad.organizationId.all (· = org)) &&
      (dashboardLabel = "" || ad.dashboardLabel = dashboardLabel)

def findExistingGrafanaDashboards (grafana : String) (dashboardUids : List String)
    (organizationId : Option String) : Auto (List Found) := do
  match ← resolveGrafanaInstanceByLabel grafana organizationId with
  | none => pure []
  | some gi =>
    let data ← readDashboards gi.id dashboardUids
    pure (data.map fun row => { row := row, grafanaInstance := gi })

section

variable (md5 : String → String) (testRun : TestRun) (autoConfigDashboard : ProfileGrafanaDashboard)
  (vars : List DashboardVariable)

/-- The application dashboards of the generated uid. -/
def World.applicationDashboardsFor (w : World) (grafanaFromTemplate : String) :
    List ApplicationDashboard :=
  if grafanaFromTemplate = "" then []
  else
    w.applicationDashboardsOf testRun grafanaFromTemplate
      (createDashboardUid md5 testRun autoConfigDashboard vars)
      (resolveDashboardLabel autoConfigDashboard vars)

def findApplicationDashboards (grafanaFromTemplate : String) :
    Auto (List ApplicationDashboard) := do
  let w ← Traced.get
  pure (w.applicationDashboardsFor md5 testRun autoConfigDashboard vars grafanaFromTemplate)

/-- The dashboards of the generated uid, looked for without an organization. -/
def findExistingGrafanaDashboardsByResolvedUid (grafanaTemplateDashboard : Found) :
    Auto (List Found) :=
  findExistingGrafanaDashboards grafanaTemplateDashboard.grafanaInstance.label
    [createDashboardUid md5 testRun autoConfigDashboard vars] none

end

/-! ## Writing dashboards -/

/-- The data of an application dashboard. -/
structure ApplicationDashboardInsertData where
  application : String
  testEnvironment : String
  grafana : String
  dashboardName : String
  dashboardLabel : String
  dashboardId : ℤ
  dashboardUid : String
  templateDashboardUid : Option String
  tags : List String
  variableValues : List DashboardVariable
  organizationId : Option String

/-- The row is the one that the data is of, by the unique key of the table. -/
def ApplicationDashboardInsertData.isRow (data : ApplicationDashboardInsertData)
    (sut : SystemUnderTest) (gi : GrafanaInstance) (ad : ApplicationDashboard) : Bool :=
  ad.systemUnderTestId = sut.id && ad.testEnvironment = data.testEnvironment &&
    ad.grafanaInstanceId = gi.id && ad.dashboardUid = data.dashboardUid &&
    ad.dashboardLabel = data.dashboardLabel

/-- The system with a name, within an organization if one is given. -/
def World.findSystem (w : World) (name : String) (organizationId : Option String) :
    Option SystemUnderTest :=
  w.systems.find? fun sut =>
    sut.name = name && (truthy organizationId).all fun org => sut.organizationId = some org

/-- Insert an application dashboard, or update it. -/
def insertApplicationDashboard (data : ApplicationDashboardInsertData) : Auto Unit := do
  let w ← Traced.get
  match w.findSystem data.application data.organizationId with
  | none => Traced.fail ("System under test '" ++ data.application ++
      "' not found for organization " ++ data.organizationId.getD "undefined")
  | some sut =>
    match ← resolveGrafanaInstanceByLabel data.grafana data.organizationId with
    | none => Traced.fail ("Grafana instance '" ++ data.grafana ++
        "' not found for organization " ++ data.organizationId.getD "undefined")
    | some gi =>
      Traced.touch (.link gi.id)
      let grafanaDashboardId := (truthy data.templateDashboardUid).bind fun uid =>
        (w.grafanaDashboards.find? fun gd => isRowOf gi.id uid gd.toGrafanaDashboard).map
          StoredDashboard.id
      let row := fun id : ℕ =>
        { id := id, systemUnderTestId := sut.id, testEnvironment := data.testEnvironment
          grafanaInstanceId := gi.id, grafanaDashboardId := grafanaDashboardId
          dashboardName := data.dashboardName, dashboardLabel := data.dashboardLabel
          dashboardId := data.dashboardId, dashboardUid := data.dashboardUid
          templateDashboardUid := data.templateDashboardUid, tags := data.tags
          variableValues := some data.variableValues, organizationId := data.organizationId :
            ApplicationDashboard }
      Traced.modify fun w =>
        { w with
          applicationDashboards := upsertFirst (data.isRow sut gi) (fun ad => row ad.id)
            (row w.nextId) w.applicationDashboards
          nextId := w.nextId + 1 }

/-- The row of a dashboard is written. -/
def World.upsertDashboard (w : World) (data : UpsertData) : World :=
  let write := fun gd : StoredDashboard =>
    { gd with toGrafanaDashboard := upsertGrafanaDashboard data gd.toGrafanaDashboard }
  { w with
    grafanaDashboards := upsertFirst
      (fun gd => isRowOf data.grafanaInstance.id data.uid gd.toGrafanaDashboard) write
      (write { toGrafanaDashboard := newDashboard, id := w.nextId, templateDashboardUid := none })
      w.grafanaDashboards
    nextId := w.nextId + 1 }

/-- Write a stored dashboard that was created in Grafana. -/
def upsertDashboard (grafana : String) (organizationId : Option String)
    (details : DashboardDetails) (uid title : String) (usedBySUT : List String) : Auto Found := do
  match ← resolveGrafanaInstanceByLabel grafana organizationId with
  | none => Traced.fail ("Grafana instance '" ++ grafana ++ "' not found")
  | some gi =>
    Traced.touch (.dashboard gi.id)
    Traced.modify fun w =>
      w.upsertDashboard
        { grafanaInstance := gi, uid := uid, title := title, id := details.id
          grafanaJson := some details, usedBySUT := some usedBySUT, panels := [] }
    let w ← Traced.get
    match w.grafanaDashboards.find? fun gd => isRowOf gi.id uid gd.toGrafanaDashboard with
    | none => Traced.fail "Failed to upsert grafana dashboard"
    | some row => pure { row := row, grafanaInstance := gi }

/-- The system is added to those of a row. -/
def World.updateUsedBySut (w : World) (id : ℕ) (application : String) : World :=
  { w with
    grafanaDashboards := updateFirst (fun gd => gd.id = id)
      (fun gd =>
        { gd with
          toGrafanaDashboard := GrafanaSync.updateUsedBySut application gd.toGrafanaDashboard })
      w.grafanaDashboards }

/-- A system uses a stored dashboard. -/
def updateUsedBySutById (id : ℕ) (application : String) : Auto Unit := do
  let w ← Traced.get
  match w.grafanaDashboards.find? fun gd => gd.id = id with
  | none => Traced.fail ("Dashboard not found with ID: " ++ toString id)
  | some gd =>
    Traced.touch (.dashboard gd.grafanaInstanceId)
    Traced.modify fun w => w.updateUsedBySut id application

/-! ## What a label means -/

section

variable {w : World} {label : String} {organizationId : Option String} {gi own : GrafanaInstance}

theorem resolve_eq_some_iff :
    w.resolve label organizationId = some gi ↔ w.matching label organizationId = [gi] := by
  rw [World.resolve]
  match w.matching label organizationId with
  | [] => exact ⟨fun h => absurd h nofun, fun h => absurd h nofun⟩
  | [gi'] => exact ⟨fun h => congrArg (fun gi => [gi]) (Option.some.inj h),
      fun h => congrArg some (List.cons.inj h).1⟩
  | gi' :: gi'' :: rest => exact ⟨fun h => absurd h nofun, fun h => absurd h nofun⟩

theorem mem_matching :
    gi ∈ w.matching label organizationId ↔ gi ∈ w.instances.rows ∧ gi.label = label ∧
      ∀ org ∈ truthy organizationId, gi.organizationId = some org := by
  rw [World.matching, List.mem_filter, Bool.and_eq_true, decide_eq_true_eq, Option.all_eq_true]
  simp only [decide_eq_true_eq]
  rfl

theorem of_resolve (h : w.resolve label organizationId = some gi) :
    gi ∈ w.instances.rows ∧ gi.label = label ∧
      ∀ org ∈ truthy organizationId, gi.organizationId = some org := by
  rw [← mem_matching, resolve_eq_some_iff.1 h]
  exact List.mem_singleton_self gi

/-- If there is one match, the label means it. -/
theorem resolve_of_unique (hown : own ∈ w.matching label organizationId)
    (hunique : ∀ gi ∈ w.matching label organizationId, gi = own) :
    w.resolve label organizationId = some own := by
  rw [resolve_eq_some_iff]
  have hnodup : (w.matching label organizationId).Nodup :=
    (List.Nodup.of_map _ w.instances.nodup_id).filter _
  match hmatching : w.matching label organizationId with
  | [] =>
    rw [hmatching] at hown
    exact absurd hown List.not_mem_nil
  | [gi] =>
    rw [hmatching] at hunique
    rw [hunique gi (List.mem_singleton_self gi)]
  | gi :: gi' :: rest =>
    rw [hmatching] at hunique hnodup
    have hgi := hunique gi List.mem_cons_self
    have hgi' := hunique gi' (List.mem_cons_of_mem _ List.mem_cons_self)
    exact absurd (hgi ▸ hgi' ▸ List.mem_cons_self) (List.nodup_cons.1 hnodup).1

/-- An organization has one instance with a label. -/
theorem eq_of_label (hgi : gi ∈ w.instances.rows) (hown : own ∈ w.instances.rows)
    (hlabel : gi.label = own.label) (horg : gi.organizationId = own.organizationId) : gi = own :=
  List.inj_on_of_nodup_map w.instances.nodup_label hgi hown (Prod.ext hlabel horg)

/-- No other organization has an instance with the label. -/
def World.IsOwnLabel (w : World) (own : GrafanaInstance) : Prop :=
  ∀ gi ∈ w.instances.rows, gi.label = own.label → gi.organizationId = own.organizationId

/-- Without an organization, a label means an instance if no other organization has it, -/
theorem resolve_unscoped (hown : own ∈ w.instances.rows) (h : w.IsOwnLabel own) :
    w.resolve own.label none = some own := by
  refine resolve_of_unique (mem_matching.2 ⟨hown, rfl, fun _ h => by cases h⟩) ?_
  intro gi hgi
  obtain ⟨hmem, hlabel, -⟩ := mem_matching.1 hgi
  exact eq_of_label hmem hown hlabel (h gi hmem hlabel)

/-- and nothing otherwise. -/
theorem resolve_ambiguous (hown : own ∈ w.instances.rows) (h : ¬w.IsOwnLabel own) :
    w.resolve own.label none = none := by
  by_contra hsome
  obtain ⟨gi, hgi⟩ := Option.ne_none_iff_exists'.1 hsome
  have hall : ∀ gi' ∈ w.instances.rows, gi'.label = own.label → gi' = gi := by
    intro gi' hgi' hlabel
    have hmem : gi' ∈ w.matching own.label none :=
      mem_matching.2 ⟨hgi', hlabel, fun _ h => by cases h⟩
    rw [resolve_eq_some_iff.1 hgi] at hmem
    exact List.mem_singleton.1 hmem
  refine h fun gi' hgi' hlabel => ?_
  rw [hall gi' hgi' hlabel, hall own hown rfl]

end

/-! ## What is touched -/

/-- All is inside an instance. -/
def Touch.IsOf (instanceId : String) : Touch → Prop
  | grafana i | dashboard i | link i => i = instanceId
  | store => True

section

variable {w : World} {label : String} {organizationId : Option String} {gi : GrafanaInstance}
  {uids : List String} {row : StoredDashboard} {data : ApplicationDashboardInsertData}

theorem resolveGrafanaInstanceByLabel_none (h : w.resolve label organizationId = none) :
    resolveGrafanaInstanceByLabel label organizationId w = ([], .ok (none, w)) := by
  rw [resolveGrafanaInstanceByLabel, Traced.bind_of_eq_ok (Traced.get_apply w), h]
  rfl

theorem resolveGrafanaInstanceByLabel_some (h : w.resolve label organizationId = some gi) :
    resolveGrafanaInstanceByLabel label organizationId w =
      ([.grafana gi.id], .ok (some gi, w)) := by
  rw [resolveGrafanaInstanceByLabel, Traced.bind_of_eq_ok (Traced.get_apply w), h]
  rfl

theorem readDashboards_nil (h : w.dashboardsOf gi.id uids = []) :
    readDashboards gi.id uids w = ([], .ok ([], w)) := by
  rw [readDashboards, Traced.bind_of_eq_ok (Traced.get_apply w), h]
  rfl

theorem readDashboards_of_ne_nil (h : w.dashboardsOf gi.id uids ≠ []) :
    readDashboards gi.id uids w =
      ([.dashboard gi.id], .ok (w.dashboardsOf gi.id uids, w)) := by
  rw [readDashboards, Traced.bind_of_eq_ok (Traced.get_apply w),
    if_neg (by rwa [List.isEmpty_iff])]
  rfl

/-- The lookup of a dashboard fails closed. -/
theorem findGrafanaDashboardOrNull_none (h : w.resolve label organizationId = none) :
    findGrafanaDashboardOrNull label uids organizationId w = ([], .ok (none, w)) := by
  rw [findGrafanaDashboardOrNull, Traced.bind_of_eq_ok (resolveGrafanaInstanceByLabel_none h)]
  rfl

theorem findGrafanaDashboardOrNull_nil (h : w.resolve label organizationId = some gi)
    (hrows : w.dashboardsOf gi.id uids = []) :
    findGrafanaDashboardOrNull label uids organizationId w =
      ([.grafana gi.id], .ok (none, w)) := by
  rw [findGrafanaDashboardOrNull, Traced.bind_of_eq_ok (resolveGrafanaInstanceByLabel_some h)]
  dsimp only
  rw [Traced.bind_of_eq_ok (readDashboards_nil hrows)]
  rfl

theorem findGrafanaDashboardOrNull_singleton (h : w.resolve label organizationId = some gi)
    (hrows : w.dashboardsOf gi.id uids = [row]) :
    findGrafanaDashboardOrNull label uids organizationId w =
      ([.grafana gi.id, .dashboard gi.id],
        .ok (some { row := row, grafanaInstance := gi }, w)) := by
  rw [findGrafanaDashboardOrNull, Traced.bind_of_eq_ok (resolveGrafanaInstanceByLabel_some h)]
  dsimp only
  rw [Traced.bind_of_eq_ok (readDashboards_of_ne_nil (by rw [hrows]; exact List.cons_ne_nil _ _)),
    hrows]
  rfl

theorem findGrafanaDashboardOrNull_many (h : w.resolve label organizationId = some gi)
    (hrows : 2 ≤ (w.dashboardsOf gi.id uids).length) : ∃ message,
    findGrafanaDashboardOrNull label uids organizationId w =
      ([.grafana gi.id, .dashboard gi.id], .error message) := by
  rw [findGrafanaDashboardOrNull, Traced.bind_of_eq_ok (resolveGrafanaInstanceByLabel_some h)]
  dsimp only
  match hdata : w.dashboardsOf gi.id uids with
  | [] | [row] => simp [hdata] at hrows
  | row :: row' :: rest =>
    rw [Traced.bind_of_eq_ok (readDashboards_of_ne_nil (by rw [hdata]; exact List.cons_ne_nil _ _)),
      hdata]
    exact ⟨_, rfl⟩

/-- What the lookup of one dashboard returns. -/
theorem of_findGrafanaDashboardOrNull {found : Found}
    (h : (findGrafanaDashboardOrNull label uids organizationId).Returns w (some found) w) :
    w.resolve label organizationId = some found.grafanaInstance ∧
      w.dashboardsOf found.grafanaInstance.id uids = [found.row] := by
  cases hresolve : w.resolve label organizationId with
  | none =>
    rw [Traced.Returns, findGrafanaDashboardOrNull_none hresolve] at h
    cases h
  | some gi =>
    rcases hrows : w.dashboardsOf gi.id uids with _ | ⟨row, _ | ⟨row', rest⟩⟩
    · rw [Traced.Returns, findGrafanaDashboardOrNull_nil hresolve hrows] at h
      cases h
    · rw [Traced.Returns, findGrafanaDashboardOrNull_singleton hresolve hrows] at h
      cases h
      exact ⟨rfl, hrows⟩
    · obtain ⟨message, hmany⟩ := findGrafanaDashboardOrNull_many hresolve (by rw [hrows]; simp)
      rw [Traced.Returns, hmany] at h
      cases h

end

end Perfana.AutoConfig
