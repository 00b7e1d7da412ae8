import Perfana.GrafanaSync.AutoConfig

/-!
# Processing a set of variables

The dashboard of a profile is set up for a run with a set of variables. Existing application
dashboards are brought up to date; where there are none, the dashboard is stored for the run if it
is in Grafana already, or is the template itself, and is created in Grafana otherwise, to be stored
by a later pass. Where the dashboard is looked for, or created, the label of the instance is
resolved without the organization of the run.
-/

namespace Perfana.AutoConfig

open GrafanaSync

/-! ## Storing application dashboards -/

/-- Replace the values of variables, or add the variables. -/
def replaceHardcodedValuesForVariables (vars hardcoded : List DashboardVariable) :
    List DashboardVariable :=
  hardcoded.foldl
    (fun result v => upsertFirst (fun old => old.name = v.name) (fun _ => v) v result) vars

/-- An application dashboard has other values for a variable, or none. -/
def checkIfUpdateRequired (newVars : List DashboardVariable)
    (applicationDashboards : List ApplicationDashboard) : Bool :=
  match applicationDashboards with
  | [] => true
  | existing :: _ =>
    match existing.variableValues with
    | none => true
    | some existingVars =>
      newVars.any fun v =>
        match existingVars.find? fun old => old.name = v.name with
        | none => true
        | some old => old.values ≠ v.values

section

variable (testRun : TestRun) (autoConfigDashboard : ProfileGrafanaDashboard)

/-- The variables of the run come first, unless they are there. -/
def withRunVariables (vars : List DashboardVariable) : List DashboardVariable :=
  (if vars.any fun v => v.name = "system_under_test" then []
    else [{ name := "system_under_test", values := [testRun.sutName] }]) ++
  (if vars.any fun v => v.name = "test_environment" then []
    else [{ name := "test_environment", values := [testRun.testEnvironment] }]) ++ vars

def createOneApplicationDashboard (vars : List DashboardVariable) (grafanaDashboard : Found)
    (templateDashboardUid : String) (dashboardTags : List String) : Auto Unit :=
  insertApplicationDashboard
    { application := testRun.sutName, testEnvironment := testRun.testEnvironment
      grafana := grafanaDashboard.grafanaInstance.label
      dashboardName := autoConfigDashboard.dashboardName
      dashboardLabel := autoConfigDashboard.dashboardName
      dashboardId := grafanaDashboard.row.grafanaId, dashboardUid := grafanaDashboard.row.uid
      templateDashboardUid := some templateDashboardUid, tags := dashboardTags
      variableValues := withRunVariables testRun vars
      organizationId := testRun.organizationId }

/-- The values that application dashboards have for the separate variable. -/
def checkExistingValues (vars : List DashboardVariable)
    (applicationDashboards : List ApplicationDashboard) (separate : String) : List String :=
  if (vars.filter fun v => v.name ≠ "system_under_test" && v.name ≠ "test_environment").any
      fun v => v.name = separate then
    applicationDashboards.flatMap fun ad =>
      (((ad.variableValues.getD []).find? fun v => v.name = separate).map
        DashboardVariable.values).getD []
  else []

/-- Set a key of a map, which keeps its place. -/
def setIfMissing (map : List DashboardVariable) (v : DashboardVariable) : List DashboardVariable :=
  if map.any fun old => old.name = v.name then map else map ++ [v]

/-- The variables of a separate dashboard: the hardcoded ones, then the others, with one value for
    the separate variable. -/
def buildVariablesForSeparateDashboard (vars : List DashboardVariable) (separate value : String) :
    List DashboardVariable :=
  let hardcoded := replaceHardcodedValuesForVariables []
    autoConfigDashboard.setHardcodedValueForVariables
  (withRunVariables testRun vars).foldl
    (fun map v => setIfMissing map (if v.name = separate then { v with values := [value] } else v))
    hardcoded

def createSeparateDashboardForValue (vars : List DashboardVariable) (grafanaDashboard : Found)
    (templateDashboardUid : String) (dashboardTags : List String) (separate value : String) :
    Auto Unit := do
  let grafanaLabel := grafanaDashboard.grafanaInstance.label
  let label := autoConfigDashboard.dashboardName ++ " " ++ value
  let w ← Traced.get
  if (w.applicationDashboardsOf testRun grafanaLabel templateDashboardUid label).isEmpty then
    insertApplicationDashboard
      { application := testRun.sutName, testEnvironment := testRun.testEnvironment
        grafana := if grafanaLabel = "" then "UNKNOWN" else grafanaLabel
        dashboardName :=
          if grafanaDashboard.row.name = "" then "UNKNOWN" else grafanaDashboard.row.name
        dashboardLabel := label, dashboardId := grafanaDashboard.row.grafanaId
        dashboardUid := templateDashboardUid, templateDashboardUid := some templateDashboardUid
        tags := dashboardTags
        variableValues :=
          buildVariablesForSeparateDashboard testRun autoConfigDashboard vars separate value
        organizationId := testRun.organizationId }
  else pure ()

def createSeparateDashboards (vars : List DashboardVariable)
    (applicationDashboards : List ApplicationDashboard) (grafanaDashboard : Found)
    (templateDashboardUid : String) (dashboardTags : List String) (separate : String) :
    Auto Unit :=
  match vars.find? fun v => v.name = separate with
  | none => pure ()
  | some filtered =>
    let existingValues := checkExistingValues vars applicationDashboards separate
    (filtered.values.filter fun value => !existingValues.contains value).forM
      (createSeparateDashboardForValue testRun autoConfigDashboard vars grafanaDashboard
        templateDashboardUid dashboardTags separate)

def storeApplicationDashboards (grafanaDashboard : Found) (vars : List DashboardVariable)
    (applicationDashboards : List ApplicationDashboard) (templateDashboardUid : String)
    (templateTags : Option (List String)) : Auto Unit := do
  Traced.touch .store
  let newVars := replaceHardcodedValuesForVariables vars
    autoConfigDashboard.setHardcodedValueForVariables
  if checkIfUpdateRequired newVars applicationDashboards then
    let dashboardTags := ((templateTags.or grafanaDashboard.row.tags).getD []).filter fun tag =>
      tag.toLower ≠ PERFANA_TEMPLATE_TAG
    match truthy autoConfigDashboard.createSeparateDashboardForVariable with
    | none =>
      createOneApplicationDashboard testRun autoConfigDashboard newVars grafanaDashboard
        templateDashboardUid dashboardTags
    | some separate =>
      createSeparateDashboards testRun autoConfigDashboard vars applicationDashboards
        grafanaDashboard templateDashboardUid dashboardTags separate
  else pure ()

end

/-! ## Processing -/

section

variable (md5 : String → String) (api : GrafanaApi) (testRun : TestRun)
  (autoConfigDashboard : ProfileGrafanaDashboard)

def handleExistingApplicationDashboards (applicationDashboards : List ApplicationDashboard)
    (applicationDashboard : ApplicationDashboard) (grafanaInstance : GrafanaInstance)
    (vars : List DashboardVariable) (templateDashboard : Found) : Auto Unit := do
  match ← findGrafanaDashboardOrNull grafanaInstance.label [applicationDashboard.dashboardUid]
      grafanaInstance.organizationId with
  | none => pure ()
  | some stored =>
    storeApplicationDashboards testRun autoConfigDashboard stored vars applicationDashboards
      autoConfigDashboard.dashboardUid templateDashboard.row.tags

/-- The template is the dashboard. -/
def handleReadOnlyDashboard (grafanaInstance : GrafanaInstance) : Auto Found := do
  let templateDashboard ← findGrafanaDashboard autoConfigDashboard.grafanaLabel
    [autoConfigDashboard.dashboardUid]
  updateUsedBySutById templateDashboard.row.id testRun.sutName
  findGrafanaDashboard grafanaInstance.label [autoConfigDashboard.dashboardUid]

/-- Create the dashboard in the first Grafana with the label. -/
def createNewDashboard (grafanaInstance : GrafanaInstance) (vars : List DashboardVariable) :
    Auto Found := do
  let w ← Traced.get
  match w.instances.rows.find? fun gi => gi.label = grafanaInstance.label with
  | none => Traced.fail ("Grafana instance " ++ grafanaInstance.label ++ " not found")
  | some entity =>
    Traced.touch (.grafana entity.id)
    let template ← Traced.lift (api.getDashboardByUid entity.id autoConfigDashboard.dashboardUid)
    let folder ← Traced.lift (api.createOrFindFolder entity.id testRun.sutName)
    let uid := createDashboardUid md5 testRun autoConfigDashboard vars
    let title := autoConfigDashboard.dashboardName ++ " - " ++ testRun.sutName ++ " " ++
      testRun.testEnvironment
    let tags := (template.tags.getD []).filter fun tag => tag.toLower ≠ PERFANA_TEMPLATE_TAG
    Traced.lift (api.createDashboard entity.id
      { template with uid := uid, title := title, tags := some tags } folder)
    let created ← Traced.lift (api.getDashboardByUid entity.id uid)
    upsertDashboard grafanaInstance.label grafanaInstance.organizationId created uid title
      [testRun.sutName]

def createAndStoreDashboards (grafanaInstance : GrafanaInstance) (vars : List DashboardVariable) :
    Auto Unit :=
  if autoConfigDashboard.readOnly then do
    let stored ← handleReadOnlyDashboard testRun autoConfigDashboard grafanaInstance
    storeApplicationDashboards testRun autoConfigDashboard stored vars [] stored.row.uid
      stored.row.tags
  else do
    let _ ← createNewDashboard md5 api testRun autoConfigDashboard grafanaInstance vars
    pure ()

def handleNoApplicationDashboards (vars : List DashboardVariable)
    (grafanaInstance : GrafanaInstance) (templateDashboard : Found) : Auto Unit := do
  match ← findExistingGrafanaDashboardsByResolvedUid md5 testRun autoConfigDashboard vars
      templateDashboard with
  | [] => createAndStoreDashboards md5 api testRun autoConfigDashboard grafanaInstance vars
  | existing :: _ =>
    if autoConfigDashboard.readOnly then
      createAndStoreDashboards md5 api testRun autoConfigDashboard grafanaInstance vars
    else
      storeApplicationDashboards testRun autoConfigDashboard existing vars []
        ((truthy existing.row.templateDashboardUid).getD existing.row.uid)
        templateDashboard.row.tags

/-- Process a set of variables. -/
def processSingleVariableSet (vars : List DashboardVariable) (grafanaInstance : GrafanaInstance)
    (templateDashboard : Found) : Auto Unit := do
  match ← findApplicationDashboards md5 testRun autoConfigDashboard vars
      templateDashboard.grafanaInstance.label with
  | [] =>
    handleNoApplicationDashboards md5 api testRun autoConfigDashboard vars grafanaInstance
      templateDashboard
  | applicationDashboard :: rest =>
    handleExistingApplicationDashboards testRun autoConfigDashboard (applicationDashboard :: rest)
      applicationDashboard grafanaInstance vars templateDashboard

/-- The template of the dashboard, at the instance of the run's organization. -/
def getAndValidateTemplateDashboard : Auto (Option Found) := do
  match ← findGrafanaDashboardOrNull autoConfigDashboard.grafanaLabel
      [autoConfigDashboard.dashboardUid] testRun.organizationId with
  | none => pure none
  | some templateDashboard =>
    if !(templateDashboard.row.tags.getD []).any fun tag => tag.toLower = PERFANA_TEMPLATE_TAG then
      Traced.fail ("Expected a template dashboard, it is not: " ++
        autoConfigDashboard.dashboardUid)
    else if templateDashboard.row.grafanaJson.isNone then
      Traced.fail ("No template json found for dashboard with uid: " ++
        autoConfigDashboard.dashboardUid)
    else pure (some templateDashboard)

end

end Perfana.AutoConfig
