import Perfana.Checks.Pipeline
import Perfana.Lib.FirstRow

/-!
# Stored dashboards

A dashboard of Grafana is stored as a row: its JSON as it is, and some columns that are taken
from it. The type of its datasource is that of its first graph panel that names one; a dashboard
for which there is none cannot be stored. The table has no unique index on the instance and the
uid of a dashboard.

* `find?_storeDashboard`, `refilled_mirrors_iff`: a dashboard that is updated is stored as Grafana
  has it, if it can be;
* `find?_storeDashboard_of_ne`, `storeDashboard_false`: no other row changes.
-/

namespace Perfana.GrafanaSync

/-! ## Dashboards in Grafana -/

/-- The datasource of a panel, by its name or by a reference. -/
inductive PanelDatasource
  | name (name : String)
  | reference (uid type : Option String)
  deriving DecidableEq

/-- A panel of a dashboard. -/
structure Panel where
  id : ℤ
  title : Option String
  type : String
  description : Option String
  datasource : Option PanelDatasource
  /-- The datasources of its targets. -/
  targets : List (Option PanelDatasource)
  repeatIteration : Option ℤ
  /-- The variable that it is repeated for: the field `repeat`. -/
  repeatVariable : Option String
  /-- The unit of its fields. -/
  unit : Option String
  /-- The format of its first axis, in dashboards of an older schema. -/
  yAxisFormat : Option String
  deriving DecidableEq

/-- The query of a variable: a text, or an object. -/
inductive VariableQuery
  | text (text : String)
  | object (json : String)
  deriving DecidableEq

/-- A variable of a dashboard, an element of `templating.list`. -/
structure TemplatingVariable where
  name : String
  type : Option String
  query : Option VariableQuery
  /-- In JSON. -/
  options : Option String
  /-- In JSON. -/
  datasource : Option String
  regex : Option String
  deriving DecidableEq

/-- What Grafana returns for a dashboard. -/
structure DashboardDetails where
  id : ℤ
  uid : String
  title : String
  tags : Option (List String)
  panels : Option (List Panel)
  /-- The variables, `templating.list`. -/
  templating : Option (List TemplatingVariable)
  url : String
  slug : String
  /-- When it was edited last, `meta.updated`. -/
  updated : ℤ
  deriving DecidableEq

/-- What Grafana answers when it is asked for the type of a datasource. -/
structure Datasources where
  byUid : String → Except String String
  byName : String → Except String String

/-! ## Rows -/

/-- A panel as it is stored. -/
structure PanelColumns where
  id : ℤ
  title : Option String
  type : String
  description : Option String
  yAxesFormat : Option String
  repeatVariable : Option String
  deriving DecidableEq

/-- A row of `grafana_dashboards`. -/
structure GrafanaDashboard where
  grafanaInstanceId : String
  uid : String
  name : String
  datasourceType : Option String
  uri : Option String
  grafanaId : ℤ
  slug : Option String
  tags : Option (List String)
  grafanaJson : Option DashboardDetails
  panels : List PanelColumns
  templatingVariables : Option (List TemplatingVariable)
  /-- The names of the variables. -/
  variableNames : Option (List String)
  usedBySut : Option (List String)
  updated : Option ℤ
  organizationId : Option String
  deriving DecidableEq

/-- A row of `grafana_instances`. -/
structure GrafanaInstance where
  id : String
  label : String
  organizationId : Option String

/-! ## Storing a dashboard -/

/-- A text that counts as one in a condition. -/
def truthy (text : Option String) : Option String := text.filter (· ≠ "")

/-- The panel names a datasource. -/
def namesADatasource (panel : Panel) : Bool :=
  match panel.datasource with
  | none => false
  | some (.name name) => name ≠ ""
  | some (.reference uid type) => (truthy uid).isSome || (truthy type).isSome

/-- The type that Grafana embeds in a datasource. -/
def embeddedType : Option PanelDatasource → Option String
  | some (.reference _ type) => truthy type
  | _ => none

/-- The type that is embedded in a panel, or in its first target. -/
def panelDatasourceType (panel : Panel) : Option String :=
  (embeddedType panel.datasource).or (embeddedType panel.targets.head?.join)

def isLetter (c : Char) : Bool :=
  'A' ≤ c && c ≤ 'Z' || 'a' ≤ c && c ≤ 'z' || c = '_'

/-- The name of a template variable, if the value is a reference to one. -/
def parseTemplateVariableRef (value : String) : Option String :=
  match value.toList with
  | '$' :: c :: rest =>
    if c = '\x7b' then
      let name := rest.takeWhile (· ≠ '\x7d')
      if !name.isEmpty && rest.drop name.length = ['\x7d'] then
        some (String.ofList name)
      else none
    else if isLetter c && rest.all fun c => isLetter c || c.isDigit then
      some (String.ofList (c :: rest))
    else none
  | _ => none

/-- The type of the datasource that a template variable stands for. -/
def resolveDatasourceTypeFromTemplating (variableName : String)
    (templatingList : Option (List TemplatingVariable)) (panelDatasourceType : Option String) :
    Except String String :=
  match panelDatasourceType with
  | some type => .ok type
  | none =>
    match (templatingList.getD []).find? fun v => v.name = variableName with
    | none => .error ("Panel datasource references template variable \"" ++ variableName ++
        "\" which is not defined in dashboard.templating.list")
    | some found =>
      let query := match found.query with
        | some (.text query) => trim query
        | _ => []
      if found.type = some "datasource" && !query.isEmpty then .ok (String.ofList query)
      else .error ("Cannot determine datasource type for template variable \"" ++ variableName ++
        "\" (type=" ++ found.type.getD "unknown" ++ "). Panel has no datasource.type and the " ++
        "variable has no type filter in templating.list.")

/-- The type of a datasource that is given by a text: what it stands for if it refers to a
    variable, else what is embedded, else what Grafana says. -/
def resolveReference (value : String) (panel : Panel)
    (templatingList : Option (List TemplatingVariable))
    (lookup : String → Except String String) : Except String String :=
  match parseTemplateVariableRef value with
  | some variableName =>
    resolveDatasourceTypeFromTemplating variableName templatingList (panelDatasourceType panel)
  | none =>
    match panelDatasourceType panel with
    | some type => .ok type
    | none => lookup value

/-- The type of the datasource of a panel. -/
def resolvePanelDatasource (datasources : Datasources) (panel : Panel)
    (templatingList : Option (List TemplatingVariable)) : Except String String :=
  match panel.datasource with
  | none => .error "No datasource found in panel"
  | some (.name name) =>
    if name = "" then .error "No datasource found in panel"
    else resolveReference name panel templatingList datasources.byName
  | some (.reference uid _) =>
    match truthy uid with
    | some uid => resolveReference uid panel templatingList datasources.byUid
    | none =>
      match panelDatasourceType panel with
      | some type => .ok type
      | none => .error "No datasource found in panel"

/-- The first graph panel that names a datasource, or else the first one. -/
def firstGraphPanel (details : DashboardDetails) : Option Panel :=
  let graphPanels := (details.panels.getD []).filter fun panel =>
    ["graph", "timeseries", "table", "flamegraph"].contains panel.type
  (graphPanels.find? namesADatasource).or graphPanels.head?

/-- The type that is stored for a dashboard. -/
def datasourceType (datasources : Datasources) (details : DashboardDetails) :
    Except String String :=
  match firstGraphPanel details with
  | none => .error ("No graph panel found in dashboard " ++ details.title)
  | some panel => resolvePanelDatasource datasources panel details.templating

def extractYAxisFormat (panel : Panel) : Option String :=
  (truthy panel.unit).or (truthy panel.yAxisFormat)

/-- The panels that are stored: those with a datasource, but not the copies of a repeated one. -/
def extractPanels (panels : List Panel) : List PanelColumns :=
  (panels.filter fun panel =>
    !panel.repeatIteration.any (· ≠ 0) && panel.datasource.any (· ≠ .name "")).map fun panel =>
      { id := panel.id
        title := panel.title
        type := panel.type
        description := panel.description
        yAxesFormat := extractYAxisFormat panel
        repeatVariable := panel.repeatVariable.filter (· ≠ "null") }

def extractTemplatingVariables (templatingList : List TemplatingVariable) :
    List TemplatingVariable :=
  templatingList.map fun v =>
    { v with
      options := if (truthy v.regex).isSome then v.options else none
      datasource := truthy v.datasource
      regex := truthy v.regex }

/-- Fill a row from a dashboard. -/
def fill (grafanaInstance : GrafanaInstance) (details : DashboardDetails) (type : String)
    (dashboard : GrafanaDashboard) : GrafanaDashboard :=
  { dashboard with
    grafanaInstanceId := grafanaInstance.id
    name := details.title
    datasourceType := some type
    uri := some details.url
    grafanaId := details.id
    uid := details.uid
    tags := some (details.tags.getD [])
    slug := some details.slug
    grafanaJson := some details
    organizationId := grafanaInstance.organizationId
    panels := extractPanels (details.panels.getD [])
    templatingVariables := some (extractTemplatingVariables (details.templating.getD []))
    variableNames := some ((details.templating.getD []).map TemplatingVariable.name) }

/-- A row before it is filled. -/
def newDashboard : GrafanaDashboard :=
  { grafanaInstanceId := "", uid := "", name := "", datasourceType := none, uri := none,
    grafanaId := 0, slug := none, tags := none, grafanaJson := none, panels := [],
    templatingVariables := none, variableNames := none, usedBySut := none, updated := none,
    organizationId := none }

/-- The row is one of the dashboard. -/
def isRowOf (instanceId uid : String) (row : GrafanaDashboard) : Bool :=
  row.grafanaInstanceId = instanceId && row.uid = uid

/-- Store a dashboard of Grafana: the rows after it. A dashboard that is stored is filled anew if
    `update` is set. -/
def storeDashboard (getDashboardByUid : String → Except String DashboardDetails)
    (datasources : Datasources) (grafanaInstance : GrafanaInstance) (uid : String) (update : Bool)
    (rows : List GrafanaDashboard) : Except String (List GrafanaDashboard) :=
  if (rows.find? (isRowOf grafanaInstance.id uid)).isSome && !update then .ok rows
  else do
    let details ← getDashboardByUid uid
    let type ← datasourceType datasources details
    .ok (upsertFirst (isRowOf grafanaInstance.id uid) (fill grafanaInstance details type)
      (fill grafanaInstance details type newDashboard) rows)

/-! ## What is stored -/

/-- The row has what the dashboard has. -/
structure Mirrors (row : GrafanaDashboard) (details : DashboardDetails) : Prop where
  grafanaJson : row.grafanaJson = some details
  panels : row.panels = extractPanels (details.panels.getD [])
  tags : row.tags = some (details.tags.getD [])
  variableNames :
    row.variableNames = some ((details.templating.getD []).map TemplatingVariable.name)
  templatingVariables :
    row.templatingVariables = some (extractTemplatingVariables (details.templating.getD []))

instance (row : GrafanaDashboard) (details : DashboardDetails) :
    Decidable (Mirrors row details) :=
  decidable_of_iff
    (row.grafanaJson = some details ∧
      row.panels = extractPanels (details.panels.getD []) ∧
      row.tags = some (details.tags.getD []) ∧
      row.variableNames = some ((details.templating.getD []).map TemplatingVariable.name) ∧
      row.templatingVariables =
        some (extractTemplatingVariables (details.templating.getD [])))
    ⟨fun h => ⟨h.1, h.2.1, h.2.2.1, h.2.2.2.1, h.2.2.2.2⟩, fun h => ⟨h.1, h.2, h.3, h.4, h.5⟩⟩

/-- A dashboard can be stored if the type of its datasource is found. -/
def isStorable (datasources : Datasources) (details : DashboardDetails) : Bool :=
  (datasourceType datasources details).toOption.isSome

/-- A row after its dashboard was stored anew, if it can be. -/
def refilled (datasources : Datasources) (grafanaInstance : GrafanaInstance)
    (details : DashboardDetails) (row : GrafanaDashboard) : GrafanaDashboard :=
  match datasourceType datasources details with
  | .ok type => fill grafanaInstance details type row
  | .error _ => row

section

variable {getDashboardByUid : String → Except String DashboardDetails} {datasources : Datasources}
  {grafanaInstance : GrafanaInstance} {details : DashboardDetails}
  {type instanceId instanceId' uid uid' : String} {update : Bool} {rows : List GrafanaDashboard}
  {row : GrafanaDashboard}

theorem fill_mirrors : Mirrors (fill grafanaInstance details type row) details :=
  ⟨rfl, rfl, rfl, rfl, rfl⟩

theorem isRowOf_iff :
    isRowOf instanceId uid row = true ↔ row.grafanaInstanceId = instanceId ∧ row.uid = uid := by
  rw [isRowOf, Bool.and_eq_true, decide_eq_true_eq, decide_eq_true_eq]

theorem isRowOf_fill :
    isRowOf grafanaInstance.id details.uid (fill grafanaInstance details type row) = true :=
  isRowOf_iff.2 ⟨rfl, rfl⟩

/-- A row is one of one dashboard only. -/
theorem isRowOf_of_ne (h : isRowOf instanceId uid row = true)
    (hne : (instanceId, uid) ≠ (instanceId', uid')) : isRowOf instanceId' uid' row = false := by
  rw [Bool.eq_false_iff]
  intro h'
  obtain ⟨rfl, rfl⟩ := isRowOf_iff.1 h
  obtain ⟨rfl, rfl⟩ := isRowOf_iff.1 h'
  exact hne rfl

theorem refilled_updated :
    (refilled datasources grafanaInstance details row).updated = row.updated := by
  rw [refilled]
  split <;> rfl

/-- To store a dashboard twice is to store it once. -/
theorem refilled_refilled : refilled datasources grafanaInstance details
    (refilled datasources grafanaInstance details row) =
      refilled datasources grafanaInstance details row := by
  rw [refilled, refilled]
  split <;> rfl

/-- The row has what the dashboard has if it had before, or the dashboard can be stored. -/
theorem refilled_mirrors_iff : Mirrors (refilled datasources grafanaInstance details row) details ↔
    Mirrors row details ∨ isStorable datasources details = true := by
  rw [refilled, isStorable]
  cases datasourceType datasources details with
  | ok type => exact iff_of_true fill_mirrors (.inr rfl)
  | error message => exact ⟨.inl, fun h => h.resolve_right Bool.false_ne_true⟩

/-- A dashboard that is updated is stored as Grafana has it, if it can be. -/
theorem find?_storeDashboard (hget : getDashboardByUid uid = .ok details) (huid : details.uid = uid)
    (hrow : rows.find? (isRowOf grafanaInstance.id uid) = some row) :
    ((storeDashboard getDashboardByUid datasources grafanaInstance uid true rows).toOption.getD
      rows).find? (isRowOf grafanaInstance.id uid) =
        some (refilled datasources grafanaInstance details row) := by
  have hstore : storeDashboard getDashboardByUid datasources grafanaInstance uid true rows =
      (datasourceType datasources details).bind fun type =>
        .ok (upsertFirst (isRowOf grafanaInstance.id uid) (fill grafanaInstance details type)
          (fill grafanaInstance details type newDashboard) rows) := by
    rw [storeDashboard, Bool.not_true, Bool.and_false, if_neg Bool.false_ne_true, hget]
    rfl
  rw [hstore, refilled]
  cases datasourceType datasources details with
  | ok type => exact find?_upsertFirst hrow (huid ▸ isRowOf_fill)
  | error message => exact hrow

/-- No other row changes. -/
theorem find?_storeDashboard_of_ne (hget : ∀ d, getDashboardByUid uid = .ok d → d.uid = uid)
    (hne : (grafanaInstance.id, uid) ≠ (instanceId', uid')) :
    ((storeDashboard getDashboardByUid datasources grafanaInstance uid update rows).toOption.getD
      rows).find? (isRowOf instanceId' uid') = rows.find? (isRowOf instanceId' uid') := by
  rw [storeDashboard]
  split
  · rfl
  · cases hdetails : getDashboardByUid uid with
    | error message => rfl
    | ok details =>
      cases htype : datasourceType datasources details with
      | error message =>
        simp only [bind, Except.bind, htype]
        rfl
      | ok type =>
        simp only [bind, Except.bind, htype]
        have hfill : ∀ row, isRowOf grafanaInstance.id uid
            (fill grafanaInstance details type row) = true := fun row =>
          hget details hdetails ▸ isRowOf_fill
        exact find?_upsertFirst_of_ne
          (fun row hrow => ⟨isRowOf_of_ne hrow hne, isRowOf_of_ne (hfill row) hne⟩)
          (isRowOf_of_ne (hfill newDashboard) hne)

/-- Nor does a row of a dashboard that is not updated. -/
theorem storeDashboard_false
    (hrow : rows.find? (isRowOf grafanaInstance.id uid) = some row) :
    storeDashboard getDashboardByUid datasources grafanaInstance uid false rows = .ok rows := by
  rw [storeDashboard, hrow]
  rfl

end

end Perfana.GrafanaSync
