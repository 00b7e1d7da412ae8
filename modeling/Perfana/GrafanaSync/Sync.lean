import Perfana.GrafanaSync.StoreDashboard
import Perfana.Lib.Run
import Mathlib.Algebra.Order.Ring.Int
import Mathlib.Data.List.Infix
import Mathlib.Logic.Function.Basic

/-!
# Dashboard sync

Perfana keeps a copy of the tagged dashboards of every Grafana. A pass adds those that are not
stored yet, updates those that were edited, and restores those that are gone. Whether a stored
dashboard was edited is told by three clocks: that of Grafana, by which it was edited within an
hour before the pass; and the column `updated` of the row, which the pass does not write, and
which is to be before the edit. A call to Grafana that fails only skips what depends on it.

* `lastEdit_invariant`: Grafana has each dashboard as it was edited last;
* `find?_update`, `find?_restore`: what a pass makes of the row of a dashboard;
* `sync_mirrors_iff`: in every run, a pass leaves the row of a dashboard as Grafana has it if and
  only if it was so before, or the pass takes the dashboard for edited and can store it;
* `not_converges`: an edit that no pass sees in time, or that is before the column of the row, is
  missed.
-/

namespace Perfana.GrafanaSync

/-! ## Grafana -/

def PERFANA_TAG : String := "perfana"

def PERFANA_TEMPLATE_TAG : String := "perfana-template"

def GRAFANA_SEARCH_LIMIT : ℕ := 5000

/-- What a Grafana instance has. -/
structure Grafana where
  folders : List String
  dashboards : List DashboardDetails
  datasources : Datasources

/-- An item that a search finds. -/
structure SearchItem where
  uid : String
  /-- Its type is `dash-db`. -/
  isDashboard : Bool

/-- The items that Grafana has, or its dashboards with a tag. -/
def Grafana.items (g : Grafana) (tag : Option String) : List SearchItem :=
  (if tag.isNone then g.folders.map fun uid => { uid := uid, isDashboard := false } else []) ++
    (g.dashboards.filter fun d => tag.all fun tag => (d.tags.getD []).contains tag).map fun d =>
      { uid := d.uid, isDashboard := true }

/-- What a search returns: only so many of the items. -/
def Grafana.searchDashboards (g : Grafana) (tag : Option String) (limit : ℕ) : List SearchItem :=
  (g.items tag).take limit

def hasUid (uid : String) (d : DashboardDetails) : Bool := d.uid = uid

/-- The dashboard with a uid. -/
def Grafana.dashboard (g : Grafana) (uid : String) : Option DashboardDetails :=
  g.dashboards.find? (hasUid uid)

/-- A call to Grafana. -/
inductive Call
  | search
  | dashboard (uid : String)
  | datasource (value : String)
  | create (uid : String)

/-- The parts of a pass in which Grafana is called. -/
inductive Phase
  | add
  | check
  | update
  | restore

/-- What Grafana assigns to a dashboard that is created. -/
structure Assigned where
  id : ℤ
  url : String
  slug : String
  updated : ℤ

/-- What a pass meets. -/
structure Pass where
  /-- The message of a call that fails. -/
  fails : Phase → String → Call → Option String
  /-- When a dashboard is looked at. -/
  clock : String → String → ℤ
  /-- What is assigned to the dashboards that are restored. -/
  assigned : String → String → Assigned

section

variable (p : Pass) (phase : Phase) (g : Grafana) (instanceId : String)

/-- A call that may fail. -/
def called {α : Type} (call : Call) (answer : Except String α) : Except String α :=
  match p.fails phase instanceId call with
  | some message => .error message
  | none => answer

def searchDashboards (tag : Option String) : Except String (List SearchItem) :=
  called p phase instanceId .search (.ok (g.searchDashboards tag GRAFANA_SEARCH_LIMIT))

def getDashboardByUid (uid : String) : Except String DashboardDetails :=
  called p phase instanceId (.dashboard uid) <|
    match g.dashboard uid with
    | some d => .ok d
    | none =>
      .error ("Grafana API GET /api/dashboards/uid/" ++ uid ++ " failed: 404 Not Found")

/-- The datasources, as a pass may ask for them. -/
def datasourcesOf : Datasources where
  byUid := fun uid => called p phase instanceId (.datasource uid) (g.datasources.byUid uid)
  byName := fun name => called p phase instanceId (.datasource name) (g.datasources.byName name)

end

/-! ## A pass -/

/-- What is stored, and the Grafana instances. -/
structure State where
  instances : List GrafanaInstance
  /-- What each of them has. -/
  grafana : String → Grafana
  rows : List GrafanaDashboard
  /-- The application dashboards: the uid and the instance of the dashboard that each of them
      refers to, and the type of its metrics source. -/
  applicationDashboards : List (String × String × Option String)

section

variable (p : Pass) (g : Grafana) (grafanaInstance : GrafanaInstance)

/-- Store a dashboard; a failure leaves the rows. -/
def storeOrSkip (phase : Phase) (update : Bool) (rows : List GrafanaDashboard) (uid : String) :
    List GrafanaDashboard :=
  (storeDashboard (getDashboardByUid p phase g grafanaInstance.id)
    (datasourcesOf p phase g grafanaInstance.id) grafanaInstance uid update rows).toOption.getD rows

/-- The tagged dashboards that are not stored. -/
def getDashboardsToAdd (rows : List GrafanaDashboard) : List String :=
  match searchDashboards p .add g grafanaInstance.id (some PERFANA_TAG) with
  | .error _ => []
  | .ok items =>
    let storedUids := (rows.filter fun row => row.grafanaInstanceId = grafanaInstance.id).map
      GrafanaDashboard.uid
    (items.map SearchItem.uid).filter fun uid => !storedUids.contains uid

def addNewDashboardsForInstance (rows : List GrafanaDashboard) : List GrafanaDashboard :=
  (getDashboardsToAdd p g grafanaInstance rows).foldl (storeOrSkip p g grafanaInstance .add false)
    rows

/-- An hour, in milliseconds. -/
def oneHour : ℤ := 60 * 60 * 1000

/-- The dashboard was updated in the last hour, and after the row. -/
def isNewer (now : ℤ) (details : DashboardDetails) (stored : GrafanaDashboard) : Bool :=
  now - oneHour < details.updated && stored.updated.getD 0 < details.updated

/-- The tagged dashboards that are stored and are newer than their row. -/
def getDashboardsToUpdate (rows : List GrafanaDashboard) : List String :=
  match searchDashboards p .check g grafanaInstance.id (some PERFANA_TAG) with
  | .error _ => []
  | .ok items =>
    (items.map SearchItem.uid).filter fun uid =>
      match getDashboardByUid p .check g grafanaInstance.id uid,
        rows.find? (isRowOf grafanaInstance.id uid) with
      | .ok details, some stored => isNewer (p.clock grafanaInstance.id uid) details stored
      | _, _ => false

def updateDashboardsForInstance (rows : List GrafanaDashboard) : List GrafanaDashboard :=
  (getDashboardsToUpdate p g grafanaInstance rows).foldl
    (storeOrSkip p g grafanaInstance .update true) rows

end

/-- A row that Grafana misses is restored if it is used, or a template; but not if it is a
    placeholder for another source. -/
def State.isToRestore (s : State) (row : GrafanaDashboard) : Bool :=
  let sourceTypes := (s.applicationDashboards.filter fun ad =>
    ad.1 = row.uid && ad.2.1 = row.grafanaInstanceId).map fun ad => ad.2.2
  let isUsedByApplications := !sourceTypes.isEmpty
  let isTemplate := (row.tags.getD []).contains PERFANA_TEMPLATE_TAG
  let isNonGrafanaSource :=
    isUsedByApplications && sourceTypes.all fun type => type.any (· ≠ "grafana")
  let isRestorable := row.grafanaJson.isSome
  (isUsedByApplications || isTemplate) && !isNonGrafanaSource && isRestorable

def getDashboardsToRestore (p : Pass) (grafanaInstance : GrafanaInstance) (s : State) :
    List GrafanaDashboard :=
  match searchDashboards p .restore (s.grafana grafanaInstance.id) grafanaInstance.id none with
  | .error _ => []
  | .ok items =>
    let grafanaDashboardUids := (items.filter SearchItem.isDashboard).map SearchItem.uid
    (s.rows.filter fun row => row.grafanaInstanceId = grafanaInstance.id).filter fun row =>
      !grafanaDashboardUids.contains row.uid && s.isToRestore row

/-- The answer is that there is such a dashboard already. -/
def isPreconditionFailed (message : String) : Bool :=
  "412".toList <:+: message.toList || "precondition".toList <:+: message.toList

/-- Create the dashboard of a row in Grafana. If it is there already, the row is removed. -/
def restoreDashboard (p : Pass) (grafanaInstance : GrafanaInstance) (s : State)
    (row : GrafanaDashboard) : State :=
  match row.grafanaJson with
  | none => s
  | some json =>
    let g := s.grafana grafanaInstance.id
    let answer : Except String Unit := called p .restore grafanaInstance.id (.create json.uid) <|
      if (g.dashboard json.uid).isSome then
        .error "statusCode: 412 statusText: Precondition Failed"
      else .ok ()
    match answer with
    | .error message =>
      if isPreconditionFailed message then { s with rows := s.rows.erase row } else s
    | .ok () =>
      let new := p.assigned grafanaInstance.id json.uid
      let created :=
        { json with id := new.id, url := new.url, slug := new.slug, updated := new.updated }
      { s with
        grafana := Function.update s.grafana grafanaInstance.id
          { g with dashboards := g.dashboards ++ [created] } }

def restoreDashboardsForInstance (p : Pass) (s : State) (grafanaInstance : GrafanaInstance) :
    State :=
  (getDashboardsToRestore p grafanaInstance s).foldl (restoreDashboard p grafanaInstance) s

def State.addNewDashboards (p : Pass) (s : State) : State :=
  { s with
    rows := s.instances.foldl
      (fun rows i => addNewDashboardsForInstance p (s.grafana i.id) i rows) s.rows }

def State.updateDashboards (p : Pass) (s : State) : State :=
  { s with
    rows := s.instances.foldl
      (fun rows i => updateDashboardsForInstance p (s.grafana i.id) i rows) s.rows }

def State.restoreDashboards (p : Pass) (s : State) : State :=
  s.instances.foldl (restoreDashboardsForInstance p) s

/-- A pass. -/
def State.handleGrafanaSync (p : Pass) (s : State) : State :=
  ((s.addNewDashboards p).updateDashboards p).restoreDashboards p

/-! ## Runs -/

/-- The data of an upsert. -/
structure UpsertData where
  grafanaInstance : GrafanaInstance
  uid : String
  title : String
  id : ℤ
  grafanaJson : Option DashboardDetails
  usedBySUT : Option (List String)
  panels : List PanelColumns

/-- The system uses the dashboard of the row. -/
def updateUsedBySut (application : String) (row : GrafanaDashboard) : GrafanaDashboard :=
  let usedBySUT := row.usedBySut.getD []
  { row with
    usedBySut :=
      some (if usedBySUT.contains application then usedBySUT else usedBySUT ++ [application]) }

/-- The row has the data of an upsert. -/
def upsertGrafanaDashboard (data : UpsertData) (row : GrafanaDashboard) : GrafanaDashboard :=
  { row with
    grafanaInstanceId := data.grafanaInstance.id
    uid := data.uid
    name := data.title
    grafanaId := data.id
    grafanaJson := data.grafanaJson
    usedBySut := data.usedBySUT
    panels := data.panels
    organizationId := data.grafanaInstance.organizationId }

/-- What happens to the dashboards. -/
inductive Event
  /-- A dashboard is edited, or made, in Grafana. -/
  | edit (instanceId : String) (now : ℤ) (details : DashboardDetails)
  | pass (p : Pass)
  /-- A system is added to those that use the dashboard; `stamp` is what that does to the column
      `updated`. -/
  | usedBySut (instanceId uid application : String) (stamp : Option ℤ → Option ℤ)
  | upsert (data : UpsertData) (stamp : Option ℤ → Option ℤ)

/-- A dashboard as it is after an edit. -/
def edited (now : ℤ) (details : DashboardDetails) : DashboardDetails :=
  { details with updated := now }

/-- What an event leaves. -/
def State.after (s : State) : Event → State
  | .edit instanceId now details =>
    let g := s.grafana instanceId
    { s with
      grafana := Function.update s.grafana instanceId
        { g with
          dashboards := upsertFirst (hasUid details.uid) (fun _ => edited now details)
            (edited now details) g.dashboards } }
  | .pass p => s.handleGrafanaSync p
  | .usedBySut instanceId uid application stamp =>
    { s with
      rows := updateFirst (isRowOf instanceId uid)
        (fun row => { updateUsedBySut application row with updated := stamp row.updated }) s.rows }
  | .upsert data stamp =>
    let write := fun row => { upsertGrafanaDashboard data row with updated := stamp row.updated }
    { s with
      rows := upsertFirst (isRowOf data.grafanaInstance.id data.uid) write (write newDashboard)
        s.rows }

/-- An event happens. -/
def step (s : State) (e : Event) : Option State := some (s.after e)

/-- The last edit of a dashboard, after an event. -/
def lastEditAfter (instanceId uid : String) (last : Option DashboardDetails) :
    Event → Option DashboardDetails
  | .edit instanceId' now details =>
    if instanceId' = instanceId ∧ details.uid = uid then some (edited now details) else last
  | _ => last

/-- The last edit of a dashboard. -/
def lastEdit (instanceId uid : String) (es : List Event) : Option DashboardDetails :=
  es.foldl (lastEditAfter instanceId uid) none

/-! ## What a pass does -/

section

variable {p : Pass} {phase : Phase} {g : Grafana} {grafanaInstance : GrafanaInstance}
  {instanceId uid : String} {update : Bool} {rows : List GrafanaDashboard} {row : GrafanaDashboard}
  {d : DashboardDetails} {s : State}

theorem uid_of_dashboard (h : g.dashboard uid = some d) : d.uid = uid := by
  have hfound : hasUid uid d = true := List.find?_some h
  exact of_decide_eq_true hfound

theorem uid_of_getDashboardByUid (h : getDashboardByUid p phase g instanceId uid = .ok d) :
    d.uid = uid := by
  rw [getDashboardByUid, called] at h
  split at h
  · cases h
  · split at h
    · rename_i d' hd'
      obtain rfl := Except.ok.inj h
      exact uid_of_dashboard hd'
    · cases h

/-- No other row changes when a dashboard is stored. -/
theorem find?_storeOrSkip_of_ne {uid' : String}
    (hne : (grafanaInstance.id, uid') ≠ (instanceId, uid)) :
    (storeOrSkip p g grafanaInstance phase update rows uid').find? (isRowOf instanceId uid) =
      rows.find? (isRowOf instanceId uid) :=
  find?_storeDashboard_of_ne (fun _ => uid_of_getDashboardByUid) hne

/-- What is stored stays when dashboards are added. -/
theorem find?_add (hrow : rows.find? (isRowOf instanceId uid) = some row) :
    (addNewDashboardsForInstance p g grafanaInstance rows).find? (isRowOf instanceId uid) =
      some row := by
  rw [addNewDashboardsForInstance]
  refine List.foldlRecOn
    (motive := fun rows : List GrafanaDashboard => rows.find? (isRowOf instanceId uid) = some row)
    _ _ hrow fun rows hrow uid' _ => ?_
  by_cases hsame : (grafanaInstance.id, uid') = (instanceId, uid)
  · obtain ⟨rfl, rfl⟩ := Prod.mk.inj hsame
    rw [storeOrSkip, storeDashboard_false hrow]
    exact hrow
  · rw [find?_storeOrSkip_of_ne hsame]
    exact hrow

/-- The pass updates the dashboards of another instance, -/
theorem find?_update_of_ne (hne : grafanaInstance.id ≠ instanceId) :
    (updateDashboardsForInstance p g grafanaInstance rows).find? (isRowOf instanceId uid) =
      rows.find? (isRowOf instanceId uid) := by
  rw [updateDashboardsForInstance]
  refine List.foldlRecOn (motive := fun rows' : List GrafanaDashboard =>
    rows'.find? (isRowOf instanceId uid) =
    rows.find? (isRowOf instanceId uid)) _ _ rfl fun rows' hrows uid' _ => ?_
  rw [find?_storeOrSkip_of_ne fun hsame => hne (Prod.mk.inj hsame).1, hrows]

section Succeeds

variable (hcalls : ∀ phase instanceId call, p.fails phase instanceId call = none)

include hcalls

theorem called_eq {α : Type} {call : Call} {answer : Except String α} :
    called p phase instanceId call answer = answer := by
  rw [called, hcalls]

theorem datasourcesOf_eq : datasourcesOf p phase g instanceId = g.datasources := by
  simp only [datasourcesOf, called_eq hcalls]

theorem getDashboardByUid_eq (hd : g.dashboard uid = some d) :
    getDashboardByUid p phase g instanceId uid = .ok d := by
  rw [getDashboardByUid, called_eq hcalls, hd]

/-- or some of this one, each of them as often as it is listed, -/
theorem find?_foldl_store (hd : g.dashboard uid = some d) (uids : List String)
    (hrow : rows.find? (isRowOf grafanaInstance.id uid) = some row) :
    (uids.foldl (storeOrSkip p g grafanaInstance .update true) rows).find?
      (isRowOf grafanaInstance.id uid) =
        some (if uid ∈ uids then refilled g.datasources grafanaInstance d row else row) := by
  induction uids generalizing rows row with
  | nil => exact hrow
  | cons uid' uids ih =>
    rw [List.foldl_cons]
    by_cases hsame : uid' = uid
    · subst hsame
      have hstore : (storeOrSkip p g grafanaInstance .update true rows uid').find?
          (isRowOf grafanaInstance.id uid') =
            some (refilled g.datasources grafanaInstance d row) := by
        rw [storeOrSkip, datasourcesOf_eq hcalls]
        exact find?_storeDashboard (getDashboardByUid_eq hcalls hd) (uid_of_dashboard hd) hrow
      rw [ih hstore, if_pos List.mem_cons_self, refilled_refilled, ite_self]
    · have hframe : (storeOrSkip p g grafanaInstance .update true rows uid').find?
          (isRowOf grafanaInstance.id uid) = some row := by
        rw [find?_storeOrSkip_of_ne fun h => hsame (Prod.mk.inj h).2, hrow]
      have hmem : uid ∈ uid' :: uids ↔ uid ∈ uids :=
        List.mem_cons.trans (or_iff_right fun h => hsame h.symm)
      rw [ih hframe]
      simp only [hmem]

/-- and those that are newer than their row. -/
theorem find?_update (hd : g.dashboard uid = some d)
    (htagged : uid ∈ (g.searchDashboards (some PERFANA_TAG) GRAFANA_SEARCH_LIMIT).map
      SearchItem.uid)
    (hrow : rows.find? (isRowOf grafanaInstance.id uid) = some row) :
    (updateDashboardsForInstance p g grafanaInstance rows).find? (isRowOf grafanaInstance.id uid) =
      some (if isNewer (p.clock grafanaInstance.id uid) d row = true then
        refilled g.datasources grafanaInstance d row else row) := by
  have hmem : uid ∈ getDashboardsToUpdate p g grafanaInstance rows ↔
      isNewer (p.clock grafanaInstance.id uid) d row = true := by
    rw [getDashboardsToUpdate, searchDashboards, called_eq hcalls]
    simp only [List.mem_filter, htagged, true_and, getDashboardByUid_eq hcalls hd, hrow]
  rw [updateDashboardsForInstance, find?_foldl_store hcalls hd _ hrow]
  simp only [hmem]

/-- What the updates make of a row: it is as Grafana has it if it was before, or if the dashboard
    is newer and can be stored. -/
theorem find?_updateDashboards (hd : (s.grafana instanceId).dashboard uid = some d)
    (htagged : uid ∈ ((s.grafana instanceId).searchDashboards (some PERFANA_TAG)
      GRAFANA_SEARCH_LIMIT).map SearchItem.uid)
    (hrow : rows.find? (isRowOf instanceId uid) = some row) (instances : List GrafanaInstance) :
    ∃ row', (instances.foldl (fun rows i =>
      updateDashboardsForInstance p (s.grafana i.id) i rows) rows).find? (isRowOf instanceId uid) =
        some row' ∧
      (Mirrors row' d ↔ Mirrors row d ∨ (∃ i ∈ instances, i.id = instanceId) ∧
        isNewer (p.clock instanceId uid) d row = true ∧
        isStorable (s.grafana instanceId).datasources d = true) := by
  induction instances generalizing rows row with
  | nil => exact ⟨row, hrow, by simp⟩
  | cons i instances ih =>
    rw [List.foldl_cons]
    by_cases hsame : i.id = instanceId
    · subst hsame
      obtain ⟨row', hrow', hiff⟩ := ih (find?_update hcalls hd htagged hrow)
      refine ⟨row', hrow', hiff.trans ?_⟩
      cases hnewer : isNewer (p.clock i.id uid) d row with
      | false => simp [hnewer]
      | true =>
        simp only [if_pos, refilled_mirrors_iff, isNewer, refilled_updated]
        rw [isNewer] at hnewer
        simp only [hnewer, List.mem_cons, exists_eq_or_imp, true_or, true_and]
        tauto
    · rw [← find?_update_of_ne (p := p) (g := s.grafana i.id) hsame] at hrow
      obtain ⟨row', hrow', hiff⟩ := ih hrow
      exact ⟨row', hrow', by simpa [hsame] using hiff⟩

end Succeeds

/-- Restoring a dashboard does nothing, or removes its row, or adds a dashboard to Grafana. -/
theorem restoreDashboard_cases (p : Pass) (grafanaInstance : GrafanaInstance) (s : State)
    (row : GrafanaDashboard) :
    restoreDashboard p grafanaInstance s row = s ∨
      restoreDashboard p grafanaInstance s row = { s with rows := s.rows.erase row } ∨
      ∃ created : DashboardDetails, restoreDashboard p grafanaInstance s row =
        { s with
          grafana := Function.update s.grafana grafanaInstance.id
            { s.grafana grafanaInstance.id with
              dashboards := (s.grafana grafanaInstance.id).dashboards ++ [created] } } := by
  rw [restoreDashboard]
  split
  · exact .inl rfl
  · dsimp only
    split
    · split
      · exact .inr (.inl rfl)
      · exact .inl rfl
    · exact .inr (.inr ⟨_, rfl⟩)

/-- What it keeps of a dashboard that Grafana has: the dashboard, -/
theorem dashboard_restoreDashboard (hd : (s.grafana instanceId).dashboard uid = some d)
    (row : GrafanaDashboard) :
    ((restoreDashboard p grafanaInstance s row).grafana instanceId).dashboard uid = some d := by
  obtain h | h | ⟨created, h⟩ := restoreDashboard_cases p grafanaInstance s row
  · rw [h]
    exact hd
  · rw [h]
    exact hd
  · rw [h]
    by_cases hsame : instanceId = grafanaInstance.id
    · subst hsame
      dsimp only
      rw [Function.update_self, Grafana.dashboard, List.find?_append]
      rw [Grafana.dashboard] at hd
      rw [hd, Option.some_or]
    · dsimp only
      rw [Function.update_of_ne hsame]
      exact hd

/-- that it is found, -/
theorem items_restoreDashboard (row : GrafanaDashboard) :
    (s.grafana instanceId).items none <+:
      ((restoreDashboard p grafanaInstance s row).grafana instanceId).items none := by
  obtain h | h | ⟨created, h⟩ := restoreDashboard_cases p grafanaInstance s row
  · rw [h]
  · rw [h]
  · rw [h]
    by_cases hsame : instanceId = grafanaInstance.id
    · subst hsame
      dsimp only
      rw [Function.update_self, Grafana.items, Grafana.items, List.filter_append, List.map_append,
        ← List.append_assoc]
      exact List.prefix_append _ _
    · dsimp only
      rw [Function.update_of_ne hsame]

/-- and its row. -/
theorem find?_restoreDashboard {missing : GrafanaDashboard}
    (hmissing : isRowOf instanceId uid missing = false) :
    (restoreDashboard p grafanaInstance s missing).rows.find? (isRowOf instanceId uid) =
      s.rows.find? (isRowOf instanceId uid) := by
  obtain h | h | ⟨created, h⟩ := restoreDashboard_cases p grafanaInstance s missing
  · rw [h]
  · rw [h]
    exact find?_erase_of_neg hmissing
  · rw [h]

/-- The search for what is to be restored finds the dashboard. -/
abbrev Grafana.Finds (g : Grafana) (uid : String) : Prop :=
  uid ∈ ((g.searchDashboards none GRAFANA_SEARCH_LIMIT).filter SearchItem.isDashboard).map
    SearchItem.uid

theorem Grafana.Finds.mono {g' : Grafana} (h : g.Finds uid)
    (hitems : g.items none <+: g'.items none) : g'.Finds uid :=
  (((List.IsPrefix.take hitems GRAFANA_SEARCH_LIMIT).sublist.filter _).map _).subset h

/-- A row stays if Grafana has its dashboard. -/
theorem find?_restore (hfinds : (s.grafana instanceId).Finds uid)
    (hrow : s.rows.find? (isRowOf instanceId uid) = some row) :
    ((restoreDashboardsForInstance p s grafanaInstance).grafana instanceId).Finds uid ∧
      (restoreDashboardsForInstance p s grafanaInstance).rows.find? (isRowOf instanceId uid) =
        some row := by
  have hmissing : ∀ missing ∈ getDashboardsToRestore p grafanaInstance s,
      isRowOf instanceId uid missing = false := by
    intro missing hmem
    rw [getDashboardsToRestore, searchDashboards, called] at hmem
    split at hmem
    · exact absurd hmem List.not_mem_nil
    · rename_i items hitems
      split at hitems
      · cases hitems
      · obtain rfl := Except.ok.inj hitems
        obtain ⟨hinstance, hkept⟩ := List.mem_filter.1 hmem
        have hinstance : missing.grafanaInstanceId = grafanaInstance.id := by
          simpa using (List.mem_filter.1 hinstance).2
        rw [Bool.eq_false_iff]
        intro hrowOf
        obtain ⟨rfl, rfl⟩ := isRowOf_iff.1 hrowOf
        rw [← hinstance] at hkept
        have hnot := (Bool.and_eq_true_iff.1 hkept).1
        rw [Bool.not_eq_true', ← Bool.not_eq_true, List.contains_iff_mem] at hnot
        exact hnot hfinds
  rw [restoreDashboardsForInstance]
  refine List.foldlRecOn (motive := fun s' : State => (s'.grafana instanceId).Finds uid ∧
    s'.rows.find? (isRowOf instanceId uid) = some row) _ _ ⟨hfinds, hrow⟩ ?_
  intro s' hs' missing hmem
  exact ⟨hs'.1.mono (items_restoreDashboard missing),
    (find?_restoreDashboard (hmissing missing hmem)).trans hs'.2⟩

theorem dashboard_handleGrafanaSync (hd : (s.grafana instanceId).dashboard uid = some d) :
    ((s.handleGrafanaSync p).grafana instanceId).dashboard uid = some d := by
  rw [State.handleGrafanaSync, State.restoreDashboards]
  refine List.foldlRecOn
    (motive := fun s' : State => (s'.grafana instanceId).dashboard uid = some d) _ _ hd
    fun s' hs' i _ => ?_
  rw [restoreDashboardsForInstance]
  exact List.foldlRecOn
    (motive := fun s' : State => (s'.grafana instanceId).dashboard uid = some d) _ _ hs'
    fun s'' hs'' row _ => dashboard_restoreDashboard hs'' row

/-- What a pass whose calls succeed makes of the row of a dashboard. -/
theorem find?_handleGrafanaSync
    (hcalls : ∀ phase instanceId call, p.fails phase instanceId call = none)
    (hinstance : ∃ i ∈ s.instances, i.id = instanceId)
    (hd : (s.grafana instanceId).dashboard uid = some d)
    (htagged : uid ∈ ((s.grafana instanceId).searchDashboards (some PERFANA_TAG)
      GRAFANA_SEARCH_LIMIT).map SearchItem.uid)
    (hfinds : (s.grafana instanceId).Finds uid)
    (hrow : s.rows.find? (isRowOf instanceId uid) = some row) :
    ∃ row', (s.handleGrafanaSync p).rows.find? (isRowOf instanceId uid) = some row' ∧
      (Mirrors row' d ↔ Mirrors row d ∨ isNewer (p.clock instanceId uid) d row = true ∧
        isStorable (s.grafana instanceId).datasources d = true) := by
  have hadded : (s.addNewDashboards p).rows.find? (isRowOf instanceId uid) = some row :=
    List.foldlRecOn
      (motive := fun rows : List GrafanaDashboard => rows.find? (isRowOf instanceId uid) = some row)
      _ _ hrow fun rows hrow i _ => find?_add hrow
  obtain ⟨row', hrow', hiff⟩ :=
    find?_updateDashboards (s := s.addNewDashboards p) hcalls hd htagged hadded s.instances
  have hrestored : ((s.handleGrafanaSync p).grafana instanceId).Finds uid ∧
      (s.handleGrafanaSync p).rows.find? (isRowOf instanceId uid) = some row' := by
    rw [State.handleGrafanaSync, State.restoreDashboards]
    exact List.foldlRecOn (motive := fun s' : State => (s'.grafana instanceId).Finds uid ∧
      s'.rows.find? (isRowOf instanceId uid) = some row') _ _ ⟨hfinds, hrow'⟩
      fun s' hs' i _ => find?_restore hs'.1 hs'.2
  refine ⟨row', hrestored.2, hiff.trans ?_⟩
  rw [and_iff_right hinstance]
  rfl

end

/-! ## Whole runs -/

theorem lastEdit_snoc (instanceId uid : String) (es : List Event) (e : Event) :
    lastEdit instanceId uid (es ++ [e]) =
      lastEditAfter instanceId uid (lastEdit instanceId uid es) e := by
  rw [lastEdit, List.foldl_append]
  rfl

/-- An event leaves a dashboard as it was, or is an edit of it. -/
theorem dashboard_after {s : State} {e : Event} {instanceId uid : String}
    {last : Option DashboardDetails} {d : DashboardDetails}
    (hlast : ∀ d, last = some d → (s.grafana instanceId).dashboard uid = some d)
    (hd : lastEditAfter instanceId uid last e = some d) :
    ((s.after e).grafana instanceId).dashboard uid = some d := by
  cases e with
  | edit instanceId' now details =>
    rw [lastEditAfter] at hd
    rw [State.after]
    dsimp only
    by_cases hinstance : instanceId = instanceId'
    · subst hinstance
      rw [Function.update_self, Grafana.dashboard]
      split at hd
      · rename_i hsame
        obtain rfl := hsame.2
        obtain rfl := Option.some.inj hd
        have hedited : hasUid details.uid (edited now details) = true := decide_eq_true rfl
        refine (find?_upsertFirst_self (fun _ _ => hedited) hedited).trans ?_
        cases (s.grafana instanceId).dashboards.find? (hasUid details.uid) <;> rfl
      · rename_i hother
        have hne : details.uid ≠ uid := fun huid => hother ⟨rfl, huid⟩
        have hedited : hasUid uid (edited now details) = false := decide_eq_false hne
        refine (find?_upsertFirst_of_ne (fun r hr => ⟨?_, hedited⟩) hedited).trans (hlast d hd)
        have hr : r.uid = details.uid := of_decide_eq_true hr
        exact decide_eq_false (hr ▸ hne)
    · rw [Function.update_of_ne hinstance]
      rw [if_neg fun h => hinstance h.1.symm] at hd
      exact hlast d hd
  | pass p => exact dashboard_handleGrafanaSync (hlast d hd)
  | usedBySut instanceId' uid' application stamp => exact hlast d hd
  | upsert data stamp => exact hlast d hd

/-- Grafana has each dashboard as it was edited last. -/
theorem lastEdit_invariant {init s : State} {es : List Event} {instanceId uid : String}
    {d : DashboardDetails} (hrun : Run step (fun _ _ => True) init es s)
    (hedit : lastEdit instanceId uid es = some d) :
    (s.grafana instanceId).dashboard uid = some d := by
  refine @Run.invariant _ _ step _ init (fun es s => ∀ d, lastEdit instanceId uid es = some d →
    (s.grafana instanceId).dashboard uid = some d) ?_ ?_ es s hrun d hedit
  · intro d hd
    cases hd
  · intro es s e s' ih _ hstep d hd
    rw [lastEdit_snoc] at hd
    obtain rfl : s.after e = s' := Option.some.inj hstep
    exact dashboard_after ih hd

/-- In every run, whatever was edited, written or missed before: after a pass all of whose calls
    succeed, the row of a dashboard has what Grafana has since its last edit if and only if it had
    before, or the pass looks at the dashboard within an hour of the edit, the column of the row is
    before the edit, and the dashboard can be stored. -/
theorem sync_mirrors_iff {init s : State} {es : List Event} {p : Pass} {instanceId uid : String}
    {d : DashboardDetails} {row : GrafanaDashboard} (hrun : Run step (fun _ _ => True) init es s)
    (hedit : lastEdit instanceId uid es = some d)
    (hcalls : ∀ phase instanceId call, p.fails phase instanceId call = none)
    (hinstance : ∃ i ∈ s.instances, i.id = instanceId)
    (htagged : uid ∈ ((s.grafana instanceId).searchDashboards (some PERFANA_TAG)
      GRAFANA_SEARCH_LIMIT).map SearchItem.uid)
    (hfinds : (s.grafana instanceId).Finds uid)
    (hrow : s.rows.find? (isRowOf instanceId uid) = some row) :
    ∃ row', (s.handleGrafanaSync p).rows.find? (isRowOf instanceId uid) = some row' ∧
      (Mirrors row' d ↔ Mirrors row d ∨
        (p.clock instanceId uid - oneHour < d.updated ∧ row.updated.getD 0 < d.updated) ∧
        isStorable (s.grafana instanceId).datasources d = true) := by
  have hd := lastEdit_invariant hrun hedit
  obtain ⟨row', hrow', hiff⟩ :=
    find?_handleGrafanaSync hcalls hinstance hd htagged hfinds hrow
  refine ⟨row', hrow', hiff.trans ?_⟩
  rw [isNewer, Bool.and_eq_true, decide_eq_true_eq, decide_eq_true_eq]

/-! ## An edit that is missed -/

/-- A dashboard with one panel. -/
def latency (title : String) : DashboardDetails :=
  { id := 1, uid := "latency", title := title, tags := some [PERFANA_TAG]
    panels := some [{
      id := 1, title := some title, type := "timeseries", description := none
      datasource := some (.reference (some "P1") (some "prometheus")), targets := []
      repeatIteration := none, repeatVariable := none, unit := none, yAxisFormat := none }]
    templating := none, url := "/d/latency", slug := "latency", updated := 0 }

def mainGrafana : GrafanaInstance :=
  { id := "main", label := "Default", organizationId := some "org" }

/-- It is stored as Grafana has it. -/
def synced : State where
  instances := [mainGrafana]
  grafana := fun _ =>
    { folders := [], dashboards := [latency "old"]
      datasources := { byUid := fun _ => .error "404", byName := fun _ => .error "404" } }
  rows := [fill mainGrafana (latency "old") "prometheus" newDashboard]
  applicationDashboards := []

/-- A pass at some time, in which all calls succeed or all fail. -/
def passAt (now : ℤ) (fails : Bool) : Pass where
  fails := fun _ _ _ => if fails then some "connect ECONNREFUSED" else none
  clock := fun _ _ => now
  assigned := fun _ _ => { id := 0, url := "", slug := "", updated := now }

/-- The dashboard is renamed. -/
def renamed : Event := .edit "main" 10000000 (latency "new")

/-- What it is then. -/
def renamedLatency : DashboardDetails := edited 10000000 (latency "new")

/-- A pass a minute later stores it. -/
theorem sync_mirrors_renamed : ∃ row',
    ((synced.after renamed).handleGrafanaSync (passAt 10060000 false)).rows.find?
      (isRowOf "main" "latency") = some row' ∧ Mirrors row' renamedLatency := by
  obtain ⟨row', hrow', hiff⟩ := sync_mirrors_iff (p := passAt 10060000 false)
    (d := renamedLatency) (.snoc .start trivial rfl : Run step _ synced ([] ++ [renamed]) _)
    (by decide +kernel) (fun _ _ _ => rfl) ⟨mainGrafana, List.mem_singleton_self _, rfl⟩
    (by decide +kernel) (by decide +kernel)
    (rfl : synced.rows.find? (isRowOf "main" "latency") = some _)
  exact ⟨row', hrow', hiff.2 (.inr ⟨⟨by decide, by decide⟩, by decide⟩)⟩

/-- The row that is found has not what the dashboard has. -/
def isMissed (s : State) (d : DashboardDetails) : Bool :=
  (s.rows.find? (isRowOf "main" "latency")).any fun row => !decide (Mirrors row d)

/-- The pass that is the first to succeed after the edit, two hours later, does not store it; nor
    does one a minute later, if the row was written in between. -/
theorem not_converges :
    (∃ es s, Run step (fun _ _ => True) synced es s ∧
      lastEdit "main" "latency" es = some renamedLatency ∧
      (∀ phase instanceId call, (passAt 17200000 false).fails phase instanceId call = none) ∧
      isMissed (s.handleGrafanaSync (passAt 17200000 false)) renamedLatency = true) ∧
    ∃ es s, Run step (fun _ _ => True) synced es s ∧
      lastEdit "main" "latency" es = some renamedLatency ∧
      (∀ phase instanceId call, (passAt 10060000 false).fails phase instanceId call = none) ∧
      isMissed (s.handleGrafanaSync (passAt 10060000 false)) renamedLatency = true :=
  ⟨⟨[] ++ [renamed] ++ [.pass (passAt 10030000 true)], _,
      .snoc (.snoc .start trivial rfl) trivial rfl, by decide +kernel, fun _ _ _ => rfl,
      by decide +kernel⟩,
    [] ++ [renamed] ++ [.usedBySut "main" "latency" "shop" fun _ => some 10030000], _,
      .snoc (.snoc .start trivial rfl) trivial rfl, by decide +kernel, fun _ _ _ => rfl,
      by decide +kernel⟩

end Perfana.GrafanaSync
