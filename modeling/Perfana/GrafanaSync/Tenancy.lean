import Perfana.GrafanaSync.DashboardProcessor

/-!
# Staying inside an organization

Organizations share the labels of their Grafana instances. A run means the instance of its own
organization, but where a set of variables has no application dashboards yet, the label is resolved
without the organization: the lookups fail closed, and a dashboard is created in the first Grafana
that has the label.

* `process_iff`: a run stays inside its organization, and gets its application dashboards, if and
  only if they exist, with their dashboard at its own instance, or no other organization has the
  label.
-/

namespace Perfana.AutoConfig

open GrafanaSync

/-! ## Inserting application dashboards -/

section

variable {w w' : World} {own gi : GrafanaInstance} {data : ApplicationDashboardInsertData}
  {testRun : TestRun} {autoConfigDashboard : ProfileGrafanaDashboard}
  {vars : List DashboardVariable} {grafanaDashboard : Found} {templateDashboardUid : String}
  {dashboardTags : List String} {separate value : String}

/-- What an insert touches: the instance that its label means. -/
theorem insert_apply (w : World) (data : ApplicationDashboardInsertData) :
    (∃ message, insertApplicationDashboard data w = ([], .error message)) ∧
        ((w.findSystem data.application data.organizationId).isSome = true →
          w.resolve data.grafana data.organizationId = none) ∨
      (w.findSystem data.application data.organizationId).isSome = true ∧
        ∃ gi w', w.resolve data.grafana data.organizationId = some gi ∧
          insertApplicationDashboard data w = ([.grafana gi.id, .link gi.id], .ok ((), w')) ∧
          w'.instances = w.instances ∧ w'.systems = w.systems := by
  rw [insertApplicationDashboard, Traced.bind_of_eq_ok (Traced.get_apply w)]
  cases hsut : w.findSystem data.application data.organizationId with
  | none => exact .inl ⟨⟨_, rfl⟩, fun h => by cases h⟩
  | some sut =>
    dsimp only
    cases hresolve : w.resolve data.grafana data.organizationId with
    | none =>
      rw [Traced.bind_of_eq_ok (resolveGrafanaInstanceByLabel_none hresolve)]
      exact .inl ⟨⟨_, rfl⟩, fun _ => rfl⟩
    | some gi =>
      rw [Traced.bind_of_eq_ok (resolveGrafanaInstanceByLabel_some hresolve)]
      exact .inr ⟨rfl, gi, _, rfl, rfl, rfl, rfl⟩

/-- An insert stays inside an instance if its label means that one. -/
theorem insert_within_iff : (insertApplicationDashboard data).Within (Touch.IsOf own.id) w ↔
    ((w.findSystem data.application data.organizationId).isSome = true →
      ∀ gi, w.resolve data.grafana data.organizationId = some gi → gi.id = own.id) := by
  rcases insert_apply w data with ⟨⟨message, herror⟩, hnone⟩ | ⟨hsut, gi, w', hgi, hok, -⟩
  · rw [Traced.Within, herror]
    refine iff_of_true (List.forall_mem_nil _) fun hsut gi hgi => ?_
    rw [hnone hsut] at hgi
    cases hgi
  · rw [Traced.Within, hok, hgi]
    constructor
    · intro h _ gi' hgi'
      exact Option.some.inj hgi' ▸ h _ List.mem_cons_self
    · intro h
      have hid : gi.id = own.id := h hsut gi rfl
      exact List.forall_mem_cons.2 ⟨hid, List.forall_mem_singleton.2 hid⟩

/-- The instances and the systems are as they were. -/
def World.Alike (w s : World) : Prop := s.instances = w.instances ∧ s.systems = w.systems

theorem World.Alike.resolve {s : World} (h : w.Alike s) (label : String)
    (organizationId : Option String) :
    s.resolve label organizationId = w.resolve label organizationId := by
  rw [World.resolve, World.matching, h.1, World.resolve, World.matching]

theorem World.Alike.findSystem {s : World} (h : w.Alike s) (name : String)
    (organizationId : Option String) :
    s.findSystem name organizationId = w.findSystem name organizationId := by
  rw [World.findSystem, h.2, World.findSystem]

theorem insert_keeps : (insertApplicationDashboard data).Keeps w.Alike := by
  intro s _ s' halike h
  rcases insert_apply s data with ⟨⟨message, herror⟩, -⟩ | ⟨-, gi, w'', -, hok, hframe⟩
  · rw [Traced.Returns, herror] at h
    cases h
  · rw [Traced.Returns, hok] at h
    cases h
    exact ⟨hframe.1.trans halike.1, hframe.2.trans halike.2⟩

/-- The label that separate dashboards are linked by. -/
def linkLabel (label : String) : String := if label = "" then "UNKNOWN" else label

/-- A separate dashboard is there already. -/
theorem createSeparate_of_exists
    (h : w.applicationDashboardsOf testRun grafanaDashboard.grafanaInstance.label
      templateDashboardUid (autoConfigDashboard.dashboardName ++ " " ++ value) ≠ []) :
    createSeparateDashboardForValue testRun autoConfigDashboard vars grafanaDashboard
      templateDashboardUid dashboardTags separate value w = ([], .ok ((), w)) := by
  rw [createSeparateDashboardForValue, Traced.bind_of_eq_ok (Traced.get_apply w),
    if_neg (by rwa [List.isEmpty_iff])]
  rfl

/-- Otherwise it is inserted. -/
theorem createSeparate_of_missing
    (h : w.applicationDashboardsOf testRun grafanaDashboard.grafanaInstance.label
      templateDashboardUid (autoConfigDashboard.dashboardName ++ " " ++ value) = []) :
    ∃ data : ApplicationDashboardInsertData, data.application = testRun.sutName ∧
      data.organizationId = testRun.organizationId ∧
      data.grafana = linkLabel grafanaDashboard.grafanaInstance.label ∧
      createSeparateDashboardForValue testRun autoConfigDashboard vars grafanaDashboard
        templateDashboardUid dashboardTags separate value w =
          insertApplicationDashboard data w := by
  rw [createSeparateDashboardForValue, Traced.bind_of_eq_ok (Traced.get_apply w), h]
  exact ⟨_, rfl, rfl, rfl, rfl⟩

theorem createSeparate_keeps :
    (createSeparateDashboardForValue testRun autoConfigDashboard vars grafanaDashboard
      templateDashboardUid dashboardTags separate value).Keeps w.Alike := by
  intro s _ s' halike h
  by_cases hmissing : s.applicationDashboardsOf testRun grafanaDashboard.grafanaInstance.label
      templateDashboardUid (autoConfigDashboard.dashboardName ++ " " ++ value) = []
  · obtain ⟨data, -, -, -, heq⟩ := createSeparate_of_missing hmissing
    rw [Traced.Returns, heq] at h
    exact insert_keeps s () s' halike h
  · rw [Traced.Returns, createSeparate_of_exists hmissing] at h
    cases h
    exact halike

/-- The label that a system's dashboards are linked by means an instance, or nothing. -/
def World.LinksInside (w : World) (testRun : TestRun) (own : GrafanaInstance) (label : String) :
    Prop :=
  (w.findSystem testRun.sutName testRun.organizationId).isSome = true →
    ∀ gi, w.resolve label testRun.organizationId = some gi → gi.id = own.id

theorem createSeparate_within
    (h : w.LinksInside testRun own (linkLabel grafanaDashboard.grafanaInstance.label)) :
    (createSeparateDashboardForValue testRun autoConfigDashboard vars grafanaDashboard
      templateDashboardUid dashboardTags separate value).Within (Touch.IsOf own.id) w := by
  by_cases hmissing : w.applicationDashboardsOf testRun grafanaDashboard.grafanaInstance.label
      templateDashboardUid (autoConfigDashboard.dashboardName ++ " " ++ value) = []
  · obtain ⟨data, happlication, horg, hgrafana, heq⟩ := createSeparate_of_missing hmissing
    rw [Traced.Within, heq]
    refine insert_within_iff.2 ?_
    rw [happlication, horg, hgrafana]
    exact h
  · rw [Traced.Within, createSeparate_of_exists hmissing]
    exact List.forall_mem_nil _

/-- Separate dashboards are linked inside an instance if none is missing, or if the label means
    that instance. -/
theorem separate_within_iff {values : List String} :
    (values.forM (createSeparateDashboardForValue testRun autoConfigDashboard vars
      grafanaDashboard templateDashboardUid dashboardTags separate)).Within
        (Touch.IsOf own.id) w ↔
      ((∃ value ∈ values,
        w.applicationDashboardsOf testRun grafanaDashboard.grafanaInstance.label
          templateDashboardUid (autoConfigDashboard.dashboardName ++ " " ++ value) = []) →
        w.LinksInside testRun own (linkLabel grafanaDashboard.grafanaInstance.label)) := by
  induction values with
  | nil => exact iff_of_true (List.forall_mem_nil _) fun ⟨_, h, _⟩ => absurd h List.not_mem_nil
  | cons value values ih =>
    by_cases hmissing : w.applicationDashboardsOf testRun grafanaDashboard.grafanaInstance.label
        templateDashboardUid (autoConfigDashboard.dashboardName ++ " " ++ value) = []
    · constructor
      · -- The first dashboard that is missing decides.
        intro h _
        obtain ⟨data, happlication, horg, hgrafana, heq⟩ := createSeparate_of_missing hmissing
        have hfirst := Traced.within_of_bind h
        rw [Traced.Within, heq] at hfirst
        have hinsert := insert_within_iff.1 hfirst
        rwa [happlication, horg, hgrafana] at hinsert
      · intro h
        have hlinks := h ⟨value, List.mem_cons_self, hmissing⟩
        refine Traced.within_forM (fun _ _ => createSeparate_keeps (w := w)) ?_ ⟨rfl, rfl⟩
        intro value _ s halike
        refine createSeparate_within ?_
        rwa [World.LinksInside, halike.resolve, halike.findSystem]
    · rw [List.forM, Traced.Within, Traced.bind_of_eq_ok (createSeparate_of_exists hmissing),
        List.nil_append]
      rw [List.exists_mem_cons_iff, or_iff_right hmissing]
      exact ih

/-! ## Storing inside an instance -/

/-- A separate dashboard is missing, and the label that it would be linked by, which is `UNKNOWN`
    for an empty one, means another instance. -/
def World.LinksElsewhere (w : World) (testRun : TestRun)
    (autoConfigDashboard : ProfileGrafanaDashboard) (vars : List DashboardVariable)
    (own : GrafanaInstance) (templateDashboardUid : String) : Prop :=
  ∃ separate ∈ truthy autoConfigDashboard.createSeparateDashboardForVariable,
    ∃ v ∈ vars.find? fun v => v.name = separate,
      (∃ value ∈ v.values, w.applicationDashboardsOf testRun own.label templateDashboardUid
        (autoConfigDashboard.dashboardName ++ " " ++ value) = []) ∧
      ¬w.LinksInside testRun own (linkLabel own.label)

variable {applicationDashboards : List ApplicationDashboard} {templateTags : Option (List String)}

theorem store_reaches :
    (storeApplicationDashboards testRun autoConfigDashboard grafanaDashboard vars
      applicationDashboards templateDashboardUid templateTags).Reaches .store w :=
  Traced.reaches_bind (List.mem_singleton_self _)

theorem createOne_within_iff :
    (createOneApplicationDashboard testRun autoConfigDashboard vars grafanaDashboard
      templateDashboardUid dashboardTags).Within (Touch.IsOf own.id) w ↔
      w.LinksInside testRun own grafanaDashboard.grafanaInstance.label :=
  insert_within_iff

theorem store_within
    (hone : w.LinksInside testRun own grafanaDashboard.grafanaInstance.label)
    (hseparate : w.LinksInside testRun own (linkLabel grafanaDashboard.grafanaInstance.label)) :
    (storeApplicationDashboards testRun autoConfigDashboard grafanaDashboard vars
      applicationDashboards templateDashboardUid templateTags).Within (Touch.IsOf own.id) w := by
  refine Traced.within_touch_bind.2 ⟨trivial, ?_⟩
  dsimp only
  split
  · cases truthy autoConfigDashboard.createSeparateDashboardForVariable with
    | none => exact createOne_within_iff.2 hone
    | some separate =>
      dsimp only [createSeparateDashboards]
      cases vars.find? fun v => v.name = separate with
      | none => exact Traced.within_pure
      | some filtered => exact separate_within_iff.2 fun _ => hseparate
  · exact Traced.within_pure

/-- New application dashboards are linked inside an instance, if no separate one that is missing is
    linked to another. -/
theorem store_within_iff (hgi : grafanaDashboard.grafanaInstance = own)
    (hone : w.LinksInside testRun own own.label) :
    (storeApplicationDashboards testRun autoConfigDashboard grafanaDashboard vars []
      templateDashboardUid templateTags).Within (Touch.IsOf own.id) w ↔
      ¬w.LinksElsewhere testRun autoConfigDashboard vars own templateDashboardUid := by
  subst hgi
  refine Traced.within_touch_bind.trans ((and_iff_right trivial).trans ?_)
  have hrequired : checkIfUpdateRequired (replaceHardcodedValuesForVariables vars
      autoConfigDashboard.setHardcodedValueForVariables) [] = true := rfl
  dsimp only
  rw [if_pos hrequired, World.LinksElsewhere]
  cases truthy autoConfigDashboard.createSeparateDashboardForVariable with
  | none => exact iff_of_true (createOne_within_iff.2 hone) fun ⟨_, h, _⟩ => by cases h
  | some separate =>
    dsimp only [createSeparateDashboards]
    cases hfound : vars.find? fun v => v.name = separate with
    | none =>
      refine iff_of_true Traced.within_pure ?_
      rintro ⟨_, ⟨⟩, _, h, _⟩
      rw [hfound] at h
      cases h
    | some filtered =>
      have hexisting : checkExistingValues vars [] separate = [] := by
        rw [checkExistingValues]
        split <;> rfl
      have hnew : (filtered.values.filter fun value =>
          !(checkExistingValues vars [] separate).contains value) = filtered.values := by
        rw [hexisting]
        exact List.filter_eq_self.2 fun _ _ => rfl
      dsimp only
      rw [hnew, separate_within_iff]
      constructor
      · rintro h ⟨_, ⟨⟩, _, hfiltered, hmissing, hlinks⟩
        rw [hfound] at hfiltered
        cases hfiltered
        exact hlinks (h hmissing)
      · intro h hmissing
        by_contra hlinks
        exact h ⟨separate, rfl, filtered, hfound, hmissing, hlinks⟩

/-! ## Creating a dashboard -/

/-- The application dashboards are as they were, too. -/
def World.AlikeLinks (w s : World) : Prop :=
  w.Alike s ∧ s.applicationDashboards = w.applicationDashboards

variable {md5 : String → String} {api : GrafanaApi} {label uid title : String}
  {organizationId : Option String} {details : DashboardDetails} {usedBySUT : List String}

theorem World.AlikeLinks.applicationDashboardsOf {s : World} (h : w.AlikeLinks s)
    (grafana dashboardUid dashboardLabel : String) :
    s.applicationDashboardsOf testRun grafana dashboardUid dashboardLabel =
      w.applicationDashboardsOf testRun grafana dashboardUid dashboardLabel := by
  rw [World.applicationDashboardsOf, h.1.1, h.1.2, h.2, World.applicationDashboardsOf]

theorem World.AlikeLinks.applicationDashboardsFor {s : World} (h : w.AlikeLinks s)
    (grafana : String) :
    s.applicationDashboardsFor md5 testRun autoConfigDashboard vars grafana =
      w.applicationDashboardsFor md5 testRun autoConfigDashboard vars grafana := by
  rw [World.applicationDashboardsFor, h.applicationDashboardsOf, World.applicationDashboardsFor]

theorem World.AlikeLinks.linksElsewhere_iff {s : World} (h : w.AlikeLinks s) :
    s.LinksElsewhere testRun autoConfigDashboard vars own templateDashboardUid ↔
      w.LinksElsewhere testRun autoConfigDashboard vars own templateDashboardUid := by
  rw [World.LinksElsewhere, World.LinksInside, h.1.resolve, h.1.findSystem, World.LinksElsewhere,
    World.LinksInside]
  simp only [h.applicationDashboardsOf]

/-- Grafana has the template, and creates the dashboard. -/
structure GrafanaApi.Answers (api : GrafanaApi) (instanceId dashboardUid sutName uid : String) :
    Prop where
  template : ∃ details, api.getDashboardByUid instanceId dashboardUid = .ok details
  folder : ∃ folder, api.createOrFindFolder instanceId sutName = .ok folder
  create : ∀ details folder, api.createDashboard instanceId details folder = .ok ()
  created : ∃ details, api.getDashboardByUid instanceId uid = .ok details

theorem resolve_keeps {Inv : World → Prop} :
    (resolveGrafanaInstanceByLabel label organizationId).Keeps Inv := by
  refine Traced.keeps_of_reads fun s _ s' h => ?_
  cases hresolve : s.resolve label organizationId with
  | none =>
    rw [Traced.Returns, resolveGrafanaInstanceByLabel_none hresolve] at h
    cases h
    rfl
  | some gi =>
    rw [Traced.Returns, resolveGrafanaInstanceByLabel_some hresolve] at h
    cases h
    rfl

theorem upsertDashboard_keeps :
    (upsertDashboard label organizationId details uid title usedBySUT).Keeps w.AlikeLinks := by
  refine Traced.keeps_bind resolve_keeps fun gi? => ?_
  cases gi? with
  | none => exact Traced.keeps_fail
  | some gi =>
    refine Traced.keeps_bind Traced.keeps_touch fun _ => ?_
    refine Traced.keeps_bind (Traced.keeps_modify fun _ h => h) fun _ => ?_
    refine Traced.keeps_bind Traced.keeps_get fun s => ?_
    split
    · exact Traced.keeps_fail
    · exact Traced.keeps_pure

/-- The row that was written is found. -/
theorem find?_upsertDashboard (w : World) (data : UpsertData) :
    ∃ row, (w.upsertDashboard data).grafanaDashboards.find?
      (fun gd => isRowOf data.grafanaInstance.id data.uid gd.toGrafanaDashboard) = some row :=
  ⟨_, find?_upsertFirst_self (fun _ _ => isRowOf_iff.2 ⟨rfl, rfl⟩) (isRowOf_iff.2 ⟨rfl, rfl⟩)⟩

/-- A dashboard that is created is stored, at the instance that the label means. -/
theorem upsertDashboard_apply (details : DashboardDetails) (uid title : String)
    (usedBySUT : List String) (h : w.resolve label organizationId = some gi) : ∃ found w',
    upsertDashboard label organizationId details uid title usedBySUT w =
        ([.grafana gi.id, .dashboard gi.id], .ok (found, w')) ∧
      w'.dashboardsOf gi.id [uid] ≠ [] := by
  rw [upsertDashboard, Traced.bind_of_eq_ok (resolveGrafanaInstanceByLabel_some h)]
  dsimp only
  rw [Traced.bind_of_eq_ok (Traced.touch_apply _ w), Traced.bind_of_eq_ok (Traced.modify_apply _ w),
    Traced.bind_of_eq_ok (Traced.get_apply _)]
  obtain ⟨row, hrow⟩ := find?_upsertDashboard w
    { grafanaInstance := gi, uid := uid, title := title, id := details.id
      grafanaJson := some details, usedBySUT := some usedBySUT, panels := [] }
  dsimp only at hrow ⊢
  rw [hrow]
  refine ⟨_, _, rfl, List.ne_nil_of_mem (List.mem_filter.2 ⟨List.mem_of_find?_eq_some hrow, ?_⟩)⟩
  have hkey := List.find?_some hrow
  obtain ⟨hinstance, huid⟩ := isRowOf_iff.1 hkey
  rw [Bool.and_eq_true, decide_eq_true_eq, List.contains_iff_mem, huid]
  exact ⟨hinstance, List.mem_singleton_self uid⟩

theorem createNew_keeps :
    (createNewDashboard md5 api testRun autoConfigDashboard own vars).Keeps w.AlikeLinks := by
  refine Traced.keeps_bind Traced.keeps_get fun s => ?_
  dsimp only
  split
  · exact Traced.keeps_fail
  · refine Traced.keeps_bind Traced.keeps_touch fun _ => ?_
    refine Traced.keeps_bind Traced.keeps_lift fun template => ?_
    refine Traced.keeps_bind Traced.keeps_lift fun folder => ?_
    refine Traced.keeps_bind Traced.keeps_lift fun _ => ?_
    exact Traced.keeps_bind Traced.keeps_lift fun created => upsertDashboard_keeps

/-- What a computation may touch that stores no application dashboards. -/
theorem upsertDashboard_within :
    (upsertDashboard label organizationId details uid title usedBySUT).Within (· ≠ .store) w := by
  cases hresolve : w.resolve label organizationId with
  | none =>
    rw [Traced.Within, upsertDashboard,
      Traced.bind_of_eq_ok (resolveGrafanaInstanceByLabel_none hresolve)]
    exact List.forall_mem_nil _
  | some gi =>
    obtain ⟨found, w', hok, -⟩ := upsertDashboard_apply details uid title usedBySUT hresolve
    rw [Traced.Within, hok]
    simp

/-- The creation of a dashboard stores no application dashboards. -/
theorem createNew_within_ne_store :
    (createNewDashboard md5 api testRun autoConfigDashboard own vars).Within (· ≠ .store) w := by
  refine Traced.within_bind Traced.within_get fun s w' _ => ?_
  dsimp only
  split
  · exact Traced.within_fail
  · refine Traced.within_touch_bind.2 ⟨by simp, ?_⟩
    refine Traced.within_bind Traced.within_lift fun template _ _ => ?_
    refine Traced.within_bind Traced.within_lift fun folder _ _ => ?_
    refine Traced.within_bind Traced.within_lift fun _ _ _ => ?_
    exact Traced.within_bind Traced.within_lift fun created _ _ => upsertDashboard_within

/-- A dashboard is created at the instance of its own, if that is the first with the label. -/
theorem createNew_apply
    (hfirst : w.instances.rows.find? (fun gi => gi.label = own.label) = some own)
    (hresolve : w.resolve own.label own.organizationId = some own)
    (hanswers : api.Answers own.id autoConfigDashboard.dashboardUid testRun.sutName
      (createDashboardUid md5 testRun autoConfigDashboard vars)) :
    ∃ found w', createNewDashboard md5 api testRun autoConfigDashboard own vars w =
        ([.grafana own.id, .grafana own.id, .dashboard own.id], .ok (found, w')) ∧
      w'.dashboardsOf own.id [createDashboardUid md5 testRun autoConfigDashboard vars] ≠ [] := by
  obtain ⟨template, htemplate⟩ := hanswers.template
  obtain ⟨folder, hfolder⟩ := hanswers.folder
  obtain ⟨created, hcreated⟩ := hanswers.created
  rw [createNewDashboard, Traced.bind_of_eq_ok (Traced.get_apply w), hfirst]
  dsimp only
  rw [Traced.bind_of_eq_ok (Traced.touch_apply _ w), htemplate,
    Traced.bind_of_eq_ok (Traced.lift_ok_apply template w), hfolder,
    Traced.bind_of_eq_ok (Traced.lift_ok_apply folder w)]
  dsimp only
  rw [hanswers.create, Traced.bind_of_eq_ok (Traced.lift_ok_apply () w), hcreated,
    Traced.bind_of_eq_ok (Traced.lift_ok_apply created w)]
  obtain ⟨found, w', hok, hrows⟩ := upsertDashboard_apply created
    (createDashboardUid md5 testRun autoConfigDashboard vars)
    (autoConfigDashboard.dashboardName ++ " - " ++ testRun.sutName ++ " " ++
      testRun.testEnvironment) [testRun.sutName] hresolve
  refine ⟨found, w', ?_, hrows⟩
  rw [hok]
  rfl

/-! ## Reusing a template -/

variable {row : StoredDashboard} {uids : List String}

theorem findGrafanaDashboard_none (uids : List String) (h : w.resolve label none = none) :
    ∃ message, findGrafanaDashboard label uids w = ([], .error message) := by
  rw [findGrafanaDashboard, Traced.bind_of_eq_ok (findGrafanaDashboardOrNull_none h)]
  exact ⟨_, rfl⟩

theorem findGrafanaDashboard_singleton (h : w.resolve label none = some gi)
    (hrows : w.dashboardsOf gi.id uids = [row]) :
    findGrafanaDashboard label uids w = ([.grafana gi.id, .dashboard gi.id],
      .ok ({ row := row, grafanaInstance := gi }, w)) := by
  rw [findGrafanaDashboard,
    Traced.bind_of_eq_ok (findGrafanaDashboardOrNull_singleton h hrows)]
  rfl

theorem mem_dashboardsOf {instanceId : String} (h : row ∈ w.dashboardsOf instanceId uids) :
    row ∈ w.grafanaDashboards ∧ row.grafanaInstanceId = instanceId ∧ row.uid ∈ uids := by
  obtain ⟨hmem, hkey⟩ := List.mem_filter.1 h
  rw [Bool.and_eq_true, decide_eq_true_eq, List.contains_iff_mem] at hkey
  exact ⟨hmem, hkey⟩

/-- The dashboard of an instance is found there as before. -/
theorem dashboardsOf_updateUsedBySut {instanceId : String} (id : ℕ) (application : String)
    (hrows : w.dashboardsOf instanceId uids = [row]) :
    ∃ row', (w.updateUsedBySut id application).dashboardsOf instanceId uids = [row'] := by
  obtain ⟨row', hrow', -⟩ := filter_updateFirst (p := fun gd => gd.id = id)
    (f := fun gd => { gd with
      toGrafanaDashboard := GrafanaSync.updateUsedBySut application gd.toGrafanaDashboard })
    (fun _ => rfl) hrows
  exact ⟨row', hrow'⟩

theorem updateUsedBySut_apply {instanceId : String} (application : String)
    (hids : (w.grafanaDashboards.map StoredDashboard.id).Nodup)
    (hrows : w.dashboardsOf instanceId uids = [row]) :
    updateUsedBySutById row.id application w =
      ([.dashboard instanceId], .ok ((), w.updateUsedBySut row.id application)) := by
  obtain ⟨hrow, hinstance, -⟩ := mem_dashboardsOf (hrows ▸ List.mem_singleton_self row)
  have hsome : (w.grafanaDashboards.find? fun gd => gd.id = row.id).isSome = true :=
    List.find?_isSome.2 ⟨row, hrow, decide_eq_true rfl⟩
  obtain ⟨gd, hgd⟩ := Option.isSome_iff_exists.1 hsome
  have hid := List.find?_some hgd
  obtain rfl : gd = row := List.inj_on_of_nodup_map hids (List.mem_of_find?_eq_some hgd) hrow
    (of_decide_eq_true hid)
  rw [updateUsedBySutById, Traced.bind_of_eq_ok (Traced.get_apply w), hgd, ← hinstance]
  rfl

/-- The template is the dashboard. -/
theorem readOnly_apply (testRun : TestRun)
    (hlabel : autoConfigDashboard.grafanaLabel = own.label)
    (hresolve : w.resolve own.label none = some own)
    (hids : (w.grafanaDashboards.map StoredDashboard.id).Nodup)
    (hrows : w.dashboardsOf own.id [autoConfigDashboard.dashboardUid] = [row]) : ∃ row' w',
    handleReadOnlyDashboard testRun autoConfigDashboard own w =
        ([.grafana own.id, .dashboard own.id, .dashboard own.id, .grafana own.id,
          .dashboard own.id], .ok ({ row := row', grafanaInstance := own }, w')) ∧
      w.AlikeLinks w' ∧ row'.uid = autoConfigDashboard.dashboardUid := by
  obtain ⟨row', hrow'⟩ := dashboardsOf_updateUsedBySut row.id testRun.sutName hrows
  have halike : w.AlikeLinks (w.updateUsedBySut row.id testRun.sutName) := ⟨⟨rfl, rfl⟩, rfl⟩
  have huid := (mem_dashboardsOf (hrow' ▸ List.mem_singleton_self row')).2.2
  refine ⟨row', w.updateUsedBySut row.id testRun.sutName, ?_, halike, List.mem_singleton.1 huid⟩
  rw [handleReadOnlyDashboard, hlabel,
    Traced.bind_of_eq_ok (findGrafanaDashboard_singleton hresolve hrows),
    Traced.bind_of_eq_ok (updateUsedBySut_apply testRun.sutName hids hrows),
    findGrafanaDashboard_singleton ((halike.1.resolve own.label none).trans hresolve) hrow']
  rfl

/-! ## Processing a set of variables -/

variable (testRun autoConfigDashboard vars md5 api) {template : Found}
  {applicationDashboard : ApplicationDashboard}

theorem findExisting_none (h : w.resolve label none = none) :
    findExistingGrafanaDashboards label uids none w = ([], .ok ([], w)) := by
  rw [findExistingGrafanaDashboards, Traced.bind_of_eq_ok (resolveGrafanaInstanceByLabel_none h)]
  rfl

theorem findExisting_some (uids : List String) (h : w.resolve label none = some gi) : ∃ ts,
    findExistingGrafanaDashboards label uids none w = (ts, .ok ((w.dashboardsOf gi.id uids).map
      fun row => { row := row, grafanaInstance := gi }, w)) ∧ ∀ t ∈ ts, t.IsOf gi.id := by
  rw [findExistingGrafanaDashboards, Traced.bind_of_eq_ok (resolveGrafanaInstanceByLabel_some h)]
  dsimp only
  by_cases hrows : w.dashboardsOf gi.id uids = []
  · rw [Traced.bind_of_eq_ok (readDashboards_nil hrows), hrows]
    exact ⟨_, rfl, List.forall_mem_singleton.2 rfl⟩
  · rw [Traced.bind_of_eq_ok (readDashboards_of_ne_nil hrows)]
    exact ⟨_, rfl, List.forall_mem_cons.2 ⟨rfl, List.forall_mem_singleton.2 rfl⟩⟩

theorem process_of_nil (happs : w.applicationDashboardsFor md5 testRun autoConfigDashboard vars
      template.grafanaInstance.label = []) :
    processSingleVariableSet md5 api testRun autoConfigDashboard vars own template w =
      handleNoApplicationDashboards md5 api testRun autoConfigDashboard vars own template w := by
  rw [processSingleVariableSet, findApplicationDashboards, Traced.bind_of_eq_ok rfl]
  dsimp only
  rw [happs]
  rfl

theorem process_of_cons {rest : List ApplicationDashboard}
    (happs : w.applicationDashboardsFor md5 testRun autoConfigDashboard vars
      template.grafanaInstance.label = applicationDashboard :: rest) :
    processSingleVariableSet md5 api testRun autoConfigDashboard vars own template w =
      handleExistingApplicationDashboards testRun autoConfigDashboard
        (applicationDashboard :: rest) applicationDashboard own vars template w := by
  rw [processSingleVariableSet, findApplicationDashboards, Traced.bind_of_eq_ok rfl]
  dsimp only
  rw [happs]
  rfl

/-- The application dashboards are stored in this pass, or, after the dashboard was created, in the
    next one. -/
def StoresIn (process : Auto Unit) (w : World) : Prop :=
  process.Reaches .store w ∨ ∃ w', process.Returns w () w' ∧ process.Reaches .store w'

theorem existing_of_singleton (applicationDashboards : List ApplicationDashboard)
    (template : Found) (hresolve : w.resolve own.label own.organizationId = some own)
    (hone : w.LinksInside testRun own own.label)
    (hseparate : w.LinksInside testRun own (linkLabel own.label))
    (hrows : w.dashboardsOf own.id [applicationDashboard.dashboardUid] = [row]) :
    (handleExistingApplicationDashboards testRun autoConfigDashboard applicationDashboards
        applicationDashboard own vars template).Within (Touch.IsOf own.id) w ∧
      (handleExistingApplicationDashboards testRun autoConfigDashboard applicationDashboards
        applicationDashboard own vars template).Reaches .store w := by
  have hfind := findGrafanaDashboardOrNull_singleton hresolve hrows
  constructor
  · refine Traced.within_bind ?_ fun found w' h => ?_
    · rw [Traced.Within, hfind]
      exact List.forall_mem_cons.2 ⟨rfl, List.forall_mem_singleton.2 rfl⟩
    · rw [Traced.Returns, hfind] at h
      cases h
      exact store_within hone hseparate
  · have hreturns : (findGrafanaDashboardOrNull own.label [applicationDashboard.dashboardUid]
        own.organizationId).Returns w (some { row := row, grafanaInstance := own }) w := by
      rw [Traced.Returns, hfind]
    exact Traced.reaches_bind_of_returns hreturns store_reaches

/-- Without its dashboard, an application dashboard is left as it is. -/
theorem existing_of_ne_singleton (applicationDashboards : List ApplicationDashboard)
    (template : Found) (hresolve : w.resolve own.label own.organizationId = some own)
    (hrows : ¬∃ row, w.dashboardsOf own.id [applicationDashboard.dashboardUid] = [row]) :
    (handleExistingApplicationDashboards testRun autoConfigDashboard applicationDashboards
        applicationDashboard own vars template).Within (· ≠ .store) w ∧
      ∀ w', (handleExistingApplicationDashboards testRun autoConfigDashboard
        applicationDashboards applicationDashboard own vars template).Returns w () w' →
          w' = w := by
  rw [Traced.Within, handleExistingApplicationDashboards]
  rcases hdata : w.dashboardsOf own.id [applicationDashboard.dashboardUid] with
    _ | ⟨row, _ | ⟨row', rest⟩⟩
  · rw [Traced.bind_of_eq_ok (findGrafanaDashboardOrNull_nil hresolve hdata)]
    refine ⟨List.forall_mem_singleton.2 (by simp), fun w' h => ?_⟩
    rw [Traced.Returns, Traced.bind_of_eq_ok (findGrafanaDashboardOrNull_nil hresolve hdata)] at h
    cases h
    rfl
  · exact absurd ⟨row, hdata⟩ hrows
  · obtain ⟨message, hmany⟩ := findGrafanaDashboardOrNull_many hresolve (by rw [hdata]; simp)
    rw [Traced.bind_of_eq_error hmany]
    refine ⟨by simp, fun w' h => ?_⟩
    rw [Traced.Returns, Traced.bind_of_eq_error hmany] at h
    cases h

theorem none_of_shared (hresolve : w.resolve own.label none = none)
    (htemplate : template.grafanaInstance = own) :
    handleNoApplicationDashboards md5 api testRun autoConfigDashboard vars own template w =
      createAndStoreDashboards md5 api testRun autoConfigDashboard own vars w := by
  rw [handleNoApplicationDashboards, findExistingGrafanaDashboardsByResolvedUid, htemplate,
    Traced.bind_of_eq_ok (findExisting_none hresolve)]
  rfl

/-- Where other organizations have the label, nothing is stored: a template is not found, and
    another dashboard is created anew. -/
theorem createAndStore_of_shared (hresolve : w.resolve own.label none = none)
    (hlabel : autoConfigDashboard.grafanaLabel = own.label) :
    (createAndStoreDashboards md5 api testRun autoConfigDashboard own vars).Within (· ≠ .store) w ∧
      ∀ w', (createAndStoreDashboards md5 api testRun autoConfigDashboard own vars).Returns w ()
        w' → w.AlikeLinks w' := by
  rw [createAndStoreDashboards]
  by_cases hreadOnly : autoConfigDashboard.readOnly = true
  · rw [if_pos hreadOnly]
    obtain ⟨message, hfind⟩ := findGrafanaDashboard_none [autoConfigDashboard.dashboardUid] hresolve
    have herror : handleReadOnlyDashboard testRun autoConfigDashboard own w =
        ([], .error message) := by
      rw [handleReadOnlyDashboard, hlabel, Traced.bind_of_eq_error hfind]
    rw [Traced.Within, Traced.bind_of_eq_error herror]
    refine ⟨List.forall_mem_nil _, fun w' h => ?_⟩
    rw [Traced.Returns, Traced.bind_of_eq_error herror] at h
    cases h
  · rw [if_neg hreadOnly]
    refine ⟨Traced.within_bind createNew_within_ne_store fun _ _ _ => Traced.within_pure, ?_⟩
    intro w' h
    exact Traced.keeps_bind createNew_keeps (fun _ => Traced.keeps_pure) w () w' ⟨⟨rfl, rfl⟩, rfl⟩ h

/-- Where no other organization has the label, a dashboard that is not there, or a template, is
    seen to; -/
theorem none_of_own_create (hresolve : w.resolve own.label none = some own)
    (htemplate : template.grafanaInstance = own)
    (hcreate :
      w.dashboardsOf own.id [createDashboardUid md5 testRun autoConfigDashboard vars] = [] ∨
        autoConfigDashboard.readOnly = true) : ∃ ts,
    (handleNoApplicationDashboards md5 api testRun autoConfigDashboard vars own template).GoesOn
        (createAndStoreDashboards md5 api testRun autoConfigDashboard own vars) w ts ∧
      ∀ t ∈ ts, t.IsOf own.id := by
  obtain ⟨ts, hfind, hts⟩ := findExisting_some
    [createDashboardUid md5 testRun autoConfigDashboard vars] hresolve
  refine ⟨ts, ?_, hts⟩
  rw [Traced.GoesOn, handleNoApplicationDashboards,
    findExistingGrafanaDashboardsByResolvedUid, htemplate,
    Traced.bind_of_eq_ok hfind]
  match hrows : w.dashboardsOf own.id [createDashboardUid md5 testRun autoConfigDashboard vars] with
  | [] => rfl
  | row :: rest =>
    have hreadOnly := hcreate.resolve_left (by rw [hrows]; exact List.cons_ne_nil _ _)
    dsimp only [List.map]
    rw [if_pos hreadOnly]

/-- and one that is there gets its application dashboards. -/
theorem none_of_own_store {rest : List StoredDashboard}
    (hresolve : w.resolve own.label none = some own) (htemplate : template.grafanaInstance = own)
    (hrows : w.dashboardsOf own.id [createDashboardUid md5 testRun autoConfigDashboard vars] =
      row :: rest) (hreadOnly : autoConfigDashboard.readOnly = false) : ∃ ts,
    (handleNoApplicationDashboards md5 api testRun autoConfigDashboard vars own template).GoesOn
        (storeApplicationDashboards testRun autoConfigDashboard
          { row := row, grafanaInstance := own } vars []
          ((truthy row.templateDashboardUid).getD row.uid) template.row.tags) w ts ∧
      ∀ t ∈ ts, t.IsOf own.id := by
  obtain ⟨ts, hfind, hts⟩ := findExisting_some
    [createDashboardUid md5 testRun autoConfigDashboard vars] hresolve
  refine ⟨ts, ?_, hts⟩
  rw [Traced.GoesOn, handleNoApplicationDashboards,
    findExistingGrafanaDashboardsByResolvedUid, htemplate,
    Traced.bind_of_eq_ok hfind, hrows]
  dsimp only [List.map]
  rw [if_neg (by rw [hreadOnly]; exact Bool.false_ne_true)]

/-- A template is stored for the system, inside the instance unless separate dashboards are linked
    elsewhere. -/
theorem createAndStore_of_readOnly (hreadOnly : autoConfigDashboard.readOnly = true)
    (hlabel : autoConfigDashboard.grafanaLabel = own.label)
    (hresolve : w.resolve own.label none = some own)
    (hids : (w.grafanaDashboards.map StoredDashboard.id).Nodup)
    (hrows : w.dashboardsOf own.id [autoConfigDashboard.dashboardUid] = [row])
    (hone : w.LinksInside testRun own own.label) :
    ((createAndStoreDashboards md5 api testRun autoConfigDashboard own vars).Within
        (Touch.IsOf own.id) w ↔
      ¬w.LinksElsewhere testRun autoConfigDashboard vars own autoConfigDashboard.dashboardUid) ∧
    (createAndStoreDashboards md5 api testRun autoConfigDashboard own vars).Reaches .store w := by
  obtain ⟨row', w', hok, halike, huid⟩ := readOnly_apply testRun hlabel hresolve hids
    hrows
  have hreturns : (handleReadOnlyDashboard testRun autoConfigDashboard own).Returns w
      { row := row', grafanaInstance := own } w' := by
    rw [Traced.Returns, hok]
  have hwithin : (handleReadOnlyDashboard testRun autoConfigDashboard own).Within
      (Touch.IsOf own.id) w := by
    rw [Traced.Within, hok]
    simp [Touch.IsOf]
  have hone' : w'.LinksInside testRun own own.label := by
    rwa [World.LinksInside, halike.1.resolve, halike.1.findSystem]
  rw [createAndStoreDashboards, if_pos hreadOnly]
  constructor
  · refine ((Traced.within_bind_iff hreturns).trans (and_iff_right hwithin)).trans ?_
    refine (store_within_iff rfl hone').trans ?_
    rw [halike.linksElsewhere_iff, huid]
  · exact Traced.reaches_bind_of_returns hreturns store_reaches

/-- Another dashboard is created inside the instance, and is found there by the next pass. -/
theorem createAndStore_of_create (hreadOnly : autoConfigDashboard.readOnly = false)
    (hfirst : w.instances.rows.find? (fun gi => gi.label = own.label) = some own)
    (hresolve : w.resolve own.label own.organizationId = some own)
    (hanswers : api.Answers own.id autoConfigDashboard.dashboardUid testRun.sutName
      (createDashboardUid md5 testRun autoConfigDashboard vars)) :
    (createAndStoreDashboards md5 api testRun autoConfigDashboard own vars).Within
        (Touch.IsOf own.id) w ∧
      ∃ w', (createAndStoreDashboards md5 api testRun autoConfigDashboard own vars).Returns w ()
          w' ∧ w.AlikeLinks w' ∧
        w'.dashboardsOf own.id [createDashboardUid md5 testRun autoConfigDashboard vars] ≠ [] := by
  obtain ⟨found, w', hok, hrows⟩ := createNew_apply hfirst hresolve hanswers
  have hreturns : (createNewDashboard md5 api testRun autoConfigDashboard own vars).Returns w
      found w' := by
    rw [Traced.Returns, hok]
  rw [createAndStoreDashboards, if_neg (by rw [hreadOnly]; exact Bool.false_ne_true)]
  refine ⟨(Traced.within_bind_iff hreturns).2 ⟨?_, Traced.within_pure⟩, w',
    Traced.returns_bind hreturns rfl, ?_, hrows⟩
  · rw [Traced.Within, hok]
    simp [Touch.IsOf]
  · exact createNew_keeps w found w' ⟨⟨rfl, rfl⟩, rfl⟩ hreturns

/-! ## Staying inside the organization -/

/-- The uid by which new application dashboards are stored, if their dashboard is there. -/
def World.storedUid (w : World) (md5 : String → String) (testRun : TestRun)
    (autoConfigDashboard : ProfileGrafanaDashboard) (vars : List DashboardVariable)
    (own : GrafanaInstance) : Option String :=
  if autoConfigDashboard.readOnly then some autoConfigDashboard.dashboardUid
  else (w.dashboardsOf own.id
    [createDashboardUid md5 testRun autoConfigDashboard vars]).head?.map fun row =>
      (truthy row.templateDashboardUid).getD row.uid

/-- The application dashboards exist, with their dashboard at the instance; or no other
    organization has its label, and those that are stored are not linked elsewhere. -/
def World.IsConfigurable (w : World) (md5 : String → String) (testRun : TestRun)
    (autoConfigDashboard : ProfileGrafanaDashboard) (vars : List DashboardVariable)
    (own : GrafanaInstance) : Prop :=
  match w.applicationDashboardsFor md5 testRun autoConfigDashboard vars own.label with
  | applicationDashboard :: _ =>
    ∃ row, w.dashboardsOf own.id [applicationDashboard.dashboardUid] = [row]
  | [] =>
    w.IsOwnLabel own ∧ ∀ uid ∈ w.storedUid md5 testRun autoConfigDashboard vars own,
      ¬w.LinksElsewhere testRun autoConfigDashboard vars own uid

/-- The template that is returned is the dashboard of the instance that the label means. -/
theorem of_template
    (h : (getAndValidateTemplateDashboard testRun autoConfigDashboard).Returns w (some template)
      w) :
    w.resolve autoConfigDashboard.grafanaLabel testRun.organizationId =
        some template.grafanaInstance ∧
      w.dashboardsOf template.grafanaInstance.id [autoConfigDashboard.dashboardUid] =
        [template.row] := by
  refine of_findGrafanaDashboardOrNull ?_
  rcases Traced.error_or_returns (findGrafanaDashboardOrNull autoConfigDashboard.grafanaLabel
    [autoConfigDashboard.dashboardUid] testRun.organizationId) w with ⟨message, herror⟩ |
      ⟨found?, w', hfound⟩
  · rw [Traced.Returns, getAndValidateTemplateDashboard, Traced.bind_of_error herror] at h
    cases h
  · rw [Traced.Returns, getAndValidateTemplateDashboard, Traced.bind_of_returns hfound] at h
    cases found? with
    | none => cases h
    | some found =>
      dsimp only at h
      split at h
      · cases h
      · split at h
        · cases h
        · cases h
          exact hfound

/-- The dashboard of the instance is returned if it is tagged as a template, and has its JSON. -/
theorem template_of
    (h : w.resolve autoConfigDashboard.grafanaLabel testRun.organizationId = some gi)
    (hrows : w.dashboardsOf gi.id [autoConfigDashboard.dashboardUid] = [row])
    (htag : ((row.tags.getD []).any fun tag => tag.toLower = PERFANA_TEMPLATE_TAG) = true)
    (hjson : row.grafanaJson.isSome = true) :
    (getAndValidateTemplateDashboard testRun autoConfigDashboard).Returns w
      (some { row := row, grafanaInstance := gi }) w := by
  rw [Traced.Returns, getAndValidateTemplateDashboard,
    Traced.bind_of_eq_ok (findGrafanaDashboardOrNull_singleton h hrows)]
  dsimp only
  rw [htag, if_neg (by decide), if_neg (by rwa [Option.isNone_iff_eq_none, ← ne_eq,
    Option.ne_none_iff_isSome])]
  rfl

/-- If no other organization has its label, an instance is the first with it. -/
theorem find?_own (hown : own ∈ w.instances.rows) (h : w.IsOwnLabel own) :
    w.instances.rows.find? (fun gi => gi.label = own.label) = some own := by
  have hsome : (w.instances.rows.find? fun gi => gi.label = own.label).isSome = true :=
    List.find?_isSome.2 ⟨own, hown, decide_eq_true rfl⟩
  obtain ⟨gi, hgi⟩ := Option.isSome_iff_exists.1 hsome
  have hlabel := List.find?_some hgi
  have hmem := List.mem_of_find?_eq_some hgi
  rw [hgi, eq_of_label hmem hown (of_decide_eq_true hlabel)
    (h gi hmem (of_decide_eq_true hlabel))]

/-- With application dashboards, their own dashboard decides. -/
theorem process_iff_of_cons {rest : List ApplicationDashboard}
    (happs : w.applicationDashboardsFor md5 testRun autoConfigDashboard vars own.label =
      applicationDashboard :: rest)
    (hscoped : w.resolve own.label own.organizationId = some own)
    (hone : w.LinksInside testRun own own.label) (htemplate : template.grafanaInstance = own) :
    (processSingleVariableSet md5 api testRun autoConfigDashboard vars own template).Within
          (Touch.IsOf own.id) w ∧
        StoresIn (processSingleVariableSet md5 api testRun autoConfigDashboard vars own template)
          w ↔
      ∃ row, w.dashboardsOf own.id [applicationDashboard.dashboardUid] = [row] := by
  have hlabel : linkLabel own.label = own.label := by
    refine if_neg fun hempty => ?_
    rw [World.applicationDashboardsFor, if_pos hempty] at happs
    cases happs
  have heq : processSingleVariableSet md5 api testRun autoConfigDashboard vars own template w =
      handleExistingApplicationDashboards testRun autoConfigDashboard
        (applicationDashboard :: rest) applicationDashboard own vars template w :=
    process_of_cons _ _ _ _ _ (by rwa [htemplate])
  constructor
  · rintro ⟨-, hstore⟩
    by_contra hrows
    obtain ⟨hne, hsame⟩ := existing_of_ne_singleton testRun autoConfigDashboard vars
      (applicationDashboard :: rest) template hscoped hrows
    rw [Traced.Within, ← heq] at hne
    rcases hstore with hstore | ⟨w', hreturns, hstore⟩
    · exact hne _ hstore rfl
    · rw [Traced.Returns, heq] at hreturns
      rw [hsame w' hreturns] at hstore
      exact hne _ hstore rfl
  · rintro ⟨row, hrows⟩
    obtain ⟨hwithin, hreaches⟩ := existing_of_singleton testRun autoConfigDashboard vars
      (applicationDashboard :: rest) template hscoped hone (hlabel.symm ▸ hone) hrows
    rw [Traced.Within, ← heq] at hwithin
    rw [Traced.Reaches, ← heq] at hreaches
    exact ⟨hwithin, .inl hreaches⟩

/-- Without, nothing is stored where another organization has the label: not by the next pass,
    either. -/
theorem not_storesIn_of_shared
    (happs : w.applicationDashboardsFor md5 testRun autoConfigDashboard vars own.label = [])
    (hmem : own ∈ w.instances.rows) (hshared : ¬w.IsOwnLabel own)
    (hlabel : autoConfigDashboard.grafanaLabel = own.label)
    (htemplate : template.grafanaInstance = own) :
    ¬StoresIn (processSingleVariableSet md5 api testRun autoConfigDashboard vars own template)
      w := by
  have hpass : ∀ s, w.AlikeLinks s →
      processSingleVariableSet md5 api testRun autoConfigDashboard vars own template s =
        createAndStoreDashboards md5 api testRun autoConfigDashboard own vars s ∧
      s.resolve own.label none = none := by
    intro s halike
    have hresolve := (halike.1.resolve own.label none).trans (resolve_ambiguous hmem hshared)
    have happs' := (halike.applicationDashboardsFor own.label).trans happs
    refine ⟨(process_of_nil _ _ _ _ _ ?_).trans (none_of_shared _ _ _ _ _ hresolve htemplate),
      hresolve⟩
    rwa [htemplate]
  obtain ⟨heq, hresolve⟩ := hpass w ⟨⟨rfl, rfl⟩, rfl⟩
  obtain ⟨hne, hkeep⟩ := createAndStore_of_shared testRun autoConfigDashboard vars md5 api
    hresolve hlabel
  rintro (hstore | ⟨w', hreturns, hstore⟩)
  · rw [Traced.Reaches, heq] at hstore
    exact hne _ hstore rfl
  · rw [Traced.Returns, heq] at hreturns
    obtain ⟨heq', hresolve'⟩ := hpass w' (hkeep w' hreturns)
    rw [Traced.Reaches, heq'] at hstore
    exact (createAndStore_of_shared _ _ _ _ _ hresolve' hlabel).1 _ hstore rfl

/-- Where no other organization has the label, they are stored, linked inside the instance unless
    separate ones are linked elsewhere. -/
theorem process_iff_of_own
    (happs : w.applicationDashboardsFor md5 testRun autoConfigDashboard vars own.label = [])
    (hmem : own ∈ w.instances.rows) (hownlabel : w.IsOwnLabel own)
    (hscoped : w.resolve own.label own.organizationId = some own)
    (hone : w.LinksInside testRun own own.label)
    (hlabel : autoConfigDashboard.grafanaLabel = own.label)
    (htemplate : template.grafanaInstance = own)
    (hids : (w.grafanaDashboards.map StoredDashboard.id).Nodup)
    (hrows : w.dashboardsOf own.id [autoConfigDashboard.dashboardUid] = [template.row])
    (hanswers : api.Answers own.id autoConfigDashboard.dashboardUid testRun.sutName
      (createDashboardUid md5 testRun autoConfigDashboard vars)) :
    (processSingleVariableSet md5 api testRun autoConfigDashboard vars own template).Within
          (Touch.IsOf own.id) w ∧
        StoresIn (processSingleVariableSet md5 api testRun autoConfigDashboard vars own template)
          w ↔
      ∀ uid ∈ w.storedUid md5 testRun autoConfigDashboard vars own,
        ¬w.LinksElsewhere testRun autoConfigDashboard vars own uid := by
  have hresolve := resolve_unscoped hmem hownlabel
  have heq : processSingleVariableSet md5 api testRun autoConfigDashboard vars own template w =
      handleNoApplicationDashboards md5 api testRun autoConfigDashboard vars own template w :=
    process_of_nil _ _ _ _ _ (by rwa [htemplate])
  cases hreadOnly : autoConfigDashboard.readOnly with
  | true =>
    obtain ⟨ts, hgoes, hts⟩ := none_of_own_create testRun autoConfigDashboard vars md5 api
      hresolve htemplate (.inr hreadOnly)
    obtain ⟨hwithin, hreaches⟩ := createAndStore_of_readOnly testRun autoConfigDashboard vars
      md5 api hreadOnly hlabel hresolve hids hrows hone
    have hpass := (hgoes.within_iff hts).trans hwithin
    rw [World.storedUid, if_pos hreadOnly, Traced.Within, heq, StoresIn, Traced.Reaches, heq]
    refine ⟨fun h uid huid => ?_, fun h => ⟨hpass.2 (h _ rfl), .inl (hgoes.reaches hreaches)⟩⟩
    cases huid
    exact hpass.1 h.1
  | false =>
    have hneg : ¬autoConfigDashboard.readOnly = true := by
      rw [hreadOnly]
      exact Bool.false_ne_true
    rw [World.storedUid, if_neg hneg, Traced.Within, heq]
    rcases hdata : w.dashboardsOf own.id
      [createDashboardUid md5 testRun autoConfigDashboard vars] with _ | ⟨row, rest⟩
    · -- The dashboard is created, and found by the next pass.
      refine iff_of_true ?_ fun _ h => by cases h
      obtain ⟨ts, hgoes, hts⟩ := none_of_own_create testRun autoConfigDashboard vars md5 api
        hresolve htemplate (.inl hdata)
      obtain ⟨hwithin, w', hreturns, halike, hthere⟩ := createAndStore_of_create testRun
        autoConfigDashboard vars md5 api hreadOnly (find?_own hmem hownlabel) hscoped hanswers
      refine ⟨(hgoes.within_iff hts).2 hwithin, .inr ⟨w', ?_, ?_⟩⟩
      · rw [Traced.Returns, heq]
        exact hgoes.returns hreturns
      · obtain ⟨row, rest, hrow⟩ := List.exists_cons_of_ne_nil hthere
        obtain ⟨ts', hgoes', -⟩ := none_of_own_store testRun autoConfigDashboard vars md5 api
          ((halike.1.resolve own.label none).trans hresolve) htemplate hrow hreadOnly
        rw [Traced.Reaches, process_of_nil]
        · exact hgoes'.reaches store_reaches
        · rwa [htemplate, halike.applicationDashboardsFor]
    · obtain ⟨ts, hgoes, hts⟩ := none_of_own_store testRun autoConfigDashboard vars md5 api
        hresolve htemplate hdata hreadOnly
      have hpass := (hgoes.within_iff hts).trans (store_within_iff rfl hone)
      have hstore := hgoes.reaches (t := .store) store_reaches
      rw [StoresIn, Traced.Reaches, heq]
      refine ⟨fun h uid huid => ?_, fun h => ⟨hpass.2 (h _ rfl), .inl hstore⟩⟩
      cases huid
      exact hpass.1 h.1

/-- A run stays inside its organization, and gets its application dashboards, if and only if they
    exist, with their dashboard at its own instance, or no other organization has the label. -/
theorem process_iff (horg : (truthy testRun.organizationId).isSome = true)
    (hown : w.resolve autoConfigDashboard.grafanaLabel testRun.organizationId = some own)
    (hids : (w.grafanaDashboards.map StoredDashboard.id).Nodup)
    (htemplate : (getAndValidateTemplateDashboard testRun autoConfigDashboard).Returns w
      (some template) w)
    (hanswers : api.Answers own.id autoConfigDashboard.dashboardUid testRun.sutName
      (createDashboardUid md5 testRun autoConfigDashboard vars)) :
    (processSingleVariableSet md5 api testRun autoConfigDashboard vars own template).Within
          (Touch.IsOf own.id) w ∧
        StoresIn (processSingleVariableSet md5 api testRun autoConfigDashboard vars own template)
          w ↔
      w.IsConfigurable md5 testRun autoConfigDashboard vars own := by
  obtain ⟨hmem, hlabel, hownorg⟩ := of_resolve hown
  obtain ⟨hinstance, hrows⟩ := of_template testRun autoConfigDashboard htemplate
  have htemplate : template.grafanaInstance = own := Option.some.inj (hinstance.symm.trans hown)
  have hsame : own.organizationId = testRun.organizationId := by
    obtain ⟨org, horg⟩ := Option.isSome_iff_exists.1 horg
    exact (hownorg org horg).trans (Option.filter_eq_some_iff.1 horg).1.symm
  have hscoped : w.resolve own.label own.organizationId = some own := by
    rwa [hsame, hlabel]
  have hone : w.LinksInside testRun own own.label := by
    intro _ gi hgi
    rw [hlabel, hown] at hgi
    exact congrArg GrafanaInstance.id (Option.some.inj hgi).symm
  rw [World.IsConfigurable]
  match happs : w.applicationDashboardsFor md5 testRun autoConfigDashboard vars own.label with
  | applicationDashboard :: rest =>
    exact process_iff_of_cons testRun autoConfigDashboard vars md5 api happs hscoped hone htemplate
  | [] =>
    by_cases hownlabel : w.IsOwnLabel own
    · rw [htemplate] at hrows
      refine (process_iff_of_own testRun autoConfigDashboard vars md5 api happs hmem hownlabel
        hscoped hone hlabel.symm htemplate hids hrows hanswers).trans ?_
      exact (and_iff_right hownlabel).symm
    · refine iff_of_false (fun h => ?_) fun h => hownlabel h.1
      exact not_storesIn_of_shared testRun autoConfigDashboard vars md5 api happs hmem hownlabel
        hlabel.symm htemplate h.2

end

/-! ## Two organizations with one label -/

/-- A dashboard as Grafana has it. -/
def jvm (uid : String) : DashboardDetails :=
  { id := 1, uid := uid, title := "JVM", tags := some [PERFANA_TEMPLATE_TAG], panels := none
    templating := none, url := "/d/" ++ uid, slug := uid, updated := 0 }

/-- A Grafana that creates dashboards. -/
def creatingApi : GrafanaApi where
  getDashboardByUid := fun _ uid => .ok (jvm uid)
  createOrFindFolder := fun _ name => .ok (1, name)
  createDashboard := fun _ _ _ => .ok ()

def ownGrafana : GrafanaInstance :=
  { id := "own", label := "Default", organizationId := some "acme" }

/-- The instance of another organization, with a label. -/
def otherGrafana (label : String) : GrafanaInstance :=
  { id := "other", label := label, organizationId := some "globex" }

/-- The template is in the Grafana of the organization, and another organization has one with a
    label. -/
def twoTenants (label : String) : World where
  instances :=
    { rows := [otherGrafana label, ownGrafana]
      nodup_id := by simp [otherGrafana, ownGrafana]
      nodup_label := by simp [otherGrafana, ownGrafana] }
  systems := [{ id := "s1", name := "webshop", organizationId := some "acme" }]
  grafanaDashboards :=
    [{ toGrafanaDashboard := fill ownGrafana (jvm "jvm") "prometheus" newDashboard, id := 1
       templateDashboardUid := none }]
  applicationDashboards := []
  nextId := 2

/-- A dashboard of a profile. -/
def jvmOfProfile (readOnly : Bool) : ProfileGrafanaDashboard where
  dashboardName := "JVM"
  dashboardUid := "jvm"
  grafanaLabel := "Default"
  createSeparateDashboardForVariable := none
  setHardcodedValueForVariables := []
  readOnly := readOnly

def webshopRun : TestRun where
  systemUnderTestId := "s1"
  systemUnderTestName := some "webshop"
  testEnvironment := "acc"
  organizationId := some "acme"

/-- The template, where it is looked for. -/
def jvmTemplate : Found :=
  { row :=
      { toGrafanaDashboard := fill ownGrafana (jvm "jvm") "prometheus" newDashboard, id := 1
        templateDashboardUid := none }
    grafanaInstance := ownGrafana }

theorem jvmTemplate_returns (label : String) (readOnly : Bool)
    (h : (twoTenants label).resolve "Default" webshopRun.organizationId = some ownGrafana) :
    (getAndValidateTemplateDashboard webshopRun (jvmOfProfile readOnly)).Returns
      (twoTenants label) (some jvmTemplate) (twoTenants label) :=
  template_of webshopRun (jvmOfProfile readOnly) h rfl (by decide +kernel) rfl

/-- The variables that every run has. -/
def webshopVariables : List DashboardVariable :=
  [{ name := "system_under_test", values := ["webshop"] },
    { name := "test_environment", values := ["acc"] }]

def processWebshop (readOnly : Bool) : Auto Unit :=
  processSingleVariableSet id creatingApi webshopRun (jvmOfProfile readOnly) webshopVariables
    ownGrafana jvmTemplate

/-- With a label of its own, the organization gets the dashboard, and nothing else is touched. -/
theorem process_webshop :
    (processWebshop false).Within (Touch.IsOf "own") (twoTenants "Globex") ∧
      StoresIn (processWebshop false) (twoTenants "Globex") := by
  have hown : (twoTenants "Globex").resolve "Default" webshopRun.organizationId =
      some ownGrafana := rfl
  have hanswers : creatingApi.Answers "own" "jvm" webshopRun.sutName
      (createDashboardUid id webshopRun (jvmOfProfile false) webshopVariables) :=
    ⟨⟨_, rfl⟩, ⟨_, rfl⟩, fun _ _ => rfl, ⟨_, rfl⟩⟩
  refine (process_iff webshopRun (jvmOfProfile false) webshopVariables id creatingApi
    (by decide) hown (by decide) (jvmTemplate_returns "Globex" false hown) hanswers).2
      (And.intro ?_ ?_)
  · intro gi hgi hlabel
    rcases List.mem_pair.1 hgi with rfl | rfl
    · exact absurd hlabel (by decide)
    · rfl
  · rintro uid - ⟨_, ⟨⟩, -⟩

/-- With a shared label, the dashboard is created in the Grafana of the other organization; or, if
    it is the template, no application dashboard is stored. -/
theorem shared_label_escapes :
    (twoTenants "Default").resolve "Default" webshopRun.organizationId = some ownGrafana ∧
      (∀ readOnly, (getAndValidateTemplateDashboard webshopRun (jvmOfProfile readOnly)).Returns
        (twoTenants "Default") (some jvmTemplate) (twoTenants "Default")) ∧
      ¬(processWebshop false).Within (Touch.IsOf "own") (twoTenants "Default") ∧
      ¬StoresIn (processWebshop true) (twoTenants "Default") := by
  have hown : (twoTenants "Default").resolve "Default" webshopRun.organizationId =
      some ownGrafana := rfl
  refine ⟨hown, fun readOnly => jvmTemplate_returns "Default" readOnly hown, fun h => ?_, ?_⟩
  · have htouch : Touch.grafana "other" ∈ (processWebshop false (twoTenants "Default")).1 := by
      decide +kernel
    have hid : "other" = "own" := h _ htouch
    exact absurd hid (by decide)
  · have hreaches : ¬(processWebshop true).Reaches .store (twoTenants "Default") := by
      have hmem : Touch.store ∉ (processWebshop true (twoTenants "Default")).1 := by
        decide +kernel
      exact hmem
    have hfails : (processWebshop true (twoTenants "Default")).2.isOk = false := by
      decide +kernel
    rintro (hstore | ⟨w', hreturns, -⟩)
    · exact hreaches hstore
    · rw [show (processWebshop true (twoTenants "Default")).2 = .ok ((), w') from hreturns]
        at hfails
      cases hfails

end Perfana.AutoConfig
