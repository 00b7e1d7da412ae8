import Perfana.GrafanaSync.Configurator

/-!
# What processing a set of variables leaves

The processing of a set of variables reads the application dashboards and the stored dashboards, and
then leaves things as they were, creates a dashboard, or stores application dashboards.

* `dashboardsWith_of_insert`: an insert leaves one application dashboard with its label, if there
  was at most one, and leaves those with other labels alone;
* `processed_of_returns`: what was done, case by case.
-/

namespace Perfana.AutoConfig

open GrafanaSync

/-! ## Storing a row -/

/-- The row that data is stored as. -/
def ApplicationDashboardInsertData.row (data : ApplicationDashboardInsertData)
    (sut : SystemUnderTest) (gi : GrafanaInstance) (grafanaDashboardId : Option ℕ) (id : ℕ) :
    ApplicationDashboard where
  id := id
  systemUnderTestId := sut.id
  testEnvironment := data.testEnvironment
  grafanaInstanceId := gi.id
  grafanaDashboardId := grafanaDashboardId
  dashboardName := data.dashboardName
  dashboardLabel := data.dashboardLabel
  dashboardId := data.dashboardId
  dashboardUid := data.dashboardUid
  templateDashboardUid := data.templateDashboardUid
  tags := data.tags
  variableValues := some data.variableValues
  organizationId := data.organizationId

/-- The row is an application dashboard of the system and the environment of a run, at an instance
    with a label, that has a label itself. -/
def World.isOf (w : World) (testRun : TestRun) (grafana dashboardLabel : String)
    (ad : ApplicationDashboard) : Bool :=
  (w.systems.any fun sut => sut.id = ad.systemUnderTestId && sut.name = testRun.sutName) &&
    (w.instances.rows.any fun gi => gi.id = ad.grafanaInstanceId && gi.label = grafana) &&
    ad.testEnvironment = testRun.testEnvironment && ad.dashboardLabel = dashboardLabel

def World.dashboardsWith (w : World) (testRun : TestRun) (grafana dashboardLabel : String) :
    List ApplicationDashboard :=
  w.applicationDashboards.filter (w.isOf testRun grafana dashboardLabel)

section

variable {w w' : World} {own gi : GrafanaInstance} {data : ApplicationDashboardInsertData}
  {testRun : TestRun} {autoConfigDashboard : ProfileGrafanaDashboard}
  {vars stored : List DashboardVariable} {grafana uid label label' : String}
  {ad : ApplicationDashboard}

theorem World.Alike.isOf (h : w.Alike w') : w'.isOf testRun grafana label =
    w.isOf testRun grafana label := by
  funext ad
  rw [World.isOf, World.isOf, h.1, h.2]

/-- What a lookup finds are those of the uid that the organization of the run may see. -/
theorem applicationDashboardsOf_eq (hlabel : label ≠ "") :
    w.applicationDashboardsOf testRun grafana uid label =
      (w.dashboardsWith testRun grafana label).filter fun ad => ad.dashboardUid = uid &&
        (truthy testRun.organizationId).all fun org => ad.organizationId.all (· = org) := by
  rw [World.applicationDashboardsOf, World.dashboardsWith, List.filter_filter]
  refine List.filter_congr fun ad _ => ?_
  rw [World.isOf, decide_eq_false hlabel, Bool.false_or]
  ac_rfl

/-- The row is stored for the run. -/
structure StoredAs (w : World) (testRun : TestRun) (own : GrafanaInstance) (uid label : String)
    (vars : List DashboardVariable) (ad : ApplicationDashboard) : Prop where
  system : ∃ sut, w.findSystem testRun.sutName testRun.organizationId = some sut ∧
    ad.systemUnderTestId = sut.id
  environment : ad.testEnvironment = testRun.testEnvironment
  grafana : ad.grafanaInstanceId = own.id
  uid : ad.dashboardUid = uid
  label : ad.dashboardLabel = label
  organization : ad.organizationId = testRun.organizationId
  variableValues : ad.variableValues = some vars

theorem StoredAs.alike (h : StoredAs w testRun own uid label vars ad) (halike : w.Alike w') :
    StoredAs w' testRun own uid label vars ad :=
  { h with system := by rw [halike.findSystem]; exact h.system }

/-- It is seen by the organization of the run. -/
theorem StoredAs.isSeen (h : StoredAs w testRun own uid label vars ad) :
    ((truthy testRun.organizationId).all fun org => ad.organizationId.all (· = org)) = true := by
  rw [h.organization, Option.all_eq_true]
  intro org horg
  rw [(Option.filter_eq_some_iff.1 horg).1]
  exact decide_eq_true rfl

/-- The data is for the run. -/
structure ApplicationDashboardInsertData.IsFor (data : ApplicationDashboardInsertData)
    (testRun : TestRun) (own : GrafanaInstance) (uid label : String)
    (vars : List DashboardVariable) : Prop where
  application : data.application = testRun.sutName
  environment : data.testEnvironment = testRun.testEnvironment
  grafana : data.grafana = own.label
  uid : data.dashboardUid = uid
  label : data.dashboardLabel = label
  organization : data.organizationId = testRun.organizationId
  variableValues : data.variableValues = vars

/-- What an insert leaves. -/
theorem of_insertApplicationDashboard (h : (insertApplicationDashboard data).Returns w () w') :
    ∃ sut gi grafanaDashboardId, w.findSystem data.application data.organizationId = some sut ∧
      w.resolve data.grafana data.organizationId = some gi ∧ w.Alike w' ∧
      w'.grafanaDashboards = w.grafanaDashboards ∧
      w'.applicationDashboards = upsertFirst (data.isRow sut gi)
        (fun ad => data.row sut gi grafanaDashboardId ad.id)
        (data.row sut gi grafanaDashboardId w.nextId) w.applicationDashboards := by
  rw [insertApplicationDashboard, Traced.returns_get_bind] at h
  cases hsut : w.findSystem data.application data.organizationId with
  | none =>
    rw [hsut] at h
    exact absurd h Traced.not_returns_fail
  | some sut =>
    rw [hsut] at h
    cases hresolve : w.resolve data.grafana data.organizationId with
    | none =>
      dsimp only at h
      rw [Traced.Returns, Traced.bind_of_eq_ok (resolveGrafanaInstanceByLabel_none hresolve)] at h
      cases h
    | some gi =>
      dsimp only at h
      rw [Traced.Returns, Traced.bind_of_eq_ok (resolveGrafanaInstanceByLabel_some hresolve)] at h
      cases h
      exact ⟨sut, gi, _, rfl, rfl, ⟨rfl, rfl⟩, rfl, rfl⟩

/-- The row that data is stored as is the one of its key. -/
theorem isRow_row (sut : SystemUnderTest) (gi : GrafanaInstance) (grafanaDashboardId : Option ℕ)
    (id : ℕ) : data.isRow sut gi (data.row sut gi grafanaDashboardId id) = true := by
  simp [ApplicationDashboardInsertData.isRow, ApplicationDashboardInsertData.row]

theorem isRow_iff {sut : SystemUnderTest} : data.isRow sut gi ad = true ↔
    ad.systemUnderTestId = sut.id ∧ ad.testEnvironment = data.testEnvironment ∧
      ad.grafanaInstanceId = gi.id ∧ ad.dashboardUid = data.dashboardUid ∧
      ad.dashboardLabel = data.dashboardLabel := by
  simp only [ApplicationDashboardInsertData.isRow, Bool.and_eq_true, decide_eq_true_eq, and_assoc]

/-- A row of the key of the data is one of the run, with the label of the data. -/
theorem isOf_of_isRow {sut : SystemUnderTest} (hdata : data.IsFor testRun own uid label vars)
    (hsut : w.findSystem testRun.sutName testRun.organizationId = some sut)
    (hown : own ∈ w.instances.rows) (hrow : data.isRow sut own ad = true) :
    w.isOf testRun own.label label' ad = decide (label = label') := by
  obtain ⟨hsystem, henvironment, hinstance, -, hlabel⟩ := isRow_iff.1 hrow
  have hname := List.find?_some hsut
  have hsystems : (w.systems.any fun sut => sut.id = ad.systemUnderTestId &&
      sut.name = testRun.sutName) = true :=
    List.any_eq_true.2 ⟨sut, List.mem_of_find?_eq_some hsut, by
      rw [Bool.and_eq_true] at hname ⊢
      exact ⟨decide_eq_true hsystem.symm, hname.1⟩⟩
  have hinstances : (w.instances.rows.any fun gi => gi.id = ad.grafanaInstanceId &&
      gi.label = own.label) = true :=
    List.any_eq_true.2 ⟨own, hown, by
      rw [Bool.and_eq_true]
      exact ⟨decide_eq_true hinstance.symm, decide_eq_true rfl⟩⟩
  rw [World.isOf, hsystems, hinstances, henvironment, hdata.environment, hlabel, hdata.label]
  simp

theorem storedAs_row {sut : SystemUnderTest} (hdata : data.IsFor testRun own uid label vars)
    (hsut : w.findSystem testRun.sutName testRun.organizationId = some sut)
    (grafanaDashboardId : Option ℕ) (id : ℕ) :
    StoredAs w testRun own uid label vars (data.row sut own grafanaDashboardId id) where
  system := ⟨sut, hsut, rfl⟩
  environment := hdata.environment
  grafana := rfl
  uid := hdata.uid
  label := hdata.label
  organization := hdata.organization
  variableValues := congrArg some hdata.variableValues

/-- What an insert for the run leaves: its dashboard, if there was none with the label, or only
    that one; and those with other labels. -/
theorem dashboardsWith_of_insert (hdata : data.IsFor testRun own uid label vars)
    (hown : w.resolve own.label testRun.organizationId = some own)
    (h : (insertApplicationDashboard data).Returns w () w') :
    w.Alike w' ∧ w'.grafanaDashboards = w.grafanaDashboards ∧
      (∀ label' ≠ label, w'.dashboardsWith testRun own.label label' =
        w.dashboardsWith testRun own.label label') ∧
      ((w.dashboardsWith testRun own.label label = [] ∨ ∃ ad stored,
          w.dashboardsWith testRun own.label label = [ad] ∧
            StoredAs w testRun own uid label stored ad) →
        ∃ ad, w'.dashboardsWith testRun own.label label = [ad] ∧
          StoredAs w' testRun own uid label vars ad) := by
  obtain ⟨sut, gi, grafanaDashboardId, hsut, hgi, halike, hdashboards, happs⟩ :=
    of_insertApplicationDashboard h
  rw [hdata.application, hdata.organization] at hsut
  rw [hdata.grafana, hdata.organization, hown] at hgi
  obtain rfl := Option.some.inj hgi
  have hmem : own ∈ w.instances.rows := (of_resolve hown).1
  have hrow : ∀ {ad label'}, data.isRow sut own ad = true →
      w.isOf testRun own.label label' ad = decide (label = label') :=
    fun hrow => isOf_of_isRow hdata hsut hmem hrow
  have hnew : ∀ id, data.isRow sut own (data.row sut own grafanaDashboardId id) = true :=
    isRow_row sut own grafanaDashboardId
  refine ⟨halike, hdashboards, fun label' hne => ?_, fun hwas => ?_⟩
  · rw [World.dashboardsWith, halike.isOf, happs, World.dashboardsWith]
    refine filter_upsertFirst_of_ne (fun ad had => ?_) ?_
    · exact ⟨(hrow had).trans (decide_eq_false hne.symm),
        (hrow (hnew _)).trans (decide_eq_false hne.symm)⟩
    · exact (hrow (hnew _)).trans (decide_eq_false hne.symm)
  · obtain ⟨id, hid⟩ : ∃ id, w'.dashboardsWith testRun own.label label =
        [data.row sut own grafanaDashboardId id] := by
      rw [World.dashboardsWith, halike.isOf, happs]
      rcases hwas with hnil | ⟨ad, stored, hone, hstored⟩
      · refine ⟨_, filter_upsertFirst_of_nil hnil (fun ad had => ?_) ?_⟩
        · exact (hrow had).trans (decide_eq_true rfl)
        · exact (hrow (hnew _)).trans (decide_eq_true rfl)
      · refine ⟨_, filter_upsertFirst_of_singleton hone ?_ (fun ad had => ?_) ?_⟩
        · obtain ⟨sut', hsut', hsystem⟩ := hstored.system
          obtain rfl := Option.some.inj (hsut'.symm.trans hsut)
          exact isRow_iff.2 ⟨hsystem, hstored.environment.trans hdata.environment.symm,
            hstored.grafana, hstored.uid.trans hdata.uid.symm,
            hstored.label.trans hdata.label.symm⟩
        · exact (hrow had).trans (decide_eq_true rfl)
        · exact (hrow (hnew _)).trans (decide_eq_true rfl)
    exact ⟨_, hid, storedAs_row hdata (by rwa [halike.findSystem]) grafanaDashboardId id⟩

end

section

variable {w w' : World} {own gi : GrafanaInstance}
  {testRun : TestRun} {autoConfigDashboard : ProfileGrafanaDashboard}
  {vars : List DashboardVariable} {label templateDashboardUid separate value : String}
  {organizationId : Option String} {uids dashboardTags : List String}
  {templateTags : Option (List String)} {applicationDashboards : List ApplicationDashboard}
  {found template : Found} {md5 : String → String} {api : GrafanaApi}

/-! ## What lookups return -/

theorem findGrafanaDashboardOrNull_reads {found? : Option Found}
    (h : (findGrafanaDashboardOrNull label uids organizationId).Returns w found? w') : w' = w := by
  cases hresolve : w.resolve label organizationId with
  | none =>
    rw [Traced.Returns, findGrafanaDashboardOrNull_none hresolve] at h
    cases h
    rfl
  | some gi =>
    rcases hrows : w.dashboardsOf gi.id uids with _ | ⟨row, _ | ⟨row', rest⟩⟩
    · rw [Traced.Returns, findGrafanaDashboardOrNull_nil hresolve hrows] at h
      cases h
      rfl
    · rw [Traced.Returns, findGrafanaDashboardOrNull_singleton hresolve hrows] at h
      cases h
      rfl
    · obtain ⟨message, hmany⟩ := findGrafanaDashboardOrNull_many hresolve (by rw [hrows]; simp)
      rw [Traced.Returns, hmany] at h
      cases h

theorem of_findGrafanaDashboard (h : (findGrafanaDashboard label uids).Returns w found w') :
    w' = w ∧ w.resolve label none = some found.grafanaInstance ∧
      w.dashboardsOf found.grafanaInstance.id uids = [found.row] := by
  obtain ⟨found?, w'', hfind, h⟩ := Traced.returns_bind_iff.1 h
  obtain rfl := findGrafanaDashboardOrNull_reads hfind
  cases found? with
  | none => exact absurd h Traced.not_returns_fail
  | some found' =>
    obtain ⟨rfl, rfl⟩ := Traced.returns_pure_iff.1 h
    exact ⟨rfl, of_findGrafanaDashboardOrNull hfind⟩

theorem of_updateUsedBySutById {id : ℕ} {application : String}
    (h : (updateUsedBySutById id application).Returns w () w') :
    w' = w.updateUsedBySut id application := by
  rw [updateUsedBySutById, Traced.returns_get_bind] at h
  split at h
  · exact absurd h Traced.not_returns_fail
  · exact Traced.returns_modify_iff.1 (Traced.returns_touch_bind.1 h)

/-- The label of the profile means the instance, within the organization of the run, within its
    own, and without one. -/
structure Owns (w : World) (testRun : TestRun) (autoConfigDashboard : ProfileGrafanaDashboard)
    (own : GrafanaInstance) : Prop where
  label : autoConfigDashboard.grafanaLabel = own.label
  label_ne : own.label ≠ ""
  unscoped : w.resolve own.label none = some own
  ofRun : w.resolve own.label testRun.organizationId = some own
  ofOwn : w.resolve own.label own.organizationId = some own

theorem Owns.alike (h : Owns w testRun autoConfigDashboard own) (halike : w.Alike w') :
    Owns w' testRun autoConfigDashboard own where
  label := h.label
  label_ne := h.label_ne
  unscoped := (halike.resolve _ _).trans h.unscoped
  ofRun := (halike.resolve _ _).trans h.ofRun
  ofOwn := (halike.resolve _ _).trans h.ofOwn

/-- What reusing the template returns. -/
theorem of_handleReadOnlyDashboard (hown : Owns w testRun autoConfigDashboard own)
    (h : (handleReadOnlyDashboard testRun autoConfigDashboard own).Returns w found w') :
    ∃ row row', w.dashboardsOf own.id [autoConfigDashboard.dashboardUid] = [row] ∧
      w' = w.updateUsedBySut row.id testRun.sutName ∧
      w'.dashboardsOf own.id [autoConfigDashboard.dashboardUid] = [row'] ∧
      found = { row := row', grafanaInstance := own } := by
  obtain ⟨template, w₁, hfind, h⟩ := Traced.returns_bind_iff.1 h
  obtain ⟨_, w₂, hupdate, h⟩ := Traced.returns_bind_iff.1 h
  obtain ⟨rfl, hresolve, hrows⟩ := of_findGrafanaDashboard hfind
  obtain rfl := of_updateUsedBySutById hupdate
  obtain ⟨rfl, hresolve', hrows'⟩ := of_findGrafanaDashboard h
  have halike : w₁.Alike (w₁.updateUsedBySut template.row.id testRun.sutName) := ⟨rfl, rfl⟩
  rw [hown.label, hown.unscoped] at hresolve
  rw [halike.resolve, hown.unscoped] at hresolve'
  have hgi := Option.some.inj hresolve
  have hgi' := Option.some.inj hresolve'
  rw [← hgi] at hrows
  rw [← hgi'] at hrows'
  refine ⟨template.row, found.row, hrows, rfl, hrows', ?_⟩
  rw [hgi']

/-- What storing a dashboard leaves. -/
theorem of_upsertDashboard {details : DashboardDetails} {uid title : String}
    {usedBySUT : List String} (hresolve : w.resolve label organizationId = some gi)
    (h : (upsertDashboard label organizationId details uid title usedBySUT).Returns w found w') :
    ∃ data : UpsertData, data.grafanaInstance = gi ∧ data.uid = uid ∧
      w' = w.upsertDashboard data := by
  rw [Traced.Returns, upsertDashboard,
    Traced.bind_of_eq_ok (resolveGrafanaInstanceByLabel_some hresolve)] at h
  dsimp only at h
  rw [Traced.bind_of_eq_ok (Traced.touch_apply _ w), Traced.bind_of_eq_ok (Traced.modify_apply _ w),
    Traced.bind_of_eq_ok (Traced.get_apply _)] at h
  obtain ⟨row, hrow⟩ := find?_upsertDashboard w
    { grafanaInstance := gi, uid := uid, title := title, id := details.id
      grafanaJson := some details, usedBySUT := some usedBySUT, panels := [] }
  dsimp only at hrow h
  rw [hrow] at h
  cases h
  exact ⟨_, rfl, rfl, rfl⟩

/-- What creating a dashboard leaves. -/
theorem of_createNewDashboard (hown : Owns w testRun autoConfigDashboard own)
    (h : (createNewDashboard md5 api testRun autoConfigDashboard own vars).Returns w found w') :
    ∃ data : UpsertData, data.grafanaInstance = own ∧
      data.uid = createDashboardUid md5 testRun autoConfigDashboard vars ∧
      w' = w.upsertDashboard data := by
  rw [createNewDashboard, Traced.returns_get_bind] at h
  split at h
  · exact absurd h Traced.not_returns_fail
  · simp only [Traced.returns_bind_iff, Traced.returns_lift_iff] at h
    obtain ⟨_, w₁, htouch, template, w₂, ⟨-, rfl⟩, folder, w₃, ⟨-, rfl⟩, _, w₄, ⟨-, rfl⟩, created,
      w₅, ⟨-, rfl⟩, h⟩ := h
    cases htouch
    obtain ⟨data, hgrafana, huid, rfl⟩ := of_upsertDashboard hown.ofOwn h
    exact ⟨data, hgrafana, huid, rfl⟩

/-! ## What processing a set leaves -/

/-- What was done for a set of variables. -/
inductive Processed (md5 : String → String) (testRun : TestRun)
    (autoConfigDashboard : ProfileGrafanaDashboard) (own : GrafanaInstance)
    (vars : List DashboardVariable) (w w' : World) : Prop
  /-- An application dashboard is there, but its dashboard is not. -/
  | missing (ad : ApplicationDashboard) (rest : List ApplicationDashboard)
      (happs : w.applicationDashboardsFor md5 testRun autoConfigDashboard vars own.label =
        ad :: rest) (hrows : w.dashboardsOf own.id [ad.dashboardUid] = []) (heq : w' = w)
  /-- An application dashboard is there. -/
  | existing (ad : ApplicationDashboard) (rest : List ApplicationDashboard)
      (happs : w.applicationDashboardsFor md5 testRun autoConfigDashboard vars own.label =
        ad :: rest) (row : StoredDashboard)
      (hrows : w.dashboardsOf own.id [ad.dashboardUid] = [row])
      (templateTags : Option (List String))
      (hstore : (storeApplicationDashboards testRun autoConfigDashboard
        { row := row, grafanaInstance := own } vars (ad :: rest) autoConfigDashboard.dashboardUid
        templateTags).Returns w () w')
  /-- None is there, and the template is the dashboard. -/
  | readOnly (happs : w.applicationDashboardsFor md5 testRun autoConfigDashboard vars own.label =
        []) (hreadOnly : autoConfigDashboard.readOnly = true) (row row' : StoredDashboard)
      (hrows : w.dashboardsOf own.id [autoConfigDashboard.dashboardUid] = [row])
      (hrows' : (w.updateUsedBySut row.id testRun.sutName).dashboardsOf own.id
        [autoConfigDashboard.dashboardUid] = [row'])
      (hstore : (storeApplicationDashboards testRun autoConfigDashboard
        { row := row', grafanaInstance := own } vars [] row'.uid row'.tags).Returns
          (w.updateUsedBySut row.id testRun.sutName) () w')
  /-- None is there, and the dashboard is. -/
  | store (happs : w.applicationDashboardsFor md5 testRun autoConfigDashboard vars own.label = [])
      (hreadOnly : autoConfigDashboard.readOnly = false) (row : StoredDashboard)
      (rest : List StoredDashboard)
      (hrows : w.dashboardsOf own.id [createDashboardUid md5 testRun autoConfigDashboard vars] =
        row :: rest) (templateTags : Option (List String))
      (hstore : (storeApplicationDashboards testRun autoConfigDashboard
        { row := row, grafanaInstance := own } vars []
        ((truthy row.templateDashboardUid).getD row.uid) templateTags).Returns w () w')
  /-- None is there, and neither is the dashboard. -/
  | create (happs : w.applicationDashboardsFor md5 testRun autoConfigDashboard vars own.label = [])
      (hreadOnly : autoConfigDashboard.readOnly = false)
      (hrows : w.dashboardsOf own.id [createDashboardUid md5 testRun autoConfigDashboard vars] =
        []) (data : UpsertData) (hgrafana : data.grafanaInstance = own)
      (huid : data.uid = createDashboardUid md5 testRun autoConfigDashboard vars)
      (heq : w' = w.upsertDashboard data)

/-- What was done, if the processing returns. -/
theorem processed_of_returns (hown : Owns w testRun autoConfigDashboard own)
    (htemplate : template.grafanaInstance = own)
    (h : (processSingleVariableSet md5 api testRun autoConfigDashboard vars own template).Returns
      w () w') : Processed md5 testRun autoConfigDashboard own vars w w' := by
  match happs : w.applicationDashboardsFor md5 testRun autoConfigDashboard vars own.label with
  | ad :: rest =>
    rw [Traced.Returns, process_of_cons testRun autoConfigDashboard vars md5 api
      (by rwa [htemplate])] at h
    obtain ⟨found?, w'', hfind, h⟩ := Traced.returns_bind_iff.1 (show Traced.Returns _ _ _ _ from h)
    obtain rfl := findGrafanaDashboardOrNull_reads hfind
    rcases hrows : w''.dashboardsOf own.id [ad.dashboardUid] with _ | ⟨row, _ | ⟨row', more⟩⟩
    · rw [Traced.Returns, findGrafanaDashboardOrNull_nil hown.ofOwn hrows] at hfind
      cases hfind
      exact .missing ad rest happs hrows (Traced.returns_pure_iff.1 h).2
    · rw [Traced.Returns, findGrafanaDashboardOrNull_singleton hown.ofOwn hrows] at hfind
      cases hfind
      exact .existing ad rest happs row hrows _ h
    · obtain ⟨message, hmany⟩ := findGrafanaDashboardOrNull_many hown.ofOwn (by rw [hrows]; simp)
      rw [Traced.Returns, hmany] at hfind
      cases hfind
  | [] =>
    rw [Traced.Returns, process_of_nil testRun autoConfigDashboard vars md5 api
      (by rwa [htemplate])] at h
    have hcreate : (createAndStoreDashboards md5 api testRun autoConfigDashboard own vars).Returns
        w () w' → (w.dashboardsOf own.id
          [createDashboardUid md5 testRun autoConfigDashboard vars] = [] ∨
            autoConfigDashboard.readOnly = true) →
        Processed md5 testRun autoConfigDashboard own vars w w' := by
      intro h hcase
      rw [createAndStoreDashboards] at h
      cases hreadOnly : autoConfigDashboard.readOnly with
      | true =>
        rw [if_pos hreadOnly] at h
        obtain ⟨found, w'', hhandle, h⟩ := Traced.returns_bind_iff.1 h
        obtain ⟨row, row', hrows, rfl, hrows', rfl⟩ := of_handleReadOnlyDashboard hown hhandle
        exact .readOnly happs hreadOnly row row' hrows hrows' h
      | false =>
        rw [if_neg (by rw [hreadOnly]; exact Bool.false_ne_true)] at h
        obtain ⟨found, w'', hnew, h⟩ := Traced.returns_bind_iff.1 h
        obtain ⟨-, rfl⟩ := Traced.returns_pure_iff.1 h
        obtain ⟨data, hgrafana, huid, rfl⟩ := of_createNewDashboard hown hnew
        have hrows := hcase.resolve_right (by rw [hreadOnly]; exact Bool.false_ne_true)
        exact .create happs hreadOnly hrows data hgrafana huid rfl
    by_cases hcase : w.dashboardsOf own.id
        [createDashboardUid md5 testRun autoConfigDashboard vars] = [] ∨
          autoConfigDashboard.readOnly = true
    · obtain ⟨ts, hgoes, -⟩ := none_of_own_create testRun autoConfigDashboard vars md5 api
        hown.unscoped htemplate hcase
      rw [hgoes] at h
      exact hcreate h hcase
    · rw [not_or, Bool.not_eq_true] at hcase
      obtain ⟨row, rest, hrows⟩ := List.exists_cons_of_ne_nil hcase.1
      obtain ⟨ts, hgoes, -⟩ := none_of_own_store testRun autoConfigDashboard vars md5 api
        hown.unscoped htemplate hrows hcase.2
      rw [hgoes] at h
      exact .store happs hcase.2 row rest hrows _ h

end

/-- The variables that one application dashboard in all is stored with. -/
def oneVariables (testRun : TestRun) (autoConfigDashboard : ProfileGrafanaDashboard)
    (vars : List DashboardVariable) : List DashboardVariable :=
  withRunVariables testRun (replaceHardcodedValuesForVariables vars
    autoConfigDashboard.setHardcodedValueForVariables)

theorem valuesOf_oneVariables {testRun : TestRun} {autoConfigDashboard : ProfileGrafanaDashboard}
    {vars : List DashboardVariable} {name : String} :
    valuesOf (oneVariables testRun autoConfigDashboard vars) name =
      (valuesOf (replaceHardcodedValuesForVariables vars
        autoConfigDashboard.setHardcodedValueForVariables) name).or (testRun.valuesOf name) :=
  valuesOf_withRunVariables

section

variable {w w' : World} {own gi : GrafanaInstance}
  {testRun : TestRun} {autoConfigDashboard : ProfileGrafanaDashboard}
  {vars : List DashboardVariable} {label uid templateDashboardUid separate value : String}
  {templateTags : Option (List String)} {applicationDashboards : List ApplicationDashboard}
  {found : Found} {row : StoredDashboard} {ad : ApplicationDashboard}

/-! ## What storing application dashboards leaves -/

/-- Where no update is required, nothing is stored. -/
theorem of_store_of_not_required
    (hrequired : checkIfUpdateRequired (replaceHardcodedValuesForVariables vars
      autoConfigDashboard.setHardcodedValueForVariables) applicationDashboards = false)
    (h : (storeApplicationDashboards testRun autoConfigDashboard found vars applicationDashboards
      templateDashboardUid templateTags).Returns w () w') : w' = w := by
  rw [storeApplicationDashboards, Traced.returns_touch_bind] at h
  dsimp only at h
  rw [if_neg (by rw [hrequired]; exact Bool.false_ne_true)] at h
  exact (Traced.returns_pure_iff.1 h).2

/-- One application dashboard is stored. -/
theorem of_store_of_one
    (hone : truthy autoConfigDashboard.createSeparateDashboardForVariable = none)
    (hrequired : checkIfUpdateRequired (replaceHardcodedValuesForVariables vars
      autoConfigDashboard.setHardcodedValueForVariables) applicationDashboards = true)
    (h : (storeApplicationDashboards testRun autoConfigDashboard
      { row := row, grafanaInstance := own } vars applicationDashboards templateDashboardUid
      templateTags).Returns w () w') :
    ∃ data : ApplicationDashboardInsertData,
      data.IsFor testRun own row.uid autoConfigDashboard.dashboardName
        (oneVariables testRun autoConfigDashboard vars) ∧
      (insertApplicationDashboard data).Returns w () w' := by
  rw [storeApplicationDashboards, Traced.returns_touch_bind] at h
  dsimp only at h
  rw [if_pos hrequired, hone] at h
  refine ⟨_, ?_, h⟩
  exact ⟨rfl, rfl, rfl, rfl, rfl, rfl, rfl⟩

/-- No dashboard is missing for a value. -/
theorem of_createSeparate_of_exists {dashboardTags : List String}
    (h : (createSeparateDashboardForValue testRun autoConfigDashboard vars found
      templateDashboardUid dashboardTags separate value).Returns w () w')
    (hexists : w.applicationDashboardsOf testRun found.grafanaInstance.label templateDashboardUid
      (autoConfigDashboard.dashboardName ++ " " ++ value) ≠ []) : w' = w := by
  rw [Traced.Returns, createSeparate_of_exists hexists] at h
  cases h
  rfl

/-- The dashboard for a value is stored. -/
theorem of_createSeparate_of_missing {dashboardTags : List String}
    (h : (createSeparateDashboardForValue testRun autoConfigDashboard vars found
      templateDashboardUid dashboardTags separate value).Returns w () w')
    (hlabel : found.grafanaInstance.label ≠ "")
    (hmissing : w.applicationDashboardsOf testRun found.grafanaInstance.label templateDashboardUid
      (autoConfigDashboard.dashboardName ++ " " ++ value) = []) :
    ∃ data : ApplicationDashboardInsertData,
      data.IsFor testRun found.grafanaInstance templateDashboardUid
        (autoConfigDashboard.dashboardName ++ " " ++ value)
        (buildVariablesForSeparateDashboard testRun autoConfigDashboard vars separate value) ∧
      (insertApplicationDashboard data).Returns w () w' := by
  rw [createSeparateDashboardForValue, Traced.returns_get_bind,
    if_pos (List.isEmpty_iff.2 hmissing)] at h
  refine ⟨_, ?_, h⟩
  exact ⟨rfl, rfl, if_neg hlabel, rfl, rfl, rfl, rfl⟩

theorem checkExistingValues_nil : checkExistingValues vars [] separate = [] := by
  rw [checkExistingValues]
  split <;> rfl

/-- Without existing application dashboards, one is seen to for each value of the set. -/
theorem of_store_of_separate
    (hseparate : truthy autoConfigDashboard.createSeparateDashboardForVariable = some separate)
    (h : (storeApplicationDashboards testRun autoConfigDashboard found vars []
      templateDashboardUid templateTags).Returns w () w') :
    ∃ dashboardTags, (((valuesOf vars separate).getD []).forM
      (createSeparateDashboardForValue testRun autoConfigDashboard vars found
        templateDashboardUid dashboardTags separate)).Returns w () w' := by
  have hrequired : checkIfUpdateRequired (replaceHardcodedValuesForVariables vars
      autoConfigDashboard.setHardcodedValueForVariables) [] = true := rfl
  rw [storeApplicationDashboards, Traced.returns_touch_bind] at h
  dsimp only at h
  rw [if_pos hrequired, hseparate] at h
  dsimp only [createSeparateDashboards] at h
  rw [valuesOf]
  cases hfind : vars.find? fun v => v.name = separate with
  | none =>
    rw [hfind] at h
    exact ⟨[], h⟩
  | some filtered =>
    rw [hfind] at h
    dsimp only at h
    rw [checkExistingValues_nil] at h
    have hall : (filtered.values.filter fun value => !([] : List String).contains value) =
        filtered.values := List.filter_eq_self.2 fun _ _ => rfl
    rw [hall] at h
    exact ⟨_, h⟩

/-- A set has one value. -/
theorem valuesOf_setOfValue_self {vars : List DashboardVariable} :
    valuesOf (setOfValue separate vars value) separate = some [value] :=
  valuesOf_setOfValue.trans (if_pos rfl)

/-- The dashboard for the value of a set is stored, or it is there. -/
theorem of_store_of_value
    (hseparate : truthy autoConfigDashboard.createSeparateDashboardForVariable = some separate)
    (h : (storeApplicationDashboards testRun autoConfigDashboard found
      (setOfValue separate vars value) [] templateDashboardUid templateTags).Returns w () w') :
    ∃ dashboardTags, (createSeparateDashboardForValue testRun autoConfigDashboard
      (setOfValue separate vars value) found templateDashboardUid dashboardTags separate
      value).Returns w () w' := by
  obtain ⟨dashboardTags, h⟩ := of_store_of_separate hseparate h
  rw [valuesOf_setOfValue_self, Option.getD_some] at h
  obtain ⟨_, w₁, hvalue, h⟩ := Traced.returns_bind_iff.1 h
  obtain ⟨-, rfl⟩ := Traced.returns_pure_iff.1 h
  exact ⟨dashboardTags, hvalue⟩

/-- Without a value, nothing is stored. -/
theorem of_store_of_no_value
    (hseparate : truthy autoConfigDashboard.createSeparateDashboardForVariable = some separate)
    (hnone : (valuesOf vars separate).getD [] = [])
    (h : (storeApplicationDashboards testRun autoConfigDashboard found vars []
      templateDashboardUid templateTags).Returns w () w') : w' = w := by
  obtain ⟨dashboardTags, h⟩ := of_store_of_separate hseparate h
  rw [hnone] at h
  exact (Traced.returns_pure_iff.1 h).2

/-! ## What processing keeps -/

/-- The rows of a dashboard that is there are there when another was written. -/
theorem dashboardsOf_upsertDashboard_ne_nil {data : UpsertData} {uids : List String}
    (h : w.dashboardsOf own.id uids ≠ []) :
    (w.upsertDashboard data).dashboardsOf own.id uids ≠ [] := by
  obtain ⟨row, hrow⟩ := List.exists_mem_of_ne_nil _ h
  obtain ⟨hmem, hinstance, huid⟩ := mem_dashboardsOf hrow
  obtain ⟨row', hrow', hkey⟩ : ∃ row' ∈ (w.upsertDashboard data).grafanaDashboards, row' = row ∨
      isRowOf data.grafanaInstance.id data.uid row.toGrafanaDashboard = true ∧
        row' = { row with
          toGrafanaDashboard := upsertGrafanaDashboard data row.toGrafanaDashboard } :=
    exists_mem_upsertFirst hmem
  refine List.ne_nil_of_mem (a := row') (List.mem_filter.2 ⟨hrow', ?_⟩)
  rw [Bool.and_eq_true, decide_eq_true_eq, List.contains_iff_mem]
  rcases hkey with rfl | ⟨hp, rfl⟩
  · exact ⟨hinstance, huid⟩
  · obtain ⟨hinstance', huid'⟩ := isRowOf_iff.1 hp
    exact ⟨hinstance'.symm.trans hinstance, by rwa [huid'] at huid⟩

/-- A dashboard that was written is there. -/
theorem dashboardsOf_upsertDashboard_self {data : UpsertData} :
    (w.upsertDashboard data).dashboardsOf data.grafanaInstance.id [data.uid] ≠ [] := by
  obtain ⟨row, hrow⟩ := find?_upsertDashboard w data
  have hkey := List.find?_some hrow
  obtain ⟨hinstance, huid⟩ := isRowOf_iff.1 hkey
  refine List.ne_nil_of_mem (List.mem_filter.2 ⟨List.mem_of_find?_eq_some hrow, ?_⟩)
  rw [Bool.and_eq_true, decide_eq_true_eq, List.contains_iff_mem]
  exact ⟨hinstance, List.mem_singleton.2 huid⟩

/-- What a lookup finds are the dashboards of the run with the label. -/
theorem applicationDashboardsFor_eq {md5 : String → String} (hlabel : own.label ≠ "")
    (hresolved : resolveDashboardLabel autoConfigDashboard vars = label) (hne : label ≠ "") :
    w.applicationDashboardsFor md5 testRun autoConfigDashboard vars own.label =
      (w.dashboardsWith testRun own.label label).filter fun ad =>
        ad.dashboardUid = createDashboardUid md5 testRun autoConfigDashboard vars &&
          (truthy testRun.organizationId).all fun org => ad.organizationId.all (· = org) := by
  rw [World.applicationDashboardsFor, if_neg hlabel, hresolved, applicationDashboardsOf_eq hne]

end

end Perfana.AutoConfig
