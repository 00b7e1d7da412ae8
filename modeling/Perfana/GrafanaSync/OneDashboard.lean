import Perfana.GrafanaSync.Passes

/-!
# One application dashboard in all

Where dashboards are not separate for a variable, the application dashboard is looked up by the uid
that it is stored with, and written anew if a value that was discovered is not stored.

* `step_of_none`, `step_of_hasOne`: what a set leaves;
* `converges_of_one`: passes configure the dashboard, if no variable is gone that was discovered
  before.
-/

namespace Perfana.AutoConfig

open GrafanaSync

section

variable {w w' : World} {own : GrafanaInstance} {testRun : TestRun}
  {autoConfigDashboard : ProfileGrafanaDashboard} {md5 : String → String}
  {vars discovered stored : List DashboardVariable} {uid label : String} {ad : ApplicationDashboard}

/-! ## One application dashboard in all -/

/-- There is one application dashboard of the run, with some variables, and its dashboard. -/
structure HasOne (md5 : String → String) (testRun : TestRun)
    (autoConfigDashboard : ProfileGrafanaDashboard) (own : GrafanaInstance) (w : World)
    (stored : List DashboardVariable) : Prop where
  only : ∃ ad, w.dashboardsWith testRun own.label autoConfigDashboard.dashboardName = [ad] ∧
    StoredAs w testRun own (DashboardUid.«from» md5 testRun autoConfigDashboard)
      autoConfigDashboard.dashboardName stored ad
  dashboard : w.dashboardsOf own.id [DashboardUid.«from» md5 testRun autoConfigDashboard] ≠ []

variable (hone : truthy autoConfigDashboard.createSeparateDashboardForVariable = none)
  (hname : autoConfigDashboard.dashboardName ≠ "") (hown : Owns w testRun autoConfigDashboard own)

include hone

theorem createDashboardUid_of_one : createDashboardUid md5 testRun autoConfigDashboard vars =
    DashboardUid.«from» md5 testRun autoConfigDashboard := by
  rw [createDashboardUid, hone]
  rfl

include hname hown

/-- The one application dashboard is found by its uid. -/
theorem applicationDashboardsFor_of_one : w.applicationDashboardsFor md5 testRun
    autoConfigDashboard vars own.label =
      (w.dashboardsWith testRun own.label autoConfigDashboard.dashboardName).filter fun ad =>
        ad.dashboardUid = DashboardUid.«from» md5 testRun autoConfigDashboard &&
          (truthy testRun.organizationId).all fun org => ad.organizationId.all (· = org) := by
  have hlabel : resolveDashboardLabel autoConfigDashboard vars =
      autoConfigDashboard.dashboardName := by
    rw [resolveDashboardLabel, hone]
  rw [applicationDashboardsFor_eq hown.label_ne hlabel hname, createDashboardUid_of_one hone]

theorem applicationDashboardsFor_of_stored
    (honly : w.dashboardsWith testRun own.label autoConfigDashboard.dashboardName = [ad])
    (hstored : StoredAs w testRun own (DashboardUid.«from» md5 testRun autoConfigDashboard)
      autoConfigDashboard.dashboardName stored ad) :
    w.applicationDashboardsFor md5 testRun autoConfigDashboard vars own.label = [ad] := by
  rw [applicationDashboardsFor_of_one hone hname hown, honly]
  refine List.filter_eq_self.2 fun ad' had' => ?_
  rw [List.mem_singleton.1 had', Bool.and_eq_true]
  exact ⟨decide_eq_true hstored.uid, hstored.isSeen⟩

omit hone hname in
/-- A new dashboard of the run is the only one, and it is there. -/
theorem hasOne_of_insert {data : ApplicationDashboardInsertData} {row : StoredDashboard}
    (hdata : data.IsFor testRun own row.uid autoConfigDashboard.dashboardName stored)
    (huid : row.uid = DashboardUid.«from» md5 testRun autoConfigDashboard)
    (hrow : w.dashboardsOf own.id [DashboardUid.«from» md5 testRun autoConfigDashboard] ≠ [])
    (hwas : w.dashboardsWith testRun own.label autoConfigDashboard.dashboardName = [] ∨
      ∃ vars, HasOne md5 testRun autoConfigDashboard own w vars)
    (h : (insertApplicationDashboard data).Returns w () w') :
    HasOne md5 testRun autoConfigDashboard own w' stored ∧ w.Alike w' := by
  rw [huid] at hdata
  obtain ⟨halike, hdashboards, -, hthere⟩ := dashboardsWith_of_insert hdata hown.ofRun h
  refine ⟨⟨hthere ?_, ?_⟩, halike⟩
  · rcases hwas with hnil | ⟨vars, ⟨ad, honly, hstored⟩, -⟩
    · exact .inl hnil
    · exact .inr ⟨ad, vars, honly, hstored⟩
  · rwa [World.dashboardsOf, hdashboards]

/-- Where it is there, with its dashboard, it is dealt with as an existing one. -/
theorem store_of_hasOne (hthere : HasOne md5 testRun autoConfigDashboard own w stored)
    (h : Processed md5 testRun autoConfigDashboard own vars w w') :
    ∃ ad row templateTags, ad.variableValues = some stored ∧
      row.uid = DashboardUid.«from» md5 testRun autoConfigDashboard ∧
      (storeApplicationDashboards testRun autoConfigDashboard
        { row := row, grafanaInstance := own } vars [ad] autoConfigDashboard.dashboardUid
        templateTags).Returns w () w' := by
  obtain ⟨⟨ad, honly, hstored⟩, hdashboard⟩ := hthere
  have hfound : w.applicationDashboardsFor md5 testRun autoConfigDashboard vars own.label = [ad] :=
    applicationDashboardsFor_of_stored hone hname hown honly hstored
  have hempty : w.applicationDashboardsFor md5 testRun autoConfigDashboard vars own.label ≠ [] := by
    rw [hfound]
    exact List.cons_ne_nil _ _
  cases h with
  | missing ad' rest happs hrows heq =>
    rw [hfound, List.cons.injEq] at happs
    obtain ⟨rfl, -⟩ := happs
    rw [hstored.uid] at hrows
    exact absurd hrows hdashboard
  | existing ad' rest happs row hrows templateTags hstore =>
    rw [hfound, List.cons.injEq] at happs
    obtain ⟨rfl, rfl⟩ := happs
    rw [hstored.uid] at hrows
    have huid := (mem_dashboardsOf (hrows ▸ List.mem_singleton_self row)).2.2
    exact ⟨ad, row, templateTags, hstored.variableValues, List.mem_singleton.1 huid, hstore⟩
  | readOnly happs => exact absurd happs hempty
  | store happs => exact absurd happs hempty
  | create happs => exact absurd happs hempty

/-- It is left as it is only if it has all values, or else updated. -/
theorem step_of_hasOne (hthere : HasOne md5 testRun autoConfigDashboard own w stored)
    (h : Processed md5 testRun autoConfigDashboard own vars w w') :
    w' = w ∧ Covers stored (replaceHardcodedValuesForVariables vars
        autoConfigDashboard.setHardcodedValueForVariables) ∨
      w.Alike w' ∧ HasOne md5 testRun autoConfigDashboard own w'
        (oneVariables testRun autoConfigDashboard vars) := by
  obtain ⟨ad, row, templateTags, hstored, huid, hstore⟩ :=
    store_of_hasOne hone hname hown hthere h
  cases hcheck : checkIfUpdateRequired (replaceHardcodedValuesForVariables vars
    autoConfigDashboard.setHardcodedValueForVariables) [ad] with
  | false =>
    exact .inl ⟨of_store_of_not_required hcheck hstore, covers_of_not_required hstored hcheck⟩
  | true =>
    obtain ⟨data, hdata, hinsert⟩ := of_store_of_one hone hcheck hstore
    obtain ⟨hnew, halike⟩ := hasOne_of_insert hown hdata huid hthere.dashboard
      (.inr ⟨stored, hthere⟩) hinsert
    exact .inr ⟨halike, hnew⟩

/-- If it has all values, it is left. -/
theorem eq_of_covers (hthere : HasOne md5 testRun autoConfigDashboard own w stored)
    (hnodup : (vars.map DashboardVariable.name).Nodup)
    (hcovers : Covers stored (replaceHardcodedValuesForVariables vars
      autoConfigDashboard.setHardcodedValueForVariables))
    (h : Processed md5 testRun autoConfigDashboard own vars w w') : w' = w := by
  obtain ⟨ad, row, templateTags, hstored, -, hstore⟩ := store_of_hasOne hone hname hown hthere h
  exact of_store_of_not_required (not_required_of_covers hstored
    (nodup_replaceHardcodedValuesForVariables hnodup) hcovers) hstore

/-- Where it is not there, it is stored if its dashboard is there, or that is created. -/
theorem step_of_none
    (hnil : w.dashboardsWith testRun own.label autoConfigDashboard.dashboardName = [])
    (h : Processed md5 testRun autoConfigDashboard own vars w w') : w.Alike w' ∧
    (HasOne md5 testRun autoConfigDashboard own w'
        (oneVariables testRun autoConfigDashboard vars) ∨
      w'.dashboardsWith testRun own.label autoConfigDashboard.dashboardName = [] ∧
        autoConfigDashboard.readOnly = false ∧
        w.dashboardsOf own.id [DashboardUid.«from» md5 testRun autoConfigDashboard] = [] ∧
        w'.dashboardsOf own.id [DashboardUid.«from» md5 testRun autoConfigDashboard] ≠ []) := by
  have hfound : w.applicationDashboardsFor md5 testRun autoConfigDashboard vars own.label = [] := by
    rw [applicationDashboardsFor_of_one hone hname hown, hnil]
    rfl
  cases h with
  | missing ad rest happs =>
    rw [hfound] at happs
    cases happs
  | existing ad rest happs =>
    rw [hfound] at happs
    cases happs
  | readOnly happs hreadOnly row row' hrows hrows' hstore =>
    have huid : DashboardUid.«from» md5 testRun autoConfigDashboard =
        autoConfigDashboard.dashboardUid := by
      rw [DashboardUid.«from», if_pos hreadOnly]
    have halike : w.Alike (w.updateUsedBySut row.id testRun.sutName) := ⟨rfl, rfl⟩
    obtain ⟨data, hdata, hinsert⟩ := of_store_of_one hone rfl hstore
    have hrow := (mem_dashboardsOf (hrows' ▸ List.mem_singleton_self row')).2.2
    obtain ⟨hnew, halike'⟩ := hasOne_of_insert (hown.alike halike) hdata
      ((List.mem_singleton.1 hrow).trans huid.symm)
      (by rw [huid, hrows']; exact List.cons_ne_nil _ _) (.inl hnil) hinsert
    exact ⟨⟨halike'.1, halike'.2⟩, .inl hnew⟩
  | store happs hreadOnly row rest hrows templateTags hstore =>
    rw [createDashboardUid_of_one hone] at hrows
    obtain ⟨data, hdata, hinsert⟩ := of_store_of_one hone rfl hstore
    have hrow := (mem_dashboardsOf (hrows ▸ List.mem_cons_self)).2.2
    obtain ⟨hnew, halike⟩ := hasOne_of_insert hown hdata (List.mem_singleton.1 hrow)
      (by rw [hrows]; exact List.cons_ne_nil _ _) (.inl hnil) hinsert
    exact ⟨halike, .inl hnew⟩
  | create happs hreadOnly hrows data hgrafana huid heq =>
    subst heq
    rw [createDashboardUid_of_one hone] at hrows huid
    refine ⟨⟨rfl, rfl⟩, .inr ⟨hnil, hreadOnly, hrows, ?_⟩⟩
    rw [← hgrafana, ← huid]
    exact dashboardsOf_upsertDashboard_self

end

section

variable {w₀ w w' : World} {own : GrafanaInstance} {testRun : TestRun}
  {autoConfigDashboard : ProfileGrafanaDashboard} {md5 : String → String} {api : GrafanaApi}
  {vars discovered earlier stored : List DashboardVariable} {separate value value' : String}
  {allowed : List DashboardVariable → Prop}

/-! ## One application dashboard in all -/

section One

variable (hone : truthy autoConfigDashboard.createSeparateDashboardForVariable = none)

include hone

theorem sets_of_one : setOfVariablesPerCreateSeparateDashboardForVariable
    autoConfigDashboard.createSeparateDashboardForVariable vars = [vars] := by
  rw [setOfVariablesPerCreateSeparateDashboardForVariable, hone]

omit hone in
theorem expectedValues_none (name : String) :
    expectedValues testRun autoConfigDashboard discovered none name =
      valuesOf (oneVariables testRun autoConfigDashboard discovered) name := by
  rw [valuesOf_oneVariables, valuesOf_replaceHardcodedValuesForVariables, expectedValues,
    Option.or_assoc]
  rfl

/-- What an earlier pass stored is all that is expected, if it has all values. -/
theorem eq_expectedValues (hsuits : Suits autoConfigDashboard discovered earlier)
    (hcovers : Covers (oneVariables testRun autoConfigDashboard earlier)
      (replaceHardcodedValuesForVariables discovered
        autoConfigDashboard.setHardcodedValueForVariables)) (name : String) :
    valuesOf (oneVariables testRun autoConfigDashboard earlier) name =
      expectedValues testRun autoConfigDashboard discovered none name := by
  rw [expectedValues_none, @valuesOf_oneVariables _ _ discovered]
  cases hvalues : valuesOf (replaceHardcodedValuesForVariables discovered
    autoConfigDashboard.setHardcodedValueForVariables) name with
  | some values => exact hcovers name values hvalues
  | none =>
    rw [valuesOf_replaceHardcodedValuesForVariables, Option.or_eq_none_iff, valuesOf_eq_none,
      valuesOf_eq_none] at hvalues
    have hnone : valuesOf (replaceHardcodedValuesForVariables earlier
        autoConfigDashboard.setHardcodedValueForVariables) name = none := by
      rw [valuesOf_replaceHardcodedValuesForVariables, Option.or_eq_none_iff, valuesOf_eq_none,
        valuesOf_eq_none]
      refine ⟨hvalues.1, fun v hv heq => ?_⟩
      rcases hsuits.one hone v hv with hname | hname
      · obtain ⟨v', hv', hname⟩ := List.mem_map.1 hname
        exact hvalues.2 v' hv' (hname.trans heq)
      · obtain ⟨v', hv', hname⟩ := List.mem_map.1 hname
        exact hvalues.1 v' (List.mem_reverse.2 hv') (hname.trans heq)
    rw [valuesOf_oneVariables, hnone]

/-- Passes leave no application dashboard, or the one that an earlier pass stored. -/
def LeavesOne (md5 : String → String) (testRun : TestRun)
    (autoConfigDashboard : ProfileGrafanaDashboard) (own : GrafanaInstance)
    (discovered : List DashboardVariable) (w : World) : Prop :=
  w.dashboardsWith testRun own.label autoConfigDashboard.dashboardName = [] ∨
    ∃ earlier, Suits autoConfigDashboard discovered earlier ∧
      HasOne md5 testRun autoConfigDashboard own w
        (oneVariables testRun autoConfigDashboard earlier)

/-- One is there that has all values. -/
def IsComplete (md5 : String → String) (testRun : TestRun)
    (autoConfigDashboard : ProfileGrafanaDashboard) (own : GrafanaInstance)
    (discovered : List DashboardVariable) (w : World) : Prop :=
  ∃ earlier, Suits autoConfigDashboard discovered earlier ∧
    HasOne md5 testRun autoConfigDashboard own w
      (oneVariables testRun autoConfigDashboard earlier) ∧
    Covers (oneVariables testRun autoConfigDashboard earlier)
      (replaceHardcodedValuesForVariables discovered
        autoConfigDashboard.setHardcodedValueForVariables)

variable (hname : autoConfigDashboard.dashboardName ≠ "")
  (hown : Owns w testRun autoConfigDashboard own)

include hname hown

/-- A set that suits leaves one, or none. -/
theorem LeavesOne.of_processed (hsuits : Suits autoConfigDashboard discovered vars)
    (hleft : LeavesOne md5 testRun autoConfigDashboard own discovered w)
    (h : Processed md5 testRun autoConfigDashboard own vars w w') :
    w.Alike w' ∧ LeavesOne md5 testRun autoConfigDashboard own discovered w' := by
  rcases hleft with hnil | ⟨earlier, hearlier, hthere⟩
  · obtain ⟨halike, hstored | ⟨hnil', -⟩⟩ := step_of_none hone hname hown hnil h
    · exact ⟨halike, .inr ⟨vars, hsuits, hstored⟩⟩
    · exact ⟨halike, .inl hnil'⟩
  · rcases step_of_hasOne hone hname hown hthere h with ⟨rfl, -⟩ | ⟨halike, hstored⟩
    · exact ⟨⟨rfl, rfl⟩, .inr ⟨earlier, hearlier, hthere⟩⟩
    · exact ⟨halike, .inr ⟨vars, hsuits, hstored⟩⟩

/-- Once its dashboard is there, one is stored. -/
theorem IsComplete.of_there
    (hnil : w.dashboardsWith testRun own.label autoConfigDashboard.dashboardName = [])
    (hthere : w.dashboardsOf own.id [DashboardUid.«from» md5 testRun autoConfigDashboard] ≠ [])
    (h : Processed md5 testRun autoConfigDashboard own discovered w w') :
    w.Alike w' ∧ IsComplete md5 testRun autoConfigDashboard own discovered w' := by
  obtain ⟨halike, hstored | ⟨-, -, hmissing, -⟩⟩ := step_of_none hone hname hown hnil h
  · exact ⟨halike, discovered, .refl, hstored, covers_oneVariables⟩
  · exact absurd hmissing hthere

/-- A set brings its values in, unless it has to create the dashboard first. -/
theorem LeavesOne.complete_or
    (hleft : LeavesOne md5 testRun autoConfigDashboard own discovered w)
    (h : Processed md5 testRun autoConfigDashboard own discovered w w') : w.Alike w' ∧
    (IsComplete md5 testRun autoConfigDashboard own discovered w' ∨
      w'.dashboardsWith testRun own.label autoConfigDashboard.dashboardName = [] ∧
        w'.dashboardsOf own.id [DashboardUid.«from» md5 testRun autoConfigDashboard] ≠ []) := by
  rcases hleft with hnil | ⟨earlier, hearlier, hthere⟩
  · obtain ⟨halike, hstored | ⟨hnil', -, -, hcreated⟩⟩ := step_of_none hone hname hown hnil h
    · exact ⟨halike, .inl ⟨discovered, .refl, hstored, covers_oneVariables⟩⟩
    · exact ⟨halike, .inr ⟨hnil', hcreated⟩⟩
  · rcases step_of_hasOne hone hname hown hthere h with ⟨rfl, hcovers⟩ | ⟨halike, hstored⟩
    · exact ⟨⟨rfl, rfl⟩, .inl ⟨earlier, hearlier, hthere, hcovers⟩⟩
    · exact ⟨halike, .inl ⟨discovered, .refl, hstored, covers_oneVariables⟩⟩

/-- One that is complete is left as it is. -/
theorem IsComplete.eq (hcomplete : IsComplete md5 testRun autoConfigDashboard own discovered w)
    (hnodup : (discovered.map DashboardVariable.name).Nodup)
    (h : Processed md5 testRun autoConfigDashboard own discovered w w') : w' = w := by
  obtain ⟨earlier, -, hthere, hcovers⟩ := hcomplete
  exact eq_of_covers hone hname hown hthere hnodup hcovers h

omit hname in
/-- It is what is expected. -/
theorem IsComplete.isConfigured
    (hcomplete : IsComplete md5 testRun autoConfigDashboard own discovered w)
    (hsettled : ∀ w', Processed md5 testRun autoConfigDashboard own discovered w w' → w' = w) :
    IsConfigured md5 testRun autoConfigDashboard discovered w := by
  obtain ⟨earlier, hearlier, ⟨⟨ad, honly, hstored⟩, -⟩, hcovers⟩ := hcomplete
  have hexpected : expectedFor autoConfigDashboard discovered = [none] := by
    rw [expectedFor, hone]
  refine
    { exactlyOne := fun value hvalue => ?_
      apart := fun _ value hvalue value' hvalue' hne => ?_
      settled := fun api w' h => ?_ }
  · rw [hexpected, List.mem_singleton] at hvalue
    subst hvalue
    rw [hown.label]
    exact ⟨ad, _, honly, hstored.variableValues, eq_expectedValues hone hearlier hcovers⟩
  · rw [hexpected, List.mem_singleton] at hvalue hvalue'
    exact absurd (hvalue.trans hvalue'.symm) hne
  · rcases eq_or_processed_of_pass hown (sets_of_one hone) h with heq | hprocessed
    · exact heq
    · exact hsettled _ hprocessed

omit hown in
/-- Two passes complete the one dashboard, and then it is left as it is. -/
theorem converges_of_one
    (hconfigurable : Configurable testRun autoConfigDashboard own w₀ discovered) :
    Converges md5 testRun autoConfigDashboard own w₀ discovered
      (Suits autoConfigDashboard discovered) := by
  intro es w hrun api₁ api₂ api₃ w₁ w₂ w₃ h₁ h₂ h₃
  have howns : ∀ {s}, w₀.Alike s → Owns s testRun autoConfigDashboard own :=
    hconfigurable.owns.alike
  have hpass : ∀ {api s s'}, w₀.Alike s →
      GoesThrough md5 testRun autoConfigDashboard api discovered s s' →
        Processed md5 testRun autoConfigDashboard own discovered s s' := fun hs h =>
    h.processed (howns hs) (sets_of_one hone) hconfigurable.found
  have hnone : w₀.dashboardsWith testRun own.label autoConfigDashboard.dashboardName = [] := by
    rw [← hconfigurable.owns.label]
    exact hconfigurable.fresh none
  obtain ⟨halike, hleft⟩ : w₀.Alike w ∧
      LeavesOne md5 testRun autoConfigDashboard own discovered w := by
    refine hrun.state_invariant (P := fun w => w₀.Alike w ∧
      LeavesOne md5 testRun autoConfigDashboard own discovered w) ⟨⟨rfl, rfl⟩, .inl hnone⟩ ?_
    rintro s e s' ⟨halike, hleft⟩ ⟨htemplate, earlier, hsuits, hset⟩ hstep
    rw [sets_of_one hone, List.mem_singleton] at hset
    have hprocessed := processed_of_returns (howns halike) htemplate (of_setStep hstep)
    rw [hset] at hprocessed
    obtain ⟨halike', hleft'⟩ := hleft.of_processed hone hname (howns halike) hsuits hprocessed
    exact ⟨halike.trans halike', hleft'⟩
  obtain ⟨halike₁, hcase⟩ := hleft.complete_or hone hname (howns halike) (hpass halike h₁)
  have halike₁ := halike.trans halike₁
  -- The first pass may only create the dashboard.
  obtain ⟨halike₂, hcomplete⟩ : w₀.Alike w₂ ∧
      IsComplete md5 testRun autoConfigDashboard own discovered w₂ := by
    rcases hcase with hcomplete | ⟨hnil, hthere⟩
    · rw [hcomplete.eq hone hname (howns halike₁) hconfigurable.nodup (hpass halike₁ h₂)]
      exact ⟨halike₁, hcomplete⟩
    · obtain ⟨halike₂, hcomplete⟩ := IsComplete.of_there hone hname (howns halike₁) hnil hthere
        (hpass halike₁ h₂)
      exact ⟨halike₁.trans halike₂, hcomplete⟩
  have hsettled : ∀ w', Processed md5 testRun autoConfigDashboard own discovered w₂ w' → w' = w₂ :=
    fun w' h => hcomplete.eq hone hname (howns halike₂) hconfigurable.nodup h
  rw [hsettled w₃ (hpass halike₂ h₃)]
  exact hcomplete.isConfigured hone (howns halike₂) hsettled

end One

end

end Perfana.AutoConfig
