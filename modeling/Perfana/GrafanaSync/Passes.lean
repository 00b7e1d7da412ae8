import Perfana.GrafanaSync.Processing
import Perfana.Lib.Run

/-!
# Passes over a dashboard

Passes may discover something else each time. A run is what passes deal with, set for set; after it,
passes with one result should configure the dashboard, whatever was left before.

* `Converges`: three passes that go through configure the dashboard;
* `of_pass`, `GoesThrough.sets`: a pass deals with its sets, one after the other;
* `exists_run_of_pass`: what a pass deals with is a run.
-/

namespace Perfana.AutoConfig

open GrafanaSync

/-! ## Passes -/

/-- A set of variables that is dealt with, and what Grafana answers. -/
structure SetEvent where
  api : GrafanaApi
  templateDashboard : Found
  variableValues : List DashboardVariable

section

variable (md5 : String → String) (testRun : TestRun)
  (autoConfigDashboard : ProfileGrafanaDashboard) (own : GrafanaInstance)

/-- Deal with a set of variables. -/
def setStep (w : World) (e : SetEvent) : Option World :=
  ((processSingleVariableSet md5 e.api testRun autoConfigDashboard e.variableValues own
    e.templateDashboard w).2.toOption).map Prod.snd

/-- The set is one of a pass that discovered something allowed. -/
def TakesSet (allowed : List DashboardVariable → Prop) (_ : World) (e : SetEvent) : Prop :=
  e.templateDashboard.grafanaInstance = own ∧ ∃ earlier, allowed earlier ∧
    e.variableValues ∈ setOfVariablesPerCreateSeparateDashboardForVariable
      autoConfigDashboard.createSeparateDashboardForVariable earlier

/-- The pass finds its template, and goes through. -/
structure GoesThrough (api : GrafanaApi) (discovered : List DashboardVariable) (w w' : World) :
    Prop where
  template : ∃ template, (getAndValidateTemplateDashboard testRun autoConfigDashboard).Returns w
    (some template) w
  returns : (processAutoConfigDashboard md5 api testRun autoConfigDashboard discovered).Returns w
    () w'

/-- The application dashboards are those that are expected, and a pass changes nothing. -/
structure IsConfigured (discovered : List DashboardVariable) (w : World) : Prop where
  exactlyOne : ∀ value ∈ expectedFor autoConfigDashboard discovered, ∃ ad stored,
    w.dashboardsWith testRun autoConfigDashboard.grafanaLabel (labelFor autoConfigDashboard value) =
        [ad] ∧ ad.variableValues = some stored ∧
      ∀ name, valuesOf stored name =
        expectedValues testRun autoConfigDashboard discovered value name
  /-- Those that are created per value have a dashboard of their own each. -/
  apart : autoConfigDashboard.readOnly = false →
    ∀ value ∈ expectedFor autoConfigDashboard discovered,
    ∀ value' ∈ expectedFor autoConfigDashboard discovered, value ≠ value' →
    ∀ ad ∈ w.dashboardsWith testRun autoConfigDashboard.grafanaLabel
      (labelFor autoConfigDashboard value),
    ∀ ad' ∈ w.dashboardsWith testRun autoConfigDashboard.grafanaLabel
      (labelFor autoConfigDashboard value'), ad.dashboardUid ≠ ad'.dashboardUid
  settled : ∀ api w', (processAutoConfigDashboard md5 api testRun autoConfigDashboard
    discovered).Returns w () w' → w' = w

/-- Whatever passes with allowed results have left, three passes that go through configure the
    dashboard. -/
def Converges (w₀ : World) (discovered : List DashboardVariable)
    (allowed : List DashboardVariable → Prop) : Prop :=
  ∀ es w, Run (setStep md5 testRun autoConfigDashboard own)
      (TakesSet autoConfigDashboard own allowed) w₀ es w →
    ∀ api₁ api₂ api₃ w₁ w₂ w₃,
      GoesThrough md5 testRun autoConfigDashboard api₁ discovered w w₁ →
      GoesThrough md5 testRun autoConfigDashboard api₂ discovered w₁ w₂ →
      GoesThrough md5 testRun autoConfigDashboard api₃ discovered w₂ w₃ →
      IsConfigured md5 testRun autoConfigDashboard discovered w₃

/-! ## When they converge -/

/-- An earlier result has no variable that is gone, or, where dashboards are separate, the same
    variables, but for the values that they are separate for. -/
structure Suits (discovered earlier : List DashboardVariable) : Prop where
  one : truthy autoConfigDashboard.createSeparateDashboardForVariable = none → ∀ v ∈ earlier,
    v.name ∈ discovered.map DashboardVariable.name ∨
      v.name ∈ autoConfigDashboard.setHardcodedValueForVariables.map DashboardVariable.name
  separate : ∀ separate ∈ truthy autoConfigDashboard.createSeparateDashboardForVariable,
    (earlier.filter fun v => v.name ≠ separate) = discovered.filter fun v => v.name ≠ separate

/-- The text that the uid of a separate dashboard is a hash of. -/
def uidText (vars : List DashboardVariable) : String :=
  uidBase testRun autoConfigDashboard ++ DashboardUid.flattenVariables
    ((vars.filter fun v => !(autoConfigDashboard.setHardcodedValueForVariables.map
      DashboardVariable.name).contains v.name).filter fun v =>
        some v.name = autoConfigDashboard.createSeparateDashboardForVariable ||
          v.name = "system_under_test" || v.name = "test_environment")

/-- The dashboard can be configured: the profile means a Grafana with a label of its own, the system
    has no dashboard of the profile at first, and variables are discovered. -/
structure Configurable (w₀ : World) (discovered : List DashboardVariable) : Prop where
  means : w₀.resolve autoConfigDashboard.grafanaLabel testRun.organizationId = some own
  ownLabel : w₀.IsOwnLabel own
  label_ne : autoConfigDashboard.grafanaLabel ≠ ""
  name_ne : autoConfigDashboard.dashboardName ≠ ""
  fresh : ∀ value, w₀.dashboardsWith testRun autoConfigDashboard.grafanaLabel
    (labelFor autoConfigDashboard value) = []
  found : variableValuesFound discovered autoConfigDashboard.setHardcodedValueForVariables = true
  nodup : (discovered.map DashboardVariable.name).Nodup

/-- The stored dashboards that the uids of values mean name no template. -/
def HasNoTemplates (discovered : List DashboardVariable) (separate : String) (w : World) : Prop :=
  ∀ value, ∀ gd ∈ w.dashboardsOf own.id [createDashboardUid md5 testRun autoConfigDashboard
    (setOfValue separate discovered value)], truthy gd.templateDashboardUid = none

/-- Dashboards that are created for values stay apart: none that is there names a template that they
    would share, their uids have no collision, and the variable is not hardcoded if there are
    several values. -/
structure StayApart (w₀ : World) (discovered : List DashboardVariable) (separate : String) :
    Prop where
  noTemplate : HasNoTemplates md5 testRun autoConfigDashboard own discovered separate w₀
  noCollision : ∀ value ∈ (valuesOf discovered separate).getD [],
    ∀ value' ∈ (valuesOf discovered separate).getD [],
    md5 (uidText testRun autoConfigDashboard (setOfValue separate discovered value)) =
      md5 (uidText testRun autoConfigDashboard (setOfValue separate discovered value')) →
    uidText testRun autoConfigDashboard (setOfValue separate discovered value) =
      uidText testRun autoConfigDashboard (setOfValue separate discovered value')
  notHardcoded : separate ∈ autoConfigDashboard.setHardcodedValueForVariables.map
      DashboardVariable.name →
    ∀ value ∈ (valuesOf discovered separate).getD [],
    ∀ value' ∈ (valuesOf discovered separate).getD [], value = value'

end

section

variable {w₀ w w' : World} {own : GrafanaInstance} {testRun : TestRun}
  {autoConfigDashboard : ProfileGrafanaDashboard} {md5 : String → String} {api : GrafanaApi}
  {vars discovered earlier stored : List DashboardVariable} {separate value value' : String}
  {allowed : List DashboardVariable → Prop}

theorem of_setStep {e : SetEvent} (h : setStep md5 testRun autoConfigDashboard own w e = some w') :
    (processSingleVariableSet md5 e.api testRun autoConfigDashboard e.variableValues own
      e.templateDashboard).Returns w () w' := by
  rw [setStep, Option.map_eq_some_iff] at h
  obtain ⟨⟨u, w''⟩, hok, rfl⟩ := h
  rw [Traced.Returns]
  cases hresult : (processSingleVariableSet md5 e.api testRun autoConfigDashboard e.variableValues
    own e.templateDashboard w).2 with
  | error message =>
    rw [hresult] at hok
    cases hok
  | ok result =>
    rw [hresult] at hok
    cases hok
    rfl

theorem World.Alike.trans {s : World} (h : w₀.Alike w) (h' : w.Alike s) : w₀.Alike s :=
  ⟨h'.1.trans h.1, h'.2.trans h.2⟩

/-- A label of its own means the instance within every organization that it may be of. -/
theorem resolve_of_isOwnLabel {organizationId : Option String} (hmem : own ∈ w.instances.rows)
    (hownLabel : w.IsOwnLabel own)
    (horg : ∀ org ∈ truthy organizationId, own.organizationId = some org) :
    w.resolve own.label organizationId = some own := by
  refine resolve_of_unique (mem_matching.2 ⟨hmem, rfl, horg⟩) fun gi hgi => ?_
  obtain ⟨hgi, hlabel, -⟩ := mem_matching.1 hgi
  exact eq_of_label hgi hmem hlabel (hownLabel gi hgi hlabel)

theorem Configurable.owns (h : Configurable testRun autoConfigDashboard own w₀ discovered) :
    Owns w₀ testRun autoConfigDashboard own := by
  obtain ⟨hmem, hlabel, horg⟩ := of_resolve h.means
  exact
    { label := hlabel.symm
      label_ne := hlabel ▸ h.label_ne
      unscoped := resolve_unscoped hmem h.ownLabel
      ofRun := hlabel ▸ h.means
      ofOwn := resolve_of_isOwnLabel hmem h.ownLabel fun _ h =>
        (Option.filter_eq_some_iff.1 h).1 }

/-- What is returned for the template is the world as it was. -/
theorem getAndValidate_reads {template? : Option Found}
    (h : (getAndValidateTemplateDashboard testRun autoConfigDashboard).Returns w template? w') :
    w' = w := by
  obtain ⟨found?, w'', hfind, h⟩ := Traced.returns_bind_iff.1 h
  obtain rfl := findGrafanaDashboardOrNull_reads hfind
  cases found? with
  | none => exact (Traced.returns_pure_iff.1 h).2
  | some found =>
    dsimp only at h
    split at h
    · exact absurd h Traced.not_returns_fail
    · split at h
      · exact absurd h Traced.not_returns_fail
      · exact (Traced.returns_pure_iff.1 h).2

/-- A pass deals with its sets, one after the other, if there is a template, and values. -/
theorem of_pass (hown : Owns w testRun autoConfigDashboard own)
    (h : (processAutoConfigDashboard md5 api testRun autoConfigDashboard vars).Returns w () w') :
    w' = w ∧ (variableValuesFound vars autoConfigDashboard.setHardcodedValueForVariables = true →
        ¬∃ template, (getAndValidateTemplateDashboard testRun autoConfigDashboard).Returns w
          (some template) w) ∨
      ∃ template : Found, template.grafanaInstance = own ∧
        ((setOfVariablesPerCreateSeparateDashboardForVariable
          autoConfigDashboard.createSeparateDashboardForVariable vars).forM fun variableValues =>
            processSingleVariableSet md5 api testRun autoConfigDashboard variableValues own
              template).Returns w () w' := by
  obtain ⟨template?, w₁, htemplate, h⟩ := Traced.returns_bind_iff.1 h
  obtain rfl := getAndValidate_reads htemplate
  cases template? with
  | none =>
    refine .inl ⟨(Traced.returns_pure_iff.1 h).2, ?_⟩
    rintro - ⟨template, hreturns⟩
    cases (htemplate.unique hreturns).1
  | some template =>
    have hresolve : w₁.resolve autoConfigDashboard.grafanaLabel testRun.organizationId =
        some own := by
      rw [hown.label]
      exact hown.ofRun
    have hinstance := (of_template testRun autoConfigDashboard htemplate).1
    rw [hresolve] at hinstance
    dsimp only at h
    rw [Traced.Returns, Traced.bind_of_eq_ok (resolveGrafanaInstanceByLabel_some hresolve)] at h
    dsimp only at h
    split at h
    · exact .inr ⟨template, (Option.some.inj hinstance).symm, h⟩
    · rename_i hfound
      refine .inl ⟨(Traced.returns_pure_iff.1 (show Traced.Returns _ _ _ _ from h)).2, fun h => ?_⟩
      exact absurd h hfound

/-- A pass that goes through deals with its sets. -/
theorem GoesThrough.sets (h : GoesThrough md5 testRun autoConfigDashboard api vars w w')
    (hown : Owns w testRun autoConfigDashboard own)
    (hfound : variableValuesFound vars autoConfigDashboard.setHardcodedValueForVariables = true) :
    ∃ template : Found, template.grafanaInstance = own ∧
      ((setOfVariablesPerCreateSeparateDashboardForVariable
        autoConfigDashboard.createSeparateDashboardForVariable vars).forM fun variableValues =>
          processSingleVariableSet md5 api testRun autoConfigDashboard variableValues own
            template).Returns w () w' := by
  rcases of_pass hown h.returns with ⟨-, hnone⟩ | hsets
  · exact absurd h.template (hnone hfound)
  · exact hsets

theorem Suits.refl : Suits autoConfigDashboard discovered discovered where
  one _ _ hv := .inl (List.mem_map_of_mem hv)
  separate _ _ := rfl

/-- What the dashboard is stored with has all values. -/
theorem covers_oneVariables : Covers (oneVariables testRun autoConfigDashboard vars)
    (replaceHardcodedValuesForVariables vars
      autoConfigDashboard.setHardcodedValueForVariables) := by
  intro name values hvalues
  rw [valuesOf_oneVariables, hvalues]
  rfl

/-- A pass with one set deals with that, if it does anything; -/
theorem eq_or_processed_of_pass (hown : Owns w testRun autoConfigDashboard own)
    (hsets : setOfVariablesPerCreateSeparateDashboardForVariable
      autoConfigDashboard.createSeparateDashboardForVariable vars = [vars])
    (h : (processAutoConfigDashboard md5 api testRun autoConfigDashboard vars).Returns w () w') :
    w' = w ∨ Processed md5 testRun autoConfigDashboard own vars w w' := by
  rcases of_pass hown h with ⟨heq, -⟩ | ⟨template, htemplate, hall⟩
  · exact .inl heq
  · rw [hsets] at hall
    obtain ⟨_, w₁, hset, hrest⟩ := Traced.returns_bind_iff.1 hall
    obtain ⟨-, rfl⟩ := Traced.returns_pure_iff.1 hrest
    exact .inr (processed_of_returns hown htemplate hset)

/-- and it does, if it goes through. -/
theorem GoesThrough.processed (h : GoesThrough md5 testRun autoConfigDashboard api vars w w')
    (hown : Owns w testRun autoConfigDashboard own)
    (hsets : setOfVariablesPerCreateSeparateDashboardForVariable
      autoConfigDashboard.createSeparateDashboardForVariable vars = [vars])
    (hfound : variableValuesFound vars autoConfigDashboard.setHardcodedValueForVariables = true) :
    Processed md5 testRun autoConfigDashboard own vars w w' := by
  obtain ⟨template, htemplate, hall⟩ := h.sets hown hfound
  rw [hsets] at hall
  obtain ⟨_, w₁, hset, hrest⟩ := Traced.returns_bind_iff.1 hall
  obtain ⟨-, rfl⟩ := Traced.returns_pure_iff.1 hrest
  exact processed_of_returns hown htemplate hset

/-! ## Whole passes -/

theorem setStep_of_returns {template : Found}
    (h : (processSingleVariableSet md5 api testRun autoConfigDashboard vars own template).Returns
      w () w') : setStep md5 testRun autoConfigDashboard own w
        { api := api, templateDashboard := template, variableValues := vars } = some w' := by
  rw [setStep, h]
  rfl

/-- What a pass deals with, set for set, is a run. -/
theorem exists_run_of_pass {es : List SetEvent} (hown : Owns w testRun autoConfigDashboard own)
    (hrun : Run (setStep md5 testRun autoConfigDashboard own)
      (TakesSet autoConfigDashboard own allowed) w₀ es w) (hvars : allowed vars)
    (h : (processAutoConfigDashboard md5 api testRun autoConfigDashboard vars).Returns w () w') :
    ∃ es, Run (setStep md5 testRun autoConfigDashboard own)
      (TakesSet autoConfigDashboard own allowed) w₀ es w' := by
  rcases of_pass hown h with ⟨rfl, -⟩ | ⟨template, htemplate, hsets⟩
  · exact ⟨es, hrun⟩
  · have hall : ∀ sets : List (List DashboardVariable),
        sets ⊆ setOfVariablesPerCreateSeparateDashboardForVariable
          autoConfigDashboard.createSeparateDashboardForVariable vars →
        ∀ es w, Run (setStep md5 testRun autoConfigDashboard own)
          (TakesSet autoConfigDashboard own allowed) w₀ es w →
        (sets.forM fun variableValues => processSingleVariableSet md5 api testRun
          autoConfigDashboard variableValues own template).Returns w () w' →
        ∃ es, Run (setStep md5 testRun autoConfigDashboard own)
          (TakesSet autoConfigDashboard own allowed) w₀ es w' := by
      intro sets hsub
      induction sets with
      | nil =>
        intro es w hrun h
        obtain ⟨-, rfl⟩ := Traced.returns_pure_iff.1 h
        exact ⟨es, hrun⟩
      | cons set sets ih =>
        intro es w hrun h
        obtain ⟨_, w₁, hset, h⟩ := Traced.returns_bind_iff.1 h
        obtain ⟨hmem, hsub⟩ := List.cons_subset.1 hsub
        exact ih hsub _ w₁
          (hrun.snoc ⟨htemplate, vars, hvars, hmem⟩ (setStep_of_returns hset)) h
    exact hall _ (List.Subset.refl _) es w hrun hsets

/-- A pass that returns goes through if there is a template. -/
theorem goesThrough_after
    (htemplate : ((getAndValidateTemplateDashboard testRun autoConfigDashboard w).2.toOption.any
      fun result => result.1.isSome) = true)
    (h : (processAutoConfigDashboard md5 api testRun autoConfigDashboard vars w).2.isOk = true) :
    GoesThrough md5 testRun autoConfigDashboard api vars w
      ((processAutoConfigDashboard md5 api testRun autoConfigDashboard vars).after w) where
  template := by
    obtain ⟨⟨template?, w'⟩, hresult, hsome⟩ := (Option.any_eq_true _ _).1 htemplate
    obtain ⟨template, rfl⟩ := Option.isSome_iff_exists.1 hsome
    have hreturns : (getAndValidateTemplateDashboard testRun autoConfigDashboard).Returns w
        (some template) w' := by
      rw [Traced.Returns]
      cases hok : (getAndValidateTemplateDashboard testRun autoConfigDashboard w).2 with
      | error message =>
        rw [hok] at hresult
        cases hresult
      | ok result =>
        rw [hok] at hresult
        cases hresult
        rfl
    obtain rfl := getAndValidate_reads hreturns
    exact ⟨template, hreturns⟩
  returns := Traced.returns_after h

end

end Perfana.AutoConfig
