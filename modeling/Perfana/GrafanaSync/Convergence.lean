import Perfana.GrafanaSync.OneDashboard
import Perfana.GrafanaSync.SeparateDashboards

/-!
# Convergence

What passes leave depends on what earlier ones discovered: no value is taken back. A variable that
is gone stays in the one application dashboard, and those for values keep the other variables that
they were stored with.

* `converges`: passes configure a dashboard, if the earlier results suit the one that they have;
* `not_converges_of_gone`: not so if a variable is gone.
-/

namespace Perfana.AutoConfig

open GrafanaSync

section

variable {w₀ w w' : World} {own : GrafanaInstance} {testRun : TestRun}
  {autoConfigDashboard : ProfileGrafanaDashboard} {md5 : String → String} {api : GrafanaApi}
  {vars discovered earlier stored : List DashboardVariable} {separate value value' : String}
  {allowed : List DashboardVariable → Prop}

/-! ## An application dashboard for each value -/

section Separate

variable (hseparate : truthy autoConfigDashboard.createSeparateDashboardForVariable = some separate)

include hseparate

omit hseparate in
theorem valuesOf_eq_of_find? {v : DashboardVariable}
    (h : vars.find? (fun v => v.name = separate) = some v) :
    valuesOf vars separate = some v.values := by
  rw [valuesOf, h]
  rfl

/-- A result without values is dealt with as a whole, -/
theorem sets_of_no_value (hnone : (valuesOf vars separate).getD [] = []) :
    setOfVariablesPerCreateSeparateDashboardForVariable
      autoConfigDashboard.createSeparateDashboardForVariable vars = [vars] := by
  rw [setOfVariablesPerCreateSeparateDashboardForVariable, hseparate]
  dsimp only
  split
  · rfl
  · rename_i v hv
    rw [valuesOf_eq_of_find? hv, Option.getD_some] at hnone
    rw [hnone]
    rfl

/-- and others value for value. -/
theorem sets_of_values (hvalues : (valuesOf vars separate).getD [] ≠ []) :
    setOfVariablesPerCreateSeparateDashboardForVariable
      autoConfigDashboard.createSeparateDashboardForVariable vars =
        ((valuesOf vars separate).getD []).eraseDups.map (setOfValue separate vars) := by
  rw [setOfVariablesPerCreateSeparateDashboardForVariable, hseparate]
  dsimp only
  split
  · rename_i hv
    rw [valuesOf, hv] at hvalues
    exact absurd rfl hvalues
  · rename_i v hv
    rw [valuesOf_eq_of_find? hv, Option.getD_some] at hvalues ⊢
    rw [if_neg (by rwa [List.isEmpty_iff])]

/-- A set of a result that suits is one of the current result, or has no value. -/
theorem Suits.set (hsuits : Suits autoConfigDashboard discovered earlier)
    (h : vars ∈ setOfVariablesPerCreateSeparateDashboardForVariable
      autoConfigDashboard.createSeparateDashboardForVariable earlier) :
    (∃ value, vars = setOfValue separate discovered value) ∨
      (valuesOf vars separate).getD [] = [] := by
  by_cases hvalues : (valuesOf earlier separate).getD [] = []
  · rw [sets_of_no_value hseparate hvalues, List.mem_singleton] at h
    exact .inr (h ▸ hvalues)
  · rw [sets_of_values hseparate hvalues] at h
    obtain ⟨value, -, rfl⟩ := List.mem_map.1 h
    refine .inl ⟨value, ?_⟩
    rw [setOfValue, hsuits.separate separate hseparate, setOfValue]

variable (hconfigurable : Configurable testRun autoConfigDashboard own w₀ discovered)

include hconfigurable

/-- A set that suits keeps what there is. -/
theorem Kept.of_processed (hown : Owns w testRun autoConfigDashboard own)
    (hset : (∃ value, vars = setOfValue separate discovered value) ∨
      (valuesOf vars separate).getD [] = [])
    (hkept : Kept md5 testRun autoConfigDashboard own separate discovered w)
    (h : Processed md5 testRun autoConfigDashboard own vars w w') :
    w.Alike w' ∧ Kept md5 testRun autoConfigDashboard own separate discovered w' := by
  rcases hset with ⟨value, rfl⟩ | hnone
  · obtain ⟨halike, hkept', -⟩ := step_of_value hseparate hown hconfigurable.nodup hkept h
    exact ⟨halike, hkept'⟩
  · rcases step_without_value hseparate hown hconfigurable.name_ne hkept hnone h with
      ⟨hreadOnly, hreused⟩ | ⟨-, ⟨rfl, -⟩ | hcreated⟩
    · exact ⟨hreused.alikeLinks.1, hkept.reused hreadOnly hreused⟩
    · exact ⟨⟨rfl, rfl⟩, hkept⟩
    · exact ⟨hcreated.alikeLinks.1, hkept.created hcreated⟩

/-- So do all passes with results that suit. -/
theorem kept_of_run (hapart : autoConfigDashboard.readOnly = false →
      StayApart md5 testRun autoConfigDashboard own w₀ discovered separate) {es : List SetEvent}
    (hrun : Run (setStep md5 testRun autoConfigDashboard own)
      (TakesSet autoConfigDashboard own (Suits autoConfigDashboard discovered)) w₀ es w) :
    w₀.Alike w ∧ Kept md5 testRun autoConfigDashboard own separate discovered w := by
  have hnone : ∀ value, w₀.dashboardsWith testRun own.label (labelFor autoConfigDashboard value) =
      [] := by
    rw [← hconfigurable.owns.label]
    exact hconfigurable.fresh
  refine hrun.state_invariant (P := fun w => w₀.Alike w ∧
    Kept md5 testRun autoConfigDashboard own separate discovered w) ⟨⟨rfl, rfl⟩, ?_⟩ ?_
  · exact
      { noTemplate := fun hreadOnly => (hapart hreadOnly).noTemplate
        noOne := hnone none
        values := fun value => .inl (hnone (some value)) }
  · rintro s e s' ⟨halike, hkept⟩ ⟨htemplate, earlier, hsuits, hset⟩ hstep
    have hown := hconfigurable.owns.alike halike
    obtain ⟨halike', hkept'⟩ := Kept.of_processed hseparate hconfigurable hown
      (hsuits.set hseparate hset) hkept (processed_of_returns hown htemplate (of_setStep hstep))
    exact ⟨halike.trans halike', hkept'⟩

/-- A pass brings about for each value what its set does, if other sets keep it. -/
theorem values_of_pass {P : World → Prop} {Q : String → World → Prop}
    (halike : ∀ s, P s → w₀.Alike s)
    (hstep : ∀ value ∈ (valuesOf discovered separate).getD [], ∀ s s', P s →
      Processed md5 testRun autoConfigDashboard own (setOfValue separate discovered value) s s' →
        P s' ∧ Q value s' ∧ ∀ value', Q value' s → Q value' s')
    (hvalues : (valuesOf discovered separate).getD [] ≠ []) (hinv : P w)
    (h : GoesThrough md5 testRun autoConfigDashboard api discovered w w') :
    P w' ∧ ∀ value ∈ (valuesOf discovered separate).getD [], Q value w' := by
  obtain ⟨template, htemplate, hsets⟩ :=
    h.sets (hconfigurable.owns.alike (halike w hinv)) hconfigurable.found
  rw [sets_of_values hseparate hvalues, Traced.forM_map] at hsets
  have hprocess : ∀ value ∈ ((valuesOf discovered separate).getD []).eraseDups, ∀ s s', P s →
      (processSingleVariableSet md5 api testRun autoConfigDashboard
        (setOfValue separate discovered value) own template).Returns s () s' →
        P s' ∧ Q value s' ∧ ∀ value', Q value' s → Q value' s' := by
    intro value hvalue s s' hs hreturns
    exact hstep value (List.mem_eraseDups.1 hvalue) s s' hs
      (processed_of_returns (hconfigurable.owns.alike (halike s hs)) htemplate hreturns)
  obtain ⟨hinv', hdone⟩ := Traced.forM_induction
    (fun value hvalue s _ s' hs hreturns => (hprocess value hvalue s s' hs hreturns).1)
    (fun value hvalue s s' hs hreturns => (hprocess value hvalue s s' hs hreturns).2.1)
    (fun value hvalue value' _ s s' hs hdone hreturns =>
      (hprocess value hvalue s s' hs hreturns).2.2 value' hdone) hinv hsets
  exact ⟨hinv', fun value hvalue => hdone value (List.mem_eraseDups.2 hvalue)⟩

omit hconfigurable in
theorem expectedFor_of_separate : expectedFor autoConfigDashboard discovered =
    ((valuesOf discovered separate).getD []).map some := by
  rw [expectedFor, hseparate]

omit hconfigurable in
/-- What the dashboard for a value is stored with is what is expected. -/
theorem expectedValues_some (name : String) :
    expectedValues testRun autoConfigDashboard discovered (some value) name =
      valuesOf (buildVariablesForSeparateDashboard testRun autoConfigDashboard
        (setOfValue separate discovered value) separate value) name := by
  rw [valuesOf_buildVariablesForSeparateDashboard valuesOf_setOfValue_self, valuesOf_setOfValue,
    expectedValues, hseparate, Option.bind_some]
  by_cases hname : separate = name
  · rw [if_pos hname, if_pos (congrArg some hname)]
    rfl
  · rw [if_neg hname, if_neg fun h => hname (Option.some.inj h)]
    rfl

/-- The template is in use where it is looked up anew. -/
def IsSeen (md5 : String → String) (testRun : TestRun)
    (autoConfigDashboard : ProfileGrafanaDashboard) (own : GrafanaInstance) (separate : String)
    (discovered : List DashboardVariable) (value : String) (w : World) : Prop :=
  w.applicationDashboardsFor md5 testRun autoConfigDashboard
    (setOfValue separate discovered value) own.label = [] → InUse testRun autoConfigDashboard own w

/-- Three passes see to all values. -/
theorem hasValue_of_passes
    (halike : w₀.Alike w) (hkept : Kept md5 testRun autoConfigDashboard own separate discovered w)
    (hvalues : (valuesOf discovered separate).getD [] ≠ []) {api₁ api₂ api₃ : GrafanaApi}
    {w₁ w₂ w₃ : World}
    (h₁ : GoesThrough md5 testRun autoConfigDashboard api₁ discovered w w₁)
    (h₂ : GoesThrough md5 testRun autoConfigDashboard api₂ discovered w₁ w₂)
    (h₃ : GoesThrough md5 testRun autoConfigDashboard api₃ discovered w₂ w₃) : w₀.Alike w₃ ∧
    ∀ value ∈ (valuesOf discovered separate).getD [],
      HasValue md5 testRun autoConfigDashboard own separate discovered w₃ value ∧
        IsSeen md5 testRun autoConfigDashboard own separate discovered value w₃ := by
  have hstep : ∀ {s s' value}, w₀.Alike s →
      Kept md5 testRun autoConfigDashboard own separate discovered s →
      Processed md5 testRun autoConfigDashboard own (setOfValue separate discovered value) s s' →
        _ := fun hs => step_of_value hseparate (hconfigurable.owns.alike hs) hconfigurable.nodup
  -- The first pass creates the dashboards that are missing, but for the template,
  obtain ⟨⟨halike₁, hkept₁⟩, hready⟩ := values_of_pass hseparate hconfigurable
    (P := fun s => w₀.Alike s ∧ Kept md5 testRun autoConfigDashboard own separate discovered s)
    (Q := fun value s => Ready md5 testRun autoConfigDashboard own separate discovered s value)
    (fun s hs => hs.1) (fun value _ s s' hs hprocessed => by
      obtain ⟨halike', hkept', hready, -, hstays⟩ := hstep hs.1 hs.2 hprocessed
      exact ⟨⟨hs.1.trans halike', hkept'⟩, hready, fun value' => (hstays value').1⟩)
    hvalues ⟨halike, hkept⟩ h₁
  -- the second stores the application dashboards,
  obtain ⟨⟨halike₂, hkept₂, -⟩, hthere⟩ := values_of_pass hseparate hconfigurable
    (P := fun s => w₀.Alike s ∧ Kept md5 testRun autoConfigDashboard own separate discovered s ∧
      ∀ value ∈ (valuesOf discovered separate).getD [],
        Ready md5 testRun autoConfigDashboard own separate discovered s value)
    (Q := fun value s =>
      HasValue md5 testRun autoConfigDashboard own separate discovered s value)
    (fun s hs => hs.1) (fun value hvalue s s' hs hprocessed => by
      obtain ⟨halike', hkept', -, hthere, hstays⟩ := hstep hs.1 hs.2.1 hprocessed
      exact ⟨⟨hs.1.trans halike', hkept', fun value' hvalue' =>
          (hstays value').1 (hs.2.2 value' hvalue')⟩,
        hthere (hs.2.2 value hvalue), fun value' => (hstays value').2⟩)
    hvalues ⟨halike₁, hkept₁, hready⟩ h₂
  -- and the third reuses the template for the values that it is looked up for.
  obtain ⟨⟨halike₃, hthere₃⟩, hseen⟩ := values_of_pass hseparate hconfigurable
    (P := fun s => w₀.Alike s ∧ ∀ value ∈ (valuesOf discovered separate).getD [],
      HasValue md5 testRun autoConfigDashboard own separate discovered s value)
    (Q := IsSeen md5 testRun autoConfigDashboard own separate discovered)
    (fun s hs => hs.1) (fun value hvalue s s' hs hprocessed => by
      rcases step_of_hasValue hseparate (hconfigurable.owns.alike hs.1) hconfigurable.nodup
        (hs.2 value hvalue) hprocessed with ⟨rfl, hne⟩ | ⟨-, -, hreused⟩
      · exact ⟨hs, fun hnil => absurd hnil hne, fun _ => id⟩
      · exact ⟨⟨hs.1.trans hreused.alikeLinks.1, fun value' hvalue' =>
            (hs.2 value' hvalue').alikeLinks hreused.alikeLinks⟩,
          fun _ => hreused.inUse, fun _ _ _ => hreused.inUse⟩)
    hvalues ⟨halike₂, hthere⟩ h₃
  exact ⟨halike₃, fun value hvalue => ⟨hthere₃ value hvalue, hseen value hvalue⟩⟩

/-- Where all values are seen to, a pass changes nothing. -/
theorem eq_of_hasValue (halike : w₀.Alike w)
    (hvalues : (valuesOf discovered separate).getD [] ≠ [])
    (hthere : ∀ value ∈ (valuesOf discovered separate).getD [],
      HasValue md5 testRun autoConfigDashboard own separate discovered w value ∧
        IsSeen md5 testRun autoConfigDashboard own separate discovered value w)
    (h : (processAutoConfigDashboard md5 api testRun autoConfigDashboard discovered).Returns w ()
      w') : w' = w := by
  have hown := hconfigurable.owns.alike halike
  rcases of_pass hown h with ⟨heq, -⟩ | ⟨template, htemplate, hsets⟩
  · exact heq
  · rw [sets_of_values hseparate hvalues, Traced.forM_map] at hsets
    refine (Traced.forM_induction (P := (· = w)) (Q := fun _ _ => True) ?_
      (fun _ _ _ _ _ _ => trivial) (fun _ _ _ _ _ _ _ _ _ => trivial) rfl hsets).1
    rintro value hvalue s _ s' rfl hreturns
    obtain ⟨hvalue, hseen⟩ := hthere value (List.mem_eraseDups.1 hvalue)
    rcases step_of_hasValue hseparate hown hconfigurable.nodup hvalue
      (processed_of_returns hown htemplate hreturns) with ⟨heq, -⟩ | ⟨-, hnil, hreused⟩
    · exact heq
    · exact (hseen hnil).eq hreused

omit hconfigurable in
/-- Different values have different uids. -/
theorem StayApart.eq_of_uid
    (hapart : StayApart md5 testRun autoConfigDashboard own w₀ discovered separate)
    (hvalue : value ∈ (valuesOf discovered separate).getD [])
    (hvalue' : value' ∈ (valuesOf discovered separate).getD [])
    (huid : createDashboardUid md5 testRun autoConfigDashboard
        (setOfValue separate discovered value) =
      createDashboardUid md5 testRun autoConfigDashboard
        (setOfValue separate discovered value')) : value = value' := by
  by_cases hhardcoded : separate ∈ autoConfigDashboard.setHardcodedValueForVariables.map
    DashboardVariable.name
  · exact hapart.notHardcoded hhardcoded value hvalue value' hvalue'
  -- The text that the uid is a hash of ends with the value.
  obtain ⟨text, htext⟩ : ∃ text, ∀ value, uidText testRun autoConfigDashboard
      (setOfValue separate discovered value) = text ++ value := by
    obtain ⟨hname, -⟩ := Option.filter_eq_some_iff.1 hseparate
    refine ⟨uidBase testRun autoConfigDashboard ++ (DashboardUid.flattenVariables
      (((discovered.filter fun v => v.name ≠ separate).filter fun v =>
        !(autoConfigDashboard.setHardcodedValueForVariables.map DashboardVariable.name).contains
          v.name).filter fun v =>
            some v.name = autoConfigDashboard.createSeparateDashboardForVariable ||
              v.name = "system_under_test" || v.name = "test_environment") ++ separate),
      fun value => ?_⟩
    rw [uidText, setOfValue, List.filter_append, List.filter_append,
      List.filter_cons_of_pos (by simpa using hhardcoded), List.filter_nil,
      List.filter_cons_of_pos (by simp [hname]), List.filter_nil, DashboardUid.flattenVariables,
      List.flatMap_append, String.join_append, DashboardUid.flattenVariables, String.append_assoc,
      String.append_assoc]
    simp [String.join]
  have hmd5 : ∀ value, createDashboardUid md5 testRun autoConfigDashboard
      (setOfValue separate discovered value) =
        md5 (uidText testRun autoConfigDashboard (setOfValue separate discovered value)) := by
    intro value
    rw [createDashboardUid, hseparate]
    rfl
  rw [hmd5, hmd5] at huid
  have heq := hapart.noCollision value hvalue value' hvalue' huid
  rw [htext, htext] at heq
  exact (String.append_right_inj _).1 heq

/-- One that is expected for a value is configured. -/
theorem isConfigured_of_hasValue (hapart : autoConfigDashboard.readOnly = false →
      StayApart md5 testRun autoConfigDashboard own w₀ discovered separate) (halike : w₀.Alike w)
    (hvalues : (valuesOf discovered separate).getD [] ≠ [])
    (hthere : ∀ value ∈ (valuesOf discovered separate).getD [],
      HasValue md5 testRun autoConfigDashboard own separate discovered w value ∧
        IsSeen md5 testRun autoConfigDashboard own separate discovered value w) :
    IsConfigured md5 testRun autoConfigDashboard discovered w := by
  have hlabel := hconfigurable.owns.label
  refine
    { exactlyOne := fun value hvalue => ?_
      apart := fun hreadOnly value hvalue value' hvalue' hne ad had ad' had' huid => ?_
      settled := fun api w' h => eq_of_hasValue hseparate hconfigurable halike hvalues hthere h }
  · rw [expectedFor_of_separate hseparate] at hvalue
    obtain ⟨v, hv, rfl⟩ := List.mem_map.1 hvalue
    obtain ⟨ad, honly, hstored⟩ := (hthere v hv).1
    rw [hlabel]
    exact ⟨ad, _, honly, hstored.variableValues, fun name =>
      (expectedValues_some hseparate name).symm⟩
  · rw [expectedFor_of_separate hseparate] at hvalue hvalue'
    obtain ⟨v, hv, rfl⟩ := List.mem_map.1 hvalue
    obtain ⟨v', hv', rfl⟩ := List.mem_map.1 hvalue'
    obtain ⟨stored, honly, hstored⟩ := (hthere v hv).1
    obtain ⟨stored', honly', hstored'⟩ := (hthere v' hv').1
    rw [hlabel, honly, List.mem_singleton] at had
    rw [hlabel, honly', List.mem_singleton] at had'
    rw [had, had', hstored.uid, hstored'.uid, storedUid, storedUid, hreadOnly,
      if_neg Bool.false_ne_true, if_neg Bool.false_ne_true] at huid
    exact hne (congrArg some
      ((hapart hreadOnly).eq_of_uid hseparate hv hv' huid))

/-- Without values, the template is in use, or the dashboard is there. -/
def IsIdle (md5 : String → String) (testRun : TestRun)
    (autoConfigDashboard : ProfileGrafanaDashboard) (own : GrafanaInstance)
    (discovered : List DashboardVariable) (w : World) : Prop :=
  if autoConfigDashboard.readOnly then InUse testRun autoConfigDashboard own w
  else w.dashboardsOf own.id [createDashboardUid md5 testRun autoConfigDashboard discovered] ≠ []

/-- A set without values makes it so, and then changes nothing. -/
theorem idle_of_processed (halike : w₀.Alike w)
    (hkept : Kept md5 testRun autoConfigDashboard own separate discovered w)
    (hnone : (valuesOf discovered separate).getD [] = [])
    (h : Processed md5 testRun autoConfigDashboard own discovered w w') :
    IsIdle md5 testRun autoConfigDashboard own discovered w' ∧
      (IsIdle md5 testRun autoConfigDashboard own discovered w → w' = w) := by
  rw [IsIdle, IsIdle]
  rcases step_without_value hseparate (hconfigurable.owns.alike halike) hconfigurable.name_ne hkept
    hnone h with ⟨hreadOnly, hreused⟩ | ⟨hreadOnly, hcase⟩
  · rw [if_pos hreadOnly, if_pos hreadOnly]
    exact ⟨hreused.inUse, fun hidle => hidle.eq hreused⟩
  · rw [hreadOnly, if_neg Bool.false_ne_true, if_neg Bool.false_ne_true]
    rcases hcase with ⟨rfl, hrows⟩ | hcreated
    · exact ⟨hrows, fun _ => rfl⟩
    · exact ⟨hcreated.dashboardsOf_ne_nil, fun hrows => absurd hcreated.1 hrows⟩

/-- Without values, none is expected. -/
theorem isConfigured_of_idle (halike : w₀.Alike w)
    (hkept : Kept md5 testRun autoConfigDashboard own separate discovered w)
    (hnone : (valuesOf discovered separate).getD [] = [])
    (hidle : IsIdle md5 testRun autoConfigDashboard own discovered w) :
    IsConfigured md5 testRun autoConfigDashboard discovered w := by
  have hexpected : expectedFor autoConfigDashboard discovered = [] := by
    rw [expectedFor_of_separate hseparate, hnone, List.map_nil]
  refine
    { exactlyOne := fun value hvalue => ?_
      apart := fun _ value hvalue => ?_
      settled := fun api w' h => ?_ }
  · rw [hexpected] at hvalue
    cases hvalue
  · rw [hexpected] at hvalue
    cases hvalue
  · rcases eq_or_processed_of_pass (hconfigurable.owns.alike halike)
      (sets_of_no_value hseparate hnone) h with heq | hprocessed
    · exact heq
    · exact (idle_of_processed hseparate hconfigurable halike hkept hnone hprocessed).2 hidle

/-- Three passes configure a dashboard that is separate for a variable. -/
theorem converges_of_separate (hapart : autoConfigDashboard.readOnly = false →
      StayApart md5 testRun autoConfigDashboard own w₀ discovered separate) :
    Converges md5 testRun autoConfigDashboard own w₀ discovered
      (Suits autoConfigDashboard discovered) := by
  intro es w hrun api₁ api₂ api₃ w₁ w₂ w₃ h₁ h₂ h₃
  obtain ⟨halike, hkept⟩ := kept_of_run hseparate hconfigurable hapart hrun
  by_cases hvalues : (valuesOf discovered separate).getD [] = []
  · have hpass : ∀ {api s s'}, w₀.Alike s →
        GoesThrough md5 testRun autoConfigDashboard api discovered s s' →
          Processed md5 testRun autoConfigDashboard own discovered s s' := fun hs h =>
      h.processed (hconfigurable.owns.alike hs) (sets_of_no_value hseparate hvalues)
        hconfigurable.found
    have hidle : ∀ {s s'}, w₀.Alike s →
        Kept md5 testRun autoConfigDashboard own separate discovered s →
        Processed md5 testRun autoConfigDashboard own discovered s s' →
        w₀.Alike s' ∧ Kept md5 testRun autoConfigDashboard own separate discovered s' := by
      intro s s' hs hkept h
      obtain ⟨halike', hkept'⟩ := Kept.of_processed hseparate hconfigurable
        (hconfigurable.owns.alike hs) (.inr hvalues) hkept h
      exact ⟨hs.trans halike', hkept'⟩
    obtain ⟨halike₁, hkept₁⟩ := hidle halike hkept (hpass halike h₁)
    obtain ⟨halike₂, hkept₂⟩ := hidle halike₁ hkept₁ (hpass halike₁ h₂)
    obtain ⟨halike₃, hkept₃⟩ := hidle halike₂ hkept₂ (hpass halike₂ h₃)
    have hseen := (idle_of_processed hseparate hconfigurable halike₂ hkept₂ hvalues
      (hpass halike₂ h₃)).1
    exact isConfigured_of_idle hseparate hconfigurable halike₃ hkept₃ hvalues hseen
  · obtain ⟨halike₃, hthere⟩ := hasValue_of_passes hseparate hconfigurable halike hkept hvalues
      h₁ h₂ h₃
    exact isConfigured_of_hasValue hseparate hconfigurable hapart halike₃ hvalues hthere

end Separate

/-! ## Convergence -/

/-- Three passes configure a dashboard, if the earlier results suit the one that they have. -/
theorem converges (hconfigurable : Configurable testRun autoConfigDashboard own w₀ discovered)
    (hapart : autoConfigDashboard.readOnly = false →
      ∀ separate ∈ truthy autoConfigDashboard.createSeparateDashboardForVariable,
        StayApart md5 testRun autoConfigDashboard own w₀ discovered separate) :
    Converges md5 testRun autoConfigDashboard own w₀ discovered
      (Suits autoConfigDashboard discovered) := by
  cases hseparate : truthy autoConfigDashboard.createSeparateDashboardForVariable with
  | none => exact converges_of_one hseparate hconfigurable.name_ne hconfigurable
  | some separate =>
    exact converges_of_separate hseparate hconfigurable fun hreadOnly =>
      hapart hreadOnly separate hseparate

end

/-! ## Results that change -/

/-- A dashboard of a profile that is separate for a variable. -/
def jvmPerInstance : ProfileGrafanaDashboard :=
  { jvmOfProfile false with createSeparateDashboardForVariable := some "instance" }

/-- What is discovered with some instances. -/
def discoveredInstances (values : List String) : List DashboardVariable :=
  [{ name := "job", values := ["webshop"] }, { name := "instance", values }]

/-- The world that a pass leaves. -/
def passWebshop (autoConfigDashboard : ProfileGrafanaDashboard)
    (discovered : List DashboardVariable) : World → World :=
  (processAutoConfigDashboard id creatingApi webshopRun autoConfigDashboard discovered).after

theorem configurable_webshop {autoConfigDashboard : ProfileGrafanaDashboard}
    {discovered : List DashboardVariable} (hlabel : autoConfigDashboard.grafanaLabel = "Default")
    (hname : autoConfigDashboard.dashboardName ≠ "")
    (hfound : variableValuesFound discovered autoConfigDashboard.setHardcodedValueForVariables =
      true) (hnodup : (discovered.map DashboardVariable.name).Nodup) :
    Configurable webshopRun autoConfigDashboard ownGrafana (twoTenants "Globex") discovered where
  means := by
    rw [hlabel]
    rfl
  ownLabel gi hgi hown := by
    rcases List.mem_pair.1 hgi with rfl | rfl
    · exact absurd hown (by decide)
    · rfl
  label_ne := by
    rw [hlabel]
    decide
  name_ne := hname
  fresh _ := rfl
  found := hfound
  nodup := hnodup

/-- An instance that is new gets its dashboard. -/
theorem isConfigured_jvmPerInstance :
    IsConfigured id webshopRun jvmPerInstance (discoveredInstances ["a", "b"])
      (passWebshop jvmPerInstance (discoveredInstances ["a", "b"])
        (passWebshop jvmPerInstance (discoveredInstances ["a", "b"])
          (passWebshop jvmPerInstance (discoveredInstances ["a", "b"])
            (passWebshop jvmPerInstance (discoveredInstances ["a"]) (twoTenants "Globex"))))) := by
  have hconfigurable : Configurable webshopRun jvmPerInstance ownGrafana (twoTenants "Globex")
      (discoveredInstances ["a", "b"]) :=
    configurable_webshop rfl (by decide) rfl (by decide)
  have hsuits : Suits jvmPerInstance (discoveredInstances ["a", "b"]) (discoveredInstances ["a"]) :=
    { one := fun h => by cases h
      separate := fun separate hseparate => by
        cases hseparate
        decide }
  have hearlier : (processAutoConfigDashboard id creatingApi webshopRun jvmPerInstance
      (discoveredInstances ["a"])).Returns (twoTenants "Globex") ()
        (passWebshop jvmPerInstance (discoveredInstances ["a"]) (twoTenants "Globex")) :=
    Traced.returns_after (by decide +kernel)
  obtain ⟨es, hrun⟩ := exists_run_of_pass hconfigurable.owns .start hsuits hearlier
  have hapart : ∀ separate ∈ truthy jvmPerInstance.createSeparateDashboardForVariable,
      StayApart id webshopRun jvmPerInstance ownGrafana (twoTenants "Globex")
        (discoveredInstances ["a", "b"]) separate := fun separate _ =>
    { noTemplate := fun value gd hgd => by
        rw [List.mem_singleton.1 (mem_dashboardsOf hgd).1]
        rfl
      noCollision := fun _ _ _ _ => id
      notHardcoded := fun h => by cases h }
  exact converges hconfigurable (fun _ => hapart) es _ hrun creatingApi creatingApi creatingApi
    _ _ _
    (goesThrough_after (by decide +kernel) (by decide +kernel))
    (goesThrough_after (by decide +kernel) (by decide +kernel))
    (goesThrough_after (by decide +kernel) (by decide +kernel))

/-- What is discovered without instances. -/
def instanceGone : List DashboardVariable := [{ name := "job", values := ["webshop"] }]

/-- Three passes without a variable that was discovered before. -/
def webshopWithout : World :=
  passWebshop (jvmOfProfile true) instanceGone
    (passWebshop (jvmOfProfile true) instanceGone
      (passWebshop (jvmOfProfile true) instanceGone
        (passWebshop (jvmOfProfile true) (discoveredInstances ["a"]) (twoTenants "Globex"))))

/-- A variable that is gone stays. -/
theorem not_converges_of_gone :
    Configurable webshopRun (jvmOfProfile true) ownGrafana (twoTenants "Globex") instanceGone ∧
      ¬Converges id webshopRun (jvmOfProfile true) ownGrafana (twoTenants "Globex") instanceGone
        fun _ => True := by
  have hconfigurable : Configurable webshopRun (jvmOfProfile true) ownGrafana (twoTenants "Globex")
      instanceGone :=
    configurable_webshop rfl (by decide) rfl (by decide)
  refine ⟨hconfigurable, fun h => ?_⟩
  have hearlier : (processAutoConfigDashboard id creatingApi webshopRun (jvmOfProfile true)
      (discoveredInstances ["a"])).Returns (twoTenants "Globex") ()
        (passWebshop (jvmOfProfile true) (discoveredInstances ["a"]) (twoTenants "Globex")) :=
    Traced.returns_after (by decide +kernel)
  obtain ⟨es, hrun⟩ := @exists_run_of_pass _ _ _ _ _ _ _ _ _ (fun _ => True) _
    hconfigurable.owns .start trivial hearlier
  have hconfigured : IsConfigured id webshopRun (jvmOfProfile true) instanceGone webshopWithout :=
    h es _ hrun creatingApi creatingApi creatingApi _ _ _
      (goesThrough_after (by decide +kernel) (by decide +kernel))
      (goesThrough_after (by decide +kernel) (by decide +kernel))
      (goesThrough_after (by decide +kernel) (by decide +kernel))
  obtain ⟨ad, stored, honly, hstored, hvalues⟩ :=
    hconfigured.exactlyOne none (List.mem_singleton_self _)
  have hall : (webshopWithout.dashboardsWith webshopRun "Default" "JVM").all (fun ad =>
      ad.variableValues.any fun stored => (valuesOf stored "instance").isSome) = true := by
    decide +kernel
  have honly : webshopWithout.dashboardsWith webshopRun "Default" "JVM" = [ad] := honly
  rw [honly, List.all_cons, List.all_nil, Bool.and_true, hstored, Option.any_some, hvalues] at hall
  cases hall

end Perfana.AutoConfig
