import Perfana.GrafanaSync.Tenancy

/-!
# Configuring the dashboards of a profile

A pass over a dashboard of a profile discovers its variables, and deals with them in sets: one in
all, or one for each value of the variable that dashboards are separate for. What it is for is that
the system of the run has one application dashboard for each set, with the variables that were
discovered; values that are hardcoded go first.

* `valuesOf_replaceHardcodedValuesForVariables`, `valuesOf_buildVariablesForSeparateDashboard`: the
  values that are stored;
* `covers_of_not_required`, `not_required_of_covers`: no update is required if and only if the
  values that are discovered are stored, whatever else is.
-/

namespace Perfana.AutoConfig

open GrafanaSync

/-! ## A pass -/

/-- Values were discovered, or are hardcoded. -/
def variableValuesFound (vars hardcoded : List DashboardVariable) : Bool :=
  !hardcoded.isEmpty || vars.any fun v => !v.values.isEmpty

/-- The variables with a value for the one that dashboards are separate for, which goes last. -/
def setOfValue (separate : String) (vars : List DashboardVariable) (value : String) :
    List DashboardVariable :=
  (vars.filter fun v => v.name ≠ separate) ++ [{ name := separate, values := [value] }]

/-- The sets of variables that are dealt with. -/
def setOfVariablesPerCreateSeparateDashboardForVariable (separateVariable : Option String)
    (vars : List DashboardVariable) : List (List DashboardVariable) :=
  match truthy separateVariable with
  | none => [vars]
  | some separate =>
    match vars.find? fun v => v.name = separate with
    | none => [vars]
    | some separateVar =>
      if separateVar.values.isEmpty then [vars]
      else separateVar.values.eraseDups.map (setOfValue separate vars)

section

variable (md5 : String → String) (api : GrafanaApi) (testRun : TestRun)
  (autoConfigDashboard : ProfileGrafanaDashboard)

def processDashboardsForVariables (vars : List DashboardVariable)
    (grafanaInstance : GrafanaInstance) (templateDashboard : Found) : Auto Unit :=
  (setOfVariablesPerCreateSeparateDashboardForVariable
    autoConfigDashboard.createSeparateDashboardForVariable vars).forM fun variableValues =>
      processSingleVariableSet md5 api testRun autoConfigDashboard variableValues grafanaInstance
        templateDashboard

/-- A pass over the dashboard, with the variables that it discovers. -/
def processAutoConfigDashboard (discovered : List DashboardVariable) : Auto Unit := do
  match ← getAndValidateTemplateDashboard testRun autoConfigDashboard with
  | none => pure ()
  | some templateDashboard =>
    match ← resolveGrafanaInstanceByLabel autoConfigDashboard.grafanaLabel
        testRun.organizationId with
    | none => pure ()
    | some grafanaInstance =>
      if variableValuesFound discovered autoConfigDashboard.setHardcodedValueForVariables then
        processDashboardsForVariables md5 api testRun autoConfigDashboard discovered
          grafanaInstance templateDashboard
      else pure ()

end

/-! ## What it is for -/

/-- The values of a variable. -/
def valuesOf (vars : List DashboardVariable) (name : String) : Option (List String) :=
  (vars.find? fun v => v.name = name).map DashboardVariable.values

/-- The values that a run has for a variable. -/
def TestRun.valuesOf (testRun : TestRun) (name : String) : Option (List String) :=
  if name = "system_under_test" then some [testRun.sutName]
  else if name = "test_environment" then some [testRun.testEnvironment]
  else none

section

variable (testRun : TestRun) (autoConfigDashboard : ProfileGrafanaDashboard)

/-- The values that application dashboards are expected for: `none` stands for one in all. -/
def expectedFor (discovered : List DashboardVariable) : List (Option String) :=
  match truthy autoConfigDashboard.createSeparateDashboardForVariable with
  | none => [none]
  | some separate => ((valuesOf discovered separate).getD []).map some

/-- The label of the application dashboard for a value. -/
def labelFor : Option String → String
  | none => autoConfigDashboard.dashboardName
  | some value => autoConfigDashboard.dashboardName ++ " " ++ value

/-- The values that the application dashboard for a value is expected to have: those that are
    hardcoded, the last for a variable, else its own, those discovered, or those of the run. -/
def expectedValues (discovered : List DashboardVariable) (value : Option String) (name : String) :
    Option (List String) :=
  (valuesOf autoConfigDashboard.setHardcodedValueForVariables.reverse name).or
    ((value.bind fun value =>
      if truthy autoConfigDashboard.createSeparateDashboardForVariable = some name then some [value]
      else none).or ((valuesOf discovered name).or (testRun.valuesOf name)))

end

/-! ## The values of variables -/

section

variable {vars vars' hardcoded : List DashboardVariable} {v : DashboardVariable}
  {name separate value : String} {values : List String} {testRun : TestRun}
  {autoConfigDashboard : ProfileGrafanaDashboard}

@[simp] theorem valuesOf_nil : valuesOf [] name = none := rfl

theorem valuesOf_cons : valuesOf (v :: vars) name =
    if v.name = name then some v.values else valuesOf vars name := by
  rw [valuesOf, List.find?_cons]
  by_cases h : v.name = name <;> simp [h, valuesOf]

theorem valuesOf_append :
    valuesOf (vars ++ vars') name = (valuesOf vars name).or (valuesOf vars' name) := by
  rw [valuesOf, List.find?_append, valuesOf, valuesOf]
  cases vars.find? fun v => v.name = name <;> rfl

theorem valuesOf_eq_none : valuesOf vars name = none ↔ ∀ v ∈ vars, v.name ≠ name := by
  rw [valuesOf, Option.map_eq_none_iff, List.find?_eq_none]
  simp

/-- A variable with a name of its own has its values. -/
theorem valuesOf_of_mem (hnodup : (vars.map DashboardVariable.name).Nodup) (hv : v ∈ vars) :
    valuesOf vars v.name = some v.values := by
  induction vars with
  | nil => cases hv
  | cons u vars ih =>
    obtain ⟨hu, hnodup⟩ := List.nodup_cons.1 hnodup
    rw [valuesOf_cons]
    rcases List.mem_cons.1 hv with rfl | hv
    · exact if_pos rfl
    · rw [if_neg fun heq => hu (List.mem_map.2 ⟨v, hv, heq.symm⟩)]
      exact ih hnodup hv

theorem valuesOf_filter_ne (h : name ≠ separate) :
    valuesOf (vars.filter fun v => v.name ≠ separate) name = valuesOf vars name := by
  induction vars with
  | nil => rfl
  | cons v vars ih =>
    rw [List.filter_cons, valuesOf_cons]
    split
    · rw [valuesOf_cons, ih]
    · rename_i hv
      have hname : v.name = separate := by simpa using hv
      rw [ih, if_neg fun heq => h (heq.symm.trans hname)]

theorem valuesOf_filter_self : valuesOf (vars.filter fun v => v.name ≠ separate) separate = none :=
  valuesOf_eq_none.2 fun _ hv => of_decide_eq_true (List.mem_filter.1 hv).2

/-- The values of a set: its own for the separate variable. -/
theorem valuesOf_setOfValue : valuesOf (setOfValue separate vars value) name =
    if separate = name then some [value] else valuesOf vars name := by
  rw [setOfValue, valuesOf_append, valuesOf_cons]
  split
  · rename_i h
    subst h
    rw [valuesOf_filter_self]
    rfl
  · rename_i h
    rw [valuesOf_filter_ne (Ne.symm h), valuesOf_nil, Option.or_none]

theorem nodup_setOfValue (hnodup : (vars.map DashboardVariable.name).Nodup) :
    ((setOfValue separate vars value).map DashboardVariable.name).Nodup := by
  rw [setOfValue, List.map_append, List.nodup_append]
  refine ⟨hnodup.sublist (List.filter_sublist.map _), List.nodup_singleton _, ?_⟩
  intro name hname name' hname'
  obtain ⟨v, hv, rfl⟩ := List.mem_map.1 hname
  rw [List.mem_singleton.1 hname']
  exact of_decide_eq_true (List.mem_filter.1 hv).2

/-- A variable is replaced, or added. -/
theorem valuesOf_upsertFirst : valuesOf
    (upsertFirst (fun old => old.name = v.name) (fun _ => v) v vars) name =
      if v.name = name then some v.values else valuesOf vars name := by
  split
  · rename_i h
    subst h
    have hfind := @find?_upsertFirst_self _ (fun old => decide (old.name = v.name)) (fun _ => v) v
      vars (fun _ _ => decide_eq_true rfl) (decide_eq_true rfl)
    rw [valuesOf, hfind]
    cases vars.find? fun old => old.name = v.name <;> rfl
  · rename_i h
    have hfind := @find?_upsertFirst_of_ne _ (fun old => decide (old.name = v.name))
      (fun old => decide (old.name = name)) (fun _ => v) v vars ?_ (decide_eq_false h)
    · rw [valuesOf, hfind, valuesOf]
    · intro u hu
      have hu : u.name = v.name := of_decide_eq_true hu
      exact ⟨decide_eq_false fun heq => h (hu.symm.trans heq), decide_eq_false h⟩

theorem nodup_upsertFirst (hnodup : (vars.map DashboardVariable.name).Nodup) :
    ((upsertFirst (fun old => old.name = v.name) (fun _ => v) v vars).map
      DashboardVariable.name).Nodup := by
  rw [upsertFirst]
  split
  · have hnames : ∀ vars : List DashboardVariable,
        (updateFirst (fun old => old.name = v.name) (fun _ => v) vars).map DashboardVariable.name =
          vars.map DashboardVariable.name := by
      intro vars
      induction vars with
      | nil => rfl
      | cons u vars ih =>
        rw [updateFirst]
        split
        · rename_i hu
          rw [List.map_cons, List.map_cons, of_decide_eq_true hu]
        · rw [List.map_cons, ih, List.map_cons]
    rwa [hnames]
  · rename_i hany
    rw [List.map_append, List.nodup_append]
    refine ⟨hnodup, List.nodup_singleton _, fun name hname name' hname' => ?_⟩
    obtain ⟨u, hu, rfl⟩ := List.mem_map.1 hname
    rw [List.mem_singleton.1 hname']
    exact fun heq => hany (List.any_eq_true.2 ⟨u, hu, decide_eq_true heq⟩)

/-- Hardcoded values go first, the last for a variable. -/
theorem valuesOf_replaceHardcodedValuesForVariables :
    valuesOf (replaceHardcodedValuesForVariables vars hardcoded) name =
      (valuesOf hardcoded.reverse name).or (valuesOf vars name) := by
  rw [replaceHardcodedValuesForVariables]
  induction hardcoded generalizing vars with
  | nil => rfl
  | cons h hardcoded ih =>
    rw [List.foldl_cons, ih, valuesOf_upsertFirst, List.reverse_cons, valuesOf_append,
      valuesOf_cons, valuesOf_nil, Option.or_assoc]
    split <;> rfl

theorem nodup_replaceHardcodedValuesForVariables
    (hnodup : (vars.map DashboardVariable.name).Nodup) :
    ((replaceHardcodedValuesForVariables vars hardcoded).map DashboardVariable.name).Nodup := by
  rw [replaceHardcodedValuesForVariables]
  induction hardcoded generalizing vars with
  | nil => exact hnodup
  | cons h hardcoded ih => exact ih (nodup_upsertFirst hnodup)

/-- The variables of the run are there unless they were discovered. -/
theorem valuesOf_withRunVariables : valuesOf (withRunVariables testRun vars) name =
    (valuesOf vars name).or (testRun.valuesOf name) := by
  have hadded : ∀ {own : String} {values : List String},
      valuesOf (if vars.any fun v => v.name = own then [] else [{ name := own, values }]) name =
        if own = name ∧ valuesOf vars name = none then some values else none := by
    intro own values
    by_cases hown : own = name
    · subst hown
      by_cases hany : (vars.any fun v => v.name = own) = true
      · have hsome : valuesOf vars own ≠ none := by
          obtain ⟨v, hv, hname⟩ := List.any_eq_true.1 hany
          exact fun hnone => valuesOf_eq_none.1 hnone v hv (of_decide_eq_true hname)
        rw [if_pos hany, if_neg fun h => hsome h.2]
        rfl
      · have hnone : valuesOf vars own = none := valuesOf_eq_none.2 fun v hv hname =>
          hany (List.any_eq_true.2 ⟨v, hv, decide_eq_true hname⟩)
        rw [if_neg hany, if_pos ⟨rfl, hnone⟩, valuesOf_cons, if_pos rfl]
    · have hnot : ¬(own = name ∧ valuesOf vars name = none) := fun h => hown h.1
      rw [if_neg hnot]
      split
      · rfl
      · rw [valuesOf_cons, if_neg hown, valuesOf_nil]
  rw [withRunVariables, valuesOf_append, valuesOf_append, hadded, hadded, TestRun.valuesOf]
  cases valuesOf vars name with
  | some values => simp
  | none =>
    by_cases hsystem : "system_under_test" = name
    · subst hsystem
      simp
    · by_cases henvironment : "test_environment" = name
      · subst henvironment
        simp
      · rw [if_neg fun h => hsystem h.1, if_neg fun h => henvironment h.1, if_neg (Ne.symm hsystem),
          if_neg (Ne.symm henvironment)]
        rfl

/-- A variable keeps its place, and its values. -/
theorem valuesOf_setIfMissing : valuesOf (setIfMissing vars v) name =
    (valuesOf vars name).or (if v.name = name then some v.values else none) := by
  rw [setIfMissing]
  split
  · rename_i hany
    obtain ⟨u, hu, hname⟩ := List.any_eq_true.1 hany
    have hname : u.name = v.name := of_decide_eq_true hname
    split
    · rename_i hv
      have hsome : valuesOf vars name ≠ none := fun hnone =>
        valuesOf_eq_none.1 hnone u hu (hname.trans hv)
      obtain ⟨values, hvalues⟩ := Option.ne_none_iff_exists'.1 hsome
      rw [hvalues]
      rfl
    · rw [Option.or_none]
  · rw [valuesOf_append, valuesOf_cons, valuesOf_nil]

theorem valuesOf_foldl_setIfMissing {f : DashboardVariable → DashboardVariable}
    (l : List DashboardVariable) :
    valuesOf (l.foldl (fun map v => setIfMissing map (f v)) vars) name =
      (valuesOf vars name).or (valuesOf (l.map f) name) := by
  induction l generalizing vars with
  | nil => rw [List.foldl_nil, List.map_nil, valuesOf_nil, Option.or_none]
  | cons v l ih =>
    rw [List.foldl_cons, ih, valuesOf_setIfMissing, List.map_cons, valuesOf_cons, Option.or_assoc]
    split <;> rfl

/-- The values of the dashboard for a value. -/
theorem valuesOf_buildVariablesForSeparateDashboard
    (hvars : valuesOf vars separate = some [value]) :
    valuesOf (buildVariablesForSeparateDashboard testRun autoConfigDashboard vars separate value)
        name =
      (valuesOf autoConfigDashboard.setHardcodedValueForVariables.reverse name).or
        ((valuesOf vars name).or (testRun.valuesOf name)) := by
  have hmap : ∀ l : List DashboardVariable, valuesOf (l.map fun v =>
      if v.name = separate then { v with values := [value] } else v) name =
        if separate = name then (valuesOf l name).map fun _ => [value] else valuesOf l name := by
    intro l
    induction l with
    | nil =>
      rw [List.map_nil, valuesOf_nil]
      split <;> rfl
    | cons v l ih =>
      rw [List.map_cons, valuesOf_cons, valuesOf_cons, ih]
      by_cases hv : v.name = separate
      · rw [if_pos hv]
        by_cases hname : separate = name
        · rw [if_pos (hv.trans hname), if_pos hname, if_pos (hv.trans hname)]
          rfl
        · rw [if_neg fun h => hname (hv.symm.trans h), if_neg hname, if_neg hname,
            if_neg fun h => hname (hv.symm.trans h)]
      · rw [if_neg hv]
        by_cases hname : separate = name
        · rw [if_neg fun h => hv (h.trans hname.symm), if_pos hname, if_pos hname,
            if_neg fun h => hv (h.trans hname.symm)]
        · rw [if_neg hname, if_neg hname]
  rw [buildVariablesForSeparateDashboard, valuesOf_foldl_setIfMissing,
    valuesOf_replaceHardcodedValuesForVariables, valuesOf_nil, Option.or_none, hmap,
    valuesOf_withRunVariables]
  split
  · rename_i h
    subst h
    rw [hvars]
    rfl
  · rfl

/-- All values are stored. -/
def Covers (stored vars : List DashboardVariable) : Prop :=
  ∀ name values, valuesOf vars name = some values → valuesOf stored name = some values

theorem not_required_iff {ad : ApplicationDashboard} {rest : List ApplicationDashboard}
    {stored : List DashboardVariable} (hstored : ad.variableValues = some stored) :
    checkIfUpdateRequired vars (ad :: rest) = false ↔
      ∀ v ∈ vars, valuesOf stored v.name = some v.values := by
  rw [checkIfUpdateRequired, hstored, List.any_eq_false]
  refine forall₂_congr fun v _ => ?_
  rw [valuesOf]
  cases stored.find? fun old => old.name = v.name with
  | none => simp
  | some old => simp

/-- An update that is not required has nothing new; -/
theorem covers_of_not_required {ad : ApplicationDashboard} {rest : List ApplicationDashboard}
    {stored : List DashboardVariable} (hstored : ad.variableValues = some stored)
    (h : checkIfUpdateRequired vars (ad :: rest) = false) : Covers stored vars := by
  intro name values hvalues
  obtain ⟨v, hfind, rfl⟩ := Option.map_eq_some_iff.1 hvalues
  have hname := List.find?_some hfind
  rw [← of_decide_eq_true hname]
  exact (not_required_iff hstored).1 h v (List.mem_of_find?_eq_some hfind)

/-- and none is required if all values are stored, whatever else is. -/
theorem not_required_of_covers {ad : ApplicationDashboard} {rest : List ApplicationDashboard}
    {stored : List DashboardVariable} (hstored : ad.variableValues = some stored)
    (hnodup : (vars.map DashboardVariable.name).Nodup) (h : Covers stored vars) :
    checkIfUpdateRequired vars (ad :: rest) = false :=
  (not_required_iff hstored).2 fun v hv => h v.name v.values (valuesOf_of_mem hnodup hv)

end

end Perfana.AutoConfig
