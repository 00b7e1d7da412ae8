import Perfana.Collection.GrafanaFrames
import Mathlib.Data.List.Infix

/-!
# Panels that are repeated

A panel that is repeated by a variable is collected once for each value of it, under one
identifier. Its metrics are told apart by their names: where the variable does not seem to stand in
the targets, the value is put before them, and otherwise the names are left as Grafana gives them.

* `keepsApart_iff`: whatever Grafana answers, the values are kept apart, if and only if there are
  no two of them, or the variable does not stand in the targets and what is put before the names for
  one value does not begin with that for another;
* `keepsApart_of_seriesDiffer`: else they are where the series of different values have different
  names;
* `hostname_mixes`: they are not where the variable is part of a query and not of a legend, where
  it is part of another variable, or where a value begins like another one.
-/

namespace Perfana.RepeatedPanels

open GrafanaFrames

/-! ## Repeating a panel -/

/-- A panel of a dashboard. -/
structure GrafanaPanel where
  /-- The variable that it is repeated by, if any. -/
  repeat_ : Option String
  /-- Its targets, printed as JSON, if it has some. -/
  targets : Option String
  unit : Option String
  deriving DecidableEq, Repr

/-- A variable of an application dashboard. -/
structure DashboardVariable where
  name : String
  values : List String
  deriving DecidableEq, Repr

/-- How often a panel is repeated at most. -/
def MAX_REPEAT_EXPANSION : ℕ := 20

/-- A text stands in another one. -/
def includes (s t : String) : Bool := decide (t.toList <:+: s.toList)

/-- Whether the variable seems to stand in the targets: its name may be part of another one. -/
def repeatVarInTargets (targets : Option String) (name : String) : Bool :=
  let s := targets.getD "[]"
  includes s ("$" ++ name) || includes s ("$\x7b" ++ name ++ "\x7d")

/-- A panel to collect, for a value of the variable. -/
structure PanelDocument where
  /-- The value, if the panel is repeated. -/
  repeatValue : Option String
  /-- The panel, as it is stored. -/
  panel : GrafanaFrames.Panel
  /-- The values of the variables in its queries. -/
  queryVariables : Table String String

/-- The name of the variable that a panel is repeated by. -/
def GrafanaPanel.repeatVar (p : GrafanaPanel) : Option String := p.repeat_.filter (· ≠ "")

/-- The values that a panel is repeated for. -/
def repeatValues (p : GrafanaPanel) (vars : Option (List DashboardVariable)) : List String :=
  match p.repeatVar with
  | some repeatVar =>
    (((vars.bind fun vs => vs.find? (·.name = repeatVar)).map DashboardVariable.values).getD
      []).take MAX_REPEAT_EXPANSION
  | none => []

/-- The values, or none for a panel that is not repeated. -/
def expansionValues (p : GrafanaPanel) (vars : Option (List DashboardVariable)) :
    List (Option String) :=
  if repeatValues p vars = [] then [none] else (repeatValues p vars).map some

/-- Whether the variable of a panel seems to stand in its targets. -/
def varInTargets (p : GrafanaPanel) : Bool := p.repeatVar.any (repeatVarInTargets p.targets)

/-- The panel for a value. Its title, in which the value is put as well, is not used below. -/
def panelDocument (p : GrafanaPanel) (baseQueryVariables : Table String String)
    (repeatValue : Option String) : PanelDocument where
  repeatValue := repeatValue
  panel := { perfanaMetricPrefix := if varInTargets p then none else repeatValue, unit := p.unit }
  queryVariables :=
    match repeatValue, p.repeatVar with
    | some value, some repeatVar =>
      baseQueryVariables.set repeatVar (if value = "All" then ".*" else value)
    | _, _ => baseQueryVariables

/-- The panels that are collected for a panel of a dashboard. -/
def createPanelDocuments (p : GrafanaPanel) (vars : Option (List DashboardVariable))
    (baseQueryVariables : Table String String) : List PanelDocument :=
  (expansionValues p vars).map (panelDocument p baseQueryVariables)

/-! ## Rows of different values -/

section Rows

variable {K : Type*} [LinearOrder K] (collationKey : String → K)
  (now : Option String → ℕ → String → ℤ) (testRun : Option GrafanaFrames.TestRun)

/-- The metric rows that are built for a panel from what Grafana answers for the value. -/
def metricRows (responses : Option String → PanelResponse) (document : PanelDocument) :
    List MetricsRecord :=
  match transformPanelData collationKey (now document.repeatValue) testRun document.panel
    (responses document.repeatValue) with
  | .ok records => records
  | .error _ => []

/-- The rows of different values of one panel have different metric names. -/
def KeepsApart (p : GrafanaPanel) (vars : Option (List DashboardVariable))
    (baseQueryVariables : Table String String) (responses : Option String → PanelResponse) : Prop :=
  ∀ d ∈ createPanelDocuments p vars baseQueryVariables,
    ∀ d' ∈ createPanelDocuments p vars baseQueryVariables, d.repeatValue ≠ d'.repeatValue →
      ∀ r ∈ metricRows collationKey now testRun responses d,
        ∀ r' ∈ metricRows collationKey now testRun responses d', r.metricName ≠ r'.metricName

end Rows

/-- What is put before the names of metrics for a value. -/
def metricPrefix (value : String) : String := if value = "" then "" else value ++ " - "

/-- The names of the series of a response: those of its number fields. -/
def seriesNames (response : PanelResponse) : List String :=
  response.flatMap fun result => result.2.flatMap fun frame =>
    (frame.fields.filter (·.type = .number)).map Field.displayName

section Apart

variable {K : Type*} [LinearOrder K] {collationKey : String → K}
  {now : Option String → ℕ → String → ℤ} {testRun : Option GrafanaFrames.TestRun}
  {p : GrafanaPanel} {vars : Option (List DashboardVariable)}
  {baseQueryVariables : Table String String} {responses : Option String → PanelResponse}
  {v w name : String}

@[simp] theorem panelDocument_panel (repeatValue : Option String) :
    (panelDocument p baseQueryVariables repeatValue).panel =
      { perfanaMetricPrefix := if varInTargets p then none else repeatValue, unit := p.unit } := rfl

theorem metricName_panelDocument (h : varInTargets p = false) (v name : String) :
    (panelDocument p baseQueryVariables (some v)).panel.metricName name =
      metricPrefix v ++ name := by
  rw [panelDocument_panel, GrafanaFrames.Panel.metricName, GrafanaFrames.Panel.metricNamePrefix,
    metricPrefix, h, if_neg Bool.false_ne_true]
  by_cases hv : v = ""
  · simp [hv, Option.filter]
  · simp [hv, Option.filter]

theorem metricName_of_varInTargets (h : varInTargets p = true) (repeatValue : Option String)
    (name : String) :
    (panelDocument p baseQueryVariables repeatValue).panel.metricName name = name := by
  rw [panelDocument_panel, GrafanaFrames.Panel.metricName, GrafanaFrames.Panel.metricNamePrefix,
    if_pos h]
  rfl

theorem mem_createPanelDocuments {d : PanelDocument} :
    d ∈ createPanelDocuments p vars baseQueryVariables ↔
      ∃ value ∈ expansionValues p vars, d = panelDocument p baseQueryVariables value := by
  rw [createPanelDocuments, List.mem_map]
  simp only [eq_comm]

/-- Documents of different values are of values that the panel is repeated for. -/
theorem exists_values {value value' : Option String} (h : value ∈ expansionValues p vars)
    (h' : value' ∈ expansionValues p vars) (hne : value ≠ value') :
    ∃ v ∈ repeatValues p vars, ∃ w ∈ repeatValues p vars, v ≠ w ∧
      value = some v ∧ value' = some w := by
  rw [expansionValues] at h h'
  split at h
  · rw [if_pos ‹_›] at h'
    exact absurd ((List.mem_singleton.1 h).trans (List.mem_singleton.1 h').symm) hne
  · rw [if_neg ‹_›] at h'
    obtain ⟨v, hv, rfl⟩ := List.mem_map.1 h
    obtain ⟨w, hw, rfl⟩ := List.mem_map.1 h'
    exact ⟨v, hv, w, hw, fun heq => hne (congrArg some heq), rfl, rfl⟩

theorem mem_expansionValues (h : v ∈ repeatValues p vars) :
    some v ∈ expansionValues p vars := by
  rw [expansionValues, if_neg (List.ne_nil_of_mem h)]
  exact List.mem_map_of_mem h

/-- A row is named after a series of the response. -/
theorem exists_seriesName {d : PanelDocument} {r : MetricsRecord}
    (h : r ∈ metricRows collationKey now testRun responses d) :
    ∃ name ∈ seriesNames (responses d.repeatValue), r.metricName = d.panel.metricName name := by
  rw [metricRows] at h
  split at h
  · rename_i records hok
    obtain ⟨result, hresult, frame, hframe, field, hfield, htype, hname⟩ :=
      exists_field_of_mem hok h
    refine ⟨field.displayName, List.mem_flatMap.2 ⟨result, hresult, List.mem_flatMap.2
      ⟨frame, hframe, List.mem_map_of_mem (List.mem_filter.2 ⟨hfield, ?_⟩)⟩⟩, hname⟩
    exact decide_eq_true htype
  · cases h

/-- Names that start differently are different. -/
theorem append_ne_append {a b : String} (h : ¬a.toList <+: b.toList) (h' : ¬b.toList <+: a.toList)
    (s t : String) : a ++ s ≠ b ++ t := by
  intro heq
  have hlist : a.toList ++ s.toList = b.toList ++ t.toList := by
    rw [← String.toList_append, heq, String.toList_append]
  have ha : a.toList <+: a.toList ++ s.toList := List.prefix_append _ _
  have hb : b.toList <+: a.toList ++ s.toList := hlist ▸ List.prefix_append _ _
  rcases Nat.le_total a.toList.length b.toList.length with hle | hle
  · exact h (List.prefix_of_prefix_length_le ha hb hle)
  · exact h' (List.prefix_of_prefix_length_le hb ha hle)

/-- A name that ends otherwise is not mistaken for a time or a prototype. -/
theorem toLower_append_ne (s : String) : (s ++ "m").toLower ≠ "time" ∧ s ++ "m" ≠ "__proto__" := by
  constructor
  · intro h
    have hmap : (s ++ "m").map Char.toLower = "time" := h
    have hlast := congrArg (fun t : String => t.toList.getLast?) hmap
    simp [String.toList_map, String.toList_append] at hlast
  · intro h
    have hlast := congrArg (fun t : String => t.toList.getLast?) h
    simp [String.toList_append] at hlast

/-- A response with one series. -/
def answer (s : String) : PanelResponse :=
  [("A", [seriesFrame (s ++ "m") (.number (0 : ℤ)) (.number 1)])]

/-- The row of a series is named after it. -/
theorem exists_row {d : PanelDocument} {s : String} (h : responses d.repeatValue = answer s) :
    ∃ r ∈ metricRows collationKey now testRun responses d,
      r.metricName = d.panel.metricName (s ++ "m") := by
  obtain ⟨htime, hproto⟩ := toLower_append_ne s
  obtain ⟨records, hok, r, hr, hname⟩ : ∃ records, transformPanelData collationKey
      (now d.repeatValue) testRun d.panel (answer s) = .ok records ∧
        ∃ r ∈ records, r.metricName = d.panel.metricName (s ++ "m") :=
    exists_record_seriesFrame htime hproto (by decide) 1
  refine ⟨r, ?_, hname⟩
  rw [metricRows, h, hok]
  exact hr

/-- Two values are mixed, if a name for the one is a name for the other. -/
theorem not_keepsApart (hv : v ∈ repeatValues p vars) (hw : w ∈ repeatValues p vars) (hne : v ≠ w)
    (s t : String)
    (hmix : (panelDocument p baseQueryVariables (some v)).panel.metricName (s ++ "m") =
      (panelDocument p baseQueryVariables (some w)).panel.metricName (t ++ "m")) :
    ¬KeepsApart collationKey now testRun p vars baseQueryVariables
      fun value => if value = some v then answer s else answer t := by
  intro hapart
  have hdocument : ∀ u ∈ repeatValues p vars, panelDocument p baseQueryVariables (some u) ∈
      createPanelDocuments p vars baseQueryVariables := fun u hu =>
    mem_createPanelDocuments.2 ⟨some u, mem_expansionValues hu, rfl⟩
  obtain ⟨r, hr, hname⟩ : ∃ r ∈ metricRows collationKey now testRun
      (fun value => if value = some v then answer s else answer t)
        (panelDocument p baseQueryVariables (some v)), r.metricName = _ := exists_row (if_pos rfl)
  obtain ⟨r', hr', hname'⟩ : ∃ r ∈ metricRows collationKey now testRun
      (fun value => if value = some v then answer s else answer t)
        (panelDocument p baseQueryVariables (some w)), r.metricName = _ :=
    exists_row (if_neg fun h => hne (Option.some.inj h).symm)
  refine hapart _ (hdocument v hv) _ (hdocument w hw) (fun h => hne (Option.some.inj h)) r hr r' hr'
    ?_
  rw [hname, hname', hmix]

/-- The values of a panel are told apart, whatever the names of its series are. -/
def SeparatesNames (p : GrafanaPanel) (vars : Option (List DashboardVariable)) : Prop :=
  (∀ v ∈ repeatValues p vars, ∀ w ∈ repeatValues p vars, v = w) ∨
    (varInTargets p = false ∧ ∀ v ∈ repeatValues p vars, ∀ w ∈ repeatValues p vars, v ≠ w →
      ¬(metricPrefix v).toList <+: (metricPrefix w).toList)

theorem keepsApart_of_separatesNames (h : SeparatesNames p vars)
    (responses : Option String → PanelResponse) :
    KeepsApart collationKey now testRun p vars baseQueryVariables responses := by
  intro d hd d' hd' hne r hr r' hr'
  obtain ⟨value, hvalue, rfl⟩ := mem_createPanelDocuments.1 hd
  obtain ⟨value', hvalue', rfl⟩ := mem_createPanelDocuments.1 hd'
  obtain ⟨v, hv, w, hw, hvw, rfl, rfl⟩ := exists_values hvalue hvalue' hne
  rcases h with hsame | ⟨htargets, hstarts⟩
  · exact absurd (hsame v hv w hw) hvw
  · obtain ⟨name, -, hname⟩ := exists_seriesName hr
    obtain ⟨name', -, hname'⟩ := exists_seriesName hr'
    rw [hname, hname', metricName_panelDocument htargets, metricName_panelDocument htargets]
    exact append_ne_append (hstarts v hv w hw hvw) (hstarts w hw v hv hvw.symm) _ _

/-- Whatever Grafana answers, the values are kept apart, if and only if there are no two of them,
    or nothing of the variable seems to stand in the targets and no value starts like another. -/
theorem keepsApart_iff :
    (∀ responses, KeepsApart collationKey now testRun p vars baseQueryVariables responses) ↔
      SeparatesNames p vars := by
  refine ⟨fun h => ?_, keepsApart_of_separatesNames⟩
  by_contra hnot
  rw [SeparatesNames, not_or] at hnot
  obtain ⟨hsame, hstarts⟩ := hnot
  cases htargets : varInTargets p with
  | true =>
    -- Nothing is put before the names, and the series have the same.
    push Not at hsame
    obtain ⟨v, hv, w, hw, hne⟩ := hsame
    refine not_keepsApart hv hw hne "" "" ?_ (h _)
    rw [metricName_of_varInTargets htargets, metricName_of_varInTargets htargets]
  | false =>
    -- A series of the one value is named like the other value and a series of it.
    push Not at hstarts
    obtain ⟨v, hv, w, hw, hne, rest, hrest⟩ := hstarts htargets
    refine not_keepsApart hv hw hne (String.ofList rest) "" ?_ (h _)
    rw [metricName_panelDocument htargets, metricName_panelDocument htargets]
    refine String.toList_injective ?_
    simp [String.toList_append, ← hrest]

/-- The series of different values have different names. -/
def SeriesDiffer (p : GrafanaPanel) (vars : Option (List DashboardVariable))
    (responses : Option String → PanelResponse) : Prop :=
  ∀ v ∈ repeatValues p vars, ∀ w ∈ repeatValues p vars, v ≠ w →
    ∀ name ∈ seriesNames (responses (some v)), name ∉ seriesNames (responses (some w))

/-- Otherwise they are kept apart where the series of different values have different names. -/
theorem keepsApart_of_seriesDiffer (htargets : varInTargets p = true)
    (hdiffer : SeriesDiffer p vars responses) :
    KeepsApart collationKey now testRun p vars baseQueryVariables responses := by
  intro d hd d' hd' hne r hr r' hr'
  obtain ⟨value, hvalue, rfl⟩ := mem_createPanelDocuments.1 hd
  obtain ⟨value', hvalue', rfl⟩ := mem_createPanelDocuments.1 hd'
  obtain ⟨v, hv, w, hw, hvw, rfl, rfl⟩ := exists_values hvalue hvalue' hne
  obtain ⟨name, hmem, hname⟩ := exists_seriesName hr
  obtain ⟨name', hmem', hname'⟩ := exists_seriesName hr'
  rw [hname, hname', metricName_of_varInTargets htargets, metricName_of_varInTargets htargets]
  rintro rfl
  exact hdiffer v hv w hw hvw name hmem hmem'

/-- The values of a panel are kept apart whatever Grafana answers, exactly if nothing depends on
    the names of its series, and if the names are left as they are, where these differ. -/
theorem keepsApart (collationKey : String → K) (now : Option String → ℕ → String → ℤ)
    (testRun : Option GrafanaFrames.TestRun) (p : GrafanaPanel)
    (vars : Option (List DashboardVariable)) (baseQueryVariables : Table String String) :
    ((∀ responses, KeepsApart collationKey now testRun p vars baseQueryVariables responses) ↔
      SeparatesNames p vars) ∧
    ∀ responses, varInTargets p = true → SeriesDiffer p vars responses →
      KeepsApart collationKey now testRun p vars baseQueryVariables responses :=
  ⟨keepsApart_iff, fun _ => keepsApart_of_seriesDiffer⟩

end Apart

/-! ## Examples -/

/-- A panel that is repeated by the hosts, which its query selects, but its legend does not name. -/
def hostPanel (targets : String) : GrafanaPanel :=
  { repeat_ := some "host", targets := some targets, unit := none }

/-- The hosts of a dashboard. -/
def hosts (values : List String) : Option (List DashboardVariable) :=
  some [{ name := "host", values := values }]

/-- The series of a host, named after it. -/
def hostAnswer (host : Option String) : PanelResponse := answer (host.getD "")

/-- Hosts are kept apart where they are put before the names, or are in the legend. -/
theorem keepsApart_hosts :
    (∀ responses, KeepsApart (K := String) id (fun _ _ _ => 0) none (hostPanel "[]")
      (hosts ["a", "b"]) Table.empty responses) ∧
    KeepsApart (K := String) id (fun _ _ _ => 0) none
      (hostPanel "[\x7b\"expr\":\"up\x7bhost=$host\x7d\",\"legendFormat\":\"$host up\"\x7d]")
        (hosts ["a", "b"]) Table.empty hostAnswer := by
  refine ⟨(keepsApart id _ _ _ _ _).1.2 (.inr ⟨?_, ?_⟩), (keepsApart id _ _ _ _ _).2 _ ?_ ?_⟩
  · decide +kernel
  · decide +kernel
  · decide +kernel
  · unfold SeriesDiffer
    decide +kernel

/-- What the hosts answer is mixed where the variable is part of the query alone, where another one
    is called alike, and where a host is named after another one. -/
theorem hostname_mixes :
    (∃ responses, ¬KeepsApart (K := String) id (fun _ _ _ => 0) none
      (hostPanel "[\x7b\"expr\":\"up\x7bhost=$host\x7d\",\"legendFormat\":\"up\"\x7d]")
        (hosts ["a", "b"]) Table.empty responses) ∧
    (∃ responses, ¬KeepsApart (K := String) id (fun _ _ _ => 0) none
      (hostPanel "[\x7b\"expr\":\"up\x7bname=$hostname\x7d\"\x7d]")
        (hosts ["a", "b"]) Table.empty responses) ∧
    ∃ responses, ¬KeepsApart (K := String) id (fun _ _ _ => 0) none (hostPanel "[]")
      (hosts ["a", "a - b"]) Table.empty responses := by
  refine ⟨⟨_, not_keepsApart (v := "a") (w := "b") ?_ ?_ ?_ "" "" ?_⟩,
    ⟨_, not_keepsApart (v := "a") (w := "b") ?_ ?_ ?_ "" "" ?_⟩,
    ⟨_, not_keepsApart (v := "a") (w := "a - b") ?_ ?_ ?_ "b - " "" ?_⟩⟩ <;>
  decide +kernel

end Perfana.RepeatedPanels
