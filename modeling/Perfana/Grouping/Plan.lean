import Perfana.Lib.MapM
import Mathlib.Data.String.Basic
import Perfana.Grouping.SeriesGrouping
import Perfana.Lib.Text

/-!
# Grouped and ungrouped statistics

The statistics of a batch of runs are computed by two statements. Which panels are grouped
is decided from the rules of the runs: each series of a panel that a rule covers is recorded
with its group (`buildMembership`); the first statement leaves these panels out
(`metricsFiltered`), and the second joins the samples with the record (`members`), combines
those of a group at a time and names the series of the group.

* `buildMembership_perm`: the record has one row for each series of the covered panels;
* `paths`: every sample of the batch is in one of the statements, by the rule of its panel
  before that of its dashboard, and is in no statistic exactly if its group is renamed and
  none of its series can be named.
-/

namespace Perfana.SeriesGrouping

/-! ## Rules of a run -/

/-- A rule that covers a run, as it is selected for it. -/
structure GroupingRule where
  testRunId : String
  ruleId : String
  applicationDashboardId : String
  /-- The panel that the rule is for, or every panel of the dashboard. -/
  panelId : Option ℤ
  spec : RuleSpec
deriving DecidableEq

/-- A rule with its known aggregations, unless it is refused or has none. -/
def loadRule (regExp : RegExp) (row : GroupingRule) : Option GroupingRule :=
  let spec : RuleSpec := { row.spec with
    replacement := some (row.spec.replacement.getD "")
    aggregations := (normalizeAggregations row.spec.aggregations).map Aggregation.text }
  match compileSeriesGroupingRule regExp spec with
  | .error _ => none
  | .ok _ => if spec.aggregations = [] then none else some { row with spec }

def loadSeriesGroupingContext (regExp : RegExp) (rows : List GroupingRule) : List GroupingRule :=
  rows.filterMap (loadRule regExp)

/-- A panel of a run. -/
structure Panel where
  testRunId : String
  applicationDashboardId : String
  panelId : ℤ
deriving DecidableEq

/-- The rule of a panel, else that of its dashboard. Of several the last one counts. -/
def governingRule (rules : List GroupingRule) (panel : Panel) : Option GroupingRule :=
  let mine := rules.filter fun rule => rule.testRunId = panel.testRunId &&
    rule.applicationDashboardId = panel.applicationDashboardId
  (mine.filter fun rule => rule.panelId = some panel.panelId).getLast?.or
    (mine.filter fun rule => rule.panelId = none).getLast?

/-! ## Membership -/

/-- A raw series of a panel. -/
structure SeriesRow where
  panel : Panel
  metricName : String
  dashboardLabel : Option String
  panelTitle : Option String
deriving DecidableEq

/-- A raw series with its group. -/
structure MembershipRow extends SeriesRow where
  groupName : SeriesName
  /-- What the group emits, none if it is not renamed. -/
  aggregations : List Aggregation
  renamed : Bool
  ruleId : String
deriving DecidableEq

/-- The name of a series as it is grouped. -/
def SeriesRow.name (row : SeriesRow) : SeriesName := Utf16.encode row.metricName

/-- The group of a series among those of its panel. -/
def member (grouping : Result) (rule : GroupingRule) (row : SeriesRow) : MembershipRow :=
  let group := (grouping.mapping.get row.name).getD row.name
  { row with
    groupName := group
    aggregations := (grouping.seriesAggregations.get group).getD []
    renamed := grouping.isRenamed.get group = some true
    ruleId := rule.ruleId }

/-- The series of a panel with their groups, if a rule covers it. -/
def panelMembership (regExp : RegExp) (rules : List GroupingRule) (panel : Panel)
    (rows : List SeriesRow) : Except String (List MembershipRow) :=
  match governingRule rules panel with
  | none => .ok []
  | some rule => (applySeriesGrouping regExp rule.spec (rows.map SeriesRow.name)).map fun grouping =>
    rows.map (member grouping rule)

/-- The digits of a panel's id, padded to ten. -/
def paddedPanelId (panelId : ℤ) : String :=
  String.ofList (List.replicate (10 - (toString panelId).toList.length) '0') ++ toString panelId

/-- What the rows are sorted by. -/
def sortKey (row : MembershipRow) : SeriesName :=
  Utf16.encode row.panel.testRunId ++ 0 :: Utf16.encode row.panel.applicationDashboardId ++
    0 :: Utf16.encode (paddedPanelId row.panel.panelId) ++ 0 :: row.name

/-- Every series of the covered panels with its group. -/
def buildMembership (regExp : RegExp) (rules : List GroupingRule) (series : List SeriesRow) :
    Except String (List MembershipRow) :=
  ((groupsBy SeriesRow.panel series).mapM fun g => panelMembership regExp rules g.1 g.2).map
    fun out => out.flatten.insertionSort fun a b => sortKey a ≤ sortKey b

/-! ## Samples -/

structure Sample where
  panel : Panel
  metricName : String
  time : ℤ
  value : Option ℚ
  rampUp : Option Bool
  dashboardLabel : Option String
  panelTitle : Option String
deriving DecidableEq

/-- The least of some texts that are not null. -/
def minText (texts : List (Option String)) : Option String :=
  (texts.filterMap id).foldl (fun least text => match least with
    | none => some text
    | some other => if text < other then some text else some other) none

/-- The raw series of a run on some dashboards. -/
def seriesOfDashboards (samples : List Sample) (testRunId : String) (dashboards : List String) :
    List SeriesRow :=
  (groupsBy (fun m : Sample => (m.panel, m.metricName)) (samples.filter fun m =>
    m.panel.testRunId = testRunId && m.panel.applicationDashboardId ∈ dashboards)).map fun g =>
      ⟨g.1.1, g.1.2, minText (g.2.map Sample.dashboardLabel), minText (g.2.map Sample.panelTitle)⟩

/-- The raw series of the dashboards that the rules of the runs are for. -/
def seriesOfRuns (rules : List GroupingRule) (runs : List String) (samples : List Sample) :
    List SeriesRow :=
  runs.flatMap fun run => seriesOfDashboards samples run
    ((rules.filter fun rule => rule.testRunId = run).map GroupingRule.applicationDashboardId)

def buildSeriesMembership (regExp : RegExp) (rules : List GroupingRule) (runs : List String)
    (samples : List Sample) : Except String (List MembershipRow) :=
  buildMembership regExp rules (seriesOfRuns rules runs samples)

/-- The record of the membership, if its rows can be stored: a series of a panel has one, and
    labels and titles fit their columns. -/
def insertMembership (rows : List MembershipRow) : Option (Table (Panel × String) MembershipRow) :=
  if rows.all fun row => row.dashboardLabel.all (fun label => (Text.varchar 255 label).isSome) &&
      row.panelTitle.all (fun title => (Text.varchar 255 title).isSome)
  then Table.ofRows (rows.map fun row => ((row.panel, row.metricName), row))
  else none

/-! ## The two statements -/

def groupedPanels (rows : List MembershipRow) : List Panel :=
  (rows.map fun row => row.panel).eraseDups

/-- The sample counts for the statistics of the batch. -/
def inScope (runs dashboards : List String) (m : Sample) : Bool :=
  m.panel.testRunId ∈ runs && m.rampUp = some false && m.value.isSome &&
    m.panel.applicationDashboardId ∈ dashboards

/-- The samples of the statement without groups. -/
def metricsFiltered (runs dashboards : List String) (rows : List MembershipRow)
    (samples : List Sample) : List Sample :=
  samples.filter fun m => inScope runs dashboards m && m.panel ∉ groupedPanels rows

/-- The rows of the membership that a sample is joined with. -/
def members (rows : List MembershipRow) (m : Sample) : List MembershipRow :=
  rows.filter fun row => row.panel = m.panel && row.metricName = m.metricName

/-- The rows of a group that have samples at a time. Groups that are sent under one name are
    one group. -/
def groupedPoint (runs dashboards : List String) (rows : List MembershipRow)
    (samples : List Sample) (panel : Panel) (group : String) (time : ℤ) : List MembershipRow :=
  (samples.filter fun m => inScope runs dashboards m && m.panel = panel && m.time = time).flatMap
    fun m => (members rows m).filter fun row => Utf16.decode row.groupName = group

/-- Aggregations as they are sent. -/
def joined (aggregations : List Aggregation) : String :=
  String.ofList ([','].intercalate (aggregations.map fun a => a.text.toList))

/-- The greatest of some lists of aggregations, in the order of the texts that are sent. -/
def maxAggregations (lists : List (List Aggregation)) : List Aggregation :=
  lists.foldl (fun greatest list => if joined greatest < joined list then list else greatest) []

/-- The names of the series that a point of a group belongs to. -/
def pointSeries (group : String) (point : List MembershipRow) : List String :=
  if point.any fun row => row.renamed then
    (maxAggregations (point.map fun row => row.aggregations)).map fun a =>
      group ++ (" (" ++ a.text ++ ")")
  else [group]

/-- The names of the statistics that a sample is part of. -/
def statisticsOf (runs dashboards : List String) (rows : List MembershipRow)
    (samples : List Sample) (m : Sample) : List String :=
  (if m ∈ metricsFiltered runs dashboards rows samples then [m.metricName] else []) ++
    (if inScope runs dashboards m then
      (members rows m).flatMap fun row => pointSeries (Utf16.decode row.groupName)
        (groupedPoint runs dashboards rows samples m.panel (Utf16.decode row.groupName) m.time)
    else [])

/-! ## The membership -/

section Membership

variable {regExp : RegExp} {rules : List GroupingRule} {series : List SeriesRow} {panel : Panel}

/-- No rule is refused. -/
def Compiled (regExp : RegExp) (rules : List GroupingRule) : Prop :=
  ∀ rule ∈ rules, ∃ rewrite, compileSeriesGroupingRule regExp rule.spec = .ok rewrite

theorem compiled_loadSeriesGroupingContext (regExp : RegExp) (rows : List GroupingRule) :
    Compiled regExp (loadSeriesGroupingContext regExp rows) := by
  intro rule hrule
  obtain ⟨row, -, hload⟩ := List.mem_filterMap.1 hrule
  rw [loadRule] at hload
  dsimp only at hload
  split at hload
  · cases hload
  · rename_i rewrite hcompile
    split at hload
    · cases hload
    · obtain rfl := Option.some.inj hload
      exact ⟨rewrite, hcompile⟩

theorem of_governingRule {rule : GroupingRule} (h : governingRule rules panel = some rule) :
    rule ∈ rules ∧ rule.testRunId = panel.testRunId ∧
      rule.applicationDashboardId = panel.applicationDashboardId := by
  have hmem : rule ∈ rules.filter fun rule => rule.testRunId = panel.testRunId &&
      rule.applicationDashboardId = panel.applicationDashboardId := by
    rcases Option.or_eq_some_iff.1 h with h | ⟨-, h⟩
    · exact List.mem_of_mem_filter (List.mem_of_getLast? h)
    · exact List.mem_of_mem_filter (List.mem_of_getLast? h)
  simpa using hmem

/-- The rows of a panel, if its rule can be applied. -/
def panelRows (regExp : RegExp) (rules : List GroupingRule) (panel : Panel) (rows : List SeriesRow) :
    List MembershipRow := (panelMembership regExp rules panel rows).toOption.getD []

theorem panelRows_of_none (h : governingRule rules panel = none) (rows : List SeriesRow) :
    panelRows regExp rules panel rows = [] := by
  rw [panelRows, panelMembership, h]
  rfl

/-- The rule of a panel can be applied to its series. -/
theorem panelRows_of_some (hcompiled : Compiled regExp rules) {rule : GroupingRule}
    (h : governingRule rules panel = some rule) (rows : List SeriesRow) :
    ∃ grouping, applySeriesGrouping regExp rule.spec (rows.map SeriesRow.name) = .ok grouping ∧
      panelRows regExp rules panel rows = rows.map (member grouping rule) := by
  obtain ⟨rewrite, hrewrite⟩ := hcompiled rule (of_governingRule h).1
  have hgrouping := applySeriesGrouping_eq hrewrite (rows.map SeriesRow.name)
  refine ⟨_, hgrouping, ?_⟩
  rw [panelRows, panelMembership, h]
  dsimp only
  rw [hgrouping]
  rfl

theorem panelMembership_eq (hcompiled : Compiled regExp rules) (panel : Panel)
    (rows : List SeriesRow) :
    panelMembership regExp rules panel rows = .ok (panelRows regExp rules panel rows) := by
  cases h : governingRule rules panel with
  | none =>
    rw [panelRows_of_none h, panelMembership, h]
  | some rule =>
    obtain ⟨grouping, hgrouping, hrows⟩ := panelRows_of_some hcompiled h rows
    rw [hrows, panelMembership, h]
    dsimp only
    rw [hgrouping]
    rfl

theorem panelRows_map (hcompiled : Compiled regExp rules) {rows : List SeriesRow}
    (hrows : ∀ row ∈ rows, row.panel = panel) :
    (panelRows regExp rules panel rows).map MembershipRow.toSeriesRow =
      rows.filter fun row => (governingRule rules row.panel).isSome := by
  cases h : governingRule rules panel with
  | none =>
    rw [panelRows_of_none h, List.map_nil, List.filter_eq_nil_iff.2]
    intro row hrow
    rw [hrows row hrow, h]
    exact Bool.false_ne_true
  | some rule =>
    obtain ⟨grouping, -, hpanel⟩ := panelRows_of_some hcompiled h rows
    rw [hpanel, List.map_map, List.filter_eq_self.2]
    · exact List.map_id rows
    · intro row hrow
      rw [hrows row hrow, h]
      rfl

/-- The membership can always be built. -/
theorem buildMembership_eq (hcompiled : Compiled regExp rules) (series : List SeriesRow) :
    buildMembership regExp rules series = .ok (((groupsBy SeriesRow.panel series).flatMap fun g =>
      panelRows regExp rules g.1 g.2).insertionSort fun a b => sortKey a ≤ sortKey b) := by
  rw [buildMembership, mapM_ok fun g _ => panelMembership_eq hcompiled g.1 g.2]
  rfl

variable {rows : List MembershipRow}

theorem mem_groups {g : Panel × List SeriesRow} (hg : g ∈ groupsBy SeriesRow.panel series) :
    g.2 = series.filter fun row => row.panel = g.1 := (mem_groupsBy.1 hg).2

/-- The membership has the series of the covered panels. -/
theorem buildMembership_perm (hcompiled : Compiled regExp rules)
    (h : buildMembership regExp rules series = .ok rows) :
    (rows.map MembershipRow.toSeriesRow).Perm
      (series.filter fun row => (governingRule rules row.panel).isSome) := by
  rw [buildMembership_eq hcompiled] at h
  obtain rfl := Except.ok.inj h
  refine ((List.perm_insertionSort _ _).map _).trans ?_
  have hmap : ((groupsBy SeriesRow.panel series).flatMap fun g =>
      panelRows regExp rules g.1 g.2).map MembershipRow.toSeriesRow =
      ((groupsBy SeriesRow.panel series).flatMap Prod.snd).filter
        fun row => (governingRule rules row.panel).isSome := by
    rw [List.map_flatMap, List.filter_flatMap]
    refine List.flatMap_congr fun g hg => panelRows_map hcompiled fun row hrow => ?_
    rw [mem_groups hg] at hrow
    exact of_decide_eq_true (List.mem_filter.1 hrow).2
  rw [hmap]
  exact (perm_groupsBy SeriesRow.panel series).filter _

/-- Each row has the group of its series under the rule of its panel. -/
theorem of_mem_buildMembership (hcompiled : Compiled regExp rules)
    (h : buildMembership regExp rules series = .ok rows) {row : MembershipRow} (hrow : row ∈ rows) :
    ∃ rule grouping, governingRule rules row.panel = some rule ∧
      applySeriesGrouping regExp rule.spec
        ((series.filter fun other => other.panel = row.panel).map SeriesRow.name) = .ok grouping ∧
      row = member grouping rule row.toSeriesRow := by
  rw [buildMembership_eq hcompiled] at h
  obtain rfl := Except.ok.inj h
  obtain ⟨g, hg, hrow⟩ := List.mem_flatMap.1 ((List.perm_insertionSort _ _).subset hrow)
  cases hrule : governingRule rules g.1 with
  | none =>
    rw [panelRows_of_none hrule] at hrow
    cases hrow
  | some rule =>
    obtain ⟨grouping, hgrouping, hrows⟩ := panelRows_of_some hcompiled hrule g.2
    rw [hrows] at hrow
    obtain ⟨raw, hraw, rfl⟩ := List.mem_map.1 hrow
    have hpanel : raw.panel = g.1 := by
      rw [mem_groups hg] at hraw
      exact of_decide_eq_true (List.mem_filter.1 hraw).2
    refine ⟨rule, grouping, ?_, ?_, rfl⟩
    · rw [← hrule, ← hpanel]
      rfl
    · rw [← hgrouping, mem_groups hg, ← hpanel]
      rfl

/-- The name of the series cannot be had: it is too long, or spoken for on the panel. -/
def Refused (rows : List MembershipRow) (row : MembershipRow) (a : Aggregation) : Prop :=
  SERIES_NAME_MAX_LENGTH < (groupSeriesName row.groupName a).length ∨
    ∃ other ∈ rows, other.panel = row.panel ∧
      (groupSeriesName row.groupName a = other.name ∨
        groupSeriesName row.groupName a = other.groupName)

/-- The row of a series under the groups of the names of its panel. -/
theorem member_eq {group : SeriesName → SeriesName} {aggregations : List Aggregation}
    {unique : List SeriesName} (hunique : unique.Nodup) (haggregations : aggregations.Nodup)
    (rule : GroupingRule) {raw : SeriesRow} (hraw : raw.name ∈ unique) :
    member (groupUnique group aggregations unique hunique) rule raw =
      { raw with
        groupName := group raw.name
        aggregations := emits (isRenamedGroup group unique) aggregations (spokenFor group unique)
          (group raw.name)
        renamed := isRenamedGroup group unique (group raw.name)
        ruleId := rule.ruleId } := by
  have hget : (groupUnique group aggregations unique hunique).mapping.get raw.name =
      some (group raw.name) := (get_mapping hunique).2 ⟨hraw, rfl⟩
  have hgroup : ∃ other ∈ unique, group other = group raw.name := ⟨raw.name, hraw, rfl⟩
  simp only [member, hget, Option.getD_some, get_seriesAggregations hunique haggregations hgroup,
    get_isRenamed hunique hgroup, Option.some.injEq, Bool.decide_eq_true]

/-- The names of the series of a panel. -/
def panelNames (series : List SeriesRow) (panel : Panel) : List SeriesName :=
  (series.filter fun row => row.panel = panel).map SeriesRow.name

/-- The rows of a panel are those of its series, each with its group. -/
structure Records (group : SeriesName → SeriesName) (aggregations : List Aggregation)
    (unique : List SeriesName) (rows : List MembershipRow) : Prop where
  name : ∀ row ∈ rows, row.name ∈ unique
  groupName : ∀ row ∈ rows, row.groupName = group row.name
  aggregations : ∀ row ∈ rows, row.aggregations =
    emits (isRenamedGroup group unique) aggregations (spokenFor group unique) (group row.name)
  renamed : ∀ row ∈ rows, row.renamed = isRenamedGroup group unique (group row.name)
  exists_row : ∀ raw ∈ unique, ∃ row ∈ rows, row.name = raw

/-- The order of the rows does not matter. -/
theorem Records.perm {group : SeriesName → SeriesName} {aggregations : List Aggregation}
    {unique : List SeriesName} {rows rows' : List MembershipRow}
    (h : Records group aggregations unique rows) (hperm : rows.Perm rows') :
    Records group aggregations unique rows' where
  name row hrow := h.name row (hperm.mem_iff.2 hrow)
  groupName row hrow := h.groupName row (hperm.mem_iff.2 hrow)
  aggregations row hrow := h.aggregations row (hperm.mem_iff.2 hrow)
  renamed row hrow := h.renamed row (hperm.mem_iff.2 hrow)
  exists_row raw hraw := by
    obtain ⟨row, hrow, hname⟩ := h.exists_row raw hraw
    exact ⟨row, hperm.mem_iff.1 hrow, hname⟩

theorem records_panel (hcompiled : Compiled regExp rules)
    (h : buildMembership regExp rules series = .ok rows) {rule : GroupingRule}
    (hrule : governingRule rules panel = some rule) {rewrite : SeriesName → SeriesName}
    (hrewrite : compileSeriesGroupingRule regExp rule.spec = .ok rewrite) :
    Records (groupNameFor rewrite) (normalizeAggregations rule.spec.aggregations)
      (uniqueNames (panelNames series panel)) (rows.filter fun row => row.panel = panel) := by
  have hunique := nodup_uniqueNames (panelNames series panel)
  have hnodup := nodup_normalizeAggregations rule.spec.aggregations
  have hmember : ∀ row ∈ rows.filter fun row => row.panel = panel,
      row.name ∈ uniqueNames (panelNames series panel) ∧
        row = member (groupUnique (groupNameFor rewrite)
          (normalizeAggregations rule.spec.aggregations) _ hunique) rule row.toSeriesRow := by
    intro row hrow
    obtain ⟨hmem, hpanel⟩ := List.mem_filter.1 hrow
    obtain rfl : row.panel = panel := of_decide_eq_true hpanel
    obtain ⟨rule', grouping, hrule', hgrouping, hmember⟩ := of_mem_buildMembership hcompiled h hmem
    rw [hrule] at hrule'
    obtain rfl := Option.some.inj hrule'
    rw [applySeriesGrouping_eq hrewrite] at hgrouping
    obtain rfl := Except.ok.inj hgrouping
    have hseries : row.toSeriesRow ∈ series :=
      List.mem_of_mem_filter ((buildMembership_perm hcompiled h).subset (List.mem_map_of_mem hmem))
    exact ⟨mem_uniqueNames.2 (List.mem_map.2
      ⟨row.toSeriesRow, List.mem_filter.2 ⟨hseries, decide_eq_true rfl⟩, rfl⟩), hmember⟩
  have hfields : ∀ row ∈ rows.filter fun row => row.panel = panel, row = _ :=
    fun row hrow => (hmember row hrow).2.trans (member_eq hunique hnodup rule (hmember row hrow).1)
  constructor
  case name => exact fun row hrow => (hmember row hrow).1
  case groupName => exact fun row hrow => congrArg MembershipRow.groupName (hfields row hrow)
  case aggregations => exact fun row hrow => congrArg MembershipRow.aggregations (hfields row hrow)
  case renamed => exact fun row hrow => congrArg MembershipRow.renamed (hfields row hrow)
  case exists_row =>
    intro name hname
    obtain ⟨raw, hraw, rfl⟩ := List.mem_map.1 (mem_uniqueNames.1 hname)
    obtain ⟨hmem, hpanel⟩ := List.mem_filter.1 hraw
    obtain rfl : raw.panel = panel := of_decide_eq_true hpanel
    obtain ⟨row, hrow, rfl⟩ := List.mem_map.1 ((buildMembership_perm hcompiled h).symm.subset
      (List.mem_filter.2 ⟨hmem, Option.isSome_of_eq_some hrule⟩))
    exact ⟨row, List.mem_filter.2 ⟨hrow, decide_eq_true rfl⟩, rfl⟩

/-- A renamed group emits nothing exactly if no aggregation of its rule can be named. -/
theorem aggregations_eq_nil_iff (hcompiled : Compiled regExp rules)
    (h : buildMembership regExp rules series = .ok rows) {row : MembershipRow} (hrow : row ∈ rows)
    {rule : GroupingRule} (hrule : governingRule rules row.panel = some rule) :
    row.aggregations = [] ↔
      (row.renamed = true → ∀ a ∈ normalizeAggregations rule.spec.aggregations, Refused rows row a) := by
  obtain ⟨rewrite, hrewrite⟩ := hcompiled rule (of_governingRule hrule).1
  have hrecords := records_panel hcompiled h hrule hrewrite
  have hpanel : ∀ {other : MembershipRow}, other ∈ rows → other.panel = row.panel →
      other ∈ rows.filter fun other => other.panel = row.panel :=
    fun hother heq => List.mem_filter.2 ⟨hother, decide_eq_true heq⟩
  have hspoken : ∀ name, name ∈ spokenFor (groupNameFor rewrite)
        (uniqueNames (panelNames series row.panel)) ↔
      ∃ other ∈ rows, other.panel = row.panel ∧ (name = other.name ∨ name = other.groupName) := by
    intro name
    rw [List.mem_append, mem_groupNames]
    constructor
    · rintro (hname | ⟨raw, hraw, rfl⟩)
      · obtain ⟨other, hother, rfl⟩ := hrecords.exists_row name hname
        obtain ⟨hother, heq⟩ := List.mem_filter.1 hother
        exact ⟨other, hother, of_decide_eq_true heq, .inl rfl⟩
      · obtain ⟨other, hother, rfl⟩ := hrecords.exists_row raw hraw
        have hgroup := (hrecords.groupName other hother).symm
        obtain ⟨hother, heq⟩ := List.mem_filter.1 hother
        exact ⟨other, hother, of_decide_eq_true heq, .inr hgroup⟩
    · rintro ⟨other, hother, heq, rfl | rfl⟩
      · exact .inl (hrecords.name other (hpanel hother heq))
      · exact .inr ⟨other.name, hrecords.name other (hpanel hother heq),
          (hrecords.groupName other (hpanel hother heq)).symm⟩
  have hgroup := hrecords.groupName row (hpanel hrow rfl)
  have hfree : ∀ a, isFree (spokenFor (groupNameFor rewrite)
        (uniqueNames (panelNames series row.panel))) (groupNameFor rewrite row.name) a = false ↔
      Refused rows row a := by
    intro a
    rw [← Bool.not_eq_true, isFree, Bool.and_eq_true, decide_eq_true_eq, decide_eq_true_eq,
      hspoken, not_and_or, not_le, not_not, Refused, hgroup]
  rw [hrecords.aggregations row (hpanel hrow rfl), hrecords.renamed row (hpanel hrow rfl), emits]
  split
  · rename_i htrue
    rw [List.filter_eq_nil_iff]
    simp only [htrue, true_implies, Bool.not_eq_true, hfree]
  · rename_i hfalse
    exact iff_of_true rfl fun htrue => absurd htrue hfalse

end Membership

/-! ## Points of a group -/

theorem lt_joined {aggregations : List Aggregation} (h : aggregations ≠ []) :
    "" < joined aggregations := by
  obtain ⟨a, rest, rfl⟩ := List.exists_cons_of_ne_nil h
  have htext : a.text.toList ≠ [] := by cases a <;> decide
  obtain ⟨c, cs, htext⟩ := List.exists_cons_of_ne_nil htext
  have hcons : ∀ texts : List (List Char), ∃ tail,
      [','].intercalate ((c :: cs) :: texts) = c :: tail := by
    intro texts
    cases texts with
    | nil => exact ⟨cs, by simp [List.intercalate]⟩
    | cons text texts => exact ⟨_, by simp [List.intercalate]; rfl⟩
  obtain ⟨tail, htail⟩ := hcons (rest.map fun a => a.text.toList)
  rw [String.lt_iff_toList_lt, joined, List.map_cons, htext, htail]
  simp only [String.toList_ofList]
  exact List.nil_lt_cons c tail

theorem joined_lt_irrefl {aggregations : List Aggregation} : ¬joined aggregations < "" := by
  rw [String.lt_iff_toList_lt]
  exact List.not_lt_nil _

/-- The greatest is empty only if all are. -/
theorem maxAggregations_eq_nil_iff {lists : List (List Aggregation)} :
    maxAggregations lists = [] ↔ ∀ list ∈ lists, list = [] := by
  have hnil : joined [] = "" := rfl
  have hstep : ∀ greatest list : List Aggregation,
      (if joined greatest < joined list then list else greatest) = [] ↔ greatest = [] ∧ list = [] := by
    intro greatest list
    constructor
    · intro h
      split at h
      · rename_i hlt
        rw [h, hnil] at hlt
        exact absurd hlt joined_lt_irrefl
      · rename_i hlt
        refine ⟨h, ?_⟩
        by_contra hne
        rw [h, hnil] at hlt
        exact hlt (lt_joined hne)
    · rintro ⟨rfl, rfl⟩
      exact ite_self _
  have hfold : ∀ greatest : List Aggregation,
      lists.foldl (fun greatest list => if joined greatest < joined list then list else greatest)
        greatest = [] ↔ greatest = [] ∧ ∀ list ∈ lists, list = [] := by
    induction lists with
    | nil => simp
    | cons list lists ih =>
      intro greatest
      rw [List.foldl_cons, ih, hstep, List.forall_mem_cons, and_assoc]
  rw [maxAggregations, hfold, and_iff_right rfl]

theorem pointSeries_eq_nil_iff {group : String} {point : List MembershipRow} :
    pointSeries group point = [] ↔
      (∃ row ∈ point, row.renamed = true) ∧ ∀ row ∈ point, row.aggregations = [] := by
  rw [pointSeries]
  split
  · rename_i hrenamed
    rw [List.map_eq_nil_iff, maxAggregations_eq_nil_iff, List.forall_mem_map]
    exact (and_iff_right (List.any_eq_true.1 hrenamed)).symm
  · rename_i hrenamed
    refine iff_of_false (List.cons_ne_nil _ _) fun h => hrenamed (List.any_eq_true.2 h.1)

/-! ## Paths -/

section Paths

variable {regExp : RegExp} {rules : List GroupingRule} {runs dashboards : List String}
  {samples : List Sample} {rows : List MembershipRow} {m : Sample}

/-- The series of a sample whose panel a rule covers is read. -/
theorem exists_seriesOfRuns {rule : GroupingRule} (hm : m ∈ samples)
    (hrun : m.panel.testRunId ∈ runs) (hrule : governingRule rules m.panel = some rule) :
    ∃ raw ∈ seriesOfRuns rules runs samples, raw.panel = m.panel ∧ raw.metricName = m.metricName := by
  obtain ⟨hmem, hrunId, hdashboard⟩ := of_governingRule hrule
  have hselected : m ∈ samples.filter fun other =>
      other.panel.testRunId = m.panel.testRunId && other.panel.applicationDashboardId ∈
        (rules.filter fun rule => rule.testRunId = m.panel.testRunId).map
          GroupingRule.applicationDashboardId := by
    refine List.mem_filter.2 ⟨hm, ?_⟩
    rw [Bool.and_eq_true, decide_eq_true_eq, decide_eq_true_eq]
    exact ⟨rfl, List.mem_map.2 ⟨rule, List.mem_filter.2 ⟨hmem, decide_eq_true hrunId⟩, hdashboard⟩⟩
  have hgroup := (@mem_groupsBy Sample (Panel × String) _ (fun other =>
    (other.panel, other.metricName)) _ _ _).2 ⟨⟨m, hselected, rfl⟩, rfl⟩
  exact ⟨_, List.mem_flatMap.2 ⟨m.panel.testRunId, hrun, List.mem_map.2 ⟨_, hgroup, rfl⟩⟩, rfl, rfl⟩

theorem mem_members {row : MembershipRow} :
    row ∈ members rows m ↔ row ∈ rows ∧ row.panel = m.panel ∧ row.metricName = m.metricName := by
  rw [members, List.mem_filter, Bool.and_eq_true, decide_eq_true_eq, decide_eq_true_eq]

theorem mem_groupedPanels {panel : Panel} :
    panel ∈ groupedPanels rows ↔ ∃ row ∈ rows, row.panel = panel := by
  rw [groupedPanels, List.mem_eraseDups, List.mem_map]

/-- A sample is joined with one row at most, once the record is stored. -/
theorem members_eq_of_insert {table : Table (Panel × String) MembershipRow}
    (hinsert : insertMembership rows = some table) {row : MembershipRow}
    (hrow : row ∈ members rows m) : members rows m = [row] := by
  have hnodup : (rows.map fun row => (row.panel, row.metricName)).Nodup := by
    rw [insertMembership] at hinsert
    split at hinsert
    · have hsome := Table.ofRows_isSome.1 (Option.isSome_of_eq_some hinsert)
      rwa [List.map_map] at hsome
    · cases hinsert
  refine List.perm_singleton.1 ((List.perm_ext_iff_of_nodup (hnodup.of_map.filter _)
    (List.nodup_singleton row)).2 fun other => ?_)
  rw [List.mem_singleton]
  obtain ⟨hrow, hpanel, hname⟩ := mem_members.1 hrow
  constructor
  · intro hother
    obtain ⟨hother, hpanel', hname'⟩ := mem_members.1 hother
    exact List.inj_on_of_nodup_map hnodup hother hrow
      (Prod.ext (hpanel'.trans hpanel.symm) (hname'.trans hname.symm))
  · rintro rfl
    exact mem_members.2 ⟨hrow, hpanel, hname⟩

theorem of_mem_groupedPoint {panel : Panel} {group : String} {time : ℤ} {row : MembershipRow}
    (h : row ∈ groupedPoint runs dashboards rows samples panel group time) :
    row ∈ rows ∧ row.panel = panel := by
  obtain ⟨other, hother, hrow⟩ := List.mem_flatMap.1 h
  obtain ⟨hrow, hpanel, -⟩ := mem_members.1 (List.mem_of_mem_filter hrow)
  have hscope := (List.mem_filter.1 hother).2
  rw [Bool.and_eq_true, Bool.and_eq_true, decide_eq_true_eq] at hscope
  exact ⟨hrow, hpanel.trans hscope.1.2⟩

/-- A sample of the batch is in the statement without groups if no rule covers its panel;
    else it is joined with one row of the membership, that of its series under the rule, and
    is in no statistic exactly if its group is renamed and none of its series can be named. -/
theorem paths {ruleRows : List GroupingRule} {table : Table (Panel × String) MembershipRow}
    (hrows : buildSeriesMembership regExp (loadSeriesGroupingContext regExp ruleRows) runs samples =
      .ok rows)
    (hinsert : insertMembership rows = some table) (hm : m ∈ samples)
    (hscope : inScope runs dashboards m = true) :
    match governingRule (loadSeriesGroupingContext regExp ruleRows) m.panel with
    | none => members rows m = [] ∧ statisticsOf runs dashboards rows samples m = [m.metricName]
    | some rule => m ∉ metricsFiltered runs dashboards rows samples ∧
      ∃ row, members rows m = [row] ∧ row.ruleId = rule.ruleId ∧
        (statisticsOf runs dashboards rows samples m = [] ↔
          ∃ point, point = groupedPoint runs dashboards rows samples m.panel
              (Utf16.decode row.groupName) m.time ∧
            (∃ other ∈ point, other.renamed = true) ∧
            ∀ other ∈ point, other.renamed = true →
              ∀ a ∈ normalizeAggregations rule.spec.aggregations, Refused rows other a) := by
  have hcompiled := compiled_loadSeriesGroupingContext regExp ruleRows
  have hcovered : ∀ row ∈ rows, (governingRule (loadSeriesGroupingContext regExp ruleRows)
      row.panel).isSome := by
    intro row hrow
    obtain ⟨rule, -, hrule, -⟩ := of_mem_buildMembership hcompiled hrows hrow
    exact Option.isSome_of_eq_some hrule
  split
  · rename_i hnone
    have hnot : ∀ row ∈ rows, row.panel ≠ m.panel := by
      intro row hrow hpanel
      have hsome := hcovered row hrow
      rw [hpanel, hnone] at hsome
      cases hsome
    have hmembers : members rows m = [] := List.eq_nil_iff_forall_not_mem.2 fun row hrow =>
      hnot row (mem_members.1 hrow).1 (mem_members.1 hrow).2.1
    have hplain : m ∈ metricsFiltered runs dashboards rows samples := by
      refine List.mem_filter.2 ⟨hm, ?_⟩
      rw [hscope, Bool.true_and, decide_eq_true_eq, mem_groupedPanels]
      rintro ⟨row, hrow, hpanel⟩
      exact hnot row hrow hpanel
    refine ⟨hmembers, ?_⟩
    rw [statisticsOf, if_pos hplain, hmembers, List.flatMap_nil, ite_self, List.append_nil]
  · rename_i rule hrule
    have hrun : m.panel.testRunId ∈ runs := by
      rw [inScope, Bool.and_eq_true, Bool.and_eq_true, Bool.and_eq_true, decide_eq_true_eq] at hscope
      exact hscope.1.1.1
    obtain ⟨raw, hraw, hpanel, hname⟩ := exists_seriesOfRuns hm hrun hrule
    have hgoverned : (governingRule (loadSeriesGroupingContext regExp ruleRows) raw.panel).isSome := by
      rw [hpanel, hrule]
      rfl
    obtain ⟨row, hrow, rfl⟩ := List.mem_map.1 ((buildMembership_perm hcompiled hrows).symm.subset
      (List.mem_filter.2 ⟨hraw, hgoverned⟩))
    have hmembers := members_eq_of_insert hinsert (mem_members.2 ⟨hrow, hpanel, hname⟩)
    have hplain : m ∉ metricsFiltered runs dashboards rows samples := by
      intro hmem
      have hpredicate := (List.mem_filter.1 hmem).2
      rw [hscope, Bool.true_and, decide_eq_true_eq, mem_groupedPanels] at hpredicate
      exact hpredicate ⟨row, hrow, hpanel⟩
    refine ⟨hplain, row, hmembers, ?_, ?_⟩
    · obtain ⟨rule', grouping, hrule', -, hmember⟩ := of_mem_buildMembership hcompiled hrows hrow
      rw [hpanel, hrule] at hrule'
      obtain rfl := Option.some.inj hrule'
      rw [hmember]
      rfl
    · rw [statisticsOf, if_neg hplain, if_pos hscope, hmembers, List.nil_append,
        List.flatMap_singleton, pointSeries_eq_nil_iff, exists_eq_left]
      refine and_congr_right fun _ => forall₂_congr fun other hother => ?_
      obtain ⟨hother, hpanel'⟩ := of_mem_groupedPoint hother
      exact aggregations_eq_nil_iff hcompiled hrows hother (hpanel'.symm ▸ hrule)

end Paths

/-! ## Examples -/

theorem of_toOption {ε α : Type*} {e : Except ε α} {a : α} (h : e.toOption = some a) :
    e = .ok a := by
  cases e with
  | error _ => cases h
  | ok b => exact congrArg Except.ok (Option.some.inj h)

/-- A sample of a series of a panel, inside the analysis. -/
def podSample (name : String) : Sample :=
  ⟨⟨"run", "dashboard", 1⟩, name, 0, some 1, some false, some "Pods", some "CPU"⟩

/-- The rule for every panel of the dashboard, with the average. -/
def podRules : List GroupingRule :=
  [⟨"run", "rule", "dashboard", none, { podRule with aggregations := ["avg"] }⟩]

theorem paths_pods : ∃ rows table,
    buildSeriesMembership cutAtDash (loadSeriesGroupingContext cutAtDash podRules) ["run"]
        (["api-1", "api-2", "heap"].map podSample) = .ok rows ∧
      insertMembership rows = some table ∧
      match governingRule (loadSeriesGroupingContext cutAtDash podRules) (podSample "api-1").panel with
      | none => members rows (podSample "api-1") = [] ∧
        statisticsOf ["run"] ["dashboard"] rows (["api-1", "api-2", "heap"].map podSample)
          (podSample "api-1") = [(podSample "api-1").metricName]
      | some rule => podSample "api-1" ∉ metricsFiltered ["run"] ["dashboard"] rows
          (["api-1", "api-2", "heap"].map podSample) ∧
        ∃ row, members rows (podSample "api-1") = [row] ∧ row.ruleId = rule.ruleId ∧
          (statisticsOf ["run"] ["dashboard"] rows (["api-1", "api-2", "heap"].map podSample)
              (podSample "api-1") = [] ↔
            ∃ point, point = groupedPoint ["run"] ["dashboard"] rows
                (["api-1", "api-2", "heap"].map podSample) (podSample "api-1").panel
                (Utf16.decode row.groupName) (podSample "api-1").time ∧
              (∃ other ∈ point, other.renamed = true) ∧
              ∀ other ∈ point, other.renamed = true →
                ∀ a ∈ normalizeAggregations rule.spec.aggregations, Refused rows other a) := by
  have htest : (buildSeriesMembership cutAtDash (loadSeriesGroupingContext cutAtDash podRules)
      ["run"] (["api-1", "api-2", "heap"].map podSample)).toOption.any
        (fun rows => (insertMembership rows).isSome) = true := by decide +kernel
  obtain ⟨rows, hrows, hinsert⟩ := (Option.any_eq_true _ _).1 htest
  obtain ⟨table, htable⟩ := Option.isSome_iff_exists.1 hinsert
  have hmem : podSample "api-1" ∈ ["api-1", "api-2", "heap"].map podSample :=
    List.mem_cons_self
  have hscope : inScope ["run"] ["dashboard"] (podSample "api-1") = true := by decide
  exact ⟨rows, table, of_toOption hrows, htable, paths (of_toOption hrows) htable hmem hscope⟩

/-- Beside a series that has the name of their average, the pods are in no statistic. -/
theorem statisticsOf_podAverage_eq_nil : ∃ rows,
    buildSeriesMembership cutAtDash (loadSeriesGroupingContext cutAtDash podRules) ["run"]
        (["api-1", "api-2", "api (avg)"].map podSample) = .ok rows ∧
      (insertMembership rows).isSome = true ∧
      inScope ["run"] ["dashboard"] (podSample "api-1") = true ∧
      statisticsOf ["run"] ["dashboard"] rows (["api-1", "api-2", "api (avg)"].map podSample)
        (podSample "api-1") = [] := by
  have htest : (buildSeriesMembership cutAtDash (loadSeriesGroupingContext cutAtDash podRules)
      ["run"] (["api-1", "api-2", "api (avg)"].map podSample)).toOption.any
        (fun rows => (insertMembership rows).isSome && statisticsOf ["run"] ["dashboard"] rows
          (["api-1", "api-2", "api (avg)"].map podSample) (podSample "api-1") = []) = true := by
    decide +kernel
  obtain ⟨rows, hrows, hrest⟩ := (Option.any_eq_true _ _).1 htest
  rw [Bool.and_eq_true, decide_eq_true_eq] at hrest
  exact ⟨rows, of_toOption hrows, hrest.1, by decide, hrest.2⟩

end Perfana.SeriesGrouping
