import Perfana.Grouping.Plan

/-!
# Groups of the live charts

A chart or a picker that is handed the name of a group looks up the raw series it stands for:
in the membership that the statistics were computed with, and before there is one in what the
current rules make of the names of the panel.

* `mem_groupsFromRule`, `mem_groupsFromMembership`: the groups that are found are those that
  are renamed, from the rules as from the membership; the membership tells a renamed group by
  what it emits;
* `listed_of_emits`: if every group emits a series, each name of a panel is in a series that is
  listed for it, and each of these is found;
* `live_iff`: exactly when the groups of the rules are those of the membership.
-/

namespace Perfana.SeriesGrouping

/-! ## Groups -/

structure SeriesGroup where
  group : SeriesName
  /-- The raw series, sorted. -/
  members : List SeriesName
  /-- The series that the group emits. -/
  aggregations : List Aggregation
  renamed : Bool
deriving DecidableEq

/-- The group is not a series that exists under its own name. -/
def isRealGroup (g : SeriesGroup) : Bool :=
  1 < g.members.length || g.members.head? ≠ some g.group

/-- The groups of the membership. A group that emits a series is taken for renamed. -/
def groupsFromMembership (rows : List MembershipRow) : List SeriesGroup :=
  let byGroup := (groupsBy MembershipRow.groupName rows).map fun g =>
    let aggregations := (g.2.head?.map MembershipRow.aggregations).getD []
    SeriesGroup.mk g.1 (g.2.map fun row => row.name) aggregations (aggregations ≠ [])
  ((byGroup.filter isRealGroup).map fun g =>
    { g with members := g.members.insertionSort (· ≤ ·) }).insertionSort
      fun a b => a.group ≤ b.group

/-- The groups of a rule. One that is refused groups nothing. -/
def groupsFromRule (regExp : RegExp) (spec : RuleSpec) (rawNames : List SeriesName) :
    List SeriesGroup :=
  match applySeriesGrouping regExp spec rawNames with
  | .error _ => []
  | .ok result => (result.groups.rows.map fun g =>
      SeriesGroup.mk g.1 g.2 ((result.seriesAggregations.get g.1).getD [])
        (result.isRenamed.get g.1 = some true)).filter isRealGroup

/-! ## The lookup -/

/-- A rule as it is looked up. -/
structure RuleRow where
  applicationDashboardId : String
  panelId : Option ℤ
  dashboardLabel : Option String
  spec : RuleSpec

/-- A rule for the panel, else one for every panel. Of several the dashboard decides. -/
def pickRule (rules : List RuleRow) (panelId : ℤ) : Option RuleRow :=
  let forPanel := rules.filter fun rule => rule.panelId = some panelId
  let pool := if 0 < forPanel.length then forPanel else rules.filter fun rule => rule.panelId = none
  (pool.insertionSort fun a b =>
    Utf16.encode a.applicationDashboardId ≤ Utf16.encode b.applicationDashboardId).head?

/-- What is stored for a run, or for a panel of it. -/
structure RunSeriesGrouping where
  membership : List MembershipRow
  rules : List RuleRow

def RunSeriesGrouping.isEmpty (grouping : RunSeriesGrouping) : Bool :=
  grouping.membership.isEmpty && grouping.rules.isEmpty

/-- The rules of a run. -/
def ruleRows (labelOf : String → Option String) (rules : List GroupingRule) (testRunId : String) :
    List RuleRow :=
  (rules.filter fun rule => rule.testRunId = testRunId).map fun rule =>
    ⟨rule.applicationDashboardId, rule.panelId, labelOf rule.applicationDashboardId, rule.spec⟩

/-- The rules that are looked up for a panel. -/
def ruleCandidates (rules : List RuleRow) (panel : Panel) : List RuleRow :=
  rules.filter fun rule => rule.applicationDashboardId = panel.applicationDashboardId &&
    (rule.panelId = some panel.panelId || rule.panelId = none)

/-- The groups of a panel, from what is stored for it. -/
def groupsForPanel (regExp : RegExp) (grouping : RunSeriesGrouping) (panelId : ℤ)
    (rawNames : List SeriesName) : List SeriesGroup :=
  if grouping.isEmpty then []
  else if 0 < grouping.membership.length then groupsFromMembership grouping.membership
  else
    match pickRule grouping.rules panelId with
    | none => []
    | some rule => groupsFromRule regExp rule.spec rawNames

/-- A panel as the charts address it. -/
structure PanelAddress where
  dashboardLabel : Option String
  panelTitle : Option String
  panelId : ℤ

/-- What a panel is told by. A text that is missing counts as empty. -/
def seriesPanelKey (label title : Option String) (panelId : ℤ) : String × String × ℤ :=
  (label.getD "", title.getD "", panelId)

/-- The rows of the panel at an address. -/
def membershipAt (rows : List MembershipRow) (address : PanelAddress) : List MembershipRow :=
  rows.filter fun row => seriesPanelKey row.dashboardLabel row.panelTitle row.panel.panelId =
    seriesPanelKey address.dashboardLabel address.panelTitle address.panelId

/-- The groups of a panel, from what is stored for its run. -/
def groupsInRun (regExp : RegExp) (run : RunSeriesGrouping) (address : PanelAddress)
    (rawNames : List SeriesName) : List SeriesGroup :=
  if run.isEmpty then []
  else if 0 < (membershipAt run.membership address).length then
    groupsFromMembership (membershipAt run.membership address)
  else
    match pickRule (run.rules.filter fun rule => rule.dashboardLabel = address.dashboardLabel)
        address.panelId with
    | none => []
    | some rule => groupsFromRule regExp rule.spec rawNames

/-! ## Names -/

/-- A series that is asked for, with the raw series that it combines. -/
structure ResolvedSeries where
  name : SeriesName
  members : List SeriesName
  aggregation : Aggregation
deriving DecidableEq

/-- The series of some groups. A raw series of the same name wins. -/
def derivedSeries (available : List SeriesGroup) : List ResolvedSeries :=
  (available.flatMap fun g => g.aggregations.map fun a =>
    ResolvedSeries.mk (groupSeriesName g.group a) g.members a).filter fun series =>
      series.name ∉ available.flatMap SeriesGroup.members

/-- Some names, those of raw series apart from those of the groups. -/
def expandSeriesNames (available : List SeriesGroup) (names : List SeriesName) :
    List SeriesName × List ResolvedSeries :=
  if available.length = 0 then (names, [])
  else
    let hit := fun name => (derivedSeries available).find? fun series => series.name = name
    (names.filter fun name => (hit name).isNone, (names.filterMap hit).eraseDups)

/-- The group that a raw series is a member of. Of several the last one counts. -/
def memberToGroup (groups : List SeriesGroup) (raw : SeriesName) : Option SeriesGroup :=
  groups.reverse.find? fun g => raw ∈ g.members

/-- The names that are listed for a raw series. -/
def listedFor (groups : List SeriesGroup) (raw : SeriesName) : List SeriesName :=
  match memberToGroup groups raw with
  | none => [raw]
  | some g => if g.renamed then g.aggregations.map (groupSeriesName g.group) else [g.group]

/-- The names that are listed in the place of some raw names, and the groups that they are of. -/
def mapNamesToGroups (rawNames : List SeriesName) (groups : List SeriesGroup) :
    List SeriesName × List SeriesGroup :=
  let used := fun (g : SeriesGroup) raw =>
    raw ∈ rawNames && (memberToGroup groups raw).any fun other => other.group = g.group
  (uniqueNames (rawNames.flatMap (listedFor groups)),
    (groups.filter fun g => rawNames.any (used g)).map fun g =>
      { g with members := g.members.filter (used g) })

/-- The raw series that a name stands for. -/
def resolve (available : List SeriesGroup) (name : SeriesName) : List SeriesName :=
  (expandSeriesNames available [name]).1 ++
    (expandSeriesNames available [name]).2.flatMap ResolvedSeries.members

/-! ## The groups that are found -/

/-- Of some different raw series, more than one or one of another name. -/
theorem isRealGroup_iff {g : SeriesGroup} (hnodup : g.members.Nodup) :
    isRealGroup g = true ∧ g.members ≠ [] ↔ ∃ raw ∈ g.members, raw ≠ g.group := by
  rw [isRealGroup, Bool.or_eq_true, decide_eq_true_eq, decide_eq_true_eq]
  cases hmembers : g.members with
  | nil => simp
  | cons raw rest =>
    cases rest with
    | nil => simp
    | cons other rest =>
      rw [hmembers] at hnodup
      refine iff_of_true ⟨.inl (by simp), List.cons_ne_nil _ _⟩ ?_
      by_cases hraw : raw = g.group
      · have hother : other ≠ raw := fun heq => (List.nodup_cons.1 hnodup).1 (by simp [heq])
        exact ⟨other, by simp, hraw ▸ hother⟩
      · exact ⟨raw, by simp, hraw⟩

section Groups

variable (group : SeriesName → SeriesName) (aggregations : List Aggregation)
  (unique : List SeriesName)

/-- The series that a group emits. -/
def groupEmits (g : SeriesName) : List Aggregation :=
  emits (isRenamedGroup group unique) aggregations (spokenFor group unique) g

/-- The group that some different raw series are mapped to. -/
def renamedGroup (g : SeriesName) : SeriesGroup :=
  ⟨g, unique.filter fun raw => group raw = g, groupEmits group aggregations unique g, true⟩

variable {group aggregations unique}

theorem mem_renamedGroup {g raw : SeriesName} :
    raw ∈ (renamedGroup group aggregations unique g).members ↔ raw ∈ unique ∧ group raw = g := by
  rw [renamedGroup, List.mem_filter, decide_eq_true_eq]

theorem isRenamedGroup_iff {g : SeriesName} : isRenamedGroup group unique g = true ↔
    ∃ raw ∈ unique, group raw ≠ raw ∧ group raw = g := by
  rw [isRenamedGroup, List.any_eq_true]
  refine exists_congr fun raw => and_congr_right fun _ => ?_
  rw [Bool.and_eq_true, decide_eq_true_eq, decide_eq_true_eq]
  constructor
  · rintro ⟨rfl, hname⟩
    exact ⟨hname, rfl⟩
  · rintro ⟨hname, rfl⟩
    exact ⟨rfl, hname⟩

/-- A group is found exactly if it is renamed. -/
theorem isRealGroup_eq {g : SeriesGroup} (hnodup : g.members.Nodup)
    (hmem : ∀ raw, raw ∈ g.members ↔ raw ∈ unique ∧ group raw = g.group)
    (hg : ∃ raw ∈ unique, group raw = g.group) :
    isRealGroup g = isRenamedGroup group unique g.group := by
  have hne : g.members ≠ [] := by
    obtain ⟨raw, hraw⟩ := hg
    exact List.ne_nil_of_mem ((hmem raw).2 hraw)
  rw [Bool.eq_iff_iff, ← and_iff_left (a := isRealGroup _ = true) hne, isRealGroup_iff hnodup,
    isRenamedGroup_iff]
  constructor
  · rintro ⟨raw, hraw, hname⟩
    obtain ⟨hraw, hgroup⟩ := (hmem raw).1 hraw
    exact ⟨raw, hraw, fun heq => hname (heq.symm.trans hgroup), hgroup⟩
  · rintro ⟨raw, hraw, hname, hgroup⟩
    exact ⟨raw, (hmem raw).2 ⟨hraw, hgroup⟩, fun heq => hname (hgroup.trans heq.symm)⟩

theorem isRealGroup_renamedGroup (aggregations : List Aggregation) (hunique : unique.Nodup)
    {g : SeriesName} (hg : ∃ raw ∈ unique, group raw = g) :
    isRealGroup (renamedGroup group aggregations unique g) = isRenamedGroup group unique g :=
  isRealGroup_eq (hunique.filter _) (fun _ => mem_renamedGroup) hg

/-- The groups of a rule are those that it renames. -/
theorem mem_groupsFromRule {regExp : RegExp} {spec : RuleSpec}
    {rewrite : SeriesName → SeriesName} (hrewrite : compileSeriesGroupingRule regExp spec = .ok rewrite)
    {rawNames : List SeriesName} {g : SeriesGroup} :
    g ∈ groupsFromRule regExp spec rawNames ↔ ∃ raw ∈ rawNames, groupNameFor rewrite raw ≠ raw ∧
      g = renamedGroup (groupNameFor rewrite) (normalizeAggregations spec.aggregations)
        (uniqueNames rawNames) (groupNameFor rewrite raw) := by
  have hunique := nodup_uniqueNames rawNames
  have hnodup := nodup_normalizeAggregations spec.aggregations
  have hrow : ∀ name, (∃ raw ∈ uniqueNames rawNames, groupNameFor rewrite raw = name) →
      ∀ result, result = groupUnique (groupNameFor rewrite)
          (normalizeAggregations spec.aggregations) (uniqueNames rawNames) hunique →
        SeriesGroup.mk name ((uniqueNames rawNames).filter fun raw => groupNameFor rewrite raw = name)
            ((result.seriesAggregations.get name).getD []) (result.isRenamed.get name = some true) =
          { renamedGroup (groupNameFor rewrite) (normalizeAggregations spec.aggregations)
              (uniqueNames rawNames) name with
            renamed := isRenamedGroup (groupNameFor rewrite) (uniqueNames rawNames) name } := by
    rintro name hname result rfl
    rw [get_seriesAggregations hunique hnodup hname, get_isRenamed hunique hname]
    simp only [Option.some.injEq, Bool.decide_eq_true]
    rfl
  rw [groupsFromRule, applySeriesGrouping_eq hrewrite]
  dsimp only
  rw [List.mem_filter, List.mem_map]
  constructor
  · rintro ⟨⟨⟨name, members⟩, hmem, rfl⟩, hreal⟩
    obtain ⟨hname, rfl⟩ := get_groupsOf.1 (Table.mem_rows.1 hmem)
    have hrenamed := (isRealGroup_renamedGroup (normalizeAggregations spec.aggregations) hunique
      hname).symm.trans hreal
    obtain ⟨raw, hraw, hne, hgroup⟩ := isRenamedGroup_iff.1 hrenamed
    refine ⟨raw, mem_uniqueNames.1 hraw, hne, ?_⟩
    rw [hrow name hname _ rfl, hrenamed, hgroup]
    rfl
  · rintro ⟨raw, hraw, hne, rfl⟩
    have hraw := mem_uniqueNames.2 hraw
    have hname : ∃ other ∈ uniqueNames rawNames,
        groupNameFor rewrite other = groupNameFor rewrite raw := ⟨raw, hraw, rfl⟩
    have hrenamed : isRenamedGroup (groupNameFor rewrite) (uniqueNames rawNames)
        (groupNameFor rewrite raw) = true := isRenamedGroup_iff.2 ⟨raw, hraw, hne, rfl⟩
    refine ⟨⟨(_, _), Table.mem_rows.2 (get_groupsOf.2 ⟨hname, rfl⟩), ?_⟩,
      (isRealGroup_renamedGroup _ hunique hname).trans hrenamed⟩
    rw [hrow _ hname _ rfl, hrenamed]
    rfl

/-- A refused rule groups nothing. -/
theorem groupsFromRule_of_error {regExp : RegExp} {spec : RuleSpec} {e : String}
    (h : compileSeriesGroupingRule regExp spec = .error e) (rawNames : List SeriesName) :
    groupsFromRule regExp spec rawNames = [] := by
  rw [groupsFromRule, applySeriesGrouping, h]
  rfl

/-- The groups of a rule are sorted. -/
theorem pairwise_groupsFromRule {regExp : RegExp} {spec : RuleSpec} {rawNames : List SeriesName} :
    (groupsFromRule regExp spec rawNames).Pairwise fun a b => a.group < b.group := by
  rw [groupsFromRule]
  split
  · exact List.Pairwise.nil
  · rename_i result hresult
    rw [applySeriesGrouping] at hresult
    cases hrewrite : compileSeriesGroupingRule regExp spec with
    | error e =>
      rw [hrewrite] at hresult
      cases hresult
    | ok rewrite =>
      rw [hrewrite] at hresult
      obtain rfl := Except.ok.inj hresult
      refine List.Pairwise.filter _ (List.pairwise_map.2 ?_)
      have hnodup := List.pairwise_map.1 (groupsOf (groupNameFor rewrite)
        (uniqueNames rawNames)).nodup
      have hsorted := List.pairwise_insertionSort (fun a b : SeriesName × List SeriesName =>
        a.1 ≤ b.1) (groupsBy (groupNameFor rewrite) (uniqueNames rawNames))
      exact (hsorted.and hnodup).imp fun h => lt_of_le_of_ne h.1 h.2

/-- The groups of the membership are sorted. -/
theorem pairwise_groupsFromMembership (rows : List MembershipRow) :
    (groupsFromMembership rows).Pairwise fun a b => a.group < b.group := by
  have hnodup : ((groupsFromMembership rows).map SeriesGroup.group).Nodup := by
    refine ((List.perm_insertionSort _ _).map _).nodup_iff.2 ?_
    rw [List.map_map]
    refine List.Nodup.sublist (List.filter_sublist.map _) ?_
    rw [List.map_map]
    exact nodup_groupsBy
  have hsorted : (groupsFromMembership rows).Pairwise fun a b => a.group ≤ b.group :=
    List.pairwise_insertionSort _ _
  exact (hsorted.and (List.pairwise_map.1 hnodup)).imp fun h => lt_of_le_of_ne h.1 h.2

section Records

variable {rows : List MembershipRow} (hrecords : Records group aggregations unique rows)
  (hrows : (rows.map fun row => row.name).Nodup)
include hrecords

/-- The raw series of a group in the membership. -/
theorem mem_recorded {g raw : SeriesName} :
    raw ∈ (rows.filter fun row => row.groupName = g).map (fun row => row.name) ↔
      raw ∈ unique ∧ group raw = g := by
  rw [List.mem_map]
  constructor
  · rintro ⟨row, hrow, rfl⟩
    obtain ⟨hrow, hgroup⟩ := List.mem_filter.1 hrow
    exact ⟨hrecords.name row hrow,
      (hrecords.groupName row hrow).symm.trans (of_decide_eq_true hgroup)⟩
  · rintro ⟨hraw, hgroup⟩
    obtain ⟨row, hrow, rfl⟩ := hrecords.exists_row raw hraw
    exact ⟨row, List.mem_filter.2 ⟨hrow,
      decide_eq_true ((hrecords.groupName row hrow).trans hgroup)⟩, rfl⟩

/-- The first row of a group tells what the group emits. -/
theorem head_aggregations {g : SeriesName} (hg : ∃ row ∈ rows, row.groupName = g) :
    ((rows.filter fun row => row.groupName = g).head?.map MembershipRow.aggregations).getD [] =
      groupEmits group aggregations unique g := by
  obtain ⟨row, hrow, hname⟩ := hg
  have hmem : row ∈ rows.filter fun row => row.groupName = g :=
    List.mem_filter.2 ⟨hrow, decide_eq_true hname⟩
  obtain ⟨first, rest, hcons⟩ := List.exists_cons_of_ne_nil (List.ne_nil_of_mem hmem)
  have hfirst : first ∈ rows.filter fun row => row.groupName = g := hcons ▸ List.mem_cons_self
  obtain ⟨hfirst, hname⟩ := List.mem_filter.1 hfirst
  have hgroup := (hrecords.groupName first hfirst).symm.trans (of_decide_eq_true hname)
  rw [hcons, ← hgroup]
  exact hrecords.aggregations first hfirst

include hrows

/-- The groups of the membership are those that are renamed; those that emit a series are told
    as such. -/
theorem mem_groupsFromMembership (hsorted : unique.Pairwise (· ≤ ·)) (hunique : unique.Nodup)
    {g : SeriesGroup} :
    g ∈ groupsFromMembership rows ↔ ∃ raw ∈ unique, group raw ≠ raw ∧
      g = { renamedGroup group aggregations unique (group raw) with
        renamed := groupEmits group aggregations unique (group raw) ≠ [] } := by
  have hnodup : ∀ name, ((rows.filter fun row => row.groupName = name).map
      fun row => row.name).Nodup := fun name => hrows.sublist (List.filter_sublist.map _)
  have hexists : ∀ name, (∃ row ∈ rows, row.groupName = name) ↔ ∃ raw ∈ unique, group raw = name := by
    intro name
    constructor
    · rintro ⟨row, hrow, rfl⟩
      exact ⟨row.name, hrecords.name row hrow, (hrecords.groupName row hrow).symm⟩
    · rintro ⟨raw, hraw, rfl⟩
      obtain ⟨row, hrow, rfl⟩ := hrecords.exists_row raw hraw
      exact ⟨row, hrow, hrecords.groupName row hrow⟩
  have hmembers : ∀ name, ((rows.filter fun row => row.groupName = name).map
      fun row => row.name).insertionSort (· ≤ ·) = unique.filter fun raw => group raw = name := by
    intro name
    have hmem : ∀ raw, raw ∈ (rows.filter fun row => row.groupName = name).map
        (fun row => row.name) ↔ raw ∈ unique.filter fun raw => group raw = name := by
      intro raw
      rw [mem_recorded hrecords, List.mem_filter, decide_eq_true_eq]
    have hperm := (List.perm_insertionSort (· ≤ ·) _).trans
      ((List.perm_ext_iff_of_nodup (hnodup name) (hunique.filter _)).2 hmem)
    exact hperm.eq_of_pairwise (fun _ _ _ _ => le_antisymm) (List.pairwise_insertionSort _ _)
      (hsorted.filter _)
  have hreal : ∀ name, (∃ row ∈ rows, row.groupName = name) → ∀ as b,
      isRealGroup ⟨name, (rows.filter fun row => row.groupName = name).map fun row => row.name,
        as, b⟩ = isRenamedGroup group unique name :=
    fun name hname as b => isRealGroup_eq (hnodup name) (fun _ => mem_recorded hrecords)
      ((hexists name).1 hname)
  rw [groupsFromMembership, (List.perm_insertionSort _ _).mem_iff, List.mem_map]
  constructor
  · rintro ⟨x, hx, rfl⟩
    obtain ⟨hx, hfound⟩ := List.mem_filter.1 hx
    obtain ⟨⟨name, group'⟩, hgroups, rfl⟩ := List.mem_map.1 hx
    obtain ⟨hname, rfl⟩ := mem_groupsBy.1 hgroups
    rw [hreal name hname] at hfound
    obtain ⟨raw, hraw, hne, rfl⟩ := isRenamedGroup_iff.1 hfound
    refine ⟨raw, hraw, hne, ?_⟩
    simp only [head_aggregations hrecords hname, hmembers]
    rfl
  · rintro ⟨raw, hraw, hne, rfl⟩
    have hname := (hexists (group raw)).2 ⟨raw, hraw, rfl⟩
    refine ⟨_, List.mem_filter.2 ⟨List.mem_map.2 ⟨_, mem_groupsBy.2 ⟨hname, rfl⟩, rfl⟩, ?_⟩, ?_⟩
    · rw [hreal (group raw) hname]
      exact isRenamedGroup_iff.2 ⟨raw, hraw, hne, rfl⟩
    · simp only [head_aggregations hrecords hname, hmembers]
      rfl

end Records

/-- Sorted lists of groups are equal if they have the same groups. -/
theorem eq_of_mem_iff {groups groups' : List SeriesGroup}
    (hsorted : groups.Pairwise fun a b => a.group < b.group)
    (hsorted' : groups'.Pairwise fun a b => a.group < b.group)
    (h : ∀ g, g ∈ groups ↔ g ∈ groups') : groups = groups' := by
  have hirrefl : ∀ {a b : SeriesGroup}, a.group < b.group → a ≠ b := by
    rintro a b hlt rfl
    exact lt_irrefl _ hlt
  have hperm : groups.Perm groups' := (List.perm_ext_iff_of_nodup (hsorted.imp hirrefl)
    (hsorted'.imp hirrefl)).2 h
  exact hperm.eq_of_pairwise (fun _ _ _ _ hlt hlt' => absurd hlt' hlt.asymm) hsorted hsorted'

end Groups

/-! ## What is listed -/

/-- The names that are listed for a panel are found, and cover its raw series. -/
structure Listed (groups : List SeriesGroup) (rawNames : List SeriesName) : Prop where
  /-- Each name that is listed stands for raw series of the panel. -/
  exist : ∀ name ∈ (mapNamesToGroups rawNames groups).1,
    resolve groups name ≠ [] ∧ ∀ raw ∈ resolve groups name, raw ∈ rawNames
  /-- A name is listed for each raw series. -/
  covered : ∀ raw ∈ rawNames, ∃ name ∈ (mapNamesToGroups rawNames groups).1,
    raw ∈ resolve groups name

section Listed

variable {groups : List SeriesGroup} {rawNames : List SeriesName}

/-- The groups of some raw names, each with a series whose name is not theirs. -/
structure Grouped (groups : List SeriesGroup) (rawNames : List SeriesName) : Prop where
  members : ∀ g ∈ groups, g.members ≠ [] ∧ ∀ raw ∈ g.members, raw ∈ rawNames
  group : ∀ g ∈ groups, ∀ g' ∈ groups, g.group = g'.group → g = g'
  derived : ∀ g ∈ groups, ∀ a ∈ g.aggregations, groupSeriesName g.group a ∉ rawNames
  emits : ∀ g ∈ groups, g.renamed = true ∧ g.aggregations ≠ []

/-- A name that is not that of a derived series stands for itself. -/
theorem resolve_of_forall_ne {name : SeriesName}
    (h : ∀ g ∈ groups, ∀ a ∈ g.aggregations, groupSeriesName g.group a ≠ name) :
    resolve groups name = [name] := by
  have hfind : (derivedSeries groups).find? (fun series => series.name = name) = none := by
    refine List.find?_eq_none.2 fun series hseries => ?_
    obtain ⟨g, hg, hseries⟩ := List.mem_flatMap.1 (List.mem_of_mem_filter hseries)
    obtain ⟨a, ha, rfl⟩ := List.mem_map.1 hseries
    simpa using h g hg a ha
  rw [resolve, expandSeriesNames]
  split
  · rfl
  · simp only [List.filter_cons, List.filterMap_cons, hfind]
    rfl

/-- The name of a derived series stands for the members of its group. -/
theorem resolve_derived (h : Grouped groups rawNames) {g : SeriesGroup} (hg : g ∈ groups)
    {a : Aggregation} (ha : a ∈ g.aggregations) :
    resolve groups (groupSeriesName g.group a) = g.members := by
  have hname : groupSeriesName g.group a ∉ groups.flatMap SeriesGroup.members := by
    intro hmem
    obtain ⟨g', hg', hmem⟩ := List.mem_flatMap.1 hmem
    exact h.derived g hg a ha ((h.members g' hg').2 _ hmem)
  have hderived : ResolvedSeries.mk (groupSeriesName g.group a) g.members a ∈
      derivedSeries groups := List.mem_filter.2 ⟨List.mem_flatMap.2 ⟨g, hg, List.mem_map.2
        ⟨a, ha, rfl⟩⟩, decide_eq_true hname⟩
  obtain ⟨hit, hfind⟩ := Option.isSome_iff_exists.1 (List.find?_isSome.2
    ⟨_, hderived, decide_eq_true rfl⟩ : ((derivedSeries groups).find? fun series =>
      series.name = groupSeriesName g.group a).isSome)
  have hmembers : hit.members = g.members := by
    have hmem := List.mem_of_find?_eq_some hfind
    have heq : hit.name = groupSeriesName g.group a := by simpa using List.find?_some hfind
    obtain ⟨g', hg', hhit⟩ := List.mem_flatMap.1 (List.mem_of_mem_filter hmem)
    obtain ⟨a', ha', rfl⟩ := List.mem_map.1 hhit
    exact congrArg SeriesGroup.members (h.group g' hg' g hg (groupSeriesName_inj heq).1)
  rw [resolve, expandSeriesNames, if_neg fun hzero => List.ne_nil_of_mem hg
    (List.length_eq_zero_iff.1 hzero)]
  simp only [List.filter_cons, List.filterMap_cons, hfind]
  simp [List.eraseDups_cons, hmembers]

theorem of_memberToGroup {raw : SeriesName} {g : SeriesGroup}
    (h : memberToGroup groups raw = some g) : g ∈ groups ∧ raw ∈ g.members := by
  have hmember := List.find?_some h
  exact ⟨List.mem_reverse.1 (List.mem_of_find?_eq_some h), of_decide_eq_true hmember⟩

/-- If every group emits a series, each raw series is in one that is listed. -/
theorem listed_of_emits (h : Grouped groups rawNames) : Listed groups rawNames := by
  have hmem : ∀ name, name ∈ (mapNamesToGroups rawNames groups).1 ↔
      ∃ raw ∈ rawNames, name ∈ listedFor groups raw := by
    intro name
    rw [mapNamesToGroups, mem_uniqueNames, List.mem_flatMap]
  have hraw : ∀ raw ∈ rawNames, resolve groups raw = [raw] := by
    refine fun raw hraw => resolve_of_forall_ne fun g hg a ha heq => ?_
    exact h.derived g hg a ha (heq ▸ hraw)
  have hlisted : ∀ raw g, memberToGroup groups raw = some g →
      listedFor groups raw = g.aggregations.map (groupSeriesName g.group) := by
    intro raw g hg
    rw [listedFor, hg]
    exact if_pos (h.emits g (of_memberToGroup hg).1).1
  constructor
  · intro name hname
    obtain ⟨raw, hmem, hname⟩ := (hmem name).1 hname
    cases hgroup : memberToGroup groups raw with
    | none =>
      rw [listedFor, hgroup, List.mem_singleton] at hname
      rw [hname, hraw raw hmem]
      exact ⟨List.cons_ne_nil _ _, fun other hother => List.mem_singleton.1 hother ▸ hmem⟩
    | some g =>
      rw [hlisted raw g hgroup] at hname
      obtain ⟨a, ha, rfl⟩ := List.mem_map.1 hname
      obtain ⟨hg, -⟩ := of_memberToGroup hgroup
      rw [resolve_derived h hg ha]
      exact h.members g hg
  · intro raw hmem'
    cases hgroup : memberToGroup groups raw with
    | none =>
      refine ⟨raw, (hmem raw).2 ⟨raw, hmem', ?_⟩, ?_⟩
      · rw [listedFor, hgroup]
        exact List.mem_singleton.2 rfl
      · rw [hraw raw hmem']
        exact List.mem_singleton.2 rfl
    | some g =>
      obtain ⟨hg, hmember⟩ := of_memberToGroup hgroup
      obtain ⟨a, rest, hcons⟩ := List.exists_cons_of_ne_nil (h.emits g hg).2
      have ha : a ∈ g.aggregations := hcons ▸ List.mem_cons_self
      refine ⟨groupSeriesName g.group a, (hmem _).2 ⟨raw, hmem', ?_⟩, ?_⟩
      · rw [hlisted raw g hgroup]
        exact List.mem_map_of_mem ha
      · rw [resolve_derived h hg ha]
        exact hmember

end Listed

/-! ## Rules -/

/-- A run has one rule for a panel, and one for every panel of a dashboard. -/
def GroupingRule.slot (rule : GroupingRule) : String × String × Option ℤ :=
  (rule.testRunId, rule.applicationDashboardId, rule.panelId)

/-- The rule for a panel, or the one for every panel of its dashboard. -/
def ruleFor (rules : List GroupingRule) (panel : Panel) (panelId : Option ℤ) :
    Option GroupingRule :=
  rules.find? fun rule =>
    rule.slot = (panel.testRunId, panel.applicationDashboardId, panelId)

section Rules

variable {regExp : RegExp} {labelOf : String → Option String} {rules : List GroupingRule}
  {panel : Panel}

theorem loadRule_slot {rule loaded : GroupingRule} (h : loadRule regExp rule = some loaded) :
    loaded.slot = rule.slot := by
  rw [loadRule] at h
  dsimp only at h
  split at h
  · cases h
  · split at h
    · cases h
    · obtain rfl := Option.some.inj h
      rfl

theorem normalizeAggregations_idem (aggregations : List String) :
    normalizeAggregations ((normalizeAggregations aggregations).map Aggregation.text) =
      normalizeAggregations aggregations := by
  refine List.filter_congr fun a _ => ?_
  have htext : Function.Injective Aggregation.text := by
    intro a b
    cases a <;> cases b <;> decide
  rw [decide_eq_decide, List.mem_map_of_injective htext, normalizeAggregations, List.mem_filter,
    decide_eq_true_eq, and_iff_right]
  cases a <;> decide

/-- A rule that is recorded does what the stored one does. -/
theorem loadRule_eq_some {rule loaded : GroupingRule} (h : loadRule regExp rule = some loaded) :
    ∃ rewrite, compileSeriesGroupingRule regExp rule.spec = .ok rewrite ∧
      compileSeriesGroupingRule regExp loaded.spec = .ok rewrite ∧
      normalizeAggregations loaded.spec.aggregations = normalizeAggregations rule.spec.aggregations := by
  rw [loadRule] at h
  dsimp only at h
  split at h
  · cases h
  · rename_i rewrite hrewrite
    split at h
    · cases h
    · obtain rfl := Option.some.inj h
      exact ⟨rewrite, hrewrite, hrewrite, normalizeAggregations_idem _⟩

/-- A rule that is not recorded is refused, or knows no aggregation. -/
theorem loadRule_eq_none {rule : GroupingRule} (h : loadRule regExp rule = none)
    {rewrite : SeriesName → SeriesName}
    (hrewrite : compileSeriesGroupingRule regExp rule.spec = .ok rewrite) :
    normalizeAggregations rule.spec.aggregations = [] := by
  rw [loadRule] at h
  dsimp only at h
  split at h
  · rename_i hrefused
    exact absurd (hrefused.symm.trans hrewrite) (by simp)
  · split at h
    · rename_i hnil
      exact List.map_eq_nil_iff.1 hnil
    · cases h

/-- The rule that governs a panel, from the stored ones. -/
theorem governingRule_load (hslots : (rules.map GroupingRule.slot).Nodup) :
    governingRule (loadSeriesGroupingContext regExp rules) panel =
      ((ruleFor rules panel (some panel.panelId)).bind (loadRule regExp)).or
        ((ruleFor rules panel none).bind (loadRule regExp)) := by
  have hslot : ∀ panelId, (((loadSeriesGroupingContext regExp rules).filter fun rule =>
      rule.testRunId = panel.testRunId &&
        rule.applicationDashboardId = panel.applicationDashboardId).filter fun rule =>
          rule.panelId = panelId).getLast? = (ruleFor rules panel panelId).bind (loadRule regExp) := by
    intro panelId
    have hfilter : ((loadSeriesGroupingContext regExp rules).filter fun rule =>
        rule.testRunId = panel.testRunId &&
          rule.applicationDashboardId = panel.applicationDashboardId).filter (fun rule =>
            rule.panelId = panelId) =
        ((ruleFor rules panel panelId).toList).filterMap (loadRule regExp) := by
      rw [ruleFor, ← filter_key_eq_toList hslots, List.filter_filter, loadSeriesGroupingContext,
        List.filter_filterMap, List.filterMap_filter]
      refine List.filterMap_congr fun rule _ => ?_
      cases hload : loadRule regExp rule with
      | none => exact (ite_self _).symm
      | some loaded =>
        have heq := loadRule_slot hload
        rw [Option.filter_some, ← heq]
        simp only [GroupingRule.slot, Prod.mk.injEq, Bool.and_eq_true, decide_eq_true_eq]
        congr 1
        rw [and_comm, and_assoc]
    rw [hfilter]
    cases ruleFor rules panel panelId with
    | none => rfl
    | some rule =>
      rw [Option.toList_some, Option.bind_some]
      cases hload : loadRule regExp rule with
      | none => rw [List.filterMap_cons_none hload]; rfl
      | some loaded => rw [List.filterMap_cons_some hload]; rfl
  rw [governingRule, hslot, hslot]

theorem pickRule_eq {rows : List RuleRow} {panelId : ℤ} {forPanel forDashboard : Option RuleRow}
    (hpanel : (rows.filter fun row => row.panelId = some panelId) = forPanel.toList)
    (hdashboard : (rows.filter fun row => row.panelId = none) = forDashboard.toList) :
    pickRule rows panelId = forPanel.or forDashboard := by
  rw [pickRule, hpanel, hdashboard]
  cases forPanel with
  | none => cases forDashboard <;> rfl
  | some row => rfl

/-- How the charts address a panel: no other panel of the run has its label and title, and
    no other dashboard with a rule for it has the label. -/
structure Addresses (labelOf : String → Option String) (rules : List GroupingRule)
    (series : List SeriesRow) (panel : Panel) (address : PanelAddress) : Prop where
  panelId : address.panelId = panel.panelId
  series : ∀ row ∈ series, row.panel.testRunId = panel.testRunId →
    (seriesPanelKey row.dashboardLabel row.panelTitle row.panel.panelId =
      seriesPanelKey address.dashboardLabel address.panelTitle address.panelId ↔ row.panel = panel)
  rules : ∀ rule ∈ rules, rule.testRunId = panel.testRunId →
    rule.panelId = some panel.panelId ∨ rule.panelId = none →
    (labelOf rule.applicationDashboardId = address.dashboardLabel ↔
      rule.applicationDashboardId = panel.applicationDashboardId)

/-- The rule of a panel, else the one of its dashboard. -/
def pickedRule (rules : List GroupingRule) (panel : Panel) : Option GroupingRule :=
  (ruleFor rules panel (some panel.panelId)).or (ruleFor rules panel none)

/-- What is picked among some rules, if those of the panel's dashboard are the ones that are
    selected. -/
theorem pickRule_ruleRows (hslots : (rules.map GroupingRule.slot).Nodup) {p : RuleRow → Bool}
    (hp : ∀ rule ∈ rules, rule.testRunId = panel.testRunId →
      rule.panelId = some panel.panelId ∨ rule.panelId = none →
      (p ⟨rule.applicationDashboardId, rule.panelId, labelOf rule.applicationDashboardId,
        rule.spec⟩ = true ↔ rule.applicationDashboardId = panel.applicationDashboardId)) :
    (pickRule ((ruleRows labelOf rules panel.testRunId).filter p) panel.panelId).map RuleRow.spec =
      (pickedRule rules panel).map GroupingRule.spec := by
  have hslot : ∀ panelId, panelId = some panel.panelId ∨ panelId = none →
      (((ruleRows labelOf rules panel.testRunId).filter p).filter fun row => row.panelId = panelId) =
        ((ruleFor rules panel panelId).map fun rule => RuleRow.mk rule.applicationDashboardId
          rule.panelId (labelOf rule.applicationDashboardId) rule.spec).toList := by
    intro panelId hpanelId
    have hfilter : rules.filter (fun rule => rule.testRunId = panel.testRunId &&
        (p ⟨rule.applicationDashboardId, rule.panelId, labelOf rule.applicationDashboardId,
          rule.spec⟩ && rule.panelId = panelId)) =
        rules.filter fun rule =>
          rule.slot = (panel.testRunId, panel.applicationDashboardId, panelId) := by
      refine List.filter_congr fun rule hrule => ?_
      rw [Bool.eq_iff_iff, Bool.and_eq_true, Bool.and_eq_true, decide_eq_true_eq, decide_eq_true_eq,
        decide_eq_true_eq, GroupingRule.slot, Prod.mk.injEq, Prod.mk.injEq]
      refine and_congr_right fun hrun => and_congr_left fun heq => ?_
      exact hp rule hrule hrun (heq.symm ▸ hpanelId)
    rw [Option.toList_map, ruleFor, ← filter_key_eq_toList hslots, ← hfilter, ruleRows,
      List.filter_map, List.filter_map, List.filter_filter, List.filter_filter]
    refine congrArg (List.map _) (List.filter_congr fun rule _ => ?_)
    simp only [Function.comp_apply]
    grind
  rw [pickRule_eq (hslot _ (.inl rfl)) (hslot _ (.inr rfl)), pickedRule]
  cases ruleFor rules panel (some panel.panelId) with
  | none => cases ruleFor rules panel none <;> rfl
  | some rule => rfl

end Rules

/-! ## Live and recorded groups -/

/-- Each name that a rule renames is in a group with a series that can be named. -/
def RenamesToSeries (regExp : RegExp) (spec : RuleSpec) (rawNames : List SeriesName) : Prop :=
  ∀ rewrite, compileSeriesGroupingRule regExp spec = .ok rewrite →
    ∀ raw ∈ rawNames, groupNameFor rewrite raw ≠ raw →
      ∃ a ∈ normalizeAggregations spec.aggregations,
        isFree (spokenFor (groupNameFor rewrite) (uniqueNames rawNames))
          (groupNameFor rewrite raw) a = true

/-- A rule leaves all names alone. -/
def RenamesNothing (regExp : RegExp) (spec : RuleSpec) (rawNames : List SeriesName) : Prop :=
  ∀ rewrite, compileSeriesGroupingRule regExp spec = .ok rewrite →
    ∀ raw ∈ rawNames, groupNameFor rewrite raw = raw

/-- The rule that is picked for a panel renames to series that can be named; and if it is the
    panel's own and is not recorded, the rule of the dashboard, if it is, leaves the names of
    the panel alone. -/
structure Consistent (regExp : RegExp) (rules : List GroupingRule) (panel : Panel)
    (rawNames : List SeriesName) : Prop where
  picked : ∀ rule, pickedRule rules panel = some rule → RenamesToSeries regExp rule.spec rawNames
  shadowed : ∀ rule, ruleFor rules panel (some panel.panelId) = some rule →
    loadRule regExp rule = none →
    ∀ other, ruleFor rules panel none = some other → loadRule regExp other ≠ none →
      RenamesNothing regExp other.spec rawNames

/-- The groups of the rules are those of the membership, and what is listed is found. -/
structure Agree (live recorded : List SeriesGroup) (rawNames : List SeriesName) : Prop where
  groups : live = recorded
  listed : Listed live rawNames

section Agree

variable {regExp : RegExp} {labelOf : String → Option String} {rules : List GroupingRule}
  {series : List SeriesRow} {panel : Panel} {rawNames : List SeriesName} {spec : RuleSpec}

theorem groupEmits_eq_nil_iff {group : SeriesName → SeriesName} {aggregations : List Aggregation}
    {unique : List SeriesName} {raw : SeriesName} (hraw : raw ∈ unique) (hne : group raw ≠ raw) :
    groupEmits group aggregations unique (group raw) = [] ↔
      ¬∃ a ∈ aggregations, isFree (spokenFor group unique) (group raw) a = true := by
  have hrenamed : isRenamedGroup group unique (group raw) = true :=
    isRenamedGroup_iff.2 ⟨raw, hraw, hne, rfl⟩
  rw [groupEmits, emits, if_pos hrenamed, List.filter_eq_nil_iff]
  push Not
  rfl

theorem aggregations_ne_nil_iff : (∀ g ∈ groupsFromRule regExp spec rawNames, g.aggregations ≠ []) ↔
    RenamesToSeries regExp spec rawNames := by
  cases hrewrite : compileSeriesGroupingRule regExp spec with
  | error e =>
    rw [groupsFromRule_of_error hrewrite]
    exact iff_of_true (fun g hg => absurd hg List.not_mem_nil)
      fun rewrite hok => absurd (hrewrite.symm.trans hok) (by simp)
  | ok rewrite =>
    constructor
    · intro h rewrite' hok raw hraw hne
      obtain rfl := Except.ok.inj (hrewrite.symm.trans hok)
      have hemits := h _ ((mem_groupsFromRule hrewrite).2 ⟨raw, hraw, hne, rfl⟩)
      by_contra hnot
      exact hemits ((groupEmits_eq_nil_iff (mem_uniqueNames.2 hraw) hne).2 hnot)
    · intro h g hg
      obtain ⟨raw, hraw, hne, rfl⟩ := (mem_groupsFromRule hrewrite).1 hg
      exact fun hnil => (groupEmits_eq_nil_iff (mem_uniqueNames.2 hraw) hne).1 hnil
        (h rewrite hrewrite raw hraw hne)

theorem renamed_groupsFromRule {g : SeriesGroup} (hg : g ∈ groupsFromRule regExp spec rawNames) :
    g.renamed = true := by
  cases hrewrite : compileSeriesGroupingRule regExp spec with
  | error e =>
    rw [groupsFromRule_of_error hrewrite] at hg
    cases hg
  | ok rewrite =>
    obtain ⟨raw, -, -, rfl⟩ := (mem_groupsFromRule hrewrite).1 hg
    rfl

theorem renamed_groupsFromMembership {rows : List MembershipRow} {g : SeriesGroup}
    (hg : g ∈ groupsFromMembership rows) : g.renamed = decide (g.aggregations ≠ []) := by
  obtain ⟨x, hx, rfl⟩ := List.mem_map.1 ((List.perm_insertionSort _ _).subset hg)
  obtain ⟨y, -, rfl⟩ := List.mem_map.1 (List.mem_of_mem_filter hx)
  rfl

/-- Groups that the membership tells, too, emit series. -/
theorem renamesToSeries_of_eq {rows : List MembershipRow}
    (h : groupsFromRule regExp spec rawNames = groupsFromMembership rows) :
    RenamesToSeries regExp spec rawNames := by
  refine aggregations_ne_nil_iff.1 fun g hg => ?_
  have hrenamed := renamed_groupsFromMembership (h ▸ hg)
  rw [renamed_groupsFromRule hg] at hrenamed
  exact of_decide_eq_true hrenamed.symm

/-- Groups that emit series are listed. -/
theorem listed_groupsFromRule (h : RenamesToSeries regExp spec rawNames) :
    Listed (groupsFromRule regExp spec rawNames) rawNames := by
  have hemits := aggregations_ne_nil_iff.2 h
  cases hrewrite : compileSeriesGroupingRule regExp spec with
  | error e =>
    rw [groupsFromRule_of_error hrewrite]
    exact listed_of_emits (by constructor <;> exact fun g hg => absurd hg List.not_mem_nil)
  | ok rewrite =>
    refine listed_of_emits ⟨fun g hg => ?_, fun g hg g' hg' heq => ?_, fun g hg a ha => ?_,
      fun g hg => ⟨renamed_groupsFromRule hg, hemits g hg⟩⟩
    · obtain ⟨raw, hraw, -, rfl⟩ := (mem_groupsFromRule hrewrite).1 hg
      refine ⟨List.ne_nil_of_mem (mem_renamedGroup.2 ⟨mem_uniqueNames.2 hraw, rfl⟩), ?_⟩
      exact fun other hother => mem_uniqueNames.1 (mem_renamedGroup.1 hother).1
    · obtain ⟨raw, -, -, rfl⟩ := (mem_groupsFromRule hrewrite).1 hg
      obtain ⟨raw', -, -, rfl⟩ := (mem_groupsFromRule hrewrite).1 hg'
      exact congrArg _ heq
    · obtain ⟨raw, -, -, rfl⟩ := (mem_groupsFromRule hrewrite).1 hg
      have hfree := isFree_of_mem_emits ha
      rw [isFree, Bool.and_eq_true, decide_eq_true_eq, decide_eq_true_eq] at hfree
      exact fun hraw => hfree.2 (List.mem_append_left _ (mem_uniqueNames.2 hraw))

/-- A rule that is not recorded renames nothing, if each name that it renames is in a group
    with a series. -/
theorem groupsFromRule_eq_nil {rule : GroupingRule} (hload : loadRule regExp rule = none)
    (h : RenamesToSeries regExp rule.spec rawNames) : groupsFromRule regExp rule.spec rawNames = [] := by
  cases hrewrite : compileSeriesGroupingRule regExp rule.spec with
  | error e => exact groupsFromRule_of_error hrewrite rawNames
  | ok rewrite =>
    refine List.eq_nil_iff_forall_not_mem.2 fun g hg => ?_
    obtain ⟨raw, hraw, hne, -⟩ := (mem_groupsFromRule hrewrite).1 hg
    obtain ⟨a, ha, -⟩ := h rewrite hrewrite raw hraw hne
    rw [loadRule_eq_none hload hrewrite] at ha
    cases ha

section Recorded

variable {rows stored : List MembershipRow}
  (hslots : (rules.map GroupingRule.slot).Nodup)
  (hseries : (series.map fun row => (row.panel, row.metricName)).Nodup)
  (hrows : buildMembership regExp (loadSeriesGroupingContext regExp rules) series = .ok rows)
  (hstored : stored.Perm (rows.filter fun row => row.panel = panel))
  (hnames : ∀ name, name ∈ rawNames ↔ name ∈ panelNames series panel)
include hrows hstored

theorem nodup_stored (hseries : (series.map fun row => (row.panel, row.metricName)).Nodup) :
    (stored.map fun row => row.name).Nodup := by
  have hperm := buildMembership_perm (compiled_loadSeriesGroupingContext regExp rules) hrows
  have hkeys : (rows.map fun row => (row.panel, row.metricName)).Nodup := by
    have hmap := (hperm.map fun row => (row.panel, row.metricName)).nodup_iff.2
      (hseries.sublist (List.filter_sublist.map _))
    rwa [List.map_map] at hmap
  refine (hstored.map _).nodup_iff.2 ?_
  refine List.Nodup.map_on (fun row hrow other hother heq => ?_) (hkeys.of_map.filter _)
  obtain ⟨hrow, hpanel⟩ := List.mem_filter.1 hrow
  obtain ⟨hother, hpanel'⟩ := List.mem_filter.1 hother
  exact List.inj_on_of_nodup_map hkeys hrow hother (Prod.ext
    ((of_decide_eq_true hpanel).trans (of_decide_eq_true hpanel').symm)
    (Utf16.encode_injective heq))

/-- A panel that no rule governs has no rows. -/
theorem stored_eq_nil
    (h : governingRule (loadSeriesGroupingContext regExp rules) panel = none) : stored = [] := by
  have hnil : (rows.filter fun row => row.panel = panel) = [] := by
    refine List.filter_eq_nil_iff.2 fun row hrow hpanel => ?_
    obtain rfl := of_decide_eq_true hpanel
    obtain ⟨rule, -, hrule, -⟩ := of_mem_buildMembership
      (compiled_loadSeriesGroupingContext regExp rules) hrows hrow
    exact absurd (h.symm.trans hrule) (by simp)
  exact List.perm_nil.1 (hnil ▸ hstored)

include hnames hseries

/-- The groups of the membership of a panel that a rule governs. -/
theorem mem_recordedGroups {rule loaded : GroupingRule} (hload : loadRule regExp rule = some loaded)
    (hgoverns : governingRule (loadSeriesGroupingContext regExp rules) panel = some loaded)
    {rewrite : SeriesName → SeriesName}
    (hrewrite : compileSeriesGroupingRule regExp rule.spec = .ok rewrite) {g : SeriesGroup} :
    g ∈ groupsFromMembership stored ↔ ∃ raw ∈ rawNames, groupNameFor rewrite raw ≠ raw ∧
      g = { renamedGroup (groupNameFor rewrite) (normalizeAggregations rule.spec.aggregations)
          (uniqueNames rawNames) (groupNameFor rewrite raw) with
        renamed := groupEmits (groupNameFor rewrite) (normalizeAggregations rule.spec.aggregations)
          (uniqueNames rawNames) (groupNameFor rewrite raw) ≠ [] } := by
  obtain ⟨rewrite', hrewrite', hloaded, haggregations⟩ := loadRule_eq_some hload
  obtain rfl := Except.ok.inj (hrewrite.symm.trans hrewrite')
  have hrecords := records_panel (compiled_loadSeriesGroupingContext regExp rules) hrows hgoverns
    hloaded
  rw [haggregations, ← uniqueNames_congr hnames] at hrecords
  have hstored' : Records (groupNameFor rewrite) (normalizeAggregations rule.spec.aggregations)
      (uniqueNames rawNames) stored := hrecords.perm hstored.symm
  rw [mem_groupsFromMembership hstored' (nodup_stored hrows hstored hseries)
    (List.pairwise_insertionSort _ _) (nodup_uniqueNames rawNames)]
  simp only [mem_uniqueNames]

/-- The membership of a rule has the groups of the rule, if they all emit series. -/
theorem groupsFromRule_eq {rule loaded : GroupingRule} (hload : loadRule regExp rule = some loaded)
    (hgoverns : governingRule (loadSeriesGroupingContext regExp rules) panel = some loaded)
    (h : RenamesToSeries regExp rule.spec rawNames) :
    groupsFromRule regExp rule.spec rawNames = groupsFromMembership stored := by
  obtain ⟨rewrite, hrewrite, -⟩ := loadRule_eq_some hload
  refine eq_of_mem_iff pairwise_groupsFromRule (pairwise_groupsFromMembership stored) fun g => ?_
  rw [mem_groupsFromRule hrewrite,
    mem_recordedGroups hseries hrows hstored hnames hload hgoverns hrewrite]
  refine exists_congr fun raw => and_congr_right fun hraw => and_congr_right fun hne => ?_
  have hemits : groupEmits (groupNameFor rewrite) (normalizeAggregations rule.spec.aggregations)
      (uniqueNames rawNames) (groupNameFor rewrite raw) ≠ [] := fun hnil =>
    (groupEmits_eq_nil_iff (mem_uniqueNames.2 hraw) hne).1 hnil (h rewrite hrewrite raw hraw hne)
  rw [decide_eq_true hemits]
  rfl

/-- There are no groups in the membership exactly if its rule renames nothing. -/
theorem groupsFromMembership_eq_nil_iff {rule loaded : GroupingRule}
    (hload : loadRule regExp rule = some loaded)
    (hgoverns : governingRule (loadSeriesGroupingContext regExp rules) panel = some loaded) :
    groupsFromMembership stored = [] ↔ RenamesNothing regExp rule.spec rawNames := by
  obtain ⟨rewrite, hrewrite, -⟩ := loadRule_eq_some hload
  rw [List.eq_nil_iff_forall_not_mem]
  constructor
  · intro h rewrite' hok raw hraw
    obtain rfl := Except.ok.inj (hrewrite.symm.trans hok)
    by_contra hne
    exact h _ ((mem_recordedGroups hseries hrows hstored hnames hload hgoverns hrewrite).2
      ⟨raw, hraw, hne, rfl⟩)
  · intro h g hg
    obtain ⟨raw, hraw, hne, -⟩ :=
      (mem_recordedGroups hseries hrows hstored hnames hload hgoverns hrewrite).1 hg
    exact hne (h rewrite hrewrite raw hraw)

include hslots

/-- The groups of the rule that is picked for a panel are those of its membership, and are
    listed, exactly if the rules are consistent. -/
theorem agree_iff : Agree (match (pickedRule rules panel).map GroupingRule.spec with
      | none => []
      | some spec => groupsFromRule regExp spec rawNames) (groupsFromMembership stored) rawNames ↔
    Consistent regExp rules panel rawNames := by
  have hgoverns := @governingRule_load regExp rules panel hslots
  cases hpick : pickedRule rules panel with
  | none =>
    obtain ⟨hown, hdashboard⟩ := Option.or_eq_none_iff.1 hpick
    rw [hown, hdashboard] at hgoverns
    obtain rfl := stored_eq_nil hrows hstored hgoverns
    refine iff_of_true ⟨rfl, listed_of_emits ?_⟩ ⟨fun rule h => ?_, fun own h => ?_⟩
    · constructor <;> exact fun g hg => absurd hg List.not_mem_nil
    · exact absurd (hpick.symm.trans h) (Option.some_ne_none rule).symm
    · exact absurd (hown.symm.trans h) (Option.some_ne_none own).symm
  | some rule =>
    change Agree (groupsFromRule regExp rule.spec rawNames) _ _ ↔ _
    constructor
    · rintro ⟨heq, -⟩
      have hrenames := renamesToSeries_of_eq heq
      refine ⟨fun picked hpicked => ?_, fun own hown hload other hother hloads => ?_⟩
      · obtain rfl := Option.some.inj (hpick.symm.trans hpicked)
        exact hrenames
      · obtain ⟨loaded, hloaded⟩ := Option.ne_none_iff_exists'.1 hloads
        rw [pickedRule, hown] at hpick
        obtain rfl := Option.some.inj hpick
        have hgov : governingRule (loadSeriesGroupingContext regExp rules) panel = some loaded := by
          rw [hgoverns, hown, hother, Option.bind_some, Option.bind_some, hload, hloaded]
          rfl
        exact (groupsFromMembership_eq_nil_iff hseries hrows hstored hnames hloaded hgov).1
          (heq.symm.trans (groupsFromRule_eq_nil hload hrenames))
    · intro h
      have hrenames := h.picked rule hpick
      refine ⟨?_, listed_groupsFromRule hrenames⟩
      cases hload : loadRule regExp rule with
      | some loaded =>
        have hgov : governingRule (loadSeriesGroupingContext regExp rules) panel = some loaded := by
          rw [hgoverns]
          rcases Option.or_eq_some_iff.1 hpick with hown | ⟨hown, hdashboard⟩
          · rw [hown, Option.bind_some, hload]
            rfl
          · rw [hown, hdashboard, Option.bind_some, hload]
            rfl
        exact groupsFromRule_eq hseries hrows hstored hnames hload hgov hrenames
      | none =>
        rw [groupsFromRule_eq_nil hload hrenames]
        cases hgov : governingRule (loadSeriesGroupingContext regExp rules) panel with
        | none =>
          obtain rfl := stored_eq_nil hrows hstored hgov
          rfl
        | some loaded =>
          have hboth := hgoverns.symm.trans hgov
          -- Only the rule of the dashboard can govern the panel, behind the panel's own.
          rcases Option.or_eq_some_iff.1 hpick with hown | ⟨hown, hdashboard⟩
          · rw [hown, Option.bind_some, hload, Option.none_or] at hboth
            obtain ⟨other, hother, hloaded⟩ := Option.bind_eq_some_iff.1 hboth
            have hnothing := h.shadowed rule hown hload other hother
              (Option.ne_none_iff_exists'.2 ⟨loaded, hloaded⟩)
            exact ((groupsFromMembership_eq_nil_iff hseries hrows hstored hnames hloaded hgov).2
              hnothing).symm
          · rw [hown, hdashboard, Option.bind_none, Option.bind_some, hload] at hboth
            cases hboth

end Recorded

theorem groupsForPanel_nil (candidates : List RuleRow) (panelId : ℤ) :
    groupsForPanel regExp ⟨[], candidates⟩ panelId rawNames =
      match (pickRule candidates panelId).map RuleRow.spec with
      | none => []
      | some spec => groupsFromRule regExp spec rawNames := by
  cases candidates with
  | nil => rfl
  | cons row candidates =>
    change (match pickRule (row :: candidates) panelId with
      | none => []
      | some rule => groupsFromRule regExp rule.spec rawNames) = _
    cases pickRule (row :: candidates) panelId <;> rfl

theorem groupsInRun_nil (rules : List RuleRow) (address : PanelAddress) :
    groupsInRun regExp ⟨[], rules⟩ address rawNames =
      match (pickRule (rules.filter fun rule => rule.dashboardLabel = address.dashboardLabel)
        address.panelId).map RuleRow.spec with
      | none => []
      | some spec => groupsFromRule regExp spec rawNames := by
  cases rules with
  | nil => rfl
  | cons row rules =>
    change (match pickRule ((row :: rules).filter fun rule =>
        rule.dashboardLabel = address.dashboardLabel) address.panelId with
      | none => []
      | some rule => groupsFromRule regExp rule.spec rawNames) = _
    cases pickRule ((row :: rules).filter fun rule =>
      rule.dashboardLabel = address.dashboardLabel) address.panelId <;> rfl

end Agree

/-! ## Examples -/

/-- The raw series of a panel, under some names. -/
def podSeries (names : List String) : List SeriesRow :=
  names.map fun name => ⟨⟨"run", "dashboard", 1⟩, name, some "Pods", some "CPU"⟩

/-- A rule of the panel that is refused shadows that of the dashboard. -/
def shadowingRules : List GroupingRule :=
  ⟨"run", "own", "dashboard", some 1, { podRule with pattern := some "(" }⟩ :: podRules

end Perfana.SeriesGrouping
