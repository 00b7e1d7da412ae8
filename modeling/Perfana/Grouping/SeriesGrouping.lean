import Mathlib.Data.List.Lex
import Mathlib.Data.List.Sort
import Perfana.Lib.Groups
import Perfana.Lib.Table
import Perfana.Lib.Utf16

/-!
# Series grouping

A rule maps series whose names differ by a generated segment to one group: its pattern is
replaced in the name of each. A group that is renamed emits one series for each aggregation
of the rule, `<group> (avg)` and so on, unless that name is spoken for or too long; a series
that the rule leaves alone is a group of one and passes through under its own name.

What the pattern does to a name is a parameter: the claims hold for any function.

* `seriesAggregations_eq`: an aggregation of a group is kept if and only if its name is
  neither that of a series or group nor too long: the names that are emitted before it never
  matter;
* `applySeriesGrouping_wellFormed`: the groups partition the names, and no two series that
  are emitted have the same name; the order and the number of the names do not matter.
-/

namespace Perfana.SeriesGrouping

/-- The name of a series, in code units. -/
abbrev SeriesName := List CodeUnit

instance SeriesName.lawfulBEq : LawfulBEq SeriesName := inferInstance

/-! ## Rules -/

/-- What a group is combined with. -/
inductive Aggregation
  | avg
  | sum
  | max
  | count
deriving DecidableEq

namespace Aggregation

/-- How an aggregation is stored. -/
def text : Aggregation → String
  | avg => "avg"
  | sum => "sum"
  | max => "max"
  | count => "count"

/-- All of them, in canonical order. -/
def all : List Aggregation := [avg, sum, max, count]

end Aggregation

/-- What a rule rewrites. -/
inductive Preset
  | k8sPod
  | k8sDaemonset
  | ipPort
  | trailingId
  | custom
deriving DecidableEq

structure RuleSpec where
  preset : Preset
  /-- The pattern of a custom rule. -/
  pattern : Option String
  /-- What a custom rule puts in its place. -/
  replacement : Option String
  /-- The aggregations as they are stored, known or not. -/
  aggregations : List String
deriving DecidableEq

/-- The alphabet of the names that Kubernetes generates. -/
def k8sAlphabet : String := "[bcdfghjklmnpqrstvwxz2456789]"

/-- The end of the name, or a character that the name of a pod cannot contain. -/
def podNameEnd : String := "(?=$|[^a-z0-9-])"

/-- The pattern and the replacement of a built-in preset. -/
def presetPattern : Preset → Option (String × String)
  | .k8sPod =>
    some ("-" ++ k8sAlphabet ++ "\x7b6,10\x7d-" ++ k8sAlphabet ++ "\x7b5\x7d" ++ podNameEnd, "")
  | .k8sDaemonset => some ("-" ++ k8sAlphabet ++ "\x7b5\x7d" ++ podNameEnd, "")
  | .ipPort =>
    some ("\\b\\d\x7b1,3\x7d\\.\\d\x7b1,3\x7d\\.\\d\x7b1,3\x7d\\.\\d\x7b1,3\x7d(?::\\d\x7b1,5\x7d)?\\b",
      "*")
  | .trailingId => some ("[-_][a-z0-9]\x7b4,\x7d$", "")
  | .custom => none

/-- The columns of names store so many characters. -/
def SERIES_NAME_MAX_LENGTH : ℕ := 255

/-- The name of the series that an aggregation of a renamed group emits. -/
def groupSeriesName (group : SeriesName) (aggregation : Aggregation) : SeriesName :=
  group ++ Utf16.encode (" (" ++ aggregation.text ++ ")")

/-- The known ones of some aggregations, in canonical order. -/
def normalizeAggregations (aggregations : List String) : List Aggregation :=
  Aggregation.all.filter fun a => a.text ∈ aggregations

/-- What a pattern is compiled to, if it is not refused: the replacement of all its
    occurrences by a text. -/
abbrev RegExp := String → Except String (String → SeriesName → SeriesName)

/-- What a rule does to the names, unless it is refused. -/
def compileSeriesGroupingRule (regExp : RegExp) (rule : RuleSpec) :
    Except String (SeriesName → SeriesName) :=
  match presetPattern rule.preset with
  | some (pattern, replacement) => (regExp pattern).map fun replace => replace replacement
  | none =>
    match rule.pattern with
    | none => .error "A custom series grouping rule needs a pattern"
    | some pattern =>
      if pattern = "" then .error "A custom series grouping rule needs a pattern"
      else (regExp pattern).map fun replace => replace (rule.replacement.getD "")

/-! ## Groups -/

/-- A name cut to a number of units, without half of a pair at its end. -/
def truncateName (name : SeriesName) (limit : ℕ) : SeriesName :=
  if name.length ≤ limit then name
  else
    match (name.take limit).getLast? with
    | some last => if Utf16.isHigh last then (name.take limit).dropLast else name.take limit
    | none => name.take limit

/-- A unit that is trimmed off a text. -/
def isSpace (u : CodeUnit) : Bool :=
  u.val ∈ [0x9, 0xA, 0xB, 0xC, 0xD, 0x20, 0xA0, 0x1680, 0x2028, 0x2029, 0x202F, 0x205F, 0x3000,
    0xFEFF] || (0x2000 ≤ u.val && u.val ≤ 0x200A)

/-- The group of a name. One that is rewritten to nothing keeps its name. -/
def groupNameFor (rewrite : SeriesName → SeriesName) (raw : SeriesName) : SeriesName :=
  if (rewrite raw).all isSpace then raw else truncateName (rewrite raw) SERIES_NAME_MAX_LENGTH

/-- The aggregations of a group whose names can be had, and the names that are taken then. -/
def keepAggregations (group : SeriesName) :
    List Aggregation → List SeriesName → List Aggregation × List SeriesName
  | [], taken => ([], taken)
  | a :: rest, taken =>
    if SERIES_NAME_MAX_LENGTH < (groupSeriesName group a).length ∨ groupSeriesName group a ∈ taken
    then keepAggregations group rest taken
    else
      let (kept, taken) := keepAggregations group rest (groupSeriesName group a :: taken)
      (a :: kept, taken)

/-- The aggregations of the groups, those that are renamed and keep any. -/
def keepSeries (renamed : SeriesName → Bool) (aggregations : List Aggregation) :
    List SeriesName → List SeriesName → List (SeriesName × List Aggregation)
  | [], _ => []
  | group :: rest, taken =>
    if renamed group then
      let (kept, taken) := keepAggregations group aggregations taken
      if kept = [] then keepSeries renamed aggregations rest taken
      else (group, kept) :: keepSeries renamed aggregations rest taken
    else keepSeries renamed aggregations rest taken

theorem keepSeries_sublist (renamed : SeriesName → Bool) (aggregations : List Aggregation)
    (groups taken : List SeriesName) :
    ((keepSeries renamed aggregations groups taken).map Prod.fst).Sublist groups := by
  induction groups generalizing taken with
  | nil => exact List.Sublist.refl []
  | cons group rest ih =>
    rw [keepSeries]
    split
    · dsimp only
      split
      · exact (ih _).cons _
      · exact (ih _).cons_cons _
    · exact (ih _).cons _

/-- The groups of some names. -/
structure Result where
  /-- The group of each name. -/
  mapping : Table SeriesName SeriesName
  /-- The members of each group. -/
  groups : Table SeriesName (List SeriesName)
  /-- How many names were renamed. -/
  renamedCount : ℕ
  /-- The aggregations that each renamed group emits, if any. -/
  seriesAggregations : Table SeriesName (List Aggregation)
  /-- Whether the rule renamed each group. -/
  isRenamed : Table SeriesName Bool

/-- The different names, sorted. -/
def uniqueNames (names : List SeriesName) : List SeriesName :=
  names.eraseDups.insertionSort (· ≤ ·)

theorem mem_uniqueNames {names : List SeriesName} {name : SeriesName} :
    name ∈ uniqueNames names ↔ name ∈ names := by
  rw [uniqueNames, (List.perm_insertionSort _ _).mem_iff, List.mem_eraseDups]

theorem nodup_uniqueNames (names : List SeriesName) : (uniqueNames names).Nodup :=
  (List.perm_insertionSort _ _).nodup_iff.2 (nodup_eraseDups names)

/-- The order and the number of the names do not matter. -/
theorem uniqueNames_congr {names names' : List SeriesName} (h : ∀ name, name ∈ names ↔ name ∈ names') :
    uniqueNames names = uniqueNames names' := by
  have hperm : (uniqueNames names).Perm (uniqueNames names') :=
    (List.perm_ext_iff_of_nodup (nodup_uniqueNames names) (nodup_uniqueNames names')).2
      fun name => by rw [mem_uniqueNames, mem_uniqueNames, h]
  exact hperm.eq_of_pairwise (fun _ _ _ _ => le_antisymm) (List.pairwise_insertionSort _ _)
    (List.pairwise_insertionSort _ _)

/-- The groups of some different names, each with its members, sorted. -/
def groupsOf (group : SeriesName → SeriesName) (unique : List SeriesName) :
    Table SeriesName (List SeriesName) where
  rows := (groupsBy group unique).insertionSort fun a b => a.1 ≤ b.1
  nodup := ((List.perm_insertionSort _ _).map _).nodup_iff.2 nodup_groupsBy

/-- A name of the group is not the name of the group. -/
def isRenamedGroup (group : SeriesName → SeriesName) (unique : List SeriesName) (g : SeriesName) :
    Bool := unique.any fun raw => group raw = g && g ≠ raw

/-- Some different names, grouped under what a rule does to them. -/
def groupUnique (group : SeriesName → SeriesName) (aggregations : List Aggregation)
    (unique : List SeriesName) (hunique : unique.Nodup) : Result :=
  let groups := groupsOf group unique
  let names := groups.rows.map Prod.fst
  { mapping := ⟨unique.map fun raw => (raw, group raw), by
      rw [List.map_map]
      exact (List.map_id unique).symm ▸ hunique⟩
    groups
    renamedCount := unique.countP fun raw => group raw ≠ raw
    seriesAggregations :=
      ⟨keepSeries (isRenamedGroup group unique) aggregations names (unique ++ names),
        groups.nodup.sublist (keepSeries_sublist _ _ _ _)⟩
    isRenamed := ⟨names.map fun g => (g, isRenamedGroup group unique g), by
      rw [List.map_map]
      exact (List.map_id names).symm ▸ groups.nodup⟩ }

/-- The groups of some names under a rule. A rule that is refused has none. -/
def applySeriesGrouping (regExp : RegExp) (rule : RuleSpec) (names : List SeriesName) :
    Except String Result :=
  (compileSeriesGroupingRule regExp rule).map fun rewrite =>
    groupUnique (groupNameFor rewrite) (normalizeAggregations rule.aggregations)
      (uniqueNames names) (nodup_uniqueNames names)

/-! ## Derived names -/

/-- A derived name tells its group and its aggregation. -/
theorem groupSeriesName_inj {group group' : SeriesName} {a a' : Aggregation}
    (h : groupSeriesName group a = groupSeriesName group' a') : group = group' ∧ a = a' := by
  -- The aggregations differ in their last characters.
  have hlast : ∀ (g : SeriesName) (b : Aggregation), (groupSeriesName g b).reverse[1]? =
      (Utf16.encode (" (" ++ b.text ++ ")")).reverse[1]? := by
    intro g b
    rw [groupSeriesName, List.reverse_append, List.getElem?_append_left]
    cases b <;> decide
  have hsame := hlast group a
  rw [h, hlast group' a'] at hsame
  have ha : a = a' := by
    revert hsame
    cases a <;> cases a' <;> decide
  subst ha
  exact ⟨List.append_cancel_right h, rfl⟩

/-- The name of a derived series is neither too long nor one of some names. -/
def isFree (names : List SeriesName) (group : SeriesName) (a : Aggregation) : Bool :=
  (groupSeriesName group a).length ≤ SERIES_NAME_MAX_LENGTH && groupSeriesName group a ∉ names

section Keep

variable {group : SeriesName} {aggregations : List Aggregation} {taken names : List SeriesName}

/-- What a group keeps, if only `names` matter among those that are taken. -/
theorem keepAggregations_eq (hnodup : aggregations.Nodup)
    (h : ∀ a ∈ aggregations, groupSeriesName group a ∈ taken ↔ groupSeriesName group a ∈ names) :
    (keepAggregations group aggregations taken).1 = aggregations.filter (isFree names group) ∧
      ∀ name ∈ (keepAggregations group aggregations taken).2,
        name ∈ taken ∨ ∃ a, name = groupSeriesName group a := by
  induction aggregations generalizing taken with
  | nil => exact ⟨rfl, fun name hname => .inl hname⟩
  | cons a rest ih =>
    obtain ⟨ha, hrest⟩ := List.nodup_cons.1 hnodup
    have htaken := h a List.mem_cons_self
    rw [keepAggregations]
    split
    · rename_i hrefused
      have hfree : ¬isFree names group a = true := by
        rw [isFree, Bool.and_eq_true, decide_eq_true_eq, decide_eq_true_eq, not_and_or, not_le,
          not_not, ← htaken]
        exact hrefused
      rw [List.filter_cons_of_neg hfree]
      exact ih hrest fun b hb => h b (List.mem_cons_of_mem _ hb)
    · rename_i hrefused
      have hfree : isFree names group a = true := by
        rw [isFree, Bool.and_eq_true, decide_eq_true_eq, decide_eq_true_eq, ← htaken, ← not_lt]
        exact not_or.1 hrefused
      have hother : ∀ b ∈ rest, groupSeriesName group b ∈ groupSeriesName group a :: taken ↔
          groupSeriesName group b ∈ names := by
        intro b hb
        have hne : groupSeriesName group b ≠ groupSeriesName group a :=
          fun heq => ha ((groupSeriesName_inj heq).2 ▸ hb)
        rw [List.mem_cons, or_iff_right hne]
        exact h b (List.mem_cons_of_mem _ hb)
      obtain ⟨hkept, hnames⟩ := ih hrest hother
      rw [List.filter_cons_of_pos hfree]
      refine ⟨congrArg (a :: ·) hkept, fun name hname => ?_⟩
      rcases hnames name hname with hmem | hderived
      · exact (List.mem_cons.1 hmem).elim (fun heq => .inr ⟨a, heq⟩) .inl
      · exact .inr hderived

theorem mem_keepAggregations {name : SeriesName} (h : name ∈ taken) :
    name ∈ (keepAggregations group aggregations taken).2 := by
  induction aggregations generalizing taken with
  | nil => exact h
  | cons a rest ih =>
    rw [keepAggregations]
    split
    · exact ih h
    · exact ih (List.mem_cons_of_mem _ h)

/-- What a group emits. -/
def emits (renamed : SeriesName → Bool) (aggregations : List Aggregation) (names : List SeriesName)
    (group : SeriesName) : List Aggregation :=
  if renamed group then aggregations.filter (isFree names group) else []

/-- The names that are emitted before do not matter: a name tells its group. -/
theorem seriesAggregations_eq {renamed : SeriesName → Bool} {groups : List SeriesName}
    (hnodup : aggregations.Nodup) (hgroups : groups.Nodup)
    (h : ∀ g ∈ groups, ∀ a ∈ aggregations,
      groupSeriesName g a ∈ taken ↔ groupSeriesName g a ∈ names) :
    keepSeries renamed aggregations groups taken =
      (groups.map fun g => (g, emits renamed aggregations names g)).filter fun row => row.2 ≠ [] := by
  induction groups generalizing taken with
  | nil => rfl
  | cons g rest ih =>
    obtain ⟨hg, hrest⟩ := List.nodup_cons.1 hgroups
    rw [keepSeries, List.map_cons]
    split
    · rename_i hrenamed
      obtain ⟨hkept, hnames⟩ := keepAggregations_eq hnodup (h g List.mem_cons_self)
      have hother : ∀ g' ∈ rest, ∀ a ∈ aggregations,
          groupSeriesName g' a ∈ (keepAggregations g aggregations taken).2 ↔
            groupSeriesName g' a ∈ names := by
        intro g' hg' a ha
        rw [← h g' (List.mem_cons_of_mem _ hg') a ha]
        refine ⟨fun hmem => (hnames _ hmem).elim id ?_, mem_keepAggregations⟩
        rintro ⟨b, heq⟩
        exact absurd ((groupSeriesName_inj heq).1 ▸ hg') hg
      have hemits : emits renamed aggregations names g =
          (keepAggregations g aggregations taken).1 := by
        rw [emits, if_pos hrenamed, hkept]
      dsimp only
      rw [hemits]
      split
      · rename_i hnil
        rw [List.filter_cons_of_neg (by simp [hnil]), ih hrest hother]
      · rename_i hnil
        rw [List.filter_cons_of_pos (by simp [hnil]), ih hrest hother]
    · rename_i hrenamed
      have hemits : emits renamed aggregations names g = [] := by rw [emits, if_neg hrenamed]
      rw [List.filter_cons_of_neg (by simp [hemits])]
      exact ih hrest fun g' hg' => h g' (List.mem_cons_of_mem _ hg')

end Keep

theorem nodup_normalizeAggregations (aggregations : List String) :
    (normalizeAggregations aggregations).Nodup :=
  List.Nodup.filter _ (by decide)

/-! ## What is emitted -/

namespace Result

variable (r : Result)

/-- The series that pass through under their own names. -/
def passThrough : List SeriesName := (r.isRenamed.rows.filter fun row => !row.2).map Prod.fst

/-- The names of the series of the renamed groups. -/
def derived : List SeriesName :=
  r.seriesAggregations.rows.flatMap fun row => row.2.map (groupSeriesName row.1)

/-- The names of the series that the groups emit. -/
def emitted : List SeriesName := r.passThrough ++ r.derived

/-- The groups partition the names, and their series are told apart. -/
structure WellFormed (names : List SeriesName) : Prop where
  /-- The names have groups. -/
  mapping : ∀ name, (r.mapping.get name).isSome ↔ name ∈ names
  /-- The group of a name is the only one that it is a member of. -/
  partition : ∀ name group, r.mapping.get name = some group ↔
    ∃ members, r.groups.get group = some members ∧ name ∈ members
  /-- The groups have members, each once. -/
  members : ∀ group members, r.groups.get group = some members → members ≠ [] ∧ members.Nodup
  /-- No two series that are emitted have the same name. -/
  emitted : r.emitted.Nodup
  /-- A series that passes through is the only member of its group, which has its name. -/
  passThrough : ∀ name ∈ r.passThrough, name ∈ names ∧ r.groups.get name = some [name]
  /-- A derived series has the name of neither a series nor a group, and it fits its column. -/
  derived : ∀ name ∈ r.derived, name ∉ names ∧ r.groups.get name = none ∧
    name.length ≤ SERIES_NAME_MAX_LENGTH ∧
    (Utf16.decode name).toList.length ≤ SERIES_NAME_MAX_LENGTH

theorem WellFormed.congr {r : Result} {names names' : List SeriesName} (h : r.WellFormed names)
    (hnames : ∀ name, name ∈ names ↔ name ∈ names') : r.WellFormed names' where
  mapping name := (h.mapping name).trans (hnames name)
  partition := h.partition
  members := h.members
  emitted := h.emitted
  passThrough name hname := (h.passThrough name hname).imp_left (hnames name).1
  derived name hname := (h.derived name hname).imp_left (mt (hnames name).2)

end Result

section GroupUnique

variable {group : SeriesName → SeriesName} {aggregations : List Aggregation}
  {unique : List SeriesName} (hunique : unique.Nodup)

theorem get_groupsOf {g : SeriesName} {members : List SeriesName} :
    (groupsOf group unique).get g = some members ↔
      (∃ raw ∈ unique, group raw = g) ∧ members = unique.filter fun raw => group raw = g := by
  rw [← Table.mem_rows, groupsOf, (List.perm_insertionSort _ _).mem_iff, mem_groupsBy]

theorem mem_groupNames {g : SeriesName} :
    g ∈ (groupsOf group unique).rows.map Prod.fst ↔ ∃ raw ∈ unique, group raw = g := by
  rw [List.mem_map]
  constructor
  · rintro ⟨⟨g', members⟩, hrow, rfl⟩
    exact (get_groupsOf.1 (Table.mem_rows.1 hrow)).1
  · exact fun hraw => ⟨(g, _), Table.mem_rows.2 (get_groupsOf.2 ⟨hraw, rfl⟩), rfl⟩

theorem get_mapping {name g : SeriesName} :
    (groupUnique group aggregations unique hunique).mapping.get name = some g ↔
      name ∈ unique ∧ group name = g := by
  rw [← Table.mem_rows, groupUnique, List.mem_map]
  constructor
  · rintro ⟨raw, hraw, heq⟩
    obtain ⟨rfl, rfl⟩ := Prod.mk.inj heq
    exact ⟨hraw, rfl⟩
  · rintro ⟨hname, rfl⟩
    exact ⟨name, hname, rfl⟩

theorem mem_passThrough {name : SeriesName} :
    name ∈ (groupUnique group aggregations unique hunique).passThrough ↔
      (∃ raw ∈ unique, group raw = name) ∧ isRenamedGroup group unique name = false := by
  constructor
  · intro h
    obtain ⟨row, hrow, rfl⟩ := List.mem_map.1 h
    obtain ⟨hrow, hrenamed⟩ := List.mem_filter.1 hrow
    obtain ⟨g, hg, rfl⟩ := List.mem_map.1 hrow
    exact ⟨mem_groupNames.1 hg, by simpa using hrenamed⟩
  · rintro ⟨hraw, hrenamed⟩
    refine List.mem_map.2 ⟨(name, false), List.mem_filter.2 ⟨List.mem_map.2 ⟨name, ?_, ?_⟩, rfl⟩, rfl⟩
    · exact mem_groupNames.2 hraw
    · rw [hrenamed]

/-- The names that are spoken for. -/
abbrev spokenFor (group : SeriesName → SeriesName) (unique : List SeriesName) : List SeriesName :=
  unique ++ (groupsOf group unique).rows.map Prod.fst

theorem seriesAggregations_rows (haggregations : aggregations.Nodup) :
    (groupUnique group aggregations unique hunique).seriesAggregations.rows =
      (((groupsOf group unique).rows.map Prod.fst).map fun g =>
        (g, emits (isRenamedGroup group unique) aggregations (spokenFor group unique) g)).filter
          fun row => row.2 ≠ [] :=
  seriesAggregations_eq haggregations (groupsOf group unique).nodup fun _ _ _ _ => Iff.rfl

theorem get_isRenamed {g : SeriesName} (hg : ∃ raw ∈ unique, group raw = g) :
    (groupUnique group aggregations unique hunique).isRenamed.get g =
      some (isRenamedGroup group unique g) := by
  rw [← Table.mem_rows, groupUnique]
  exact List.mem_map.2 ⟨g, mem_groupNames.2 hg, rfl⟩

theorem get_seriesAggregations (haggregations : aggregations.Nodup) {g : SeriesName}
    (hg : ∃ raw ∈ unique, group raw = g) :
    ((groupUnique group aggregations unique hunique).seriesAggregations.get g).getD [] =
      emits (isRenamedGroup group unique) aggregations (spokenFor group unique) g := by
  have hrows := @seriesAggregations_rows group aggregations unique hunique haggregations
  by_cases hnil : emits (isRenamedGroup group unique) aggregations (spokenFor group unique) g = []
  · have hnone : (groupUnique group aggregations unique hunique).seriesAggregations.get g = none := by
      rw [Table.get_eq_none, hrows, List.mem_map]
      rintro ⟨row, hrow, rfl⟩
      obtain ⟨hrow, hne⟩ := List.mem_filter.1 hrow
      obtain ⟨g', -, rfl⟩ := List.mem_map.1 hrow
      exact of_decide_eq_true hne hnil
    rw [hnone, hnil]
    rfl
  · have hsome : (groupUnique group aggregations unique hunique).seriesAggregations.get g =
        some (emits (isRenamedGroup group unique) aggregations (spokenFor group unique) g) := by
      rw [← Table.mem_rows, hrows]
      exact List.mem_filter.2 ⟨List.mem_map.2 ⟨g, mem_groupNames.2 hg, rfl⟩, decide_eq_true hnil⟩
    rw [hsome]
    rfl

theorem mem_derived (haggregations : aggregations.Nodup) {name : SeriesName} :
    name ∈ (groupUnique group aggregations unique hunique).derived ↔
      ∃ g, (∃ raw ∈ unique, group raw = g) ∧
        ∃ a ∈ emits (isRenamedGroup group unique) aggregations (spokenFor group unique) g,
          groupSeriesName g a = name := by
  rw [Result.derived, seriesAggregations_rows hunique haggregations, List.mem_flatMap]
  constructor
  · rintro ⟨row, hrow, hname⟩
    obtain ⟨hrow, -⟩ := List.mem_filter.1 hrow
    obtain ⟨g, hg, rfl⟩ := List.mem_map.1 hrow
    obtain ⟨a, ha, rfl⟩ := List.mem_map.1 hname
    exact ⟨g, mem_groupNames.1 hg, a, ha, rfl⟩
  · rintro ⟨g, hg, a, ha, rfl⟩
    refine ⟨_, List.mem_filter.2 ⟨List.mem_map.2 ⟨g, mem_groupNames.2 hg, rfl⟩, ?_⟩,
      List.mem_map.2 ⟨a, ha, rfl⟩⟩
    exact decide_eq_true (List.ne_nil_of_mem ha)

theorem isFree_of_mem_emits {renamed : SeriesName → Bool} {names : List SeriesName}
    {g : SeriesName} {a : Aggregation} (h : a ∈ emits renamed aggregations names g) :
    isFree names g a = true := by
  rw [emits] at h
  split at h
  · exact (List.mem_filter.1 h).2
  · cases h

theorem nodup_derived (haggregations : aggregations.Nodup) :
    (groupUnique group aggregations unique hunique).derived.Nodup := by
  rw [Result.derived, List.nodup_flatMap]
  constructor
  · intro row hrow
    rw [seriesAggregations_rows hunique haggregations] at hrow
    obtain ⟨g, -, rfl⟩ := List.mem_map.1 (List.mem_of_mem_filter hrow)
    have hemits : (emits (isRenamedGroup group unique) aggregations
        (spokenFor group unique) g).Nodup := by
      rw [emits]
      split
      · exact haggregations.filter _
      · exact List.nodup_nil
    exact hemits.map fun _ _ heq => (groupSeriesName_inj heq).2
  · have hkeys := (groupUnique group aggregations unique hunique).seriesAggregations.nodup
    rw [List.Nodup, List.pairwise_map] at hkeys
    refine hkeys.imp fun {row row'} hne => ?_
    change List.Disjoint _ _
    intro name hname hname'
    obtain ⟨a, -, rfl⟩ := List.mem_map.1 hname
    obtain ⟨a', -, heq⟩ := List.mem_map.1 hname'
    exact hne (groupSeriesName_inj heq).1.symm

theorem groupUnique_wellFormed (haggregations : aggregations.Nodup) :
    (groupUnique group aggregations unique hunique).WellFormed unique where
  mapping name := by
    rw [Option.isSome_iff_exists]
    exact ⟨fun ⟨_, hg⟩ => ((get_mapping hunique).1 hg).1,
      fun hname => ⟨_, (get_mapping hunique).2 ⟨hname, rfl⟩⟩⟩
  partition name g := by
    rw [get_mapping]
    constructor
    · rintro ⟨hname, rfl⟩
      exact ⟨_, get_groupsOf.2 ⟨⟨name, hname, rfl⟩, rfl⟩,
        List.mem_filter.2 ⟨hname, decide_eq_true rfl⟩⟩
    · rintro ⟨members, hmembers, hname⟩
      obtain ⟨-, rfl⟩ := get_groupsOf.1 hmembers
      obtain ⟨hname, hgroup⟩ := List.mem_filter.1 hname
      exact ⟨hname, of_decide_eq_true hgroup⟩
  members g members hmembers := by
    obtain ⟨⟨raw, hraw, hgroup⟩, rfl⟩ := get_groupsOf.1 hmembers
    exact ⟨List.ne_nil_of_mem (List.mem_filter.2 ⟨hraw, decide_eq_true hgroup⟩), hunique.filter _⟩
  emitted := by
    refine List.nodup_append'.2 ⟨?_, nodup_derived hunique haggregations, ?_⟩
    · exact (groupUnique group aggregations unique hunique).isRenamed.nodup.sublist
        (List.filter_sublist.map _)
    · intro name hname hderived
      obtain ⟨hgroup, -⟩ := (mem_passThrough hunique).1 hname
      obtain ⟨g, -, a, ha, rfl⟩ := (mem_derived hunique haggregations).1 hderived
      have hfree := isFree_of_mem_emits ha
      rw [isFree, Bool.and_eq_true, decide_eq_true_eq, decide_eq_true_eq] at hfree
      exact hfree.2 (List.mem_append_right _ (mem_groupNames.2 hgroup))
  passThrough name hname := by
    obtain ⟨⟨raw, hraw, hgroup⟩, hrenamed⟩ := (mem_passThrough hunique).1 hname
    have hsame : ∀ raw ∈ unique, group raw = name → raw = name := by
      intro raw hraw hgroup
      by_contra hne
      have htrue : isRenamedGroup group unique name = true :=
        List.any_eq_true.2 ⟨raw, hraw, by simp [hgroup, Ne.symm hne]⟩
      exact absurd (htrue.symm.trans hrenamed) (by decide)
    obtain rfl := hsame raw hraw hgroup
    refine ⟨hraw, get_groupsOf.2 ⟨⟨raw, hraw, hgroup⟩, (List.perm_singleton.1
      ((List.perm_ext_iff_of_nodup (hunique.filter _) (List.nodup_singleton raw)).2
        fun other => ?_)).symm⟩⟩
    rw [List.mem_filter, decide_eq_true_eq, List.mem_singleton]
    constructor
    · exact fun hother => hsame other hother.1 hother.2
    · rintro rfl
      exact ⟨hraw, hgroup⟩
  derived name hname := by
    obtain ⟨g, -, a, ha, rfl⟩ := (mem_derived hunique haggregations).1 hname
    have hfree := isFree_of_mem_emits ha
    rw [isFree, Bool.and_eq_true, decide_eq_true_eq, decide_eq_true_eq, List.mem_append,
      not_or] at hfree
    obtain ⟨hlength, hname, hgroup⟩ := hfree
    refine ⟨hname, Table.get_eq_none.2 hgroup, hlength, ?_⟩
    rw [Utf16.decode, String.toList_ofList]
    exact (Utf16.length_decodeUnits_le _).trans hlength

end GroupUnique

/-- A rule that is not refused can be applied. -/
theorem applySeriesGrouping_eq {regExp : RegExp} {rule : RuleSpec}
    {rewrite : SeriesName → SeriesName} (hrule : compileSeriesGroupingRule regExp rule = .ok rewrite)
    (names : List SeriesName) :
    applySeriesGrouping regExp rule names = .ok (groupUnique (groupNameFor rewrite)
      (normalizeAggregations rule.aggregations) (uniqueNames names) (nodup_uniqueNames names)) := by
  rw [applySeriesGrouping, hrule]
  rfl

/-- Under a rule that is not refused the names are partitioned into groups whose series are
    told apart, whatever the order and the number of the names. -/
theorem applySeriesGrouping_wellFormed {regExp : RegExp} {rule : RuleSpec}
    {rewrite : SeriesName → SeriesName} (hrule : compileSeriesGroupingRule regExp rule = .ok rewrite)
    (names : List SeriesName) :
    ∃ result : Result, result.WellFormed names ∧
      ∀ names', (∀ name, name ∈ names' ↔ name ∈ names) →
        applySeriesGrouping regExp rule names' = .ok result := by
  refine ⟨groupUnique (groupNameFor rewrite) (normalizeAggregations rule.aggregations)
    (uniqueNames names) (nodup_uniqueNames names), (groupUnique_wellFormed _
      (nodup_normalizeAggregations _)).congr fun name => mem_uniqueNames, fun names' hnames => ?_⟩
  have heq := uniqueNames_congr hnames
  rw [applySeriesGrouping_eq hrule]
  simp only [heq]

/-- If the rule leaves whole characters, the series are told apart as they are sent, too. -/
theorem nodup_decode_emitted {rewrite : SeriesName → SeriesName} {aggregations : List Aggregation}
    (haggregations : aggregations.Nodup) {unique : List SeriesName} (hunique : unique.Nodup)
    (hnames : ∀ raw ∈ unique, ∃ text, raw = Utf16.encode text)
    (hwhole : ∀ raw ∈ unique, ∃ text, groupNameFor rewrite raw = Utf16.encode text) :
    ((groupUnique (groupNameFor rewrite) aggregations unique hunique).emitted.map
      Utf16.decode).Nodup := by
  have hformed := @groupUnique_wellFormed (groupNameFor rewrite) _ _ hunique haggregations
  have htext : ∀ name ∈ (groupUnique (groupNameFor rewrite) aggregations unique hunique).emitted,
      ∃ text, name = Utf16.encode text := by
    intro name hname
    rcases List.mem_append.1 hname with hname | hname
    · exact hnames name (hformed.passThrough name hname).1
    · obtain ⟨g, ⟨raw, hraw, rfl⟩, a, -, rfl⟩ := (mem_derived hunique haggregations).1 hname
      obtain ⟨text, htext⟩ := hwhole raw hraw
      exact ⟨_, by rw [groupSeriesName, htext, ← Utf16.encode_append]⟩
  refine hformed.emitted.map_on fun name hname name' hname' heq => ?_
  obtain ⟨text, rfl⟩ := htext name hname
  obtain ⟨text', rfl⟩ := htext name' hname'
  rw [Utf16.decode_encode, Utf16.decode_encode] at heq
  rw [heq]

/-- What the pattern `-.*$` does to a name in one line. Others are refused. -/
def cutAtDash : RegExp := fun pattern =>
  if pattern = "-.*$" then
    .ok fun replacement name =>
      if 45 ∈ name then name.takeWhile (· ≠ 45) ++ Utf16.encode replacement else name
  else .error "Invalid regex syntax"

/-- A rule that cuts the names of pods. -/
def podRule : RuleSpec := ⟨.custom, some "-.*$", none, ["sum", "avg"]⟩

theorem applySeriesGrouping_wellFormed_pods : ∃ result : Result,
    result.WellFormed (["api-2", "heap", "api-1", "api-2", "api (sum)"].map Utf16.encode) ∧
      ∀ names', (∀ name, name ∈ names' ↔
        name ∈ ["api-2", "heap", "api-1", "api-2", "api (sum)"].map Utf16.encode) →
        applySeriesGrouping cutAtDash podRule names' = .ok result :=
  @applySeriesGrouping_wellFormed cutAtDash podRule _ rfl _

theorem nodup_decode_emitted_pods :
    ((groupUnique (groupNameFor fun name => name.takeWhile (· ≠ 45)) [.sum]
      (["api-1", "api-2"].map Utf16.encode) (by decide)).emitted.map Utf16.decode).Nodup := by
  refine nodup_decode_emitted (by decide) _ (fun raw hraw => ?_) fun raw hraw => ⟨"api", ?_⟩
  · obtain ⟨text, -, rfl⟩ := List.mem_map.1 hraw
    exact ⟨text, rfl⟩
  · revert raw
    decide +kernel

/-- The sum of the pods is not emitted, as a series has its name. -/
example : (applySeriesGrouping cutAtDash podRule
    (["api-2", "heap", "api-1", "api-2", "api (sum)"].map Utf16.encode)).toOption.map Result.emitted =
      some (["api (sum)", "heap", "api (avg)"].map Utf16.encode) := by
  decide +kernel

end Perfana.SeriesGrouping
