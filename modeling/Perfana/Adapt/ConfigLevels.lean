import Mathlib.Data.Prod.Lex
import Perfana.Adapt.CompareConfig
import Perfana.Lib.Precedence

/-!
# The level of a configuration

The configuration of a metric should be that of the most specific level at which
there is one, and at that level the one for the environment of the run rather than
the one for all environments (`CompareConfigRow.precedence`). What the map of keys
makes of this is another precedence (`CompareConfigRow.joinRank`): an entry is read
at the level at which its key, once split, is joined, and of the rows of one key the
order of the query knows their specificity only.

* `exists_perm_resolve`: up to the order of the rows it is any of those that prevail
  by their keys;
* `resolve_most_specific_iff`: the configuration is the most specific one, in whatever
  order the rows are returned, if and only if both precedences decide it.
-/

namespace Perfana

/-- The levels at which a comparison is configured, the most specific first. -/
inductive CompareLevel
  | metric
  | panel
  | dashboard
  | global
  deriving DecidableEq, Repr

/-- The place of a level. -/
def CompareLevel.place : CompareLevel → ℕ
  | .metric => 0
  | .panel => 1
  | .dashboard => 2
  | .global => 3

theorem CompareLevel.place_injective : Function.Injective CompareLevel.place := by
  intro a b h
  cases a <;> cases b <;> first | rfl | cases h

instance : LinearOrder CompareLevel :=
  LinearOrder.lift' CompareLevel.place CompareLevel.place_injective

section Precedence

variable {K : Type*} (row : CompareConfigRow K) (scope : CompareScope) (key : MetricKey)

namespace CompareConfigRow

/-- A row is loaded for a scope. -/
def InScope : Prop :=
  row.systemUnderTestId = scope.systemUnderTestId ∧
    (row.testEnvironment = some scope.testEnvironment ∨ row.testEnvironment = none ∨
      row.testEnvironment = some "") ∧ row.workload = scope.workload

instance : Decidable (row.InScope scope) :=
  inferInstanceAs (Decidable (_ ∧ _ ∧ _))

/-- The level at which a row configures a metric, if it does. -/
def level : Option CompareLevel :=
  match row.applicationDashboardId, row.panelId, row.metricName with
  | some dashboard, some panel, some metric =>
    if dashboard = key.applicationDashboardId ∧ panel = key.panelId ∧ metric = key.metricName
    then some .metric else none
  | some dashboard, some panel, none =>
    if dashboard = key.applicationDashboardId ∧ panel = key.panelId then some .panel else none
  | some dashboard, none, none =>
    if dashboard = key.applicationDashboardId then some .dashboard else none
  | none, none, none => some .global
  | _, _, _ => none

/-- How a row should rank among those of its scope: by its level, and at the same level
    the row of the environment before the one of all of them. -/
def precedence : Option (CompareLevel ×ₗ Bool) :=
  if row.InScope scope then
    (row.level key).map fun level =>
      toLex (level, decide (row.testEnvironment ≠ some scope.testEnvironment))
  else none

end CompareConfigRow

/-- The level at which a metric is joined with the entry of a key. -/
def CacheKey.joinLevel : CacheKey → Option CompareLevel
  | .metric dashboardId panelId metricName =>
    if dashboardId = key.applicationDashboardId ∧ panelId = key.panelId then
      let name := String.ofList (metricName.toList.takeWhile (· ≠ ':'))
      if name = "" then some .panel else if name = key.metricName then some .metric else none
    else none
  | .panel dashboardId panelId =>
    if dashboardId = key.applicationDashboardId ∧ panelId = key.panelId then some .panel else none
  | .dashboard dashboardId =>
    if dashboardId = key.applicationDashboardId then some .dashboard else none
  | .global => none

namespace CompareConfigRow

/-- The level at which a metric is joined with the key of a row. -/
def joinLevel : Option CompareLevel := row.key.bind (CacheKey.joinLevel key)

/-- How a row ranks: by the level at which its key is joined, and among the rows of a
    key by its specificity. -/
def joinRank : Option (CompareLevel ×ₗ ℕ) :=
  if row.InScope scope then (row.joinLevel key).map fun level => toLex (level, row.specificity)
  else none

end CompareConfigRow

variable {row scope key}

theorem joinRank_eq_some {rank : CompareLevel ×ₗ ℕ} :
    row.joinRank scope key = some rank ↔
      row.InScope scope ∧ row.joinLevel key = some (ofLex rank).1 ∧
        row.specificity = (ofLex rank).2 := by
  rw [CompareConfigRow.joinRank]
  split
  · rename_i h
    rw [Option.map_eq_some_iff]
    constructor
    · rintro ⟨level, hlevel, rfl⟩
      exact ⟨h, hlevel, rfl⟩
    · rintro ⟨_, hlevel, hspecificity⟩
      exact ⟨_, hlevel, by rw [hspecificity]; rfl⟩
  · rename_i h
    simp [h]

theorem joinRank_eq_none :
    row.joinRank scope key = none ↔ (row.InScope scope → row.joinLevel key = none) := by
  rw [CompareConfigRow.joinRank]
  split
  · rename_i h
    simp [h]
  · rename_i h
    simp [h]

end Precedence

section Cache

variable {K : Type*} (rows : List (CompareConfigRow K)) (scope : CompareScope)

/-- The rows of a scope, in the order in which they are entered. -/
def scopeRows : List (CompareConfigRow K) :=
  (rows.filter fun row => row.InScope scope).insertionSort
    fun a b => a.specificity ≤ b.specificity

theorem fetchCompareConfigCache_eq : fetchCompareConfigCache rows scope =
    (scopeRows rows scope).foldl
      (Table.keepFirst CompareConfigRow.key CompareConfigRow.configData) [] := by
  unfold fetchCompareConfigCache scopeRows Table.keepFirst
  simp only [CompareConfigRow.InScope]
  congr
  funext cache row
  cases row.key <;> rfl

/-- The map of configurations has one entry for a key. -/
def configCache : Table CacheKey (CompareConfig K) where
  rows := fetchCompareConfigCache rows scope
  nodup := by
    rw [fetchCompareConfigCache_eq]
    exact Table.nodup_foldl_keepFirst _ List.Pairwise.nil

/-- The row that the map keeps for a key. -/
def firstRow (k : CacheKey) : Option (CompareConfigRow K) :=
  (scopeRows rows scope).find? fun row => row.key = some k

theorem get_configCache (k : CacheKey) :
    (configCache rows scope).get k = (firstRow rows scope k).map CompareConfigRow.configData := by
  have hlookup : (configCache rows scope).get k = (fetchCompareConfigCache rows scope).lookup k :=
    rfl
  rw [hlookup, fetchCompareConfigCache_eq, Table.lookup_foldl_keepFirst]
  rfl

variable {rows scope} {row : CompareConfigRow K} {k : CacheKey} {key : MetricKey}
  {level : CompareLevel}

theorem mem_scopeRows : row ∈ scopeRows rows scope ↔ row ∈ rows ∧ row.InScope scope := by
  rw [scopeRows, (List.perm_insertionSort _ _).mem_iff, List.mem_filter, decide_eq_true_eq]

/-- The row that is kept is one of the least specificity of its key. -/
theorem prevails_of_firstRow (h : firstRow rows scope k = some row) :
    Prevails (rankOf (fun row => row.key = some k) CompareConfigRow.specificity)
      (rows.filter fun row => row.InScope scope) row :=
  prevails_of_find? h

/-- For a key of a row in scope some row is kept. -/
theorem exists_firstRow (hrow : row ∈ rows) (hscope : row.InScope scope)
    (hkey : row.key = some k) : ∃ first, firstRow rows scope k = some first := by
  rw [← Option.isSome_iff_exists, firstRow, List.find?_isSome]
  exact ⟨row, mem_scopeRows.2 ⟨hrow, hscope⟩, decide_eq_true hkey⟩

/-- An entry of a key is one of a row in scope with the key. -/
theorem mem_configCache_iff {config : CompareConfig K} :
    (k, config) ∈ (configCache rows scope).rows ↔
      ∃ first, firstRow rows scope k = some first ∧ first.configData = config := by
  rw [Table.mem_rows, get_configCache, Option.map_eq_some_iff]

/-- The entries of the map that a metric is joined with at a level. -/
def joined (rows : List (CompareConfigRow K)) (scope : CompareScope) (key : MetricKey)
    (level : CompareLevel) : List (CacheKey × CompareConfig K) :=
  (configCache rows scope).rows.filter fun entry => entry.1.joinLevel key = some level

theorem mem_joined {entry : CacheKey × CompareConfig K} :
    entry ∈ joined rows scope key level ↔
      entry.1.joinLevel key = some level ∧
        ∃ first, firstRow rows scope entry.1 = some first ∧ first.configData = entry.2 := by
  rw [joined, List.mem_filter, decide_eq_true_eq, and_comm, ← mem_configCache_iff]

/-- The configurations that the join of a level finds. -/
def joinedConfigs (rows : List (CompareConfigRow K)) (scope : CompareScope) (key : MetricKey)
    (level : CompareLevel) : List (Option (CompareConfig K)) :=
  (leftJoin (configCache rows scope).rows fun entry => entry.1.joinLevel key = some level).map
    (Option.map Prod.snd)

theorem length_joinedConfigs :
    (joinedConfigs rows scope key level).length = max 1 (joined rows scope key level).length := by
  rw [joinedConfigs, List.length_map, leftJoin, joined]
  cases (configCache rows scope).rows.filter fun entry => entry.1.joinLevel key = some level <;>
    simp

/-- The condition under which the temporary table is joined at a level. -/
def joinCondition (key : MetricKey) (level : CompareLevel) (c : TempConfig K) : Prop :=
  c.applicationDashboardId = key.applicationDashboardId ∧
    match level with
    | .metric => c.panelId = some key.panelId ∧ c.metricName = some key.metricName
    | .panel => c.panelId = some key.panelId ∧ c.metricName = none
    | .dashboard => c.panelId = none ∧ c.metricName = none
    | .global => False

instance (key : MetricKey) (c : TempConfig K) : Decidable (joinCondition key level c) :=
  match level with
  | .metric => inferInstanceAs (Decidable (_ ∧ _ ∧ _))
  | .panel => inferInstanceAs (Decidable (_ ∧ _ ∧ _))
  | .dashboard => inferInstanceAs (Decidable (_ ∧ _ ∧ _))
  | .global => inferInstanceAs (Decidable (_ ∧ False))

/-- A metric is joined with an entry at the level of its key, and at no other. -/
theorem tempConfig_any (k : CacheKey) (config : CompareConfig K) :
    ((k.tempConfig config).any fun c => joinCondition key level c) =
      decide (k.joinLevel key = some level) := by
  cases k with
  | metric d p n =>
    rw [CacheKey.tempConfig, CacheKey.joinLevel]
    generalize String.ofList (n.toList.takeWhile (· ≠ ':')) = name
    by_cases hname : name = ""
    · cases level <;> simp [joinCondition, hname]
    · cases level <;> simp [joinCondition, hname, and_assoc]
  | panel d p => cases level <;> simp [CacheKey.tempConfig, CacheKey.joinLevel, joinCondition]
  | dashboard d => cases level <;> simp [CacheKey.tempConfig, CacheKey.joinLevel, joinCondition]
  | global => simp [CacheKey.tempConfig, CacheKey.joinLevel]

/-- The configurations of the temporary table are those of the map, at each level. -/
theorem leftJoin_tempConfigCache :
    (leftJoin (tempConfigCache rows scope) fun c => joinCondition key level c).map
      (Option.map TempConfig.configData) = joinedConfigs rows scope key level := by
  refine leftJoin_filterMap (fun entry => tempConfig_any entry.1 entry.2) fun entry hlevel => ?_
  obtain ⟨k, config⟩ := entry
  cases k with
  | global => cases of_decide_eq_true hlevel
  | _ => rfl

variable [Field K]

/-- What a metric is joined with is found level by level. -/
theorem resolve_eq : resolve rows scope key = (do
    let metric ← joinedConfigs rows scope key .metric
    let panel ← joinedConfigs rows scope key .panel
    let dashboard ← joinedConfigs rows scope key .dashboard
    return ((metric.or panel).or dashboard).getD DEFAULT_COMPARE_CONFIG) := by
  simp only [← leftJoin_tempConfigCache, List.bind_eq_flatMap, List.flatMap_map]
  rw [resolve]
  simp only [List.bind_eq_flatMap, Option.map_or]
  rfl

/-- No two keys are read at one level. -/
def SeparateKeys (rows : List (CompareConfigRow K)) (scope : CompareScope) (key : MetricKey) :
    Prop :=
  ∀ row ∈ rows, ∀ row' ∈ rows, row.InScope scope → row'.InScope scope → ∀ level,
    row.joinLevel key = some level → row'.joinLevel key = some level → row.key = row'.key

omit [Field K] in
theorem SeparateKeys.perm {rows' : List (CompareConfigRow K)} (hperm : rows.Perm rows')
    (h : SeparateKeys rows scope key) : SeparateKeys rows' scope key :=
  fun row hrow row' hrow' => h row (hperm.mem_iff.2 hrow) row' (hperm.mem_iff.2 hrow')

omit [Field K] in
/-- The row that is kept for a key is in scope, and has the key. -/
theorem of_firstRow (h : firstRow rows scope k = some row) :
    row ∈ rows ∧ row.InScope scope ∧ row.key = some k := by
  obtain ⟨hrow, hscope⟩ := mem_scopeRows.1 (List.mem_of_find?_eq_some h)
  refine ⟨hrow, hscope, ?_⟩
  have hkey := List.find?_some h
  exact of_decide_eq_true hkey

omit [Field K] in
/-- A row in scope is behind an entry, at the level of its key. -/
theorem exists_mem_joined (hrow : row ∈ rows) (hscope : row.InScope scope)
    (hlevel : row.joinLevel key = some level) :
    ∃ entry ∈ joined rows scope key level, row.key = some entry.1 := by
  obtain ⟨k, hk, hlevel⟩ := Option.bind_eq_some_iff.1 hlevel
  obtain ⟨first, hfirst⟩ := exists_firstRow hrow hscope hk
  exact ⟨(k, first.configData), mem_joined.2 ⟨hlevel, first, hfirst, rfl⟩, hk⟩

omit [Field K] in
/-- An entry at a level has a row in scope behind it. -/
theorem exists_row_of_mem_joined {entry : CacheKey × CompareConfig K}
    (h : entry ∈ joined rows scope key level) :
    ∃ row ∈ rows, row.InScope scope ∧ row.key = some entry.1 ∧
      row.joinLevel key = some level := by
  obtain ⟨hlevel, first, hfirst, _⟩ := mem_joined.1 h
  obtain ⟨hrow, hscope, hkey⟩ := of_firstRow hfirst
  exact ⟨first, hrow, hscope, hkey, Option.bind_eq_some_iff.2 ⟨entry.1, hkey, hlevel⟩⟩

omit [Field K] in
/-- No two keys are read at one level if and only if there is one entry at most at each. -/
theorem separateKeys_iff : SeparateKeys rows scope key ↔
    ∀ level, (joined rows scope key level).length ≤ 1 := by
  constructor
  · intro h level
    have hnodup : ((joined rows scope key level).map Prod.fst).Nodup :=
      (configCache rows scope).nodup.sublist (List.filter_sublist.map _)
    rw [length_le_one_iff hnodup.of_map]
    intro entry hmem entry' hmem'
    obtain ⟨row, hrow, hscope, hkey, hlevel⟩ := exists_row_of_mem_joined hmem
    obtain ⟨row', hrow', hscope', hkey', hlevel'⟩ := exists_row_of_mem_joined hmem'
    have hsame := h row hrow row' hrow' hscope hscope' level hlevel hlevel'
    rw [hkey, hkey', Option.some.injEq] at hsame
    exact List.inj_on_of_nodup_map hnodup hmem hmem' hsame
  · intro h row hrow row' hrow' hscope hscope' level hlevel hlevel'
    obtain ⟨entry, hmem, hkey⟩ := exists_mem_joined hrow hscope hlevel
    obtain ⟨entry', hmem', hkey'⟩ := exists_mem_joined hrow' hscope' hlevel'
    have hnodup : (joined rows scope key level).Nodup :=
      (configCache rows scope).nodup.of_map.filter _
    rw [hkey, hkey', (length_le_one_iff hnodup).1 (h level) entry hmem entry' hmem']

omit [Field K] in
/-- No key is read at the level of all dashboards. -/
theorem joinLevel_ne_global (k : CacheKey) : k.joinLevel key ≠ some .global := by
  intro h
  cases k with
  | metric d p n =>
    dsimp only [CacheKey.joinLevel] at h
    split at h
    · split at h
      · cases h
      · split at h <;> cases h
    · cases h
  | panel d p =>
    rw [CacheKey.joinLevel] at h
    split at h <;> cases h
  | dashboard d =>
    rw [CacheKey.joinLevel] at h
    split at h <;> cases h
  | global => cases h

omit [Field K] in
/-- Without an entry at a level the join finds nothing. -/
theorem joinedConfigs_of_nil (h : joined rows scope key level = []) :
    joinedConfigs rows scope key level = [none] := by
  rw [joined] at h
  rw [joinedConfigs, leftJoin, h]
  rfl

omit [Field K] in
/-- The only entry at a level is what the join finds. -/
theorem joinedConfigs_of_mem (h : SeparateKeys rows scope key)
    {entry : CacheKey × CompareConfig K} (hentry : entry ∈ joined rows scope key level) :
    joinedConfigs rows scope key level = [some entry.2] := by
  have hone : joined rows scope key level = [entry] := by
    have hnodup : (joined rows scope key level).Nodup :=
      (configCache rows scope).nodup.of_map.filter _
    have hsame := (length_le_one_iff hnodup).1 (separateKeys_iff.1 h level)
    refine List.perm_singleton.1 ((List.perm_ext_iff_of_nodup hnodup
      (List.nodup_singleton _)).2 fun other => ?_)
    rw [List.mem_singleton]
    refine ⟨fun hother => hsame other hother entry hentry, ?_⟩
    rintro rfl
    exact hentry
  rw [joined] at hone
  rw [joinedConfigs, leftJoin, hone]
  rfl

omit [Field K] in
/-- If no two keys are read at one level the join finds one configuration, or none. -/
theorem exists_joinedConfigs (h : SeparateKeys rows scope key) :
    ∃ found, joinedConfigs rows scope key level = [found] := by
  cases hjoined : joined rows scope key level with
  | nil => exact ⟨none, joinedConfigs_of_nil hjoined⟩
  | cons entry rest =>
    exact ⟨some entry.2, joinedConfigs_of_mem h (hjoined ▸ List.mem_cons_self)⟩

omit [Field K] in
/-- At a level at which no row is joined there is no entry. -/
theorem joined_eq_nil
    (h : ∀ row ∈ rows, row.InScope scope → row.joinLevel key ≠ some level) :
    joined rows scope key level = [] := by
  refine List.eq_nil_iff_forall_not_mem.2 fun entry hentry => ?_
  obtain ⟨row, hrow, hscope, _, hlevel⟩ := exists_row_of_mem_joined hentry
  exact h row hrow hscope hlevel

/-- A metric has one configuration only if no two keys are read at one level. -/
theorem separateKeys_of_resolve {config : CompareConfig K}
    (h : resolve rows scope key = [config]) : SeparateKeys rows scope key := by
  have hlength : (resolve rows scope key).length =
      (joinedConfigs rows scope key .metric).length *
        ((joinedConfigs rows scope key .panel).length *
          (joinedConfigs rows scope key .dashboard).length) := by
    rw [resolve_eq]
    simp [List.bind_eq_flatMap, List.length_flatMap]
  rw [h, List.length_singleton] at hlength
  have hmetric := Nat.eq_one_of_mul_eq_one_right hlength.symm
  have hrest := Nat.eq_one_of_mul_eq_one_left hlength.symm
  have hpanel := Nat.eq_one_of_mul_eq_one_right hrest
  have hdashboard := Nat.eq_one_of_mul_eq_one_left hrest
  rw [length_joinedConfigs] at hmetric hpanel hdashboard
  refine separateKeys_iff.2 fun level => ?_
  cases level with
  | metric => omega
  | panel => omega
  | dashboard => omega
  | global =>
    have hnil : joined rows scope key .global = [] :=
      List.filter_eq_nil_iff.2 fun entry _ => by simpa using joinLevel_ne_global entry.1
    rw [hnil]
    exact Nat.zero_le _

/-- A metric has the configuration of the row kept for its key at the lowest level. -/
theorem resolve_of_firstRow (hseparate : SeparateKeys rows scope key)
    (hfirst : firstRow rows scope k = some row) (hlevel : k.joinLevel key = some level)
    (hleast : ∀ row' ∈ rows, row'.InScope scope → ∀ level', row'.joinLevel key = some level' →
      level ≤ level') :
    resolve rows scope key = [row.configData] := by
  have hmem : (k, row.configData) ∈ joined rows scope key level :=
    mem_joined.2 ⟨hlevel, row, hfirst, rfl⟩
  have hfound := joinedConfigs_of_mem hseparate hmem
  have hlower : ∀ lower, lower < level → joinedConfigs rows scope key lower = [none] := by
    intro lower hlt
    refine joinedConfigs_of_nil (joined_eq_nil fun row' hrow' hscope' hlevel' => ?_)
    exact absurd (hleast row' hrow' hscope' lower hlevel') (not_le.2 hlt)
  have hjoins : ∀ level, ∃ found, joinedConfigs rows scope key level = [found] := fun _ =>
    exists_joinedConfigs hseparate
  obtain ⟨panel, hpanel⟩ := hjoins .panel
  obtain ⟨dashboard, hdashboard⟩ := hjoins .dashboard
  rw [resolve_eq]
  cases level with
  | metric =>
    rw [hfound, hpanel, hdashboard]
    rfl
  | panel =>
    rw [hlower .metric (by decide), hfound, hdashboard]
    rfl
  | dashboard =>
    rw [hlower .metric (by decide), hlower .panel (by decide), hfound]
    rfl
  | global => exact absurd hlevel (joinLevel_ne_global k)

/-- Without a row that is joined a metric has the default configuration. -/
theorem resolve_of_none
    (hnone : ∀ row ∈ rows, row.InScope scope → row.joinLevel key = none) :
    resolve rows scope key = [DEFAULT_COMPARE_CONFIG] := by
  have hnil : ∀ level, joinedConfigs rows scope key level = [none] := by
    intro level
    refine joinedConfigs_of_nil (joined_eq_nil fun row hrow hscope hlevel => ?_)
    rw [hnone row hrow hscope] at hlevel
    cases hlevel
  rw [resolve_eq, hnil, hnil, hnil]
  rfl

omit [Field K] in
/-- No row is joined at a level before that of a row that prevails. -/
theorem level_le {rank : CompareLevel ×ₗ ℕ} {row' : CompareConfigRow K} {level : CompareLevel}
    (hleast : ∀ row' ∈ rows, ∀ m, row'.joinRank scope key = some m → rank ≤ m)
    (hrow' : row' ∈ rows) (hscope : row'.InScope scope)
    (hlevel : row'.joinLevel key = some level) : (ofLex rank).1 ≤ level := by
  have hle := hleast row' hrow' (toLex (level, row'.specificity))
    (joinRank_eq_some.2 ⟨hscope, hlevel, rfl⟩)
  rw [Prod.Lex.le_iff] at hle
  rcases hle with hlt | ⟨heq, _⟩
  · exact hlt.le
  · exact heq.le

omit [Field K] in
/-- A row that prevails by its key is one of the least specificity of that key. -/
theorem prevails_key (h : Prevails (fun row => row.joinRank scope key) rows row)
    (hkey : row.key = some k) :
    Prevails (rankOf (fun row => row.key = some k) CompareConfigRow.specificity)
      (rows.filter fun row => row.InScope scope) row := by
  obtain ⟨hrow, rank, hrank, hleast⟩ := h
  obtain ⟨hscope, hlevel, hspecificity⟩ := joinRank_eq_some.1 hrank
  refine ⟨List.mem_filter.2 ⟨hrow, decide_eq_true hscope⟩, row.specificity,
    rankOf_eq_some.2 ⟨decide_eq_true hkey, rfl⟩, fun row' hrow' m hm => ?_⟩
  obtain ⟨hmem', hscope'⟩ := List.mem_filter.1 hrow'
  obtain ⟨hkey', rfl⟩ := rankOf_eq_some.1 hm
  have hlevel' : row'.joinLevel key = some (ofLex rank).1 := by
    rw [CompareConfigRow.joinLevel, of_decide_eq_true hkey', ← hkey]
    exact hlevel
  have hle := hleast row' hmem' (toLex ((ofLex rank).1, row'.specificity))
    (joinRank_eq_some.2 ⟨of_decide_eq_true hscope', hlevel', rfl⟩)
  rw [Prod.Lex.le_iff] at hle
  rcases hle with hlt | ⟨_, hle⟩
  · exact absurd hlt (lt_irrefl _)
  · rw [hspecificity]
    exact hle

omit [Field K] in
/-- So is the row that is kept for the key, which prevails as well. -/
theorem prevails_firstRow {best : CompareConfigRow K}
    (h : Prevails (fun row => row.joinRank scope key) rows best) (hkey : best.key = some k)
    (hfirst : firstRow rows scope k = some row) :
    Prevails (fun row => row.joinRank scope key) rows row := by
  obtain ⟨hrow, hscope, hrowKey⟩ := of_firstRow hfirst
  obtain ⟨_, _, hn, hfirstLeast⟩ := prevails_of_firstRow hfirst
  obtain ⟨_, rfl⟩ := rankOf_eq_some.1 hn
  obtain ⟨hbest, rank, hrank, hleast⟩ := h
  obtain ⟨hbestScope, hlevel, hspecificity⟩ := joinRank_eq_some.1 hrank
  have hle : row.specificity ≤ best.specificity :=
    hfirstLeast best (List.mem_filter.2 ⟨hbest, decide_eq_true hbestScope⟩) _
      (rankOf_eq_some.2 ⟨decide_eq_true hkey, rfl⟩)
  have hrowLevel : row.joinLevel key = some (ofLex rank).1 := by
    rw [CompareConfigRow.joinLevel, hrowKey, ← hkey]
    exact hlevel
  refine ⟨hrow, toLex ((ofLex rank).1, row.specificity),
    joinRank_eq_some.2 ⟨hscope, hrowLevel, rfl⟩, fun row' hrow' m hm => ?_⟩
  refine le_trans ?_ (hleast row' hrow' m hm)
  rw [Prod.Lex.le_iff]
  exact .inr ⟨rfl, by rw [← hspecificity]; exact hle⟩

/-- With the rows in any order a metric is joined with one that prevails by its key. -/
theorem exists_resolve (hseparate : SeparateKeys rows scope key) {best : CompareConfigRow K}
    (h : Prevails (fun row => row.joinRank scope key) rows best) :
    ∃ row, Prevails (fun row => row.joinRank scope key) rows row ∧
      resolve rows scope key = [row.configData] := by
  obtain ⟨hbest, rank, hrank, hleast⟩ := h
  obtain ⟨hscope, hlevel, _⟩ := joinRank_eq_some.1 hrank
  obtain ⟨k, hkey, hk⟩ := Option.bind_eq_some_iff.1 hlevel
  obtain ⟨first, hfirst⟩ := exists_firstRow hbest hscope hkey
  refine ⟨first, prevails_firstRow ⟨hbest, rank, hrank, hleast⟩ hkey hfirst,
    resolve_of_firstRow hseparate hfirst hk fun row' hrow' hscope' level' hlevel' => ?_⟩
  exact level_le hleast hrow' hscope' hlevel'

/-- Each row that prevails by its key is the one a metric is joined with, if the rows
    are returned in some order. -/
theorem exists_perm_resolve (hseparate : SeparateKeys rows scope key)
    (h : Prevails (fun row => row.joinRank scope key) rows row) :
    ∃ rows', rows.Perm rows' ∧ resolve rows' scope key = [row.configData] := by
  obtain ⟨hrow, rank, hrank, hleast⟩ := id h
  obtain ⟨hscope, hlevel, _⟩ := joinRank_eq_some.1 hrank
  obtain ⟨k, hkey, hk⟩ := Option.bind_eq_some_iff.1 hlevel
  obtain ⟨inScope, hinScope, hfirst⟩ := exists_perm_find? (prevails_key h hkey)
  obtain ⟨rows', hperm, hfilter⟩ := exists_perm_filter hinScope
  have hfirst' : firstRow rows' scope k = some row := by
    rw [firstRow, scopeRows, hfilter]
    exact hfirst
  refine ⟨rows', hperm, resolve_of_firstRow (hseparate.perm hperm) hfirst' hk ?_⟩
  intro row' hrow' hscope' level' hlevel'
  exact level_le hleast (hperm.mem_iff.2 hrow') hscope' hlevel'

/-- A metric has the most specific configuration that applies to it, the one for the
    environment of the run before the one for all, in whatever order the rows are
    returned, if and only if no two keys are read at one level, and the rows that
    prevail by their keys carry that configuration. -/
theorem resolve_most_specific_iff (rows : List (CompareConfigRow K)) (scope : CompareScope)
    (key : MetricKey) :
    (∃ config, Decides (fun row => row.precedence scope key) CompareConfigRow.configData
        DEFAULT_COMPARE_CONFIG rows config ∧
      ∀ rows', rows.Perm rows' → resolve rows' scope key = [config]) ↔
    SeparateKeys rows scope key ∧
      ∃ config, Decides (fun row => row.precedence scope key) CompareConfigRow.configData
          DEFAULT_COMPARE_CONFIG rows config ∧
        Decides (fun row => row.joinRank scope key) CompareConfigRow.configData
          DEFAULT_COMPARE_CONFIG rows config := by
  constructor
  · rintro ⟨config, hspecific, hresolve⟩
    have hseparate := separateKeys_of_resolve (hresolve rows (List.Perm.refl _))
    refine ⟨hseparate, config, hspecific, ?_, ?_⟩
    · intro row hrow
      obtain ⟨rows', hperm, hrows'⟩ := exists_perm_resolve hseparate hrow
      exact List.singleton_inj.1 (hrows'.symm.trans (hresolve rows' hperm))
    · intro hnone
      have hdefault : resolve rows scope key = [DEFAULT_COMPARE_CONFIG] :=
        resolve_of_none fun row hrow => joinRank_eq_none.1 (hnone row hrow)
      exact List.singleton_inj.1 ((hresolve rows (List.Perm.refl _)).symm.trans hdefault)
  · rintro ⟨hseparate, config, hspecific, hjoined⟩
    refine ⟨config, hspecific, fun rows' hperm => ?_⟩
    have hseparate' := hseparate.perm hperm
    have hjoined' := hjoined.perm hperm
    by_cases happlies : ∃ row ∈ rows', row.joinRank scope key ≠ none
    · obtain ⟨row, hrow, hrank⟩ := happlies
      obtain ⟨best, hbest⟩ : ∃ best, Prevails (fun row => row.joinRank scope key) rows' best :=
        exists_prevails hrow hrank
      obtain ⟨first, hfirst, hresolve⟩ := exists_resolve hseparate' hbest
      rw [hresolve, hjoined'.carried first hfirst]
    · push Not at happlies
      rw [hjoined'.is_default happlies]
      exact resolve_of_none fun row hrow => joinRank_eq_none.1 (happlies row hrow)

end Cache

/-- The configuration of a metric whose name has a colon is not that of the metric. -/
theorem resolve_colon :
    let row : CompareConfigRow ℚ :=
      ⟨"sut", some "prod", "load", some "dash", some 4, some "jvm:heap",
        { DEFAULT_COMPARE_CONFIG with ignore := some true }⟩
    ¬∃ config, Decides (fun r => r.precedence ⟨"sut", "prod", "load"⟩ ⟨"dash", 4, "jvm:heap"⟩)
        CompareConfigRow.configData DEFAULT_COMPARE_CONFIG [row] config ∧
      ∀ rows', [row].Perm rows' →
        resolve rows' ⟨"sut", "prod", "load"⟩ ⟨"dash", 4, "jvm:heap"⟩ = [config] := by
  intro row
  rintro ⟨config, hspecific, hresolve⟩
  have hrow : row.configData = config := by
    refine hspecific.carried row ⟨List.mem_singleton.2 rfl, toLex (.metric, false), by decide, ?_⟩
    intro row' hrow' rank hrank
    obtain rfl := List.mem_singleton.1 hrow'
    exact (Option.some.inj hrank).le
  have hdefault := hresolve [row] (List.Perm.refl _)
  have hresolved : resolve [row] ⟨"sut", "prod", "load"⟩ ⟨"dash", 4, "jvm:heap"⟩ =
      [DEFAULT_COMPARE_CONFIG] := by decide +kernel
  rw [hresolved, ← hrow] at hdefault
  have hignore := congrArg (List.map CompareConfig.ignore) hdefault
  exact absurd hignore (by decide)

end Perfana
