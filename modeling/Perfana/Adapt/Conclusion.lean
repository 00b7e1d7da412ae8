import Perfana.Adapt.Results

/-!
# The conclusion about a run

The conclusion about a run is drawn from the labels stored with its results
(`buildConclusionSQL`): each class of labels is counted by a filter of its own, and
the verdict follows from the counts. A label may be any text, or absent; those that
the analysis stores are all counted (`conclusionRows_eq`, `hasLabel_of_compareMetric`).

A result that is incomparable counts like any other, so that a run of nothing else
passes; and a tracked regression does not count where every result is ignored.

* `sum_classes`: the classes add up to the results that have a label of theirs;
* `conclusion_partitions_iff`: when the conclusion partitions the results, and its
  verdict is that of what was compared.
-/

namespace Perfana

open Table

/-- A conclusion as it is stored; keys may be absent. -/
structure StoredConclusion where
  label : Option String
  /-- Whether differences are ignored. -/
  ignore : Option Bool
  deriving DecidableEq, Repr

/-- A row of `ds_adapt_results`, as far as the conclusion is drawn from it. -/
structure StoredResult where
  id : String
  testRunId : String
  controlGroupId : String
  /-- The conclusion about the metric. -/
  conclusion : StoredConclusion
  deriving DecidableEq, Repr

/-- A row of `ds_adapt_tracked_results`, as far as the conclusion is drawn from it. -/
structure StoredTrackedResult where
  id : String
  testRunId : String
  /-- The conclusion about the metric. -/
  conclusion : StoredConclusion
  deriving DecidableEq, Repr

namespace StoredConclusion

variable (c : StoredConclusion)

/-- The result is not ignored. -/
def counted : Bool := !c.ignore.getD false

/-- The result has one of some labels, and is not ignored. -/
def hasLabel (labels : List String) : Bool := c.label.any (· ∈ labels) && c.counted

/-- The result is not ignored, and was compared. -/
def compared : Bool := c.label.any (· ≠ "incomparable") && c.counted

end StoredConclusion

/-- The labels of the differences that are neither regressions nor improvements. -/
def differenceTexts : List String :=
  ["increase", "decrease", "partial increase", "partial decrease", "partial improvement",
    "partial regression"]

/-- The classes of labels that are counted. -/
def conclusionClasses : List (List String) :=
  [["regression"], ["improvement"], differenceTexts, ["no difference"], ["incomparable"]]

/-- The identifiers of the results with some labels. -/
def idsWith (results : List StoredResult) (labels : List String) : List String :=
  (results.filter fun r => r.conclusion.hasLabel labels).map StoredResult.id

/-- The number of the results with some labels. -/
def countWith (results : List StoredResult) (labels : List String) : ℕ :=
  results.countP fun r => r.conclusion.hasLabel labels

/-- The tracked results of a run that are regressions. -/
def trackedRegressions (tracked : List StoredTrackedResult) (testRunId : String) :
    List StoredTrackedResult :=
  tracked.filter fun t => t.testRunId = testRunId ∧ t.conclusion.hasLabel ["regression"]

/-- The conclusion about the results of a run and control group. -/
def concludeResults (tracked : List StoredTrackedResult) (now : ℤ)
    (testRunId controlGroupId : String) (results : List StoredResult) : AdaptConclusion :=
  let totalComparableResults := results.countP fun r => r.conclusion.counted
  let regressionCount := countWith results ["regression"]
  let trackedRegressions := trackedRegressions tracked testRunId
  { controlGroupId
    regressions := idsWith results ["regression"]
    improvements := idsWith results ["improvement"]
    differences := idsWith results differenceTexts
    trackedRegressions := trackedRegressions.map StoredTrackedResult.id
    conclusion :=
      if totalComparableResults = 0 then .SKIPPED
      else if 0 < regressionCount ∨ 0 < trackedRegressions.length then .REGRESSION
      else .PASSED
    details := .counts totalComparableResults regressionCount
      (countWith results ["improvement"]) (countWith results differenceTexts)
      (countWith results ["no difference"]) (countWith results ["incomparable"])
      trackedRegressions.length
    updatedAt := now }

/-- The conclusions that are inserted: one for each run and control group with results. -/
def buildConclusionSQL (results : List StoredResult) (tracked : List StoredTrackedResult)
    (testRunIds : List String) (now : ℤ) : List (String × AdaptConclusion) :=
  groupRows StoredResult.testRunId StoredResult.controlGroupId (concludeResults tracked now)
    (results.filter fun r => r.testRunId ∈ testRunIds)

/-! ## What the analysis stores -/

/-- A label as it is stored. -/
def AdaptLabel.text : AdaptLabel → String
  | .incomparable => "incomparable"
  | .ignored => "ignored"
  | .increase => "increase"
  | .decrease => "decrease"
  | .improvement => "improvement"
  | .regression => "regression"
  | .partialIncrease => "partial increase"
  | .partialDecrease => "partial decrease"
  | .partialImprovement => "partial improvement"
  | .partialRegression => "partial regression"
  | .noDifference => "no difference"

theorem AdaptLabel.text_injective : Function.Injective AdaptLabel.text := by
  intro a b h
  cases a <;> cases b <;> first | rfl | exact absurd h (by decide)

/-- The conclusion about a metric as it is stored. -/
def MetricConclusion.stored (c : MetricConclusion) : StoredConclusion :=
  ⟨some c.label.text, some c.ignore⟩

theorem MetricConclusion.hasLabel_stored (c : MetricConclusion) (labels : List AdaptLabel) :
    c.stored.hasLabel (labels.map AdaptLabel.text) = decide (c.label ∈ labels ∧ ¬c.ignore) := by
  have hmem : c.label.text ∈ labels.map AdaptLabel.text ↔ c.label ∈ labels :=
    List.mem_map_of_injective AdaptLabel.text_injective
  rw [stored, StoredConclusion.hasLabel, StoredConclusion.counted, Option.any_some]
  cases c.ignore <;> simp [hmem]

namespace AdaptDatabase

variable {K Sk : Type} (db : AdaptDatabase K Sk)

def storedResult (row : ResultKey × AdaptResult K) : StoredResult :=
  ⟨row.2.id, row.1.testRunId, row.1.controlGroupId, row.2.comparison.conclusion.stored⟩

def storedTrackedResults : List StoredTrackedResult :=
  db.trackedResults.rows.map fun row =>
    ⟨row.2.id, row.1.testRunId, row.2.comparison.conclusion.stored⟩

theorem idsWith_stored (results : List (ResultKey × AdaptResult K)) (labels : List AdaptLabel) :
    idsWith (results.map storedResult) (labels.map AdaptLabel.text) = idsOf results labels := by
  rw [idsWith, idsOf, List.filter_map, List.map_map]
  refine congrArg (List.map _) (List.filter_congr fun row _ => ?_)
  exact MetricConclusion.hasLabel_stored _ _

theorem countWith_eq_length (results : List StoredResult) (labels : List String) :
    countWith results labels = (idsWith results labels).length := by
  rw [countWith, idsWith, List.length_map, List.countP_eq_length_filter]

theorem trackedRegressions_stored (testRunId : String) :
    (trackedRegressions db.storedTrackedResults testRunId).map StoredTrackedResult.id =
      db.trackedRegressionsOf testRunId := by
  rw [trackedRegressions, storedTrackedResults, trackedRegressionsOf, List.filter_map, List.map_map]
  refine congrArg (List.map _) (List.filter_congr fun row _ => ?_)
  have hlabel : row.2.comparison.conclusion.stored.hasLabel ["regression"] =
      decide (row.2.comparison.conclusion.label ∈ [AdaptLabel.regression] ∧
        ¬row.2.comparison.conclusion.ignore) :=
    row.2.comparison.conclusion.hasLabel_stored [.regression]
  simp [hlabel]

/-- The conclusion about the results of a run is the one about them as they are stored. -/
theorem conclude_eq (now : ℤ) (testRunId controlGroupId : String)
    (results : List (ResultKey × AdaptResult K)) :
    db.conclude now testRunId controlGroupId results =
      concludeResults db.storedTrackedResults now testRunId controlGroupId
        (results.map storedResult) := by
  have hids := idsWith_stored results
  have htotal : (results.map storedResult).countP (fun r => r.conclusion.counted) =
      results.countP fun row => ¬row.2.comparison.conclusion.ignore := by
    rw [List.countP_map]
    refine List.countP_congr fun row _ => ?_
    cases hignore : row.2.comparison.conclusion.ignore <;>
      simp [storedResult, MetricConclusion.stored, StoredConclusion.counted, hignore]
  have htracked := db.trackedRegressions_stored testRunId
  have hlength := congrArg List.length htracked
  rw [List.length_map] at hlength
  rw [concludeResults, conclude]
  simp only [countWith_eq_length, htotal, htracked, hlength, ← hids]
  rfl

/-- The conclusions about the runs are those about their results as they are stored. -/
theorem conclusionRows_eq (testRunIds : List String) (now : ℤ) :
    db.conclusionRows testRunIds now =
      buildConclusionSQL (db.results.rows.map storedResult) db.storedTrackedResults testRunIds
        now := by
  rw [buildConclusionSQL, conclusionRows, groupRows, List.filter_map]
  simp only [List.map_map, List.filter_map, conclude_eq]
  rfl

end AdaptDatabase

/-- The analysis stores no label but those that are counted, and that of the results
    that are ignored. -/
theorem hasLabel_of_compareMetric {K Sk : Type} [Field K] [LinearOrder K]
    (config : CompareConfig K) (minSampleCount : ℤ) (ms : MetricStatistics K Sk)
    (control : Option (ControlGroupStatistics K))
    (hcounted : (compareMetric config minSampleCount ms control).conclusion.stored.counted) :
    conclusionClasses.any
      (compareMetric config minSampleCount ms control).conclusion.stored.hasLabel := by
  generalize hc : compareMetric config minSampleCount ms control = comparison at hcounted
  have hignored : comparison.conclusion.label = .ignored → comparison.conclusion.ignore = true := by
    subst hc
    dsimp only [compareMetric, conclusionOf]
    split_ifs <;> grind
  have hignore : comparison.conclusion.ignore = false := by
    simpa [MetricConclusion.stored, StoredConclusion.counted] using hcounted
  rw [List.any_eq_true]
  have hlabel : comparison.conclusion.label ≠ .ignored := by
    intro h
    rw [hignored h] at hignore
    cases hignore
  simp only [MetricConclusion.stored, StoredConclusion.hasLabel, StoredConclusion.counted, hignore]
  cases h : comparison.conclusion.label <;> first | exact absurd h hlabel | decide

/-! ## The partition -/

/-- No label is in two classes. -/
theorem conclusionClasses_disjoint :
    conclusionClasses.Pairwise fun labels labels' => ∀ l ∈ labels, l ∉ labels' := by decide

/-- A result is in one class at most. -/
theorem hasLabel_disjoint :
    conclusionClasses.Pairwise fun labels labels' =>
      ∀ c : StoredConclusion, c.hasLabel labels = true → c.hasLabel labels' = false := by
  refine conclusionClasses_disjoint.imp fun {labels labels'} hdisjoint c hlabel => ?_
  cases hc : c.label with
  | none => simp [StoredConclusion.hasLabel, hc]
  | some l =>
    have hl : l ∈ labels := by
      rw [StoredConclusion.hasLabel, hc, Option.any_some, Bool.and_eq_true,
        decide_eq_true_eq] at hlabel
      exact hlabel.1
    simp [StoredConclusion.hasLabel, hc, hdisjoint l hl]

/-- The classes add up to the results that have a label of theirs. -/
theorem sum_classes (results : List StoredResult) :
    (conclusionClasses.map (countWith results)).sum =
      results.countP fun r => conclusionClasses.any r.conclusion.hasLabel := by
  have hdisjoint : (conclusionClasses.map fun labels (r : StoredResult) =>
      r.conclusion.hasLabel labels).Pairwise fun p q => ∀ r, p r = true → q r = false :=
    List.pairwise_map.2 (hasLabel_disjoint.imp fun h (r : StoredResult) => h r.conclusion)
  have hsum := Aggregate.sum_countP hdisjoint results
  rw [List.map_map] at hsum
  refine hsum.trans (List.countP_congr fun r _ => ?_)
  rw [List.any_map]
  rfl

/-- A result with one of the labels counts. -/
theorem StoredConclusion.counted_of_any {c : StoredConclusion}
    (h : conclusionClasses.any c.hasLabel = true) : c.counted := by
  obtain ⟨labels, -, hlabel⟩ := List.any_eq_true.1 h
  rw [hasLabel, Bool.and_eq_true] at hlabel
  exact hlabel.2

variable {results : List StoredResult} {tracked : List StoredTrackedResult}
  {testRunIds : List String} {testRunId : String} {now : ℤ} {new : Table String AdaptConclusion}

def resultsOfRun (results : List StoredResult) (testRunId : String) : List StoredResult :=
  results.filter fun r => r.testRunId = testRunId

/-- A run with results gets the conclusion about them, the others none. -/
theorem get_buildConclusionSQL
    (hnew : ofRows (buildConclusionSQL results tracked testRunIds now) = some new)
    (hid : testRunId ∈ testRunIds) :
    if resultsOfRun results testRunId = [] then new.get testRunId = none
    else ∃ controlGroupId, new.get testRunId = some
      (concludeResults tracked now testRunId controlGroupId (resultsOfRun results testRunId)) := by
  have hrun : (results.filter fun r => r.testRunId ∈ testRunIds).filter
      (fun r => r.testRunId = testRunId) = resultsOfRun results testRunId := by
    rw [List.filter_filter, resultsOfRun]
    refine List.filter_congr fun r _ => ?_
    grind
  rw [buildConclusionSQL] at hnew
  split
  · rename_i hnil
    refine get_groupRows_eq_none hnew fun r hr h => ?_
    have hmem := hrun ▸ List.mem_filter.2 ⟨hr, decide_eq_true h⟩
    rw [hnil] at hmem
    exact List.not_mem_nil hmem
  · rename_i hne
    obtain ⟨r, hr⟩ := List.exists_mem_of_ne_nil _ hne
    rw [← hrun, List.mem_filter, decide_eq_true_eq] at hr
    obtain ⟨hr, rfl⟩ := hr
    exact ⟨r.controlGroupId, hrun ▸ get_groupRows hnew hr⟩

/-- A conclusion partitions the results of a run, and its verdict is that of the results
    that were compared. -/
structure Partitions (results : List StoredResult) (tracked : List StoredTrackedResult)
    (testRunId : String) (row : AdaptConclusion) : Prop where
  /-- It counts the classes. -/
  counts : ∃ totalResults trackedRegressionCount, row.details = .counts totalResults
    (countWith (resultsOfRun results testRunId) ["regression"])
    (countWith (resultsOfRun results testRunId) ["improvement"])
    (countWith (resultsOfRun results testRunId) differenceTexts)
    (countWith (resultsOfRun results testRunId) ["no difference"])
    (countWith (resultsOfRun results testRunId) ["incomparable"]) trackedRegressionCount
  /-- No result is in two of them. -/
  disjoint : conclusionClasses.Pairwise fun labels labels' =>
    ∀ r ∈ resultsOfRun results testRunId,
      ¬(r.conclusion.hasLabel labels ∧ r.conclusion.hasLabel labels')
  /-- They add up to the results that are not ignored. -/
  sum : (conclusionClasses.map (countWith (resultsOfRun results testRunId))).sum =
    (resultsOfRun results testRunId).countP fun r => r.conclusion.counted
  /-- It is a regression if there is one, tracked or not. -/
  regression : row.conclusion = .REGRESSION ↔
    (∃ r ∈ resultsOfRun results testRunId, r.conclusion.hasLabel ["regression"]) ∨
      trackedRegressions tracked testRunId ≠ []
  /-- It is passed only if something was compared. -/
  passed : row.conclusion = .PASSED →
    ∃ r ∈ resultsOfRun results testRunId, r.conclusion.compared
  /-- It is skipped if nothing was. -/
  skipped : (∀ r ∈ resultsOfRun results testRunId, ¬r.conclusion.compared) →
    trackedRegressions tracked testRunId = [] → row.conclusion = .SKIPPED

/-- The results of a run can be concluded from. -/
structure Concludes (results : List StoredResult) (tracked : List StoredTrackedResult)
    (testRunId : String) : Prop where
  /-- There are some. -/
  nonempty : resultsOfRun results testRunId ≠ []
  /-- Those that are not ignored have a label that is counted. -/
  labelled : ∀ r ∈ resultsOfRun results testRunId, r.conclusion.counted →
    conclusionClasses.any r.conclusion.hasLabel
  /-- One is not ignored if there is a tracked regression. -/
  counted : trackedRegressions tracked testRunId ≠ [] →
    ∃ r ∈ resultsOfRun results testRunId, r.conclusion.counted
  /-- One was compared if one is not ignored, or else there is a tracked regression. -/
  compared : (∃ r ∈ resultsOfRun results testRunId, r.conclusion.counted) →
    trackedRegressions tracked testRunId ≠ [] ∨
      ∃ r ∈ resultsOfRun results testRunId, r.conclusion.compared

/-- Counted twice alike, members of one kind are of the other. -/
theorem forall_of_countP_eq {α : Type*} {p q : α → Bool} {l : List α} (hpq : ∀ a, p a → q a)
    (h : l.countP p = l.countP q) : ∀ a ∈ l, q a → p a := by
  intro a ha hqa
  have hfilter : l.filter p = (l.filter q).filter p := by
    rw [List.filter_filter]
    refine List.filter_congr fun b _ => ?_
    cases hp : p b <;> simp [hpq b, hp]
  have hsame : (l.filter q).filter p = l.filter q := by
    refine List.filter_sublist.eq_of_length ?_
    rw [← hfilter, ← List.countP_eq_length_filter, ← List.countP_eq_length_filter, h]
  exact List.filter_eq_self.1 hsame a (List.mem_filter.2 ⟨ha, hqa⟩)

/-- The classes add up to the results that are not ignored if these have a label of
    theirs. -/
theorem sum_classes_eq_counted {rs : List StoredResult} :
    (conclusionClasses.map (countWith rs)).sum = rs.countP (fun r => r.conclusion.counted) ↔
      ∀ r ∈ rs, r.conclusion.counted → conclusionClasses.any r.conclusion.hasLabel := by
  rw [sum_classes]
  constructor
  · exact fun h => forall_of_countP_eq (fun r => StoredConclusion.counted_of_any) h
  · exact fun h => List.countP_congr fun r hr => ⟨StoredConclusion.counted_of_any, h r hr⟩

section Verdict

variable (tracked) {rs : List StoredResult} {controlGroupId : String}

/-- It is skipped if every result is ignored. -/
theorem conclusion_eq_SKIPPED :
    (concludeResults tracked now testRunId controlGroupId rs).conclusion = .SKIPPED ↔
      ∀ r ∈ rs, ¬r.conclusion.counted := by
  rw [← List.countP_eq_zero, concludeResults]
  dsimp only
  split_ifs with hzero hreg <;> simp [hzero]

/-- It is a regression if one result at least is not ignored and there is a regression,
    tracked or not. -/
theorem conclusion_eq_REGRESSION :
    (concludeResults tracked now testRunId controlGroupId rs).conclusion = .REGRESSION ↔
      (∃ r ∈ rs, r.conclusion.counted) ∧
        ((∃ r ∈ rs, r.conclusion.hasLabel ["regression"]) ∨
          trackedRegressions tracked testRunId ≠ []) := by
  have hregression : (∃ r ∈ rs, r.conclusion.hasLabel ["regression"]) ↔
      0 < countWith rs ["regression"] := by
    rw [countWith, List.countP_pos_iff]
  have hcounted : (∃ r ∈ rs, r.conclusion.counted) ↔
      0 < rs.countP fun r => r.conclusion.counted := by
    rw [List.countP_pos_iff]
  rw [hcounted, hregression, ← List.length_pos_iff, concludeResults]
  dsimp only
  split_ifs with hzero hreg
  · simp [hzero]
  · exact iff_of_true rfl ⟨Nat.pos_of_ne_zero hzero, hreg⟩
  · exact iff_of_false id fun h => hreg h.2

end Verdict

/-- A regression was compared. -/
theorem StoredConclusion.compared_of_regression {c : StoredConclusion}
    (h : c.hasLabel ["regression"]) : c.compared := by
  cases hc : c.label with
  | none => simp [hasLabel, hc] at h
  | some l =>
    have hl : l = "regression" ∧ c.counted := by simpa [hasLabel, hc] using h
    simp [compared, hc, hl]

/-- A result that was compared counts. -/
theorem StoredConclusion.counted_of_compared {c : StoredConclusion} (h : c.compared) :
    c.counted := by
  rw [compared, Bool.and_eq_true] at h
  exact h.2

/-- A run gets a conclusion that partitions its results if and only if they can be
    concluded from. -/
theorem conclusion_partitions_iff
    (hnew : ofRows (buildConclusionSQL results tracked testRunIds now) = some new)
    (hid : testRunId ∈ testRunIds) :
    (∃ row ∈ new.get testRunId, Partitions results tracked testRunId row) ↔
      Concludes results tracked testRunId := by
  have hget := get_buildConclusionSQL hnew hid
  by_cases hne : resultsOfRun results testRunId = []
  · rw [if_pos hne] at hget
    constructor
    · rintro ⟨row, hrow, -⟩
      rw [hget] at hrow
      cases hrow
    · exact fun h => absurd hne h.nonempty
  rw [if_neg hne] at hget
  obtain ⟨controlGroupId, hget⟩ := hget
  rw [hget]
  constructor
  · rintro ⟨row, hrow, h⟩
    obtain rfl := Option.some.inj hrow
    refine {
      nonempty := hne
      labelled := sum_classes_eq_counted.1 h.sum
      counted := fun htracked =>
        ((conclusion_eq_REGRESSION tracked).1 (h.regression.2 (.inr htracked))).1
      compared := fun hcounted => ?_ }
    by_contra hnone
    rw [not_or, not_not] at hnone
    have hskipped := h.skipped (fun r hr hcompared => hnone.2 ⟨r, hr, hcompared⟩) hnone.1
    obtain ⟨r, hr, hr'⟩ := hcounted
    exact (conclusion_eq_SKIPPED tracked).1 hskipped r hr hr'
  · intro h
    refine ⟨_, rfl, {
      counts := ⟨_, _, rfl⟩
      disjoint := hasLabel_disjoint.imp fun hdisjoint r _ hlabels => ?_
      sum := sum_classes_eq_counted.2 h.labelled
      regression := ?_
      passed := fun hpassed => ?_
      skipped := fun hnone htracked => ?_ }⟩
    · rw [hdisjoint _ hlabels.1] at hlabels
      exact Bool.false_ne_true hlabels.2
    · rw [conclusion_eq_REGRESSION, and_iff_right_iff_imp]
      rintro (⟨r, hr, hreg⟩ | htracked)
      · exact ⟨r, hr, StoredConclusion.counted_of_compared
          (StoredConclusion.compared_of_regression hreg)⟩
      · exact h.counted htracked
    · -- Something counts, and it is no regression.
      have hcounted : ∃ r ∈ resultsOfRun results testRunId, r.conclusion.counted := by
        by_contra hnone
        have hskipped : (concludeResults tracked now testRunId controlGroupId
            (resultsOfRun results testRunId)).conclusion = .SKIPPED :=
          (conclusion_eq_SKIPPED tracked).2 fun r hr hr' => hnone ⟨r, hr, hr'⟩
        rw [hskipped] at hpassed
        cases hpassed
      refine (h.compared hcounted).resolve_left fun htracked => ?_
      have hreg : (concludeResults tracked now testRunId controlGroupId
          (resultsOfRun results testRunId)).conclusion = .REGRESSION :=
        (conclusion_eq_REGRESSION tracked).2 ⟨hcounted, .inr htracked⟩
      rw [hreg] at hpassed
      cases hpassed
    · refine (conclusion_eq_SKIPPED tracked).2 fun r hr hcounted => ?_
      rcases h.compared ⟨r, hr, hcounted⟩ with hreg | ⟨r', hr', hcompared⟩
      · exact hreg htracked
      · exact hnone r' hr' hcompared

/-- A run of two results: a regression, and one that was not compared. -/
def comparedResults : List StoredResult :=
  [⟨"a", "run", "group", ⟨some "regression", some false⟩⟩,
    ⟨"b", "run", "group", ⟨some "incomparable", some false⟩⟩]

theorem conclusion_partitions_compared :
    ∃ new, ofRows (buildConclusionSQL comparedResults [] ["run"] 0) = some new ∧
      ((∃ row ∈ new.get "run", Partitions comparedResults [] "run" row) ↔
        Concludes comparedResults [] "run") :=
  ⟨⟨buildConclusionSQL comparedResults [] ["run"] 0, by decide⟩, ofRows_of_nodup _,
    conclusion_partitions_iff (ofRows_of_nodup (by decide)) (by decide)⟩

/-- A run whose only result was not compared. -/
def incomparableResults : List StoredResult :=
  [⟨"a", "run", "group", ⟨some "incomparable", some false⟩⟩]

/-- A run of which nothing was compared passes. -/
theorem conclusion_incomparable_passed :
    ∃ new, ofRows (buildConclusionSQL incomparableResults [] ["run"] 0) = some new ∧
      ((new.get "run").map AdaptConclusion.conclusion = some .PASSED ∧
        ∀ r ∈ resultsOfRun incomparableResults "run", ¬r.conclusion.compared) ∧
      ¬∃ row ∈ new.get "run", Partitions incomparableResults [] "run" row := by
  refine ⟨⟨buildConclusionSQL incomparableResults [] ["run"] 0, by decide⟩, ofRows_of_nodup _,
    ⟨by decide, by decide⟩, ?_⟩
  rintro ⟨row, hrow, h⟩
  have hpassed : row.conclusion = .PASSED := by
    obtain rfl := Option.some.inj hrow
    decide
  obtain ⟨r, hr, hcompared⟩ := h.passed hpassed
  have hnone : ∀ r ∈ resultsOfRun incomparableResults "run", ¬r.conclusion.compared := by decide
  exact hnone r hr hcompared

end Perfana
