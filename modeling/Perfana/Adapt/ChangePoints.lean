import Perfana.Adapt.ControlGroups

/-!
# Edits of the change points

A run is marked as a change point by hand, or unmarked, and the runs that this affects are
evaluated again. The worker looks for the last change point up to a run, and for its control
group, by the starts of the runs. The API looks for the runs to evaluate again by the times
at which the runs and the marks were created.

* `ChangePointStore.affected_mark_iff`, `ChangePointStore.affected_remove_iff`: an edit
  affects the runs that the worker may find the run to be the last change point of;
* `ChangePointStore.covers_iff`: an edit covers what it affects if and only if the runs were
  created in the order of their starts as far as it matters, and a run that is unmarked was
  the last one marked;
* `ChangePointStore.not_covers_imported`: a run that started since an imported one is missed.
-/

namespace Perfana

open Table

/-- What a change point is a change of. -/
def ChangePoint.compareScope (cp : ChangePoint) : CompareScope :=
  ⟨cp.systemUnderTestId, cp.testEnvironment, cp.workload⟩

namespace AdaptDatabase

variable {K Sk : Type} (db : AdaptDatabase K Sk) (testRunId : String) (run : TestRun)

/-! ## What the worker may compute -/

/-- The change points up to a run, with their starts. -/
def changePointsUpTo : List (String × ℤ) :=
  db.changePoints.filterMap fun cp => do
    let startTime ← (← db.testRuns.get cp.testRunId).startTime
    let own ← run.startTime
    if cp.compareScope = run.compareScope ∧ startTime ≤ own ∧
        ofOrganization run.organizationId cp.organizationId
    then some (cp.testRunId, startTime) else none

/-- The worker may find this to be the last change point up to a run: its query leaves open
    which one of those that started at one time. -/
def MayDetect : Option (String × ℤ) → Prop
  | none => db.changePointsUpTo run = []
  | some cp => cp ∈ db.changePointsUpTo run ∧ ∀ other ∈ db.changePointsUpTo run, other.2 ≤ cp.2

/-- It may find these to be the last ten runs to compare with. -/
def MayFind (changePoint : Option (String × ℤ)) (testRuns : List String) : Prop :=
  if changePoint.map Prod.fst = some testRunId then testRuns = []
  else ∃ rows : List (String × TestRun), MayReturn (fun row => row.2.startTime.getD 0) 10
    (db.controlCandidates testRunId run changePoint) rows ∧ testRuns = rows.map Prod.fst

/-- What the worker may compute for a run. -/
def MayCompute (changePoint : Option (String × ℤ)) (testRuns : List String) : Prop :=
  db.MayDetect run changePoint ∧ db.MayFind testRunId run changePoint testRuns

/-- The edit of a database changes what the worker may compute for a run. -/
def Affected (db db' : AdaptDatabase K Sk) (testRunId : String) : Prop :=
  ∃ run run', db.testRuns.get testRunId = some run ∧ db'.testRuns.get testRunId = some run' ∧
    ∃ changePoint testRuns, ¬(db.MayCompute testRunId run changePoint testRuns ↔
      db'.MayCompute testRunId run' changePoint testRuns)

/-- A change point would be a last one up to a run. -/
def Reaches (cp : ChangePoint) : Prop :=
  cp.compareScope = run.compareScope ∧ ofOrganization run.organizationId cp.organizationId ∧
    ∃ point ∈ db.testRuns.get cp.testRunId, ∃ startTime ∈ point.startTime,
      (∃ own ∈ run.startTime, startTime ≤ own) ∧
        ∀ other ∈ db.changePointsUpTo run, other.2 ≤ startTime

variable {db testRunId run}

theorem mem_changePointsUpTo {cp : String × ℤ} :
    cp ∈ db.changePointsUpTo run ↔ ∃ row ∈ db.changePoints, row.testRunId = cp.1 ∧
      row.compareScope = run.compareScope ∧ ofOrganization run.organizationId row.organizationId ∧
      (∃ own ∈ run.startTime, cp.2 ≤ own) ∧
        ∃ point ∈ db.testRuns.get cp.1, cp.2 ∈ point.startTime := by
  rw [changePointsUpTo, List.mem_filterMap]
  refine exists_congr fun row => and_congr_right fun _ => ?_
  simp only [Option.bind_eq_bind, Option.bind_eq_some_iff, Option.ite_none_right_eq_some,
    Option.some.injEq, Option.mem_def]
  constructor
  · rintro ⟨point, hpoint, startTime, hstart, own, hown, ⟨hscope, hle, horg⟩, rfl⟩
    exact ⟨rfl, hscope, horg, ⟨own, hown, hle⟩, point, hpoint, hstart⟩
  · rintro ⟨hid, hscope, horg, ⟨own, hown, hle⟩, point, hpoint, hstart⟩
    rw [hid]
    exact ⟨point, hpoint, cp.2, hstart, own, hown, ⟨hscope, hle, horg⟩, rfl⟩

/-- A change point starts once. -/
theorem eq_of_mem_changePointsUpTo {cp cp' : String × ℤ} (hcp : cp ∈ db.changePointsUpTo run)
    (hcp' : cp' ∈ db.changePointsUpTo run) (hid : cp.1 = cp'.1) : cp = cp' := by
  obtain ⟨_, _, _, _, _, _, point, hpoint, hstart⟩ := mem_changePointsUpTo.1 hcp
  obtain ⟨_, _, _, _, _, _, point', hpoint', hstart'⟩ := mem_changePointsUpTo.1 hcp'
  rw [← hid] at hpoint'
  obtain rfl := Option.mem_unique hpoint hpoint'
  exact Prod.ext hid (Option.mem_unique hstart hstart')

/-- The worker may find some control group for every change point. -/
theorem exists_mayFind (db : AdaptDatabase K Sk) (testRunId : String) (run : TestRun)
    (changePoint : Option (String × ℤ)) :
    ∃ testRuns, db.MayFind testRunId run changePoint testRuns := by
  by_cases hself : changePoint.map Prod.fst = some testRunId
  · exact ⟨[], by rw [MayFind, if_pos hself]⟩
  · refine ⟨(newest (fun row => row.2.startTime.getD 0) 10
      (db.controlCandidates testRunId run changePoint)).map Prod.fst, ?_⟩
    rw [MayFind, if_neg hself]
    exact ⟨_, mayReturn_newest _ 10 _, rfl⟩

theorem affected_iff {db' : AdaptDatabase K Sk} (hrun : db.testRuns.get testRunId = some run)
    (hrun' : db'.testRuns.get testRunId = some run) :
    db.Affected db' testRunId ↔ ∃ changePoint testRuns,
      ¬(db.MayCompute testRunId run changePoint testRuns ↔
        db'.MayCompute testRunId run changePoint testRuns) := by
  constructor
  · rintro ⟨run₁, run₂, h₁, h₂, h⟩
    obtain rfl := Option.some.inj (hrun.symm.trans h₁)
    obtain rfl := Option.some.inj (hrun'.symm.trans h₂)
    exact h
  · exact fun h => ⟨run, run, hrun, hrun', h⟩

/-! ## One more change point -/

section

variable {db' : AdaptDatabase K Sk} {id : String}

/-- If a run has a new last change point, what may be computed for it changes. -/
theorem not_mayCompute_of_max {cp : String × ℤ} (hmem : cp ∈ db'.changePointsUpTo run)
    (hmax : ∀ other ∈ db'.changePointsUpTo run, other.2 ≤ cp.2)
    (hnew : cp ∉ db.changePointsUpTo run) :
    ∃ changePoint testRuns, db'.MayCompute testRunId run changePoint testRuns ∧
      ¬db.MayCompute testRunId run changePoint testRuns := by
  obtain ⟨testRuns, hfind⟩ := exists_mayFind db' testRunId run (some cp)
  exact ⟨some cp, testRuns, ⟨⟨hmem, hmax⟩, hfind⟩, fun h => hnew h.1.1⟩

variable (hsub : ∀ cp ∈ db.changePointsUpTo run, cp ∈ db'.changePointsUpTo run)
  (hother : ∀ cp ∈ db'.changePointsUpTo run, cp.1 ≠ id → cp ∈ db.changePointsUpTo run)
  (hlast : ∀ cp ∈ db'.changePointsUpTo run, cp.1 = id →
    ∃ other ∈ db.changePointsUpTo run, cp.2 < other.2)

include hsub hother hlast

/-- A change point that is not a last one does not matter for which is found. -/
theorem mayDetect_congr (changePoint : Option (String × ℤ)) :
    db.MayDetect run changePoint ↔ db'.MayDetect run changePoint := by
  cases changePoint with
  | none =>
    constructor
    · intro hnil
      rw [MayDetect] at hnil ⊢
      rw [List.eq_nil_iff_forall_not_mem] at hnil ⊢
      intro cp hcp
      by_cases hid : cp.1 = id
      · obtain ⟨other, hmem, -⟩ := hlast cp hcp hid
        exact hnil other hmem
      · exact hnil cp (hother cp hcp hid)
    · intro hnil
      rw [MayDetect] at hnil ⊢
      rw [List.eq_nil_iff_forall_not_mem] at hnil ⊢
      exact fun cp hcp => hnil cp (hsub cp hcp)
  | some cp =>
    constructor
    · rintro ⟨hmem, hmax⟩
      refine ⟨hsub cp hmem, fun other hcp => ?_⟩
      by_cases hid : other.1 = id
      · obtain ⟨later, hlater, hlt⟩ := hlast other hcp hid
        exact hlt.le.trans (hmax later hlater)
      · exact hmax other (hother other hcp hid)
    · rintro ⟨hmem, hmax⟩
      refine ⟨hother cp hmem fun hid => ?_, fun other hcp => hmax other (hsub other hcp)⟩
      obtain ⟨later, hlater, hlt⟩ := hlast cp hmem hid
      exact (hmax later (hsub later hlater)).not_gt hlt

/-- Nor does it for what is computed, if it is no run to compare with. -/
theorem mayCompute_congr
    (hcandidates : ∀ changePoint, db.MayDetect run changePoint →
      db'.controlCandidates testRunId run changePoint =
        db.controlCandidates testRunId run changePoint)
    (changePoint : Option (String × ℤ)) (testRuns : List String) :
    db.MayCompute testRunId run changePoint testRuns ↔
      db'.MayCompute testRunId run changePoint testRuns := by
  rw [MayCompute, MayCompute, ← mayDetect_congr hsub hother hlast changePoint]
  refine and_congr_right fun hdetect => ?_
  rw [MayFind, MayFind, hcandidates changePoint hdetect]

end

end AdaptDatabase

/-! ## The edits -/

/-- The columns of a run that the API reads. -/
structure RunColumns where
  createdAt : ℤ
  completed : Bool
  abort : Bool

/-- What is done to the change points. -/
inductive ChangePointEdit
  | mark
  | remove
deriving DecidableEq

/-- The tables that an edit of the change points reads and writes. -/
structure ChangePointStore (K Sk : Type) where
  db : AdaptDatabase K Sk
  columns : String → RunColumns
  /-- When the change points were marked. -/
  markedAt : ChangePoint → ℤ

namespace ChangePointStore

variable {K Sk : Type} (st : ChangePointStore K Sk) (scope : CompareScope) (testRunId : String)

/-- The runs that have completed or were aborted. -/
def finishedRuns : List String :=
  (st.db.testRuns.rows.filter fun row => row.2.compareScope = scope ∧
    ((st.columns row.1).completed || (st.columns row.1).abort)).map Prod.fst

/-- Those that were created after a change point. -/
def getTestRunsAfterChangepoint : List String :=
  let createdAt id := (st.columns id).createdAt
  if (st.db.testRuns.get testRunId).any fun run => run.compareScope = scope then
    ((st.finishedRuns scope).insertionSort fun a b => createdAt a ≤ createdAt b).filter
      fun id => createdAt testRunId < createdAt id
  else []

def changePointsOf : List ChangePoint :=
  st.db.changePoints.filter fun cp => cp.compareScope = scope

def isTestRunChangepoint : Bool :=
  (st.changePointsOf scope).any fun cp => cp.testRunId = testRunId

/-- The change point that was marked last. -/
def mostRecentChangepoint : Option ChangePoint :=
  (newest st.markedAt 1 (st.changePointsOf scope)).head?

/-- The row of a run that is marked. -/
def newChangepoint : ChangePoint :=
  ⟨testRunId, scope.systemUnderTestId, scope.testEnvironment, scope.workload, none⟩

/-- The differences of a run are to be judged anew. -/
def resetDifferences (key : String) (run : TestRun) : TestRun :=
  let config := run.adaptConfig.getD ⟨none, none⟩
  if key = testRunId then
    { run with adaptConfig := some { config with differencesAccepted := some .TBD } }
  else run

/-- A run is marked, and what was concluded about it is dropped. -/
def marked (now : ℤ) : ChangePointStore K Sk :=
  { st with
    db := { st.db with
      changePoints := st.db.changePoints ++ [newChangepoint scope testRunId]
      results := st.db.results.filter fun key _ => key.testRunId ≠ testRunId
      conclusions := st.db.conclusions.erase testRunId
      trackedResults := st.db.trackedResults.filter fun key _ =>
        key.testRunId ≠ testRunId ∧ key.trackedTestRunId ≠ testRunId
      testRuns := st.db.testRuns.update (resetDifferences testRunId) }
    markedAt := Function.update st.markedAt (newChangepoint scope testRunId) now }

/-- Marks a run, unless it is marked, and returns the runs to evaluate again. -/
def markAsChangepoint (now : ℤ) : Option (ChangePointStore K Sk × List String) :=
  if st.isTestRunChangepoint scope testRunId then none
  else
    let marked := st.marked scope testRunId now
    some (marked, testRunId :: marked.getTestRunsAfterChangepoint scope testRunId)

/-- The mark of a run is removed. -/
def removed : ChangePointStore K Sk :=
  { st with
    db := { st.db with
      changePoints := st.db.changePoints.filter fun cp =>
        ¬(cp.compareScope = scope ∧ cp.testRunId = testRunId) } }

/-- Removes a mark, if there is one, and returns the runs to evaluate again. -/
def removeChangepoint : Option (ChangePointStore K Sk × List String) :=
  if st.isTestRunChangepoint scope testRunId then
    let isLatest := (st.mostRecentChangepoint scope).map ChangePoint.testRunId = some testRunId
    let removed := st.removed scope testRunId
    some (removed,
      if isLatest then
        match removed.mostRecentChangepoint scope with
        | some previous =>
          previous.testRunId :: removed.getTestRunsAfterChangepoint scope previous.testRunId
        | none => removed.finishedRuns scope
      else [])
  else none

/-- An edit; none if there is nothing to do. -/
def edit (now : ℤ) : ChangePointEdit → Option (ChangePointStore K Sk × List String)
  | .mark => st.markAsChangepoint scope testRunId now
  | .remove => st.removeChangepoint scope testRunId

/-- An edit evaluates the run again, and the finished runs that it affects. -/
def Covers (now : ℤ) (e : ChangePointEdit) : Prop :=
  ∀ st' handed, st.edit scope testRunId now e = some (st', handed) →
    testRunId ∈ handed ∧
      ∀ id ∈ st.finishedRuns scope, st.db.Affected st'.db id → id ∈ handed

/-- A run was created after another of the scope. -/
def CreatedAfter (base id : String) : Prop :=
  (∃ run ∈ st.db.testRuns.get base, run.compareScope = scope) ∧
    (st.columns base).createdAt < (st.columns id).createdAt

/-- A change point would be a last one up to a run that has finished. -/
def Reaches (cp : ChangePoint) (id : String) : Prop :=
  id ∈ st.finishedRuns scope ∧ ∃ run ∈ st.db.testRuns.get id, st.db.Reaches run cp

/-- The change point that was marked last before a run was. -/
def previousChangepoint : Option ChangePoint :=
  (newest st.markedAt 1
    ((st.changePointsOf scope).filter fun cp => cp.testRunId ≠ testRunId)).head?

/-- The runs were created in the order of their starts, as far as the edit needs it, and a
    run that is unmarked was marked last. -/
def OrderedAlike : ChangePointEdit → Prop
  | .mark => st.isTestRunChangepoint scope testRunId = true ∨
      ∀ id, st.Reaches scope (newChangepoint scope testRunId) id → id ≠ testRunId →
        st.CreatedAfter scope testRunId id
  | .remove => st.isTestRunChangepoint scope testRunId = false ∨
      ((st.mostRecentChangepoint scope).map ChangePoint.testRunId = some testRunId ∧
        (st.previousChangepoint scope testRunId = none → testRunId ∈ st.finishedRuns scope) ∧
        ∀ previous ∈ st.previousChangepoint scope testRunId,
          testRunId ∈ st.finishedRuns scope ∧ st.CreatedAfter scope previous.testRunId testRunId ∧
            ∀ id, (∃ cp ∈ st.changePointsOf scope, cp.testRunId = testRunId ∧
              st.Reaches scope cp id) → id ≠ previous.testRunId →
                st.CreatedAfter scope previous.testRunId id)

/-! ## What an edit affects -/

variable {st scope testRunId}

theorem mem_finishedRuns {id : String} :
    id ∈ st.finishedRuns scope ↔ (∃ run ∈ st.db.testRuns.get id, run.compareScope = scope) ∧
      ((st.columns id).completed || (st.columns id).abort) = true := by
  rw [finishedRuns, List.mem_map]
  constructor
  · rintro ⟨⟨_, run⟩, hrow, rfl⟩
    obtain ⟨hrow, hfin⟩ := List.mem_filter.1 hrow
    obtain ⟨hscope, hfin⟩ := of_decide_eq_true hfin
    exact ⟨⟨run, mem_rows.1 hrow, hscope⟩, hfin⟩
  · rintro ⟨⟨run, hrun, hscope⟩, hfin⟩
    exact ⟨(id, run), List.mem_filter.2 ⟨mem_rows.2 hrun, decide_eq_true ⟨hscope, hfin⟩⟩, rfl⟩

theorem mem_getTestRunsAfterChangepoint {base id : String} :
    id ∈ st.getTestRunsAfterChangepoint scope base ↔
      id ∈ st.finishedRuns scope ∧ st.CreatedAfter scope base id := by
  rw [getTestRunsAfterChangepoint, CreatedAfter]
  split
  · rename_i hbase
    obtain ⟨run, hrun, hscope⟩ := (Option.any_eq_true _ _).1 hbase
    rw [List.mem_filter, (List.perm_insertionSort _ _).mem_iff, decide_eq_true_iff]
    exact and_congr_right fun _ =>
      ⟨fun hlt => ⟨⟨run, hrun, of_decide_eq_true hscope⟩, hlt⟩, fun h => h.2⟩
  · rename_i hbase
    constructor
    · intro hmem
      cases hmem
    rintro ⟨-, ⟨run, hrun, hscope⟩, -⟩
    exact absurd ((Option.any_eq_true _ _).2 ⟨run, hrun, decide_eq_true hscope⟩) hbase

theorem resetDifferences_of_ne {key : String} (h : key ≠ testRunId) (run : TestRun) :
    resetDifferences testRunId key run = run := if_neg h

/-- Its differences aside, a run stays as it is. -/
theorem resetDifferences_frame (key : String) (run : TestRun) :
    (resetDifferences testRunId key run).compareScope = run.compareScope ∧
      (resetDifferences testRunId key run).startTime = run.startTime := by
  rw [resetDifferences]
  split <;> exact ⟨rfl, rfl⟩

theorem get_marked (now : ℤ) (id : String) :
    (st.marked scope testRunId now).db.testRuns.get id =
      (st.db.testRuns.get id).map (resetDifferences testRunId id) :=
  get_update _ _ _

theorem createdAfter_marked {now : ℤ} {base id : String} :
    (st.marked scope testRunId now).CreatedAfter scope base id ↔ st.CreatedAfter scope base id := by
  refine and_congr_left fun _ => ?_
  simp only [Option.mem_def, get_marked, Option.map_eq_some_iff]
  constructor
  · rintro ⟨_, ⟨run, hrun, rfl⟩, hscope⟩
    exact ⟨run, hrun, (resetDifferences_frame base run).1.symm.trans hscope⟩
  · rintro ⟨run, hrun, hscope⟩
    exact ⟨_, ⟨run, hrun, rfl⟩, (resetDifferences_frame base run).1.trans hscope⟩

theorem finishedRuns_marked {now : ℤ} {id : String} :
    id ∈ (st.marked scope testRunId now).finishedRuns scope ↔ id ∈ st.finishedRuns scope := by
  rw [mem_finishedRuns, mem_finishedRuns]
  refine and_congr_left fun _ => ?_
  simp only [Option.mem_def, get_marked, Option.map_eq_some_iff]
  constructor
  · rintro ⟨_, ⟨run, hrun, rfl⟩, hscope⟩
    exact ⟨run, hrun, (resetDifferences_frame id run).1.symm.trans hscope⟩
  · rintro ⟨run, hrun, hscope⟩
    exact ⟨_, ⟨run, hrun, rfl⟩, (resetDifferences_frame id run).1.trans hscope⟩

/-- The change points up to a run are the old ones and the new one. -/
theorem mem_changePointsUpTo_marked {now : ℤ} {run : TestRun} {cp : String × ℤ} :
    cp ∈ (st.marked scope testRunId now).db.changePointsUpTo run ↔
      cp ∈ st.db.changePointsUpTo run ∨ cp.1 = testRunId ∧ scope = run.compareScope ∧
        (∃ own ∈ run.startTime, cp.2 ≤ own) ∧
          ∃ point ∈ st.db.testRuns.get testRunId, cp.2 ∈ point.startTime := by
  have hpoint : ∀ id, (∃ point ∈ (st.marked scope testRunId now).db.testRuns.get id,
      cp.2 ∈ point.startTime) ↔ ∃ point ∈ st.db.testRuns.get id, cp.2 ∈ point.startTime := by
    intro id
    simp only [Option.mem_def, get_marked, Option.map_eq_some_iff]
    constructor
    · rintro ⟨_, ⟨point, hpoint, rfl⟩, hstart⟩
      exact ⟨point, hpoint, (resetDifferences_frame id point).2.symm.trans hstart⟩
    · rintro ⟨point, hpoint, hstart⟩
      exact ⟨_, ⟨point, hpoint, rfl⟩, (resetDifferences_frame id point).2.trans hstart⟩
  rw [AdaptDatabase.mem_changePointsUpTo, AdaptDatabase.mem_changePointsUpTo]
  constructor
  · rintro ⟨row, hrow, hid, hscope, horg, hown, hstart⟩
    rcases List.mem_append.1 hrow with hrow | hrow
    · exact .inl ⟨row, hrow, hid, hscope, horg, hown, (hpoint _).1 hstart⟩
    · obtain rfl := List.mem_singleton.1 hrow
      refine .inr ⟨hid.symm, hscope, hown, ?_⟩
      rw [← hid] at hstart
      exact (hpoint _).1 hstart
  · rintro (⟨row, hrow, hid, hscope, horg, hown, hstart⟩ | ⟨hid, hscope, hown, hstart⟩)
    · exact ⟨row, List.mem_append_left _ hrow, hid, hscope, horg, hown, (hpoint _).2 hstart⟩
    · refine ⟨_, List.mem_append_right _ (List.mem_singleton_self _), hid.symm, hscope,
        ?_, hown, ?_⟩
      · exact decide_eq_true (.inr (.inr rfl))
      · rw [hid]
        exact (hpoint _).2 hstart

/-- A run that is not marked is no change point up to a run of the scope. -/
theorem ne_of_mem_changePointsUpTo (hnew : st.isTestRunChangepoint scope testRunId = false)
    {run : TestRun} (hscope : run.compareScope = scope) {cp : String × ℤ}
    (hcp : cp ∈ st.db.changePointsUpTo run) : cp.1 ≠ testRunId := by
  rintro rfl
  obtain ⟨row, hrow, hid, hrowscope, -⟩ := AdaptDatabase.mem_changePointsUpTo.1 hcp
  rw [isTestRunChangepoint, List.any_eq_false] at hnew
  refine hnew row (List.mem_filter.2 ⟨hrow, ?_⟩) (decide_eq_true hid)
  exact decide_eq_true (hrowscope.trans hscope)

/-- If a new change point is not a last one up to a run, it is no run to compare with. -/
theorem controlCandidates_marked {now : ℤ} {id : String} {run : TestRun}
    (hscope : run.compareScope = scope)
    (hlast : ∀ cp ∈ (st.marked scope testRunId now).db.changePointsUpTo run, cp.1 = testRunId →
      ∃ other ∈ st.db.changePointsUpTo run, cp.2 < other.2)
    {changePoint : Option (String × ℤ)} (hdetect : st.db.MayDetect run changePoint) :
    (st.marked scope testRunId now).db.controlCandidates id run changePoint =
      st.db.controlCandidates id run changePoint := by
  refine Table.filter_rows_update fun key point hpoint => ?_
  by_cases hkey : key = testRunId
  · subst hkey
    obtain ⟨hscope', hstart'⟩ := @resetDifferences_frame key key point
    -- A run to compare with is neither later than the run nor before its last change point.
    have hno : ¬(before point.startTime run.startTime = true ∧
        ∀ cp ∈ changePoint, cp.2 ≤ point.startTime.getD 0) := by
      rintro ⟨hbefore, hwindow⟩
      cases hx : point.startTime with
      | none => rw [hx] at hbefore; cases hbefore
      | some x =>
      cases hown : run.startTime with
      | none => rw [hx, hown] at hbefore; cases hbefore
      | some own =>
      rw [hx, hown] at hbefore
      rw [hx] at hwindow
      have hmem : (key, x) ∈ (st.marked scope key now).db.changePointsUpTo run :=
        mem_changePointsUpTo_marked.2 (.inr ⟨rfl, hscope.symm,
          ⟨own, hown, (of_decide_eq_true hbefore).le⟩, point, mem_rows.1 hpoint, hx⟩)
      obtain ⟨other, hother, hlt⟩ := hlast _ hmem rfl
      cases changePoint with
      | none =>
        rw [AdaptDatabase.MayDetect] at hdetect
        rw [hdetect] at hother
        cases hother
      | some cp => exact ((hdetect.2 other hother).trans (hwindow cp rfl)).not_gt hlt
    refine .inr ⟨decide_eq_false ?_, decide_eq_false ?_⟩
    · rintro ⟨-, -, hbefore, -, hwindow, -⟩
      exact hno ⟨hbefore, hwindow⟩
    · rintro ⟨-, -, hbefore, -, hwindow, -⟩
      rw [hstart'] at hbefore hwindow
      exact hno ⟨hbefore, hwindow⟩
  · exact .inl (resetDifferences_of_ne hkey point)

/-- A new change point affects the runs that it would be a last one up to. -/
theorem affected_mark_iff (hnew : st.isTestRunChangepoint scope testRunId = false) {now : ℤ}
    {id : String} (hfin : id ∈ st.finishedRuns scope) (hne : id ≠ testRunId) :
    st.db.Affected (st.marked scope testRunId now).db id ↔
      st.Reaches scope (newChangepoint scope testRunId) id := by
  obtain ⟨run, hrun, hscope⟩ := (mem_finishedRuns.1 hfin).1
  have hrun' : (st.marked scope testRunId now).db.testRuns.get id = some run := by
    rw [get_marked, hrun, Option.map_some, resetDifferences_of_ne hne]
  rw [AdaptDatabase.affected_iff hrun hrun']
  constructor
  · intro haffected
    by_contra hreach
    have hother : ∀ cp ∈ (st.marked scope testRunId now).db.changePointsUpTo run,
        cp.1 ≠ testRunId → cp ∈ st.db.changePointsUpTo run := by
      intro cp hcp hid
      rcases mem_changePointsUpTo_marked.1 hcp with hcp | ⟨hcp, -⟩
      · exact hcp
      · exact absurd hcp hid
    have hlast : ∀ cp ∈ (st.marked scope testRunId now).db.changePointsUpTo run,
        cp.1 = testRunId → ∃ other ∈ st.db.changePointsUpTo run, cp.2 < other.2 := by
      intro cp hcp hid
      rcases mem_changePointsUpTo_marked.1 hcp with hcp | ⟨-, -, hown, point, hpoint, hstart⟩
      · exact absurd hid (ne_of_mem_changePointsUpTo hnew hscope hcp)
      · by_contra hmax
        push Not at hmax
        exact hreach ⟨hfin, run, hrun, hscope.symm, decide_eq_true (.inr (.inr rfl)), point,
          hpoint, cp.2, hstart, hown, hmax⟩
    obtain ⟨changePoint, testRuns, hdiff⟩ := haffected
    refine hdiff (AdaptDatabase.mayCompute_congr
      (fun cp hcp => mem_changePointsUpTo_marked.2 (.inl hcp)) hother hlast
      (fun _ hdetect => controlCandidates_marked hscope hlast hdetect) changePoint testRuns)
  · rintro ⟨-, run', hget, hrunscope, -, point, hpoint, x, hx, hown, hmax⟩
    obtain rfl := Option.mem_unique hget hrun
    have hmem : (testRunId, x) ∈ (st.marked scope testRunId now).db.changePointsUpTo run' :=
      mem_changePointsUpTo_marked.2 (.inr ⟨rfl, hrunscope, hown, point, hpoint, hx⟩)
    have hmax' : ∀ other ∈ (st.marked scope testRunId now).db.changePointsUpTo run',
        other.2 ≤ x := by
      intro other hother
      rcases mem_changePointsUpTo_marked.1 hother with hold | ⟨hid, -⟩
      · exact hmax other hold
      · exact (congrArg Prod.snd
          (AdaptDatabase.eq_of_mem_changePointsUpTo hother hmem hid)).le
    obtain ⟨changePoint, testRuns, hnow, hbefore⟩ :=
      AdaptDatabase.not_mayCompute_of_max hmem hmax' fun hold =>
        ne_of_mem_changePointsUpTo hnew hscope hold rfl
    exact ⟨changePoint, testRuns, fun hiff => hbefore (hiff.2 hnow)⟩

/-- The change points up to a run are the others. -/
theorem mem_changePointsUpTo_removed {run : TestRun} (hscope : run.compareScope = scope)
    {cp : String × ℤ} : cp ∈ (st.removed scope testRunId).db.changePointsUpTo run ↔
      cp ∈ st.db.changePointsUpTo run ∧ cp.1 ≠ testRunId := by
  rw [AdaptDatabase.mem_changePointsUpTo, AdaptDatabase.mem_changePointsUpTo]
  constructor
  · rintro ⟨row, hrow, hid, hrowscope, hrest⟩
    obtain ⟨hrow, hkept⟩ := List.mem_filter.1 hrow
    refine ⟨⟨row, hrow, hid, hrowscope, hrest⟩, fun heq => ?_⟩
    exact of_decide_eq_true hkept ⟨hrowscope.trans hscope, hid.trans heq⟩
  · rintro ⟨⟨row, hrow, hid, hrowscope, hrest⟩, hne⟩
    refine ⟨row, List.mem_filter.2 ⟨hrow, decide_eq_true fun h => hne ?_⟩, hid, hrowscope, hrest⟩
    exact hid.symm.trans h.2

/-- Removing a change point affects the runs that it was a last one up to. -/
theorem affected_remove_iff {id : String} (hfin : id ∈ st.finishedRuns scope) :
    st.db.Affected (st.removed scope testRunId).db id ↔
      ∃ cp ∈ st.changePointsOf scope, cp.testRunId = testRunId ∧ st.Reaches scope cp id := by
  obtain ⟨run, hrun, hscope⟩ := (mem_finishedRuns.1 hfin).1
  have hrun' : (st.removed scope testRunId).db.testRuns.get id = some run := hrun
  rw [AdaptDatabase.affected_iff hrun hrun']
  constructor
  · intro haffected
    by_contra hreach
    have hsub : ∀ cp ∈ (st.removed scope testRunId).db.changePointsUpTo run,
        cp ∈ st.db.changePointsUpTo run :=
      fun cp hcp => ((mem_changePointsUpTo_removed hscope).1 hcp).1
    have hother : ∀ cp ∈ st.db.changePointsUpTo run, cp.1 ≠ testRunId →
        cp ∈ (st.removed scope testRunId).db.changePointsUpTo run :=
      fun cp hcp hid => (mem_changePointsUpTo_removed hscope).2 ⟨hcp, hid⟩
    have hlast : ∀ cp ∈ st.db.changePointsUpTo run, cp.1 = testRunId →
        ∃ other ∈ (st.removed scope testRunId).db.changePointsUpTo run, cp.2 < other.2 := by
      intro cp hcp hid
      obtain ⟨row, hrow, hrowid, hrowscope, horg, hown, point, hpoint, hstart⟩ :=
        AdaptDatabase.mem_changePointsUpTo.1 hcp
      by_contra hmax
      push Not at hmax
      refine hreach ⟨row, List.mem_filter.2 ⟨hrow, decide_eq_true (hrowscope.trans hscope)⟩,
        hrowid.trans hid, hfin, run, hrun, hrowscope, horg, point, by rwa [hrowid], cp.2, hstart,
        hown, fun other hcp' => ?_⟩
      by_cases hid' : other.1 = testRunId
      · exact (congrArg Prod.snd
          (AdaptDatabase.eq_of_mem_changePointsUpTo hcp' hcp (hid'.trans hid.symm))).le
      · exact hmax other (hother other hcp' hid')
    obtain ⟨changePoint, testRuns, hdiff⟩ := haffected
    exact hdiff (AdaptDatabase.mayCompute_congr hsub hother hlast (fun _ _ => rfl)
      changePoint testRuns).symm
  · rintro ⟨cp, hcp, rfl, -, run', hget, hcpscope, horg, point, hpoint, x, hx, hown, hmax⟩
    obtain rfl := Option.mem_unique hget hrun
    have hmem : (cp.testRunId, x) ∈ st.db.changePointsUpTo run' :=
      AdaptDatabase.mem_changePointsUpTo.2 ⟨cp, List.mem_of_mem_filter hcp, rfl, hcpscope, horg,
        hown, point, hpoint, hx⟩
    obtain ⟨changePoint, testRuns, hbefore, hnow⟩ :=
      AdaptDatabase.not_mayCompute_of_max hmem hmax fun hkept =>
        ((mem_changePointsUpTo_removed hscope).1 hkept).2 rfl
    exact ⟨changePoint, testRuns, fun hiff => hnow (hiff.1 hbefore)⟩

/-! ## What an edit covers -/

theorem covers_mark_iff {now : ℤ} :
    st.Covers scope testRunId now .mark ↔ st.OrderedAlike scope testRunId .mark := by
  rw [Covers, OrderedAlike]
  cases hmarked : st.isTestRunChangepoint scope testRunId with
  | true => simp [edit, markAsChangepoint, hmarked]
  | false =>
    have hedit : st.edit scope testRunId now .mark = some (st.marked scope testRunId now,
        testRunId :: (st.marked scope testRunId now).getTestRunsAfterChangepoint scope
          testRunId) := by
      simp [edit, markAsChangepoint, hmarked]
    constructor
    · intro h
      refine .inr fun id hreach hne => ?_
      obtain ⟨-, hcovers⟩ := h _ _ hedit
      have hin := hcovers id hreach.1 ((affected_mark_iff hmarked hreach.1 hne).2 hreach)
      obtain ⟨-, hafter⟩ := mem_getTestRunsAfterChangepoint.1
        ((List.mem_cons.1 hin).resolve_left hne)
      exact createdAfter_marked.1 hafter
    · rintro (htrue | hordered) st' handed hst
      · cases htrue
      rw [hedit] at hst
      obtain ⟨rfl, rfl⟩ := Prod.mk.inj (Option.some.inj hst)
      refine ⟨List.mem_cons_self, fun id hfin haffected => ?_⟩
      by_cases hne : id = testRunId
      · rw [hne]
        exact List.mem_cons_self
      · have hreach := (affected_mark_iff hmarked hfin hne).1 haffected
        exact List.mem_cons_of_mem _ (mem_getTestRunsAfterChangepoint.2
          ⟨finishedRuns_marked.2 hfin, createdAfter_marked.2 (hordered id hreach hne)⟩)

theorem mostRecentChangepoint_removed :
    (st.removed scope testRunId).mostRecentChangepoint scope =
      st.previousChangepoint scope testRunId := by
  have hrest : (st.removed scope testRunId).changePointsOf scope =
      (st.changePointsOf scope).filter fun cp => cp.testRunId ≠ testRunId := by
    rw [changePointsOf, changePointsOf, removed, List.filter_filter, List.filter_filter]
    refine List.filter_congr fun cp _ => ?_
    by_cases hscope : cp.compareScope = scope <;> simp [hscope]
  rw [mostRecentChangepoint, hrest]
  rfl

theorem covers_remove_iff {now : ℤ} :
    st.Covers scope testRunId now .remove ↔ st.OrderedAlike scope testRunId .remove := by
  rw [Covers, OrderedAlike]
  cases hmarked : st.isTestRunChangepoint scope testRunId with
  | false => simp [edit, removeChangepoint, hmarked]
  | true =>
    by_cases hlatest :
        (st.mostRecentChangepoint scope).map ChangePoint.testRunId = some testRunId
    swap
    · simp [edit, removeChangepoint, hmarked, hlatest]
    cases hprevious : st.previousChangepoint scope testRunId with
    | none =>
      have hedit : st.edit scope testRunId now .remove =
          some (st.removed scope testRunId, st.finishedRuns scope) := by
        simp only [edit, removeChangepoint, hmarked, hlatest, if_true,
          mostRecentChangepoint_removed, hprevious]
        rfl
      constructor
      · intro h
        refine .inr ⟨hlatest, fun _ => (h _ _ hedit).1, fun previous hnone => ?_⟩
        cases hnone
      · rintro (hfalse | ⟨-, hself, -⟩) st' handed hst
        · cases hfalse
        rw [hedit] at hst
        obtain ⟨rfl, rfl⟩ := Prod.mk.inj (Option.some.inj hst)
        exact ⟨hself rfl, fun id hid _ => hid⟩
    | some previous =>
      have hedit : st.edit scope testRunId now .remove = some (st.removed scope testRunId,
          previous.testRunId :: st.getTestRunsAfterChangepoint scope previous.testRunId) := by
        simp only [edit, removeChangepoint, hmarked, hlatest, if_true,
          mostRecentChangepoint_removed, hprevious]
        rfl
      have hne : previous.testRunId ≠ testRunId :=
        of_decide_eq_true (List.mem_filter.1 (of_mem_newest (List.mem_of_mem_head? hprevious))).2
      constructor
      · intro h
        obtain ⟨hself, hcovers⟩ := h _ _ hedit
        obtain ⟨hfin, hafter⟩ := mem_getTestRunsAfterChangepoint.1
          ((List.mem_cons.1 hself).resolve_left hne.symm)
        refine .inr ⟨hlatest, (fun hnone => by cases hnone), ?_⟩
        rintro _ ⟨⟩
        refine ⟨hfin, hafter, ?_⟩
        rintro id ⟨cp, hcp, hid, hreach⟩ hother
        have hin := hcovers id hreach.1
          ((affected_remove_iff hreach.1).2 ⟨cp, hcp, hid, hreach⟩)
        exact (mem_getTestRunsAfterChangepoint.1
          ((List.mem_cons.1 hin).resolve_left hother)).2
      · rintro (hfalse | ⟨-, -, hordered⟩) st' handed hst
        · cases hfalse
        obtain ⟨hfin, hafter, hcovers⟩ := hordered previous rfl
        rw [hedit] at hst
        obtain ⟨rfl, rfl⟩ := Prod.mk.inj (Option.some.inj hst)
        refine ⟨List.mem_cons_of_mem _ (mem_getTestRunsAfterChangepoint.2 ⟨hfin, hafter⟩), ?_⟩
        intro id hid haffected
        by_cases hother : id = previous.testRunId
        · rw [hother]
          exact List.mem_cons_self
        · exact List.mem_cons_of_mem _ (mem_getTestRunsAfterChangepoint.2
            ⟨hid, hcovers id ((affected_remove_iff hid).1 haffected) hother⟩)

/-- An edit covers what it affects if and only if the runs were created in the order of
    their starts, as far as the edit needs it, and a run that is unmarked was marked last. -/
theorem covers_iff {now : ℤ} {e : ChangePointEdit} :
    st.Covers scope testRunId now e ↔ st.OrderedAlike scope testRunId e := by
  cases e with
  | mark => exact covers_mark_iff
  | remove => exact covers_remove_iff

end ChangePointStore

/-! ## An imported run -/

namespace ChangePointStore

def shopScope : CompareScope := ⟨"shop", "test", "load"⟩

/-- The run that started first was created, by an import, after the one that started next. -/
def importedStore : ChangePointStore ℚ (Multiset ℚ) where
  db :=
    { slowRun with
      testRuns := ⟨[("imported", adaptRun "imported" 50), ("own", adaptRun "own" 100)],
        show ["imported", "own"].Nodup by decide⟩
      changePoints := [] }
  columns := fun id => ⟨if id = "imported" then 3 else 2, true, false⟩
  markedAt := fun _ => 0

/-- The run since the imported one has it as its change point now, and is not evaluated. -/
theorem not_covers_imported : ¬importedStore.Covers shopScope "imported" 4 .mark := by
  intro h
  have hfin : "own" ∈ importedStore.finishedRuns shopScope := by decide +kernel
  have haffected : importedStore.db.Affected (importedStore.marked shopScope "imported" 4).db
      "own" :=
    (affected_mark_iff (by decide +kernel) hfin (by decide)).2
      ⟨hfin, adaptRun "own" 100, rfl, rfl, by decide, adaptRun "imported" 50, rfl, 50, rfl,
        ⟨100, rfl, by decide⟩, fun other hother => by cases hother⟩
  have hin := (h _ _ rfl).2 "own" hfin haffected
  exact absurd hin (by decide +kernel)

end ChangePointStore

end Perfana
