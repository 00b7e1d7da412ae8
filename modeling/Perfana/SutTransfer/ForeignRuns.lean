import Perfana.SutTransfer.Arrivals

/-!
# The runs that an import touches

An import is meant to touch only the runs that its bundle carries (`Carried`): those of the system
of the bundle, in the organization that it is imported into, that have a row in the bundle. But it
does not look at the runs of the rows that it writes.

* `keepsToItsRuns_iff`: an import that goes through touches only those runs if and only if the rows
  that it writes, and the samples, panels and change points that the target has of the runs that it
  rewrites, are of such runs;
* `not_keepsToItsRuns`: a bundle without any run deletes the samples of another system.
-/

namespace Perfana.SutTransfer

/-- How a row refers to its run. -/
inductive RunRef where
  | key (testRunId : String)
  | uuid (id : String)
  deriving DecidableEq, Repr

/-- How the rows of a table are found that are carried. -/
def filterOf (table : String) : Option SutFilter :=
  (SUT_RESOURCES.find? fun resource => resource.table = table).map SutResource.filter

/-- The run of a row, in the tables of runs: they have its key or its id. -/
def runRef (table : String) (row : Stored) : Option RunRef :=
  match filterOf table with
  | some .byTestRunVarchar => (cell row "test_run_id").map .key
  | some .byTestRunUuid => (cell row "test_run_id").map .uuid
  | _ => if table = "test_runs" then (cell row "test_run_id").map .key else none

/-- A run has a key or an id. -/
def RunRef.Names : RunRef → Stored → Prop
  | key testRunId, run => cell run "test_run_id" = some testRunId
  | uuid id, run => cell run "id" = some id

instance : (ref : RunRef) → (run : Stored) → Decidable (ref.Names run)
  | .key testRunId, run => inferInstanceAs (Decidable (cell run "test_run_id" = some testRunId))
  | .uuid id, run => inferInstanceAs (Decidable (cell run "id" = some id))

section Carried

variable (s : Schema) (organization : String) (file : List Line)

/-- The manifest of a bundle. -/
def manifest : List Line → Json
  | .json first :: _ => first.field "__manifest__"
  | _ => .null

/-- The runs that have a row in a bundle. -/
def bundleRuns : List Stored :=
  (entries organization file).filterMap fun entry =>
    if entry.1 = "test_runs" then s.populate "test_runs" entry.2 else none

/-- A run is in the organization that a bundle is imported into. -/
def InOrganization (run : Stored) : Prop :=
  (cell run "organization_id").isSome ∧
    cell run "organization_id" = s.read "test_runs" "organization_id" (.str organization)

/-- A run is one of the system of a bundle. -/
def OfBundleSystem (run : Stored) : Prop :=
  (cell run "system_under_test_id").isSome ∧
    cell run "system_under_test_id" =
      s.param "systems_under_test" "id" ((manifest file).field "sourceSutId")

/-- A run has a row in a bundle, with its id and its key. -/
def InBundle (run : Stored) : Prop :=
  ∃ row ∈ bundleRuns s organization file,
    cell row "id" = cell run "id" ∧ cell row "test_run_id" = cell run "test_run_id"

/-- A run is one that a bundle carries. -/
def Carried (runs : List Stored) (ref : RunRef) : Prop :=
  ∃ run ∈ runs, ref.Names run ∧ InOrganization s organization run ∧ OfBundleSystem s file run ∧
    InBundle s organization file run

instance (runs : List Stored) (ref : RunRef) : Decidable (Carried s organization file runs ref) :=
  inferInstanceAs (Decidable (∃ run ∈ runs, ref.Names run ∧
    ((cell run "organization_id").isSome ∧
      cell run "organization_id" = s.read "test_runs" "organization_id" (.str organization)) ∧
    ((cell run "system_under_test_id").isSome ∧ cell run "system_under_test_id" =
      s.param "systems_under_test" "id" ((manifest file).field "sourceSutId")) ∧
    ∃ row ∈ bundleRuns s organization file,
      cell row "id" = cell run "id" ∧ cell row "test_run_id" = cell run "test_run_id"))

/-- An import fails and leaves the target as it is, or what it deletes and writes is of runs that
    the bundle carries, and the rows of other runs are still there. -/
def KeepsToItsRuns (db : Database) : Prop :=
  match importBundle s organization file db with
  | (.error _, after) => after = db
  | (.ok imported, after) =>
    (∀ write ∈ imported.deleted ++ imported.added, ∀ ref, runRef write.1 write.2 = some ref →
      Carried s organization file (after "test_runs") ref) ∧
    ∀ table, ∀ row ∈ db table, ∀ ref, runRef table row = some ref →
      ¬Carried s organization file (after "test_runs") ref → row ∈ after table

/-- The rows of a bundle that are new to the target, and the rows of the target that are of a run
    that the bundle has samples, panels or change points of, are of runs that the bundle carries. -/
def NamesItsRuns (db : Database) : Prop :=
  let new := arrivals s db (entries organization file)
  let runs := extend db new "test_runs"
  (∀ write ∈ new, ∀ ref, runRef write.1 write.2 = some ref →
    Carried s organization file runs ref) ∧
  ∀ scope ∈ purgeScopes (entries organization file),
    (∃ row ∈ db scope.1, cell row PURGE_SCOPE_COLUMN = some scope.2) →
      Carried s organization file runs (.key scope.2)

end Carried

variable {s : Schema} {organization : String} {file : List Line} {db : Database}

/-- The tables that are purged have the keys of runs. -/
theorem runRef_of_purged {table : String} {row : Stored} (h : table ∈ PURGE_BY_RUN_TABLES) :
    runRef table row = (cell row PURGE_SCOPE_COLUMN).map .key := by
  have hfilter : ∀ t ∈ PURGE_BY_RUN_TABLES, filterOf t = some .byTestRunVarchar := by decide
  rw [runRef, hfilter table h]
  rfl

/-- An import that goes through has read all its lines. -/
theorem importBundle_ok {imported : Imported} {db' : Database}
    (h : importBundle s organization file db = (.ok imported, db')) :
    ∃ ses, importLines s organization db file.tail = .ok ses ∧
      imported.deleted = ses.deleted ∧ imported.added = ses.added ∧ db' = ses.db := by
  rw [importBundle] at h
  split at h
  · rename_i hrun
    cases h
    obtain ⟨manifest, -, hrun⟩ := bind_eq_ok_iff.1 hrun
    obtain ⟨merged, -, hrun⟩ := bind_eq_ok_iff.1 hrun
    obtain ⟨ses, hses, hrun⟩ := bind_eq_ok_iff.1 hrun
    cases hrun
    exact ⟨ses, hses, rfl, rfl, rfl⟩
  · cases h

theorem importBundle_error {e : ImportError} {db' : Database}
    (h : importBundle s organization file db = (.error e, db')) : db' = db := by
  rw [importBundle] at h
  split at h
  · cases h
  · cases h
    rfl

/-- An import that fails leaves the target as it is. One that goes through touches only the runs
    that its bundle carries if and only if the bundle names no others. -/
theorem keepsToItsRuns_iff (s : Schema) (organization : String) (file : List Line)
    (db : Database) :
    match importBundle s organization file db with
    | (.error _, _) => KeepsToItsRuns s organization file db
    | (.ok _, _) =>
      KeepsToItsRuns s organization file db ↔ NamesItsRuns s organization file db := by
  rw [KeepsToItsRuns]
  rcases himport : importBundle s organization file db with ⟨_ | imported, db'⟩
  · exact importBundle_error himport
  · dsimp only
    obtain ⟨ses, hses, hdeleted, hadded, rfl⟩ := importBundle_ok himport
    have hinv : Inv s db (entries organization file) ses := Inv.of_importLines hses
    rw [hdeleted, hadded, NamesItsRuns, ← hinv.added, ← hinv.rows "test_runs" (by decide)]
    constructor
    · rintro ⟨hwrites, -⟩
      refine ⟨fun write hwrite => hwrites write (List.mem_append_right _ hwrite), ?_⟩
      rintro ⟨table, run⟩ hscope ⟨row, hrow, hcell⟩
      refine hwrites (table, row) ?_ (.key run) ?_
      · exact List.mem_append_left _ (hinv.gone table run hscope row hrow hcell)
      · obtain ⟨_, -, hpurge, -⟩ := mem_purgeScopes.1 hscope
        rw [runRef_of_purged hpurge, hcell]
        rfl
    · rintro ⟨hnew, hscopes⟩
      have hwrites : ∀ write ∈ ses.deleted ++ ses.added, ∀ ref,
          runRef write.1 write.2 = some ref →
            Carried s organization file (ses.db "test_runs") ref := by
        rintro ⟨table, row⟩ hwrite ref href
        rcases List.mem_append.1 hwrite with hwrite | hwrite
        · -- What is deleted was there, or has been written before.
          obtain ⟨hfrom | hfrom, run, hscope, hcell⟩ := hinv.deleted _ hwrite
          · obtain ⟨_, -, hpurge, -⟩ := mem_purgeScopes.1 hscope
            rw [runRef_of_purged hpurge, hcell] at href
            obtain rfl := Option.some.inj href
            exact hscopes (table, run) hscope ⟨row, hfrom, hcell⟩
          · exact hnew _ hfrom ref href
        · exact hnew _ hwrite ref href
      refine ⟨hwrites, fun table row hrow ref href hother => ?_⟩
      rcases hinv.kept table row hrow with hmem | hmem
      · exact hmem
      · exact absurd (hwrites _ (List.mem_append_left _ hmem) ref href) hother

/-! ## A bundle without runs -/

section Example

/-- A database with systems, runs and samples. -/
def sampleSchema : Schema where
  columns table :=
    if table = "systems_under_test" then ["id", "name", "organization_id"]
    else if table = "test_runs" then
      ["id", "test_run_id", "system_under_test_id", "organization_id"]
    else ["time", "test_run_id"]
  read _ _ v := v.toJsString
  param _ _ v := v.toJsString
  clash table row row' :=
    match table with
    | "systems_under_test" => cell row "id" = cell row' "id"
    | "test_runs" =>
      cell row "id" = cell row' "id" || cell row "test_run_id" = cell row' "test_run_id"
    | _ => false
  rowOk table row := table ≠ "generated_reports" || (cell row "template_id").isSome
  admits db := (db "test_runs").all fun run => (db "systems_under_test").any fun sut =>
    cell sut "id" = cell run "system_under_test_id"
  clash_of_purged := by
    intro table h row row'
    have hne : ∀ t ∈ PURGE_BY_RUN_TABLES, t ≠ "systems_under_test" ∧ t ≠ "test_runs" := by decide
    split
    · exact absurd rfl (hne _ h).1
    · exact absurd rfl (hne _ h).2
    · rfl
  template_of_rowOk row h := by simpa using h

/-- A system with a run, and a sample of it. -/
def sampleTarget : Database
  | "systems_under_test" => [[("id", "shop"), ("name", "Shop"), ("organization_id", "retail")]]
  | "test_runs" => [[("id", "run"), ("test_run_id", "shop-1"), ("system_under_test_id", "shop"),
      ("organization_id", "retail")]]
  | "requests_raw" => [[("time", "12:00"), ("test_run_id", "shop-1")]]
  | _ => []

/-- A bundle of another system, with a sample that has the key of that run. -/
def sampleBundle : List Line := [
  .json (.obj [("__manifest__", .obj [("schemaVersion", .num "1"), ("sourceSutId", .str "search"),
    ("sutName", .str "Search")])]),
  .json (.obj [("__table__", .str "requests_raw")]),
  .json (.obj [("time", .str "13:00"), ("test_run_id", .str "shop-1")])]

/-- It is imported into another organization, and the sample of the run is gone. -/
theorem not_keepsToItsRuns : ¬KeepsToItsRuns sampleSchema "travel" sampleBundle sampleTarget := by
  intro h
  rw [KeepsToItsRuns] at h
  have hok : ((importBundle sampleSchema "travel" sampleBundle sampleTarget).1.toOption.map
      fun imported => imported.deleted) =
        some [("requests_raw", [("time", "12:00"), ("test_run_id", "shop-1")])] := by
    decide +kernel
  have hother : ¬Carried sampleSchema "travel" sampleBundle
      ((importBundle sampleSchema "travel" sampleBundle sampleTarget).2 "test_runs")
      (.key "shop-1") := by
    decide +kernel
  rcases himport : importBundle sampleSchema "travel" sampleBundle sampleTarget with
    ⟨_ | imported, db'⟩
  · rw [himport] at hok
    cases hok
  · rw [himport] at h hok hother
    have hdeleted : imported.deleted =
        [("requests_raw", [("time", "12:00"), ("test_run_id", "shop-1")])] := Option.some.inj hok
    refine hother (h.1 ("requests_raw", [("time", "12:00"), ("test_run_id", "shop-1")]) ?_ _ rfl)
    rw [hdeleted]
    exact List.mem_append_left _ (List.mem_singleton_self _)

end Example

end Perfana.SutTransfer
