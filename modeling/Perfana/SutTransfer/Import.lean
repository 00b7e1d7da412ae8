import Perfana.Lib.Skipping
import Perfana.SutTransfer.Bundle

/-!
# Importing a bundle

An import reads the lines of a bundle in one transaction. Rows are written in batches, of the rows
of a table that follow each other, a thousand at most: those that clash with a row of the target
are skipped, reports without their template are dropped, and the rule of a series is cleared if it
is not there. The rows of a table of samples, panels or change points are written after those with
the same runs are deleted, once in an import. A run whose key is that of another run of the target
is refused.
-/

namespace Perfana.SutTransfer

/-- Why an import fails. -/
inductive ImportError where
  | badRequest (message : String)
  | conflict (message : String)
  /-- JavaScript throws, or `JSON.parse` does. -/
  | thrown
  /-- The database refuses a statement. -/
  | database
  deriving DecidableEq, Repr

/-- Counts of rows, for the tables that have one. -/
abbrev Counts := String → Option ℕ

/-- Adds to the count of a table. -/
def Counts.add (c : Counts) (table : String) (n : ℕ) : Counts :=
  Function.update c table (some ((c table).getD 0 + n))

/-- Adds to the count of a table, unless there is nothing to add. -/
def Counts.addPositive (c : Counts) (table : String) (n : ℕ) : Counts :=
  if 0 < n then c.add table n else c

/-- What an import has done so far. -/
structure Session where
  /-- The rows of the target. -/
  db : Database
  /-- The tables and the runs whose rows have been deleted. -/
  purgedScopes : List (String × String) := []
  /-- Rows written, per table. -/
  rowCounts : Counts := fun _ => none
  /-- Rows that were there, per table. -/
  skippedCounts : Counts := fun _ => none
  /-- Rows without their parent, per table. -/
  droppedCounts : Counts := fun _ => none
  /-- The rows that its statements have deleted. -/
  deleted : List (String × Stored) := []
  /-- The rows that its statements have written. -/
  added : List (String × Stored) := []

/-- Writes rows to a table. -/
def Session.write (ses : Session) (table : String) (rows : List Stored) : Session :=
  { ses with
    db := Function.update ses.db table (ses.db table ++ rows)
    added := ses.added ++ rows.map fun row => (table, row) }

/-- Whether a row is of one of some runs. -/
def ofRuns (runs : List String) (row : Stored) : Bool :=
  runs.any fun run => cell row PURGE_SCOPE_COLUMN = some run

/-- Deletes the rows of some runs from a table. -/
def Session.purge (ses : Session) (table : String) (runs : List String) : Session :=
  { ses with
    db := Function.update ses.db table ((ses.db table).filter fun row => !ofRuns runs row)
    purgedScopes := ses.purgedScopes ++ runs.map fun run => (table, run)
    deleted := ses.deleted ++ ((ses.db table).filter (ofRuns runs)).map fun row => (table, row) }

section Session

variable {ses : Session} {table t : String} {rows : List Stored} {runs : List String}

@[simp] theorem Session.write_db_self : (ses.write table rows).db table = ses.db table ++ rows := by
  simp [Session.write]

theorem Session.write_db_of_ne (h : t ≠ table) : (ses.write table rows).db t = ses.db t := by
  simp [Session.write, h]

@[simp] theorem Session.write_added :
    (ses.write table rows).added = ses.added ++ rows.map fun row => (table, row) := rfl

@[simp] theorem Session.write_nil : ses.write table [] = ses := by
  rw [Session.write, List.append_nil, Function.update_eq_self, List.map_nil, List.append_nil]

@[simp] theorem Session.purge_db_self :
    (ses.purge table runs).db table = (ses.db table).filter fun row => !ofRuns runs row := by
  simp [Session.purge]

theorem Session.purge_db_of_ne (h : t ≠ table) : (ses.purge table runs).db t = ses.db t := by
  simp [Session.purge, h]

end Session

/-! ## A batch -/

section Batch

variable (s : Schema)

/-- Whether a table has a row with an id. -/
def hasId (db : Database) (table id : String) : Bool :=
  (db table).any fun row => cell row "id" = some id

/-- Whether the parent that a row refers to in a column is in a table. -/
def parentPresent (db : Database) (column parentTable : String) (row : Json) : Bool :=
  match (row.field column).toJsString with
  | some id => hasId db parentTable id
  | none => false

/-- Rows that refer to a parent in a column, none of which throws when it is written out. -/
def writtenOut (column : String) (rows : List Json) : Bool :=
  rows.all fun row => (row.field column).isNull || (row.field column).toJsString.isSome

/-- Leaves out the rows whose parent is not there. -/
def dropRowsMissingParent (db : Database) (rows : List Json) (column parentTable : String) :
    Except ImportError (List Json) :=
  if writtenOut column rows then
    if rows.all fun row => (row.field column).isNull then .ok rows
    else .ok (rows.filter fun row =>
      !(row.field column).isNull && parentPresent db column parentTable row)
  else .error .thrown

/-- Clears a column in the rows whose parent is not there. -/
def nullRowsMissingParent (db : Database) (rows : List Json) (column parentTable : String) :
    Except ImportError (List Json) :=
  if writtenOut column rows then
    .ok (rows.map fun row =>
      if (row.field column).isNull || parentPresent db column parentTable row then row
      else row.spreadWith column .null)
  else .error .thrown

/-- The id of the last of the rows with a key: both are there and written out. -/
def idOfKey (rows : List Json) (key : String) : Option String :=
  (rows.reverse.find? fun row => !(row.field "test_run_id").isNull && !(row.field "id").isNull &&
    (row.field "test_run_id").toJsString = some key).bind fun row => (row.field "id").toJsString

/-- Whether a run of the target has a key of the rows, and another id. -/
def isForeign (rows : List Json) (run : Stored) : Bool :=
  match (cell run "test_run_id").bind (idOfKey rows) with
  | some id => cell run "id" ≠ some id
  | none => false

/-- Refuses rows with the key of a different run of the target. -/
def assertNoForeignRunKey (db : Database) (rows : List Json) : Except ImportError Unit :=
  let keyed := rows.filter fun row => !(row.field "test_run_id").isNull && !(row.field "id").isNull
  if writtenOut "test_run_id" keyed && writtenOut "id" keyed then
    if (db "test_runs").any (isForeign rows) then
      .error (.conflict
        "Test run key(s) already belong to a different test run in this environment.")
    else .ok ()
  else .error .thrown

/-- The runs of rows. -/
def scopes (rows : List Json) : List String :=
  ((rows.map fun row => row.field PURGE_SCOPE_COLUMN).filter fun v => !v.isNull).filterMap
    Json.toJsString

/-- The runs of rows whose rows this import has not deleted from a table. -/
def freshScopes (ses : Session) (table : String) (rows : List Json) : List String :=
  (scopes rows).filter fun scope => (table, scope) ∉ ses.purgedScopes

/-- Deletes the rows of a table with the runs of a batch, unless this import has already. -/
def purgeRunScopes (ses : Session) (table : String) (rows : List Json) :
    Except ImportError Session :=
  if writtenOut PURGE_SCOPE_COLUMN rows then .ok (ses.purge table (freshScopes ses table rows))
  else .error .thrown

/-- `INSERT … ON CONFLICT DO NOTHING RETURNING 1`, with the number of rows that it returns. -/
def insertRows (ses : Session) (table : String) (rows : List Json) :
    Except ImportError (Session × ℕ) :=
  match rows.mapM (s.populate table) with
  | none => .error .database
  | some read =>
    let proposed := read.map (nonSerialColumns table)
    let written := skipping (s.clash table) (ses.db table) proposed
    let after := ses.write table written
    if proposed.all (s.rowOk table) && s.admits after.db then .ok (after, written.length)
    else .error .database

/-- The rows of a batch that are written or skipped. -/
def rowsToInsert (db : Database) (table : String) (rows : List Json) :
    Except ImportError (List Json) :=
  if table = "generated_reports" then
    dropRowsMissingParent db rows "template_id" "report_templates"
  else if table = "ds_metric_series_groups" then
    nullRowsMissingParent db rows "rule_id" "series_grouping_rules"
  else .ok rows

/-- What is checked and deleted before a batch is written. -/
def prepareTable (ses : Session) (table : String) (rows : List Json) :
    Except ImportError Session :=
  if table = "test_runs" then (assertNoForeignRunKey ses.db rows).map fun _ => ses
  else if table ∈ PURGE_BY_RUN_TABLES then purgeRunScopes ses table rows
  else .ok ses

/-- What becomes of a batch: the session, and the numbers of rows inserted and dropped. -/
def insertBatch (ses : Session) (table : String) (rows : List Json) :
    Except ImportError (Session × ℕ × ℕ) := do
  let toInsert ← rowsToInsert ses.db table rows
  let dropped := rows.length - toInsert.length
  if toInsert.isEmpty then return (ses, 0, dropped)
  let ses ← prepareTable ses table toInsert
  let (ses, inserted) ← insertRows s ses table toInsert
  return (ses, inserted, dropped)

end Batch

/-! ## The lines of a bundle -/

/-- A line of a bundle. -/
inductive Line where
  | blank
  /-- One that `JSON.parse` refuses, or that cannot be unpacked. -/
  | malformed
  | json (v : Json)

/-- An import that is reading lines. -/
structure Progress where
  /-- The table whose rows are read. -/
  currentTable : Option String := none
  /-- The rows that are not written yet. -/
  batch : List Json := []
  /-- What has been done. -/
  session : Session

section Lines

variable (s : Schema)

/-- Writes the batch, once it is known to which table. -/
def flush (p : Progress) : Except ImportError Progress :=
  match p.currentTable with
  | none => .ok p
  | some table =>
    if p.batch.isEmpty then .ok p
    else do
      let (ses, inserted, dropped) ← insertBatch s p.session table p.batch
      let skipped := p.batch.length - inserted - dropped
      return { p with
        batch := []
        session := { ses with
          rowCounts := ses.rowCounts.add table inserted
          skippedCounts := ses.skippedCounts.addPositive table skipped
          droppedCounts := ses.droppedCounts.addPositive table dropped } }

/-- A row that is handed over to an organization, and to no team. -/
def remap (organization : String) (row : Json) : Json :=
  (row.setExisting "organization_id" (.str organization)).setExisting "team_id" .null

/-- What a line that is not blank announces or is. -/
inductive Content where
  /-- A table, by what should be its name. -/
  | table (name : Json)
  /-- A manifest or a summary. -/
  | note
  | row (row : Json)
  /-- Not an object. -/
  | bad

/-- How a line is taken. -/
def content (v : Json) : Content :=
  if v.isNull then .bad
  else if (v.field "__table__").truthy then .table (v.field "__table__")
  else if (v.field "__summary__").truthy || (v.field "__manifest__").truthy then .note
  else if v.isObject then .row v
  else .bad

/-- The table of a name that a bundle may write to. -/
def validTable (name : Json) : Except ImportError String :=
  match name with
  | .str table =>
    if table ∈ VALID_TABLES then .ok table
    else .error (.badRequest ("Unknown table in bundle: " ++ table))
  | _ => .error (.badRequest "Unknown table in bundle")

def readLine (organization : String) (p : Progress) : Line → Except ImportError Progress
  | .blank => .ok p
  | .malformed => .error .thrown
  | .json v =>
    match content v with
    | .bad => .error .thrown
    | .note => .ok p
    | .table name => do
      let p ← flush s p
      let table ← validTable name
      return { p with
        currentTable := some table
        session := { p.session with
          rowCounts := if (p.session.rowCounts table).isSome then p.session.rowCounts
            else p.session.rowCounts.add table 0 } }
    | .row row =>
      let p := { p with batch := p.batch ++ [remap organization row] }
      if BATCH_SIZE ≤ p.batch.length then flush s p else .ok p

/-- The transaction of an import: it reads the lines, and writes the rest. -/
def importLines (organization : String) (db : Database) (lines : List Line) :
    Except ImportError Session := do
  let p ← lines.foldlM (readLine s organization) { session := { db := db } }
  let p ← flush s p
  return p.session

end Lines

/-! ## Imports -/

/-- What an import returns. -/
structure ImportSummary where
  sutId : Json
  sutName : Json
  /-- Rows written, per table. -/
  rowCounts : Counts
  /-- Rows already present and left untouched, per table. -/
  skippedCounts : Counts
  /-- Rows discarded because their parent was missing, per table. -/
  droppedCounts : Counts
  /-- Whether the system was there. -/
  mergedIntoExisting : Bool

/-- An import that has gone through. -/
structure Imported where
  /-- What it returns. -/
  summary : ImportSummary
  /-- The rows that it has deleted. -/
  deleted : List (String × Stored)
  /-- The rows that it has written. -/
  added : List (String × Stored)

section Import

variable (s : Schema)

/-- The manifest of a bundle, in its first line. -/
def readManifest : List Line → Except ImportError Json
  | [] => .error (.badRequest "Empty bundle")
  | .json first :: _ =>
    let manifest := first.field "__manifest__"
    if first.isNull then .error .thrown
    else if !manifest.truthy then .error (.badRequest "Bundle missing manifest")
    else match manifest.field "schemaVersion" with
      | .num "1" =>
        if (manifest.field "sourceSutId").truthy then .ok manifest
        else .error (.badRequest "Bundle manifest missing sourceSutId")
      | _ => .error (.badRequest "Unsupported bundle schemaVersion")
  | _ :: _ => .error .thrown

/-- The systems with an id. -/
def existingSut (db : Database) (sutId : Json) : Except ImportError (List Stored) :=
  match s.param "systems_under_test" "id" sutId with
  | none => .error .database
  | some id => .ok ((db "systems_under_test").filter fun sut => cell sut "id" = some id)

/-- The systems of an organization with a name. -/
def nameClash (db : Database) (name : Json) (organization : String) :
    Except ImportError (List Stored) :=
  match s.param "systems_under_test" "organization_id" (.str organization) with
  | none => .error .database
  | some org =>
    if name.isNull then .ok []
    else match s.param "systems_under_test" "name" name with
      | none => .error .database
      | some text => .ok ((db "systems_under_test").filter fun sut =>
          cell sut "name" = some text && cell sut "organization_id" = some org)

/-- Refuses to split a system across two organizations, or to take the name of another one. Returns
    whether the system is there. -/
def checkSut (db : Database) (manifest : Json) (organization : String) :
    Except ImportError Bool := do
  match ← existingSut s db (manifest.field "sourceSutId") with
  | sut :: _ =>
    if cell sut "organization_id" = some organization then return true
    else throw (.conflict "SUT already exists in another organization.")
  | [] =>
    if (← nameClash s db (manifest.field "sutName") organization).isEmpty then return false
    else throw (.conflict "A different system of this name already exists in this organization.")

/-- What an import returns, and what it leaves of the target: what it has written is kept if it
    returns, and lost if it fails. -/
def importBundle (organization : String) (file : List Line) (db : Database) :
    Except ImportError Imported × Database :=
  let run : Except ImportError (Imported × Database) := do
    let manifest ← readManifest file
    let merged ← checkSut s db manifest organization
    let ses ← importLines s organization db file.tail
    return ({
      summary := {
        sutId := manifest.field "sourceSutId"
        sutName := manifest.field "sutName"
        rowCounts := ses.rowCounts
        skippedCounts := ses.skippedCounts
        droppedCounts := ses.droppedCounts
        mergedIntoExisting := merged }
      deleted := ses.deleted
      added := ses.added }, ses.db)
  match run with
  | .ok (imported, db') => (.ok imported, db')
  | .error e => (.error e, db)

end Import

end Perfana.SutTransfer
