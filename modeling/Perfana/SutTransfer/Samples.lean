import Perfana.SutTransfer.Arrivals

/-!
# Samples

The rows of a run in a table of samples, panels or change points are replaced as a whole.

`Replaced.of_importLines`: an import leaves the rows of other runs, and the rows of the bundle, if
these are of the runs that they name.
-/

namespace Perfana.SutTransfer

variable {s : Schema} {db db' : Database} {es : List (String × Json)} {ses ses' : Session}
  {table t : String} {rows : List Json} {row : Stored}

/-- A row of some runs in a table. -/
def isPurged (scopes : List (String × String)) (table : String) (row : Stored) : Bool :=
  scopes.any fun scope => scope.1 = table ∧ cell row PURGE_SCOPE_COLUMN = some scope.2

theorem isPurged_iff {scopes : List (String × String)} : isPurged scopes table row = true ↔
    ∃ run, (table, run) ∈ scopes ∧ cell row PURGE_SCOPE_COLUMN = some run := by
  rw [isPurged, List.any_eq_true]
  constructor
  · rintro ⟨⟨t, run⟩, hmem, h⟩
    obtain ⟨rfl, hcell⟩ := of_decide_eq_true h
    exact ⟨run, hmem, hcell⟩
  · rintro ⟨run, hmem, hcell⟩
    exact ⟨(table, run), hmem, decide_eq_true ⟨rfl, hcell⟩⟩

/-- The rows of tables that are purged are of the runs that they name. -/
def NameTheirRuns (s : Schema) (es : List (String × Json)) : Prop :=
  ∀ entry ∈ es, entry.1 ∈ PURGE_BY_RUN_TABLES → ∀ db stored,
    arrival s db entry.1 entry.2 = some stored →
      isPurged (purgeScopes [entry]) entry.1 stored = true

theorem mem_arrivals (h : (table, row) ∈ arrivals s db es) :
    ∃ json db', (table, json) ∈ es ∧ arrival s db' table json = some row := by
  induction es generalizing db with
  | nil => cases h
  | cons entry es ih =>
    have hrest : ∀ {db}, (table, row) ∈ arrivals s db es →
        ∃ json db', (table, json) ∈ entry :: es ∧ arrival s db' table json = some row := by
      intro db h
      obtain ⟨json, db', hmem, harrival⟩ := ih h
      exact ⟨json, db', List.mem_cons_of_mem _ hmem, harrival⟩
    rw [arrivals] at h
    cases harrival : arrival s db entry.1 entry.2 with
    | none =>
      rw [harrival] at h
      exact hrest h
    | some stored =>
      rw [harrival] at h
      dsimp only at h
      split at h
      · exact hrest h
      · rcases List.mem_cons.1 h with heq | h
        · cases heq
          exact ⟨entry.2, db, List.mem_cons_self, harrival⟩
        · exact hrest h

theorem isPurged_mono {scopes scopes' : List (String × String)} (hsub : scopes ⊆ scopes')
    (h : isPurged scopes table row = true) : isPurged scopes' table row = true := by
  obtain ⟨run, hmem, hcell⟩ := isPurged_iff.1 h
  exact isPurged_iff.2 ⟨run, hsub hmem, hcell⟩

/-- So what is written to them is of runs that are purged. -/
theorem NameTheirRuns.isPurged (h : NameTheirRuns s es) (ht : table ∈ PURGE_BY_RUN_TABLES)
    (hrow : row ∈ rowsOf table (arrivals s db es)) :
    Perfana.SutTransfer.isPurged (purgeScopes es) table row = true := by
  obtain ⟨json, db', hmem, harrival⟩ := mem_arrivals (mem_rowsOf.1 hrow)
  refine isPurged_mono ?_ (h (table, json) hmem ht db' row harrival)
  exact fun scope hscope => List.filterMap_subset _ (by simpa using hmem) hscope

/-- The rows of the runs that are named have been replaced. -/
def Replaced (s : Schema) (db : Database) (es : List (String × Json)) (ses : Session) : Prop :=
  NameTheirRuns s es → ∀ t ∈ PURGE_BY_RUN_TABLES, ses.db t =
    (db t).filter (fun row => !isPurged (purgeScopes es) t row) ++ rowsOf t ses.added

theorem ofRuns_freshScopes (h : Inv s db es ses) (ht : table ∈ PURGE_BY_RUN_TABLES)
    (hrow : isPurged (purgeScopes es) table row = false) :
    ofRuns (freshScopes ses table rows) row =
      isPurged (purgeScopes (rows.map fun row => (table, row))) table row := by
  rw [Bool.eq_iff_iff, ofRuns_iff, isPurged_iff]
  refine exists_congr fun run => ?_
  rw [mem_purgeScopes_batch, freshScopes, List.mem_filter, decide_eq_true_eq, h.purged]
  constructor
  · rintro ⟨⟨hscope, -⟩, hcell⟩
    exact ⟨⟨rfl, ht, hscope⟩, hcell⟩
  · rintro ⟨⟨-, -, hscope⟩, hcell⟩
    refine ⟨⟨hscope, fun hold => ?_⟩, hcell⟩
    rw [isPurged_iff.2 ⟨run, hold, hcell⟩] at hrow
    cases hrow

/-- The rows of runs that have been purged are not deleted again. -/
theorem ofRuns_freshScopes_of_isPurged (h : Inv s db es ses)
    (hrow : isPurged (purgeScopes es) table row = true) :
    ofRuns (freshScopes ses table rows) row = false := by
  obtain ⟨run, hrun, hcell⟩ := isPurged_iff.1 hrow
  rw [Bool.eq_false_iff, Ne, ofRuns_iff]
  rintro ⟨run', hrun', hcell'⟩
  obtain rfl : run = run' := Option.some.inj (hcell.symm.trans hcell')
  rw [freshScopes, List.mem_filter, decide_eq_true_eq] at hrun'
  exact hrun'.2 ((h.purged _).2 hrun)

theorem Replaced.insertBatch (hinv : Inv s db es ses) (h : Replaced s db es ses) {n d : ℕ}
    (hrows : rows ≠ []) (hbatch : insertBatch s ses table rows = .ok (ses', n, d)) :
    Replaced s db (es ++ rows.map fun row => (table, row)) ses' := by
  intro hnames t ht
  have hes : NameTheirRuns s es := fun entry hentry => hnames entry (List.mem_append_left _ hentry)
  have hold := h hes t ht
  have hadded : ∀ row ∈ rowsOf t ses.added, isPurged (purgeScopes es) t row = true := by
    rw [hinv.added]
    exact fun row hrow => hes.isPurged ht hrow
  obtain rfl := insertBatch_ok hrows hbatch
  rw [Session.write_added, added_beforeInsert, rowsOf_append, purgeScopes_append]
  have hsplit : ∀ row, isPurged (purgeScopes es ++
      purgeScopes (rows.map fun row => (table, row))) t row =
      (isPurged (purgeScopes es) t row ||
        isPurged (purgeScopes (rows.map fun row => (table, row))) t row) := fun row => by
    rw [isPurged, List.any_append]
    rfl
  by_cases htable : t = table
  · subst htable
    rw [Session.write_db_self, rowsOf_tagged, ← List.append_assoc, beforeInsert, if_pos ht,
      Session.purge_db_self, hold, List.filter_append, List.filter_filter]
    have hkept : (rowsOf t ses.added).filter (fun row => !ofRuns (freshScopes ses t rows) row) =
        rowsOf t ses.added := by
      rw [List.filter_eq_self]
      intro row hrow
      rw [ofRuns_freshScopes_of_isPurged hinv (hadded row hrow)]
      rfl
    rw [hkept]
    refine congrArg (· ++ _) (congrArg (· ++ _) (List.filter_congr fun row _ => ?_))
    rw [hsplit]
    cases hpurged : isPurged (purgeScopes es) t row with
    | true => simp
    | false => rw [ofRuns_freshScopes hinv ht hpurged]; simp
  · have hnone : ∀ row,
        isPurged (purgeScopes (rows.map fun row => (table, row))) t row = false := by
      intro row
      rw [Bool.eq_false_iff, Ne, isPurged_iff]
      rintro ⟨run, hrun, -⟩
      exact htable (mem_purgeScopes_batch.1 hrun).1
    rw [Session.write_db_of_ne htable, rowsOf_tagged_of_ne (Ne.symm htable), List.append_nil]
    have hdb : (beforeInsert ses table rows).db t = ses.db t := by
      rw [beforeInsert]
      split
      · exact Session.purge_db_of_ne htable
      · rfl
    rw [hdb, hold]
    refine congrArg (· ++ _) (List.filter_congr fun row _ => ?_)
    rw [hsplit, hnone, Bool.or_false]

theorem Replaced.isKept : IsKept s fun es ses => Inv s db es ses ∧ Replaced s db es ses where
  batch hrows h hbatch :=
    ⟨Inv.isKept.batch hrows h.1 hbatch, Replaced.insertBatch h.1 h.2 hrows hbatch⟩
  counts h rowCounts skippedCounts droppedCounts :=
    ⟨Inv.isKept.counts h.1 rowCounts skippedCounts droppedCounts, h.2⟩

theorem Replaced.of_importLines {organization : String} {lines : List Line}
    (h : importLines s organization db lines = .ok ses) :
    Replaced s db (entriesFrom organization none [] lines) ses := by
  refine (Perfana.SutTransfer.of_importLines Replaced.isKept ⟨Inv.start, ?_⟩ h).2
  intro _ t _
  have hnone : ∀ row, isPurged (purgeScopes []) t row = false := fun _ => rfl
  rw [List.filter_eq_self.2 fun row _ => by rw [hnone]; rfl]
  exact (List.append_nil _).symm

end Perfana.SutTransfer
