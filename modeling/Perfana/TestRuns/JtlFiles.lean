import Perfana.Lib.MapM
import Perfana.TestRuns.JtlLegible

/-!
# The records of a JMeter file

A file is a header and rows, and lines between them on which threads wrote at once (`JtlFile`).

* `eq_of_flatMap_eq_map`: if all that is read are the rows, each is read in its place;
* `csvRecords_of_newline`: nothing is read if a column has the end of a line;
* `keepsRows_iff`: every row is read as one record, and the lines between them change nothing, if
  and only if the header is on one line and each row is legible.
-/

namespace Perfana.JtlCleaning

open Csv Jtl

/-! ## Files -/

/-- What there is in a file behind the header. -/
inductive FileItem
  | row (fields : List Str)
  /-- A line on which threads wrote at once. -/
  | interleaved (line : Str)

/-- The item is written as it should be: a row has a field for each column, and a line on which
    threads wrote at once has an odd number of quotes or the wrong number of commas. -/
def FileItem.IsWritten (columns : ℕ) : FileItem → Prop
  | row fields => fields.length = columns
  | interleaved line =>
    '\n' ∉ line ∧ (line.count '"' % 2 = 1 ∨ countUnquotedCommas line + 1 ≠ columns)

/-- A file: the columns, and the items. A header with nothing in it would be no line. -/
structure JtlFile where
  columns : List Str
  items : List FileItem
  /-- The lines end with a return. -/
  returns : Bool
  columns_ne_nil : columns ≠ []
  not_isBlank : ∀ name, columns = [name] → Text.trim name ≠ []
  isWritten : ∀ item ∈ items, item.IsWritten columns.length

/-- The text of an item. -/
def FileItem.text : FileItem → Str
  | row fields => writeRow fields
  | interleaved line => line

/-- The fields of an item that is a row. -/
def FileItem.fields? : FileItem → Option (List Str)
  | row fields => some fields
  | interleaved _ => none

/-- The fields of the rows. -/
def JtlFile.rows (file : JtlFile) : List (List Str) := file.items.filterMap FileItem.fields?

/-- A text with the end of its line. -/
def JtlFile.endLine (file : JtlFile) (text : Str) : Str :=
  text ++ (if file.returns then ['\r', '\n'] else ['\n'])

def JtlFile.content (file : JtlFile) : Str :=
  file.endLine (writeRow file.columns) ++ file.items.flatMap fun item => file.endLine item.text

/-- The file without the lines that are no rows. -/
def JtlFile.healthy (file : JtlFile) : JtlFile :=
  { file with
    items := file.rows.map .row
    isWritten := fun item hitem => by
      obtain ⟨fields, hfields, rfl⟩ := List.mem_map.1 hitem
      obtain ⟨item, hmem, heq⟩ := List.mem_filterMap.1 hfields
      cases item with
      | row fields' => exact Option.some_inj.1 heq ▸ file.isWritten _ hmem
      | interleaved line => cases heq }

/-- A record without the white space around its columns and values. -/
def trimRecord (record : Record) : Record :=
  record.map fun p =>
    (String.ofList (Text.trim p.1.toList), String.ofList (Text.trim p.2.toList))

/-- Every row is read as one record with its values, up to the white space around them, and lines
    that are no rows change nothing. -/
def JtlFile.KeepsRows (file : JtlFile) : Prop :=
  (csvRecords file.content).map (List.map trimRecord) =
      some (file.rows.map fun row =>
        toRecord (file.columns.map Text.trim) (row.map Text.trim)) ∧
    csvRecords file.content = csvRecords file.healthy.content

/-- The header is on one line, and the rows are legible. -/
def JtlFile.IsLegible (file : JtlFile) : Prop :=
  (∀ name ∈ file.columns, '\n' ∉ name) ∧ ∀ row ∈ file.rows, JtlCleaning.IsLegible row

/-! ## Rows in their places -/

section Places

variable {α β : Type*} {f : α → List β} {e : α → β}

/-- Where rows give as many results as there are rows, one of them gives the result in its place. -/
theorem exists_place {rows : List α} {s t : ℕ} (hle : s ≤ t)
    (hlength : s + (rows.flatMap f).length = t + rows.length) (hne : rows ≠ []) :
    ∃ before row after, rows = before ++ row :: after ∧
      s + (before.flatMap f).length ≤ t + before.length ∧
      t + before.length < s + (before.flatMap f).length + (f row).length := by
  induction rows generalizing s t with
  | nil => exact absurd rfl hne
  | cons row rows ih =>
    by_cases hplace : t < s + (f row).length
    · exact ⟨[], row, rows, rfl, by simpa using hle, by simpa using hplace⟩
    · rw [List.flatMap_cons, List.length_append, List.length_cons] at hlength
      have hrows : rows ≠ [] := by
        rintro rfl
        rw [List.flatMap_nil, List.length_nil] at hlength
        omega
      obtain ⟨before, r, after, rfl, hbefore, hafter⟩ := @ih (s + (f row).length) (t + 1)
        (by omega) (by omega) hrows
      refine ⟨row :: before, r, after, rfl, ?_, ?_⟩
      · rw [List.flatMap_cons, List.length_append, List.length_cons]
        omega
      · rw [List.flatMap_cons, List.length_append, List.length_cons]
        omega

/-- If all results together are those of the rows, and a row that gives its own gives no other, then
    each row gives its own. -/
theorem eq_of_flatMap_eq_map {rows : List α} (h : rows.flatMap f = rows.map e)
    (hself : ∀ row ∈ rows, e row ∈ f row → f row = [e row]) :
    ∀ row ∈ rows, f row = [e row] := by
  induction hn : rows.length using Nat.strong_induction_on generalizing rows with
  | _ n ih =>
    intro r hr
    have hlength := congrArg List.length h
    rw [List.length_map] at hlength
    obtain ⟨before, row, after, rfl, hbefore, hafter⟩ := @exists_place _ _ f rows 0 0 le_rfl
      (by omega) (List.ne_nil_of_mem hr)
    rw [List.flatMap_append, List.flatMap_cons, List.map_append, List.map_cons] at h
    -- The result in the place of the row is its own.
    have hmem : e row ∈ f row := by
      have hget := congrArg (fun l => l[before.length]?) h
      simp only [List.getElem?_append, List.length_map, lt_irrefl, if_false, Nat.sub_self,
        List.getElem?_cons_zero] at hget
      rw [if_neg (by omega), if_pos (by omega)] at hget
      exact List.mem_of_getElem? hget
    have hrow := hself row (List.mem_append_right _ List.mem_cons_self) hmem
    have hcount : (before.flatMap f).length = (before.map e).length := by
      rw [hrow, List.length_singleton] at hafter
      rw [List.length_map]
      omega
    obtain ⟨hleft, hright⟩ := List.append_inj h hcount
    rw [hrow, List.singleton_append] at hright
    rw [List.length_append, List.length_cons] at hn
    rcases List.mem_append.1 hr with hr | hr
    · exact ih _ (by omega) hleft (fun r hr => hself r (List.mem_append_left _ hr)) rfl r hr
    · rcases List.mem_cons.1 hr with rfl | hr
      · exact hrow
      · exact ih _ (by omega) (List.cons.inj hright).2
          (fun r hr => hself r (List.mem_append_right _ (List.mem_cons_of_mem _ hr))) rfl r hr

end Places

/-! ## Lines of a file -/

theorem endLine_eq (file : JtlFile) (text : Str) :
    file.endLine text = (text ++ returnOf file.returns) ++ ['\n'] := by
  rw [JtlFile.endLine, returnOf]
  split_ifs
  · simp
  · simp

theorem splitLines_endLine (file : JtlFile) (texts : List Str) :
    splitLines (texts.flatMap file.endLine) = texts.flatMap (linesOf file.returns) ++ [[]] := by
  have hsplit : (texts.flatMap file.endLine).splitOn '\n' =
      texts.flatMap (fun text => (text ++ returnOf file.returns).splitOn '\n') ++ [[]] := by
    induction texts with
    | nil => rfl
    | cons text texts ih =>
      rw [List.flatMap_cons, endLine_eq, List.append_assoc, List.singleton_append,
        List.splitOn_append_cons_self, ih, List.flatMap_cons, List.append_assoc]
  rw [splitLines, hsplit]
  simp only [List.dropLast_concat, List.getLast?_concat, Option.toList_some, List.map_flatMap]
  rfl

theorem splitLines_content (file : JtlFile) :
    splitLines file.content = linesOf file.returns (writeRow file.columns) ++
      (file.items.flatMap fun item => linesOf file.returns item.text) ++ [[]] := by
  have hcontent : file.content =
      (writeRow file.columns :: file.items.map FileItem.text).flatMap file.endLine := by
    rw [JtlFile.content, List.flatMap_cons, List.flatMap_map]
  rw [hcontent, splitLines_endLine, List.flatMap_cons, List.flatMap_map]

/-- A line on which threads wrote at once is dropped, or blank. -/
theorem isBlank_of_interleaved {returns : Bool} {n : ℕ} {text line : Str}
    (h : (FileItem.interleaved text).IsWritten (n + 1)) (hline : line ∈ linesOf returns text)
    (hkept : isKeptLine n line = true) : Csv.isBlank line = true := by
  obtain ⟨hnewline, hcorrupt⟩ := h
  rw [linesOf_eq_singleton hnewline, List.mem_singleton] at hline
  have hreturn : quotes (returnOf returns) = 0 ∧
      ∀ inside, separators inside (returnOf returns) = 0 := by
    rw [returnOf]
    split_ifs
    · exact ⟨rfl, fun inside => by simp [separators]⟩
    · exact ⟨rfl, fun inside => rfl⟩
  have hquotes : quotes line = quotes text := by
    rw [hline, quotes_stripReturn, quotes_append, hreturn.1, Nat.add_zero]
  have hcount : separators false line = separators false text := by
    rw [hline, separators_stripReturn, separators_append, hreturn.2, Nat.add_zero]
  refine (isKeptLine_iff.1 hkept).resolve_right ?_
  rintro ⟨heven, -, hseparators⟩
  rcases hcorrupt with hodd | hne
  · rw [hquotes, Nat.even_iff] at heven
    exact absurd (heven.symm.trans hodd) (by decide)
  · rw [countUnquotedCommas_eq, ← hcount, hseparators] at hne
    exact hne rfl

theorem rowsOf_interleaved {returns : Bool} {n : ℕ} {line : Str}
    (h : (FileItem.interleaved line).IsWritten (n + 1)) : rowsOf returns n line = [] := by
  refine List.flatMap_eq_nil_iff.2 fun l hl => ?_
  by_cases hkept : isKeptLine n l = true
  · exact gather_of_isBlank (isBlank_of_interleaved h hl hkept)
  · rw [gather, if_neg hkept]

/-! ## What is read of a file -/

theorem reduceOption_of_mapM {lines : List Str} {records : List (Option (List Str))}
    (h : lines.mapM readLine = some records) :
    records.reduceOption = lines.flatMap fun line => ((readLine line).getD none).toList := by
  induction lines generalizing records with
  | nil =>
    cases h
    rfl
  | cons line lines ih =>
    rw [List.mapM_cons] at h
    obtain ⟨record, hread, hrest⟩ := Option.bind_eq_some_iff.1 h
    obtain ⟨more, hmore, hcons⟩ := Option.bind_eq_some_iff.1 hrest
    cases hcons
    rw [List.flatMap_cons, ← ih hmore, hread]
    cases record with
    | none => rfl
    | some fields => rfl

theorem flatMap_filter_isKeptLine (n : ℕ) (lines : List Str) :
    ((lines.filter (isKeptLine n)).flatMap fun line => ((readLine line).getD none).toList) =
      lines.flatMap (gather n) := by
  induction lines with
  | nil => rfl
  | cons line lines ih =>
    rw [List.filter_cons, List.flatMap_cons, ← ih, gather]
    split_ifs
    · rfl
    · rfl

theorem newline_not_mem_linesOf {returns : Bool} {text line : Str}
    (h : line ∈ linesOf returns text) : '\n' ∉ line := by
  obtain ⟨x, hx, rfl⟩ := List.mem_map.1 h
  exact fun hmem => not_mem_of_mem_splitOn hx (stripReturn_subset x hmem)

theorem readLine_columns (file : JtlFile) :
    readLine (writeRow file.columns) = some (some (file.columns.map readField)) := by
  refine readLine_writeRow file.columns_ne_nil fun name hcolumns hblank => ?_
  refine file.not_isBlank name hcolumns (Text.trim_eq_nil_iff.2 fun c hc => ?_)
  exact List.all_eq_true.1 hblank c (subset_writeField name hc)

/-- The lines behind the header. -/
def JtlFile.itemLines (file : JtlFile) : List Str :=
  (file.items.flatMap fun item => linesOf file.returns item.text) ++ [[]]

/-- The rows that are read of the lines behind the header. -/
def JtlFile.readRows (file : JtlFile) : List (List Str) :=
  file.rows.flatMap fun row => rowsOf file.returns (row.length - 1) (writeRow row)

theorem mem_rows {file : JtlFile} {row : List Str} :
    row ∈ file.rows ↔ .row row ∈ file.items := by
  rw [JtlFile.rows, List.mem_filterMap]
  constructor
  · rintro ⟨item, hitem, heq⟩
    cases item with
    | row fields => exact Option.some_inj.1 heq ▸ hitem
    | interleaved line => cases heq
  · exact fun h => ⟨_, h, rfl⟩

theorem length_of_mem_rows {file : JtlFile} {row : List Str} (h : row ∈ file.rows) :
    row.length = file.columns.length := file.isWritten _ (mem_rows.1 h)

theorem ne_nil_of_mem_rows {file : JtlFile} {row : List Str} (h : row ∈ file.rows) : row ≠ [] := by
  rintro rfl
  exact file.columns_ne_nil (List.eq_nil_of_length_eq_zero (length_of_mem_rows h).symm)

theorem length_columns_pos (file : JtlFile) : file.columns.length - 1 + 1 = file.columns.length :=
  Nat.sub_add_cancel (List.length_pos_of_ne_nil file.columns_ne_nil)

theorem flatMap_gather_itemLines (file : JtlFile) :
    file.itemLines.flatMap (gather (file.columns.length - 1)) = file.readRows := by
  have hitems : ∀ items : List FileItem,
      (∀ item ∈ items, item.IsWritten file.columns.length) →
      (items.flatMap fun item => rowsOf file.returns (file.columns.length - 1) item.text) =
        (items.filterMap FileItem.fields?).flatMap fun row =>
          rowsOf file.returns (row.length - 1) (writeRow row) := by
    intro items hwritten
    induction items with
    | nil => rfl
    | cons item items ih =>
      have hrest := ih fun i hi => hwritten i (List.mem_cons_of_mem _ hi)
      have hitem := hwritten item List.mem_cons_self
      rw [List.flatMap_cons, hrest]
      cases item with
      | row fields =>
        have hlength : fields.length = file.columns.length := hitem
        simp only [List.filterMap_cons, FileItem.fields?, List.flatMap_cons, hlength,
          FileItem.text]
      | interleaved line =>
        rw [← length_columns_pos file] at hitem
        simp only [List.filterMap_cons, FileItem.fields?, FileItem.text, rowsOf_interleaved hitem,
          List.nil_append]
  have hlast : gather (file.columns.length - 1) [] = [] := gather_of_isBlank rfl
  rw [JtlFile.itemLines, List.flatMap_append, List.flatMap_singleton, hlast, List.append_nil,
    List.flatMap_assoc]
  exact hitems file.items file.isWritten

theorem removeCorruptedLines_content {file : JtlFile} (h : ∀ name ∈ file.columns, '\n' ∉ name) :
    removeCorruptedLines file.content = ['\n'].intercalate (writeRow file.columns ::
      file.itemLines.filter (isKeptLine (file.columns.length - 1))) := by
  have hcount : countUnquotedCommas (writeRow file.columns) = file.columns.length - 1 := by
    have hseparators := separators_writeRow file.columns_ne_nil
    rw [countUnquotedCommas_eq]
    omega
  rw [removeCorruptedLines, splitLines_content,
    linesOf_eq_singleton (newline_not_mem_writeRow h), stripReturn_writeRow, List.append_assoc,
    List.singleton_append]
  simp only [hcount]
  rfl

/-- A file with its header on one line is read line by line. -/
theorem parse_content {file : JtlFile} (h : ∀ name ∈ file.columns, '\n' ∉ name) :
    parse (removeCorruptedLines file.content) =
      ((writeRow file.columns :: file.itemLines.filter
        (isKeptLine (file.columns.length - 1))).mapM readLine).map fun records =>
          records.reduceOption := by
  rw [removeCorruptedLines_content h]
  refine parse_lines (List.cons_ne_nil _ _) fun line hline => ?_
  rcases List.mem_cons.1 hline with rfl | hline
  · exact ⟨newline_not_mem_writeRow h, even_quotes_writeRow _⟩
  · obtain ⟨hmem, hkept⟩ := List.mem_filter.1 hline
    refine ⟨?_, even_of_isKeptLine hkept⟩
    rcases List.mem_append.1 hmem with hmem | hmem
    · obtain ⟨item, -, hitem⟩ := List.mem_flatMap.1 hmem
      exact newline_not_mem_linesOf hitem
    · rw [List.mem_singleton.1 hmem]
      exact List.not_mem_nil

/-- What is read of a file, if it can be read. -/
theorem csvRecords_of_some {file : JtlFile} (h : ∀ name ∈ file.columns, '\n' ∉ name)
    {records : List (Option (List Str))}
    (hread : (writeRow file.columns :: file.itemLines.filter
      (isKeptLine (file.columns.length - 1))).mapM readLine = some records) :
    csvRecords file.content =
      some (file.readRows.map (toRecord (file.columns.map readField))) := by
  rw [csvRecords, parse_content h, hread, Option.map_some, Option.map_some,
    reduceOption_of_mapM hread, List.flatMap_cons, readLine_columns, flatMap_filter_isKeptLine,
    flatMap_gather_itemLines]
  rfl

theorem csvRecords_of_isLegible {file : JtlFile} (h : ∀ name ∈ file.columns, '\n' ∉ name)
    (hrows : ∀ row ∈ file.rows, ReadsAsIs file.returns row) :
    csvRecords file.content =
      some (file.readRows.map (toRecord (file.columns.map readField))) := by
  have hread : ∀ line ∈ writeRow file.columns :: file.itemLines.filter
      (isKeptLine (file.columns.length - 1)), (readLine line).isSome = true := by
    intro line hline
    rcases List.mem_cons.1 hline with rfl | hline
    · rw [readLine_columns]
      rfl
    · obtain ⟨hmem, hkept⟩ := List.mem_filter.1 hline
      rcases List.mem_append.1 hmem with hmem | hmem
      · obtain ⟨item, hitem, hin⟩ := List.mem_flatMap.1 hmem
        cases item with
        | row fields =>
          have hfields := mem_rows.2 hitem
          refine (hrows fields hfields).2 line hin ?_
          rwa [length_of_mem_rows hfields]
        | interleaved text =>
          have hwritten := file.isWritten _ hitem
          rw [← length_columns_pos file] at hwritten
          rw [readLine_of_isBlank (isBlank_of_interleaved hwritten hin hkept)]
          rfl
      · rw [List.mem_singleton.1 hmem]
        rfl
  obtain ⟨records, hrecords⟩ := exists_mapM hread
  exact csvRecords_of_some h hrecords

theorem quotes_intercalate (lines : List Str) :
    quotes (['\n'].intercalate lines) = (lines.map quotes).sum := by
  induction lines with
  | nil => rfl
  | cons line lines ih =>
    cases lines with
    | nil => simp
    | cons line' lines =>
      rw [List.intercalate_cons_cons, List.append_assoc, quotes_append, List.singleton_append,
        quotes_cons, ih, List.map_cons, List.sum_cons]
      simp

theorem even_sum_quotes {lines : List Str} (h : ∀ line ∈ lines, Even (quotes line)) :
    Even (lines.map quotes).sum := by
  induction lines with
  | nil => exact Even.zero
  | cons line lines ih =>
    rw [List.map_cons, List.sum_cons]
    exact (h line List.mem_cons_self).add (ih fun l hl => h l (List.mem_cons_of_mem _ hl))

/-- Where a column has the end of a line, the quotes of the header are not closed. -/
theorem csvRecords_of_newline {file : JtlFile} (h : ¬ ∀ name ∈ file.columns, '\n' ∉ name) :
    csvRecords file.content = none := by
  have hmem : '\n' ∈ writeRow file.columns := by
    simp only [not_forall, not_not] at h
    obtain ⟨name, hname, hin⟩ := h
    exact writeField_subset_writeRow hname (subset_writeField name hin)
  obtain ⟨a, b, htext, ha⟩ := List.eq_append_cons_of_mem hmem
  have hodd := odd_of_writeRow htext
  have hlines : ∃ rest, splitLines file.content = stripReturn a :: rest := by
    have hsplit := splitLines_content file
    have htail : a ++ '\n' :: b ++ returnOf file.returns =
        a ++ '\n' :: (b ++ returnOf file.returns) := by simp
    rw [linesOf, htext, htail, List.splitOn_append_cons_self,
      List.splitOn_eq_singleton ha] at hsplit
    exact ⟨_, hsplit⟩
  obtain ⟨rest, hlines⟩ := hlines
  rw [csvRecords, Option.map_eq_none_iff, parse_of_odd]
  rw [removeCorruptedLines, hlines]
  simp only [quotes_intercalate, List.map_cons, List.sum_cons, quotes_stripReturn]
  have heven : Even ((rest.filter
      (isKeptLine (countUnquotedCommas (stripReturn a)))).map quotes).sum := by
    refine even_sum_quotes fun line hline => even_of_isKeptLine (List.mem_filter.1 hline).2
  rw [Nat.even_add]
  tauto

theorem toRecord_inj {columns fields row : List Str} (hfields : fields.length = columns.length)
    (hrow : row.length = columns.length) (h : toRecord columns fields = toRecord columns row) :
    fields = row := by
  have hvalues : ∀ l : List Str, l.length = columns.length →
      (toRecord columns l).map (fun p => p.2.toList) = l := by
    intro l hl
    rw [toRecord, List.map_map]
    have hsnd : ((columns.zip l).map Prod.snd) = l := List.map_snd_zip (by omega)
    conv_rhs => rw [← hsnd]
    exact List.map_congr_left fun p _ => String.toList_ofList
  rw [← hvalues fields hfields, h, hvalues row hrow]

theorem trimRecord_toRecord (columns row : List Str) :
    trimRecord (toRecord columns row) = toRecord (columns.map Text.trim) (row.map Text.trim) := by
  rw [trimRecord, toRecord, toRecord, List.map_map, List.zip_map, List.map_map]
  refine List.map_congr_left fun p _ => ?_
  simp

theorem map_trim_readField (columns : List Str) :
    (columns.map readField).map Text.trim = columns.map Text.trim := by
  rw [List.map_map]
  exact List.map_congr_left fun v _ => trim_readField v

/-- The rows are read in their places if and only if they are legible. -/
theorem map_trimRecord_readRows_iff (file : JtlFile) :
    (file.readRows.map (toRecord (file.columns.map readField))).map trimRecord =
        file.rows.map (fun row => toRecord (file.columns.map Text.trim) (row.map Text.trim)) ↔
      ∀ row ∈ file.rows, IsLegible row := by
  have hrecord : ∀ fields : List Str, trimRecord (toRecord (file.columns.map readField) fields) =
      toRecord (file.columns.map Text.trim) (fields.map Text.trim) := fun fields => by
    rw [trimRecord_toRecord, map_trim_readField]
  have hlegible : ∀ row ∈ file.rows,
      toRecord (file.columns.map Text.trim) (row.map Text.trim) ∈
        (rowsOf file.returns (row.length - 1) (writeRow row)).map (fun fields =>
          toRecord (file.columns.map Text.trim) (fields.map Text.trim)) → IsLegible row := by
    intro row hrow hmem
    obtain ⟨fields, hfields, heq⟩ := List.mem_map.1 hmem
    obtain ⟨line, -, hgather⟩ := List.mem_flatMap.1 hfields
    obtain ⟨-, -, -, hlength⟩ := mem_gather hgather
    have hcolumns := length_of_mem_rows hrow
    have hne := ne_nil_of_mem_rows hrow
    have hpos := List.length_pos_of_ne_nil hne
    exact isLegible_of_mem hne hfields
      (toRecord_inj (by simp; omega) (by simp; omega) heq)
  have hreads : ∀ row ∈ file.rows, IsLegible row →
      (rowsOf file.returns (row.length - 1) (writeRow row)).map (fun fields =>
        toRecord (file.columns.map Text.trim) (fields.map Text.trim)) =
      [toRecord (file.columns.map Text.trim) (row.map Text.trim)] := by
    intro row hrow hlegible
    obtain ⟨⟨fields, hrows, htrim⟩, -⟩ :=
      readsAsIs_of_isLegible file.returns (ne_nil_of_mem_rows hrow) hlegible
    rw [hrows, List.map_singleton, htrim]
  rw [JtlFile.readRows, List.map_map, List.map_flatMap]
  simp only [Function.comp_def, hrecord]
  constructor
  · intro h row hrow
    have hall := eq_of_flatMap_eq_map h fun row hrow hmem =>
      hreads row hrow (hlegible row hrow hmem)
    exact hlegible row hrow (hall row hrow ▸ List.mem_singleton_self _)
  · intro h
    exact (List.flatMap_congr fun row hrow => hreads row hrow (h row hrow)).trans
      List.map_eq_flatMap.symm

/-- All rows of a file are kept, and lines on which threads wrote at once change nothing, if and
    only if its header is on one line and its rows are legible. -/
theorem keepsRows_iff (file : JtlFile) : file.KeepsRows ↔ file.IsLegible := by
  by_cases hheader : ∀ name ∈ file.columns, '\n' ∉ name
  · constructor
    · rintro ⟨hrecords, -⟩
      refine ⟨hheader, ?_⟩
      rw [← map_trimRecord_readRows_iff]
      obtain ⟨records, hread, htrim⟩ := Option.map_eq_some_iff.1 hrecords
      have hparsed := hread
      rw [csvRecords, parse_content hheader, Option.map_map] at hparsed
      obtain ⟨lines, hlines, -⟩ := Option.map_eq_some_iff.1 hparsed
      rw [csvRecords_of_some hheader hlines] at hread
      rw [Option.some_inj.1 hread, htrim]
    · intro h
      have hreads : ∀ row ∈ file.rows, ReadsAsIs file.returns row := fun row hrow =>
        readsAsIs_of_isLegible file.returns (ne_nil_of_mem_rows hrow) (h.2 row hrow)
      have hrows : file.healthy.rows = file.rows := by
        rw [JtlFile.rows, JtlFile.healthy]
        simp [List.filterMap_map, Function.comp_def, FileItem.fields?]
      have hhealthy : csvRecords file.healthy.content =
          some (file.readRows.map (toRecord (file.columns.map readField))) := by
        have hread := @csvRecords_of_isLegible file.healthy hheader
          (fun row hrow => hreads row (hrows ▸ hrow))
        rw [hread, JtlFile.readRows, hrows]
        rfl
      refine ⟨?_, ?_⟩
      · rw [csvRecords_of_isLegible hheader hreads, Option.map_some,
          (map_trimRecord_readRows_iff file).2 h.2]
      · rw [csvRecords_of_isLegible hheader hreads, hhealthy]
  · refine iff_of_false (fun h => ?_) fun h => hheader h.1
    have hrecords := h.1
    rw [csvRecords_of_newline hheader] at hrecords
    cases hrecords

/-- A file with a failed sample, the message of which has the value. -/
def failedSample (message : String) : JtlFile :=
  { columns := ["label".toList, "failureMessage".toList]
    items := [.row ["GET /pay".toList, message.toList]]
    returns := false
    columns_ne_nil := List.cons_ne_nil _ _
    not_isBlank := fun name h => absurd (List.cons.inj h).2 (List.cons_ne_nil _ _)
    isWritten := fun item h => by
      rw [List.mem_singleton.1 h]
      rfl }

/-- A message on two lines is lost, and so is one with a word in quotes. -/
theorem not_keepsRows :
    ¬ (failedSample "expected 200\ngot 500").KeepsRows ∧
      ¬ (failedSample "expected \"ok\" in the body").KeepsRows := by
  refine ⟨fun h => ?_, fun h => ?_⟩
  · exact absurd h.1 (by decide +kernel)
  · exact absurd h.1 (by decide +kernel)

end Perfana.JtlCleaning
