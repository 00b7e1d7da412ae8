import Perfana.Lib.Text
import Mathlib.Algebra.Group.Nat.Even
import Mathlib.Data.List.ReduceOption
import Mathlib.Data.Option.Basic

/-!
# Rows of fields with separators

A row is written as its fields with commas between them (`writeRow`); a field with a comma, a quote
or the end of a line is put in quotes, its own quotes doubled. A text is read character by
character (`parse`): white space around a field is dropped, and a blank line is no row.

* `Reads`: what a character can do to a reader;
* `parse_lines`: lines with even numbers of quotes are read one by one, and a text with an odd
  number is not read (`parse_of_odd`);
* `readLine_writeRow`: a row is read as it was written;
* `odd_of_writeRow`: the ends of lines in a row are in quotes.
-/

namespace Perfana.Csv

/-- A text, in characters. -/
abbrev Str := List Char

/-! ## Writing -/

/-- The field is quoted because of the character. -/
def isSpecial (c : Char) : Bool := c = ',' || c = '"' || c = '\r' || c = '\n'

/-- The text with its quotes doubled. -/
def double (v : Str) : Str := v.flatMap fun c => if c = '"' then ['"', '"'] else [c]

/-- A field as it is written. -/
def writeField (v : Str) : Str := if v.any isSpecial then '"' :: (double v ++ ['"']) else v

/-- A row as it is written. -/
def writeRow (fields : List Str) : Str := [','].intercalate (fields.map writeField)

/-! ## Reading -/

/-- Nothing but white space. -/
def isBlank (s : Str) : Bool := s.all Text.isStrWhiteSpace

/-- Where a reader is. -/
inductive Mode
  /-- In a field that is not quoted, or in the white space before a quote. -/
  | plain
  /-- Inside the quotes. -/
  | quoted
  /-- Behind a quote that ends the field, or is the first of two. -/
  | closed
  /-- In the white space behind the quotes. -/
  | done
  deriving DecidableEq

/-- What was read of a row: the fields, and what there is of the next one. -/
structure Cursor where
  mode : Mode
  field : Str
  fields : List Str

/-- The start of a row. -/
def Cursor.start : Cursor := ⟨.plain, [], []⟩

/-- The value of the field: white space around it is kept inside of quotes only. -/
def Cursor.value (cursor : Cursor) : Str :=
  if cursor.mode = .plain then Text.trim cursor.field else cursor.field

/-- The field ends. -/
def Cursor.endField (cursor : Cursor) : Cursor := ⟨.plain, [], cursor.fields ++ [cursor.value]⟩

/-- A character behind the quotes. -/
def Cursor.readAfter (cursor : Cursor) (c : Char) : Option Cursor :=
  if c = ',' then some cursor.endField
  else if Text.isStrWhiteSpace c then some { cursor with mode := .done }
  else none

/-- A character of a row. A quote is refused but where a field begins or ends, or where it is
    doubled. -/
def Cursor.read (cursor : Cursor) (c : Char) : Option Cursor :=
  match cursor.mode with
  | .plain =>
    if c = ',' then some cursor.endField
    else if c ≠ '"' then some { cursor with field := cursor.field ++ [c] }
    else if isBlank cursor.field then some ⟨.quoted, [], cursor.fields⟩
    else none
  | .quoted =>
    if c = '"' then some { cursor with mode := .closed }
    else some { cursor with field := cursor.field ++ [c] }
  | .closed =>
    if c = '"' then some ⟨.quoted, cursor.field ++ ['"'], cursor.fields⟩ else cursor.readAfter c
  | .done => cursor.readAfter c

/-- The row that ends, unless there is nothing in it. -/
def Cursor.record (cursor : Cursor) : Option (List Str) :=
  if cursor.mode = .plain ∧ cursor.fields = [] ∧ isBlank cursor.field then none
  else some (cursor.fields ++ [cursor.value])

/-- The rows that were read, and where the reader is in the next one. -/
structure Reader where
  cursor : Cursor
  records : List (List Str)

/-- A row ends with a line, unless the end of the line is quoted. -/
def Reader.step (reader : Reader) (c : Char) : Option Reader :=
  if c = '\n' ∧ reader.cursor.mode ≠ .quoted then
    some ⟨.start, reader.records ++ reader.cursor.record.toList⟩
  else (reader.cursor.read c).map fun cursor => ⟨cursor, reader.records⟩

/-- The text ends, which it cannot inside of quotes. -/
def Reader.finish (reader : Reader) : Option (List (List Str)) :=
  if reader.cursor.mode = .quoted then none
  else some (reader.records ++ reader.cursor.record.toList)

/-- The rows of a text. -/
def parse (text : Str) : Option (List (List Str)) :=
  (text.foldlM Reader.step ⟨.start, []⟩).bind Reader.finish

/-- The row of a line, if there is anything in it. -/
def readLine (line : Str) : Option (Option (List Str)) :=
  (line.foldlM Cursor.read .start).bind fun cursor =>
    if cursor.mode = .quoted then none else some cursor.record

/-! ## Quotes -/

/-- The number of quotes in a text. -/
def quotes (s : Str) : ℕ := s.count '"'

@[simp]
theorem quotes_nil : quotes [] = 0 := rfl

@[simp]
theorem quotes_cons (c : Char) (s : Str) :
    quotes (c :: s) = quotes s + if c = '"' then 1 else 0 := by
  simp [quotes, List.count_cons]

@[simp]
theorem quotes_append (s t : Str) : quotes (s ++ t) = quotes s + quotes t := List.count_append

/-- What a character can do to a cursor. -/
inductive Cursor.Reads : Cursor → Char → Cursor → Prop
  | comma {cursor : Cursor} (h : cursor.mode ≠ .quoted) : Reads cursor ',' cursor.endField
  | opens {field : Str} {fields : List Str} (h : isBlank field = true) :
    Reads ⟨.plain, field, fields⟩ '"' ⟨.quoted, [], fields⟩
  | closes {field : Str} {fields : List Str} :
    Reads ⟨.quoted, field, fields⟩ '"' ⟨.closed, field, fields⟩
  | doubled {field : Str} {fields : List Str} :
    Reads ⟨.closed, field, fields⟩ '"' ⟨.quoted, field ++ ['"'], fields⟩
  | plain {c : Char} {field : Str} {fields : List Str} (hcomma : c ≠ ',') (hquote : c ≠ '"') :
    Reads ⟨.plain, field, fields⟩ c ⟨.plain, field ++ [c], fields⟩
  | quoted {c : Char} {field : Str} {fields : List Str} (hquote : c ≠ '"') :
    Reads ⟨.quoted, field, fields⟩ c ⟨.quoted, field ++ [c], fields⟩
  | blank {c : Char} {mode : Mode} {field : Str} {fields : List Str}
    (hmode : mode = .closed ∨ mode = .done) (hc : Text.isStrWhiteSpace c = true) :
    Reads ⟨mode, field, fields⟩ c ⟨.done, field, fields⟩

theorem Cursor.reads_of_read {cursor cursor' : Cursor} {c : Char}
    (h : cursor.read c = some cursor') : cursor.Reads c cursor' := by
  obtain ⟨mode, field, fields⟩ := cursor
  cases mode with
  | plain =>
    simp only [Cursor.read] at h
    split_ifs at h with hcomma hquote hblank
    all_goals cases h
    · subst hcomma
      exact .comma (by simp)
    · exact .plain hcomma hquote
    · obtain rfl := not_not.1 hquote
      exact .opens hblank
  | quoted =>
    simp only [Cursor.read] at h
    split_ifs at h with hquote
    all_goals cases h
    · subst hquote
      exact .closes
    · exact .quoted hquote
  | closed =>
    simp only [Cursor.read, Cursor.readAfter] at h
    split_ifs at h with hquote hcomma hblank
    all_goals cases h
    · subst hquote
      exact .doubled
    · subst hcomma
      exact .comma (by simp)
    · exact .blank (.inl rfl) hblank
  | done =>
    simp only [Cursor.read, Cursor.readAfter] at h
    split_ifs at h with hcomma hblank
    all_goals cases h
    · subst hcomma
      exact .comma (by simp)
    · exact .blank (.inr rfl) hblank

theorem Cursor.mode_read {cursor cursor' : Cursor} {c : Char} (h : cursor.read c = some cursor') :
    cursor'.mode = .quoted ↔ (cursor.mode = .quoted ↔ c ≠ '"') := by
  cases Cursor.reads_of_read h with
  | comma hplain => simp [Cursor.endField, hplain]
  | opens hblank => simp
  | closes => simp
  | doubled => simp
  | plain hcomma hquote => simp [hquote]
  | quoted hquote => simp [hquote]
  | blank hmode hc =>
    have hquote : c ≠ '"' := by
      rintro rfl
      exact absurd hc (by decide)
    rcases hmode with rfl | rfl
    · simp [hquote]
    · simp [hquote]

theorem Reader.mode_step {reader reader' : Reader} {c : Char} (h : reader.step c = some reader') :
    reader'.cursor.mode = .quoted ↔ (reader.cursor.mode = .quoted ↔ c ≠ '"') := by
  rw [Reader.step] at h
  split_ifs at h with hend
  · cases h
    obtain ⟨rfl, hmode⟩ := hend
    simp [Cursor.start, hmode]
  · obtain ⟨cursor, hread, rfl⟩ := Option.map_eq_some_iff.1 h
    exact Cursor.mode_read hread

/-- A reader is inside of quotes if it has read an odd number of them. -/
theorem Reader.mode_foldlM {reader reader' : Reader} {s : Str}
    (h : s.foldlM Reader.step reader = some reader') :
    reader'.cursor.mode = .quoted ↔ (reader.cursor.mode = .quoted ↔ Even (quotes s)) := by
  induction s generalizing reader with
  | nil =>
    cases h
    simp
  | cons c s ih =>
    rw [List.foldlM_cons] at h
    obtain ⟨next, hstep, hrest⟩ := Option.bind_eq_some_iff.1 h
    rw [ih hrest, Reader.mode_step hstep, quotes_cons]
    by_cases hquote : c = '"'
    · simp only [hquote, ne_eq, not_true, iff_false, if_true, Nat.even_add_one]
      tauto
    · simp [hquote]

/-- A text with an odd number of quotes is not read. -/
theorem parse_of_odd {text : Str} (h : ¬ Even (quotes text)) : parse text = none := by
  rw [parse, Option.bind_eq_none_iff]
  intro reader hread
  rw [Reader.finish, if_pos]
  rw [Reader.mode_foldlM hread]
  simp [Cursor.start, h]

/-! ## Lines -/

/-- Within a line a reader does what it does within a row. -/
theorem foldlM_step {line : Str} (h : '\n' ∉ line) (reader : Reader) :
    line.foldlM Reader.step reader =
      (line.foldlM Cursor.read reader.cursor).map fun cursor => ⟨cursor, reader.records⟩ := by
  induction line generalizing reader with
  | nil => rfl
  | cons c line ih =>
    rw [List.mem_cons, not_or] at h
    have hc : ¬ (c = '\n' ∧ reader.cursor.mode ≠ .quoted) := fun hend => h.1 hend.1.symm
    rw [List.foldlM_cons, List.foldlM_cons, Reader.step, if_neg hc]
    cases reader.cursor.read c with
    | none => rfl
    | some cursor => exact ih h.2 _

/-- A line with an even number of quotes is a row of its own. -/
theorem foldlM_line {line : Str} (h : '\n' ∉ line) (heven : Even (quotes line)) (rest : Str)
    (records : List (List Str)) :
    (line ++ '\n' :: rest).foldlM Reader.step ⟨.start, records⟩ =
      (readLine line).bind fun record =>
        rest.foldlM Reader.step ⟨.start, records ++ record.toList⟩ := by
  have hmode : ∀ reader, line.foldlM Reader.step ⟨.start, records⟩ = some reader →
      reader.cursor.mode ≠ .quoted := fun reader hread => by
    rw [ne_eq, Reader.mode_foldlM hread]
    simp [Cursor.start, heven]
  rw [foldlM_step h] at hmode
  rw [List.foldlM_append, foldlM_step h, readLine]
  cases hread : line.foldlM Cursor.read .start with
  | none => rfl
  | some cursor =>
    have hcursor : cursor.mode ≠ .quoted := hmode ⟨cursor, records⟩ (by rw [hread]; rfl)
    simp only [Option.map_some, Option.bind_eq_bind, Option.bind_some, List.foldlM_cons,
      Reader.step, hcursor, ne_eq, not_false_eq_true, and_self, if_true, if_false]

theorem parse_line {line : Str} (h : '\n' ∉ line) (records : List (List Str)) :
    (line.foldlM Reader.step ⟨.start, records⟩).bind Reader.finish =
      (readLine line).map fun record => records ++ record.toList := by
  rw [foldlM_step h, readLine]
  cases line.foldlM Cursor.read .start with
  | none => rfl
  | some cursor =>
    simp only [Option.map_some, Option.bind_some, Reader.finish]
    split_ifs
    · rfl
    · rfl

/-- Lines with even numbers of quotes are read one by one. -/
theorem parse_lines {lines : List Str} (hne : lines ≠ [])
    (h : ∀ line ∈ lines, '\n' ∉ line ∧ Even (quotes line)) :
    parse (['\n'].intercalate lines) =
      (lines.mapM readLine).map fun records => records.reduceOption := by
  have hfrom : ∀ records : List (List Str),
      ((['\n'].intercalate lines).foldlM Reader.step ⟨.start, records⟩).bind Reader.finish =
        (lines.mapM readLine).map fun more => records ++ more.reduceOption := by
    induction lines with
    | nil => exact absurd rfl hne
    | cons line lines ih =>
      obtain ⟨hline, heven⟩ := h line List.mem_cons_self
      intro records
      cases lines with
      | nil =>
        rw [List.intercalate_singleton, parse_line hline]
        cases hread : readLine line with
        | none => simp [hread]
        | some record => cases record <;> simp [hread]
      | cons line' lines =>
        have hrest := ih (List.cons_ne_nil _ _) fun l hl => h l (List.mem_cons_of_mem _ hl)
        rw [List.intercalate_cons_cons, List.append_assoc, List.singleton_append,
          foldlM_line hline heven, List.mapM_cons]
        cases hread : readLine line with
        | none => simp
        | some record =>
          rw [Option.bind_some, hrest]
          cases (line' :: lines).mapM readLine with
          | none => simp
          | some more => cases record <;> simp
  rw [parse, hfrom []]
  rfl

/-! ## Reading what was written -/

theorem double_cons (c : Char) (v : Str) :
    double (c :: v) = (if c = '"' then ['"', '"'] else [c]) ++ double v := List.flatMap_cons

theorem not_special {v : Str} (h : v.any isSpecial = false) {c : Char} (hc : c ∈ v) :
    c ≠ ',' ∧ c ≠ '"' ∧ c ≠ '\r' ∧ c ≠ '\n' := by
  have hspecial := List.any_eq_false.1 h c hc
  simpa [isSpecial, and_assoc] using hspecial

/-- Where a reader is behind a field that was written. -/
def Cursor.behind (v : Str) (fields : List Str) : Cursor :=
  ⟨if v.any isSpecial then .closed else .plain, v, fields⟩

/-- The value that is read of a field that was written. -/
def readField (v : Str) : Str := if v.any isSpecial then v else Text.trim v

theorem foldlM_plain {v : Str} (h : ∀ c ∈ v, c ≠ ',' ∧ c ≠ '"') (field : Str)
    (fields : List Str) :
    v.foldlM Cursor.read ⟨.plain, field, fields⟩ = some ⟨.plain, field ++ v, fields⟩ := by
  induction v generalizing field with
  | nil => simp
  | cons c v ih =>
    obtain ⟨hcomma, hquote⟩ := h c List.mem_cons_self
    rw [List.foldlM_cons, Cursor.read]
    simp only [hcomma, if_false, ne_eq, hquote, not_false_eq_true, if_true]
    rw [Option.bind_eq_bind, Option.bind_some, ih fun c hc => h c (List.mem_cons_of_mem _ hc),
      List.append_assoc, List.singleton_append]

theorem foldlM_double (v field : Str) (fields : List Str) :
    (double v).foldlM Cursor.read ⟨.quoted, field, fields⟩ =
      some ⟨.quoted, field ++ v, fields⟩ := by
  induction v generalizing field with
  | nil => simp [double]
  | cons c v ih =>
    rw [double_cons, List.foldlM_append]
    have hc : (if c = '"' then ['"', '"'] else [c]).foldlM Cursor.read ⟨.quoted, field, fields⟩ =
        some ⟨.quoted, field ++ [c], fields⟩ := by
      by_cases hquote : c = '"'
      · rw [if_pos hquote, hquote]
        rfl
      · rw [if_neg hquote, List.foldlM_cons, Cursor.read]
        simp only [hquote, if_false]
        rfl
    rw [hc, Option.bind_eq_bind, Option.bind_some, ih, List.append_assoc, List.singleton_append]

theorem foldlM_writeField (v : Str) (fields : List Str) :
    (writeField v).foldlM Cursor.read ⟨.plain, [], fields⟩ = some (.behind v fields) := by
  by_cases h : v.any isSpecial = true
  · rw [writeField, if_pos h, List.foldlM_cons]
    have hopen : Cursor.read ⟨.plain, [], fields⟩ '"' = some ⟨.quoted, [], fields⟩ := rfl
    rw [hopen, Option.bind_eq_bind, Option.bind_some, List.foldlM_append, foldlM_double,
      Option.bind_eq_bind, Option.bind_some, Cursor.behind, if_pos h, List.nil_append]
    rfl
  · have hplain : ∀ c ∈ v, c ≠ ',' ∧ c ≠ '"' := fun c hc =>
      let special := not_special (Bool.eq_false_iff.2 h) hc
      ⟨special.1, special.2.1⟩
    rw [writeField, if_neg h, foldlM_plain hplain, Cursor.behind, if_neg h, List.nil_append]

theorem value_behind (v : Str) (fields : List Str) :
    (Cursor.behind v fields).value = readField v := by
  rw [Cursor.value, Cursor.behind, readField]
  by_cases h : v.any isSpecial = true
  · simp [h]
  · simp [h]

theorem mode_behind (v : Str) (fields : List Str) : (Cursor.behind v fields).mode ≠ .quoted := by
  rw [Cursor.behind]
  split_ifs
  · simp
  · simp

theorem read_comma_behind (v : Str) (fields : List Str) :
    (Cursor.behind v fields).read ',' = some ⟨.plain, [], fields ++ [readField v]⟩ := by
  have hend : (Cursor.behind v fields).read ',' = some (Cursor.behind v fields).endField := by
    rw [Cursor.behind]
    split_ifs
    · rfl
    · rfl
  rw [hend, Cursor.endField, value_behind]
  rfl

theorem foldlM_writeRow (v : Str) (vs : List Str) (fields : List Str) :
    ∃ last init, v :: vs = init ++ [last] ∧
      (writeRow (v :: vs)).foldlM Cursor.read ⟨.plain, [], fields⟩ =
        some (.behind last (fields ++ init.map readField)) := by
  induction vs generalizing v fields with
  | nil =>
    refine ⟨v, [], rfl, ?_⟩
    rw [writeRow, List.map_singleton, List.intercalate_singleton, foldlM_writeField]
    simp
  | cons w vs ih =>
    obtain ⟨last, init, hsplit, hread⟩ := ih w (fields ++ [readField v])
    refine ⟨last, v :: init, by rw [hsplit]; rfl, ?_⟩
    rw [writeRow, List.map_cons, List.map_cons, List.intercalate_cons_cons, ← List.map_cons,
      ← writeRow, List.append_assoc, List.foldlM_append, foldlM_writeField, Option.bind_eq_bind,
      Option.bind_some, List.singleton_append, List.foldlM_cons, read_comma_behind,
      Option.bind_eq_bind, Option.bind_some, hread]
    simp

/-- The only rows of which nothing is read are those with a single field, a blank one. -/
theorem readLine_writeRow {fields : List Str} (hne : fields ≠ [])
    (hblank : ∀ v, fields = [v] → ¬ isBlank (writeField v) = true) :
    readLine (writeRow fields) = some (some (fields.map readField)) := by
  obtain ⟨v, vs, rfl⟩ := List.exists_cons_of_ne_nil hne
  obtain ⟨last, init, hsplit, hread⟩ := foldlM_writeRow v vs []
  rw [readLine, Cursor.start, hread, Option.bind_some, if_neg (mode_behind _ _), Cursor.record,
    if_neg, value_behind, hsplit]
  · simp [Cursor.behind]
  · rintro ⟨hmode, hfields, hfield⟩
    obtain rfl : init = [] := by simpa [Cursor.behind] using hfields
    refine hblank last hsplit ?_
    have hplain : ¬ last.any isSpecial = true := fun h => by simp [Cursor.behind, h] at hmode
    rwa [writeField, if_neg hplain]

/-! ## Lines of a row -/

theorem readLine_of_isBlank {line : Str} (h : isBlank line = true) :
    readLine line = some none := by
  have hplain : ∀ c ∈ line, c ≠ ',' ∧ c ≠ '"' := by
    intro c hc
    have hblank := List.all_eq_true.1 h c hc
    constructor
    · rintro rfl
      exact absurd hblank (by decide)
    · rintro rfl
      exact absurd hblank (by decide)
  rw [readLine, Cursor.start, foldlM_plain hplain, Option.bind_some]
  simp [Cursor.record, h]

theorem even_quotes_double (v : Str) : Even (quotes (double v)) := by
  induction v with
  | nil => exact Even.zero
  | cons c v ih =>
    rw [double_cons, quotes_append]
    split_ifs with hquote
    · exact Even.add (by decide) ih
    · simpa [hquote] using ih

theorem even_quotes_writeField (v : Str) : Even (quotes (writeField v)) := by
  rw [writeField]
  split_ifs with h
  · simp only [quotes_cons, quotes_append, quotes_nil, if_true]
    have heven := even_quotes_double v
    rw [Nat.zero_add, Nat.add_assoc]
    exact heven.add (by decide)
  · have hnone : quotes v = 0 := List.count_eq_zero_of_not_mem fun hmem =>
      (not_special (Bool.eq_false_iff.2 h) hmem).2.1 rfl
    rw [hnone]
    exact Even.zero

theorem even_quotes_writeRow (fields : List Str) : Even (quotes (writeRow fields)) := by
  induction fields with
  | nil => exact Even.zero
  | cons v fields ih =>
    cases fields with
    | nil =>
      rw [writeRow, List.map_singleton, List.intercalate_singleton]
      exact even_quotes_writeField v
    | cons w fields =>
      rw [writeRow, List.map_cons, List.map_cons, List.intercalate_cons_cons, ← List.map_cons,
        ← writeRow, quotes_append, quotes_append]
      exact ((even_quotes_writeField v).add (by decide)).add ih

/-- A doubled text has the ends of lines of the text. -/
theorem double_eq_append {v x y : Str} (h : double v = x ++ '\n' :: y) :
    ∃ v₁ v₂, v = v₁ ++ '\n' :: v₂ ∧ x = double v₁ ∧ y = double v₂ := by
  induction v generalizing x with
  | nil => exact absurd h (by simp [double])
  | cons c v ih =>
    rw [double_cons] at h
    by_cases hquote : c = '"'
    · rw [if_pos hquote] at h
      obtain ⟨x', rfl⟩ : ∃ x', x = '"' :: '"' :: x' := by
        cases x with
        | nil => exact absurd (List.cons.inj h).1 (by decide)
        | cons d x =>
          cases x with
          | nil => exact absurd (List.cons.inj (List.cons.inj h).2).1 (by decide)
          | cons e x =>
            obtain ⟨hd, hrest⟩ := List.cons.inj h
            exact ⟨x, by rw [← hd, ← (List.cons.inj hrest).1]⟩
      have hrest : double v = x' ++ '\n' :: y := (List.cons.inj (List.cons.inj h).2).2
      obtain ⟨v₁, v₂, rfl, rfl, rfl⟩ := ih hrest
      exact ⟨c :: v₁, v₂, rfl, by rw [double_cons, if_pos hquote]; rfl, rfl⟩
    · rw [if_neg hquote] at h
      cases x with
      | nil =>
        obtain ⟨rfl, rfl⟩ := List.cons.inj h
        exact ⟨[], v, rfl, rfl, rfl⟩
      | cons d x =>
        obtain ⟨rfl, hrest⟩ := List.cons.inj h
        obtain ⟨v₁, v₂, rfl, rfl, rfl⟩ := ih hrest
        exact ⟨c :: v₁, v₂, rfl, by rw [double_cons, if_neg hquote]; rfl, rfl⟩

/-- A field in which a line ends is quoted, and so is what it has of the lines. -/
theorem writeField_eq_append {v a b : Str} (h : writeField v = a ++ '\n' :: b) :
    ∃ v₁ v₂, v = v₁ ++ '\n' :: v₂ ∧ a = '"' :: double v₁ ∧ b = double v₂ ++ ['"'] := by
  rw [writeField] at h
  split_ifs at h with hspecial
  · cases a with
    | nil => exact absurd (List.cons.inj h).1 (by decide)
    | cons d a =>
      obtain ⟨rfl, hrest⟩ := List.cons.inj h
      rcases List.append_eq_append_iff.1 hrest with ⟨z, rfl, hz⟩ | ⟨z, hdouble, hz⟩
      · cases z with
        | nil => exact absurd (List.cons.inj hz).1 (by decide)
        | cons e z => exact absurd (List.cons.inj hz).2 (by simp)
      · cases z with
        | nil => exact absurd (List.cons.inj hz).1 (by decide)
        | cons e z =>
          obtain ⟨rfl, rfl⟩ := List.cons.inj hz
          obtain ⟨v₁, v₂, hv, rfl, rfl⟩ := double_eq_append hdouble
          exact ⟨v₁, v₂, hv, rfl, rfl⟩
  · have hmem : '\n' ∈ v := h ▸ List.mem_append_right _ List.mem_cons_self
    exact absurd rfl (not_special (Bool.eq_false_iff.2 hspecial) hmem).2.2.2

/-- The ends of lines in a row that was written are in quotes. -/
theorem odd_of_writeRow {fields : List Str} {a b : Str} (h : writeRow fields = a ++ '\n' :: b) :
    ¬ Even (quotes a) := by
  have hfield : ∀ {v a b : Str}, writeField v = a ++ '\n' :: b → ¬ Even (quotes a) := by
    intro v a b h
    obtain ⟨v₁, v₂, -, rfl, -⟩ := writeField_eq_append h
    simpa [Nat.even_add_one] using even_quotes_double v₁
  induction fields generalizing a with
  | nil => exact absurd h (by simp [writeRow])
  | cons v fields ih =>
    cases fields with
    | nil =>
      rw [writeRow, List.map_singleton, List.intercalate_singleton] at h
      exact hfield h
    | cons w fields =>
      rw [writeRow, List.map_cons, List.map_cons, List.intercalate_cons_cons, ← List.map_cons,
        ← writeRow, List.append_assoc, List.singleton_append] at h
      rcases List.append_eq_append_iff.1 h with ⟨z, rfl, hz⟩ | ⟨z, hv, hz⟩
      · cases z with
        | nil => exact absurd (List.cons.inj hz).1 (by decide)
        | cons e z =>
          obtain ⟨rfl, hrest⟩ := List.cons.inj hz
          have hodd := ih hrest
          have heven := even_quotes_writeField v
          simp only [quotes_append, quotes_cons, Char.reduceEq, if_false, Nat.add_zero,
            Nat.even_add]
          tauto
      · cases z with
        | nil => exact absurd (List.cons.inj hz).1 (by decide)
        | cons e z =>
          obtain ⟨rfl, -⟩ := List.cons.inj hz
          exact hfield hv

/-- A written row does not end in half of the end of a line. -/
theorem getLast?_writeRow (fields : List Str) : (writeRow fields).getLast? ≠ some '\r' := by
  have hfield : ∀ v : Str, (writeField v).getLast? ≠ some '\r' := by
    intro v
    rw [writeField]
    split_ifs with h
    · simp [List.getLast?_cons, List.getLast?_append]
    · intro hlast
      exact (not_special (Bool.eq_false_iff.2 h) (List.mem_of_getLast? hlast)).2.2.1 rfl
  induction fields with
  | nil => simp [writeRow]
  | cons v fields ih =>
    cases fields with
    | nil =>
      rw [writeRow, List.map_singleton, List.intercalate_singleton]
      exact hfield v
    | cons w fields =>
      rw [writeRow, List.map_cons, List.map_cons, List.intercalate_cons_cons, ← List.map_cons,
        ← writeRow, List.getLast?_append, List.getLast?_append]
      cases hlast : (writeRow (w :: fields)).getLast? with
      | none => simp
      | some c =>
        rw [hlast] at ih
        simpa using ih

end Perfana.Csv
