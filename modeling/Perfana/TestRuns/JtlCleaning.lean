import Perfana.Lib.CsvParts
import Perfana.TestRuns.JtlScenarios

/-!
# Lines of a JMeter file that are dropped

Threads of JMeter may write on one line at once. Before a file is read as one of rows of fields, its
lines are therefore looked at one by one, and those that cannot be rows are dropped
(`removeCorruptedLines`): a line has to have an even number of quotes and as many commas outside of
them as the header, and a quote that closes a field has to stand at its end.

* `badClosing_writeRow`: a row that was written looks as if a quote were in the middle of a field
  if and only if a value has a quote before a character that is kept as it is;
* `isKeptLine_iff`: a line is kept if it is blank, or has nothing of a corrupted one;
* `mem_gather`: what is read of a line that is kept.
-/

namespace Perfana.JtlCleaning

open Csv Jtl

/-! ## The parser -/

/-- A turn of the loop over the characters of a line: the count, and whether they are quoted. -/
def countTurn (state : ℕ × Bool) (ch : Char) : ℕ × Bool :=
  if ch = '"' then (state.1, !state.2)
  else if ch = ',' && !state.2 then (state.1 + 1, state.2)
  else state

/-- The commas outside of quoted fields. -/
def countUnquotedCommas (line : Str) : ℕ := (line.foldl countTurn (0, false)).1

/-- `BAD_CLOSING`: a quote after a character of a field, with another one behind it. -/
def badClosing : Str → Bool
  | a :: b :: c :: rest =>
    (b = '"' && a ∉ [',', '\r', '\n'] && c ∉ [',', '\r', '\n', '"']) || badClosing (b :: c :: rest)
  | _ => false

/-- A line without the first half of its end. -/
def stripReturn (line : Str) : Str :=
  if line.getLast? = some '\r' then line.dropLast else line

/-- The lines of a text: `split(/\r?\n/)`. -/
def splitLines (content : Str) : List Str :=
  let lines := content.splitOn '\n'
  lines.dropLast.map stripReturn ++ lines.getLast?.toList

/-- The line has an odd number of quotes, a quote that closes no field, or not as many commas as
    the header. -/
def isCorrupted (expectedCommas : ℕ) (line : Str) : Bool :=
  line.count '"' % 2 ≠ 0 || badClosing line || countUnquotedCommas line ≠ expectedCommas

/-- The line is kept: it is blank, or else not corrupted. -/
def isKeptLine (expectedCommas : ℕ) (line : Str) : Bool :=
  Text.trim line = [] || !isCorrupted expectedCommas line

/-- Drops the corrupted lines behind the header. -/
def removeCorruptedLines (content : Str) : Str :=
  match splitLines content with
  | [] => content
  | header :: lines =>
    ['\n'].intercalate (header :: lines.filter (isKeptLine (countUnquotedCommas header)))

/-- A row as a record, by the columns of the header. -/
def toRecord (columns row : List Str) : Record :=
  (columns.zip row).map fun p => (String.ofList p.1, String.ofList p.2)

/-- The records of a file, unless it cannot be read. -/
def csvRecords (content : Str) : Option (List Record) :=
  (parse (removeCorruptedLines content)).map fun rows => rows.tail.map (toRecord (rows.headD []))

/-- The scenarios of a file. -/
def parseCsv (clock : String → ℤ × ℤ) (includeSubTransactions : Bool) (scenarioName : String)
    (csvContent : Str) : Option (List ParsedScenario) :=
  (csvRecords csvContent).map (parseRecords clock includeSubTransactions scenarioName)

/-! ## Commas and quotes of a line -/

theorem foldl_countTurn (s : Str) (k : ℕ) (inside : Bool) :
    (s.foldl countTurn (k, inside)).1 = k + separators inside s := by
  induction s generalizing k inside with
  | nil => rfl
  | cons c s ih =>
    rw [List.foldl_cons, countTurn, separators]
    by_cases hquote : c = '"'
    · subst hquote
      have hcomma : ('"' = ',') = False := by decide
      simp only [if_true, ih, hcomma, false_and, if_false, Nat.add_zero]
    · by_cases hcomma : c = ','
      · subst hcomma
        cases inside with
        | false =>
          simp only [hquote, if_false, Bool.not_false, decide_true, Bool.and_self, if_true, ih,
            and_self]
          omega
        | true => simp [hquote, ih]
      · simp [hquote, hcomma, ih]

theorem countUnquotedCommas_eq (line : Str) :
    countUnquotedCommas line = separators false line := by
  rw [countUnquotedCommas, foldl_countTurn, Nat.zero_add]

/-- Each quote in the value stands before a comma, a return or a quote, or at the end of a line or
    of the value. -/
def quotesEnd : Str → Bool
  | [] => true
  | [_] => true
  | a :: b :: rest =>
    (a ≠ '"' || b ∈ [',', '\r', '\n', '"']) && quotesEnd (b :: rest)

/-- The quote after a character that is none of a field opens one. -/
theorem badClosing_comma (s : Str) : badClosing (',' :: s) = badClosing s := by
  cases s with
  | nil => rfl
  | cons b s =>
    cases s with
    | nil => rfl
    | cons c s => simp [badClosing]

theorem badClosing_cons_of_ne {b : Char} (hb : b ≠ '"') (a : Char) (s : Str) :
    badClosing (a :: b :: s) = badClosing (b :: s) := by
  cases s with
  | nil => rfl
  | cons c s => simp [badClosing, hb]

/-- The end of a field and what follows it. -/
def IsRest (rest : Str) : Prop := rest = [] ∨ ∃ more, rest = ',' :: more

theorem badClosing_cons_rest {rest : Str} (h : IsRest rest) (a : Char) :
    badClosing (a :: rest) = badClosing rest := by
  rcases h with rfl | ⟨more, rfl⟩
  · rfl
  · rw [badClosing_cons_of_ne (by decide)]

theorem badClosing_quote_rest {rest : Str} (h : IsRest rest) (a : Char) :
    badClosing (a :: '"' :: rest) = badClosing rest := by
  rcases h with rfl | ⟨more, rfl⟩
  · rfl
  · rw [badClosing, badClosing_cons_of_ne (by decide)]
    simp

theorem quotesEnd_cons_of_ne {c : Char} (hc : c ≠ '"') (value : Str) :
    quotesEnd (c :: value) = quotesEnd value := by
  cases value with
  | nil => rfl
  | cons d value => simp [quotesEnd, hc]

/-- Inside of a quoted field the pattern looks at what follows the second of two quotes. -/
theorem badClosing_double {rest : Str} (h : IsRest rest) (value : Str) (a : Char) :
    badClosing (a :: (double value ++ '"' :: rest)) =
      (!quotesEnd value || badClosing rest) := by
  induction value generalizing a with
  | nil => exact badClosing_quote_rest h a
  | cons c value ih =>
    rw [double_cons]
    by_cases hquote : c = '"'
    · subst hquote
      rw [if_pos rfl, List.append_assoc, List.cons_append, List.cons_append, List.nil_append,
        badClosing]
      have hfirst : ∀ x xs, badClosing ('"' :: '"' :: x :: xs) =
          (!(x ∈ [',', '\r', '\n', '"'] : Bool) || badClosing ('"' :: x :: xs)) := by
        intro x xs
        simp [badClosing]
      have hnone : ('"' ∈ [',', '\r', '\n', '"'] : Bool) = true := by decide
      cases value with
      | nil =>
        have hnext := ih '"'
        rw [double, List.flatMap_nil, List.nil_append] at hnext ⊢
        rw [hfirst, hnone, hnext]
        simp [quotesEnd]
      | cons d value =>
        have hnext := ih '"'
        rw [double_cons] at hnext ⊢
        by_cases hd : d = '"'
        · subst hd
          rw [if_pos rfl, List.append_assoc, List.cons_append] at hnext ⊢
          rw [hfirst, hnone, hnext]
          simp [quotesEnd]
        · rw [if_neg hd, List.append_assoc, List.cons_append] at hnext ⊢
          rw [hfirst, hnext]
          simp [quotesEnd, Bool.or_assoc]
    · rw [if_neg hquote, List.append_assoc, List.singleton_append, badClosing_cons_of_ne hquote,
        ih, quotesEnd_cons_of_ne hquote]

theorem badClosing_append_of_not_mem {rest value : Str} (h : IsRest rest) (hvalue : '"' ∉ value)
    (a : Char) : badClosing (a :: (value ++ rest)) = badClosing rest := by
  induction value generalizing a with
  | nil => exact badClosing_cons_rest h a
  | cons c value ih =>
    rw [List.mem_cons, not_or] at hvalue
    rw [List.cons_append, badClosing_cons_of_ne (Ne.symm hvalue.1), ih hvalue.2]

theorem quotesEnd_of_not_mem {value : Str} (h : '"' ∉ value) : quotesEnd value = true := by
  induction value with
  | nil => rfl
  | cons c value ih =>
    rw [List.mem_cons, not_or] at h
    rw [quotesEnd_cons_of_ne (Ne.symm h.1), ih h.2]

theorem badClosing_field {rest : Str} (h : IsRest rest) (value : Str) :
    badClosing (',' :: (writeField value ++ rest)) = (!quotesEnd value || badClosing rest) := by
  rw [writeField]
  split_ifs with hspecial
  · rw [badClosing_comma, List.cons_append, List.append_assoc, List.singleton_append,
      badClosing_double h]
  · have hnone : '"' ∉ value := fun hmem =>
      (not_special (Bool.eq_false_iff.2 hspecial) hmem).2.1 rfl
    rw [badClosing_append_of_not_mem h hnone, quotesEnd_of_not_mem hnone]
    rfl

/-- The pattern matches a row if a quote in one of the values closes a field. -/
theorem badClosing_writeRow (fields : List Str) :
    badClosing (writeRow fields) = fields.any fun value => !quotesEnd value := by
  induction fields with
  | nil => rfl
  | cons v fields ih =>
    cases fields with
    | nil =>
      have hfield := badClosing_field (.inl rfl) v
      rw [List.append_nil] at hfield
      rw [writeRow, List.map_singleton, List.intercalate_singleton, ← badClosing_comma, hfield]
      simp [badClosing]
    | cons w fields =>
      rw [writeRow, List.map_cons, List.map_cons, List.intercalate_cons_cons, ← List.map_cons,
        ← writeRow, List.append_assoc, List.singleton_append, ← badClosing_comma,
        badClosing_field (.inr ⟨_, rfl⟩), badClosing_comma, ih]
      rfl

/-! ## Physical lines -/

theorem mem_splitOn {c : Char} {s x : Str} (h : x ∈ s.splitOn c) :
    s = x ∨ (∃ b, s = x ++ c :: b) ∨ (∃ a, s = a ++ c :: x) ∨
      ∃ a b, s = a ++ c :: (x ++ c :: b) := by
  have hparts : ∀ ls : List Str, x ∈ ls → [c].intercalate ls = x ∨
      (∃ b, [c].intercalate ls = x ++ c :: b) ∨ (∃ a, [c].intercalate ls = a ++ c :: x) ∨
        ∃ a b, [c].intercalate ls = a ++ c :: (x ++ c :: b) := by
    intro ls hx
    induction ls with
    | nil => cases hx
    | cons l ls ih =>
      cases ls with
      | nil =>
        rw [List.intercalate_singleton]
        exact .inl (List.mem_singleton.1 hx).symm
      | cons l' ls =>
        rw [List.intercalate_cons_cons, List.append_assoc, List.singleton_append]
        rcases List.mem_cons.1 hx with rfl | hx
        · exact .inr (.inl ⟨_, rfl⟩)
        · rcases ih hx with heq | ⟨b, heq⟩ | ⟨a, heq⟩ | ⟨a, b, heq⟩
          · exact .inr (.inr (.inl ⟨l, by rw [heq]⟩))
          · exact .inr (.inr (.inr ⟨l, b, by rw [heq]⟩))
          · exact .inr (.inr (.inl ⟨l ++ c :: a, by rw [heq]; simp⟩))
          · exact .inr (.inr (.inr ⟨l ++ c :: a, b, by rw [heq]; simp⟩))
  have hsplit := @List.intercalate_splitOn _ s _ _ c
  rw [← hsplit]
  exact hparts _ h

theorem not_mem_of_mem_splitOn {c : Char} {s x : Str} (h : x ∈ s.splitOn c) : c ∉ x := by
  induction s generalizing x with
  | nil =>
    rw [List.splitOn_nil, List.mem_singleton] at h
    rw [h]
    exact List.not_mem_nil
  | cons d s ih =>
    rw [List.splitOn_cons_eq_if_modifyHead] at h
    split_ifs at h with hd
    · rcases List.mem_cons.1 h with rfl | h
      · exact List.not_mem_nil
      · exact ih h
    · obtain ⟨y, ys, hys⟩ := List.exists_cons_of_ne_nil (List.splitOn_ne_nil c s)
      rw [hys] at h ih
      rcases List.mem_cons.1 h with rfl | h
      · rw [List.mem_cons, not_or]
        exact ⟨fun heq => hd (by simp [heq]), ih List.mem_cons_self⟩
      · exact ih (List.mem_cons_of_mem _ h)

theorem stripReturn_append (s : Str) : stripReturn (s ++ ['\r']) = s := by
  rw [stripReturn, if_pos (by simp), List.dropLast_concat]

/-- A line is what is left of it, or has the return that was stripped. -/
theorem eq_stripReturn (s : Str) : s = stripReturn s ∨ s = stripReturn s ++ ['\r'] := by
  rw [stripReturn]
  split_ifs with h
  · have hne : s ≠ [] := by
      rintro rfl
      cases h
    rw [List.getLast?_eq_getLast_of_ne_nil hne, Option.some_inj] at h
    exact .inr (by rw [← h, List.dropLast_append_getLast hne])
  · exact .inl rfl

@[simp]
theorem quotes_stripReturn (s : Str) : quotes (stripReturn s) = quotes s := by
  rcases eq_stripReturn s with h | h
  · rw [← h]
  · conv_rhs => rw [h]
    simp

theorem trim_stripReturn (s : Str) : Text.trim (stripReturn s) = Text.trim s := by
  rcases eq_stripReturn s with h | h
  · rw [← h]
  · conv_rhs => rw [h, Text.trim_append_blank (by simp [Text.isStrWhiteSpace])]

theorem separators_stripReturn (s : Str) :
    separators false (stripReturn s) = separators false s := by
  rcases eq_stripReturn s with h | h
  · rw [← h]
  · conv_rhs => rw [h, separators_append]
    have hreturn : ∀ inside, separators inside ['\r'] = 0 := fun inside => by simp [separators]
    rw [hreturn, Nat.add_zero]

theorem commas_parts_return (inside : Bool) (s : Str) :
    (parts inside (s ++ ['\r'])).map commas = (parts inside s).map commas := by
  induction s generalizing inside with
  | nil => simp [parts]
  | cons c s ih =>
    rw [List.cons_append, parts, parts]
    split_ifs with hcomma hquote
    · rw [List.map_cons, List.map_cons, ih]
    all_goals
      have hhead : ∀ l l' : List Str, l.map commas = l'.map commas →
          (l.modifyHead (c :: ·)).map commas = (l'.modifyHead (c :: ·)).map commas := by
        intro l l' hl
        cases l with
        | nil =>
          cases l' with
          | nil => rfl
          | cons y ys => cases hl
        | cons x xs =>
          cases l' with
          | nil => cases hl
          | cons y ys =>
            obtain ⟨hxy, hxs⟩ := List.cons.inj hl
            simp [hxy, hxs]
      exact hhead _ _ (ih _)

theorem commas_parts_stripReturn (s : Str) :
    (parts false (stripReturn s)).map commas = (parts false s).map commas := by
  rcases eq_stripReturn s with h | h
  · rw [← h]
  · conv_rhs => rw [h, commas_parts_return]

theorem stripReturn_subset (s : Str) : stripReturn s ⊆ s := by
  rw [stripReturn]
  split_ifs
  · exact List.dropLast_subset s
  · exact List.Subset.refl s

/-- The return before the end of a line, if lines have one. -/
def returnOf (returns : Bool) : Str := if returns then ['\r'] else []

/-- The lines that a text is split into. -/
def linesOf (returns : Bool) (text : Str) : List Str :=
  ((text ++ returnOf returns).splitOn '\n').map stripReturn

/-- A text on one line is one line. -/
theorem linesOf_eq_singleton {returns : Bool} {text : Str} (h : '\n' ∉ text) :
    linesOf returns text = [stripReturn (text ++ returnOf returns)] := by
  have hreturn : '\n' ∉ text ++ returnOf returns := by
    rw [List.mem_append, not_or, returnOf]
    refine ⟨h, ?_⟩
    split_ifs
    · decide
    · decide
  rw [linesOf, List.splitOn_eq_singleton hreturn, List.map_singleton]

theorem stripReturn_writeRow (returns : Bool) (fields : List Str) :
    stripReturn (writeRow fields ++ returnOf returns) = writeRow fields := by
  rw [returnOf]
  split_ifs
  · exact stripReturn_append _
  · rw [List.append_nil, stripReturn, if_neg (getLast?_writeRow fields)]

/-! ## What is read of a line -/

/-- The row of a line that is kept. -/
def gather (expectedCommas : ℕ) (line : Str) : List (List Str) :=
  if isKeptLine expectedCommas line then ((readLine line).getD none).toList else []

theorem trim_eq_nil_iff_isBlank {s : Str} : Text.trim s = [] ↔ Csv.isBlank s = true := by
  rw [Text.trim_eq_nil_iff, Csv.isBlank, List.all_eq_true]

theorem quotes_of_isBlank {s : Str} (h : Csv.isBlank s = true) : quotes s = 0 :=
  List.count_eq_zero_of_not_mem fun hmem => absurd (List.all_eq_true.1 h _ hmem) (by decide)

/-- A line is kept if it is blank, or has nothing of a corrupted one. -/
theorem isKeptLine_iff {n : ℕ} {line : Str} :
    isKeptLine n line = true ↔ Csv.isBlank line = true ∨
      Even (quotes line) ∧ badClosing line = false ∧ separators false line = n := by
  simp only [isKeptLine, isCorrupted, Bool.or_eq_true, decide_eq_true_eq, trim_eq_nil_iff_isBlank,
    Bool.not_eq_true', Bool.or_eq_false_iff, decide_eq_false_iff_not, not_not,
    countUnquotedCommas_eq, and_assoc, Nat.even_iff, quotes]

theorem even_of_isKeptLine {n : ℕ} {line : Str} (h : isKeptLine n line = true) :
    Even (quotes line) := by
  rcases isKeptLine_iff.1 h with h | h
  · rw [quotes_of_isBlank h]
    exact Even.zero
  · exact h.1

theorem gather_of_odd {n : ℕ} {line : Str} (h : ¬ Even (quotes line)) : gather n line = [] := by
  rw [gather, if_neg fun hkept => h (even_of_isKeptLine hkept)]

theorem gather_of_isBlank {n : ℕ} {line : Str} (h : Csv.isBlank line = true) :
    gather n line = [] := by
  rw [gather, readLine_of_isBlank h]
  split_ifs
  · rfl
  · rfl

/-- A row that is read has the commas of its line, which is not blank. -/
theorem mem_gather {n : ℕ} {line : Str} {fields : List Str} (h : fields ∈ gather n line) :
    readLine line = some (some fields) ∧ badClosing line = false ∧ Csv.isBlank line = false ∧
      fields.length = n + 1 := by
  rw [gather] at h
  split_ifs at h with hkept
  · have hread : readLine line = some (some fields) := by
      cases hline : readLine line with
      | none => simp [hline] at h
      | some record =>
        rw [hline] at h
        simp only [Option.getD_some, Option.mem_toList] at h
        rw [h]
    have hblank : Csv.isBlank line = false := by
      rw [← Bool.not_eq_true]
      intro hblank
      rw [readLine_of_isBlank hblank] at hread
      cases hread
    have hclean := (isKeptLine_iff.1 hkept).resolve_left (by simp [hblank])
    have hlength := congrArg List.length (commas_readLine hread)
    rw [List.length_map, List.length_map, length_parts, hclean.2.2] at hlength
    exact ⟨hread, hclean.2.1, hblank, hlength.symm⟩
  · cases h

end Perfana.JtlCleaning
