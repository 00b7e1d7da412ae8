import Perfana.TestRuns.JtlCleaning

/-!
# Rows of a JMeter file that are kept

A value may have the end of a line in it, or a quote before a character that is kept as it is. Its
row is dropped then, for its lines are no rows of their own (`between_of_mem_rowsOf`).

* `isLegible_of_mem`: a row that is read as it is has values on one line, the quotes of which end
  no field (`IsLegible`);
* `readsAsIs_of_isLegible`: such a row is read as it is.
-/

namespace Perfana.JtlCleaning

open Csv Jtl

/-! ## Rows that are kept -/

/-- A value of which all is on one line that is neither the first nor the last one, with nothing in
    it that has to be quoted. -/
def IsInnerLine (value : Str) : Prop :=
  ∃ before line after, value = before ++ '\n' :: (line ++ '\n' :: after) ∧
    Csv.isBlank before = true ∧ Csv.isBlank after = true ∧ Csv.isBlank line = false ∧
    '\n' ∉ line ∧ ',' ∉ line ∧ '"' ∉ line

/-- The values are on one line, which is not blank, and no quote in them closes a field. Of a single
    value it is enough that the line of its own that it has is read. -/
def IsLegible (row : List Str) : Prop :=
  ((∀ value ∈ row, '\n' ∉ value ∧ quotesEnd value = true) ∧
      ∀ value, row = [value] → Text.trim value ≠ [] ∨ '\r' ∈ value) ∨
    ∃ value, row = [value] ∧ IsInnerLine value

/-! ## What is read of a row -/

/-- The rows that are read of a text. -/
def rowsOf (returns : Bool) (n : ℕ) (text : Str) : List (List Str) :=
  (linesOf returns text).flatMap (gather n)

/-- Where the end of a line is in a row that is written with a return behind it. -/
theorem exists_of_append_returnOf {returns : Bool} {text a b : Str}
    (h : text ++ returnOf returns = a ++ '\n' :: b) :
    ∃ b', text = a ++ '\n' :: b' ∧ b = b' ++ returnOf returns := by
  rcases List.append_eq_append_iff.1 h with ⟨z, -, hz⟩ | ⟨z, htext, hz⟩
  · have hmem : '\n' ∈ returnOf returns := hz ▸ List.mem_append_right _ List.mem_cons_self
    rw [returnOf] at hmem
    split_ifs at hmem
    · exact absurd hmem (by decide)
    · cases hmem
  · cases z with
    | nil =>
      have hmem : '\n' ∈ returnOf returns := by
        rw [List.nil_append] at hz
        exact hz ▸ List.mem_cons_self
      rw [returnOf] at hmem
      split_ifs at hmem
      · exact absurd hmem (by decide)
      · cases hmem
    | cons c z =>
      obtain ⟨rfl, hb⟩ := List.cons.inj hz
      exact ⟨z, htext, hb⟩

/-- Of a row on several lines nothing is read but lines between two others of it. -/
theorem between_of_mem_rowsOf {returns : Bool} {n : ℕ} {row fields : List Str}
    (hrow : '\n' ∈ writeRow row) (h : fields ∈ rowsOf returns n (writeRow row)) :
    ∃ a p b, writeRow row = a ++ '\n' :: (p ++ '\n' :: b) ∧ '\n' ∉ p ∧
      fields ∈ gather n (stripReturn p) := by
  obtain ⟨line, hline, hgather⟩ := List.mem_flatMap.1 h
  obtain ⟨x, hx, rfl⟩ := List.mem_map.1 hline
  have heven : Even (quotes x) := by
    by_contra hodd
    rw [gather_of_odd (by rwa [quotes_stripReturn])] at hgather
    cases hgather
  have hreturn : quotes (returnOf returns) = 0 := by
    rw [returnOf]
    split_ifs
    · rfl
    · rfl
  have hnot := not_mem_of_mem_splitOn hx
  rcases mem_splitOn hx with heq | ⟨b, heq⟩ | ⟨a, heq⟩ | ⟨a, b, heq⟩
  · exact absurd (heq ▸ List.mem_append_left _ hrow) hnot
  · obtain ⟨b', htext, -⟩ := exists_of_append_returnOf heq
    exact absurd heven (odd_of_writeRow htext)
  · obtain ⟨b', htext, hb⟩ := exists_of_append_returnOf heq
    have hodd := odd_of_writeRow htext
    have hwhole := even_quotes_writeRow row
    rw [htext, quotes_append, quotes_cons] at hwhole
    rw [hb, quotes_append, hreturn] at heven
    simp only [Char.reduceEq, if_false, Nat.add_zero, Nat.even_add] at hwhole heven
    tauto
  · obtain ⟨b', htext, hb⟩ := exists_of_append_returnOf heq
    have hb' : x ++ '\n' :: b = b' ++ returnOf returns := hb
    obtain ⟨b'', hrest, -⟩ := exists_of_append_returnOf hb'.symm
    exact ⟨a, x, b'', by rw [htext, hrest], hnot, hgather⟩

/-! ## Legible rows -/

theorem writeField_subset_writeRow {row : List Str} {value : Str} (h : value ∈ row) :
    writeField value ⊆ writeRow row := by
  induction row with
  | nil => cases h
  | cons v row ih =>
    cases row with
    | nil =>
      rw [List.mem_singleton.1 h, writeRow, List.map_singleton, List.intercalate_singleton]
      exact List.Subset.refl _
    | cons w row =>
      rw [writeRow, List.map_cons, List.map_cons, List.intercalate_cons_cons, ← List.map_cons,
        ← writeRow]
      rcases List.mem_cons.1 h with rfl | h
      · exact fun c hc => List.mem_append_left _ (List.mem_append_left _ hc)
      · exact fun c hc => List.mem_append_right _ (ih h hc)

theorem subset_double (v : Str) : v ⊆ double v := by
  intro c hc
  refine List.mem_flatMap.2 ⟨c, hc, ?_⟩
  split_ifs with h
  · exact h ▸ List.mem_cons_self
  · exact List.mem_singleton_self c

theorem subset_writeField (v : Str) : v ⊆ writeField v := by
  rw [writeField]
  split_ifs
  · exact fun c hc => List.mem_cons_of_mem _ (List.mem_append_left _ (subset_double v hc))
  · exact List.Subset.refl _

theorem double_of_not_mem {v : Str} (h : '"' ∉ v) : double v = v := by
  induction v with
  | nil => rfl
  | cons c v ih =>
    rw [List.mem_cons, not_or] at h
    rw [double_cons, if_neg (Ne.symm h.1), ih h.2]
    rfl

theorem quotes_double (v : Str) : quotes (double v) = 2 * quotes v := by
  induction v with
  | nil => rfl
  | cons c v ih =>
    rw [double_cons, quotes_append, ih, quotes_cons]
    split_ifs with h
    · have htwo : quotes ['"', '"'] = 2 := rfl
      omega
    · simp [h]

theorem separators_double (v : Str) : separators false (double v) = commas v := by
  have hparts := parts_double_append v []
  rw [List.append_nil] at hparts
  have hlength := congrArg List.length hparts
  rw [List.length_modifyHead, length_parts] at hlength
  have hall := separators_add false (double v)
  rw [commas_double, Bool.not_false] at hall
  have hone : (parts true []).length = 1 := rfl
  omega

/-- What is read of a row in the place of the row is on one line, or on a line of its own. -/
theorem isInnerLine_of_between {value a p b read : Str}
    (h : writeField value = a ++ '\n' :: (p ++ '\n' :: b)) (hnewline : '\n' ∉ p)
    (hread : readLine (stripReturn p) = some (some [read]))
    (hblank : Csv.isBlank (stripReturn p) = false)
    (htrim : Text.trim read = Text.trim value) : IsInnerLine value := by
  obtain ⟨v₁, after, hvalue, hdouble, -⟩ := @writeField_eq_append value (a ++ '\n' :: p) b
    (by rw [h]; simp)
  obtain ⟨before, line, rfl, -, rfl⟩ : ∃ before line, v₁ = before ++ '\n' :: line ∧
      a = '"' :: double before ∧ p = double line := by
    cases a with
    | nil => exact absurd (List.cons.inj hdouble).1 (by decide)
    | cons c a =>
      obtain ⟨rfl, hrest⟩ := List.cons.inj hdouble
      obtain ⟨x, y, hv, rfl, hp⟩ := double_eq_append hrest.symm
      exact ⟨x, y, hv, rfl, hp⟩
  obtain ⟨hsubset, hquotes⟩ := readLine_singleton hread
  have hline : Text.trim line ≠ [] := by
    intro heq
    have hall := Text.trim_eq_nil_iff.1 heq
    have hnone : '"' ∉ line := fun hmem => absurd (hall _ hmem) (by decide)
    rw [double_of_not_mem hnone] at hblank
    have hstrip : Csv.isBlank (stripReturn line) = true :=
      List.all_eq_true.2 fun c hc => hall c (stripReturn_subset line hc)
    rw [hstrip] at hblank
    cases hblank
  have hinside : '\n' ∉ Text.trim value := by
    rw [← htrim]
    obtain ⟨x, y, hsplit, -, -⟩ := Text.exists_trim read
    intro hmem
    have hread' : '\n' ∈ read := hsplit ▸ List.mem_append_right _ (List.mem_append_left _ hmem)
    exact hnewline (stripReturn_subset _ (hsubset hread'))
  have hleft : Text.trim (before ++ '\n' :: line) ≠ [] := fun heq =>
    hline (Text.trim_eq_nil_iff.2 fun c hc =>
      Text.trim_eq_nil_iff.1 heq c (List.mem_append_right _ (List.mem_cons_of_mem _ hc)))
  have hright : Text.trim (line ++ '\n' :: after) ≠ [] := fun heq =>
    hline (Text.trim_eq_nil_iff.2 fun c hc =>
      Text.trim_eq_nil_iff.1 heq c (List.mem_append_left _ hc))
  have hvalue' : value = before ++ '\n' :: (line ++ '\n' :: after) := by
    rw [hvalue]
    simp
  have hbefore : Csv.isBlank before = true := by
    rw [← trim_eq_nil_iff_isBlank]
    by_contra hne
    exact hinside (hvalue' ▸ Text.mem_trim_of_between hne hright)
  have hafter : Csv.isBlank after = true := by
    rw [← trim_eq_nil_iff_isBlank]
    by_contra hne
    exact hinside (hvalue ▸ Text.mem_trim_of_between hleft hne)
  have hlength := congrArg List.length (commas_readLine hread)
  rw [List.length_map, List.length_map, length_parts, separators_stripReturn, separators_double,
    List.length_singleton] at hlength
  have hcount : quotes read = quotes line := by
    have hwhite : Text.isStrWhiteSpace '"' = false := by decide
    have hkeep : ∀ s, quotes (Text.trim s) = quotes s := Text.count_trim hwhite
    rw [← hkeep read, htrim, hkeep, hvalue']
    simp [quotes_of_isBlank hbefore, quotes_of_isBlank hafter]
  refine ⟨before, line, after, hvalue', hbefore, hafter, ?_, ?_, ?_, ?_⟩
  · rw [← Bool.not_eq_true, ← trim_eq_nil_iff_isBlank]
    exact hline
  · exact fun hmem => hnewline (subset_double line hmem)
  · intro hmem
    have hpos : 0 < commas line := List.count_pos_iff.2 hmem
    omega
  · intro hmem
    have hpos : 0 < quotes line := List.count_pos_iff.2 hmem
    rw [quotes_stripReturn, quotes_double] at hquotes
    have hless := hquotes (by omega)
    omega

theorem newline_not_mem_writeRow {row : List Str} (h : ∀ value ∈ row, '\n' ∉ value) :
    '\n' ∉ writeRow row := by
  have hdouble : ∀ v : Str, '\n' ∈ double v → '\n' ∈ v := by
    intro v hmem
    obtain ⟨c, hc, hin⟩ := List.mem_flatMap.1 hmem
    split_ifs at hin
    · exact absurd hin (by decide)
    · exact List.mem_singleton.1 hin ▸ hc
  have hfield : ∀ v ∈ row, '\n' ∉ writeField v := by
    intro v hv hmem
    rw [writeField] at hmem
    split_ifs at hmem
    · rcases List.mem_cons.1 hmem with hmem | hmem
      · exact absurd hmem (by decide)
      · rcases List.mem_append.1 hmem with hmem | hmem
        · exact h v hv (hdouble v hmem)
        · exact absurd hmem (by decide)
    · exact h v hv hmem
  clear h
  induction row with
  | nil => simp [writeRow]
  | cons v row ih =>
    cases row with
    | nil =>
      rw [writeRow, List.map_singleton, List.intercalate_singleton]
      exact hfield v List.mem_cons_self
    | cons w row =>
      rw [writeRow, List.map_cons, List.map_cons, List.intercalate_cons_cons, ← List.map_cons,
        ← writeRow, List.mem_append, List.mem_append, not_or, not_or]
      exact ⟨⟨hfield v List.mem_cons_self, by decide⟩,
        ih fun w hw => hfield w (List.mem_cons_of_mem _ hw)⟩

theorem commas_map_trim {fields row : List Str} (h : fields.map Text.trim = row.map Text.trim) :
    fields.map commas = row.map commas := by
  have hwhite : Text.isStrWhiteSpace ',' = false := by decide
  have hcommas : ∀ l : List Str, l.map commas = (l.map Text.trim).map commas := fun l => by
    rw [List.map_map]
    exact List.map_congr_left fun s _ => (Text.count_trim hwhite s).symm
  rw [hcommas fields, hcommas row, h]

/-- A row that is read as it is, in its place, is legible. -/
theorem isLegible_of_mem {returns : Bool} {row fields : List Str} (hne : row ≠ [])
    (h : fields ∈ rowsOf returns (row.length - 1) (writeRow row))
    (htrim : fields.map Text.trim = row.map Text.trim) : IsLegible row := by
  by_cases hnewline : '\n' ∈ writeRow row
  · obtain ⟨a, p, b, hbetween, hp, hgather⟩ := between_of_mem_rowsOf hnewline h
    obtain ⟨hread, -, hblank, -⟩ := mem_gather hgather
    have hparts : (parts false p).map commas = row.map commas := by
      rw [← commas_parts_stripReturn, commas_readLine hread, commas_map_trim htrim]
    obtain ⟨value, rfl⟩ := List.length_eq_one_iff.1 (length_of_between hne hbetween hparts)
    obtain ⟨read, rfl⟩ : ∃ read, fields = [read] := by
      have hlength := congrArg List.length htrim
      rw [List.length_map, List.length_map] at hlength
      exact List.length_eq_one_iff.1 hlength
    have hvalue : Text.trim read = Text.trim value := (List.cons.inj htrim).1
    rw [writeRow, List.map_singleton, List.intercalate_singleton] at hbetween
    exact .inr ⟨value, rfl, isInnerLine_of_between hbetween hp hread hblank hvalue⟩
  · rw [rowsOf, linesOf_eq_singleton hnewline, stripReturn_writeRow, List.flatMap_singleton] at h
    obtain ⟨-, hclosing, hblank, -⟩ := mem_gather h
    rw [badClosing_writeRow, List.any_eq_false] at hclosing
    refine .inl ⟨fun value hvalue => ⟨fun hmem => hnewline ?_, ?_⟩, ?_⟩
    · exact writeField_subset_writeRow hvalue (subset_writeField value hmem)
    · simpa using hclosing value hvalue
    · rintro value rfl
      by_contra hnot
      rw [not_or, not_not] at hnot
      have hplain : value.any isSpecial = false := by
        rw [List.any_eq_false]
        intro c hc hspecial
        have hwhite := Text.trim_eq_nil_iff.1 hnot.1 c hc
        simp only [isSpecial, Bool.or_eq_true, decide_eq_true_eq] at hspecial
        rcases hspecial with ((rfl | rfl) | rfl) | rfl
        · exact absurd hwhite (by decide)
        · exact absurd hwhite (by decide)
        · exact hnot.2 hc
        · refine hnewline (writeField_subset_writeRow (List.mem_singleton_self value) ?_)
          exact subset_writeField value hc
      rw [writeRow, List.map_singleton, List.intercalate_singleton, writeField,
        if_neg (by simp [hplain]), ← Bool.not_eq_true, ← trim_eq_nil_iff_isBlank] at hblank
      exact hblank hnot.1

theorem trim_readField (v : Str) : Text.trim (readField v) = Text.trim v := by
  rw [readField]
  split_ifs
  · rfl
  · exact Text.trim_trim v

/-- A row is read as it is, and each of its lines that is kept can be read. -/
def ReadsAsIs (returns : Bool) (row : List Str) : Prop :=
  (∃ fields, rowsOf returns (row.length - 1) (writeRow row) = [fields] ∧
      fields.map Text.trim = row.map Text.trim) ∧
    ∀ line ∈ linesOf returns (writeRow row), isKeptLine (row.length - 1) line = true →
      (readLine line).isSome = true

/-- A row on one line is read. -/
theorem readsAsIs_of_line {returns : Bool} {row : List Str} (hne : row ≠ [])
    (h : ∀ value ∈ row, '\n' ∉ value ∧ quotesEnd value = true)
    (hblank : ∀ value, row = [value] → Text.trim value ≠ [] ∨ '\r' ∈ value) :
    ReadsAsIs returns row := by
  have hnewline := newline_not_mem_writeRow fun value hvalue => (h value hvalue).1
  have hsingle : ∀ value, row = [value] → ¬ Csv.isBlank (writeField value) = true := by
    intro value hrow hwhite
    have hin : ∀ c ∈ writeField value, Text.isStrWhiteSpace c = true := List.all_eq_true.1 hwhite
    rcases hblank value hrow with hne | hreturn
    · refine hne (Text.trim_eq_nil_iff.2 fun c hc => hin c (subset_writeField value hc))
    · have hquoted : value.any isSpecial = true := List.any_eq_true.2 ⟨_, hreturn, by decide⟩
      rw [writeField, if_pos hquoted] at hin
      exact absurd (hin '"' List.mem_cons_self) (by decide)
  have hread := readLine_writeRow hne hsingle
  have hlines : linesOf returns (writeRow row) = [writeRow row] := by
    rw [linesOf_eq_singleton hnewline, stripReturn_writeRow]
  have hkept : isKeptLine (row.length - 1) (writeRow row) = true := by
    have hclosing : badClosing (writeRow row) = false := by
      rw [badClosing_writeRow, List.any_eq_false]
      intro value hvalue
      simp [(h value hvalue).2]
    have hcount : separators false (writeRow row) = row.length - 1 := by
      have hseparators := separators_writeRow hne
      omega
    exact isKeptLine_iff.2 (.inr ⟨even_quotes_writeRow row, hclosing, hcount⟩)
  refine ⟨⟨row.map readField, ?_, ?_⟩, ?_⟩
  · rw [rowsOf, hlines, List.flatMap_singleton, gather, if_pos hkept, hread]
    rfl
  · rw [List.map_map]
    exact List.map_congr_left fun v _ => trim_readField v
  · rw [hlines]
    intro line hline _
    rw [List.mem_singleton.1 hline, hread]
    rfl

theorem of_mem_splitOn {c : Char} {s x : Str} (h : x ∈ s.splitOn c) :
    x ⊆ s ∧ quotes x ≤ quotes s := by
  rcases mem_splitOn h with rfl | ⟨b, rfl⟩ | ⟨a, rfl⟩ | ⟨a, b, rfl⟩
  · exact ⟨List.Subset.refl _, le_rfl⟩
  · exact ⟨List.subset_append_left _ _, by rw [quotes_append]; omega⟩
  · refine ⟨fun d hd => List.mem_append_right _ (List.mem_cons_of_mem _ hd), ?_⟩
    rw [quotes_append, quotes_cons]
    omega
  · refine ⟨fun d hd =>
      List.mem_append_right _ (List.mem_cons_of_mem _ (List.mem_append_left _ hd)), ?_⟩
    rw [quotes_append, quotes_cons, quotes_append]
    omega

/-- Nothing is read of lines with no more in them than one quote. -/
theorem gather_of_edge {n : ℕ} {s line : Str}
    (hs : ∀ c ∈ s, c = '"' ∨ Text.isStrWhiteSpace c = true) (hquotes : quotes s ≤ 1)
    (h : line ∈ (s.splitOn '\n').map stripReturn) :
    gather n line = [] ∧ (isKeptLine n line = true → (readLine line).isSome = true) := by
  obtain ⟨x, hx, rfl⟩ := List.mem_map.1 h
  obtain ⟨hsubset, hle⟩ := of_mem_splitOn hx
  by_cases hzero : quotes x = 0
  · have hblank : Csv.isBlank (stripReturn x) = true := by
      refine List.all_eq_true.2 fun c hc => ?_
      have hmem := stripReturn_subset x hc
      refine (hs c (hsubset hmem)).resolve_left ?_
      rintro rfl
      exact absurd (List.count_pos_iff.2 hmem) (by rw [← quotes, hzero]; exact lt_irrefl 0)
    rw [readLine_of_isBlank hblank]
    exact ⟨gather_of_isBlank hblank, fun _ => rfl⟩
  · have hodd : ¬ Even (quotes (stripReturn x)) := by
      rw [quotes_stripReturn, Nat.even_iff]
      omega
    exact ⟨gather_of_odd hodd, fun hkept => absurd (even_of_isKeptLine hkept) hodd⟩

/-- Of a value of which all is on a line of its own that line is read. -/
theorem readsAsIs_of_isInnerLine {returns : Bool} {value : Str} (h : IsInnerLine value) :
    ReadsAsIs returns [value] := by
  obtain ⟨before, line, after, rfl, hbefore, hafter, hblank, hnewline, hcomma, hquote⟩ := h
  have hno : ∀ s : Str, Csv.isBlank s = true → '"' ∉ s := fun s hs hmem =>
    absurd (List.all_eq_true.1 hs _ hmem) (by decide)
  have hmem : '"' ∉ before ++ '\n' :: (line ++ '\n' :: after) := by
    simp [hno before hbefore, hquote, hno after hafter]
  have htext : writeRow [before ++ '\n' :: (line ++ '\n' :: after)] ++ returnOf returns =
      ('"' :: before) ++ '\n' :: (line ++ '\n' :: (after ++ '"' :: returnOf returns)) := by
    have hspecial : (before ++ '\n' :: (line ++ '\n' :: after)).any isSpecial = true :=
      List.any_eq_true.2 ⟨'\n', List.mem_append_right _ List.mem_cons_self, by decide⟩
    rw [writeRow, List.map_singleton, List.intercalate_singleton, writeField, if_pos hspecial,
      double_of_not_mem hmem]
    simp
  have hlines : linesOf returns (writeRow [before ++ '\n' :: (line ++ '\n' :: after)]) =
      (('"' :: before).splitOn '\n').map stripReturn ++ (stripReturn line ::
        ((after ++ '"' :: returnOf returns).splitOn '\n').map stripReturn) := by
    rw [linesOf, htext, List.splitOn_append_cons_self, List.splitOn_append_cons_self,
      List.splitOn_eq_singleton hnewline, List.map_append]
    rfl
  have hleft : ∀ n, ∀ l ∈ (('"' :: before).splitOn '\n').map stripReturn,
      gather n l = [] ∧ (isKeptLine n l = true → (readLine l).isSome = true) := by
    intro n l hl
    refine gather_of_edge ?_ ?_ hl
    · intro c hc
      exact (List.mem_cons.1 hc).imp_right fun hc => List.all_eq_true.1 hbefore c hc
    · rw [quotes_cons, quotes_of_isBlank hbefore, if_pos rfl]
  have hright : ∀ n, ∀ l ∈ ((after ++ '"' :: returnOf returns).splitOn '\n').map stripReturn,
      gather n l = [] ∧ (isKeptLine n l = true → (readLine l).isSome = true) := by
    intro n l hl
    have hreturn : (∀ c ∈ returnOf returns, Text.isStrWhiteSpace c = true) ∧
        quotes (returnOf returns) = 0 := by
      rw [returnOf]
      split_ifs
      · simp [Text.isStrWhiteSpace]
      · simp
    refine gather_of_edge ?_ ?_ hl
    · intro c hc
      rcases List.mem_append.1 hc with hc | hc
      · exact .inr (List.all_eq_true.1 hafter c hc)
      · exact (List.mem_cons.1 hc).imp_right fun hc => hreturn.1 c hc
    · rw [quotes_append, quotes_cons, quotes_of_isBlank hafter, hreturn.2, if_pos rfl]
  -- Only the line between the others is read.
  have hread : readLine (stripReturn line) = some (some [Text.trim (stripReturn line)]) := by
    have hplain : ∀ c ∈ stripReturn line, c ≠ ',' ∧ c ≠ '"' := by
      intro c hc
      have hin := stripReturn_subset line hc
      constructor
      · rintro rfl
        exact hcomma hin
      · rintro rfl
        exact hquote hin
    have hwhite : ¬ Csv.isBlank (stripReturn line) = true := by
      rw [← trim_eq_nil_iff_isBlank, trim_stripReturn, trim_eq_nil_iff_isBlank, hblank]
      exact Bool.false_ne_true
    rw [readLine, Cursor.start, foldlM_plain hplain]
    simp [Cursor.record, Cursor.value, hwhite]
  have hkept : isKeptLine 0 (stripReturn line) = true := by
    have hnone : '"' ∉ stripReturn line := fun hin => hquote (stripReturn_subset line hin)
    have hcount : separators false (stripReturn line) = 0 := by
      have hparts := congrArg List.length (commas_readLine hread)
      rw [List.length_map, List.length_map, length_parts, List.length_singleton] at hparts
      omega
    have hclosing : badClosing (stripReturn line) = false := by
      have hfield := badClosing_append_of_not_mem (.inl rfl) hnone ','
      rw [List.append_nil, badClosing_comma] at hfield
      exact hfield
    have hzero : quotes (stripReturn line) = 0 := List.count_eq_zero_of_not_mem hnone
    exact isKeptLine_iff.2 (.inr ⟨hzero ▸ Even.zero, hclosing, hcount⟩)
  have hvalue : Text.trim (before ++ '\n' :: (line ++ '\n' :: after)) = Text.trim line := by
    have hends : before ++ '\n' :: (line ++ '\n' :: after) =
        (before ++ ['\n']) ++ (line ++ ('\n' :: after)) := by simp
    rw [hends, Text.trim_blank_append, Text.trim_append_blank]
    · intro c hc
      rcases List.mem_cons.1 hc with rfl | hc
      · decide
      · exact List.all_eq_true.1 hafter c hc
    · intro c hc
      rcases List.mem_append.1 hc with hc | hc
      · exact List.all_eq_true.1 hbefore c hc
      · rw [List.mem_singleton.1 hc]
        decide
  refine ⟨⟨[Text.trim (stripReturn line)], ?_, ?_⟩, ?_⟩
  · rw [rowsOf, hlines, List.flatMap_append, List.flatMap_cons,
      List.flatMap_eq_nil_iff.2 fun l hl => (hleft _ l hl).1,
      List.flatMap_eq_nil_iff.2 fun l hl => (hright _ l hl).1, List.length_singleton, gather,
      if_pos hkept, hread]
    rfl
  · rw [List.map_singleton, List.map_singleton, hvalue, trim_stripReturn, Text.trim_trim]
  · rw [hlines]
    intro l hl hlkept
    rcases List.mem_append.1 hl with hl | hl
    · exact (hleft _ l hl).2 hlkept
    · rcases List.mem_cons.1 hl with rfl | hl
      · rw [hread]
        rfl
      · exact (hright _ l hl).2 hlkept

theorem readsAsIs_of_isLegible (returns : Bool) {row : List Str} (hne : row ≠ [])
    (h : IsLegible row) : ReadsAsIs returns row := by
  rcases h with ⟨hvalues, hblank⟩ | ⟨value, rfl, hinner⟩
  · exact readsAsIs_of_line hne hvalues hblank
  · exact readsAsIs_of_isInnerLine hinner

end Perfana.JtlCleaning
