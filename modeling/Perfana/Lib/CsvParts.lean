import Perfana.Lib.Csv

/-!
# Commas inside and outside of quotes

A text is cut at the commas that are not between quotes (`parts`), where it is known whether it
begins between quotes. The fields that are read of a line have the commas of its parts
(`commas_readLine`), and so have those of a row that was written.

* `length_of_between`: a line in the middle of a row is not read as the row, unless that has one
  field only;
* `readLine_singleton`: a line that is read as one field has twice the quotes of the field, and
  more.
-/

namespace Perfana.Csv

/-! ## Parts between the commas -/

/-- The parts of a text between the commas that are not between quotes; at the start the text is
    between quotes if `inside`. -/
def parts : Bool → Str → List Str
  | _, [] => [[]]
  | inside, c :: s =>
    if c = ',' ∧ inside = false then [] :: parts inside s
    else (parts (if c = '"' then !inside else inside) s).modifyHead (c :: ·)

theorem parts_ne_nil (inside : Bool) (s : Str) : parts inside s ≠ [] := by
  induction s generalizing inside with
  | nil => exact List.cons_ne_nil _ _
  | cons c s ih =>
    rw [parts]
    split_ifs
    · exact List.cons_ne_nil _ _
    all_goals simpa using ih _

/-- The number of commas in a text. -/
def commas (s : Str) : ℕ := s.count ','

theorem commas_value (cursor : Cursor) : commas cursor.value = commas cursor.field := by
  rw [Cursor.value]
  split_ifs
  · exact Text.count_trim (by decide) _
  · rfl

@[simp]
theorem commas_nil : commas [] = 0 := rfl

@[simp]
theorem commas_cons (c : Char) (s : Str) :
    commas (c :: s) = commas s + if c = ',' then 1 else 0 := by
  simp [commas, List.count_cons]

@[simp]
theorem commas_append (s t : Str) : commas (s ++ t) = commas s + commas t := List.count_append

theorem commas_of_isBlank {s : Str} (h : isBlank s = true) : commas s = 0 :=
  List.count_eq_zero_of_not_mem fun hmem => absurd (List.all_eq_true.1 h _ hmem) (by decide)

theorem commas_singleton {c : Char} (h : c ≠ ',') : commas [c] = 0 := by simp [h]

/-- The fields that are read have as many commas as the parts between the commas. -/
theorem commas_foldlM {cursor cursor' : Cursor} {s : Str}
    (h : s.foldlM Cursor.read cursor = some cursor') :
    (cursor'.fields ++ [cursor'.field]).map commas = cursor.fields.map commas ++
      ((parts (cursor.mode = .quoted) s).map commas).modifyHead (commas cursor.field + ·) := by
  induction s generalizing cursor with
  | nil =>
    cases h
    simp [parts, commas]
  | cons c s ih =>
    rw [List.foldlM_cons] at h
    obtain ⟨next, hread, hrest⟩ := Option.bind_eq_some_iff.1 h
    have hmode := Cursor.mode_read hread
    rw [ih hrest, parts]
    -- A character adds to the part that it is in what it adds to the field.
    have hsame : ∀ inside : Bool, next.fields = cursor.fields →
        commas next.field = commas cursor.field + commas [c] →
        next.fields.map commas ++ ((parts inside s).map commas).modifyHead
            (commas next.field + ·) =
          cursor.fields.map commas ++ (((parts inside s).modifyHead (c :: ·)).map commas).modifyHead
            (commas cursor.field + ·) := by
      intro inside hfields hfield
      rw [hfields, hfield]
      cases parts inside s with
      | nil => rfl
      | cons part rest =>
        have hpart : commas (c :: part) = commas [c] + commas part := commas_append [c] part
        simp [hpart, Nat.add_assoc]
    cases Cursor.reads_of_read hread with
    | comma hquoted =>
      have hplain : ¬ cursor.endField.mode = .quoted := by simp [Cursor.endField]
      simp only [hquoted, hplain, decide_false, and_self, if_true]
      simp [Cursor.endField, commas_value]
      exact congrFun List.modifyHead_id _
    | @opens field fields hblank =>
      have hnone : commas [] = commas field + commas ['"'] := by
        rw [commas_of_isBlank hblank]
        rfl
      simpa using hsame true rfl hnone
    | closes => simpa using hsame false rfl rfl
    | doubled => simpa using hsame true rfl (by simp)
    | plain hcomma hquote => simpa [hcomma, hquote] using hsame false rfl (by simp)
    | quoted hquote => simpa [hquote] using hsame true rfl (by simp)
    | blank hmode' hc =>
      have hcomma : c ≠ ',' := by
        rintro rfl
        exact absurd hc (by decide)
      have hquote : c ≠ '"' := by
        rintro rfl
        exact absurd hc (by decide)
      have hplain := hsame false rfl (by simp [commas_singleton hcomma])
      rcases hmode' with rfl | rfl
      · simpa [hcomma, hquote] using hplain
      · simpa [hcomma, hquote] using hplain

/-- The parts of what was written are the fields. -/
theorem parts_append_of_not_special {v : Str} (h : v.any isSpecial = false) (rest : Str) :
    parts false (v ++ rest) = (parts false rest).modifyHead (v ++ ·) := by
  induction v with
  | nil => exact (congrFun List.modifyHead_id _).symm
  | cons c v ih =>
    obtain ⟨hcomma, hquote, -, -⟩ := not_special h List.mem_cons_self
    rw [List.any_cons, Bool.or_eq_false_iff] at h
    rw [List.cons_append, parts, if_neg fun hc => hcomma hc.1, if_neg hquote, ih h.2,
      List.modifyHead_modifyHead]
    rfl

theorem parts_double_append (v rest : Str) :
    parts true (double v ++ rest) = (parts true rest).modifyHead (double v ++ ·) := by
  induction v with
  | nil => exact (congrFun List.modifyHead_id _).symm
  | cons c v ih =>
    rw [double_cons]
    by_cases hquote : c = '"'
    · rw [if_pos hquote]
      have hq : ('"' = ',') = False := by decide
      simp only [List.cons_append, List.nil_append, parts, hq, false_and, if_false, if_true,
        Bool.not_true, Bool.not_false, ih, List.modifyHead_modifyHead]
      rfl
    · rw [if_neg hquote]
      simp only [List.cons_append, List.nil_append, parts, Bool.true_eq_false, and_false, if_false,
        hquote, ih, List.modifyHead_modifyHead]
      rfl

theorem parts_writeField_append (v rest : Str) :
    parts false (writeField v ++ rest) = (parts false rest).modifyHead (writeField v ++ ·) := by
  by_cases h : v.any isSpecial = true
  · have hq : ('"' = ',') = False := by decide
    rw [writeField, if_pos h]
    simp only [List.cons_append, List.append_assoc, parts, hq, false_and, if_false, if_true,
      Bool.not_false, parts_double_append, List.nil_append, Bool.not_true,
      List.modifyHead_modifyHead]
    congr 1
  · rw [writeField, if_neg h, parts_append_of_not_special (Bool.eq_false_iff.2 h)]

theorem parts_writeRow {fields : List Str} (hne : fields ≠ []) :
    parts false (writeRow fields) = fields.map writeField := by
  induction fields with
  | nil => exact absurd rfl hne
  | cons v fields ih =>
    cases fields with
    | nil =>
      have hparts := parts_writeField_append v []
      rw [List.append_nil] at hparts
      rw [writeRow, List.map_singleton, List.intercalate_singleton, hparts]
      simp [parts]
    | cons w fields =>
      have hrest := ih (List.cons_ne_nil _ _)
      rw [writeRow, List.map_cons, List.map_cons, List.intercalate_cons_cons, ← List.map_cons,
        ← writeRow, List.append_assoc, parts_writeField_append, List.singleton_append, parts,
        if_pos ⟨rfl, rfl⟩, hrest]
      simp

theorem commas_double (v : Str) : commas (double v) = commas v := by
  induction v with
  | nil => rfl
  | cons c v ih =>
    rw [double_cons, commas_append, ih]
    have hc : commas (c :: v) = commas [c] + commas v := commas_append [c] v
    rw [hc]
    by_cases hquote : c = '"'
    · rw [if_pos hquote, hquote]
      rfl
    · rw [if_neg hquote]

@[simp]
theorem commas_writeField (v : Str) : commas (writeField v) = commas v := by
  rw [writeField]
  split_ifs
  · have hq : commas ('"' :: (double v ++ ['"'])) = commas ['"'] + commas (double v ++ ['"']) :=
      commas_append ['"'] _
    rw [hq, commas_append, commas_double]
    simp
  · rfl

/-- How many commas of a text are not between quotes. -/
def separators : Bool → Str → ℕ
  | _, [] => 0
  | inside, c :: s =>
    separators (if c = '"' then !inside else inside) s + if c = ',' ∧ inside = false then 1 else 0

theorem length_parts (inside : Bool) (s : Str) :
    (parts inside s).length = separators inside s + 1 := by
  induction s generalizing inside with
  | nil => rfl
  | cons c s ih =>
    rw [parts, separators]
    by_cases hcomma : c = ',' ∧ inside = false
    · have hquote : c ≠ '"' := by
        rw [hcomma.1]
        decide
      rw [if_pos hcomma, if_pos hcomma, if_neg hquote, List.length_cons, ih]
    · rw [if_neg hcomma, if_neg hcomma, List.length_modifyHead, ih]

/-- The commas in the parts are those between quotes. -/
theorem sum_commas_parts (inside : Bool) (s : Str) :
    ((parts inside s).map commas).sum = separators (!inside) s := by
  induction s generalizing inside with
  | nil => rfl
  | cons c s ih =>
    have hhead : ∀ l : List Str, l ≠ [] →
        ((l.modifyHead (c :: ·)).map commas).sum = commas [c] + (l.map commas).sum := by
      intro l hl
      obtain ⟨part, rest, rfl⟩ := List.exists_cons_of_ne_nil hl
      have hpart : commas (c :: part) = commas [c] + commas part := commas_append [c] part
      simp [hpart, Nat.add_assoc]
    rw [parts, separators]
    by_cases hcomma : c = ','
    · subst hcomma
      have hq : (',' = '"') = False := by decide
      cases inside with
      | false => simp [ih, hq]
      | true =>
        simp only [Bool.true_eq_false, and_false, if_false, hq, hhead _ (parts_ne_nil _ _), ih]
        simp [commas, Nat.add_comm]
    · simp only [hcomma, false_and, if_false, hhead _ (parts_ne_nil _ _), ih,
        commas_singleton hcomma, Nat.zero_add, Nat.add_zero]
      split_ifs
      · rfl
      · rfl

/-- A text with an even number of quotes leaves what follows where it is. -/
theorem separators_append {s : Str} (inside : Bool) (t : Str) :
    separators inside (s ++ t) =
      separators inside s + separators (if Even (quotes s) then inside else !inside) t := by
  induction s generalizing inside with
  | nil => simp [separators]
  | cons c s ih =>
    rw [List.cons_append, separators, ih, separators, quotes_cons]
    by_cases hquote : c = '"'
    · subst hquote
      have hcomma : ('"' = ',') = False := by decide
      simp only [if_true, hcomma, false_and, if_false, Nat.add_zero, Nat.even_add_one,
        Bool.not_not]
      split_ifs
      · rfl
      · rfl
    · simp only [hquote, if_false, Nat.add_zero]
      omega

theorem separators_writeRow {fields : List Str} (hne : fields ≠ []) :
    separators false (writeRow fields) + 1 = fields.length := by
  rw [← length_parts, parts_writeRow hne, List.length_map]

/-- If the first part is the same inside and outside of quotes, there is no comma. -/
theorem separators_of_commas_head {s : Str} {inside : Bool}
    (h : commas ((parts inside s).headD []) = commas ((parts (!inside) s).headD [])) :
    separators inside s = 0 ∧ separators (!inside) s = 0 := by
  induction s generalizing inside with
  | nil => exact ⟨rfl, rfl⟩
  | cons c s ih =>
    have hhead : ∀ inside : Bool, ((parts inside s).modifyHead (c :: ·)).headD [] =
        c :: (parts inside s).headD [] := by
      intro inside
      obtain ⟨part, rest, heq⟩ := List.exists_cons_of_ne_nil (parts_ne_nil inside s)
      rw [heq]
      rfl
    by_cases hcomma : c = ','
    · subst hcomma
      have hq : (',' = '"') = False := by decide
      cases inside with
      | false =>
        simp only [parts, hq, Bool.not_false, and_self, if_true, if_false, Bool.true_eq_false,
          and_false, hhead, List.headD_cons, commas_cons, commas_nil] at h
        omega
      | true =>
        simp only [parts, hq, Bool.not_true, and_self, if_true, if_false, Bool.true_eq_false,
          and_false, hhead, List.headD_cons, commas_cons, commas_nil] at h
        omega
    · simp only [parts, hcomma, false_and, if_false, hhead, commas_cons, Nat.add_zero] at h
      simp only [separators, hcomma, false_and, if_false, Nat.add_zero]
      by_cases hquote : c = '"'
      · simp only [hquote, if_true] at h ⊢
        exact ih h
      · simp only [hquote, if_false] at h ⊢
        exact ih h

/-! ## A line within a row -/

theorem separators_add (inside : Bool) (s : Str) :
    separators inside s + separators (!inside) s = commas s := by
  induction s generalizing inside with
  | nil => rfl
  | cons c s ih =>
    have hnext := ih (if c = '"' then !inside else inside)
    rw [separators, separators, commas_cons, ← hnext]
    by_cases hcomma : c = ','
    · subst hcomma
      have hq : (',' = '"') = False := by decide
      cases inside with
      | false =>
        simp only [hq, if_false, if_true, and_self, Bool.not_false, Bool.true_eq_false, and_false]
        omega
      | true =>
        simp only [hq, if_false, if_true, and_self, Bool.not_true, Bool.true_eq_false, and_false]
        omega
    · simp only [hcomma, false_and, if_false, Nat.add_zero]
      split_ifs
      · rfl
      · rfl

theorem parts_append {inside : Bool} {s : Str} (h : separators inside s = 0) (t : Str) :
    parts inside (s ++ t) =
      (parts (if Even (quotes s) then inside else !inside) t).modifyHead (s ++ ·) := by
  induction s generalizing inside with
  | nil =>
    rw [quotes_nil, if_pos Even.zero]
    exact (congrFun List.modifyHead_id _).symm
  | cons c s ih =>
    rw [separators] at h
    have hcomma : ¬ (c = ',' ∧ inside = false) := by
      intro hc
      rw [if_pos hc] at h
      omega
    rw [if_neg hcomma, Nat.add_zero] at h
    rw [List.cons_append, parts, if_neg hcomma, ih h, List.modifyHead_modifyHead, quotes_cons]
    by_cases hquote : c = '"'
    · simp only [hquote, if_true, Nat.even_add_one]
      by_cases heven : Even (quotes s)
      · simp [heven, Function.comp_def]
      · simp [heven, Function.comp_def]
    · simp [hquote, Function.comp_def]

theorem headD_parts_append {inside : Bool} {s : Str} (h : separators inside s ≠ 0) (t : Str) :
    (parts inside (s ++ t)).headD [] = (parts inside s).headD [] := by
  induction s generalizing inside with
  | nil => exact absurd rfl h
  | cons c s ih =>
    rw [List.cons_append, parts, parts]
    by_cases hcomma : c = ',' ∧ inside = false
    · rw [if_pos hcomma, if_pos hcomma]
      rfl
    · rw [separators, if_neg hcomma, Nat.add_zero] at h
      have hrest := ih h
      rw [if_neg hcomma, if_neg hcomma]
      obtain ⟨x, xs, hx⟩ := List.exists_cons_of_ne_nil (parts_ne_nil
        (if c = '"' then !inside else inside) (s ++ t))
      obtain ⟨y, ys, hy⟩ := List.exists_cons_of_ne_nil (parts_ne_nil
        (if c = '"' then !inside else inside) s)
      rw [hx, hy] at hrest ⊢
      exact congrArg (c :: ·) hrest

/-- A line that is between two others of a row is not read as the row, if that has more than one
    field: the commas that separate its fields are those that are in the fields of the row. -/
theorem length_of_between {fields : List Str} {a p b : Str} (hne : fields ≠ [])
    (h : writeRow fields = a ++ '\n' :: (p ++ '\n' :: b))
    (hparts : (parts false p).map commas = fields.map commas) : fields.length = 1 := by
  have hodd := odd_of_writeRow h
  have heven : Even (quotes p) := by
    have hodd' : ¬ Even (quotes (a ++ '\n' :: p)) :=
      odd_of_writeRow (a := a ++ '\n' :: p) (b := b) (by rw [h]; simp)
    rw [quotes_append, quotes_cons, Nat.even_add] at hodd'
    simp only [Char.reduceEq, if_false, Nat.add_zero] at hodd'
    tauto
  have hrow : (parts false (writeRow fields)).map commas = (parts false p).map commas := by
    rw [parts_writeRow hne, hparts, List.map_map]
    exact List.map_congr_left fun v _ => commas_writeField v
  have hline : ∀ inside s, separators inside ('\n' :: s) = separators inside s := by
    intro inside s
    simp [separators]
  have hsplit : ∀ inside, separators inside (writeRow fields) =
      separators inside a + (separators (!inside) p + separators (!inside) b) := by
    intro inside
    rw [h, separators_append, if_neg hodd, hline, separators_append, if_pos heven, hline]
  -- There are no commas but in this line, and as many in the fields as between them.
  have hlength := congrArg List.length hrow
  have hsum := congrArg List.sum hrow
  rw [List.length_map, List.length_map, length_parts, length_parts, hsplit] at hlength
  rw [sum_commas_parts, sum_commas_parts, hsplit] at hsum
  simp only [Bool.not_false, Bool.not_true] at hlength hsum
  have hcount : fields.length = separators false p + 1 := by
    have hlengths := congrArg List.length hparts
    rwa [List.length_map, List.length_map, length_parts, eq_comm] at hlengths
  by_cases hzero : separators true p = 0
  · omega
  · have hhead : commas ((parts false (writeRow fields)).headD []) =
        commas ((parts true p).headD []) := by
      have ha : commas a = 0 := by
        rw [← separators_add false a, Bool.not_false]
        omega
      have hnewline : parts true ('\n' :: (p ++ '\n' :: b)) =
          (parts true (p ++ '\n' :: b)).modifyHead ('\n' :: ·) := by
        simp [parts]
      rw [h, parts_append (by omega), if_neg hodd, Bool.not_false, hnewline,
        List.modifyHead_modifyHead, ← headD_parts_append hzero ('\n' :: b)]
      obtain ⟨x, xs, hx⟩ := List.exists_cons_of_ne_nil (parts_ne_nil true (p ++ '\n' :: b))
      simp [hx, ha]
    have hfirst : ∀ l : List Str, l ≠ [] → commas (l.headD []) = (l.map commas).headD 0 := by
      intro l hl
      obtain ⟨x, xs, rfl⟩ := List.exists_cons_of_ne_nil hl
      rfl
    rw [hfirst _ (parts_ne_nil _ _), hrow, ← hfirst _ (parts_ne_nil _ _)] at hhead
    have hnone := @separators_of_commas_head p false hhead
    omega

/-! ## A line that is read as one field -/

theorem length_fields_foldlM {cursor cursor' : Cursor} {s : Str}
    (h : s.foldlM Cursor.read cursor = some cursor') :
    cursor'.fields.length = cursor.fields.length + separators (cursor.mode = .quoted) s := by
  have hlength := congrArg List.length (commas_foldlM h)
  simp only [List.length_map, List.length_append, List.length_singleton, List.length_modifyHead,
    length_parts] at hlength
  omega

/-- The quotes that were read of a field and are not in it. -/
def Mode.owed : Mode → ℕ
  | .plain => 0
  | .quoted => 1
  | _ => 2

theorem quotes_foldlM {cursor cursor' : Cursor} {s : Str}
    (h : s.foldlM Cursor.read cursor = some cursor') :
    2 * quotes cursor'.field + cursor'.mode.owed ≤
      2 * quotes cursor.field + cursor.mode.owed + quotes s := by
  induction s generalizing cursor with
  | nil =>
    cases h
    exact le_rfl
  | cons c s ih =>
    rw [List.foldlM_cons] at h
    obtain ⟨next, hread, hrest⟩ := Option.bind_eq_some_iff.1 h
    refine (ih hrest).trans ?_
    rw [quotes_cons]
    cases Cursor.reads_of_read hread with
    | comma hquoted =>
      simp only [Cursor.endField, quotes_nil, Mode.owed]
      omega
    | opens hblank =>
      simp only [quotes_nil, Mode.owed, if_true]
      omega
    | closes =>
      simp only [Mode.owed, if_true]
      omega
    | doubled =>
      simp only [quotes_append, quotes_cons, quotes_nil, Mode.owed, if_true]
      omega
    | plain hcomma hquote =>
      simp only [quotes_append, quotes_cons, quotes_nil, Mode.owed, hquote, if_false]
      omega
    | quoted hquote =>
      simp only [quotes_append, quotes_cons, quotes_nil, Mode.owed, hquote, if_false]
      omega
    | blank hmode hc =>
      rcases hmode with rfl | rfl
      · simp only [Mode.owed]
        omega
      · simp only [Mode.owed]
        omega

/-- A field that is not in quotes has none. -/
theorem quotes_of_plain {cursor cursor' : Cursor} {s : Str}
    (h : s.foldlM Cursor.read cursor = some cursor') (hmode : cursor'.mode = .plain)
    (hlength : cursor'.fields.length = cursor.fields.length) :
    cursor.mode = .plain ∧ quotes s = 0 := by
  induction s generalizing cursor with
  | nil =>
    cases h
    exact ⟨hmode, rfl⟩
  | cons c s ih =>
    rw [List.foldlM_cons] at h
    obtain ⟨next, hread, hrest⟩ := Option.bind_eq_some_iff.1 h
    have hgrow := length_fields_foldlM hrest
    have hreads := Cursor.reads_of_read hread
    have hle : cursor.fields.length ≤ next.fields.length := by
      cases hreads with
      | comma hquoted => simp [Cursor.endField]
      | opens | closes | doubled | plain | quoted | blank => exact le_rfl
    obtain ⟨hnext, hnone⟩ := ih hrest (by omega)
    cases hreads with
    | comma hquoted =>
      simp only [Cursor.endField, List.length_append, List.length_singleton] at hgrow
      omega
    | plain hcomma hquote => exact ⟨rfl, by simp [hquote, hnone]⟩
    | opens | closes | doubled | quoted | blank => simp at hnext

theorem field_subset {cursor cursor' : Cursor} {s : Str}
    (h : s.foldlM Cursor.read cursor = some cursor') : cursor'.field ⊆ cursor.field ++ s := by
  induction s generalizing cursor with
  | nil =>
    cases h
    rw [List.append_nil]
    exact List.Subset.refl _
  | cons c s ih =>
    rw [List.foldlM_cons] at h
    obtain ⟨next, hread, hrest⟩ := Option.bind_eq_some_iff.1 h
    refine List.Subset.trans (ih hrest) ?_
    have hnext : next.field ⊆ cursor.field ++ [c] := by
      cases Cursor.reads_of_read hread with
      | comma hquoted => exact List.nil_subset _
      | opens hblank => exact List.nil_subset _
      | closes => exact List.subset_append_left _ _
      | doubled => exact List.Subset.refl _
      | plain hcomma hquote => exact List.Subset.refl _
      | quoted hquote => exact List.Subset.refl _
      | blank hmode hc => exact List.subset_append_left _ _
    rw [← List.singleton_append, ← List.append_assoc]
    exact List.append_subset.2
      ⟨List.Subset.trans hnext (List.subset_append_left _ _), List.subset_append_right _ _⟩

theorem value_subset (cursor : Cursor) : cursor.value ⊆ cursor.field := by
  rw [Cursor.value]
  split_ifs
  · obtain ⟨a, b, hfield, -, -⟩ := Text.exists_trim cursor.field
    intro c hc
    rw [hfield]
    exact List.mem_append_right _ (List.mem_append_left _ hc)
  · exact List.Subset.refl _

/-- What is read of a line with something in it. -/
theorem exists_cursor_of_readLine {line : Str} {fields : List Str}
    (h : readLine line = some (some fields)) :
    ∃ cursor, line.foldlM Cursor.read .start = some cursor ∧ cursor.mode ≠ .quoted ∧
      cursor.fields ++ [cursor.value] = fields := by
  obtain ⟨cursor, hread, hend⟩ := Option.bind_eq_some_iff.1 h
  split_ifs at hend with hmode
  rw [Option.some_inj, Cursor.record] at hend
  split_ifs at hend with hblank
  exact ⟨cursor, hread, hmode, Option.some_inj.1 hend⟩

/-- The fields of a line have as many commas as its parts. -/
theorem commas_readLine {line : Str} {fields : List Str}
    (h : readLine line = some (some fields)) :
    (parts false line).map commas = fields.map commas := by
  obtain ⟨cursor, hread, -, rfl⟩ := exists_cursor_of_readLine h
  have hcommas := commas_foldlM hread
  rw [List.map_append, List.map_singleton, commas_value, ← List.map_singleton, ← List.map_append,
    hcommas]
  simp only [Cursor.start, List.map_nil, List.nil_append, commas_nil, Nat.zero_add]
  exact (congrFun List.modifyHead_id _).symm

/-- A line that is read as one field has only characters of the line, and less than half of its
    quotes, if there are any. -/
theorem readLine_singleton {line value : Str} (h : readLine line = some (some [value])) :
    value ⊆ line ∧ (quotes line ≠ 0 → 2 * quotes value < quotes line) := by
  obtain ⟨cursor, hread, hmode, hfields⟩ := exists_cursor_of_readLine h
  have hsingle : cursor.fields = [] ∧ cursor.value = value := by
    cases hcursor : cursor.fields with
    | nil =>
      rw [hcursor] at hfields
      exact ⟨rfl, (List.cons.inj hfields).1⟩
    | cons field fields =>
      rw [hcursor] at hfields
      exact absurd (List.cons.inj hfields).2 (by simp)
  obtain ⟨hnone, rfl⟩ := hsingle
  refine ⟨List.Subset.trans (value_subset cursor) (field_subset hread), fun hquotes => ?_⟩
  have hplain : cursor.mode ≠ .plain := fun hplain =>
    hquotes (quotes_of_plain hread hplain (by rw [hnone]; rfl)).2
  have hbound := quotes_foldlM hread
  have howed : cursor.mode.owed = 2 := by
    cases hcase : cursor.mode with
    | plain => exact absurd hcase hplain
    | quoted => exact absurd hcase hmode
    | closed => rfl
    | done => rfl
  rw [Cursor.value, if_neg hplain]
  rw [howed] at hbound
  simp only [Cursor.start, quotes_nil, Mode.owed] at hbound
  omega

end Perfana.Csv
