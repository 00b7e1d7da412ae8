import Perfana.Shared.MarkdownMarkers
import Perfana.Shared.MarkdownText

/-!
# Variables of reports

The text of a report has placeholders, in braces, for values of the test run. The values are put
into the source, before it is rendered, so each of them is escaped: backslashes, which the renderer
does not read but shows, break what it would take for a link, a heading or an item.

* `drops_escapeMarkdownValue`: only backslashes are put in;
* `joins_escapeMarkdownValue`: no label meets a target in an escaped value;
* `isMarked_escapeMarkdownValue`: no line of it begins with a marker, unless a marker in the value
  stands behind whitespace that the pattern does not know.
-/

namespace Perfana.ReportVariables

open Html Markdown

/-! ## Escaping -/

/-- Put in a backslash before each place that is found. What is found depends on what was read of
    the line. -/
def insertBackslashes {σ : Type} (isPlace : σ → List CodeUnit → Bool) (next : σ → CodeUnit → σ) :
    σ → List CodeUnit → List CodeUnit
  | _, [] => []
  | s, u :: us =>
    (if isPlace s (u :: us) then [unit '\\'] else []) ++
      u :: insertBackslashes isPlace next (next s u) us

/-- A parenthesis that opens; the state says that a bracket that closes is before it. -/
def isJoin (afterBracket : Bool) (us : List CodeUnit) : Bool :=
  afterBracket && us.head? = some (unit '(')

/-- The replacement of `](?=\()`. -/
def splitJoins : List CodeUnit → List CodeUnit :=
  insertBackslashes isJoin (fun _ u => u = unit ']') false

/-- The units that may be before a marker. -/
def isIndent (u : CodeUnit) : Bool := u = unit ' ' || u = unit '\t'

/-- Up to six hashes, and a space behind them. -/
def isHeadingMarker (us : List CodeUnit) : Bool :=
  let level := (us.takeWhile (· = unit '#')).length
  1 ≤ level && level ≤ 6 && (us.drop level).head?.any isSpace

/-- A dash or an asterisk, and a space behind it or nothing. -/
def isBulletMarker : List CodeUnit → Bool
  | [] => false
  | u :: us => (u = unit '-' || u = unit '*') && us.head?.all isSpace

/-- A marker, if nothing but blanks is before it in its line. -/
def isMarker (atStart : Bool) (us : List CodeUnit) : Bool :=
  atStart && (isHeadingMarker us || isBulletMarker us)

/-- The replacement of `^([ \t]*)(#{1,6}(?=\s)|[-*](?=\s|$))`. -/
def escapeMarkers : List CodeUnit → List CodeUnit :=
  insertBackslashes isMarker (fun atStart u => isLineTerminator u || atStart && isIndent u) true

/-- What was read of a line that may begin with a number. -/
inductive Lead
  | indent
  | digits
  | other
  deriving DecidableEq

def Lead.next : Lead → CodeUnit → Lead
  | .indent, u =>
    if isLineTerminator u || isIndent u then .indent else if isDigit u then .digits else .other
  | .digits, u => if isLineTerminator u then .indent else if isDigit u then .digits else .other
  | .other, u => if isLineTerminator u then .indent else .other

/-- The delimiter of a number, and a space behind it or nothing. -/
def isDelimiter (lead : Lead) : List CodeUnit → Bool
  | [] => false
  | u :: us => lead = .digits && (u = unit '.' || u = unit ')') && us.head?.all isSpace

/-- The replacement of `^([ \t]*\d+)(?=[.)](?:\s|$))`. -/
def escapeNumbers : List CodeUnit → List CodeUnit :=
  insertBackslashes isDelimiter Lead.next .indent

def escapeMarkdownValue (value : List CodeUnit) : List CodeUnit :=
  escapeNumbers (escapeMarkers (splitJoins value))

/-! ## Placeholders -/

/-- The text of a placeholder may not have these. -/
def isKeyUnit (u : CodeUnit) : Bool :=
  u ≠ unit '\x7b' && u ≠ unit '\x7d' && u ≠ unit '\n'

/-- A placeholder, with its braces. -/
def placeholder (key : List CodeUnit) : List CodeUnit :=
  unit '\x7b' :: key ++ [unit '\x7d']

/-- `REPORT_VARIABLE_PATTERN` at the start of the units. -/
def matchVariable (us : List CodeUnit) : Option (List CodeUnit) :=
  let key := (us.drop 1).takeWhile isKeyUnit
  if !key.isEmpty && (placeholder key).isPrefixOf us then some key else none

/-- What a text is made of: code units, and keys in braces. -/
inductive Part
  | text (u : CodeUnit)
  | braced (key : List CodeUnit)

/-- The parts of a text, from left to right; `skip` units were matched already. -/
def partsFrom : ℕ → List CodeUnit → List Part
  | _, [] => []
  | skip + 1, _ :: us => partsFrom skip us
  | 0, u :: us =>
    match matchVariable (u :: us) with
    | some key => .braced key :: partsFrom (key.length + 1) us
    | none => .text u :: partsFrom 0 us

/-- The values, by their keys. -/
abbrev Values := List CodeUnit → Option (List CodeUnit)

/-- What is put in the place of a part. A key without a value is left as it is. -/
def Part.resolve (values : Values) : Part → List CodeUnit
  | .text u => [u]
  | .braced key => (values key).getD (placeholder key)

/-- A text, which may be missing, with the values in the places of the keys. -/
def substituteReportVariables (text : Option (List CodeUnit)) (values : Values) : List CodeUnit :=
  (partsFrom 0 (text.getD [])).flatMap (Part.resolve values)

example : escapeMarkdownValue (ascii "# a\n12) b\n- [x](y)") =
    ascii "\\# a\n12\\) b\n\\- [x]\\(y)" := by decide +kernel

/-! ## What is put in -/

section

variable {σ : Type} {isPlace : σ → List CodeUnit → Bool} {next : σ → CodeUnit → σ}

/-- Backslashes are put in, and nothing else is. -/
theorem drops_insertBackslashes (s : σ) (us : List CodeUnit) :
    Drops (· = unit '\\') us (insertBackslashes isPlace next s us) := by
  induction us generalizing s with
  | nil => exact .nil
  | cons u us ih =>
    rw [insertBackslashes]
    split
    · exact .drop (by decide) (.keep u (ih _))
    · exact .keep u (ih _)

theorem insertBackslashes_append {a : List CodeUnit}
    (h : ∀ u ∈ a, ∀ s us, isPlace s (u :: us) = false) (s : σ) (b : List CodeUnit) :
    insertBackslashes isPlace next s (a ++ b) =
      a ++ insertBackslashes isPlace next (a.foldl next s) b := by
  induction a generalizing s with
  | nil => rfl
  | cons u a ih =>
    rw [List.cons_append, insertBackslashes, if_neg (by simp [h u List.mem_cons_self]),
      ih fun v hv => h v (List.mem_cons_of_mem _ hv)]
    rfl

/-! ### Lines -/

/-- What is left of a text from the start of each line on. -/
def lineStarts : List CodeUnit → List (List CodeUnit)
  | [] => [[]]
  | u :: us => (u :: us) :: if isLineEnd u then lineStarts us else (lineStarts us).tail

theorem lineStarts_eq (us : List CodeUnit) : lineStarts us = us :: (lineStarts us).tail := by
  cases us <;> rfl

theorem lines_eq (us : List CodeUnit) : lines us = (lineStarts us).map firstLine := by
  induction us with
  | nil => rfl
  | cons u us ih =>
    rw [lineStarts_eq us, List.map_cons] at ih
    cases hu : isLineEnd u with
    | true =>
      have hfirst : firstLine (u :: us) = [] := List.takeWhile_cons_of_neg (by simp [hu])
      rw [lines_cons_of_pos hu, lineStarts, List.map_cons, hfirst, hu, if_pos rfl,
        lineStarts_eq us, List.map_cons, ih]
    | false =>
      have hfirst : firstLine (u :: us) = u :: firstLine us :=
        List.takeWhile_cons_of_pos (by simp [hu])
      rw [lines_cons_of_neg hu, lineStarts, List.map_cons, hfirst, hu,
        if_neg Bool.false_ne_true, ih, List.modifyHead_cons]

/-- If backslashes go into lines, the lines are those of the text, with backslashes. -/
theorem lineStarts_insertBackslashes {init : σ}
    (hplace : ∀ s u us, isPlace s (u :: us) = true → isLineEnd u = false)
    (hnext : ∀ s u, isLineEnd u = true → next s u = init) (s : σ) (us : List CodeUnit) :
    lineStarts (insertBackslashes isPlace next s us) =
      insertBackslashes isPlace next s us ::
        (lineStarts us).tail.map (insertBackslashes isPlace next init) := by
  induction us generalizing s with
  | nil => rfl
  | cons u us ih =>
    have htail : (if isLineEnd u then lineStarts (insertBackslashes isPlace next (next s u) us)
        else (lineStarts (insertBackslashes isPlace next (next s u) us)).tail) =
        (if isLineEnd u then lineStarts us else (lineStarts us).tail).map
          (insertBackslashes isPlace next init) := by
      rw [ih (next s u)]
      split
      · rename_i hu
        rw [hnext s u hu, lineStarts_eq us, List.map_cons]
        rfl
      · rfl
    rw [lineStarts_eq, List.cons.injEq]
    refine ⟨rfl, ?_⟩
    rw [insertBackslashes, lineStarts, List.tail_cons]
    split
    · rename_i hat
      have hu := hplace s u us hat
      rw [List.singleton_append, lineStarts, List.tail_cons]
      have hback : isLineEnd (unit '\\') = false := by decide
      rw [hback, if_neg Bool.false_ne_true, lineStarts, List.tail_cons]
      exact htail
    · rw [List.nil_append, lineStarts, List.tail_cons]
      exact htail

/-! ### The first word -/

/-- Backslashes are no spaces, so they go into words; a word without one is as it was, and no
    place was found in it. -/
theorem insertBackslashes_word {w : List CodeUnit} (hw : ∀ u ∈ w, isSpace u = false)
    (t : List CodeUnit) (s : σ) :
    ∃ w' s', insertBackslashes isPlace next s (w ++ t) =
        w' ++ insertBackslashes isPlace next s' t ∧ (∀ u ∈ w', isSpace u = false) ∧
      (w' = [] ↔ w = []) ∧
      (unit '\\' ∉ w' → w' = w ∧ ∀ a u b, w = a ++ u :: b →
        isPlace (a.foldl next s) (u :: (b ++ t)) = false) := by
  induction w generalizing s with
  | nil => exact ⟨[], s, rfl, List.forall_mem_nil _, Iff.rfl, fun _ => ⟨rfl, by simp⟩⟩
  | cons u w ih =>
    obtain ⟨w', s', heq, hw', hnil, hback⟩ :=
      ih (fun v hv => hw v (List.mem_cons_of_mem _ hv)) (next s u)
    have hu : ∀ v ∈ u :: w', isSpace v = false :=
      List.forall_mem_cons.2 ⟨hw u List.mem_cons_self, hw'⟩
    rw [List.cons_append, insertBackslashes, heq]
    split
    · refine ⟨unit '\\' :: u :: w', s', rfl, ?_, by simp, fun hno => ?_⟩
      · exact List.forall_mem_cons.2 ⟨by decide, hu⟩
      · exact absurd List.mem_cons_self hno
    · rename_i hat
      refine ⟨u :: w', s', rfl, hu, by simp, fun hno => ?_⟩
      obtain ⟨rfl, hplaces⟩ := hback fun hmem => hno (List.mem_cons_of_mem _ hmem)
      refine ⟨rfl, fun a v b hsplit => ?_⟩
      cases a with
      | nil =>
        obtain ⟨rfl, rfl⟩ := List.cons.inj hsplit
        simpa using hat
      | cons x a =>
        obtain ⟨rfl, hrest⟩ := List.cons.inj hsplit
        exact hplaces a v b hrest

end

/-- A text begins with whitespace, then there is a word, and then a space or nothing. The
    whitespace ends no line, and the word is empty only if the line is. -/
structure Split (s b w t : List CodeUnit) : Prop where
  eq : s = b ++ (w ++ t)
  lead : ∀ u ∈ b, isSpace u = true ∧ isLineEnd u = false
  word : ∀ u ∈ w, isSpace u = false
  space : t.head?.all isSpace = true
  ends : w = [] → t.head?.all isLineEnd = true

theorem isSpace_of_isLineEnd {u : CodeUnit} (h : isLineEnd u = true) : isSpace u = true := by
  simp only [isLineEnd, Bool.or_eq_true, decide_eq_true_eq] at h
  rcases h with rfl | rfl <;> decide

theorem exists_split (s : List CodeUnit) : ∃ b w t, Split s b w t := by
  let isLead : CodeUnit → Bool := fun u => isSpace u && !isLineEnd u
  have hspace : ((s.dropWhile isLead).dropWhile (!isSpace ·)).head?.all isSpace = true := by
    have hhead := List.head?_dropWhile_not (!isSpace ·) (s.dropWhile isLead)
    cases hrest : (s.dropWhile isLead).dropWhile (!isSpace ·) with
    | nil => rfl
    | cons u r =>
      rw [hrest] at hhead
      simpa using hhead
  refine ⟨s.takeWhile isLead, (s.dropWhile isLead).takeWhile (!isSpace ·),
    (s.dropWhile isLead).dropWhile (!isSpace ·), ?_, ?_, ?_, hspace, fun hnil => ?_⟩
  · rw [List.takeWhile_append_dropWhile, List.takeWhile_append_dropWhile]
  · intro u hu
    simpa [isLead] using List.mem_takeWhile_imp hu
  · intro u hu
    simpa using List.mem_takeWhile_imp hu
  · -- Without a word, the whitespace is at the end of its line.
    have hall := List.takeWhile_append_dropWhile (p := (!isSpace ·)) (l := s.dropWhile isLead)
    rw [hnil, List.nil_append] at hall
    have hhead := List.head?_dropWhile_not isLead s
    rw [← hall] at hhead
    cases hrest : (s.dropWhile isLead).dropWhile (!isSpace ·) with
    | nil => rfl
    | cons u r =>
      rw [hrest] at hhead hspace
      have hu : isSpace u = true := hspace
      simpa [isLead, hu] using hhead

namespace Split

variable {s b w t : List CodeUnit}

theorem firstLine_eq (h : Split s b w t) : firstLine s = b ++ (w ++ firstLine t) := by
  have hend : ∀ u, isSpace u = false → isLineEnd u = false := by
    intro u hu
    rw [Bool.eq_false_iff]
    intro hend
    rw [isSpace_of_isLineEnd hend] at hu
    cases hu
  rw [h.eq, firstLine_append_of_forall fun u hu => (h.lead u hu).2,
    firstLine_append_of_forall fun u hu => hend u (h.word u hu)]

theorem word_firstLine (h : Split s b w t) : Markdown.word (firstLine s) = w ∧
    afterWord (firstLine s) = firstLine t := by
  have hblank : Markdown.word b = [] := by
    rw [Markdown.word, List.dropWhile_eq_nil_iff.2 fun u hu => (h.lead u hu).1]
    rfl
  obtain ⟨hword, hafter⟩ := word_append_of_nil hblank (w ++ firstLine t)
  rw [h.firstLine_eq, hword, hafter]
  cases w with
  | nil =>
    have hnil : firstLine t = [] := by
      cases t with
      | nil => rfl
      | cons u t =>
        have hu : isLineEnd u = true := h.ends rfl
        exact List.takeWhile_cons_of_neg (by simp [hu])
    rw [hnil]
    exact ⟨rfl, rfl⟩
  | cons u w =>
    have hhead : (firstLine t).head?.all isSpace = true := by
      cases t with
      | nil => rfl
      | cons x t =>
        cases hx : isLineEnd x with
        | true => rw [firstLine, List.takeWhile_cons_of_neg (by simp [hx])]; rfl
        | false =>
          rw [firstLine, List.takeWhile_cons_of_pos (by simp [hx])]
          exact h.space
    have hall : ∀ v ∈ u :: w, (!isSpace v) = true := fun v hv => by rw [h.word v hv]; rfl
    have hdrop : (u :: w ++ firstLine t).dropWhile isSpace = u :: w ++ firstLine t :=
      List.dropWhile_cons_of_neg (by simp [h.word u List.mem_cons_self])
    have hnot : ∀ x, isSpace x = true → (!isSpace x) = false := fun x hx => by rw [hx]; rfl
    rw [Markdown.word, afterWord, hdrop, takeWhile_word hhead hnot, dropWhile_word hhead hnot,
      List.takeWhile_eq_self_iff.2 hall, List.dropWhile_eq_nil_iff.2 hall]
    exact ⟨rfl, rfl⟩

/-- Backslashes go into the word, or behind it. -/
theorem insertBackslashes {σ : Type} {isPlace : σ → List CodeUnit → Bool}
    {next : σ → CodeUnit → σ} (h : Split s b w t)
    (hspace : ∀ st u us, isSpace u = true → isPlace st (u :: us) = false) (st : σ) :
    ∃ w' t', Split (insertBackslashes isPlace next st s) b w' t' ∧
      (firstLine t' = [] ↔ firstLine t = []) ∧
      (unit '\\' ∉ w' → w' = w ∧ ∀ a u c, w = a ++ u :: c →
        isPlace (a.foldl next (b.foldl next st)) (u :: (c ++ t)) = false) := by
  obtain ⟨w', st', heq, hw', hnil, hback⟩ :=
    @insertBackslashes_word σ isPlace next w h.word t (b.foldl next st)
  -- Behind the word there is a space first, as there was.
  have hhead : (ReportVariables.insertBackslashes isPlace next st' t).head? = t.head? := by
    cases t with
    | nil => rfl
    | cons x t =>
      rw [ReportVariables.insertBackslashes, if_neg]
      · rfl
      · rw [hspace _ _ _ h.space]
        exact Bool.false_ne_true
  refine ⟨w', ReportVariables.insertBackslashes isPlace next st' t, ⟨?_, h.lead, hw', ?_, ?_⟩, ?_,
    hback⟩
  · rw [h.eq, insertBackslashes_append fun u hu s us => hspace s u us (h.lead u hu).1, heq]
  · rw [hhead]
    exact h.space
  · rw [hhead]
    exact fun hw => h.ends (hnil.1 hw)
  · have hiff : ∀ x : List CodeUnit, firstLine x = [] ↔ x.head?.all isLineEnd = true := by
      intro x
      cases x with
      | nil => exact ⟨fun _ => rfl, fun _ => rfl⟩
      | cons v x =>
        cases hv : isLineEnd v <;> simp [firstLine, hv]
    rw [hiff, hiff, hhead]

end Split

/-! ### Markers -/

/-- The whitespace before the first word of a line, behind what ends a line for the patterns. -/
def indent (line : List CodeUnit) : List CodeUnit :=
  (line.takeWhile isSpace).rtakeWhile (!isLineTerminator ·)

/-- A marker at the start of a line of the value has only blanks before it. -/
def isIndented (value : List CodeUnit) : Bool :=
  (lines value).all fun line => !isMarked line || (indent line).all isIndent

theorem Split.takeWhile_firstLine {s b w t : List CodeUnit} (h : Split s b w t) (hw : w ≠ []) :
    (firstLine s).takeWhile isSpace = b := by
  obtain ⟨u, w, rfl⟩ := List.exists_cons_of_ne_nil hw
  rw [h.firstLine_eq, List.takeWhile_append_of_pos fun u hu => (h.lead u hu).1, List.cons_append,
    List.takeWhile_cons_of_neg (by simp [h.word u List.mem_cons_self]), List.append_nil]

theorem foldl_isMarker {b : List CodeUnit} :
    b.foldl (fun atStart u => isLineTerminator u || atStart && isIndent u) true =
      (b.rtakeWhile (!isLineTerminator ·)).all isIndent := by
  induction b using List.reverseRecOn with
  | nil => rfl
  | append_singleton b u ih =>
    rw [List.foldl_append, ih]
    cases hu : isLineTerminator u with
    | true =>
      rw [List.rtakeWhile_concat_neg _ _ _ (by simp [hu])]
      simp [hu]
    | false =>
      rw [List.rtakeWhile_concat_pos _ _ _ (by simp [hu]), List.all_append]
      simp [hu]

theorem foldl_leadNext {b : List CodeUnit} (hb : ∀ u ∈ b, isSpace u = true) :
    b.foldl Lead.next .indent =
      if (b.rtakeWhile (!isLineTerminator ·)).all isIndent then .indent else .other := by
  induction b using List.reverseRecOn with
  | nil => rfl
  | append_singleton b u ih =>
    have hspace := hb u (List.mem_append_right b (List.mem_singleton_self u))
    have hdigit : isDigit u = false := isDigit_of_isSpace hspace
    rw [List.foldl_append, ih fun v hv => hb v (List.mem_append_left _ hv)]
    cases hu : isLineTerminator u with
    | true =>
      rw [List.rtakeWhile_concat_neg _ _ _ (by simp [hu])]
      split <;> simp [Lead.next, hu]
    | false =>
      rw [List.rtakeWhile_concat_pos _ _ _ (by simp [hu]), List.all_append]
      split
      · rename_i hall
        cases hindent : isIndent u <;> simp [Lead.next, hu, hdigit, hall, hindent]
      · rename_i hall
        simp [Lead.next, hu, hall]

theorem isSpace_of_isLineTerminator {u : CodeUnit} (h : isLineTerminator u = true) :
    isSpace u = true := by
  simp only [isLineTerminator, isSpace, Bool.and_eq_true, Bool.or_eq_true, decide_eq_true_eq,
    List.contains_iff_mem, List.mem_cons, List.not_mem_nil, or_false] at h ⊢
  omega

theorem isLineTerminator_of_isLineEnd {u : CodeUnit} (h : isLineEnd u = true) :
    isLineTerminator u = true := by
  simp only [isLineEnd, Bool.or_eq_true, decide_eq_true_eq] at h
  rcases h with rfl | rfl <;> decide

theorem isSpace_of_isIndent {u : CodeUnit} (h : isIndent u = true) : isSpace u = true := by
  simp only [isIndent, Bool.or_eq_true, decide_eq_true_eq] at h
  rcases h with rfl | rfl <;> decide

/-- Behind blanks and digits, a delimiter ends a number. -/
theorem foldl_digits {a : List CodeUnit} (h : ∀ u ∈ a, isDigit u = true) (hne : a ≠ [])
    {lead : Lead} (hlead : lead ≠ .other) : a.foldl Lead.next lead = .digits := by
  have hstep : ∀ u, isDigit u = true → ∀ lead ≠ Lead.other, lead.next u = .digits := by
    intro u hu lead hlead
    have hno : ∀ p : CodeUnit → Bool, (∀ v, p v = true → isSpace v = true) → p u = false := by
      intro p hp
      rw [Bool.eq_false_iff]
      intro hpu
      rw [isDigit_of_isSpace (hp u hpu)] at hu
      cases hu
    have hend : isLineTerminator u = false := hno _ fun _ => isSpace_of_isLineTerminator
    have hindent : isIndent u = false := hno _ fun _ => isSpace_of_isIndent
    cases lead with
    | indent => simp [Lead.next, hend, hindent, hu]
    | digits => simp [Lead.next, hend, hu]
    | other => exact absurd rfl hlead
  induction a generalizing lead with
  | nil => exact absurd rfl hne
  | cons u a ih =>
    rw [List.foldl_cons, hstep u (h u List.mem_cons_self) lead hlead]
    cases a with
    | nil => rfl
    | cons v a =>
      exact ih (fun x hx => h x (List.mem_cons_of_mem _ hx)) (List.cons_ne_nil _ _) (by decide)

/-- A word that marks a heading, or a dash or an asterisk, is found. -/
theorem isHeadingMarker_append {w t : List CodeUnit} (hw : isHashWord w = true)
    (ht : t.head?.all isSpace = true) (hne : t ≠ []) : isHeadingMarker (w ++ t) = true := by
  simp only [isHashWord, Bool.and_eq_true, decide_eq_true_eq, List.all_eq_true] at hw
  obtain ⟨⟨hpos, hle⟩, hall⟩ := hw
  have hnot : ∀ u, isSpace u = true → decide (u = unit '#') = false := fun u hu =>
    decide_eq_false (ne_of_isSpace hu (by decide))
  obtain ⟨x, t, rfl⟩ := List.exists_cons_of_ne_nil hne
  have hx : isSpace x = true := ht
  rw [isHeadingMarker, takeWhile_word ht hnot,
    List.takeWhile_eq_self_iff.2 fun u hu => decide_eq_true (hall u hu), List.drop_left,
    decide_eq_true hpos, decide_eq_true hle]
  simpa using hx

section

variable {u : CodeUnit} (hu : isSpace u = true)

include hu

/-- No backslash goes before a space. -/
theorem not_isJoin {afterBracket : Bool} {us : List CodeUnit} :
    isJoin afterBracket (u :: us) = false := by
  have hopen : u ≠ unit '(' := ne_of_isSpace hu (by decide)
  simp [isJoin, hopen]

theorem not_isMarker {atStart : Bool} {us : List CodeUnit} :
    isMarker atStart (u :: us) = false := by
  have hhash : u ≠ unit '#' := ne_of_isSpace hu (by decide)
  have hdash : u ≠ unit '-' := ne_of_isSpace hu (by decide)
  have hstar : u ≠ unit '*' := ne_of_isSpace hu (by decide)
  simp [isMarker, isHeadingMarker, isBulletMarker, hhash, hdash, hstar]

theorem not_isDelimiter {lead : Lead} {us : List CodeUnit} :
    isDelimiter lead (u :: us) = false := by
  have hdot : u ≠ unit '.' := ne_of_isSpace hu (by decide)
  have hparen : u ≠ unit ')' := ne_of_isSpace hu (by decide)
  simp [isDelimiter, hdot, hparen]

end

/-- If an escaped line begins with a marker, the value has that marker, and behind whitespace that
    the patterns do not know. -/
theorem isMarked_firstLine {s : List CodeUnit}
    (h : isMarked (firstLine (escapeMarkdownValue s)) = true) :
    isMarked (firstLine s) = true ∧ (indent (firstLine s)).all isIndent = false := by
  obtain ⟨b, w, t, h₀⟩ := exists_split s
  obtain ⟨w₁, t₁, h₁, ht₁, hword₁⟩ := @Split.insertBackslashes s b w t Bool isJoin
    (fun _ u => u = unit ']') h₀ (fun st u us hu => not_isJoin hu) false
  obtain ⟨w₂, t₂, h₂, ht₂, hword₂⟩ := @Split.insertBackslashes _ b w₁ t₁ Bool isMarker
    (fun atStart u => isLineTerminator u || atStart && isIndent u) h₁
    (fun st u us hu => not_isMarker hu) true
  obtain ⟨w₃, t₃, h₃, ht₃, hword₃⟩ := @Split.insertBackslashes _ b w₂ t₂ Lead isDelimiter Lead.next
    h₂ (fun st u us hu => not_isDelimiter hu) .indent
  have hsame : Markdown.word (firstLine (escapeMarkdownValue s)) = w₃ ∧
    afterWord (firstLine (escapeMarkdownValue s)) = firstLine t₃ := h₃.word_firstLine
  have hno : unit '\\' ∉ w₃ := by
    intro hmem
    have hunit := isMarkerUnit_of_isMarked h (unit '\\') (hsame.1 ▸ hmem)
    exact absurd hunit (by decide)
  -- The word has no backslash, so it is the value's.
  obtain ⟨rfl, hplaces₃⟩ := hword₃ hno
  obtain ⟨rfl, hplaces₂⟩ := hword₂ hno
  obtain ⟨rfl, -⟩ := hword₁ hno
  have hempty : (firstLine t₃).isEmpty = (firstLine t).isEmpty := by
    rw [Bool.eq_iff_iff, List.isEmpty_iff, List.isEmpty_iff, ht₃, ht₂, ht₁]
  rw [isMarked, hsame.1, hsame.2] at h
  refine ⟨?_, ?_⟩
  · rw [isMarked, h₀.word_firstLine.1, h₀.word_firstLine.2, ← hempty]
    exact h
  · rw [Bool.eq_false_iff]
    intro hindent
    have hne : w₃ ≠ [] := by
      rintro rfl
      cases h
    rw [indent, h₀.takeWhile_firstLine hne] at hindent
    have hmarker : b.foldl (fun atStart u => isLineTerminator u || atStart && isIndent u) true =
        true := foldl_isMarker.trans hindent
    have hlead : b.foldl Lead.next .indent = .indent := by
      rw [foldl_leadNext fun u hu => (h₀.lead u hu).1, if_pos hindent]
    rw [Bool.or_eq_true, Bool.and_eq_true] at h
    rcases h with hitem | ⟨hhash, hafter⟩
    · simp only [isItemWord, isNumberWord, Bool.or_eq_true, Bool.and_eq_true,
        decide_eq_true_eq] at hitem
      have hbullet : ∀ u, (u = unit '-' || u = unit '*') = true → w₃ ≠ [u] := by
        intro u hu heq
        have hplace := hplaces₂ [] u [] heq
        rw [List.foldl_nil, hmarker, isMarker, List.nil_append, isBulletMarker, hu, h₁.space]
          at hplace
        simp at hplace
      have hnumber : ∀ u, (u = unit '.' || u = unit ')') = true →
          w₃.dropWhile isDigit = [u] → w₃.takeWhile isDigit = [] := by
        intro u hu heq
        by_contra hdigits
        have hsplit : w₃ = w₃.takeWhile isDigit ++ u :: [] := by
          rw [← heq, List.takeWhile_append_dropWhile]
        have hplace := hplaces₃ _ u [] hsplit
        rw [hlead, foldl_digits (fun v hv => List.mem_takeWhile_imp hv) hdigits (by decide),
          List.nil_append, isDelimiter, hu, h₂.space] at hplace
        simp at hplace
      rcases hitem with (hitem | hitem) | ⟨hdigits, hitem | hitem⟩
      · exact hbullet _ (by decide) hitem
      · exact hbullet _ (by decide) hitem
      · simp [hnumber _ (by decide) hitem] at hdigits
      · simp [hnumber _ (by decide) hitem] at hdigits
    · have ht₁ne : t₁ ≠ [] := by
        rintro rfl
        rw [hempty, ht₁.1 rfl] at hafter
        cases hafter
      obtain ⟨u, w, rfl⟩ := List.exists_cons_of_ne_nil hne
      have hplace := hplaces₂ [] u w rfl
      rw [List.foldl_nil, hmarker, isMarker, ← List.cons_append,
        isHeadingMarker_append hhash h₁.space ht₁ne] at hplace
      cases hplace

/-- The lines of an escaped value are those of the value, each of them escaped. -/
theorem lineStarts_escapeMarkdownValue (value : List CodeUnit) :
    lineStarts (escapeMarkdownValue value) = (lineStarts value).map escapeMarkdownValue := by
  have hend : ∀ p : CodeUnit → Prop, (∀ u, isSpace u = true → ¬p u) → ∀ u, p u →
      isLineEnd u = false := by
    intro p hp u hu
    rw [Bool.eq_false_iff]
    exact fun hend => hp u (isSpace_of_isLineEnd hend) hu
  have hjoin : ∀ us, lineStarts (splitJoins us) = (lineStarts us).map splitJoins := by
    intro us
    rw [lineStarts_eq us]
    refine lineStarts_insertBackslashes (fun s u us h => ?_) (fun s u h => ?_) false us
    · exact hend (fun u => isJoin s (u :: us) = true) (fun u hu => by simp [not_isJoin hu]) u h
    · exact decide_eq_false (ne_of_isSpace (isSpace_of_isLineEnd h) (by decide))
  have hmarker : ∀ us, lineStarts (escapeMarkers us) = (lineStarts us).map escapeMarkers := by
    intro us
    rw [lineStarts_eq us]
    refine lineStarts_insertBackslashes (fun s u us h => ?_) (fun s u h => ?_) true us
    · exact hend (fun u => isMarker s (u :: us) = true) (fun u hu => by simp [not_isMarker hu]) u h
    · simp [isLineTerminator_of_isLineEnd h]
  have hnumber : ∀ us, lineStarts (escapeNumbers us) = (lineStarts us).map escapeNumbers := by
    intro us
    rw [lineStarts_eq us]
    refine lineStarts_insertBackslashes (fun s u us h => ?_) (fun s u h => ?_) Lead.indent us
    · refine hend (fun u => isDelimiter s (u :: us) = true) (fun u hu => ?_) u h
      simp [not_isDelimiter hu]
    · cases s <;> simp [Lead.next, isLineTerminator_of_isLineEnd h]
  rw [escapeMarkdownValue, hnumber, hmarker, hjoin, List.map_map, List.map_map]
  rfl

/-- No line of an escaped value begins with a marker. -/
theorem isMarked_escapeMarkdownValue {value : List CodeUnit} (h : isIndented value = true) :
    ∀ line ∈ lines (escapeMarkdownValue value), isMarked line = false := by
  intro line hline
  rw [lines_eq, lineStarts_escapeMarkdownValue, List.map_map] at hline
  obtain ⟨s, hs, rfl⟩ := List.mem_map.1 hline
  rw [Bool.eq_false_iff]
  intro hmarked
  obtain ⟨hline, hindent⟩ := isMarked_firstLine hmarked
  have hmem : firstLine s ∈ lines value := by
    rw [lines_eq]
    exact List.mem_map_of_mem hs
  have hall := List.all_eq_true.1 h (firstLine s) hmem
  rw [hline, hindent] at hall
  cases hall

theorem joins_backslash_cons (t : List CodeUnit) : joins (unit '\\' :: t) = joins t :=
  joins_of_not_mem (by decide : unit ']' ∉ [unit '\\']) t

theorem joins_insertBackslashes {σ : Type} {isPlace : σ → List CodeUnit → Bool}
    {next : σ → CodeUnit → σ} (s : σ) (us : List CodeUnit) :
    joins (insertBackslashes isPlace next s us) ≤ joins us := by
  induction us generalizing s with
  | nil => exact le_rfl
  | cons u us ih =>
    have hnext : (insertBackslashes isPlace next (next s u) us).head? = some (unit '(') →
        us.head? = some (unit '(') := by
      cases us with
      | nil => exact id
      | cons v us =>
        rw [insertBackslashes]
        split
        · intro h
          cases h
        · exact id
    have hrest := ih (next s u)
    have hcons : joins (u :: insertBackslashes isPlace next (next s u) us) ≤ joins (u :: us) := by
      rw [joins, joins]
      split_ifs with h h'
      · omega
      · exact absurd ⟨h.1, hnext h.2⟩ h'
      · omega
      · omega
    rw [insertBackslashes]
    split
    · exact (joins_backslash_cons _).le.trans hcons
    · exact hcons

theorem joins_splitJoins (us : List CodeUnit) : joins (splitJoins us) = 0 := by
  suffices hall : ∀ afterBracket, joins (insertBackslashes isJoin (fun _ u => u = unit ']')
      afterBracket us) = 0 ∧ (afterBracket = true → (insertBackslashes isJoin
        (fun _ u => u = unit ']') afterBracket us).head? ≠ some (unit '(')) from (hall false).1
  induction us with
  | nil => exact fun _ => ⟨rfl, fun _ => by simp [insertBackslashes]⟩
  | cons u us ih =>
    intro afterBracket
    obtain ⟨hzero, hhead⟩ := ih (u = unit ']')
    have hcons : joins (u :: insertBackslashes isJoin (fun _ u => u = unit ']') (u = unit ']') us) =
        0 := by
      rw [joins, hzero, if_neg]
      exact fun h => hhead (decide_eq_true h.1) h.2
    rw [insertBackslashes]
    split
    · exact ⟨(joins_backslash_cons _).trans hcons, fun _ h => by cases h⟩
    · rename_i hplace
      refine ⟨hcons, fun hafter => ?_⟩
      simpa [isJoin, hafter] using hplace

/-- No label meets a target in an escaped value. -/
theorem joins_escapeMarkdownValue (value : List CodeUnit) :
    joins (escapeMarkdownValue value) = 0 := by
  have hnumbers : joins (escapeMarkdownValue value) ≤ joins (escapeMarkers (splitJoins value)) :=
    joins_insertBackslashes _ _
  have hmarkers : joins (escapeMarkers (splitJoins value)) ≤ joins (splitJoins value) :=
    joins_insertBackslashes _ _
  have hzero := joins_splitJoins value
  omega

/-- Only backslashes are put into a value. -/
theorem drops_escapeMarkdownValue (value : List CodeUnit) :
    Drops (· = unit '\\') value (escapeMarkdownValue value) :=
  ((drops_insertBackslashes _ _).trans (drops_insertBackslashes _ _)).trans
    (drops_insertBackslashes _ _)

end Perfana.ReportVariables
