import Perfana.Shared.MarkdownElements

/-!
# The text of rendered Markdown

A document without headings, items and links is paragraphs. Their text is that of the source, but
for the marks of emphasis and code, which are not shown, and for the whitespace.

* `unmarkedWords_trim`, `flatMap_unmarkedWords`: the words of a text do not depend on how its lines
  are ended, or on whitespace around them;
* `shown_renderMarkdown`: such a document has the tags of paragraphs, and the words of its source.
-/

namespace Perfana.Markdown

open Html

/-! ## The text of paragraphs -/

/-- The words of a text without the marks of emphasis and code. -/
def unmarkedWords (s : List CodeUnit) : List (List CodeUnit) :=
  fieldsBy isSpace (s.filter (!isMark ·))

theorem unmarkedWords_append_cons {u : CodeUnit} (hspace : isSpace u = true)
    (hmark : isMark u = false) (s t : List CodeUnit) :
    unmarkedWords (s ++ u :: t) = unmarkedWords s ++ unmarkedWords t := by
  rw [unmarkedWords, List.filter_append, List.filter_cons_of_pos (by simp [hmark]),
    fieldsBy_append_cons hspace]
  rfl

theorem unmarkedWords_intercalate (ls : List (List CodeUnit)) :
    unmarkedWords ([unit '\n'].intercalate ls) = ls.flatMap unmarkedWords := by
  induction ls with
  | nil => rfl
  | cons l ls ih =>
    cases ls with
    | nil => simp
    | cons l' ls =>
      rw [List.intercalate_cons_cons, List.append_assoc, List.singleton_append,
        unmarkedWords_append_cons (by decide) (by decide), ih]
      rfl

/-- Whitespace around a line is no part of its words. -/
theorem unmarkedWords_trim (s : List CodeUnit) : unmarkedWords (trim s) = unmarkedWords s := by
  have hmark : ∀ u, isSpace u = true → isMark u = false := by
    intro u hu
    rw [Bool.eq_false_iff]
    intro hmark
    simp only [isMark, Bool.or_eq_true, decide_eq_true_eq] at hmark
    rcases hmark with rfl | rfl <;> exact absurd hu (by decide)
  have hspaces : ∀ t : List CodeUnit, (∀ u ∈ t, isSpace u = true) →
      ∀ u ∈ t.filter (!isMark ·), isSpace u = true := fun t ht u hu => ht u (List.mem_filter.1 hu).1
  -- Both ends are split off, and have no words.
  have hleft : unmarkedWords (s.dropWhile isSpace) = unmarkedWords s := by
    conv_rhs => rw [← List.takeWhile_append_dropWhile (p := isSpace) (l := s)]
    rw [unmarkedWords, unmarkedWords, List.filter_append,
      fieldsBy_append_left (hspaces _ fun u hu => List.mem_takeWhile_imp hu)]
  have hright : ∀ t, unmarkedWords (t.rdropWhile isSpace) = unmarkedWords t := by
    intro t
    conv_rhs => rw [← List.rdropWhile_append_rtakeWhile (p := isSpace) (l := t)]
    rw [unmarkedWords, unmarkedWords, List.filter_append,
      fieldsBy_append_right (hspaces _ fun u hu => List.mem_rtakeWhile_imp hu)]
  exact (hright _).trans hleft

theorem unmarkedWords_of_drops {s t : List CodeUnit} (h : Drops isMark s t) :
    unmarkedWords s = unmarkedWords t := by
  rw [unmarkedWords, unmarkedWords, h.filter_eq]

/-- What is left of an escaped text is escaped. -/
theorem exists_escape_of_drops {p : CodeUnit → Bool} (hp : isApart p = true)
    {x y : List CodeUnit} (h : Drops p x (escape y)) : ∃ t, x = escape t := by
  induction y generalizing x with
  | nil =>
    cases h
    exact ⟨[], rfl⟩
  | cons u y ih =>
    rcases isEscaped_cases u with hmem | hno
    · rw [escape_cons] at h
      obtain ⟨x', rfl, hx'⟩ := h.exists_append (isApart_iff hp hmem).2
      obtain ⟨t, rfl⟩ := ih hx'
      exact ⟨u :: t, (escape_cons u t).symm⟩
    · rw [escape_cons_of_not hno] at h
      cases h with
      | keep _ h =>
        obtain ⟨t, rfl⟩ := ih h
        exact ⟨u :: t, (escape_cons_of_not hno t).symm⟩
      | drop _ h => exact ih h

theorem escape_intercalate (ls : List (List CodeUnit)) :
    escape ([unit '\n'].intercalate ls) = [unit '\n'].intercalate (ls.map escape) := by
  induction ls with
  | nil => rfl
  | cons l ls ih =>
    cases ls with
    | nil => simp
    | cons l' ls =>
      rw [List.intercalate_cons_cons, escape_append, escape_append, ih]
      simp only [List.map_cons, List.intercalate_cons_cons]
      rfl

theorem exists_map_escape {ls : List (List CodeUnit)} (h : ∀ l ∈ ls, ∃ t, l = escape t) :
    ∃ ts : List (List CodeUnit), ls = ts.map escape := by
  refine ⟨ls.map unescape, ?_⟩
  rw [List.map_map]
  refine (List.map_id ls).symm.trans (List.map_congr_left fun l hl => ?_)
  obtain ⟨t, rfl⟩ := h l hl
  rw [Function.comp_apply, unescape_escape, id]

/-- The words of a text are escaped one by one. -/
theorem unmarkedWords_escape (s : List CodeUnit) :
    unmarkedWords (escape s) = (unmarkedWords s).map escape := by
  have hfilter : (escape s).filter (!isMark ·) = escape (s.filter (!isMark ·)) := by
    induction s with
    | nil => rfl
    | cons u s ih =>
      rcases isEscaped_cases u with hmem | hno
      · obtain ⟨hu, hunits⟩ := isApart_iff (p := isMark) (by decide) hmem
        rw [escape_cons, List.filter_append, ih, List.filter_cons_of_pos (by simp [hu]),
          escape_cons, List.filter_eq_self.2 fun v hv => by simp [hunits v hv]]
      · rw [escape_cons_of_not hno, List.filter_cons, List.filter_cons, ih]
        split
        · rw [escape_cons_of_not hno]
        · rfl
  have hempty : (fun l => !(escape l).isEmpty) = fun l => !l.isEmpty :=
    funext fun l => by rw [isEmpty_escape]
  rw [unmarkedWords, hfilter, fieldsBy, splitOnP_escape isApart_isSpace, List.filter_map,
    Function.comp_def, hempty]
  rfl

theorem escape_injective : Function.Injective escape := fun s t h => by
  rw [← unescape_escape s, h, unescape_escape]

/-- The tags of paragraphs, without links. -/
def paragraphTags : List (List CodeUnit) := ascii "p" :: ascii "/p" :: markTags

/-- What the lines gone through show if they are neither headings nor items, and have no links. -/
structure ReadsText (s : State) (ls : List (List CodeUnit)) : Prop where
  list : s.list = none
  closed : ∀ html ∈ s.out, IsClosed html
  names : ∀ html ∈ s.out, ∀ name ∈ tagNames html, name ∈ paragraphTags
  /-- The text between the tags is escaped. -/
  escaped : ∀ html ∈ s.out, ∃ t, textFrom false html = escape t
  paragraph : ∀ line ∈ s.paragraph, (∃ t, line = escape t) ∧ joins line = 0
  /-- No word is lost. -/
  words : (s.out.flatMap fun html => unmarkedWords (textFrom false html)) ++
    s.paragraph.flatMap unmarkedWords = ls.flatMap unmarkedWords

theorem ReadsText.flushParagraph (styled : Bool) {s : State} {ls : List (List CodeUnit)}
    (h : ReadsText s ls) : ReadsText (flushParagraph styled s) ls := by
  rw [Markdown.flushParagraph]
  split
  · exact h
  · have hplain : ∀ line ∈ s.paragraph, isPlain line = true := by
      intro line hline
      obtain ⟨⟨t, rfl⟩, -⟩ := h.paragraph line hline
      exact isPlain_escape t
    have hlines := inlineShown_lines styled hplain
    have hread : Readable "p" (attr P_STYLE styled) :=
      readable_attr styled (by decide) (by decide) (by decide +kernel)
    have hshown := Shown.element hread hlines.closed
    have hnone : joins ([unit '\n'].intercalate s.paragraph) = 0 := by
      rw [joins_intercalate, List.sum_eq_zero_iff_forall_eq_nat]
      exact List.forall_mem_map.2 fun line hline => (h.paragraph line hline).2
    have hdrops := hlines.text hnone
    obtain ⟨ts, hts⟩ := exists_map_escape fun line hline => (h.paragraph line hline).1
    refine
      { list := h.list
        closed := List.forall_mem_append.2 ⟨h.closed, List.forall_mem_singleton.2 hshown.isClosed⟩
        names := List.forall_mem_append.2 ⟨h.names, List.forall_mem_singleton.2 ?_⟩
        escaped := List.forall_mem_append.2 ⟨h.escaped, List.forall_mem_singleton.2 ?_⟩
        paragraph := List.forall_mem_nil _
        words := ?_ }
    · rw [hshown.tagNames_eq]
      intro name hname
      simp only [List.mem_cons, List.mem_append, List.not_mem_nil, or_false] at hname
      rcases hname with rfl | hname | rfl
      · exact List.mem_cons_self
      · have hmark := hlines.unlinked hnone name hname
        exact List.mem_cons_of_mem _ (List.mem_cons_of_mem _ hmark)
      · exact List.mem_cons_of_mem _ List.mem_cons_self
    · rw [hshown.textFrom_eq]
      refine exists_escape_of_drops (p := isMark) (by decide)
        (y := [unit '\n'].intercalate ts) ?_
      rwa [escape_intercalate, ← hts]
    · rw [List.flatMap_append, List.flatMap_singleton, hshown.textFrom_eq,
        unmarkedWords_of_drops hdrops, unmarkedWords_intercalate]
      exact (List.append_nil _).trans h.words

theorem ReadsText.renderLine (styled : Bool) {s : State} {ls : List (List CodeUnit)}
    (h : ReadsText s ls) {line : List CodeUnit} (hblock : blockTag (trim (escape line)) = none)
    (hjoins : joins (escape line) = 0) :
    ReadsText (renderLine styled s (escape line)) (ls ++ [escape line]) := by
  have hwords : unmarkedWords (trim (escape line)) = unmarkedWords (escape line) :=
    unmarkedWords_trim _
  rw [Markdown.renderLine]
  split
  · rename_i hempty
    have hflush := h.flushParagraph styled
    rw [List.isEmpty_iff.1 hempty] at hwords
    refine { hflush with words := ?_ }
    rw [hflush.words, List.flatMap_append, List.flatMap_singleton, ← hwords]
    exact (List.append_nil _).symm
  · rw [blockTag] at hblock
    split
    · rename_i heading hheading
      rw [hheading] at hblock
      cases hblock
    · rename_i hheading
      rw [hheading] at hblock
      dsimp only at hblock ⊢
      split
      · rename_i hitem
        rw [if_pos hitem] at hblock
        cases hblock
      · -- There is no list to be ended, and the line goes to the paragraph.
        have hlist : flushList styled s = s := by rw [flushList, h.list]
        have hline : (∃ t, trim (escape line) = escape t) ∧ joins (trim (escape line)) = 0 := by
          refine ⟨⟨trim line, trim_escape line⟩, ?_⟩
          have hle := joins_le_of_piece (trim_piece (escape line))
          omega
        rw [hlist]
        refine
          { h with
            paragraph := List.forall_mem_append.2
              ⟨h.paragraph, List.forall_mem_singleton.2 hline⟩
            words := ?_ }
        dsimp only
        rw [List.flatMap_append, List.flatMap_singleton, hwords, ← List.append_assoc, h.words,
          List.flatMap_append, List.flatMap_singleton]

theorem foldl_renderLine_readsText (styled : Bool) {s : State} {done ls : List (List CodeUnit)}
    (h : ReadsText s done)
    (hls : ∀ l ∈ ls, ∃ t, l = escape t ∧ blockTag (trim l) = none ∧ joins l = 0) :
    ReadsText (ls.foldl (Markdown.renderLine styled) s) (done ++ ls) := by
  induction ls generalizing s done with
  | nil => exact (List.append_nil done).symm ▸ h
  | cons l ls ih =>
    obtain ⟨t, rfl, hblock, hjoins⟩ := hls l List.mem_cons_self
    have hstep := ih (h.renderLine styled hblock hjoins)
      fun m hm => hls m (List.mem_cons_of_mem _ hm)
    rwa [List.append_assoc] at hstep

theorem flushParagraph_paragraph (styled : Bool) (s : State) :
    (flushParagraph styled s).paragraph = [] := by
  rw [flushParagraph]
  split
  · rename_i hempty
    exact List.isEmpty_iff.1 hempty
  · rfl

/-- The words of the lines, however they are ended. -/
theorem flatMap_unmarkedWords (source : List CodeUnit) :
    ((normalizeFrom false source).splitOn (unit '\n')).flatMap unmarkedWords =
      unmarkedWords source := by
  have hnonempty : ∀ ls : List (List CodeUnit), ls.flatMap unmarkedWords =
      (ls.filter (!·.isEmpty)).flatMap unmarkedWords := by
    intro ls
    induction ls with
    | nil => rfl
    | cons l ls ih =>
      rw [List.flatMap_cons, ih, List.filter_cons]
      cases l <;> rfl
  rw [hnonempty, filter_splitOn_normalizeFrom, ← hnonempty]
  refine flatMap_splitOnP (fun u hu l m => ?_) source
  simp only [isLineEnd, Bool.or_eq_true, decide_eq_true_eq] at hu
  rcases hu with rfl | rfl
  · exact unmarkedWords_append_cons (by decide) (by decide) l m
  · exact unmarkedWords_append_cons (by decide) (by decide) l m

theorem ReadsText.flushList (styled : Bool) {s : State} {ls : List (List CodeUnit)}
    (h : ReadsText s ls) : flushList styled s = s := by
  rw [Markdown.flushList, h.list]

/-- A document without headings, items and links shows the lines of its paragraphs. -/
theorem renderMarkdown_readsText {source : List CodeUnit} (styled : Option Bool)
    (hlines : ∀ line ∈ lines source, blockTag (trim line) = none) (hjoins : joins source = 0) :
    ∃ s : State, renderMarkdown (some source) styled = (ascii "\n").intercalate s.out ∧
      s.paragraph = [] ∧
      ReadsText s ((normalizeFrom false (escape source)).splitOn (unit '\n')) := by
  have hzero : (((normalizeFrom false (escape source)).splitOn (unit '\n')).map joins).sum = 0 := by
    rw [← joins_intercalate, List.intercalate_splitOn]
    have hle := joins_normalizeFrom false (escape source)
    rw [joins_escape] at hle
    omega
  have hls : ∀ l ∈ (normalizeFrom false (escape source)).splitOn (unit '\n'),
      ∃ t, l = escape t ∧ blockTag (trim l) = none ∧ joins l = 0 := by
    intro l hl
    have hnone := List.sum_eq_zero_iff_forall_eq_nat.1 hzero _ (List.mem_map_of_mem hl)
    cases l with
    | nil => exact ⟨[], rfl, rfl, rfl⟩
    | cons u l =>
      have hmem := List.mem_filter (p := (!·.isEmpty)).2 ⟨hl, rfl⟩
      rw [filter_splitOn_normalizeFrom, lines, splitOnP_escape (by decide)] at hmem
      obtain ⟨t, ht, hescape⟩ := List.mem_map.1 (List.mem_filter.1 hmem).1
      rw [← hescape] at hnone ⊢
      refine ⟨t, rfl, ?_, hnone⟩
      rw [trim_escape, blockTag_escape, hlines t ht]
  have hstart : ReadsText {} [] :=
    { list := rfl
      closed := List.forall_mem_nil _
      names := List.forall_mem_nil _
      escaped := List.forall_mem_nil _
      paragraph := List.forall_mem_nil _
      words := rfl }
  have hreads := (foldl_renderLine_readsText (styled.getD STYLED_DEFAULT) hstart hls).flushParagraph
    (styled.getD STYLED_DEFAULT)
  refine ⟨_, rfl, ?_, ?_⟩
  · exact (congrArg State.paragraph (hreads.flushList _)).trans (flushParagraph_paragraph _ _)
  · exact (hreads.flushList (styled.getD STYLED_DEFAULT)).symm ▸ hreads

/-- Without headings, items and links a document is paragraphs, and has the words of its source. -/
theorem shown_renderMarkdown {source : List CodeUnit} (styled : Option Bool)
    (hlines : ∀ line ∈ lines source, blockTag (trim line) = none) (hjoins : joins source = 0) :
    (∀ name ∈ tagNames (renderMarkdown (some source) styled), name ∈ paragraphTags) ∧
      unmarkedWords (textContent (renderMarkdown (some source) styled)) = unmarkedWords source := by
  obtain ⟨s, hhtml, hparagraph, hreads⟩ := renderMarkdown_readsText styled hlines hjoins
  obtain ⟨ts, hts⟩ := @exists_map_escape (s.out.map (textFrom false))
    (List.forall_mem_map.2 hreads.escaped)
  have htext : textContent (renderMarkdown (some source) styled) =
      [unit '\n'].intercalate ts := by
    have hsep : IsClosed (ascii "\n") := (Shown.plain (by decide)).isClosed
    have hshown := Shown.intercalate hsep hreads.closed
    rw [textContent, hhtml, hshown.textFrom_eq, hts]
    exact (congrArg unescape (escape_intercalate ts).symm).trans (unescape_escape _)
  constructor
  · rw [hhtml, tagNames_intercalate hreads.closed]
    intro name hname
    obtain ⟨html, hmem, hname⟩ := List.mem_flatMap.1 hname
    exact hreads.names html hmem name hname
  · have hwords := hreads.words
    rw [hparagraph, List.flatMap_nil, List.append_nil,
      flatMap_unmarkedWords, unmarkedWords_escape] at hwords
    refine List.map_injective_iff.2 escape_injective ?_
    rw [← hwords, htext, ← unmarkedWords_escape, escape_intercalate, ← hts,
      unmarkedWords_intercalate, List.flatMap_map]

end Perfana.Markdown
