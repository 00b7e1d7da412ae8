import Perfana.Lib.Fields
import Perfana.Lib.HtmlText
import Perfana.Shared.Markdown

/-!
# The elements of rendered Markdown

The elements that a document gets are told from its source. A heading or an item comes from a
line that begins with its marker, and a link from a place where a label ends and a target begins.

* `inlineShown`: a line shows its text, with elements in it;
* `blockTags_renderMarkdown`: the headings and the items are those of the lines, in their order;
* `count_links_le`: there are no more links than such places.
-/

namespace Perfana.Markdown

open Html

/-! ## Links -/

/-- How often a closing bracket and an opening parenthesis meet. -/
def joins : List CodeUnit → ℕ
  | [] => 0
  | u :: us => (if u = unit ']' ∧ us.head? = some (unit '(') then 1 else 0) + joins us

theorem joins_append_le (s t : List CodeUnit) : joins s + joins t ≤ joins (s ++ t) := by
  induction s with
  | nil => simp [joins]
  | cons u s ih =>
    have hnext : s.head? = some (unit '(') → (s ++ t).head? = some (unit '(') := by
      intro h
      rw [List.head?_append, h]
      rfl
    have hhead : (if u = unit ']' ∧ s.head? = some (unit '(') then 1 else 0) ≤
        if u = unit ']' ∧ (s ++ t).head? = some (unit '(') then 1 else 0 := by
      split_ifs with h h'
      · exact le_rfl
      · exact absurd ⟨h.1, hnext h.2⟩ h'
      · exact Nat.zero_le 1
      · exact le_rfl
    rw [List.cons_append, joins, joins]
    omega

theorem joins_le_of_piece {s t : List CodeUnit} (h : s <:+: t) : joins s ≤ joins t := by
  obtain ⟨a, b, rfl⟩ := h
  have hleft := joins_append_le a s
  have hright := joins_append_le (a ++ s) b
  omega

theorem joins_of_not_mem {s : List CodeUnit} (h : unit ']' ∉ s) (t : List CodeUnit) :
    joins (s ++ t) = joins t := by
  induction s with
  | nil => rfl
  | cons u s ih =>
    rw [List.mem_cons, not_or] at h
    rw [List.cons_append, joins, if_neg fun hjoin => h.1 hjoin.1.symm, Nat.zero_add]
    exact ih h.2

/-! ## A line -/

/-- The code unit marks code or emphasis. -/
def isMark (u : CodeUnit) : Bool := u = unit '`' || u = unit '*'

/-- The tags in lines, without links, -/
def markTags : List (List CodeUnit) :=
  ["code", "/code", "strong", "/strong", "em", "/em", "br"].map ascii

/-- and with links. -/
def inlineTags : List (List CodeUnit) := ascii "a" :: ascii "/a" :: markTags

/-- What the markup of a line shows. -/
structure InlineShown (html us : List CodeUnit) : Prop where
  closed : IsClosed html
  names : ∀ name ∈ tagNames html, name ∈ inlineTags
  links : (tagNames html).count (ascii "a") ≤ joins us
  unlinked : joins us = 0 → ∀ name ∈ tagNames html, name ∈ markTags
  /-- Without a link, nothing but marks is left out of the text. -/
  text : joins us = 0 → Drops isMark (textFrom false html) us

namespace InlineShown

variable {html html' us us' : List CodeUnit}

theorem plain (h : isPlain us = true) : InlineShown us us := by
  have hshown := Shown.plain h
  constructor
  · exact hshown.isClosed
  · rw [hshown.tagNames_eq]
    exact List.forall_mem_nil _
  · rw [hshown.tagNames_eq]
    exact Nat.zero_le _
  · rw [hshown.tagNames_eq]
    exact fun _ => List.forall_mem_nil _
  · rw [hshown.textFrom_eq]
    exact fun _ => .refl us

theorem append (h : InlineShown html us) (h' : InlineShown html' us') :
    InlineShown (html ++ html') (us ++ us') := by
  have hshown := h.closed.append h'.closed
  have hjoins := joins_append_le us us'
  constructor
  · exact hshown.isClosed
  · rw [hshown.tagNames_eq]
    exact List.forall_mem_append.2 ⟨h.names, h'.names⟩
  · rw [hshown.tagNames_eq, List.count_append]
    exact (Nat.add_le_add h.links h'.links).trans hjoins
  · rw [hshown.tagNames_eq]
    exact fun hnone => List.forall_mem_append.2
      ⟨h.unlinked (by omega), h'.unlinked (by omega)⟩
  · rw [hshown.textFrom_eq]
    exact fun hnone => (h.text (by omega)).append (h'.text (by omega))

end InlineShown

/-- An element of a line shows its content: the marks around it are left out. -/
theorem shown_marked {tag : String} {attributes : List Attribute} {mark content : List CodeUnit}
    (hread : Readable tag attributes) (htag : ascii tag ∈ markTags)
    (htag' : ascii ("/" ++ tag) ∈ markTags) (hmark : ∀ u ∈ mark, isMark u = true)
    (hplain : isPlain content = true) :
    InlineShown (element tag attributes content) (mark ++ content ++ mark) := by
  have hshown := Shown.element hread (Shown.plain hplain)
  have hnames : ∀ name ∈ [ascii tag, ascii ("/" ++ tag)], name ∈ markTags := by
    simp [htag, htag']
  have hlink : ascii "a" ∉ markTags := by decide
  constructor
  · exact hshown.isClosed
  · rw [hshown.tagNames_eq]
    exact fun name hname => List.mem_cons_of_mem _ (List.mem_cons_of_mem _ (hnames name hname))
  · rw [hshown.tagNames_eq]
    exact (List.count_eq_zero_of_not_mem fun hmem => hlink (hnames _ hmem)).le.trans (Nat.zero_le _)
  · rw [hshown.tagNames_eq]
    exact fun _ => hnames
  · rw [hshown.textFrom_eq]
    intro
    have hdrops := ((Drops.of_forall hmark).append (.refl content)).append (.of_forall hmark)
    rwa [List.nil_append, List.append_nil] at hdrops

theorem readable_nil {tag : String} (hname : isName tag = true) (hne : ascii tag ≠ ascii "br") :
    Readable tag [] where
  name := hname
  name_ne := hne
  attributes := List.forall_mem_nil _

theorem readable_attr {tag style : String} (styled : Bool) (hname : isName tag = true)
    (hne : ascii tag ≠ ascii "br") (hstyle : isPlain (ascii style) = true) :
    Readable tag (attr style styled) where
  name := hname
  name_ne := hne
  attributes := by
    intro a ha
    rw [attr] at ha
    split at ha
    · rw [List.mem_singleton.1 ha]
      exact ⟨(by decide : isName "style" = true), hstyle⟩
    · cases ha

theorem one_le_joins (label href : List CodeUnit) : 1 ≤ joins (Inline.link label href).text := by
  have hpiece : ascii "](" <:+: (Inline.link label href).text :=
    ⟨ascii "[" ++ label, href ++ ascii ")", by simp [Inline.text]⟩
  exact joins_le_of_piece hpiece

theorem inlineShown_replacement (styled : Bool) {us : List CodeUnit} {found : Inline}
    (h : matchInline us = some found) (hplain : isPlain us = true) :
    InlineShown (replacement styled found) found.text := by
  have htext : isPlain found.text = true :=
    isPlain_of_subset hplain (matchInline_isPrefixOf h).subset
  cases found with
  | code content =>
    have hread : Readable "code" (attr CODE_STYLE styled) :=
      readable_attr styled (by decide) (by decide) (by decide +kernel)
    exact shown_marked hread (by decide) (by decide) (List.forall_iff_forall_mem.1 (by decide))
      (isPlain_of_subset htext (by simp [Inline.text]))
  | bold content =>
    exact shown_marked (readable_nil (by decide) (by decide)) (by decide) (by decide)
      (List.forall_iff_forall_mem.1 (by decide))
      (isPlain_of_subset htext (by simp [Inline.text]))
  | italic content =>
    exact shown_marked (readable_nil (by decide) (by decide)) (by decide) (by decide)
      (List.forall_iff_forall_mem.1 (by decide))
      (isPlain_of_subset htext (by simp [Inline.text]))
  | link label href =>
    have hone := one_le_joins label href
    rw [replacement]
    split
    · have hread : Readable "a" [("href", href)] :=
        { name := by decide
          name_ne := by decide
          attributes := List.forall_mem_singleton.2
            ⟨(by decide : isName "href" = true),
              isPlain_of_subset htext fun u hu => by simp [Inline.text, hu]⟩ }
      have hshown := Shown.element hread (Shown.plain (t := label)
        (isPlain_of_subset htext fun u hu => by simp [Inline.text, hu]))
      constructor
      · exact hshown.isClosed
      · rw [hshown.tagNames_eq]
        decide
      · rw [hshown.tagNames_eq]
        exact hone
      · intro hnone
        omega
      · intro hnone
        omega
    · exact .plain htext

/-- A line shows its text, with elements in it. -/
theorem inlineShown (styled : Bool) {skip : ℕ} {us : List CodeUnit} (h : isPlain us = true) :
    InlineShown (inlineFrom styled skip us) (us.drop skip) := by
  induction skip, us using inlineFrom.induct with
  | case1 skip =>
    rw [inlineFrom, List.drop_nil]
    exact .plain rfl
  | case2 skip u us ih => exact ih (isPlain_of_subset h (List.subset_cons_self u us))
  | case3 u us found hfound ih =>
    have hus := ih (isPlain_of_subset h (List.subset_cons_self u us))
    have hall := (inlineShown_replacement styled hfound h).append hus
    have hpos : 0 < found.text.length := by
      cases found <;> simp [Inline.text, ascii]
    obtain ⟨rest, hrest⟩ := matchInline_isPrefixOf hfound
    -- What is left is behind the match.
    have hdrop : us.drop (found.text.length - 1) = rest := by
      rw [← List.drop_succ_cons (a := u), Nat.sub_add_cancel hpos, ← hrest, List.drop_left]
    rw [hdrop, hrest] at hall
    rwa [inlineFrom, hfound]
  | case4 u us hnone ih =>
    rw [inlineFrom, hnone]
    have hu : isPlain [u] = true := isPlain_of_subset h (by simp)
    exact (InlineShown.plain hu).append (ih (isPlain_of_subset h (List.subset_cons_self u us)))

/-- Between lines, nothing is joined. -/
theorem joins_append_cons {u : CodeUnit} (hclose : u ≠ unit ']') (hopen : u ≠ unit '(')
    (s t : List CodeUnit) : joins (s ++ u :: t) = joins s + joins t := by
  induction s with
  | nil =>
    change (if _ then 1 else 0) + joins t = 0 + joins t
    rw [if_neg fun hjoin => hclose hjoin.1]
  | cons v s ih =>
    have hhead : (s ++ u :: t).head? = some (unit '(') ↔ s.head? = some (unit '(') := by
      cases s with
      | nil => simp [hopen]
      | cons w s => rfl
    rw [List.cons_append, joins, joins, ih, Nat.add_assoc]
    simp only [hhead]

theorem joins_intercalate (ls : List (List CodeUnit)) :
    joins ([unit '\n'].intercalate ls) = (ls.map joins).sum := by
  induction ls with
  | nil => rfl
  | cons l ls ih =>
    cases ls with
    | nil => simp
    | cons l' ls =>
      rw [List.intercalate_cons_cons, List.append_assoc, List.singleton_append,
        joins_append_cons (by decide) (by decide), ih]
      rfl

/-- Lines with breaks between them show the lines. -/
theorem inlineShown_lines (styled : Bool) {ls : List (List CodeUnit)}
    (h : ∀ l ∈ ls, isPlain l = true) :
    InlineShown ((void "br").intercalate (ls.map fun l => inline l styled))
      ([unit '\n'].intercalate ls) := by
  have hbreak : InlineShown (void "br") [unit '\n'] :=
    { closed := Shown.lineBreak.isClosed
      names := by decide
      links := by decide
      unlinked := by decide
      text := fun _ => .refl _ }
  induction ls with
  | nil => exact .plain rfl
  | cons l ls ih =>
    have hl : InlineShown (inline l styled) l := inlineShown styled (h l List.mem_cons_self)
    cases ls with
    | nil => simpa using hl
    | cons l' ls =>
      have hls := ih fun m hm => h m (List.mem_cons_of_mem _ hm)
      rw [List.map_cons, List.map_cons, List.intercalate_cons_cons, List.intercalate_cons_cons]
      exact (hl.append hbreak).append hls

/-! ## Blocks -/

/-- The tags of headings and items. -/
def blockTags : List (List CodeUnit) := ["h1", "h2", "h3", "h4", "h5", "h6", "li"].map ascii

def isBlockTag (name : List CodeUnit) : Bool := blockTags.contains name

/-- The tag of the heading, or of the item, that a line is. -/
def blockTag (line : List CodeUnit) : Option (List CodeUnit) :=
  match matchHeading line with
  | some heading => some (ascii ("h" ++ toString heading.1))
  | none =>
    if (matchBullet line).isSome || (matchOrdered line).isSome then some (ascii "li") else none

/-- The items that are collected. -/
def State.items (s : State) : List (List CodeUnit) := (s.list.map ListBlock.items).getD []

/-- What the lines gone through show. -/
structure Reads (s : State) (ls : List (List CodeUnit)) : Prop where
  closed : ∀ html ∈ s.out, IsClosed html
  /-- Their headings and items are finished, but for the items that are collected. -/
  blocks : (s.out.flatMap tagNames).filter isBlockTag ++ s.items.map (fun _ => ascii "li") =
    ls.filterMap fun l => blockTag (trim l)
  /-- There are no more links than there may be, and some may be still to come. -/
  links : (s.out.flatMap tagNames).count (ascii "a") + (s.paragraph.map joins).sum +
    (s.items.map joins).sum ≤ (ls.map joins).sum

/-- No tag in a line is a heading's or an item's. -/
theorem filter_inlineTags {names : List (List CodeUnit)} (h : ∀ name ∈ names, name ∈ inlineTags) :
    names.filter isBlockTag = [] := by
  rw [List.filter_eq_nil_iff]
  intro name hname
  have hall : (inlineTags.all fun name => !isBlockTag name) = true := by decide
  simpa using List.all_eq_true.1 hall name (h name hname)

theorem blockTag_snoc (ls : List (List CodeUnit)) (raw : List CodeUnit) :
    ((ls ++ [raw]).filterMap fun l => blockTag (trim l)) =
      (ls.filterMap fun l => blockTag (trim l)) ++ (blockTag (trim raw)).toList := by
  rw [List.filterMap_append]
  cases hblock : blockTag (trim raw) <;> simp [hblock]

namespace Reads

variable {s : State} {ls : List (List CodeUnit)} {raw : List CodeUnit}

/-- A line that is neither a heading nor an item shows none, -/
theorem snoc_none (h : Reads s ls) (hnone : blockTag (trim raw) = none) :
    Reads s (ls ++ [raw]) where
  closed := h.closed
  blocks := by
    rw [h.blocks, blockTag_snoc, hnone, Option.toList_none, List.append_nil]
  links := by
    have hlinks := h.links
    rw [List.map_append, List.sum_append]
    omega

/-- and what a line becomes may be finished. -/
theorem push (h : Reads s ls) (hitems : s.items = []) {html : List CodeUnit}
    (hclosed : IsClosed html)
    (hblocks : (tagNames html).filter isBlockTag = (blockTag (trim raw)).toList)
    (hlinks : (tagNames html).count (ascii "a") ≤ joins raw) :
    Reads { s with out := s.out ++ [html] } (ls ++ [raw]) where
  closed := List.forall_mem_append.2 ⟨h.closed, List.forall_mem_singleton.2 hclosed⟩
  blocks := by
    have hbefore := h.blocks
    rw [hitems, List.map_nil, List.append_nil] at hbefore
    change _ ++ s.items.map _ = _
    rw [hitems, List.map_nil, List.append_nil, List.flatMap_append, List.flatMap_singleton,
      List.filter_append, hbefore, hblocks, blockTag_snoc]
  links := by
    have hbefore := h.links
    change _ + (s.paragraph.map joins).sum + (s.items.map joins).sum ≤ _
    rw [List.flatMap_append, List.flatMap_singleton, List.count_append, List.map_append,
      List.sum_append, List.map_singleton, List.sum_singleton]
    omega

end Reads

section

variable (styled : Bool) {s : State} {ls : List (List CodeUnit)}

theorem flushParagraph_reads (hinv : Inv s) (h : Reads s ls) :
    Reads (flushParagraph styled s) ls := by
  rw [flushParagraph]
  split
  · exact h
  · have hlines := inlineShown_lines styled hinv.paragraph
    have hread : Readable "p" (attr P_STYLE styled) :=
      readable_attr styled (by decide) (by decide) (by decide +kernel)
    have hshown := Shown.element hread hlines.closed
    have hlinks := hlines.links
    rw [joins_intercalate] at hlinks
    constructor
    · exact List.forall_mem_append.2 ⟨h.closed, List.forall_mem_singleton.2 hshown.isClosed⟩
    · rw [List.flatMap_append, List.flatMap_singleton, hshown.tagNames_eq, List.filter_append,
        List.filter_cons_of_neg (by decide), List.filter_append, filter_inlineTags hlines.names,
        List.filter_cons_of_neg (by decide), List.filter_nil, List.append_nil, List.append_nil]
      exact h.blocks
    · have hcount := h.links
      rw [List.flatMap_append, List.flatMap_singleton, hshown.tagNames_eq, List.count_append,
        List.count_cons_of_ne (by decide), List.count_append, List.count_cons_of_ne (by decide)]
      change _ + 0 + (s.items.map joins).sum ≤ _
      rw [List.count_nil]
      omega

/-- Items show themselves, with what is in them. -/
theorem shown_items {items : List (List CodeUnit)} (h : ∀ item ∈ items, isPlain item = true) :
    let html := (items.map fun item => element "li" [] (inline item styled)).flatten
    IsClosed html ∧ (tagNames html).filter isBlockTag = items.map (fun _ => ascii "li") ∧
      (tagNames html).count (ascii "a") ≤ (items.map joins).sum := by
  induction items with
  | nil => exact ⟨Shown.nil.isClosed, rfl, le_rfl⟩
  | cons item items ih =>
    obtain ⟨hclosed, hblocks, hlinks⟩ := ih fun i hi => h i (List.mem_cons_of_mem _ hi)
    have hitem : InlineShown (inline item styled) item :=
      inlineShown styled (h item List.mem_cons_self)
    have hread : Readable "li" [] := readable_nil (by decide) (by decide)
    have hshown := (Shown.element hread hitem.closed).append hclosed
    dsimp only
    rw [List.map_cons, List.flatten_cons, hshown.tagNames_eq]
    refine ⟨hshown.isClosed, ?_, ?_⟩
    · rw [List.filter_append, List.filter_cons_of_pos (by decide), List.filter_append,
        filter_inlineTags hitem.names, List.filter_cons_of_neg (by decide), hblocks]
      rfl
    · have hlink := hitem.links
      rw [List.count_append, List.count_cons_of_ne (by decide), List.count_append,
        List.count_cons_of_ne (by decide), List.count_nil, List.map_cons, List.sum_cons]
      omega

theorem flushList_reads (hinv : Inv s) (h : Reads s ls) : Reads (flushList styled s) ls := by
  rw [flushList]
  split
  · exact h
  · rename_i list hlist
    have hitems : s.items = list.items := by rw [State.items, hlist]; rfl
    obtain ⟨hclosed, hblocks, hlinks⟩ := shown_items styled (hinv.list list hlist)
    have hread : ∀ tag ∈ ["ol", "ul"], Readable tag (attr LIST_STYLE styled) :=
      List.forall_iff_forall_mem.1
        ⟨readable_attr styled (by decide) (by decide) (by decide +kernel),
          readable_attr styled (by decide) (by decide) (by decide +kernel)⟩
    have hne : ∀ tag ∈ ["ol", "ul"], isBlockTag (ascii tag) = false ∧
        isBlockTag (ascii ("/" ++ tag)) = false ∧ ascii tag ≠ ascii "a" ∧
        ascii ("/" ++ tag) ≠ ascii "a" := by decide
    have htag : (if list.ordered = true then "ol" else "ul") ∈ ["ol", "ul"] := by
      split <;> decide
    obtain ⟨hstart, hstop, hstart', hstop'⟩ := hne _ htag
    have hshown := Shown.element (hread _ htag) hclosed
    constructor
    · exact List.forall_mem_append.2 ⟨h.closed, List.forall_mem_singleton.2 hshown.isClosed⟩
    · rw [List.flatMap_append, List.flatMap_singleton, hshown.tagNames_eq, List.filter_append,
        List.filter_cons_of_neg (by simp [hstart]), List.filter_append, hblocks,
        List.filter_cons_of_neg (by simp [hstop]), List.filter_nil, List.append_nil, ← hitems]
      exact (List.append_nil _).trans h.blocks
    · have hcount := h.links
      rw [List.flatMap_append, List.flatMap_singleton, hshown.tagNames_eq, List.count_append,
        List.count_cons_of_ne hstart', List.count_append, List.count_cons_of_ne hstop']
      change _ + (s.paragraph.map joins).sum + 0 ≤ _
      rw [List.count_nil]
      rw [hitems] at hcount
      omega

theorem flushList_items (s : State) : (flushList styled s).items = [] := by
  rw [flushList]
  split
  · rename_i hnone
    rw [State.items, hnone]
    rfl
  · rfl

theorem pushHeading_reads (hinv : Inv s) (h : Reads s ls) {raw text : List CodeUnit} {level : ℕ}
    (hlevel : 1 ≤ level ∧ level ≤ 6) (htext : isPlain text = true) (hpiece : text <:+: raw)
    (hblock : blockTag (trim raw) = some (ascii ("h" ++ toString level))) :
    Reads (pushHeading styled s level text) (ls ++ [raw]) := by
  have hflush := flushList_reads styled (flushParagraph_inv styled hinv)
    (flushParagraph_reads styled hinv h)
  have hinline : InlineShown (inline text styled) text := inlineShown styled htext
  have hall : ∀ n : Fin 7, 1 ≤ n.val → isName ("h" ++ toString n.val) = true ∧
      ascii ("h" ++ toString n.val) ≠ ascii "br" ∧
      isPlain (ascii (H_STYLE n.val)) = true ∧
      isBlockTag (ascii ("h" ++ toString n.val)) = true ∧
      isBlockTag (ascii ("/" ++ ("h" ++ toString n.val))) = false ∧
      ascii ("h" ++ toString n.val) ≠ ascii "a" ∧
      ascii ("/" ++ ("h" ++ toString n.val)) ≠ ascii "a" := by decide +kernel
  obtain ⟨hname, hne, hstyle, hstart, hstop, hstart', hstop'⟩ := hall ⟨level, by omega⟩ hlevel.1
  have hshown := Shown.element (readable_attr styled hname hne hstyle) hinline.closed
  refine hflush.push (flushList_items styled _) hshown.isClosed ?_ ?_
  · rw [hshown.tagNames_eq, List.filter_cons_of_pos hstart, List.filter_append,
      filter_inlineTags hinline.names, List.filter_cons_of_neg (Bool.eq_false_iff.1 hstop), hblock]
    rfl
  · have hlinks := hinline.links
    have hjoins := joins_le_of_piece hpiece
    rw [hshown.tagNames_eq, List.count_cons_of_ne hstart', List.count_append,
      List.count_cons_of_ne hstop', List.count_nil]
    omega

theorem flushOther_reads (hinv : Inv s) (h : Reads s ls) (isOrdered : Bool) :
    Reads (flushOther styled s isOrdered) ls := by
  rw [flushOther]
  split
  · exact flushList_reads styled hinv h
  · exact h

end

theorem trim_piece (s : List CodeUnit) : trim s <:+: s := by
  have hprefix : trim s <+: s.dropWhile isSpace := List.rdropWhile_prefix isSpace _
  exact hprefix.isInfix.trans (List.dropWhile_suffix isSpace).isInfix

theorem spaced_suffix {us text : List CodeUnit} (h : spaced us = some text) : text <:+ us := by
  rw [spaced] at h
  split at h
  · obtain rfl := Option.some.inj (Option.filter_eq_some_iff.1 h).1
    exact List.dropWhile_suffix isSpace
  · cases h

theorem matchHeading_suffix {line : List CodeUnit} {heading : ℕ × List CodeUnit}
    (h : matchHeading line = some heading) : heading.2 <:+ line := by
  rw [matchHeading] at h
  split at h
  · obtain ⟨text, htext, rfl⟩ := Option.map_eq_some_iff.1 h
    have hspaced := spaced_suffix (Option.filter_eq_some_iff.1 htext).1
    exact hspaced.trans (List.drop_suffix _ _)
  · cases h

theorem matchContent_suffix {us item : List CodeUnit} (h : item ∈ (matchContent us).join) :
    item <:+ us := by
  rw [matchContent] at h
  split at h
  · cases h
  · cases hspaced : spaced us with
    | none =>
      rw [hspaced] at h
      cases h
    | some text =>
      rw [hspaced] at h
      obtain rfl := Option.some.inj h
      exact spaced_suffix hspaced

theorem matchBullet_suffix {line item : List CodeUnit} (h : item ∈ (matchBullet line).join) :
    item <:+ line := by
  cases line with
  | nil => cases h
  | cons u us =>
    rw [matchBullet] at h
    split at h
    · exact (matchContent_suffix h).trans (List.suffix_cons u us)
    · cases h

theorem matchOrdered_suffix {line item : List CodeUnit} (h : item ∈ (matchOrdered line).join) :
    item <:+ line := by
  rw [matchOrdered] at h
  split at h
  · cases h
  · rename_i u us hdrop
    split at h
    · have hus : us <:+ line :=
        (List.suffix_cons u us).trans (hdrop ▸ List.drop_suffix _ line)
      exact (matchContent_suffix h).trans hus
    · cases h

/-- The text of an item is cut out of its line. -/
theorem item_piece {line : List CodeUnit} :
    ((matchBullet line).join.or (matchOrdered line).join).getD [] <:+: line := by
  cases hbullet : (matchBullet line).join with
  | some item => exact (matchBullet_suffix hbullet).isInfix
  | none =>
    cases hordered : (matchOrdered line).join with
    | some item => exact (matchOrdered_suffix hordered).isInfix
    | none => exact List.nil_infix

section

variable (styled : Bool) {s : State} {ls : List (List CodeUnit)}

theorem pushItem_reads (hinv : Inv s) (h : Reads s ls) {raw item : List CodeUnit}
    (isOrdered : Bool) (hpiece : item <:+: raw)
    (hblock : blockTag (trim raw) = some (ascii "li")) :
    Reads (pushItem styled s isOrdered item) (ls ++ [raw]) := by
  have hflush := flushOther_reads styled (flushParagraph_inv styled hinv)
    (flushParagraph_reads styled hinv h) isOrdered
  have hitems : (pushItem styled s isOrdered item).items =
      (flushOther styled (flushParagraph styled s) isOrdered).items ++ [item] := by
    rw [pushItem, State.items, State.items]
    cases (flushOther styled (flushParagraph styled s) isOrdered).list <;> rfl
  constructor
  · exact hflush.closed
  · rw [hitems, List.map_append, ← List.append_assoc, blockTag_snoc, hblock]
    exact congrArg (· ++ _) hflush.blocks
  · have hjoins := joins_le_of_piece hpiece
    have hlinks := hflush.links
    rw [hitems, List.map_append, List.sum_append, List.map_append, List.sum_append,
      List.map_singleton, List.sum_singleton, List.map_singleton, List.sum_singleton]
    set t := flushOther styled (flushParagraph styled s) isOrdered
    change (t.out.flatMap tagNames).count _ + (t.paragraph.map joins).sum + _ ≤ _
    omega

/-- Each line shows the heading, or the item, that it is. -/
theorem renderLine_reads (hinv : Inv s) (h : Reads s ls) {raw : List CodeUnit}
    (hraw : isPlain raw = true) : Reads (renderLine styled s raw) (ls ++ [raw]) := by
  have hline : isPlain (trim raw) = true := isPlain_of_subset hraw (trim_subset raw)
  rw [renderLine]
  split
  · rename_i hempty
    refine (flushParagraph_reads styled hinv h).snoc_none ?_
    rw [List.isEmpty_iff.1 hempty]
    rfl
  · split
    · rename_i heading hheading
      obtain ⟨hlevel, htext⟩ := matchHeading_eq_some hheading
      refine pushHeading_reads styled hinv h hlevel (isPlain_of_subset hline htext)
        ((matchHeading_suffix hheading).isInfix.trans (trim_piece raw)) ?_
      rw [blockTag, hheading]
    · rename_i hheading
      dsimp only
      split
      · rename_i hitem
        refine pushItem_reads styled hinv h _ (item_piece.trans (trim_piece raw)) ?_
        rw [blockTag, hheading]
        exact if_pos hitem
      · rename_i hitem
        have hflush := flushList_reads styled hinv h
        have hnone : blockTag (trim raw) = none := by
          rw [blockTag, hheading]
          exact if_neg hitem
        have hjoins := joins_le_of_piece (trim_piece raw)
        have hall := hflush.snoc_none hnone
        refine ⟨hall.closed, hall.blocks, ?_⟩
        have hlinks := hflush.links
        dsimp only
        rw [List.map_append, List.sum_append, List.map_append, List.sum_append,
          List.map_singleton, List.sum_singleton, List.map_singleton, List.sum_singleton]
        change _ + _ + ((flushList styled s).items.map joins).sum ≤ _
        omega

end

/-! ## The document -/

/-- A line is ended by a line feed or a carriage return. -/
def isLineEnd (u : CodeUnit) : Bool := u = unit '\n' || u = unit '\r'

/-- The lines of a text. The end of a line by two units makes an empty one. -/
def lines (s : List CodeUnit) : List (List CodeUnit) := s.splitOnP isLineEnd

theorem lines_cons_of_pos {u : CodeUnit} (h : isLineEnd u = true) (us : List CodeUnit) :
    lines (u :: us) = [] :: lines us := by
  rw [lines, List.splitOnP_cons_eq_if_modifyHead, if_pos h, lines]

theorem lines_cons_of_neg {u : CodeUnit} (h : isLineEnd u = false) (us : List CodeUnit) :
    lines (u :: us) = (lines us).modifyHead (u :: ·) := by
  rw [lines, List.splitOnP_cons_eq_if_modifyHead, if_neg (by simp [h]), lines]

/-- One end for all lines changes no line, but for empty ones: the first line is the same, unless
    the line feed at its start belongs to the end of the line before. -/
theorem splitOn_normalizeFrom (us : List CodeUnit) :
    (∃ first rest rest', (normalizeFrom false us).splitOn (unit '\n') = first :: rest ∧
        lines us = first :: rest' ∧
        rest.filter (!·.isEmpty) = rest'.filter (!·.isEmpty)) ∧
      ((normalizeFrom true us).splitOn (unit '\n')).filter (!·.isEmpty) =
        (lines us).filter (!·.isEmpty) := by
  induction us with
  | nil => exact ⟨⟨[], [], [], rfl, rfl, rfl⟩, rfl⟩
  | cons u us ih =>
    obtain ⟨⟨first, rest, rest', hfalse, hlines, hrest⟩, htrue⟩ := ih
    have hstart : ∃ first rest rest', (normalizeFrom false (u :: us)).splitOn (unit '\n') =
        first :: rest ∧ lines (u :: us) = first :: rest' ∧
          rest.filter (!·.isEmpty) = rest'.filter (!·.isEmpty) := by
      by_cases hreturn : u = unit '\r'
      · refine ⟨[], _, _, ?_, lines_cons_of_pos (by simp [isLineEnd, hreturn]) us, htrue⟩
        rw [normalizeFrom, if_neg (by simp), if_pos hreturn, List.splitOn_cons_eq_if_modifyHead,
          if_pos (by simp)]
      · by_cases hfeed : u = unit '\n'
        · refine ⟨[], (normalizeFrom false us).splitOn (unit '\n'), _, ?_,
            lines_cons_of_pos (by simp [isLineEnd, hfeed]) us, ?_⟩
          · rw [normalizeFrom, if_neg (by simp), if_neg hreturn,
              List.splitOn_cons_eq_if_modifyHead, if_pos (by simp [hfeed])]
          · rw [hfalse, hlines, List.filter_cons, List.filter_cons, hrest]
        · refine ⟨u :: first, rest, rest', ?_, ?_, hrest⟩
          · rw [normalizeFrom, if_neg (by simp), if_neg hreturn,
              List.splitOn_cons_eq_if_modifyHead, if_neg (by simp [hfeed]), hfalse]
            rfl
          · rw [lines_cons_of_neg (by simp [isLineEnd, hreturn, hfeed]), hlines]
            rfl
    refine ⟨hstart, ?_⟩
    by_cases hfeed : u = unit '\n'
    · rw [normalizeFrom, if_pos (by simp [hfeed]), hfalse,
        lines_cons_of_pos (by simp [isLineEnd, hfeed]), hlines, List.filter_cons,
        List.filter_cons_of_neg (by simp), List.filter_cons, hrest]
    · obtain ⟨first, rest, rest', hfalse, hlines, hrest⟩ := hstart
      have hsame : normalizeFrom true (u :: us) = normalizeFrom false (u :: us) := by
        simp [normalizeFrom, hfeed]
      rw [hsame, hfalse, hlines, List.filter_cons, List.filter_cons, hrest]

/-- What is said of the lines that are not empty does not depend on how they are ended. -/
theorem filter_splitOn_normalizeFrom (us : List CodeUnit) :
    ((normalizeFrom false us).splitOn (unit '\n')).filter (!·.isEmpty) =
      (lines us).filter (!·.isEmpty) := by
  obtain ⟨⟨first, rest, rest', hfalse, hlines, hrest⟩, -⟩ := splitOn_normalizeFrom us
  rw [hfalse, hlines, List.filter_cons, List.filter_cons, hrest]

/-! ## Escaped lines -/

theorem isApart_isSpace : isApart isSpace = true := by decide

theorem trim_escape (s : List CodeUnit) : trim (escape s) = escape (trim s) := by
  have hfirst : ∀ e ∈ escapes, isSpace e.1 = false := fun e he =>
    (isApart_iff isApart_isSpace he).1
  have htrim : ∀ t, trim t = (t.dropWhile isSpace).rdropWhile isSpace := fun _ => rfl
  rw [htrim, htrim, dropWhile_escape hfirst, rdropWhile_escape isApart_isSpace]

theorem isEmpty_escape (s : List CodeUnit) : (escape s).isEmpty = s.isEmpty := by
  cases s with
  | nil => rfl
  | cons u s =>
    rcases isEscaped_cases u with hmem | hno
    · obtain ⟨t, ht⟩ := escape_cons_of_mem hmem s
      rw [ht]
      rfl
    · rw [escape_cons_of_not hno]
      rfl

theorem spaced_escape (us : List CodeUnit) : spaced (escape us) = (spaced us).map escape := by
  have hfirst : ∀ e ∈ escapes, isSpace e.1 = false := fun e he =>
    (isApart_iff isApart_isSpace he).1
  rw [spaced, spaced, head_escape hfirst, dropWhile_escape hfirst]
  split
  · have hany : (escape (us.dropWhile isSpace)).any isLineTerminator =
        (us.dropWhile isSpace).any isLineTerminator := any_escape (by decide) _
    simp only [Option.filter_some, hany]
    split <;> rfl
  · rfl

/-- What is behind the units at the start that are of some kind. -/
theorem drop_takeWhile (p : CodeUnit → Bool) (l : List CodeUnit) :
    l.drop (l.takeWhile p).length = l.dropWhile p := by
  calc l.drop (l.takeWhile p).length
      = (l.takeWhile p ++ l.dropWhile p).drop (l.takeWhile p).length := by
        rw [List.takeWhile_append_dropWhile]
    _ = l.dropWhile p := List.drop_left

theorem matchHeading_escape (line : List CodeUnit) :
    matchHeading (escape line) = (matchHeading line).map fun h => (h.1, escape h.2) := by
  have hfirst : ∀ e ∈ escapes, decide (e.1 = unit '#') = false := by decide
  rw [matchHeading, matchHeading, drop_takeWhile, drop_takeWhile,
    takeWhile_escape hfirst, dropWhile_escape hfirst, spaced_escape]
  split
  · cases spaced (line.dropWhile fun u => decide (u = unit '#')) with
    | none => rfl
    | some text =>
      simp only [Option.map_some, Option.filter_some, isEmpty_escape]
      split <;> rfl
  · rfl

theorem matchContent_escape (us : List CodeUnit) :
    (matchContent (escape us)).isSome = (matchContent us).isSome := by
  rw [matchContent, matchContent, isEmpty_escape, spaced_escape]
  split
  · rfl
  · simp

theorem matchBullet_escape (line : List CodeUnit) :
    (matchBullet (escape line)).isSome = (matchBullet line).isSome := by
  cases line with
  | nil => rfl
  | cons u us =>
    rcases isEscaped_cases u with hmem | hno
    · obtain ⟨t, ht⟩ := escape_cons_of_mem hmem us
      have hall : ∀ e ∈ escapes, (e.1 = unit '-' || e.1 = unit '*') = false := by decide
      rw [ht, matchBullet, matchBullet, hall _ hmem]
      rfl
    · rw [escape_cons_of_not hno, matchBullet, matchBullet]
      split
      · exact matchContent_escape us
      · rfl

theorem matchOrdered_escape (line : List CodeUnit) :
    (matchOrdered (escape line)).isSome = (matchOrdered line).isSome := by
  have hfirst : ∀ e ∈ escapes, isDigit e.1 = false := by decide
  rw [matchOrdered, matchOrdered, drop_takeWhile, drop_takeWhile, takeWhile_escape hfirst,
    dropWhile_escape hfirst]
  cases line.dropWhile isDigit with
  | nil => rfl
  | cons u us =>
    rcases isEscaped_cases u with hmem | hno
    · obtain ⟨t, ht⟩ := escape_cons_of_mem hmem us
      have hall : ∀ e ∈ escapes, (e.1 = unit '.' || e.1 = unit ')') = false := by decide
      rw [ht]
      dsimp only
      rw [hall _ hmem, hall _ List.mem_cons_self, Bool.and_false, if_neg Bool.false_ne_true,
        if_neg Bool.false_ne_true]
    · rw [escape_cons_of_not hno]
      dsimp only
      split
      · exact matchContent_escape us
      · rfl

/-- A line is the heading, or the item, that it was before it was escaped. -/
theorem blockTag_escape (line : List CodeUnit) : blockTag (escape line) = blockTag line := by
  rw [blockTag, blockTag, matchHeading_escape, matchBullet_escape, matchOrdered_escape]
  cases matchHeading line <;> rfl

theorem joins_escape (s : List CodeUnit) : joins (escape s) = joins s := by
  induction s with
  | nil => rfl
  | cons u s ih =>
    rcases isEscaped_cases u with hmem | hno
    · have hall : ∀ e ∈ escapes, e.1 ≠ unit ']' ∧ unit ']' ∉ e.2 := by decide
      obtain ⟨hu, hunits⟩ := hall _ hmem
      rw [escape_cons, joins_of_not_mem hunits, ih, joins, if_neg fun h => hu h.1, Nat.zero_add]
    · have hhead : (escape s).head? = some (unit '(') ↔ s.head? = some (unit '(') := by
        have hany := head_escape (p := fun v => v = unit '(') (by decide) s
        simpa [Option.any_eq_true] using Bool.eq_iff_iff.1 hany
      rw [escape_cons_of_not hno, joins, joins, ih]
      simp only [hhead]

/-! ## What is rendered -/

theorem joins_normalizeFrom (afterReturn : Bool) (us : List CodeUnit) :
    joins (normalizeFrom afterReturn us) ≤ joins us := by
  induction us generalizing afterReturn with
  | nil => exact le_rfl
  | cons u us ih =>
    have hfeed : ∀ t, joins (unit '\n' :: t) = joins t := fun t =>
      joins_of_not_mem (s := [unit '\n']) (by decide) t
    have hus : joins us ≤ joins (u :: us) := joins_le_of_piece (List.suffix_cons u us).isInfix
    rw [normalizeFrom]
    split
    · exact (ih false).trans hus
    · split
      · rw [hfeed]
        exact (ih true).trans hus
      · -- An opening parenthesis is next only where it was.
        have hnext : (normalizeFrom false us).head? = some (unit '(') →
            us.head? = some (unit '(') := by
          cases us with
          | nil => exact id
          | cons v us =>
            rw [normalizeFrom, if_neg (by simp)]
            split
            · intro h
              cases h
            · exact id
        have hrest := ih false
        rw [joins, joins]
        split_ifs with h h'
        · omega
        · exact absurd ⟨h.1, hnext h.2⟩ h'
        · omega
        · omega

theorem foldl_renderLine_reads (styled : Bool) {s : State} {done ls : List (List CodeUnit)}
    (hinv : Inv s) (h : Reads s done) (hls : ∀ l ∈ ls, isPlain l = true) :
    Inv (ls.foldl (renderLine styled) s) ∧ Reads (ls.foldl (renderLine styled) s) (done ++ ls) := by
  induction ls generalizing s done with
  | nil => exact ⟨hinv, (List.append_nil done).symm ▸ h⟩
  | cons l ls ih =>
    have hl := hls l List.mem_cons_self
    have hstep := ih (renderLine_inv styled hinv hl) (renderLine_reads styled hinv h hl)
      fun m hm => hls m (List.mem_cons_of_mem _ hm)
    rwa [List.append_assoc] at hstep

/-- A document shows what its lines show. -/
theorem renderMarkdown_reads (source : List CodeUnit) (styled : Option Bool) :
    ∃ s : State, renderMarkdown (some source) styled = (ascii "\n").intercalate s.out ∧
      s.items = [] ∧ Reads s ((normalizeFrom false (escape source)).splitOn (unit '\n')) := by
  have hplain : isPlain (normalizeFrom false (escape source)) = true :=
    normalizeFrom_plain (isPlain_escape _)
  have hinv : Inv {} :=
    { out := List.forall_mem_nil _
      paragraph := List.forall_mem_nil _
      list := fun _ hnone => by cases hnone }
  have hstart : Reads {} [] :=
    { closed := List.forall_mem_nil _
      blocks := rfl
      links := le_rfl }
  obtain ⟨hlines, hreads⟩ := foldl_renderLine_reads (styled.getD STYLED_DEFAULT) hinv hstart
    fun l hl => isPlain_of_subset hplain (subset_of_mem_splitOn hl)
  refine ⟨_, rfl, flushList_items _ _, ?_⟩
  exact flushList_reads _ (flushParagraph_inv _ hlines) (flushParagraph_reads _ hlines hreads)

theorem intercalate_nothing {α : Type*} (ls : List (List α)) :
    ([] : List α).intercalate ls = ls.flatten := by
  induction ls with
  | nil => rfl
  | cons l ls ih =>
    cases ls with
    | nil => simp
    | cons l' ls =>
      rw [List.intercalate_cons_cons, ih, List.append_nil]
      rfl

theorem tagNames_intercalate {ls : List (List CodeUnit)} (h : ∀ l ∈ ls, IsClosed l) :
    tagNames ((ascii "\n").intercalate ls) = ls.flatMap tagNames := by
  have hsep : IsClosed (ascii "\n") := (Shown.plain (by decide)).isClosed
  have hnone : tagNames (ascii "\n") = [] := rfl
  rw [(Shown.intercalate hsep h).tagNames_eq, hnone, intercalate_nothing, List.flatMap]

/-- The headings and the items of a document are those of its lines, in their order. -/
theorem blockTags_renderMarkdown (source : List CodeUnit) (styled : Option Bool) :
    (tagNames (renderMarkdown (some source) styled)).filter isBlockTag =
      (lines source).filterMap fun l => blockTag (trim l) := by
  obtain ⟨s, hs, hitems, hreads⟩ := renderMarkdown_reads source styled
  have hblocks := hreads.blocks
  rw [hitems, List.map_nil, List.append_nil] at hblocks
  have hnonempty : ∀ ls : List (List CodeUnit), (ls.filterMap fun l => blockTag (trim l)) =
      (ls.filter (!·.isEmpty)).filterMap fun l => blockTag (trim l) := by
    intro ls
    rw [List.filterMap_filter]
    refine List.filterMap_congr fun l hl => ?_
    cases l with
    | nil => rfl
    | cons u l => rfl
  have hlines : lines (escape source) = (lines source).map escape :=
    splitOnP_escape (by decide) source
  rw [hs, tagNames_intercalate hreads.closed, hblocks, hnonempty, filter_splitOn_normalizeFrom,
    ← hnonempty, hlines, List.filterMap_map]
  refine List.filterMap_congr fun l hl => ?_
  rw [Function.comp_apply, trim_escape, blockTag_escape]

/-- A document has no more links than brackets and parentheses that meet. -/
theorem count_links_le (source : List CodeUnit) (styled : Option Bool) :
    (tagNames (renderMarkdown (some source) styled)).count (ascii "a") ≤ joins source := by
  obtain ⟨s, hs, hitems, hreads⟩ := renderMarkdown_reads source styled
  have hlinks := hreads.links
  have hsum : (((normalizeFrom false (escape source)).splitOn (unit '\n')).map joins).sum ≤
      joins source := by
    rw [← joins_intercalate, List.intercalate_splitOn, ← joins_escape source]
    exact joins_normalizeFrom false _
  rw [hs, tagNames_intercalate hreads.closed]
  omega

end Perfana.Markdown
