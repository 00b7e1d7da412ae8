import Perfana.Lib.Html
import Perfana.Lib.Words

/-!
# Markdown

The text blocks of a report are written in Markdown. The author's text is escaped first, and
rewritten to markup line by line: the lines make headings, lists and paragraphs, and in a line
the text between markers becomes an element. No sanitizer goes over the result.

* `matchInline_isPrefixOf`: what is rewritten is cut out of the line;
* `safeHref_unescape`: a target that is accepted as it is written is accepted as it is read;
* `renderLine_inv`: each line keeps the markup apart from the text;
* `renderMarkdown_wellNested`: whatever the text, the result is well nested, has only the
  renderer's own tags, and only safe targets.
-/

namespace Perfana.Markdown

open Html

/-! ## Inline markup -/

/-- The code unit of a character in ASCII. -/
def unit (c : Char) : CodeUnit := Fin.ofNat 65536 c.toNat

/-- The whitespace of a regular expression, which is also what is trimmed. -/
def isSpace (u : CodeUnit) : Bool :=
  9 ≤ u.val && u.val ≤ 13 || 0x2000 ≤ u.val && u.val ≤ 0x200A ||
    [0x20, 0xA0, 0x1680, 0x2028, 0x2029, 0x202F, 0x205F, 0x3000, 0xFEFF].contains u.val

def H_RESET : String := "color:inherit; border:0; padding:0; "

/-- The style of a heading. -/
def H_STYLE : ℕ → String
  | 1 => H_RESET ++ "font-size:18px; font-weight:700; margin:0 0 10px;"
  | 2 => H_RESET ++ "font-size:16px; font-weight:700; margin:14px 0 8px;"
  | 3 => H_RESET ++ "font-size:14px; font-weight:700; margin:12px 0 6px;"
  | 4 => H_RESET ++ "font-size:13px; font-weight:700; margin:12px 0 6px;"
  | 5 => H_RESET ++ "font-size:12px; font-weight:600; margin:10px 0 6px;"
  | 6 => H_RESET ++ "font-size:11px; font-weight:600; margin:10px 0 6px;"
  | _ => "undefined"

def P_STYLE : String := "margin:0 0 10px;"

def LIST_STYLE : String := "margin:0 0 10px; padding-left:22px;"

def CODE_STYLE : String :=
  "font-family:ui-monospace,SFMono-Regular,Menlo,monospace; font-size:0.92em; " ++
    "background:#f3f4f6; padding:1px 4px; border-radius:3px;"

/-- The style that an element is given, if styles are. -/
def attr (style : String) (styled : Bool) : List Attribute :=
  if styled then [("style", ascii style)] else []

/-- The small letter of a capital in ASCII. -/
def lower (u : CodeUnit) : CodeUnit := if 65 ≤ u.val && u.val ≤ 90 then u + 32 else u

/-- The text starts like this, in small letters or capitals. -/
def startsWithAnyCase (start : String) (s : List CodeUnit) : Bool :=
  (ascii start).isPrefixOf (s.map lower)

/-- The units that start an address at another host: both slashes do. -/
def isSlash (u : CodeUnit) : Bool := u = unit '/' || u = unit '\\'

/-- A slash at the start, and not two of them. -/
def isSiteRelative : List CodeUnit → Bool
  | [] => false
  | u :: us => u = unit '/' && !us.head?.any isSlash

/-- The pattern `SAFE_HREF` accepts a target. -/
def safeHref (href : List CodeUnit) : Bool :=
  startsWithAnyCase "http://" href || startsWithAnyCase "https://" href ||
    startsWithAnyCase "mailto:" href || isSiteRelative href || startsWithAnyCase "#" href

def MAX_INLINE_LINK_LABEL_LENGTH : ℕ := 200

/-- What the pattern `INLINE` finds. -/
inductive Inline
  | code (content : List CodeUnit)
  | bold (content : List CodeUnit)
  | italic (content : List CodeUnit)
  | link (label href : List CodeUnit)

/-- The units that are matched. -/
def Inline.text : Inline → List CodeUnit
  | code content => ascii "`" ++ content ++ ascii "`"
  | bold content => ascii "**" ++ content ++ ascii "**"
  | italic content => ascii "*" ++ content ++ ascii "*"
  | link label href => ascii "[" ++ label ++ ascii "](" ++ href ++ ascii ")"

/-- The text between two markers, if the units before the second one are all of this kind and
    there are some. -/
def between (marker : List CodeUnit) (isContent : CodeUnit → Bool) (us : List CodeUnit) :
    Option (List CodeUnit) :=
  let content := (us.drop marker.length).takeWhile isContent
  if !content.isEmpty && (marker ++ content ++ marker).isPrefixOf us then some content else none

/-- No space is next to the markers. -/
def isTight (content : List CodeUnit) : Bool :=
  !content.head?.any isSpace && !content.getLast?.any isSpace

/-- The units that emphasised text may have. -/
def isEmphasised (u : CodeUnit) : Bool := u ≠ unit '*' && u ≠ unit '\n'

def matchCode (us : List CodeUnit) : Option Inline :=
  (between (ascii "`") (· ≠ unit '`') us).map .code

def matchBold (us : List CodeUnit) : Option Inline :=
  ((between (ascii "**") isEmphasised us).filter isTight).map .bold

def matchItalic (us : List CodeUnit) : Option Inline :=
  ((between (ascii "*") isEmphasised us).filter isTight).map .italic

/-- The units before the parenthesis that ends a target. Pairs of parentheses may be in it, but
    not one `inside` another. -/
def matchHref : Bool → List CodeUnit → Option (List CodeUnit)
  | _, [] => none
  | false, u :: us =>
    if u = unit ')' then some []
    else if isSpace u then none
    else (matchHref (u = unit '(') us).map (u :: ·)
  | true, u :: us =>
    if u = unit '(' || isSpace u then none
    else (matchHref (u ≠ unit ')') us).map (u :: ·)

def matchLink (us : List CodeUnit) : Option Inline :=
  let label := (us.drop 1).takeWhile fun u => u ≠ unit ']' && u ≠ unit '\n'
  let start := ascii "[" ++ label ++ ascii "]("
  if !label.isEmpty && label.length ≤ MAX_INLINE_LINK_LABEL_LENGTH && start.isPrefixOf us then
    ((matchHref false (us.drop start.length)).filter fun href => !href.isEmpty).map (.link label)
  else none

/-- The pattern `INLINE` at the start of the units: the first alternative that matches. Each can
    match in one way only. -/
def matchInline (us : List CodeUnit) : Option Inline :=
  (((matchCode us).or (matchBold us)).or (matchItalic us)).or (matchLink us)

/-- What a match is replaced by. -/
def replacement (styled : Bool) : Inline → List CodeUnit
  | .code content => element "code" (attr CODE_STYLE styled) content
  | .bold content => element "strong" [] content
  | .italic content => element "em" [] content
  | .link label href =>
    if safeHref href then element "a" [("href", href)] label else (Inline.link label href).text

/-- Replace the matches, from left to right; `skip` units were matched already. -/
def inlineFrom (styled : Bool) : ℕ → List CodeUnit → List CodeUnit
  | _, [] => []
  | skip + 1, _ :: us => inlineFrom styled skip us
  | 0, u :: us =>
    match matchInline (u :: us) with
    | some found => replacement styled found ++ inlineFrom styled (found.text.length - 1) us
    | none => u :: inlineFrom styled 0 us

/-- A line with its inline markup. -/
def inline (text : List CodeUnit) (styled : Bool) : List CodeUnit := inlineFrom styled 0 text

/-! ## Blocks -/

/-- A list whose items are being collected. -/
structure ListBlock where
  ordered : Bool
  items : List (List CodeUnit)

/-- What the lines gone through have become. -/
structure State where
  /-- The blocks that are finished. -/
  out : List (List CodeUnit) := []
  /-- The lines of the paragraph. -/
  paragraph : List (List CodeUnit) := []
  list : Option ListBlock := none

/-- One end for all lines; the line feed of a pair is left out after its carriage return. -/
def normalizeFrom : Bool → List CodeUnit → List CodeUnit
  | _, [] => []
  | afterReturn, u :: us =>
    if afterReturn && u = unit '\n' then normalizeFrom false us
    else if u = unit '\r' then unit '\n' :: normalizeFrom true us
    else u :: normalizeFrom false us

def trim (s : List CodeUnit) : List CodeUnit :=
  ((s.dropWhile isSpace).reverse.dropWhile isSpace).reverse

def isLineTerminator (u : CodeUnit) : Bool := [10, 13, 0x2028, 0x2029].contains u.val

/-- The text after some space, as `\s+(.*)$` matches it in a trimmed line. -/
def spaced (us : List CodeUnit) : Option (List CodeUnit) :=
  if us.head?.any isSpace then
    (some (us.dropWhile isSpace)).filter fun text => !text.any isLineTerminator
  else none

/-- The level and the text of a heading. -/
def matchHeading (line : List CodeUnit) : Option (ℕ × List CodeUnit) :=
  let level := (line.takeWhile (· = unit '#')).length
  if 1 ≤ level && level ≤ 6 then
    ((spaced (line.drop level)).filter fun text => !text.isEmpty).map fun text => (level, text)
  else none

/-- What is after the marker of an item, if anything. -/
def matchContent (us : List CodeUnit) : Option (Option (List CodeUnit)) :=
  if us.isEmpty then some none else (spaced us).map some

def matchBullet : List CodeUnit → Option (Option (List CodeUnit))
  | [] => none
  | u :: us => if u = unit '-' || u = unit '*' then matchContent us else none

def isDigit (u : CodeUnit) : Bool := 48 ≤ u.val && u.val ≤ 57

def matchOrdered (line : List CodeUnit) : Option (Option (List CodeUnit)) :=
  let digits := line.takeWhile isDigit
  match line.drop digits.length with
  | [] => none
  | u :: us =>
    if !digits.isEmpty && (u = unit '.' || u = unit ')') then matchContent us else none

section

variable (styled : Bool)

/-- The paragraph ends. The break between two lines is not there when the lines are matched. -/
def flushParagraph (s : State) : State :=
  if s.paragraph.isEmpty then s
  else
    let html := (void "br").intercalate (s.paragraph.map fun line => inline line styled)
    { s with
      out := s.out ++ [element "p" (attr P_STYLE styled) html]
      paragraph := [] }

/-- The list ends. -/
def flushList (s : State) : State :=
  match s.list with
  | none => s
  | some list =>
    let tag := if list.ordered then "ol" else "ul"
    let items := (list.items.map fun item => element "li" [] (inline item styled)).flatten
    { s with
      out := s.out ++ [element tag (attr LIST_STYLE styled) items]
      list := none }

/-- A heading ends what is before it. -/
def pushHeading (s : State) (level : ℕ) (text : List CodeUnit) : State :=
  let s := flushList styled (flushParagraph styled s)
  { s with
    out := s.out ++
      [element ("h" ++ toString level) (attr (H_STYLE level) styled) (inline text styled)] }

/-- A list of the other kind ends. -/
def flushOther (s : State) (isOrdered : Bool) : State :=
  if s.list.any fun list => list.ordered ≠ isOrdered then flushList styled s else s

/-- An item goes to the list, if the list is of its kind, or to a new one. -/
def pushItem (s : State) (isOrdered : Bool) (item : List CodeUnit) : State :=
  let s := flushOther styled (flushParagraph styled s) isOrdered
  let list := s.list.getD { ordered := isOrdered, items := [] }
  { s with list := some { list with items := list.items ++ [item] } }

/-- One line. An empty line ends the paragraph, but not the list. -/
def renderLine (s : State) (raw : List CodeUnit) : State :=
  let line := trim raw
  if line.isEmpty then flushParagraph styled s
  else
    match matchHeading line with
    | some heading => pushHeading styled s heading.1 heading.2
    | none =>
      let bullet := matchBullet line
      let ordered := matchOrdered line
      if bullet.isSome || ordered.isSome then
        pushItem styled s ordered.isSome ((bullet.join.or ordered.join).getD [])
      else
        let s := flushList styled s
        { s with paragraph := s.paragraph ++ [line] }

end

def STYLED_DEFAULT : Bool := true

/-- The markup of a text, which may be missing; `styled` is the option, if it is given. -/
def renderMarkdown (source : Option (List CodeUnit)) (styled : Option Bool) : List CodeUnit :=
  let styled := styled.getD STYLED_DEFAULT
  let escaped := normalizeFrom false (escape (source.getD []))
  let s := (escaped.splitOn (unit '\n')).foldl (renderLine styled) {}
  let s := flushList styled (flushParagraph styled s)
  (ascii "\n").intercalate s.out

/-! ## What the renderer emits -/

/-- The tags that the renderer writes, but for links and breaks. -/
def tags : List String :=
  ["h1", "h2", "h3", "h4", "h5", "h6", "p", "ul", "ol", "li", "strong", "em", "code"]

/-- The tags that are given a style, with the style. -/
def styles : List (String × String) :=
  [("h1", H_STYLE 1), ("h2", H_STYLE 2), ("h3", H_STYLE 3), ("h4", H_STYLE 4), ("h5", H_STYLE 5),
    ("h6", H_STYLE 6), ("p", P_STYLE), ("ul", LIST_STYLE), ("ol", LIST_STYLE),
    ("code", CODE_STYLE)]

/-- Two slashes at the start, of either kind: an address at another host. -/
def isProtocolRelative : List CodeUnit → Bool
  | u :: v :: _ => isSlash u && isSlash v
  | _ => false

/-- A target that no author can turn into a script or into another host's address. -/
structure SafeUrl (href : List CodeUnit) : Prop where
  accepted : safeHref href = true
  /-- The target that is read is accepted too. -/
  accepted_read : safeHref (unescape href) = true
  not_script : startsWithAnyCase "javascript:" (unescape href) = false
  not_protocolRelative : isProtocolRelative (unescape href) = false
  /-- Nothing in it is left out when the target is resolved. -/
  spaceless : ∀ u ∈ unescape href, isSpace u = false

/-- The elements of the renderer. -/
inductive Emitted : String → List Attribute → Prop
  | plain {tag : String} (h : tag ∈ tags) : Emitted tag []
  | styled {tag style : String} (h : (tag, style) ∈ styles) : Emitted tag [("style", ascii style)]
  | link {href : List CodeUnit} (h : SafeUrl href) : Emitted "a" [("href", href)]

/-- The markup is well nested, and all of it is the renderer's. -/
abbrev Rendered (html : List CodeUnit) : Prop := WellNested Emitted (· = "br") html

/-! ## Safe targets -/

theorem startsWithAnyCase_iff {start : String} {s : List CodeUnit} :
    startsWithAnyCase start s = true ↔ ascii start <+: s.map lower :=
  List.isPrefixOf_iff_prefix

/-- Of two starts of one text, one starts with the other. -/
theorem not_startsWithAnyCase {start start' : String} {s : List CodeUnit}
    (h : startsWithAnyCase start s = true)
    (hdiff : (!(ascii start).isPrefixOf (ascii start') &&
      !(ascii start').isPrefixOf (ascii start)) = true) : startsWithAnyCase start' s = false := by
  rw [Bool.eq_false_iff]
  intro h'
  rw [startsWithAnyCase_iff] at h h'
  simp only [Bool.and_eq_true, Bool.not_eq_true', ← Bool.not_eq_true,
    List.isPrefixOf_iff_prefix] at hdiff
  rcases List.prefix_or_prefix_of_prefix h h' with hle | hle
  · exact hdiff.1 hle
  · exact hdiff.2 hle

theorem startsWith_of_isSiteRelative {s : List CodeUnit} (h : isSiteRelative s = true) :
    startsWithAnyCase "/" s = true := by
  cases s with
  | nil => cases h
  | cons u us =>
    obtain ⟨rfl, -⟩ : u = unit '/' ∧ _ := by simpa [isSiteRelative] using h
    rw [startsWithAnyCase_iff]
    exact List.cons_prefix_cons.2 ⟨rfl, List.nil_prefix⟩

/-- A text that starts with two slashes starts with one of them. -/
theorem startsWith_of_isProtocolRelative {s : List CodeUnit} (h : isProtocolRelative s = true) :
    startsWithAnyCase "/" s = true ∨ startsWithAnyCase "\\" s = true := by
  match s with
  | [] => cases h
  | [u] => cases h
  | u :: v :: us =>
    simp only [isProtocolRelative, isSlash, Bool.and_eq_true, Bool.or_eq_true,
      decide_eq_true_eq] at h
    simp only [startsWithAnyCase_iff]
    rcases h.1 with rfl | rfl
    · exact .inl (List.cons_prefix_cons.2 ⟨rfl, List.nil_prefix⟩)
    · exact .inr (List.cons_prefix_cons.2 ⟨rfl, List.nil_prefix⟩)

/-- What a target that is accepted starts with. -/
theorem startsWith_of_safeHref {href : List CodeUnit} (h : safeHref href = true) :
    isSiteRelative href = true ∨
      ∃ start ∈ ["http://", "https://", "mailto:", "#"], startsWithAnyCase start href = true := by
  simp only [safeHref, Bool.or_eq_true] at h
  rcases h with (((h | h) | h) | h) | h
  · exact .inr ⟨_, by decide, h⟩
  · exact .inr ⟨_, by decide, h⟩
  · exact .inr ⟨_, by decide, h⟩
  · exact .inl h
  · exact .inr ⟨_, by decide, h⟩

theorem safeHref_of_startsWith {href : List CodeUnit} {start : String}
    (hstart : start ∈ ["http://", "https://", "mailto:", "#"])
    (h : startsWithAnyCase start href = true) : safeHref href = true := by
  simp only [List.mem_cons, List.not_mem_nil, or_false] at hstart
  rcases hstart with rfl | rfl | rfl | rfl <;> simp [safeHref, h]

/-- No script is accepted, -/
theorem not_script_of_safeHref {href : List CodeUnit} (h : safeHref href = true) :
    startsWithAnyCase "javascript:" href = false := by
  rcases startsWith_of_safeHref h with h | ⟨start, hstart, h⟩
  · exact not_startsWithAnyCase (startsWith_of_isSiteRelative h) (by decide)
  · refine not_startsWithAnyCase h ?_
    have hall : (["http://", "https://", "mailto:", "#"].all fun start =>
        !(ascii start).isPrefixOf (ascii "javascript:") &&
          !(ascii "javascript:").isPrefixOf (ascii start)) = true := by decide
    exact List.all_eq_true.1 hall start hstart

/-- and no address at another host without its protocol. -/
theorem not_protocolRelative_of_safeHref {href : List CodeUnit} (h : safeHref href = true) :
    isProtocolRelative href = false := by
  rw [Bool.eq_false_iff]
  intro hrelative
  rcases startsWith_of_safeHref h with h | ⟨start, hstart, h⟩
  · match href with
    | [] => cases h
    | [u] => cases hrelative
    | u :: v :: us =>
      obtain ⟨-, hv⟩ : u = unit '/' ∧ isSlash v = false := by simpa [isSiteRelative] using h
      rw [isProtocolRelative, hv, Bool.and_false] at hrelative
      cases hrelative
  · have hall : (["http://", "https://", "mailto:", "#"].all fun start =>
        ["/", "\\"].all fun slash => !(ascii start).isPrefixOf (ascii slash) &&
          !(ascii slash).isPrefixOf (ascii start)) = true := by decide
    have hslash := List.all_eq_true.1 (List.all_eq_true.1 hall start hstart)
    rcases startsWith_of_isProtocolRelative hrelative with h' | h'
    · rw [not_startsWithAnyCase h (hslash "/" (by decide))] at h'
      cases h'
    · rw [not_startsWithAnyCase h (hslash "\\" (by decide))] at h'
      cases h'

theorem prefix_map_unescapeFrom {p s : List CodeUnit} (hamp : 38 ∉ p) (h : p <+: s.map lower) :
    p <+: (unescapeFrom 0 s).map lower := by
  induction p generalizing s with
  | nil => exact List.nil_prefix
  | cons c p ih =>
    cases s with
    | nil => cases List.prefix_nil.1 h
    | cons u us =>
      rw [List.map_cons, List.cons_prefix_cons] at h
      rw [List.mem_cons, not_or] at hamp
      have hu : u ≠ 38 := by
        rintro rfl
        exact hamp.1 (h.1.symm ▸ by decide)
      rw [unescapeFrom_cons hu, List.map_cons, List.cons_prefix_cons]
      exact ⟨h.1, ih hamp.2 h.2⟩

theorem isSiteRelative_unescape {href : List CodeUnit} (h : isSiteRelative href = true) :
    isSiteRelative (unescape href) = true := by
  cases href with
  | nil => cases h
  | cons u us =>
    obtain ⟨rfl, hus⟩ : u = unit '/' ∧ us.head?.any isSlash = false := by
      simpa [isSiteRelative] using h
    have hslash : (escapes.all fun e => !isSlash e.1) = true := by decide
    have hread : (unescapeFrom 0 us).head?.any isSlash = false := by
      rw [Option.any_eq_false] at hus ⊢
      intro v hv
      rcases head_unescapeFrom hv with hv | ⟨e, he, rfl⟩
      · exact hus v hv
      · simpa using List.all_eq_true.1 hslash e he
    rw [unescape, unescapeFrom_cons (by decide), isSiteRelative, hread]
    rfl

/-- A target that is accepted as it is written is accepted as it is read. -/
theorem safeHref_unescape {href : List CodeUnit} (h : safeHref href = true) :
    safeHref (unescape href) = true := by
  rcases startsWith_of_safeHref h with h | ⟨start, hstart, h⟩
  · simp [safeHref, isSiteRelative_unescape h]
  · refine safeHref_of_startsWith hstart (startsWithAnyCase_iff.2 ?_)
    have hall : (["http://", "https://", "mailto:", "#"].all fun start =>
        !(ascii start).contains 38) = true := by decide
    have hamp : 38 ∉ ascii start := by simpa using List.all_eq_true.1 hall start hstart
    exact prefix_map_unescapeFrom hamp (startsWithAnyCase_iff.1 h)

theorem SafeUrl.of_safeHref {href : List CodeUnit} (h : safeHref href = true)
    (hspace : ∀ u ∈ href, isSpace u = false) : SafeUrl href where
  accepted := h
  accepted_read := safeHref_unescape h
  not_script := not_script_of_safeHref (safeHref_unescape h)
  not_protocolRelative := not_protocolRelative_of_safeHref (safeHref_unescape h)
  spaceless := by
    intro u hu
    rcases mem_unescapeFrom hu with hu | ⟨e, he, rfl⟩
    · exact hspace u hu
    · have hall : (escapes.all fun e => !isSpace e.1) = true := by decide
      simpa using List.all_eq_true.1 hall e he

/-! ## Lines -/

theorem between_isPrefixOf {marker us content : List CodeUnit} {isContent : CodeUnit → Bool}
    (h : between marker isContent us = some content) : marker ++ content ++ marker <+: us := by
  rw [between] at h
  split at h
  · rename_i hmatch
    obtain rfl := Option.some.inj h
    exact List.isPrefixOf_iff_prefix.1 (Bool.and_eq_true_iff.1 hmatch).2
  · cases h

/-- A target is cut out of the line before its parenthesis, -/
theorem matchHref_append {inside : Bool} {us href : List CodeUnit}
    (h : matchHref inside us = some href) : href ++ ascii ")" <+: us := by
  induction inside, us using matchHref.induct generalizing href with
  | case1 inside => exact absurd h (by simp [matchHref])
  | case2 us =>
    rw [matchHref, if_pos rfl] at h
    obtain rfl := Option.some.inj h
    exact List.cons_prefix_cons.2 ⟨rfl, List.nil_prefix⟩
  | case3 u us hend hspace =>
    rw [matchHref, if_neg hend, if_pos hspace] at h
    cases h
  | case4 u us hend hspace ih =>
    rw [matchHref, if_neg hend, if_neg hspace] at h
    obtain ⟨rest, hrest, rfl⟩ := Option.map_eq_some_iff.1 h
    exact List.cons_prefix_cons.2 ⟨rfl, ih hrest⟩
  | case5 u us hfail =>
    rw [matchHref, if_pos hfail] at h
    cases h
  | case6 u us hfail ih =>
    rw [matchHref, if_neg hfail] at h
    obtain ⟨rest, hrest, rfl⟩ := Option.map_eq_some_iff.1 h
    exact List.cons_prefix_cons.2 ⟨rfl, ih hrest⟩

/-- and has no space in it. -/
theorem matchHref_spaceless {inside : Bool} {us href : List CodeUnit}
    (h : matchHref inside us = some href) : ∀ v ∈ href, isSpace v = false := by
  induction inside, us using matchHref.induct generalizing href with
  | case1 inside => exact absurd h (by simp [matchHref])
  | case2 us =>
    rw [matchHref, if_pos rfl] at h
    obtain rfl := Option.some.inj h
    exact List.forall_mem_nil _
  | case3 u us hend hspace =>
    rw [matchHref, if_neg hend, if_pos hspace] at h
    cases h
  | case4 u us hend hspace ih =>
    rw [matchHref, if_neg hend, if_neg hspace] at h
    obtain ⟨rest, hrest, rfl⟩ := Option.map_eq_some_iff.1 h
    exact List.forall_mem_cons.2 ⟨Bool.eq_false_iff.2 hspace, ih hrest⟩
  | case5 u us hfail =>
    rw [matchHref, if_pos hfail] at h
    cases h
  | case6 u us hfail ih =>
    rw [matchHref, if_neg hfail] at h
    obtain ⟨rest, hrest, rfl⟩ := Option.map_eq_some_iff.1 h
    rw [Bool.or_eq_true, not_or] at hfail
    exact List.forall_mem_cons.2 ⟨Bool.eq_false_iff.2 hfail.2, ih hrest⟩

theorem prefix_append_of_drop {s t us : List CodeUnit} (hs : s <+: us)
    (ht : t <+: us.drop s.length) : s ++ t <+: us := by
  obtain ⟨rest, rfl⟩ := hs
  rw [List.drop_left] at ht
  exact (List.prefix_append_right_inj s).2 ht

/-- What a link is matched by. -/
theorem matchLink_eq_some {us : List CodeUnit} {found : Inline} (h : matchLink us = some found) :
    ∃ label href, found = .link label href ∧ found.text <+: us ∧
      ∀ u ∈ href, isSpace u = false := by
  rw [matchLink] at h
  split at h
  · rename_i hmatch
    obtain ⟨href, hhref, rfl⟩ := Option.map_eq_some_iff.1 h
    have hhref := (Option.filter_eq_some_iff.1 hhref).1
    have hstart := List.isPrefixOf_iff_prefix.1 (Bool.and_eq_true_iff.1 hmatch).2
    refine ⟨_, href, rfl, ?_, matchHref_spaceless hhref⟩
    have hprefix := prefix_append_of_drop hstart (matchHref_append hhref)
    rwa [← List.append_assoc] at hprefix
  · cases h

/-- What is rewritten is cut out of the line. -/
theorem matchInline_isPrefixOf {us : List CodeUnit} {found : Inline}
    (h : matchInline us = some found) : found.text <+: us := by
  simp only [matchInline, Option.or_eq_some_iff] at h
  rcases h with ((h | ⟨-, h⟩) | ⟨-, h⟩) | ⟨-, h⟩
  · obtain ⟨content, hcontent, rfl⟩ := Option.map_eq_some_iff.1 h
    exact between_isPrefixOf hcontent
  · obtain ⟨content, hcontent, rfl⟩ := Option.map_eq_some_iff.1 h
    exact between_isPrefixOf (Option.filter_eq_some_iff.1 hcontent).1
  · obtain ⟨content, hcontent, rfl⟩ := Option.map_eq_some_iff.1 h
    exact between_isPrefixOf (Option.filter_eq_some_iff.1 hcontent).1
  · obtain ⟨label, href, -, hprefix, -⟩ := matchLink_eq_some h
    exact hprefix

/-- Only links have a target. -/
theorem spaceless_of_matchInline {us label href : List CodeUnit}
    (h : matchInline us = some (.link label href)) : ∀ u ∈ href, isSpace u = false := by
  simp only [matchInline, matchCode, matchBold, matchItalic, Option.or_eq_some_iff,
    Option.map_eq_some_iff, reduceCtorEq, and_false, exists_const, false_or] at h
  obtain ⟨label', href', heq, -, hspaceless⟩ := matchLink_eq_some h.2
  obtain ⟨-, rfl⟩ := Inline.link.inj heq
  exact hspaceless

/-- An element with the style of its tag. -/
theorem Rendered.styled {tag style : String} {content : List CodeUnit} {styled : Bool}
    (htag : tag ∈ tags) (hstyle : (tag, style) ∈ styles) (h : Rendered content) :
    Rendered (element tag (attr style styled) content) := by
  cases styled with
  | false => exact .element (.plain htag) (List.forall_mem_nil _) h
  | true =>
    have hall : (styles.all fun e => isPlain (ascii e.2)) = true := by decide +kernel
    have hplain : isPlain (ascii style) = true := List.all_eq_true.1 hall (tag, style) hstyle
    exact .element (.styled hstyle) (List.forall_mem_singleton.2 hplain) h

theorem replacement_rendered (styled : Bool) {us : List CodeUnit} {found : Inline}
    (h : matchInline us = some found) (hplain : isPlain us = true) :
    Rendered (replacement styled found) := by
  have htext : isPlain found.text = true :=
    isPlain_of_subset hplain (matchInline_isPrefixOf h).subset
  cases found with
  | code content =>
    exact .styled (by decide) (by decide) (.text (isPlain_of_subset htext (by simp [Inline.text])))
  | bold content =>
    exact .element (.plain (by decide)) (List.forall_mem_nil _)
      (.text (isPlain_of_subset htext (by simp [Inline.text])))
  | italic content =>
    exact .element (.plain (by decide)) (List.forall_mem_nil _)
      (.text (isPlain_of_subset htext (by simp [Inline.text])))
  | link label href =>
    rw [replacement]
    split
    · rename_i hsafe
      have hhref : isPlain href = true :=
        isPlain_of_subset htext fun u hu => by simp [Inline.text, hu]
      have hlabel : isPlain label = true :=
        isPlain_of_subset htext fun u hu => by simp [Inline.text, hu]
      exact .element (.link (.of_safeHref hsafe (spaceless_of_matchInline h)))
        (List.forall_mem_singleton.2 hhref) (.text hlabel)
    · exact .text htext

theorem inlineFrom_rendered (styled : Bool) {skip : ℕ} {us : List CodeUnit}
    (h : isPlain us = true) : Rendered (inlineFrom styled skip us) := by
  induction skip, us using inlineFrom.induct with
  | case1 skip =>
    rw [inlineFrom]
    exact .text rfl
  | case2 skip u us ih => exact ih (isPlain_of_subset h (List.subset_cons_self u us))
  | case3 u us found hfound ih =>
    rw [inlineFrom, hfound]
    exact .append (replacement_rendered styled hfound h)
      (ih (isPlain_of_subset h (List.subset_cons_self u us)))
  | case4 u us hnone ih =>
    rw [inlineFrom, hnone]
    have hu : isPlain [u] = true := isPlain_of_subset h (by simp)
    exact .append (s := [u]) (.text hu) (ih (isPlain_of_subset h (List.subset_cons_self u us)))

/-- A line of text becomes markup that is the renderer's. -/
theorem inline_rendered (styled : Bool) {text : List CodeUnit} (h : isPlain text = true) :
    Rendered (inline text styled) :=
  inlineFrom_rendered styled h

/-! ## The document -/

/-- The markup that is finished is the renderer's, and the rest is still text. -/
structure Inv (s : State) : Prop where
  out : ∀ html ∈ s.out, Rendered html
  paragraph : ∀ line ∈ s.paragraph, isPlain line = true
  list : ∀ list ∈ s.list, ∀ item ∈ list.items, isPlain item = true

theorem Inv.push {s : State} {html : List CodeUnit} (h : Inv s) (hhtml : Rendered html) :
    ∀ html' ∈ s.out ++ [html], Rendered html' :=
  List.forall_mem_append.2 ⟨h.out, List.forall_mem_singleton.2 hhtml⟩

section

variable (styled : Bool) {s : State}

theorem flushParagraph_inv (h : Inv s) : Inv (flushParagraph styled s) := by
  rw [flushParagraph]
  split
  · exact h
  · have hlines : ∀ html ∈ s.paragraph.map fun line => inline line styled, Rendered html :=
      List.forall_mem_map.2 fun line hline => inline_rendered styled (h.paragraph line hline)
    exact
      { out := h.push (.styled (by decide) (by decide) (.intercalate (.void rfl) hlines))
        paragraph := List.forall_mem_nil _
        list := h.list }

theorem flushList_inv (h : Inv s) : Inv (flushList styled s) := by
  rw [flushList]
  split
  · exact h
  · rename_i list hlist
    have hitems : ∀ html ∈ list.items.map fun item => element "li" [] (inline item styled),
        Rendered html := by
      refine List.forall_mem_map.2 fun item hitem => ?_
      exact .element (.plain (by decide)) (List.forall_mem_nil _)
        (inline_rendered styled (h.list list hlist item hitem))
    have hhtml : Rendered (element (if list.ordered then "ol" else "ul") (attr LIST_STYLE styled)
        (list.items.map fun item => element "li" [] (inline item styled)).flatten) := by
      split
      · exact .styled (by decide) (by decide) (.flatten hitems)
      · exact .styled (by decide) (by decide) (.flatten hitems)
    exact { out := h.push hhtml, paragraph := h.paragraph, list := fun _ hnone => by cases hnone }

theorem pushHeading_inv (h : Inv s) {level : ℕ} {text : List CodeUnit}
    (hlevel : 1 ≤ level ∧ level ≤ 6) (htext : isPlain text = true) :
    Inv (pushHeading styled s level text) := by
  have hall : ∀ n : Fin 7, 1 ≤ n.val →
      "h" ++ toString n.val ∈ tags ∧ ("h" ++ toString n.val, H_STYLE n.val) ∈ styles := by decide
  obtain ⟨htag, hstyle⟩ := hall ⟨level, by omega⟩ hlevel.1
  have hflush := flushList_inv styled (flushParagraph_inv styled h)
  exact
    { out := hflush.push (.styled htag hstyle (inline_rendered styled htext))
      paragraph := hflush.paragraph
      list := hflush.list }

theorem flushOther_inv (h : Inv s) (isOrdered : Bool) : Inv (flushOther styled s isOrdered) := by
  rw [flushOther]
  split
  · exact flushList_inv styled h
  · exact h

theorem pushItem_inv (h : Inv s) (isOrdered : Bool) {item : List CodeUnit}
    (hitem : isPlain item = true) : Inv (pushItem styled s isOrdered item) := by
  have hflush := flushOther_inv styled (flushParagraph_inv styled h) isOrdered
  refine { out := hflush.out, paragraph := hflush.paragraph, list := ?_ }
  intro list hlist
  obtain rfl := Option.some.inj hlist
  refine List.forall_mem_append.2 ⟨?_, List.forall_mem_singleton.2 hitem⟩
  -- The items so far are those of the list, if there is one already.
  cases hopen : (flushOther styled (flushParagraph styled s) isOrdered).list with
  | none => exact List.forall_mem_nil _
  | some open' => exact hflush.list open' hopen

end

theorem normalizeFrom_plain {afterReturn : Bool} {us : List CodeUnit} (h : isPlain us = true) :
    isPlain (normalizeFrom afterReturn us) = true := by
  induction us generalizing afterReturn with
  | nil => rfl
  | cons u us ih =>
    have hus : isPlain us = true := isPlain_of_subset h (List.subset_cons_self u us)
    rw [normalizeFrom]
    split
    · exact ih hus
    · split
      · exact isPlain_iff.2 (List.forall_mem_cons.2 ⟨by decide, isPlain_iff.1 (ih hus)⟩)
      · exact isPlain_iff.2 (List.forall_mem_cons.2
          ⟨isPlain_iff.1 h u List.mem_cons_self, isPlain_iff.1 (ih hus)⟩)

theorem trim_subset (s : List CodeUnit) : trim s ⊆ s := by
  intro u hu
  have hu := (List.dropWhile_sublist isSpace).subset (List.mem_reverse.1 hu)
  exact (List.dropWhile_sublist isSpace).subset (List.mem_reverse.1 hu)

theorem spaced_subset {us text : List CodeUnit} (h : spaced us = some text) : text ⊆ us := by
  rw [spaced] at h
  split at h
  · obtain rfl := Option.some.inj (Option.filter_eq_some_iff.1 h).1
    exact (List.dropWhile_sublist isSpace).subset
  · cases h

theorem matchHeading_eq_some {line : List CodeUnit} {heading : ℕ × List CodeUnit}
    (h : matchHeading line = some heading) :
    (1 ≤ heading.1 ∧ heading.1 ≤ 6) ∧ heading.2 ⊆ line := by
  rw [matchHeading] at h
  split at h
  · rename_i hlevel
    obtain ⟨text, htext, rfl⟩ := Option.map_eq_some_iff.1 h
    have htext := spaced_subset (Option.filter_eq_some_iff.1 htext).1
    exact ⟨by simpa using hlevel, fun u hu => List.mem_of_mem_drop (htext hu)⟩
  · cases h

theorem matchContent_subset {us item : List CodeUnit} (h : item ∈ (matchContent us).join) :
    item ⊆ us := by
  rw [matchContent] at h
  split at h
  · cases h
  · cases hspaced : spaced us with
    | none =>
      rw [hspaced] at h
      cases h
    | some text =>
      rw [hspaced] at h
      obtain rfl := Option.some.inj h
      exact spaced_subset hspaced

theorem matchBullet_subset {line item : List CodeUnit} (h : item ∈ (matchBullet line).join) :
    item ⊆ line := by
  cases line with
  | nil => cases h
  | cons u us =>
    rw [matchBullet] at h
    split at h
    · exact List.subset_cons_of_subset u (matchContent_subset h)
    · cases h

theorem matchOrdered_subset {line item : List CodeUnit} (h : item ∈ (matchOrdered line).join) :
    item ⊆ line := by
  rw [matchOrdered] at h
  split at h
  · cases h
  · rename_i u us hdrop
    split at h
    · intro v hv
      have hv' : v ∈ u :: us := List.mem_cons_of_mem u (matchContent_subset h hv)
      exact List.mem_of_mem_drop (hdrop ▸ hv')
    · cases h

/-- Each line keeps the markup apart from the text. -/
theorem renderLine_inv (styled : Bool) {s : State} (h : Inv s) {raw : List CodeUnit}
    (hraw : isPlain raw = true) : Inv (renderLine styled s raw) := by
  have hline : isPlain (trim raw) = true := isPlain_of_subset hraw (trim_subset raw)
  rw [renderLine]
  split
  · exact flushParagraph_inv styled h
  · split
    · rename_i heading hheading
      obtain ⟨hlevel, htext⟩ := matchHeading_eq_some hheading
      exact pushHeading_inv styled h hlevel (isPlain_of_subset hline htext)
    · dsimp only
      split
      · refine pushItem_inv styled h _ (isPlain_of_subset hline ?_)
        cases hbullet : (matchBullet (trim raw)).join with
        | some item => exact matchBullet_subset hbullet
        | none =>
          cases hordered : (matchOrdered (trim raw)).join with
          | some item => exact matchOrdered_subset hordered
          | none => exact List.nil_subset _
      · have hflush := flushList_inv styled h
        exact
          { out := hflush.out
            paragraph := List.forall_mem_append.2
              ⟨hflush.paragraph, List.forall_mem_singleton.2 hline⟩
            list := hflush.list }

/-- Whatever the text, what is rendered is well nested, has only the renderer's tags and
    attributes, and no target but safe ones; an author's angle bracket or quote is no part of it. -/
theorem renderMarkdown_wellNested (source : Option (List CodeUnit)) (styled : Option Bool) :
    WellNested Emitted (· = "br") (renderMarkdown source styled) := by
  have hplain : isPlain (normalizeFrom false (escape (source.getD []))) = true :=
    normalizeFrom_plain (isPlain_escape _)
  have hlines : Inv (((normalizeFrom false (escape (source.getD []))).splitOn (unit '\n')).foldl
      (renderLine (styled.getD STYLED_DEFAULT)) {}) := by
    refine List.foldlRecOn _ _ ?_ fun s hs line hline => ?_
    · exact
        { out := List.forall_mem_nil _
          paragraph := List.forall_mem_nil _
          list := fun _ hnone => by cases hnone }
    · exact renderLine_inv _ hs (isPlain_of_subset hplain (subset_of_mem_splitOn hline))
  have hinv := flushList_inv (styled.getD STYLED_DEFAULT)
    (flushParagraph_inv (styled.getD STYLED_DEFAULT) hlines)
  exact .intercalate (.text (by decide)) hinv.out

/-- An address at another host is no link. -/
example : renderMarkdown (some (ascii "[<b>](//a) *\"*")) (some false) =
    ascii "<p>[&lt;b&gt;](//a) <em>&quot;</em></p>" := by decide +kernel

end Perfana.Markdown
