import Perfana.Lib.Html
import Mathlib.Data.List.DropRight
import Mathlib.Data.List.Induction

/-!
# Reading markup

What a document shows is read off its code units: the names in its tags, one after the other, and
the text between the tags. A fragment whose tags are closed shows the same wherever it stands
(`Shown`), so that what a document shows is put together from what its parts show.

* `Shown.element`, `Shown.intercalate`: what an element, and what joined fragments show;
* `unescape_escape`, `splitOnP_escape`: an escaped text is read as it was, and cut where it was.
-/

namespace Perfana.Html

/-! ## Tags and text -/

/-- The code unit may be in the name of a tag. -/
def isNameUnit (u : CodeUnit) : Bool := u ≠ 60 && u ≠ 62 && u ≠ 32

/-- The names in the tags of a document. The name in an end tag has its slash. -/
def tagNames : List CodeUnit → List (List CodeUnit)
  | [] => []
  | u :: us => if u = 60 then us.takeWhile isNameUnit :: tagNames us else tagNames us

/-- The text between the tags, with the references in it; a break is a line feed. -/
def textFrom : Bool → List CodeUnit → List CodeUnit
  | _, [] => []
  | true, u :: us => textFrom (u ≠ 62) us
  | false, u :: us =>
    if u = 60 then (if (ascii "br>").isPrefixOf us then [10] else []) ++ textFrom true us
    else u :: textFrom false us

/-- The text that is read in a document. -/
def textContent (html : List CodeUnit) : List CodeUnit := unescape (textFrom false html)

/-- The fragment shows these tags and this text, whatever follows it. -/
structure Shown (html : List CodeUnit) (names : List (List CodeUnit)) (s : List CodeUnit) :
    Prop where
  names : ∀ rest, tagNames (html ++ rest) = names ++ tagNames rest
  text : ∀ rest, textFrom false (html ++ rest) = s ++ textFrom false rest

theorem ascii_append (s t : String) : ascii (s ++ t) = ascii s ++ ascii t := by
  simp [ascii]

theorem tagNames_append {s : List CodeUnit} (h : ∀ u ∈ s, u ≠ 60) (rest : List CodeUnit) :
    tagNames (s ++ rest) = tagNames rest := by
  induction s with
  | nil => rfl
  | cons u s ih =>
    rw [List.cons_append, tagNames, if_neg (h u List.mem_cons_self)]
    exact ih fun v hv => h v (List.mem_cons_of_mem _ hv)

theorem textFrom_append {s : List CodeUnit} (h : ∀ u ∈ s, u ≠ 60) (rest : List CodeUnit) :
    textFrom false (s ++ rest) = s ++ textFrom false rest := by
  induction s with
  | nil => rfl
  | cons u s ih =>
    rw [List.cons_append, textFrom, if_neg (h u List.mem_cons_self), List.cons_append]
    rw [ih fun v hv => h v (List.mem_cons_of_mem _ hv)]

/-- Nothing in a tag is text. -/
theorem textFrom_tag {s : List CodeUnit} (h : ∀ u ∈ s, u ≠ 62) (rest : List CodeUnit) :
    textFrom true (s ++ 62 :: rest) = textFrom false rest := by
  induction s with
  | nil => rfl
  | cons u s ih =>
    rw [List.cons_append, textFrom, decide_eq_true (h u List.mem_cons_self)]
    exact ih fun v hv => h v (List.mem_cons_of_mem _ hv)

theorem takeWhile_name {name : List CodeUnit} (h : ∀ u ∈ name, isNameUnit u = true)
    {u : CodeUnit} (hu : isNameUnit u = false) (rest : List CodeUnit) :
    (name ++ u :: rest).takeWhile isNameUnit = name := by
  rw [List.takeWhile_append_of_pos h, List.takeWhile_cons_of_neg (by simp [hu]), List.append_nil]

/-- A tag with nothing after its name. -/
theorem tagNames_tag {name : List CodeUnit} (h : ∀ u ∈ name, isNameUnit u = true)
    (rest : List CodeUnit) : tagNames (60 :: (name ++ 62 :: rest)) = name :: tagNames rest := by
  have hname : ∀ u ∈ name ++ [62], u ≠ 60 := by
    intro u hu
    rcases List.mem_append.1 hu with hu | hu
    · have hunit := h u hu
      rintro rfl
      cases hunit
    · rw [List.mem_singleton.1 hu]
      decide
  rw [tagNames, if_pos rfl, takeWhile_name h (by decide), ← List.singleton_append (l := rest),
    ← List.append_assoc, tagNames_append hname]

/-- A tag that is no break has no text, and its name is before the first space. -/
theorem not_isPrefixOf_break {name : List CodeUnit} (h : ∀ u ∈ name, isNameUnit u = true)
    (hbreak : name ≠ ascii "br") {u : CodeUnit} (hu : isNameUnit u = false)
    (rest : List CodeUnit) : (ascii "br>").isPrefixOf (name ++ u :: rest) = false := by
  rw [Bool.eq_false_iff]
  intro hprefix
  obtain ⟨after, hafter⟩ := List.isPrefixOf_iff_prefix.1 hprefix
  have htake : (ascii "br>" ++ after).takeWhile isNameUnit = ascii "br" := rfl
  rw [hafter, takeWhile_name h hu] at htake
  exact hbreak htake

/-- The name is one that a tag or an attribute may have. -/
def isName (name : String) : Bool := (ascii name).all isNameUnit

/-- Tags and attributes that are read as they are meant. -/
structure Readable (tag : String) (attributes : List Attribute) : Prop where
  name : isName tag = true
  name_ne : ascii tag ≠ ascii "br"
  attributes : ∀ a ∈ attributes, isName a.1 = true ∧ isPlain a.2 = true

theorem mem_attributeText {a : Attribute} (hname : isName a.1 = true)
    (hplain : isPlain a.2 = true) : ∀ u ∈ attributeText a, u ≠ 60 ∧ u ≠ 62 := by
  intro u hu
  simp only [attributeText, ascii_append, List.mem_append] at hu
  rcases hu with ((((hu | hu) | hu) | hu)) | hu
  · rw [List.mem_singleton.1 hu]
    decide
  · have hunit := List.all_eq_true.1 hname u hu
    constructor <;> rintro rfl <;> cases hunit
  · revert u
    exact List.forall_iff_forall_mem.1 (by decide)
  · have hunit := isPlain_iff.1 hplain u hu
    constructor <;> rintro rfl <;> cases hunit
  · revert u
    exact List.forall_iff_forall_mem.1 (by decide)

namespace Readable

variable {tag : String} {attributes : List Attribute}

/-- The units between the name of a tag and its end. -/
theorem mem_attributes (h : Readable tag attributes) :
    ∀ u ∈ attributes.flatMap attributeText, u ≠ 60 ∧ u ≠ 62 := by
  intro u hu
  obtain ⟨a, ha, hu⟩ := List.mem_flatMap.1 hu
  exact mem_attributeText (h.attributes a ha).1 (h.attributes a ha).2 u hu

/-- What follows the name of a tag is no part of it. -/
theorem exists_head (attributes : List Attribute) (rest : List CodeUnit) :
    ∃ u us, isNameUnit u = false ∧ attributes.flatMap attributeText ++ 62 :: rest = u :: us := by
  cases attributes with
  | nil => exact ⟨62, rest, rfl, rfl⟩
  | cons a attributes =>
    rw [List.flatMap_cons, attributeText, ascii_append, ascii_append]
    exact ⟨32, _, rfl, rfl⟩

/-- A start tag shows its name. -/
theorem start (h : Readable tag attributes) :
    Shown (ascii ("<" ++ tag) ++ attributes.flatMap attributeText ++ ascii ">") [ascii tag] [] := by
  have htag : ∀ u ∈ ascii tag, isNameUnit u = true := List.all_eq_true.1 h.name
  have hopen : ∀ rest, ascii ("<" ++ tag) ++ attributes.flatMap attributeText ++ ascii ">" ++ rest =
      60 :: (ascii tag ++ (attributes.flatMap attributeText ++ 62 :: rest)) := by
    intro rest
    rw [ascii_append, List.append_assoc, List.append_assoc, List.append_assoc]
    rfl
  have hunits : ∀ u ∈ ascii tag ++ attributes.flatMap attributeText, u ≠ 60 ∧ u ≠ 62 := by
    intro u hu
    rcases List.mem_append.1 hu with hu | hu
    · have hunit := htag u hu
      constructor <;> rintro rfl <;> cases hunit
    · exact h.mem_attributes u hu
  constructor
  · intro rest
    obtain ⟨u, us, hu, hhead⟩ := exists_head attributes rest
    rw [hopen, tagNames, if_pos rfl, ← List.append_assoc,
      tagNames_append fun v hv => (hunits v hv).1, List.append_assoc, hhead, takeWhile_name htag hu]
    rfl
  · intro rest
    obtain ⟨u, us, hu, hhead⟩ := exists_head attributes rest
    rw [hopen, textFrom, if_pos rfl, hhead, not_isPrefixOf_break htag h.name_ne hu, ← hhead,
      ← List.append_assoc, textFrom_tag fun v hv => (hunits v hv).2]
    rfl

/-- So does an end tag, with its slash. -/
theorem stop (h : Readable tag attributes) :
    Shown (ascii ("</" ++ tag ++ ">")) [ascii ("/" ++ tag)] [] := by
  have hname : ∀ u ∈ ascii ("/" ++ tag), isNameUnit u = true := by
    rw [ascii_append]
    exact List.forall_mem_append.2 ⟨List.all_eq_true.1 rfl, List.all_eq_true.1 h.name⟩
  have hclose : ∀ rest, ascii ("</" ++ tag ++ ">") ++ rest =
      60 :: (ascii ("/" ++ tag) ++ 62 :: rest) := by
    intro rest
    rw [ascii_append, ascii_append, ascii_append, List.append_assoc, List.append_assoc,
      List.append_assoc]
    rfl
  constructor
  · intro rest
    rw [hclose, tagNames_tag hname]
    rfl
  · intro rest
    have hend : ∀ u ∈ ascii ("/" ++ tag), u ≠ 62 := by
      intro u hu
      have hunit := hname u hu
      rintro rfl
      cases hunit
    have hbreak : ascii ("/" ++ tag) ≠ ascii "br" := by
      rw [ascii_append]
      intro heq
      cases (List.cons.inj heq).1
    rw [hclose, textFrom, if_pos rfl, not_isPrefixOf_break hname hbreak (by decide),
      textFrom_tag hend]
    rfl

end Readable

namespace Shown

variable {html html' : List CodeUnit} {names names' : List (List CodeUnit)} {s s' : List CodeUnit}

/-- What a whole document shows. -/
theorem tagNames_eq (h : Shown html names s) : Html.tagNames html = names := by
  simpa [Html.tagNames] using h.names []

theorem textFrom_eq (h : Shown html names s) : textFrom false html = s := by
  simpa [textFrom] using h.text []

theorem append (h : Shown html names s) (h' : Shown html' names' s') :
    Shown (html ++ html') (names ++ names') (s ++ s') where
  names rest := by rw [List.append_assoc, h.names, h'.names, List.append_assoc]
  text rest := by rw [List.append_assoc, h.text, h'.text, List.append_assoc]

theorem nil : Shown [] [] [] where
  names _ := rfl
  text _ := rfl

/-- Text shows itself. -/
theorem plain {t : List CodeUnit} (h : isPlain t = true) : Shown t [] t := by
  have hne : ∀ u ∈ t, u ≠ 60 := by
    intro u hu
    have hunit := isPlain_iff.1 h u hu
    rintro rfl
    cases hunit
  exact { names := tagNames_append hne, text := textFrom_append hne }

/-- An element shows what is in it, between its own tags. -/
theorem element {tag : String} {attributes : List Attribute} (hread : Readable tag attributes)
    (h : Shown html names s) :
    Shown (element tag attributes html) (ascii tag :: (names ++ [ascii ("/" ++ tag)])) s := by
  have hall := (hread.start.append h).append hread.stop
  rwa [List.append_nil, List.nil_append, List.append_assoc [ascii tag]] at hall

/-- A break shows a line feed. -/
theorem lineBreak : Shown (void "br") [ascii "br"] [10] where
  names _ := rfl
  text _ := rfl

end Shown

/-- The tags of the fragment are closed. -/
def IsClosed (html : List CodeUnit) : Prop := Shown html (tagNames html) (textFrom false html)

theorem Shown.isClosed {html : List CodeUnit} {names : List (List CodeUnit)} {s : List CodeUnit}
    (h : Shown html names s) : IsClosed html := by
  rw [IsClosed, h.tagNames_eq, h.textFrom_eq]
  exact h

/-- What joined fragments show is joined. -/
theorem Shown.intercalate {sep : List CodeUnit} {ls : List (List CodeUnit)} (hsep : IsClosed sep)
    (h : ∀ l ∈ ls, IsClosed l) :
    Shown (sep.intercalate ls) ((Html.tagNames sep).intercalate (ls.map Html.tagNames))
      ((textFrom false sep).intercalate (ls.map (textFrom false))) := by
  induction ls with
  | nil => exact .nil
  | cons l ls ih =>
    have hl := h l List.mem_cons_self
    cases ls with
    | nil =>
      simp only [List.map_cons, List.map_nil, List.intercalate_singleton]
      exact hl
    | cons l' ls =>
      simp only [List.map_cons, List.intercalate_cons_cons] at ih ⊢
      exact (hl.append hsep).append (ih fun l hl => h l (List.mem_cons_of_mem _ hl))

/-! ## Escaped text -/

theorem escape_cons (u : CodeUnit) (s : List CodeUnit) :
    escape (u :: s) = (escapes.lookup u).getD [u] ++ escape s := List.flatMap_cons

theorem escape_append (s t : List CodeUnit) : escape (s ++ t) = escape s ++ escape t :=
  List.flatMap_append

/-- The code unit has a reference that stands for it. -/
def isEscaped (u : CodeUnit) : Bool := (escapes.lookup u).isSome

theorem escape_cons_of_not {u : CodeUnit} (h : isEscaped u = false) (s : List CodeUnit) :
    escape (u :: s) = u :: escape s := by
  rw [isEscaped, Option.isSome_eq_false_iff, Option.isNone_iff_eq_none] at h
  rw [escape_cons, h]
  rfl

/-- A code unit is one that is escaped, with its reference, or stands for itself. -/
theorem isEscaped_cases (u : CodeUnit) :
    (u, (escapes.lookup u).getD [u]) ∈ escapes ∨ isEscaped u = false := by
  cases hlookup : escapes.lookup u with
  | none => exact .inr (by rw [isEscaped, hlookup]; rfl)
  | some e =>
    obtain ⟨before, after, heq, -⟩ := List.lookup_eq_some_iff.1 hlookup
    exact .inl (heq ▸ List.mem_append_right before List.mem_cons_self)

theorem unescape_escape (s : List CodeUnit) : unescape (escape s) = s := by
  induction s with
  | nil => rfl
  | cons u s ih =>
    rcases isEscaped_cases u with hmem | hno
    · rw [escape_cons]
      -- No reference starts another one, so each is read as what it stands for.
      have hread : ∀ e ∈ escapes, ∀ t, unescape (e.2 ++ t) = e.1 :: unescape t := by
        intro e he t
        simp only [escapes, List.mem_cons, List.not_mem_nil, or_false] at he
        rcases he with rfl | rfl | rfl | rfl | rfl <;> rfl
      rw [hread _ hmem, ih]
    · have hne : u ≠ 38 := by
        rintro rfl
        cases hno
      rw [escape_cons_of_not hno, unescape, unescapeFrom_cons hne]
      exact congrArg (u :: ·) ih

/-- The reference of an escaped unit starts with an ampersand. -/
theorem escape_cons_of_mem {u : CodeUnit} (h : (u, (escapes.lookup u).getD [u]) ∈ escapes)
    (s : List CodeUnit) : ∃ t, escape (u :: s) = 38 :: t := by
  have hall : (escapes.all fun e => e.2.head? = some 38) = true := by decide
  have hhead : ((escapes.lookup u).getD [u]).head? = some 38 := by
    simpa using List.all_eq_true.1 hall _ h
  obtain ⟨t, ht⟩ := List.head?_eq_some_iff.1 hhead
  rw [escape_cons, ht]
  exact ⟨t ++ escape s, rfl⟩

section

variable {p : CodeUnit → Bool} (hp : ∀ e ∈ escapes, p e.1 = false)

include hp

theorem dropWhile_escape (s : List CodeUnit) :
    (escape s).dropWhile p = escape (s.dropWhile p) := by
  induction s with
  | nil => rfl
  | cons u s ih =>
    rcases isEscaped_cases u with hmem | hno
    · obtain ⟨t, ht⟩ := escape_cons_of_mem hmem s
      rw [List.dropWhile_cons_of_neg (by simp [hp _ hmem]), ht,
        List.dropWhile_cons_of_neg (by simp [hp _ List.mem_cons_self])]
    · rw [escape_cons_of_not hno, List.dropWhile_cons, List.dropWhile_cons, ih]
      split
      · rfl
      · rw [escape_cons_of_not hno]

theorem takeWhile_escape (s : List CodeUnit) : (escape s).takeWhile p = s.takeWhile p := by
  induction s with
  | nil => rfl
  | cons u s ih =>
    rcases isEscaped_cases u with hmem | hno
    · obtain ⟨t, ht⟩ := escape_cons_of_mem hmem s
      rw [List.takeWhile_cons_of_neg (by simp [hp _ hmem]), ht,
        List.takeWhile_cons_of_neg (by simp [hp _ List.mem_cons_self])]
    · rw [escape_cons_of_not hno, List.takeWhile_cons, List.takeWhile_cons, ih]

theorem head_escape (s : List CodeUnit) : (escape s).head?.any p = s.head?.any p := by
  cases s with
  | nil => rfl
  | cons u s =>
    rcases isEscaped_cases u with hmem | hno
    · obtain ⟨t, ht⟩ := escape_cons_of_mem hmem s
      simp [ht, hp _ hmem, hp _ List.mem_cons_self]
    · rw [escape_cons_of_not hno]
      rfl

end

/-- The predicate holds of no unit that is escaped, and of none in a reference. -/
def isApart (p : CodeUnit → Bool) : Bool := escapes.all fun e => !p e.1 && e.2.all (!p ·)

section

variable {p : CodeUnit → Bool} (hp : isApart p = true)

include hp

theorem isApart_iff {e : CodeUnit × List CodeUnit} (he : e ∈ escapes) :
    p e.1 = false ∧ ∀ u ∈ e.2, p u = false := by
  have hall := List.all_eq_true.1 hp e he
  rw [Bool.and_eq_true, Bool.not_eq_true', List.all_eq_true] at hall
  exact ⟨hall.1, fun u hu => by simpa using hall.2 u hu⟩

theorem rdropWhile_escape (s : List CodeUnit) :
    (escape s).rdropWhile p = escape (s.rdropWhile p) := by
  induction s using List.reverseRecOn with
  | nil => rfl
  | append_singleton s u ih =>
    rw [escape_append]
    rcases isEscaped_cases u with hmem | hno
    · obtain ⟨hu, hunits⟩ := isApart_iff hp hmem
      have hall : (escapes.all fun e => !e.2.isEmpty) = true := by decide
      have hne : escape [u] ≠ [] := by
        have hreference := List.all_eq_true.1 hall _ hmem
        rw [escape_cons]
        simpa [escape] using hreference
      rw [List.rdropWhile_concat_neg _ _ _ (by simp [hu]), escape_append]
      refine List.rdropWhile_eq_self_iff.2 fun hl => ?_
      rw [List.getLast_append_of_ne_nil hl hne]
      have hlast := hunits ((escape [u]).getLast hne) (by simp [escape])
      simp [hlast]
    · have hself : escape [u] = [u] := escape_cons_of_not hno []
      rw [hself]
      cases hu : p u with
      | true => rw [List.rdropWhile_concat_pos _ _ _ hu, List.rdropWhile_concat_pos _ _ _ hu, ih]
      | false =>
        rw [List.rdropWhile_concat_neg _ _ _ (by simp [hu]),
          List.rdropWhile_concat_neg _ _ _ (by simp [hu]), escape_append, hself]

theorem any_escape (s : List CodeUnit) : (escape s).any p = s.any p := by
  induction s with
  | nil => rfl
  | cons u s ih =>
    rcases isEscaped_cases u with hmem | hno
    · obtain ⟨hu, hunits⟩ := isApart_iff hp hmem
      rw [escape_cons, List.any_append, List.any_cons, hu, ih,
        List.any_eq_false.2 fun v hv => by simp [hunits v hv]]
    · rw [escape_cons_of_not hno, List.any_cons, List.any_cons, ih]

/-- A text is cut where it is cut before it is escaped. -/
theorem splitOnP_escape (s : List CodeUnit) :
    (escape s).splitOnP p = (s.splitOnP p).map escape := by
  induction s with
  | nil => rfl
  | cons u s ih =>
    obtain ⟨first, rest, hcut⟩ := List.exists_cons_of_ne_nil (List.splitOnP_ne_nil p s)
    rw [hcut] at ih
    rcases isEscaped_cases u with hmem | hno
    · obtain ⟨hu, hunits⟩ := isApart_iff hp hmem
      have hcons : ∀ t : List CodeUnit, (∀ v ∈ t, p v = false) →
          (t ++ escape s).splitOnP p = (t ++ escape first) :: rest.map escape := by
        intro t ht
        induction t with
        | nil => exact ih
        | cons v t iht =>
          rw [List.cons_append, List.splitOnP_cons_eq_if_modifyHead,
            if_neg (by simp [ht v List.mem_cons_self]),
            iht fun w hw => ht w (List.mem_cons_of_mem _ hw)]
          rfl
      rw [escape_cons, hcons _ hunits, List.splitOnP_cons_eq_if_modifyHead, if_neg (by simp [hu]),
        hcut, List.modifyHead_cons, List.map_cons, escape_cons]
    · rw [escape_cons_of_not hno, List.splitOnP_cons_eq_if_modifyHead,
        List.splitOnP_cons_eq_if_modifyHead, ih, hcut]
      split
      · rfl
      · rw [List.modifyHead_cons, List.map_cons, List.modifyHead_cons, List.map_cons,
          escape_cons_of_not hno]

end

end Perfana.Html
