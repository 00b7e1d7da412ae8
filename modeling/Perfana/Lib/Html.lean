import Perfana.Lib.Utf16

/-!
# Markup

A document is text with elements in it, one inside the other or one after the other. The markup
is told from the text by characters that the text itself may have only as references: in a
document that is well nested every angle bracket and every quote is one of the markup
(`WellNested`), the tags and the attributes being those that are let in.

* `WellNested.intercalate`: documents joined by a document are one;
* `isPlain_escape`: escaped text has no markup in it.
-/

namespace Perfana.Html

/-- A text in ASCII, in code units. -/
def ascii (s : String) : List CodeUnit := s.toList.map fun c => Fin.ofNat 65536 c.toNat

/-- The characters of the markup, with what stands for them in a text: ampersands, angle
    brackets and quotes. -/
def escapes : List (CodeUnit × List CodeUnit) :=
  [(38, ascii "&amp;"), (60, ascii "&lt;"), (62, ascii "&gt;"), (34, ascii "&quot;"),
    (39, ascii "&#039;")]

/-- The code unit does not belong to the markup. -/
def isPlainUnit (u : CodeUnit) : Bool := u ≠ 60 && u ≠ 62 && u ≠ 34 && u ≠ 39

/-- The text has neither angle brackets nor quotes. -/
def isPlain (s : List CodeUnit) : Bool := s.all isPlainUnit

/-- A text with references in the place of the characters of the markup. -/
def escape (s : List CodeUnit) : List CodeUnit := s.flatMap fun u => (escapes.lookup u).getD [u]

/-- The text that is read where such references are; `skip` units were read already. -/
def unescapeFrom : ℕ → List CodeUnit → List CodeUnit
  | _, [] => []
  | skip + 1, _ :: us => unescapeFrom skip us
  | 0, u :: us =>
    match escapes.find? fun e => e.2.isPrefixOf (u :: us) with
    | some e => e.1 :: unescapeFrom (e.2.length - 1) us
    | none => u :: unescapeFrom 0 us

/-- The text that is read where references are. -/
def unescape (s : List CodeUnit) : List CodeUnit := unescapeFrom 0 s

/-- The name of an attribute, with its value. -/
abbrev Attribute := String × List CodeUnit

/-- An attribute in a tag, its value in quotes. -/
def attributeText (a : Attribute) : List CodeUnit :=
  ascii (" " ++ a.1 ++ "=\"") ++ a.2 ++ ascii "\""

/-- A start tag, with its attributes, a content and the end tag. -/
def element (tag : String) (attributes : List Attribute) (content : List CodeUnit) :
    List CodeUnit :=
  ascii ("<" ++ tag) ++ attributes.flatMap attributeText ++ ascii ">" ++ content ++
    ascii ("</" ++ tag ++ ">")

/-- A tag without a content. -/
def void (tag : String) : List CodeUnit := ascii ("<" ++ tag ++ ">")

/-- The document is well nested, and has only elements that are let in. No value of an attribute
    has markup in it. -/
inductive WellNested (isElement : String → List Attribute → Prop) (isVoid : String → Prop) :
    List CodeUnit → Prop
  | text {s : List CodeUnit} (h : isPlain s = true) : WellNested isElement isVoid s
  | element {tag : String} {attributes : List Attribute} {content : List CodeUnit}
      (htag : isElement tag attributes) (hplain : ∀ a ∈ attributes, isPlain a.2 = true)
      (hcontent : WellNested isElement isVoid content) :
      WellNested isElement isVoid (element tag attributes content)
  | void {tag : String} (h : isVoid tag) : WellNested isElement isVoid (void tag)
  | append {s t : List CodeUnit} (hs : WellNested isElement isVoid s)
      (ht : WellNested isElement isVoid t) : WellNested isElement isVoid (s ++ t)

theorem isPlain_iff {s : List CodeUnit} : isPlain s = true ↔ ∀ u ∈ s, isPlainUnit u = true :=
  List.all_eq_true

theorem isPlain_of_subset {s t : List CodeUnit} (h : isPlain t = true) (hsub : s ⊆ t) :
    isPlain s = true :=
  isPlain_iff.2 fun u hu => isPlain_iff.1 h u (hsub hu)

/-- Escaped text has no markup in it. -/
theorem isPlain_escape (s : List CodeUnit) : isPlain (escape s) = true := by
  rw [isPlain_iff]
  intro v hv
  obtain ⟨u, -, hv⟩ := List.mem_flatMap.1 hv
  cases hlookup : escapes.lookup u with
  | some e =>
    rw [hlookup, Option.getD_some] at hv
    have hall : (escapes.all fun e => isPlain e.2) = true := by decide
    obtain ⟨before, after, heq, -⟩ := List.lookup_eq_some_iff.1 hlookup
    have hmem : (u, e) ∈ escapes := heq ▸ List.mem_append_right before List.mem_cons_self
    exact isPlain_iff.1 (List.all_eq_true.1 hall (u, e) hmem) v hv
  | none =>
    rw [hlookup, Option.getD_none, List.mem_singleton] at hv
    rw [hv]
    -- The characters of the markup are looked up.
    cases hplain : isPlainUnit u with
    | true => rfl
    | false =>
      have hmarkup : u = 60 ∨ u = 62 ∨ u = 34 ∨ u = 39 := by
        by_contra hnot
        simp only [not_or] at hnot
        simp [isPlainUnit, hnot] at hplain
      rcases hmarkup with rfl | rfl | rfl | rfl <;> cases hlookup

/-- The references start with an ampersand. -/
theorem unescapeFrom_cons {u : CodeUnit} (h : u ≠ 38) (us : List CodeUnit) :
    unescapeFrom 0 (u :: us) = u :: unescapeFrom 0 us := by
  have hnone : (escapes.find? fun e => e.2.isPrefixOf (u :: us)) = none := by
    rw [List.find?_eq_none]
    intro e he hprefix
    have hall : (escapes.all fun e => [38].isPrefixOf e.2) = true := by decide
    have hamp : [38] <+: e.2 := List.isPrefixOf_iff_prefix.1 (List.all_eq_true.1 hall e he)
    have hcons : [38] <+: u :: us := hamp.trans (List.isPrefixOf_iff_prefix.1 hprefix)
    exact h (List.cons_prefix_cons.1 hcons).1.symm
  rw [unescapeFrom, hnone]

/-- What is read was there, or is a character of the markup. -/
theorem mem_unescapeFrom {skip : ℕ} {us : List CodeUnit} {v : CodeUnit}
    (h : v ∈ unescapeFrom skip us) : v ∈ us ∨ ∃ e ∈ escapes, e.1 = v := by
  induction skip, us using unescapeFrom.induct with
  | case1 skip => exact absurd h (by simp [unescapeFrom])
  | case2 skip u us ih => exact (ih h).imp_left (List.mem_cons_of_mem u)
  | case3 u us e hfind ih =>
    rw [unescapeFrom, hfind] at h
    rcases List.mem_cons.1 h with rfl | h
    · exact .inr ⟨e, List.mem_of_find?_eq_some hfind, rfl⟩
    · exact (ih h).imp_left (List.mem_cons_of_mem u)
  | case4 u us hfind ih =>
    rw [unescapeFrom, hfind] at h
    rcases List.mem_cons.1 h with rfl | h
    · exact .inl List.mem_cons_self
    · exact (ih h).imp_left (List.mem_cons_of_mem u)

/-- So is what is read first. -/
theorem head_unescapeFrom {us : List CodeUnit} {v : CodeUnit}
    (h : v ∈ (unescapeFrom 0 us).head?) : v ∈ us.head? ∨ ∃ e ∈ escapes, e.1 = v := by
  cases us with
  | nil => cases h
  | cons u us =>
    rw [unescapeFrom] at h
    cases hfind : escapes.find? fun e => e.2.isPrefixOf (u :: us) with
    | some e =>
      rw [hfind] at h
      exact .inr ⟨e, List.mem_of_find?_eq_some hfind, Option.some.inj h⟩
    | none =>
      rw [hfind] at h
      exact .inl h

namespace WellNested

variable {isElement : String → List Attribute → Prop} {isVoid : String → Prop}

theorem flatten {ls : List (List CodeUnit)} (h : ∀ l ∈ ls, WellNested isElement isVoid l) :
    WellNested isElement isVoid ls.flatten := by
  induction ls with
  | nil => exact text rfl
  | cons l ls ih =>
    exact append (h l List.mem_cons_self) (ih fun l hl => h l (List.mem_cons_of_mem _ hl))

/-- Documents joined by a document are one. -/
theorem intercalate {sep : List CodeUnit} {ls : List (List CodeUnit)}
    (hsep : WellNested isElement isVoid sep) (h : ∀ l ∈ ls, WellNested isElement isVoid l) :
    WellNested isElement isVoid (sep.intercalate ls) := by
  refine flatten fun l hl => ?_
  induction ls using List.intersperse.induct with
  | case1 => exact absurd hl List.not_mem_nil
  | case2 l' => exact h l hl
  | case3 l' ls hls ih =>
    rw [List.intersperse.eq_3 _ _ _ hls] at hl
    rcases List.mem_cons.1 hl with rfl | hl
    · exact h l List.mem_cons_self
    · rcases List.mem_cons.1 hl with rfl | hl
      · exact hsep
      · exact ih (fun l hl => h l (List.mem_cons_of_mem _ hl)) hl

end WellNested

end Perfana.Html
