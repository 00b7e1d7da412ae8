import Perfana.Lib.FirstFree
import Perfana.Lib.Html
import Perfana.Lib.Table
import Mathlib.Data.List.DropRight

/-!
# Anchors of the sections of a report

A section of a report is addressed by the slug of its title. Sections with the same slug are
numbered, in the order of the report (`assignSectionAnchors`), and the author is told of the slugs
that sections share and of the titles without a slug (`findAnchorProblems`).

* `exists_assignSectionAnchors`: the search for a free number ends, and every section is given an
  anchor with the prefix of the sections, no two of them the same one (`Inv`);
* `keepsSlugs_iff`: the sections the author is not told of are addressed by their slugs if and only
  if none of these slugs is in use as the number of another one.
-/

namespace Perfana.SectionAnchors

open FirstFree
open Html (ascii)

abbrev Str := List CodeUnit

/-! ## Slugs -/

section Slugs

variable (normalize toLowerCase : Str → Str)

/-- The marks that a letter is decomposed into, beside the letter. -/
def isCombiningMark (u : CodeUnit) : Bool := 0x300 ≤ u.val && u.val ≤ 0x36f

/-- A small letter or a digit. -/
def isSlugUnit (u : CodeUnit) : Bool := 97 ≤ u.val && u.val ≤ 122 || 48 ≤ u.val && u.val ≤ 57

/-- A hyphen for each run of other units; whether one is under way is in the flag. -/
def hyphenate : Bool → Str → Str
  | _, [] => []
  | inRun, u :: s =>
    if isSlugUnit u then u :: hyphenate false s
    else if inRun then hyphenate true s
    else 45 :: hyphenate true s

/-- Without the hyphens at both ends. -/
def trimHyphens (s : Str) : Str := (s.dropWhile (· = 45)).rdropWhile (· = 45)

/-- What a title gives, which may be nothing. `normalize` decomposes the characters. -/
def rawSlugOf (title : Option Str) : Str :=
  trimHyphens (hyphenate false (toLowerCase ((normalize (title.getD [])).filter fun u =>
    !isCombiningMark u)))

/-- The slug of a title, or else the fallback. -/
def slugifySectionTitle (title : Option Str) (fallback : Str) : Str :=
  if rawSlugOf normalize toLowerCase title = [] then fallback
  else rawSlugOf normalize toLowerCase title

end Slugs

/-! ## Anchors -/

def SECTION_ANCHOR_PREFIX : Str := ascii "section-"

/-- The name that is tried for a slug at a turn of the search: first the slug itself. -/
def numbered (base : Str) (n : ℕ) : Str :=
  if n = 1 then base else base ++ ascii "-" ++ Utf16.encode (toString n)

section Items

variable {T : Type*} [DecidableEq T] (normalize toLowerCase : Str → Str)
  (titleOf : T → Option Str) (typeOf : T → Str)

/-- The slug of a section, or its type. -/
def baseOf (item : T) : Str := slugifySectionTitle normalize toLowerCase (titleOf item) (typeOf item)

/-- What is known while the anchors are assigned. -/
structure Anchors (T : Type*) where
  /-- The names that were assigned. -/
  taken : List Str
  /-- The anchor of each section. -/
  anchors : Table T Str

/-- Assign an anchor to a section; the search takes at most so many turns. -/
def assignSectionAnchor (fuel : ℕ) (s : Anchors T) (item : T) : Option (Anchors T) :=
  (firstFree s.taken (numbered (baseOf normalize toLowerCase titleOf typeOf item)) fuel 1).map
    fun candidate =>
      { taken := candidate :: s.taken
        anchors := s.anchors.set item (SECTION_ANCHOR_PREFIX ++ candidate) }

/-- Assign an anchor to every section, in the order of the document. -/
def assignSectionAnchors (fuel : ℕ) (items : List T) : Option (Table T Str) :=
  (items.foldlM (assignSectionAnchor normalize toLowerCase titleOf typeOf fuel)
    ⟨[], Table.empty⟩).map Anchors.anchors

/-! ## Problems -/

/-- The sections that share a slug. -/
structure SlugGroup where
  count : ℕ
  /-- One of them has it from its title. -/
  anyReal : Bool

/-- What the author is told of. -/
structure AnchorProblems (T : Type*) where
  slugCollisions : List Str
  titlelessSections : List T

/-- What is known while the sections are grouped. -/
structure Grouping (T : Type*) where
  titlelessSections : List T
  groups : Table Str SlugGroup
  /-- The slugs, in the order they appear. -/
  order : List Str

/-- Add a section to the group of its slug. -/
def groupSection (g : Grouping T) (item : T) : Grouping T :=
  let raw := rawSlugOf normalize toLowerCase (titleOf item)
  let base := if raw = [] then typeOf item else raw
  let titlelessSections :=
    if raw = [] then g.titlelessSections ++ [item] else g.titlelessSections
  match g.groups.get base with
  | some group =>
    { titlelessSections := titlelessSections
      groups := g.groups.set base
        { count := group.count + 1, anyReal := group.anyReal || decide (raw ≠ []) }
      order := g.order }
  | none =>
    { titlelessSections := titlelessSections
      groups := g.groups.set base { count := 1, anyReal := decide (raw ≠ []) }
      order := g.order ++ [base] }

/-- The slugs that sections share, one of which has it from its title, and the sections whose
    titles have none. -/
def findAnchorProblems (items : List T) : AnchorProblems T :=
  let g := items.foldl (groupSection normalize toLowerCase titleOf typeOf)
    ⟨[], Table.empty, []⟩
  { slugCollisions := g.order.filter fun base =>
      (g.groups.get base).any fun group => decide (2 ≤ group.count) && group.anyReal
    titlelessSections := g.titlelessSections }

end Items

/-! ## The search for a number -/

theorem numbered_one (base : Str) : numbered base 1 = base := if_pos rfl

theorem numbered_injective (base : Str) : Function.Injective (numbered base) := by
  have hne : ∀ n : ℕ, base ≠ base ++ ascii "-" ++ Utf16.encode (toString n) := fun n h => by
    have hlength := congrArg List.length h
    simp [ascii] at hlength
  intro m n h
  simp only [numbered] at h
  split at h <;> split at h
  · omega
  · exact absurd h (hne n)
  · exact absurd h.symm (hne m)
  · have hdigits : toString m = toString n :=
      Utf16.encode_injective (List.append_cancel_left h)
    simp only [Nat.toString_eq_ofList_toDigits] at hdigits
    have hvalue := congrArg (fun t : String => Nat.ofDigitChars 10 t.toList 0) hdigits
    simpa only [String.toList_ofList, Nat.ofDigitChars_ten_toDigits] using hvalue

section Items

variable {T : Type*} [DecidableEq T] {normalize toLowerCase : Str → Str}
  {titleOf : T → Option Str} {typeOf : T → Str}

/-! ## What is assigned -/

/-- The slugs of the sections before one, the nearest first. -/
def wantedBefore (normalize toLowerCase : Str → Str) (titleOf : T → Option Str) (typeOf : T → Str)
    (before : List T) : List Str :=
  (before.map (baseOf normalize toLowerCase titleOf typeOf)).reverse

/-- What holds of the anchors when the sections of a list have theirs. -/
structure Inv (normalize toLowerCase : Str → Str) (titleOf : T → Option Str) (typeOf : T → Str)
    (done : List T) (s : Anchors T) : Prop where
  /-- The names that are taken are said by the slugs. -/
  taken_iff : ∀ a, a ∈ s.taken ↔
    InUse numbered (wantedBefore normalize toLowerCase titleOf typeOf done) a
  length : s.taken.length = done.length
  /-- An anchor is a name that is taken, with the prefix. -/
  taken : ∀ x a, s.anchors.get x = some a → ∃ c ∈ s.taken, a = SECTION_ANCHOR_PREFIX ++ c
  assigned : ∀ x ∈ done, s.anchors.get x ≠ none
  distinct : ∀ x y, s.anchors.get x ≠ none → s.anchors.get x = s.anchors.get y → x = y
  /-- The slug itself is assigned where it was free. -/
  own : ∀ before x after, done = before ++ x :: after → x ∉ after →
    ∃ c, s.anchors.get x = some (SECTION_ANCHOR_PREFIX ++ c) ∧
      (c = baseOf normalize toLowerCase titleOf typeOf x ↔
        ¬InUse numbered (wantedBefore normalize toLowerCase titleOf typeOf before)
          (baseOf normalize toLowerCase titleOf typeOf x))

theorem Inv.empty : Inv normalize toLowerCase titleOf typeOf [] (⟨[], Table.empty⟩ : Anchors T) where
  taken_iff a := by simp [wantedBefore, InUse]
  length := rfl
  taken x a h := by cases h
  assigned x h := absurd h List.not_mem_nil
  distinct x y h := absurd rfl h
  own before x after h := by simp at h

/-- A section is assigned a name that is free. -/
theorem Inv.assignSectionAnchor {done : List T} {s : Anchors T} {fuel : ℕ}
    (h : Inv normalize toLowerCase titleOf typeOf done s) (hfuel : done.length < fuel) (item : T) :
    ∃ s', (∀ k, SectionAnchors.assignSectionAnchor normalize toLowerCase titleOf typeOf (fuel + k)
        s item = some s') ∧
      Inv normalize toLowerCase titleOf typeOf (done ++ [item]) s' := by
  obtain ⟨c, hc⟩ := exists_firstFree (numbered_injective
    (baseOf normalize toLowerCase titleOf typeOf item)) (h.length ▸ hfuel) 1
  obtain ⟨hfree, k, hk, hck, hbefore⟩ := firstFree_spec hc
  have hnew : ∀ x a, s.anchors.get x = some a → a ≠ SECTION_ANCHOR_PREFIX ++ c := by
    rintro x a hx rfl
    obtain ⟨c', hc', heq⟩ := h.taken x _ hx
    exact hfree (List.append_cancel_left heq ▸ hc')
  refine ⟨{ taken := c :: s.taken, anchors := s.anchors.set item (SECTION_ANCHOR_PREFIX ++ c) },
    fun k => ?_, ?_⟩
  · rw [SectionAnchors.assignSectionAnchor, firstFree_mono hc]
    rfl
  · refine ⟨fun a => ?_, ?_, fun x a hx => ?_, fun x hx => ?_, fun x y hx hxy => ?_,
      fun before x after heq hx => ?_⟩
    · rw [wantedBefore, List.map_append, List.reverse_append]
      exact inUse_take h.taken_iff hc a
    · simp [h.length]
    · rw [Table.get_set] at hx
      split at hx
      · exact ⟨c, List.mem_cons_self, (Option.some.inj hx).symm⟩
      · obtain ⟨c', hc', rfl⟩ := h.taken x a hx
        exact ⟨c', List.mem_cons_of_mem _ hc', rfl⟩
    · rw [Table.get_set]
      split
      · exact Option.some_ne_none _
      · rename_i hne
        rcases List.mem_append.1 hx with hx | hx
        · exact h.assigned x hx
        · exact absurd (List.mem_singleton.1 hx) hne
    · simp only [Table.get_set] at hx hxy
      split at hxy <;> split at hxy
      · rename_i hx' hy'
        rw [hx', hy']
      · exact absurd rfl (hnew y _ hxy.symm)
      · exact absurd rfl (hnew x _ hxy)
      · rename_i hx' _
        rw [if_neg hx'] at hx
        exact h.distinct x y hx hxy
    · rcases List.eq_nil_or_concat after with rfl | ⟨after, last, rfl⟩
      · -- The section itself.
        obtain ⟨rfl, hlast⟩ := List.append_inj' heq rfl
        obtain rfl := (List.cons.inj hlast).1
        refine ⟨c, by rw [Table.get_set, if_pos rfl], ?_⟩
        rw [← h.taken_iff]
        constructor
        · rintro rfl
          exact hfree
        · intro hown
          rcases Nat.eq_or_lt_of_le hk with rfl | hlt
          · rw [hck, numbered_one]
          · have hone := hbefore 1 le_rfl hlt
            rw [numbered_one] at hone
            exact absurd hone hown
      · -- An earlier one keeps its anchor.
        rw [List.concat_eq_append, ← List.cons_append, ← List.append_assoc] at heq
        obtain ⟨hdone, hlast⟩ := List.append_inj' heq rfl
        obtain rfl := (List.cons.inj hlast).1
        have hne : x ≠ item := fun h => hx (by simp [h])
        obtain ⟨c', hget, hown⟩ := h.own before x after hdone fun h => hx (by simp [h])
        exact ⟨c', by rw [Table.get_set, if_neg hne, hget], hown⟩

/-- The sections after some that have their anchors. -/
theorem Inv.foldlM {done : List T} {s : Anchors T} {fuel : ℕ}
    (h : Inv normalize toLowerCase titleOf typeOf done s) (items : List T)
    (hfuel : done.length + items.length < fuel) :
    ∃ s', (∀ k, items.foldlM (SectionAnchors.assignSectionAnchor normalize toLowerCase titleOf
        typeOf (fuel + k)) s = some s') ∧
      Inv normalize toLowerCase titleOf typeOf (done ++ items) s' := by
  induction items generalizing done s with
  | nil => exact ⟨s, fun _ => rfl, by rwa [List.append_nil]⟩
  | cons item items ih =>
    rw [List.length_cons] at hfuel
    obtain ⟨s', hstep, hinv⟩ := h.assignSectionAnchor (show done.length < fuel by omega) item
    obtain ⟨s'', hrun, hinv'⟩ := ih hinv (by rw [List.length_append, List.length_singleton]; omega)
    refine ⟨s'', fun k => ?_, by rwa [List.append_assoc, List.singleton_append] at hinv'⟩
    rw [List.foldlM_cons, hstep]
    exact hrun k

/-- The anchors of a document, of which there are some however long the search may take. -/
theorem exists_assignSectionAnchors (items : List T) :
    ∃ s, (∀ k, assignSectionAnchors normalize toLowerCase titleOf typeOf (items.length + 1 + k)
        items = some s.anchors) ∧
      Inv normalize toLowerCase titleOf typeOf items s := by
  obtain ⟨s, hrun, hinv⟩ := (@Inv.empty T _ normalize toLowerCase titleOf typeOf).foldlM items
    (show _ < items.length + 1 by simp)
  exact ⟨s, fun k => by rw [assignSectionAnchors, hrun]; rfl, hinv⟩

/-! ## What the author is told -/

/-- What holds of the groups when the sections of a list are in theirs. -/
structure Grouped (normalize toLowerCase : Str → Str) (titleOf : T → Option Str) (typeOf : T → Str)
    (done : List T) (g : Grouping T) : Prop where
  mem_titleless : ∀ x, x ∈ g.titlelessSections ↔
    x ∈ done ∧ rawSlugOf normalize toLowerCase (titleOf x) = []
  mem_order : ∀ b, b ∈ g.order ↔ g.groups.get b ≠ none
  count : ∀ b, ((g.groups.get b).map SlugGroup.count).getD 0 =
    done.countP fun x => baseOf normalize toLowerCase titleOf typeOf x = b
  anyReal : ∀ b, (g.groups.get b).any SlugGroup.anyReal = true ↔
    ∃ x ∈ done, baseOf normalize toLowerCase titleOf typeOf x = b ∧
      rawSlugOf normalize toLowerCase (titleOf x) ≠ []

omit [DecidableEq T] in
theorem Grouped.empty :
    Grouped normalize toLowerCase titleOf typeOf [] (⟨[], Table.empty, []⟩ : Grouping T) where
  mem_titleless x := by simp
  mem_order b := by simp
  count b := by simp
  anyReal b := by simp

omit [DecidableEq T] in
/-- The group of a section after it was added, whether there was one before or not. -/
theorem groupSection_eq (g : Grouping T) (item : T) :
    groupSection normalize toLowerCase titleOf typeOf g item =
      { titlelessSections :=
          if rawSlugOf normalize toLowerCase (titleOf item) = [] then g.titlelessSections ++ [item]
          else g.titlelessSections
        groups := g.groups.set (baseOf normalize toLowerCase titleOf typeOf item)
          { count := ((g.groups.get (baseOf normalize toLowerCase titleOf typeOf item)).map
              SlugGroup.count).getD 0 + 1
            anyReal := (g.groups.get (baseOf normalize toLowerCase titleOf typeOf item)).any
              SlugGroup.anyReal || decide (rawSlugOf normalize toLowerCase (titleOf item) ≠ []) }
        order := if g.groups.get (baseOf normalize toLowerCase titleOf typeOf item) = none then
            g.order ++ [baseOf normalize toLowerCase titleOf typeOf item]
          else g.order } := by
  have hbase : (if rawSlugOf normalize toLowerCase (titleOf item) = [] then typeOf item
      else rawSlugOf normalize toLowerCase (titleOf item)) =
      baseOf normalize toLowerCase titleOf typeOf item := rfl
  simp only [SectionAnchors.groupSection, hbase]
  cases g.groups.get (baseOf normalize toLowerCase titleOf typeOf item) <;> simp

omit [DecidableEq T] in
/-- A section is added to the group of its slug. -/
theorem Grouped.groupSection {done : List T} {g : Grouping T}
    (h : Grouped normalize toLowerCase titleOf typeOf done g) (item : T) :
    Grouped normalize toLowerCase titleOf typeOf (done ++ [item])
      (SectionAnchors.groupSection normalize toLowerCase titleOf typeOf g item) := by
  rw [groupSection_eq]
  refine ⟨fun x => ?_, fun b => ?_, fun b => ?_, fun b => ?_⟩
  · split
    · rename_i hraw
      rw [List.mem_append, List.mem_append, h.mem_titleless, List.mem_singleton]
      constructor
      · rintro (⟨hx, hx'⟩ | rfl)
        · exact ⟨.inl hx, hx'⟩
        · exact ⟨.inr rfl, hraw⟩
      · rintro ⟨hx | rfl, hx'⟩
        · exact .inl ⟨hx, hx'⟩
        · exact .inr rfl
    · rename_i hraw
      rw [h.mem_titleless, List.mem_append, List.mem_singleton]
      constructor
      · rintro ⟨hx, hx'⟩
        exact ⟨.inl hx, hx'⟩
      · rintro ⟨hx | rfl, hx'⟩
        · exact ⟨hx, hx'⟩
        · exact absurd hx' hraw
  · by_cases hb : b = baseOf normalize toLowerCase titleOf typeOf item
    · subst hb
      simp only [Table.get_set, if_true, ne_eq, reduceCtorEq, not_false_eq_true, iff_true]
      split
      · exact List.mem_append_right _ (List.mem_singleton.2 rfl)
      · rename_i hsome
        exact (h.mem_order _).2 hsome
    · simp only [Table.get_set, if_neg hb]
      rw [← h.mem_order]
      split <;> simp [hb]
  · rw [List.countP_append, ← h.count]
    by_cases hb : b = baseOf normalize toLowerCase titleOf typeOf item
    · subst hb
      simp
    · simp [Table.get_set, hb, Ne.symm hb]
  · have hsplit : (∃ x ∈ done ++ [item], baseOf normalize toLowerCase titleOf typeOf x = b ∧
        rawSlugOf normalize toLowerCase (titleOf x) ≠ []) ↔
        (g.groups.get b).any SlugGroup.anyReal = true ∨
          baseOf normalize toLowerCase titleOf typeOf item = b ∧
            rawSlugOf normalize toLowerCase (titleOf item) ≠ [] := by
      rw [h.anyReal]
      simp [or_and_right, exists_or]
    rw [hsplit]
    by_cases hb : b = baseOf normalize toLowerCase titleOf typeOf item
    · subst hb
      simp
    · simp [Table.get_set, hb, Ne.symm hb]

omit [DecidableEq T] in
theorem Grouped.foldl {done : List T} {g : Grouping T}
    (h : Grouped normalize toLowerCase titleOf typeOf done g) (items : List T) :
    Grouped normalize toLowerCase titleOf typeOf (done ++ items)
      (items.foldl (SectionAnchors.groupSection normalize toLowerCase titleOf typeOf) g) := by
  induction items generalizing done g with
  | nil => rwa [List.append_nil]
  | cons item items ih =>
    have hnext := ih (h.groupSection item)
    rwa [List.append_assoc, List.singleton_append] at hnext

/-- The author is told neither that the slug of the section is shared nor that it has none. -/
def HasNoProblem (normalize toLowerCase : Str → Str) (titleOf : T → Option Str) (typeOf : T → Str)
    (items : List T) (x : T) : Prop :=
  x ∉ (findAnchorProblems normalize toLowerCase titleOf typeOf items).titlelessSections ∧
    rawSlugOf normalize toLowerCase (titleOf x) ∉
      (findAnchorProblems normalize toLowerCase titleOf typeOf items).slugCollisions

omit [DecidableEq T] in
/-- A section the author is not told of has a slug, and no other section has it. -/
theorem HasNoProblem.count {items : List T} {x : T}
    (h : HasNoProblem normalize toLowerCase titleOf typeOf items x) (hx : x ∈ items) :
    baseOf normalize toLowerCase titleOf typeOf x = rawSlugOf normalize toLowerCase (titleOf x) ∧
      (items.countP fun y => baseOf normalize toLowerCase titleOf typeOf y =
        baseOf normalize toLowerCase titleOf typeOf x) ≤ 1 := by
  have hgrouped := (@Grouped.empty T normalize toLowerCase titleOf typeOf).foldl items
  rw [List.nil_append] at hgrouped
  obtain ⟨htitle, hslug⟩ := h
  have hraw : rawSlugOf normalize toLowerCase (titleOf x) ≠ [] := fun hraw =>
    htitle ((hgrouped.mem_titleless x).2 ⟨hx, hraw⟩)
  have hbase : baseOf normalize toLowerCase titleOf typeOf x =
      rawSlugOf normalize toLowerCase (titleOf x) := if_neg hraw
  refine ⟨hbase, Nat.le_of_not_lt fun hcount => hslug ?_⟩
  have hreal := (hgrouped.anyReal _).2 ⟨x, hx, rfl, hraw⟩
  have hshared := hgrouped.count (baseOf normalize toLowerCase titleOf typeOf x)
  obtain ⟨group, hgroup, hanyReal⟩ := (Option.any_eq_true _ _).1 hreal
  rw [hgroup] at hshared
  have hmem : rawSlugOf normalize toLowerCase (titleOf x) ∈ (items.foldl
      (groupSection normalize toLowerCase titleOf typeOf) ⟨[], Table.empty, []⟩).order := by
    rw [← hbase, hgrouped.mem_order, hgroup]
    exact Option.some_ne_none _
  refine List.mem_filter.2 ⟨hmem, ?_⟩
  have htwo : 2 ≤ group.count := by
    rw [← hshared] at hcount
    exact hcount
  rw [← hbase, hgroup]
  simp [htwo, hanyReal]

omit [DecidableEq T] in
/-- So its slug is not that of a section before it, and it is not listed again after it. -/
theorem HasNoProblem.of_append {before after : List T} {x : T}
    (h : HasNoProblem normalize toLowerCase titleOf typeOf (before ++ x :: after) x) :
    baseOf normalize toLowerCase titleOf typeOf x = rawSlugOf normalize toLowerCase (titleOf x) ∧
      baseOf normalize toLowerCase titleOf typeOf x ∉
        wantedBefore normalize toLowerCase titleOf typeOf before ∧ x ∉ after := by
  obtain ⟨hbase, hcount⟩ := h.count (by simp)
  rw [List.countP_append, List.countP_cons_of_pos (by simp)] at hcount
  refine ⟨hbase, fun hin => ?_, fun hin => ?_⟩
  · rw [wantedBefore, List.mem_reverse, List.mem_map] at hin
    obtain ⟨y, hy, heq⟩ := hin
    have hpos : 0 < before.countP fun y => baseOf normalize toLowerCase titleOf typeOf y =
        baseOf normalize toLowerCase titleOf typeOf x :=
      List.countP_pos_iff.2 ⟨y, hy, by simpa using heq⟩
    omega
  · have hpos : 0 < after.countP fun y => baseOf normalize toLowerCase titleOf typeOf y =
        baseOf normalize toLowerCase titleOf typeOf x :=
      List.countP_pos_iff.2 ⟨x, hin, by simp⟩
    omega

/-! ## The sections that keep their slugs -/

/-- The sections the author is not told of are addressed by their slugs. -/
def KeepsSlugs (normalize toLowerCase : Str → Str) (titleOf : T → Option Str) (typeOf : T → Str)
    (items : List T) (anchors : Table T Str) : Prop :=
  ∀ x ∈ items, HasNoProblem normalize toLowerCase titleOf typeOf items x →
    anchors.get x =
      some (SECTION_ANCHOR_PREFIX ++ rawSlugOf normalize toLowerCase (titleOf x))

/-- Whatever the sections are, each is given an anchor of its own, with the prefix; and the ones
    the author is not told of keep their slugs if and only if none of these is in use before as the
    number of another one. -/
theorem keepsSlugs_iff (normalize toLowerCase : Str → Str) (titleOf : T → Option Str)
    (typeOf : T → Str) (items : List T) :
    ∃ anchors, (∀ k, assignSectionAnchors normalize toLowerCase titleOf typeOf
        (items.length + 1 + k) items = some anchors) ∧
      (∀ x ∈ items, ∃ c, anchors.get x = some (SECTION_ANCHOR_PREFIX ++ c)) ∧
      (∀ x ∈ items, ∀ y ∈ items, anchors.get x = anchors.get y → x = y) ∧
      (KeepsSlugs normalize toLowerCase titleOf typeOf items anchors ↔
        ∀ before x after, items = before ++ x :: after →
          HasNoProblem normalize toLowerCase titleOf typeOf items x →
          ¬InUseAsNumber numbered (wantedBefore normalize toLowerCase titleOf typeOf before)
            (rawSlugOf normalize toLowerCase (titleOf x))) := by
  obtain ⟨s, hrun, hinv⟩ :=
    @exists_assignSectionAnchors T _ normalize toLowerCase titleOf typeOf items
  have hown : ∀ before x after, items = before ++ x :: after →
      HasNoProblem normalize toLowerCase titleOf typeOf items x →
      (s.anchors.get x =
          some (SECTION_ANCHOR_PREFIX ++ rawSlugOf normalize toLowerCase (titleOf x)) ↔
        ¬InUseAsNumber numbered (wantedBefore normalize toLowerCase titleOf typeOf before)
          (rawSlugOf normalize toLowerCase (titleOf x))) := by
    intro before x after heq hx
    subst heq
    obtain ⟨hbase, hfirst, hlast⟩ := hx.of_append
    obtain ⟨c, hc, hiff⟩ := hinv.own before x after rfl hlast
    rw [inUse_iff numbered_one, or_iff_right hfirst, hbase] at hiff
    rw [hc, Option.some.injEq, List.append_cancel_left_eq, hiff]
  refine ⟨s.anchors, hrun, fun x hx => ?_, fun x hx y _ => ?_, fun h => ?_, fun h x hx hx' => ?_⟩
  · obtain ⟨a, ha⟩ := Option.ne_none_iff_exists'.1 (hinv.assigned x hx)
    obtain ⟨c, -, rfl⟩ := hinv.taken x a ha
    exact ⟨c, ha⟩
  · exact hinv.distinct x y (hinv.assigned x hx)
  · intro before x after heq hx
    exact (hown before x after heq hx).1 (h x (heq ▸ by simp) hx)
  · obtain ⟨before, after, heq⟩ := List.append_of_mem hx
    exact (hown before x after heq hx').2 (h before x after heq hx')

end Items

/-! ## A slug that is in use -/

/-- Two sections have the same title, and the third one is titled like the number of the second. -/
def graphs : List (ℕ × Option Str) :=
  [(0, some (ascii "graphs")), (1, some (ascii "graphs")), (2, some (ascii "graphs 2"))]

/-- The third section is not addressed by its slug, and the author is told of the others only. -/
theorem not_keepsSlugs_graphs :
    ∃ anchors, assignSectionAnchors id id Prod.snd (fun _ => ascii "graphs") 4 graphs =
        some anchors ∧
      (findAnchorProblems id id Prod.snd (fun _ => ascii "graphs") graphs).slugCollisions =
        [ascii "graphs"] ∧
      ¬KeepsSlugs id id Prod.snd (fun _ => ascii "graphs") graphs anchors := by
  refine ⟨_, rfl, by decide +kernel, fun h => ?_⟩
  have hthird := h (2, some (ascii "graphs 2")) (by simp [graphs]) ⟨by decide +kernel,
    by decide +kernel⟩
  revert hthird
  decide +kernel

end Perfana.SectionAnchors
