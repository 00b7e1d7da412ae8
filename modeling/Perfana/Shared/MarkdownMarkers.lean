import Perfana.Shared.MarkdownElements

/-!
# Markers of blocks

A line is a heading or an item by its first word, and by whether there is more behind it. So
what stands behind the marker may be exchanged (`looseTag_append`), and a line whose text so far
does not begin a marker does not become one (`isMarked_append`).

* `looseTag_of_blockTag`: the first word tells what a line is;
* `exists_lines_append`: two texts that are joined share one line.
-/

namespace Perfana.Markdown

open Html

/-! ## The first word -/

/-- The first word of a line. -/
def word (line : List CodeUnit) : List CodeUnit :=
  (line.dropWhile isSpace).takeWhile (!isSpace ·)

/-- What is behind the first word. -/
def afterWord (line : List CodeUnit) : List CodeUnit :=
  (line.dropWhile isSpace).dropWhile (!isSpace ·)

/-- The word marks a heading. -/
def isHashWord (w : List CodeUnit) : Bool :=
  1 ≤ w.length && w.length ≤ 6 && w.all (· = unit '#')

def isNumberWord (w : List CodeUnit) : Bool :=
  !(w.takeWhile isDigit).isEmpty &&
    (w.dropWhile isDigit = [unit '.'] || w.dropWhile isDigit = [unit ')'])

/-- The word marks an item. -/
def isItemWord (w : List CodeUnit) : Bool := w = [unit '-'] || w = [unit '*'] || isNumberWord w

/-- The line begins with a marker. -/
def isMarked (line : List CodeUnit) : Bool :=
  isItemWord (word line) || isHashWord (word line) && !(afterWord line).isEmpty

/-- The tag of the heading or the item that a line is, if none of its whitespace ends lines. -/
def looseTag (line : List CodeUnit) : Option (List CodeUnit) :=
  if isItemWord (word line) then some (ascii "li")
  else if isHashWord (word line) && (afterWord line).any (!isSpace ·) then
    some (ascii ("h" ++ toString (word line).length))
  else none

theorem isMarked_of_looseTag {line tag : List CodeUnit} (h : looseTag line = some tag) :
    isMarked line = true := by
  rw [looseTag] at h
  rw [isMarked, Bool.or_eq_true]
  split at h
  · rename_i hitem
    exact .inl hitem
  · split at h
    · rename_i hhash
      rw [Bool.and_eq_true] at hhash
      refine .inr (Bool.and_eq_true_iff.2 ⟨hhash.1, ?_⟩)
      cases hafter : afterWord line with
      | nil =>
        rw [hafter] at hhash
        cases hhash.2
      | cons u r => rfl
    · cases h

/-! ## Blocks by the first word -/

theorem ne_of_isSpace {x u : CodeUnit} (hx : isSpace x = true) (hu : isSpace u = false) :
    x ≠ u := by
  rintro rfl
  rw [hx] at hu
  cases hu

theorem isDigit_of_isSpace {u : CodeUnit} (hu : isSpace u = true) : isDigit u = false := by
  rw [Bool.eq_false_iff]
  intro hdigit
  simp only [isDigit, isSpace, Bool.and_eq_true, Bool.or_eq_true, decide_eq_true_eq,
    List.contains_iff_mem, List.mem_cons, List.not_mem_nil, or_false] at hdigit hu
  omega

section

variable {w r : List CodeUnit} (hw : ∀ u ∈ w, isSpace u = false) (hr : r.head?.all isSpace = true)

include hw hr

omit hw in
/-- Units that are no spaces end with the word, -/
theorem takeWhile_word {p : CodeUnit → Bool} (hp : ∀ u, isSpace u = true → p u = false) :
    (w ++ r).takeWhile p = w.takeWhile p := by
  induction w with
  | nil =>
    cases r with
    | nil => rfl
    | cons x r => exact List.takeWhile_cons_of_neg (by simp [hp x (by simpa using hr)])
  | cons u w ih => rw [List.cons_append, List.takeWhile_cons, List.takeWhile_cons, ih]

omit hw in
/-- and what is behind them begins in it. -/
theorem dropWhile_word {p : CodeUnit → Bool} (hp : ∀ u, isSpace u = true → p u = false) :
    (w ++ r).dropWhile p = w.dropWhile p ++ r := by
  induction w with
  | nil =>
    cases r with
    | nil => rfl
    | cons x r => exact List.dropWhile_cons_of_neg (by simp [hp x (by simpa using hr)])
  | cons u w ih =>
    rw [List.cons_append, List.dropWhile_cons, List.dropWhile_cons, ih]
    split <;> rfl

omit hr in
/-- In a word there is no space. -/
theorem spaced_word (hne : w ≠ []) (r : List CodeUnit) : spaced (w ++ r) = none := by
  obtain ⟨u, w, rfl⟩ := List.exists_cons_of_ne_nil hne
  rw [spaced, if_neg]
  simp [hw u List.mem_cons_self]

theorem matchHeading_word : matchHeading (w ++ r) =
    if isHashWord w then ((spaced r).filter fun text => !text.isEmpty).map fun text =>
      (w.length, text) else none := by
  have hhash : ∀ u, isSpace u = true → decide (u = unit '#') = false := by
    intro u hu
    rw [decide_eq_false_iff_not]
    rintro rfl
    exact absurd hu (by decide)
  rw [matchHeading, drop_takeWhile, takeWhile_word hr hhash, dropWhile_word hr hhash]
  cases hrest : w.dropWhile fun u => decide (u = unit '#') with
  | nil =>
    have hall : ∀ u ∈ w, decide (u = unit '#') = true := List.dropWhile_eq_nil_iff.1 hrest
    have htake : (w.takeWhile fun u => decide (u = unit '#')) = w :=
      List.takeWhile_eq_self_iff.2 hall
    rw [htake, isHashWord, List.all_eq_true.2 hall, Bool.and_true]
    rfl
  | cons u rest =>
    have hsub : ∀ v ∈ u :: rest, isSpace v = false := fun v hv =>
      hw v ((List.dropWhile_suffix _).subset (hrest ▸ hv))
    have hnot : w.all (fun u => decide (u = unit '#')) = false := by
      rw [Bool.eq_false_iff]
      intro hall
      rw [List.dropWhile_eq_nil_iff.2 (List.all_eq_true.1 hall)] at hrest
      cases hrest
    rw [spaced_word hsub (List.cons_ne_nil _ _), isHashWord, hnot, Bool.and_false]
    split <;> rfl

omit hr in
theorem isSome_matchContent_word : (matchContent (w ++ r)).isSome =
    (w.isEmpty && (r.isEmpty || (spaced r).isSome)) := by
  cases w with
  | nil =>
    rw [matchContent, List.nil_append]
    cases r with
    | nil => rfl
    | cons x r => simp
  | cons u w =>
    rw [matchContent, spaced_word hw (List.cons_ne_nil _ _)]
    rfl

theorem isSome_matchBullet_word : (matchBullet (w ++ r)).isSome =
    ((w = [unit '-'] || w = [unit '*']) && (r.isEmpty || (spaced r).isSome)) := by
  cases w with
  | nil =>
    cases r with
    | nil => rfl
    | cons x r =>
      have hdash : x ≠ unit '-' := ne_of_isSpace hr (by decide)
      have hstar : x ≠ unit '*' := ne_of_isSpace hr (by decide)
      rw [List.nil_append, matchBullet, if_neg (by simp [hdash, hstar])]
      rfl
  | cons u w =>
    rw [List.cons_append, matchBullet]
    split
    · rename_i hu
      rw [isSome_matchContent_word fun v hv => hw v (List.mem_cons_of_mem _ hv)]
      cases w with
      | nil =>
        simp only [Bool.or_eq_true, decide_eq_true_eq] at hu
        simp [hu]
      | cons v w => simp
    · rename_i hu
      simp only [Bool.or_eq_true, decide_eq_true_eq, not_or] at hu
      simp [hu.1, hu.2]

theorem isSome_matchOrdered_word : (matchOrdered (w ++ r)).isSome =
    (isNumberWord w && (r.isEmpty || (spaced r).isSome)) := by
  rw [matchOrdered, drop_takeWhile, takeWhile_word hr fun _ => isDigit_of_isSpace,
    dropWhile_word hr fun _ => isDigit_of_isSpace, isNumberWord]
  have hsub : ∀ v ∈ w.dropWhile isDigit, isSpace v = false := fun v hv =>
    hw v ((List.dropWhile_suffix _).subset hv)
  cases hrest : w.dropWhile isDigit with
  | nil =>
    cases r with
    | nil => simp
    | cons x r =>
      have hdot : x ≠ unit '.' := ne_of_isSpace hr (by decide)
      have hparen : x ≠ unit ')' := ne_of_isSpace hr (by decide)
      simp [hdot, hparen]
  | cons u rest =>
    rw [hrest] at hsub
    have hcontent : (matchContent (rest ++ r)).isSome =
        (rest.isEmpty && (r.isEmpty || (spaced r).isSome)) :=
      isSome_matchContent_word fun v hv => hsub v (List.mem_cons_of_mem _ hv)
    dsimp only [List.cons_append]
    split
    · rename_i hu
      rw [hcontent]
      cases rest <;> simp_all
    · rename_i hu
      cases rest <;> simp_all

end

theorem isSpace_of_mem_word {line : List CodeUnit} : ∀ u ∈ word line, isSpace u = false :=
  fun u hu => by simpa using List.mem_takeWhile_imp hu

theorem head_afterWord (line : List CodeUnit) : (afterWord line).head?.all isSpace = true := by
  cases hafter : afterWord line with
  | nil => rfl
  | cons u r =>
    have hhead := List.head?_dropWhile_not (!isSpace ·) (line.dropWhile isSpace)
    rw [afterWord] at hafter
    rw [hafter] at hhead
    simpa using hhead

/-- A line is its first word between two parts. -/
theorem dropWhile_eq_word_append (line : List CodeUnit) :
    line.dropWhile isSpace = word line ++ afterWord line :=
  List.takeWhile_append_dropWhile.symm

theorem rdropWhile_append_of_not {w : List CodeUnit} (hw : ∀ u ∈ w, isSpace u = false)
    (r : List CodeUnit) : (w ++ r).rdropWhile isSpace = w ++ r.rdropWhile isSpace := by
  induction r using List.reverseRecOn with
  | nil =>
    rw [List.append_nil, List.rdropWhile_nil, List.append_nil, List.rdropWhile_eq_self_iff]
    exact fun hl => by simp [hw _ (List.getLast_mem hl)]
  | append_singleton r u ih =>
    rw [← List.append_assoc, List.rdropWhile_concat, List.rdropWhile_concat, ih]
    split
    · rfl
    · rw [List.append_assoc]

/-- What is left of a line is its first word, and what is behind it. -/
theorem trim_eq (line : List CodeUnit) :
    trim line = word line ++ (afterWord line).rdropWhile isSpace := by
  have htrim : trim line = (line.dropWhile isSpace).rdropWhile isSpace := rfl
  rw [htrim, dropWhile_eq_word_append, rdropWhile_append_of_not isSpace_of_mem_word]

theorem head_rdropWhile_afterWord (line : List CodeUnit) :
    ((afterWord line).rdropWhile isSpace).head?.all isSpace = true := by
  have hhead := head_afterWord line
  obtain ⟨rest, hrest⟩ := List.rdropWhile_prefix isSpace (afterWord line)
  cases hr : (afterWord line).rdropWhile isSpace with
  | nil => rfl
  | cons u r =>
    rw [hr] at hrest
    rw [← hrest] at hhead
    exact hhead

/-- What a line is, by its first word. -/
theorem blockTag_trim (line : List CodeUnit) :
    blockTag (trim line) =
      let r := (afterWord line).rdropWhile isSpace
      if isHashWord (word line) && (spaced r).any (!·.isEmpty) then
        some (ascii ("h" ++ toString (word line).length))
      else if isItemWord (word line) && (r.isEmpty || (spaced r).isSome) then some (ascii "li")
      else none := by
  have hw := @isSpace_of_mem_word line
  have hr := head_rdropWhile_afterWord line
  rw [trim_eq, blockTag, matchHeading_word hw hr, isSome_matchBullet_word hw hr,
    isSome_matchOrdered_word hw hr, ← Bool.and_or_distrib_right]
  dsimp only
  split
  · rename_i heading hheading
    split at hheading
    · rename_i hhash
      obtain ⟨text, htext, rfl⟩ := Option.map_eq_some_iff.1 hheading
      obtain ⟨hspaced, hne⟩ := Option.filter_eq_some_iff.1 htext
      rw [if_pos]
      rw [hhash, hspaced]
      exact hne
    · cases hheading
  · rename_i hheading
    have hno : ¬(isHashWord (word line) &&
        (spaced ((afterWord line).rdropWhile isSpace)).any (!·.isEmpty)) = true := by
      intro hall
      rw [Bool.and_eq_true] at hall
      rw [if_pos hall.1, Option.map_eq_none_iff, Option.filter_eq_none_iff] at hheading
      obtain ⟨text, hspaced, hne⟩ := (Option.any_eq_true _ _).1 hall.2
      exact hheading text hspaced hne
    rw [if_neg hno]
    rfl

theorem isItemWord_of_isHashWord {w : List CodeUnit} (h : isHashWord w = true) :
    isItemWord w = false := by
  simp only [isHashWord, Bool.and_eq_true, decide_eq_true_eq, List.all_eq_true] at h
  obtain ⟨⟨hpos, -⟩, hall⟩ := h
  cases w with
  | nil => cases hpos
  | cons u w =>
    obtain rfl : u = unit '#' := hall u List.mem_cons_self
    have hnumber : isNumberWord (unit '#' :: w) = false := by
      rw [isNumberWord, List.takeWhile_cons_of_neg (by decide)]
      rfl
    have hdash : unit '#' ≠ unit '-' := by decide
    have hstar : unit '#' ≠ unit '*' := by decide
    simp [isItemWord, hnumber, hdash, hstar]

theorem mem_afterWord {line : List CodeUnit} {u : CodeUnit}
    (h : u ∈ (afterWord line).rdropWhile isSpace) : u ∈ afterWord line :=
  (List.rdropWhile_prefix isSpace _).subset h

/-- The first word tells what a line is, -/
theorem looseTag_of_blockTag {line tag : List CodeUnit} (h : blockTag (trim line) = some tag) :
    looseTag line = some tag := by
  rw [blockTag_trim] at h
  dsimp only at h
  split at h
  · rename_i hhash
    rw [Bool.and_eq_true, Option.any_eq_true] at hhash
    obtain ⟨hhash, text, hspaced, hne⟩ := hhash
    have hany : (afterWord line).any (!isSpace ·) = true := by
      have hsuffix := spaced_suffix hspaced
      rw [spaced] at hspaced
      split at hspaced
      · have htext := Option.some.inj (Option.filter_eq_some_iff.1 hspaced).1
        cases text with
        | nil => cases hne
        | cons u text =>
          have hu : isSpace u = false := by
            have hhead := List.head?_dropWhile_not isSpace ((afterWord line).rdropWhile isSpace)
            rw [htext] at hhead
            simpa using hhead
          have hmem := mem_afterWord (hsuffix.subset (List.mem_cons_self (a := u) (l := text)))
          exact List.any_eq_true.2 ⟨u, hmem, by simp [hu]⟩
      · cases hspaced
    rw [looseTag, isItemWord_of_isHashWord hhash, if_neg Bool.false_ne_true, if_pos]
    · exact h
    · rw [hhash, hany]
      rfl
  · split at h
    · rename_i hitem
      rw [looseTag, if_pos (Bool.and_eq_true_iff.1 hitem).1]
      exact h
    · cases h

theorem spaced_of_not_isLineTerminator {r : List CodeUnit} (hr : r.head?.all isSpace = true)
    (hne : r ≠ []) (hno : ∀ u ∈ r, isLineTerminator u = false) :
    spaced r = some (r.dropWhile isSpace) := by
  obtain ⟨u, r, rfl⟩ := List.exists_cons_of_ne_nil hne
  have hany : ((u :: r).dropWhile isSpace).any isLineTerminator = false := by
    rw [List.any_eq_false]
    exact fun v hv => by simp [hno v ((List.dropWhile_suffix _).subset hv)]
  have hu : isSpace u = true := hr
  rw [spaced, if_pos (by simpa using hu), Option.filter_some, if_pos (by simp [hany])]

/-- and so it does not matter what else the line has, unless it has whitespace that ends lines
    elsewhere. -/
theorem blockTag_of_looseTag {line tag : List CodeUnit} (h : looseTag line = some tag)
    (hline : ∀ u ∈ line, isLineTerminator u = false) : blockTag (trim line) = some tag := by
  have hafter : ∀ u ∈ (afterWord line).rdropWhile isSpace, isLineTerminator u = false := by
    intro u hu
    refine hline u ((List.dropWhile_suffix isSpace).subset ?_)
    exact (List.dropWhile_suffix _).subset (mem_afterWord hu)
  have hspaced : (afterWord line).rdropWhile isSpace ≠ [] →
      spaced ((afterWord line).rdropWhile isSpace) =
        some (((afterWord line).rdropWhile isSpace).dropWhile isSpace) := fun hne =>
    spaced_of_not_isLineTerminator (head_rdropWhile_afterWord line) hne hafter
  rw [blockTag_trim]
  dsimp only
  rw [looseTag] at h
  split at h
  · rename_i hitem
    have hhash : isHashWord (word line) = false := by
      rw [Bool.eq_false_iff]
      intro hhash
      rw [isItemWord_of_isHashWord hhash] at hitem
      cases hitem
    rw [hhash, Bool.false_and, if_neg Bool.false_ne_true, hitem, if_pos]
    · exact h
    · by_cases hnil : (afterWord line).rdropWhile isSpace = []
      · rw [hnil]
        rfl
      · rw [hspaced hnil]
        simp
  · split at h
    · rename_i hhash
      rw [Bool.and_eq_true] at hhash
      obtain ⟨u, hu, hspace⟩ := List.any_eq_true.1 hhash.2
      have hmem : u ∈ (afterWord line).rdropWhile isSpace := by
        rw [← List.rdropWhile_append_rtakeWhile (p := isSpace) (l := afterWord line),
          List.mem_append] at hu
        refine hu.resolve_right fun hu => ?_
        rw [List.mem_rtakeWhile_imp hu] at hspace
        cases hspace
      have hne : ((afterWord line).rdropWhile isSpace).dropWhile isSpace ≠ [] := by
        intro hnil
        rw [List.dropWhile_eq_nil_iff.1 hnil u hmem] at hspace
        cases hspace
      rw [hspaced (List.ne_nil_of_mem hmem), hhash.1, if_pos]
      · exact h
      · simpa using hne
    · cases h

/-! ## Texts that are joined -/

section

variable {p : List CodeUnit}

/-- What follows a finished word does not change it, -/
theorem word_append_of_afterWord (h : afterWord p ≠ []) (q : List CodeUnit) :
    word (p ++ q) = word p ∧ afterWord (p ++ q) = afterWord p ++ q := by
  have hne : p.dropWhile isSpace ≠ [] := by
    intro hnil
    rw [afterWord, hnil] at h
    exact h rfl
  have hdrop : (p ++ q).dropWhile isSpace = p.dropWhile isSpace ++ q := by
    rw [List.dropWhile_append, if_neg (by simpa using hne)]
  have hword : word p ≠ p.dropWhile isSpace := by
    intro heq
    have hsplit := dropWhile_eq_word_append p
    rw [← heq] at hsplit
    exact h (List.append_right_eq_self.1 hsplit.symm)
  constructor
  · rw [word, hdrop, List.takeWhile_append, if_neg, word]
    intro hlength
    exact hword ((List.takeWhile_sublist _).eq_of_length hlength)
  · rw [afterWord, hdrop, List.dropWhile_append, if_neg (by simpa [afterWord] using h), afterWord]

/-- what follows an unfinished one is joined to it, -/
theorem word_append_of_word (h : word p ≠ []) (hafter : afterWord p = []) (q : List CodeUnit) :
    word (p ++ q) = word p ++ q.takeWhile (!isSpace ·) ∧
      afterWord (p ++ q) = q.dropWhile (!isSpace ·) := by
  have hsplit := dropWhile_eq_word_append p
  rw [hafter, List.append_nil] at hsplit
  have hdrop : (p ++ q).dropWhile isSpace = word p ++ q := by
    rw [List.dropWhile_append, hsplit, if_neg (by simpa using h)]
  have hall : ∀ u ∈ word p, (!isSpace u) = true := fun u hu => by
    rw [isSpace_of_mem_word u hu]
    rfl
  constructor
  · rw [word, hdrop, List.takeWhile_append_of_pos hall]
  · rw [afterWord, hdrop, List.dropWhile_append_of_pos hall]

/-- and whitespace before a line does not count. -/
theorem word_append_of_nil (h : word p = []) (q : List CodeUnit) :
    word (p ++ q) = word q ∧ afterWord (p ++ q) = afterWord q := by
  have hnil : p.dropWhile isSpace = [] := by
    cases hp : p.dropWhile isSpace with
    | nil => rfl
    | cons u r =>
      have hu := List.head?_dropWhile_not isSpace p
      rw [hp] at hu
      have hu : isSpace u = false := by simpa using hu
      rw [word, hp, List.takeWhile_cons_of_pos (by simp [hu])] at h
      cases h
  have hdrop : (p ++ q).dropWhile isSpace = q.dropWhile isSpace := by
    rw [List.dropWhile_append, hnil]
    rfl
  exact ⟨by rw [word, hdrop, word], by rw [afterWord, hdrop, afterWord]⟩

end

/-- The word may be the beginning of a marker. -/
def isMarkerStart (w : List CodeUnit) : Bool :=
  w.length ≤ 6 && w.all (· = unit '#') || w = [unit '-'] || w = [unit '*'] || w.all isDigit ||
    isNumberWord w

/-- All there is of the line so far may be the beginning of a marker. -/
def isUnfinished (line : List CodeUnit) : Bool :=
  (afterWord line).isEmpty && isMarkerStart (word line)

theorem isMarkerStart_of_isHashWord {a b : List CodeUnit} (h : isHashWord (a ++ b) = true) :
    isMarkerStart a = true := by
  simp only [isHashWord, List.length_append, Bool.and_eq_true, decide_eq_true_eq,
    List.all_eq_true, List.mem_append] at h
  have hstart : (decide (a.length ≤ 6) && a.all fun u => decide (u = unit '#')) = true := by
    simp only [Bool.and_eq_true, decide_eq_true_eq, List.all_eq_true]
    exact ⟨by omega, fun u hu => h.2 u (.inl hu)⟩
  rw [isMarkerStart, hstart]
  rfl

theorem isMarkerStart_of_isItemWord {a b : List CodeUnit} (h : isItemWord (a ++ b) = true) :
    isMarkerStart a = true := by
  cases b with
  | nil =>
    rw [List.append_nil] at h
    simp only [isItemWord, Bool.or_eq_true] at h
    rcases h with (h | h) | h <;> simp [isMarkerStart, h]
  | cons v b =>
    cases a with
    | nil => rfl
    | cons u a =>
      have hdash : ∀ x : CodeUnit, (decide (u :: a ++ v :: b = [x])) = false := by simp
      rw [isItemWord, hdash, hdash, Bool.false_or, Bool.false_or] at h
      -- All but the last unit of the word are digits.
      have hall : (u :: a).all isDigit = true := by
        by_contra hnot
        have hne : (u :: a).dropWhile isDigit ≠ [] := fun hnil =>
          hnot (List.all_eq_true.2 (List.dropWhile_eq_nil_iff.1 hnil))
        obtain ⟨x, r, hr⟩ := List.exists_cons_of_ne_nil hne
        have hdrop : (u :: a ++ v :: b).dropWhile isDigit = x :: (r ++ v :: b) := by
          rw [List.dropWhile_append, if_neg (by simpa using hne), hr]
          rfl
        rw [isNumberWord, hdrop] at h
        simp at h
      simp [isMarkerStart, hall]

/-- The code unit may be in a marker. -/
def isMarkerUnit (u : CodeUnit) : Bool :=
  u = unit '#' || u = unit '-' || u = unit '*' || isDigit u || u = unit '.' || u = unit ')'

theorem isMarkerUnit_of_isHashWord {w : List CodeUnit} (h : isHashWord w = true) :
    ∀ u ∈ w, isMarkerUnit u = true := by
  rw [isHashWord, Bool.and_eq_true, List.all_eq_true] at h
  intro u hu
  rw [isMarkerUnit, h.2 u hu]
  rfl

theorem isMarkerUnit_of_isItemWord {w : List CodeUnit} (h : isItemWord w = true) :
    ∀ u ∈ w, isMarkerUnit u = true := by
  simp only [isItemWord, isNumberWord, Bool.or_eq_true, Bool.and_eq_true, decide_eq_true_eq] at h
  rcases h with (rfl | rfl) | ⟨-, h⟩
  · exact List.forall_mem_singleton.2 rfl
  · exact List.forall_mem_singleton.2 rfl
  · rw [← List.takeWhile_append_dropWhile (p := isDigit) (l := w)]
    refine List.forall_mem_append.2 ⟨fun u hu => ?_, ?_⟩
    · simp [isMarkerUnit, List.mem_takeWhile_imp hu]
    · rcases h with h | h
      · rw [h]
        exact List.forall_mem_singleton.2 rfl
      · rw [h]
        exact List.forall_mem_singleton.2 rfl

theorem isMarkerUnit_of_isMarked {line : List CodeUnit} (h : isMarked line = true) :
    ∀ u ∈ word line, isMarkerUnit u = true := by
  rw [isMarked, Bool.or_eq_true, Bool.and_eq_true] at h
  rcases h with h | ⟨h, -⟩
  · exact isMarkerUnit_of_isItemWord h
  · exact isMarkerUnit_of_isHashWord h

/-- If a line begins with a marker that may not be unfinished, all of the marker is there. -/
theorem afterWord_ne_nil {p q : List CodeUnit} (h : isMarked (p ++ q) = true)
    (hp : isUnfinished p = false) : afterWord p ≠ [] := by
  intro hafter
  rw [isUnfinished, hafter, List.isEmpty_nil, Bool.true_and] at hp
  have hword : word p ≠ [] := by
    intro hnil
    rw [hnil] at hp
    cases hp
  rw [isMarked, (word_append_of_word hword hafter q).1, Bool.or_eq_true, Bool.and_eq_true] at h
  rcases h with h | ⟨h, -⟩
  · rw [isMarkerStart_of_isItemWord h] at hp
    cases hp
  · rw [isMarkerStart_of_isHashWord h] at hp
    cases hp

/-- Then it does not matter what is behind the marker, -/
theorem isMarked_append {p q : List CodeUnit} (h : isMarked (p ++ q) = true)
    (hp : isUnfinished p = false) (q' : List CodeUnit) : isMarked (p ++ q') = true := by
  have hafter := afterWord_ne_nil h hp
  have hne : ∀ q, (!(afterWord p ++ q).isEmpty) = true := by
    intro q
    simp [hafter]
  obtain ⟨hword, hrest⟩ := word_append_of_afterWord hafter q
  obtain ⟨hword', hrest'⟩ := word_append_of_afterWord hafter q'
  rw [isMarked, hword, hrest, hne] at h
  rw [isMarked, hword', hrest', hne]
  exact h

/-- as long as there is something. -/
theorem looseTag_append {p q tag : List CodeUnit} (h : looseTag (p ++ q) = some tag)
    (hp : isUnfinished p = false) {q' : List CodeUnit} (hq' : q'.any (!isSpace ·) = true) :
    looseTag (p ++ q') = some tag := by
  have hafter := afterWord_ne_nil (isMarked_of_looseTag h) hp
  obtain ⟨hword, hrest⟩ := word_append_of_afterWord hafter q
  obtain ⟨hword', hrest'⟩ := word_append_of_afterWord hafter q'
  rw [looseTag, hword] at h
  rw [looseTag, hword', hrest', List.any_append, hq', Bool.or_true, Bool.and_true]
  split at h
  · rename_i hitem
    rw [if_pos hitem]
    exact h
  · rename_i hitem
    split at h
    · rename_i hhash
      rw [if_neg hitem, if_pos (Bool.and_eq_true_iff.1 hhash).1]
      exact h
    · cases h

/-! ## Lines of texts that are joined -/

/-- What is before the first end of a line, -/
def firstLine (s : List CodeUnit) : List CodeUnit := s.takeWhile (!isLineEnd ·)

/-- and what is behind the last one. -/
def lastLine (s : List CodeUnit) : List CodeUnit := s.rtakeWhile (!isLineEnd ·)

theorem lines_append_cons {u : CodeUnit} (hu : isLineEnd u = true) (s t : List CodeUnit) :
    lines (s ++ u :: t) = lines s ++ lines t :=
  List.splitOnP_append_cons s t hu

theorem exists_lines_eq (s : List CodeUnit) : ∃ rest, lines s = firstLine s :: rest := by
  induction s with
  | nil => exact ⟨[], rfl⟩
  | cons u s ih =>
    obtain ⟨rest, hrest⟩ := ih
    cases hu : isLineEnd u with
    | true =>
      rw [lines_cons_of_pos hu, firstLine, List.takeWhile_cons_of_neg (by simp [hu])]
      exact ⟨_, rfl⟩
    | false =>
      have hcons : firstLine (u :: s) = u :: firstLine s :=
        List.takeWhile_cons_of_pos (by simp [hu])
      rw [lines_cons_of_neg hu, hrest, hcons]
      exact ⟨rest, rfl⟩

/-- In a line, a text only comes before the next one's first line. -/
theorem lines_append_of_forall {s : List CodeUnit} (h : ∀ u ∈ s, isLineEnd u = false)
    (t : List CodeUnit) : lines (s ++ t) = (lines t).modifyHead (s ++ ·) := by
  induction s with
  | nil =>
    obtain ⟨rest, hrest⟩ := exists_lines_eq t
    rw [List.nil_append, hrest]
    rfl
  | cons u s ih =>
    rw [List.cons_append, lines_cons_of_neg (h u List.mem_cons_self),
      ih fun v hv => h v (List.mem_cons_of_mem _ hv), List.modifyHead_modifyHead]
    rfl

theorem firstLine_append_of_forall {s : List CodeUnit} (h : ∀ u ∈ s, isLineEnd u = false)
    (t : List CodeUnit) : firstLine (s ++ t) = s ++ firstLine t :=
  List.takeWhile_append_of_pos fun u hu => by simp [h u hu]

theorem lastLine_append_of_forall {t : List CodeUnit} (h : ∀ u ∈ t, isLineEnd u = false)
    (s : List CodeUnit) : lastLine (s ++ t) = lastLine s ++ t := by
  induction t using List.reverseRecOn with
  | nil => simp
  | append_singleton t u ih =>
    have hu := h u (List.mem_append_right t (List.mem_singleton_self u))
    rw [← List.append_assoc, lastLine, List.rtakeWhile_concat_pos _ _ _ (by simp [hu]), ← lastLine,
      ih fun v hv => h v (List.mem_append_left _ hv), List.append_assoc]

theorem isLineEnd_of_mem_lastLine {s : List CodeUnit} : ∀ u ∈ lastLine s, isLineEnd u = false :=
  fun u hu => by simpa using List.mem_rtakeWhile_imp hu

theorem lastLine_append_cons_of_forall {t : List CodeUnit} {u : CodeUnit}
    (hu : isLineEnd u = true) (h : ∀ v ∈ t, isLineEnd v = false) (s : List CodeUnit) :
    lastLine (s ++ u :: t) = t := by
  have hnil : lastLine (s ++ [u]) = [] := List.rtakeWhile_concat_neg _ _ _ (by simp [hu])
  rw [← List.singleton_append (l := t), ← List.append_assoc, lastLine_append_of_forall h, hnil,
    List.nil_append]

/-- A text is one line, or its last line is behind an end of one. -/
theorem lastLine_cases (s : List CodeUnit) :
    (∀ u ∈ s, isLineEnd u = false) ∨
      ∃ t u, isLineEnd u = true ∧ s = t ++ u :: lastLine s := by
  induction s using List.reverseRecOn with
  | nil => exact .inl (List.forall_mem_nil _)
  | append_singleton s u ih =>
    cases hu : isLineEnd u with
    | true =>
      refine .inr ⟨s, u, hu, ?_⟩
      rw [lastLine, List.rtakeWhile_concat_neg _ _ _ (by simp [hu])]
    | false =>
      rcases ih with h | ⟨t, v, hv, heq⟩
      · exact .inl (List.forall_mem_append.2 ⟨h, List.forall_mem_singleton.2 hu⟩)
      · refine .inr ⟨t, v, hv, ?_⟩
        rw [lastLine, List.rtakeWhile_concat_pos _ _ _ (by simp [hu]), ← lastLine,
          ← List.cons_append, ← List.append_assoc, ← heq]

/-- Two texts that are joined share one line: the last one of the first text goes on. -/
theorem exists_lines_append (s : List CodeUnit) :
    ∃ init, ∀ t, lines (s ++ t) = init ++ (lines t).modifyHead (lastLine s ++ ·) := by
  rcases lastLine_cases s with h | ⟨r, u, hu, heq⟩
  · have hlast : lastLine s = s := List.rtakeWhile_eq_self_iff.2 fun u hu => by simp [h u hu]
    exact ⟨[], fun t => by rw [hlast, List.nil_append, lines_append_of_forall h]⟩
  · refine ⟨lines r, fun t => ?_⟩
    rw [← lines_append_of_forall isLineEnd_of_mem_lastLine, ← lines_append_cons hu,
      ← List.cons_append, ← List.append_assoc, ← heq]

end Perfana.Markdown
