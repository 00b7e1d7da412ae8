import Mathlib.Algebra.GroupWithZero.Nat
import Mathlib.Data.List.Basic
import Mathlib.Data.List.DropRight
import Mathlib.Data.List.Induction

/-!
# Texts and their columns

A program counts the characters of a text in code units of UTF-16, and may cut one in
half (`substring`); a column counts characters (`varchar`). A text that is cut for a
column fits into it if it is one that can be stored at all (`varchar_substring`). What
a separator joins is told apart if it is in only one of the two (`append_sep_inj`,
`append_last_sep_inj`).
-/

namespace Perfana.Text

/-- The white space of a script, with the ends of lines. -/
def isStrWhiteSpace (c : Char) : Bool :=
  [9, 10, 11, 12, 13, 32, 0xA0, 0x1680, 0x2028, 0x2029, 0x202F, 0x205F, 0x3000, 0xFEFF].contains
    c.toNat || 0x2000 ≤ c.toNat && c.toNat ≤ 0x200A

/-- `trim()`: without the white space at the ends. -/
def trim (cs : List Char) : List Char := (cs.dropWhile isStrWhiteSpace).rdropWhile isStrWhiteSpace

/-- The code units of a character in UTF-16. -/
def units (c : Char) : ℕ := if c.toNat < 0x10000 then 1 else 2

/-- The length of a text, in code units. -/
def length (cs : List Char) : ℕ := (cs.map units).sum

/-- The characters that fit into some code units. What is left of a character that is
    cut in half is sent as the replacement character. -/
def takeUnits : List Char → ℕ → List Char
  | [], _ => []
  | c :: cs, n =>
    if units c ≤ n then c :: takeUnits cs (n - units c)
    else if n = 0 then [] else [Char.ofNat 0xFFFD]

/-- `substring(0, limit)`. -/
def substring (limit : ℕ) (s : String) : String := String.ofList (takeUnits s.toList limit)

/-- What a column of some characters stores of a text: without the blanks in excess.
    Neither a longer text nor one with the null character can be stored. -/
def varchar (limit : ℕ) (s : String) : Option String :=
  if Char.ofNat 0 ∈ s.toList then none
  else if s.toList.length ≤ limit then some s
  else if (s.toList.drop limit).all (· = ' ') then some (String.ofList (s.toList.take limit))
  else none

/-- A text without white space keeps all of it. -/
theorem trim_of_forall_not {cs : List Char} (h : ∀ c ∈ cs, ¬ isStrWhiteSpace c) : trim cs = cs := by
  have hfront : cs.dropWhile isStrWhiteSpace = cs := by
    cases cs with
    | nil => rfl
    | cons c cs => exact List.dropWhile_cons_of_neg (h c List.mem_cons_self)
  rw [trim, hfront, List.rdropWhile_eq_self_iff]
  exact fun hne => h _ (List.getLast_mem hne)

/-- White space is dropped at both ends. -/
theorem exists_trim (cs : List Char) :
    ∃ a b, cs = a ++ (trim cs ++ b) ∧ (∀ c ∈ a, isStrWhiteSpace c) ∧ ∀ c ∈ b, isStrWhiteSpace c := by
  refine ⟨cs.takeWhile isStrWhiteSpace, (cs.dropWhile isStrWhiteSpace).rtakeWhile isStrWhiteSpace,
    ?_, fun c hc => List.mem_takeWhile_imp hc, fun c hc => List.mem_rtakeWhile_imp hc⟩
  rw [trim, List.rdropWhile_append_rtakeWhile, List.takeWhile_append_dropWhile]

theorem trim_blank_append {a : List Char} (h : ∀ c ∈ a, isStrWhiteSpace c) (cs : List Char) :
    trim (a ++ cs) = trim cs := by
  rw [trim, List.dropWhile_append_of_pos h, trim]

theorem trim_append_blank {b : List Char} (h : ∀ c ∈ b, isStrWhiteSpace c) (cs : List Char) :
    trim (cs ++ b) = trim cs := by
  induction b using List.reverseRecOn with
  | nil => rw [List.append_nil]
  | append_singleton b c ih =>
    rw [← ih fun c hc => h c (List.mem_append_left _ hc), ← List.append_assoc]
    have hc : isStrWhiteSpace c := h c (List.mem_append_right _ (List.mem_singleton_self _))
    rw [trim, List.dropWhile_append]
    split_ifs with hempty
    · rw [List.isEmpty_iff] at hempty
      rw [trim, hempty, List.dropWhile_cons_of_pos hc]
      rfl
    · rw [List.rdropWhile_concat_pos _ _ _ hc, trim]

theorem trim_trim (cs : List Char) : trim (trim cs) = trim cs := by
  obtain ⟨a, b, hcs, ha, hb⟩ := exists_trim cs
  conv_rhs => rw [hcs, trim_blank_append ha, trim_append_blank hb]

theorem trim_eq_nil_iff {cs : List Char} : trim cs = [] ↔ ∀ c ∈ cs, isStrWhiteSpace c := by
  constructor
  · intro h c hc
    obtain ⟨a, b, hcs, ha, hb⟩ := exists_trim cs
    rw [hcs, h, List.nil_append] at hc
    exact (List.mem_append.1 hc).elim (ha c) (hb c)
  · intro h
    have htrim := trim_blank_append h []
    rwa [List.append_nil] at htrim

/-- A character that is no white space is kept. -/
theorem count_trim {c : Char} (hc : isStrWhiteSpace c = false) (cs : List Char) :
    (trim cs).count c = cs.count c := by
  obtain ⟨a, b, hcs, ha, hb⟩ := exists_trim cs
  have hblank : ∀ s : List Char, (∀ c ∈ s, isStrWhiteSpace c) → s.count c = 0 := fun s hs =>
    List.count_eq_zero_of_not_mem fun hmem => Bool.false_ne_true (hc.symm.trans (hs c hmem))
  conv_rhs => rw [hcs, List.count_append, List.count_append, hblank a ha, hblank b hb]
  omega

/-- What stands between two characters that are kept is kept. -/
theorem mem_trim_of_between {x y : List Char} {c : Char} (hx : trim x ≠ []) (hy : trim y ≠ []) :
    c ∈ trim (x ++ c :: y) := by
  have hfront : (x ++ c :: y).dropWhile isStrWhiteSpace =
      x.dropWhile isStrWhiteSpace ++ c :: y := by
    rw [List.dropWhile_append, if_neg]
    rw [List.isEmpty_iff]
    exact fun hnil => hx (by rw [trim, hnil]; rfl)
  have hy' : ∀ t : List Char, (∀ d ∈ t, isStrWhiteSpace d) → ¬ y ⊆ t := fun t ht hsub =>
    hy (trim_eq_nil_iff.2 fun d hd => ht d (hsub hd))
  have hback := @List.rdropWhile_append_rtakeWhile _ isStrWhiteSpace
    (x.dropWhile isStrWhiteSpace ++ c :: y)
  have hblank : ∀ d ∈ (x.dropWhile isStrWhiteSpace ++ c :: y).rtakeWhile isStrWhiteSpace,
      isStrWhiteSpace d := fun d hd => List.mem_rtakeWhile_imp hd
  rw [trim, hfront]
  rcases List.append_eq_append_iff.1 hback.symm with ⟨z, hz, hrest⟩ | ⟨z, -, hrest⟩
  · cases z with
    | nil =>
      rw [List.nil_append] at hrest
      exact absurd (hrest ▸ List.subset_cons_self c y) (hy' _ hblank)
    | cons d z =>
      rw [hz, (List.cons.inj hrest).1]
      exact List.mem_append_right _ List.mem_cons_self
  · rw [hrest] at hblank
    exact absurd (fun d hd => List.mem_append_right _ (List.mem_cons_of_mem _ hd))
      (hy' _ hblank)

theorem units_pos (c : Char) : 0 < units c := by
  rw [units]
  split <;> decide

theorem length_le_length (cs : List Char) : cs.length ≤ length cs := by
  induction cs with
  | nil => exact Nat.zero_le _
  | cons c cs ih =>
    have hpos := units_pos c
    rw [length, List.map_cons, List.sum_cons, List.length_cons]
    rw [length] at ih
    omega

theorem length_takeUnits (cs : List Char) (n : ℕ) : (takeUnits cs n).length ≤ n := by
  induction cs generalizing n with
  | nil => exact Nat.zero_le _
  | cons c cs ih =>
    have hpos := units_pos c
    rw [takeUnits]
    split
    · have hrest := ih (n - units c)
      rw [List.length_cons]
      omega
    · split
      · exact Nat.zero_le _
      · rw [List.length_singleton]
        omega

theorem null_not_mem_takeUnits {cs : List Char} (h : Char.ofNat 0 ∉ cs) (n : ℕ) :
    Char.ofNat 0 ∉ takeUnits cs n := by
  induction cs generalizing n with
  | nil => exact h
  | cons c cs ih =>
    rw [List.mem_cons, not_or] at h
    rw [takeUnits]
    split
    · rw [List.mem_cons, not_or]
      exact ⟨h.1, ih h.2 _⟩
    · split
      · exact List.not_mem_nil
      · decide

/-- A text that can be stored is not refused once it is cut. -/
theorem varchar_substring {limit : ℕ} {s : String} (h : (varchar limit s).isSome) :
    varchar limit (substring limit s) = some (substring limit s) := by
  have hnull : Char.ofNat 0 ∉ s.toList := by
    intro hmem
    rw [varchar, if_pos hmem] at h
    cases h
  rw [varchar, substring, String.toList_ofList, if_neg (null_not_mem_takeUnits hnull _),
    if_pos (length_takeUnits _ _)]

/-- A text is cut at the first occurrence of a separator in one way. -/
theorem append_sep_inj {c : Char} {a b x y : List Char} (ha : c ∉ a) (hb : c ∉ b)
    (h : a ++ c :: x = b ++ c :: y) : a = b ∧ x = y := by
  induction a generalizing b with
  | nil =>
    cases b with
    | nil => exact ⟨rfl, (List.cons.inj h).2⟩
    | cons d b => exact absurd ((List.cons.inj h).1 ▸ List.mem_cons_self) hb
  | cons d a ih =>
    cases b with
    | nil => exact absurd ((List.cons.inj h).1 ▸ List.mem_cons_self) ha
    | cons d' b =>
      obtain ⟨rfl, hrest⟩ := List.cons.inj h
      obtain ⟨rfl, rfl⟩ :=
        ih (List.not_mem_of_not_mem_cons ha) (List.not_mem_of_not_mem_cons hb) hrest
      exact ⟨rfl, rfl⟩

/-- So is one at the last. -/
theorem append_last_sep_inj {c : Char} {a b x y : List Char} (hx : c ∉ x) (hy : c ∉ y)
    (h : a ++ c :: x = b ++ c :: y) : a = b ∧ x = y := by
  have hreverse : x.reverse ++ c :: a.reverse = y.reverse ++ c :: b.reverse := by
    simpa using congrArg List.reverse h
  obtain ⟨hxy, hab⟩ := append_sep_inj (by simpa using hx) (by simpa using hy) hreverse
  exact ⟨List.reverse_injective hab, List.reverse_injective hxy⟩

end Perfana.Text
