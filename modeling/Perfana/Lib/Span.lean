import Mathlib.Data.Int.Interval
import Mathlib.Order.Interval.Finset.Basic
import Mathlib.Algebra.Order.BigOperators.Group.List
import Mathlib.Tactic.Order
import Mathlib.Tactic.Linarith

/-!
# Spans of a linear order

A *span* is a half-open interval `[lo, hi)`, given by its bounds. A list of
spans stands for the union of its members (`Covered`). Coalescing a list of
spans joins each span to the block in progress when it starts no later than the
block *reaches*: the function `reach` says how far past its upper bound a block
still joins what follows (the identity for spans that touch, `· + tol` for a
tolerance).

* `coalesce_separated`: the blocks lie apart, each beyond the reach of those
  before it, whatever the order of the spans;
* `covered_coalesce`: coalescing spans sorted by their lower bounds covers the
  union of the spans and what it bridges (`Bridged`), and nothing else;
* `card_covered`: the blocks being disjoint, the lengths of the blocks add up
  to the number of points they cover;
* `total_coalesce_append`: coalescing one more span never shrinks the total.
-/

namespace Perfana

/-- The half-open interval `[lo, hi)`. -/
structure Span (α : Type*) where
  /-- The lower bound, included. -/
  lo : α
  /-- The upper bound, excluded. -/
  hi : α
  deriving DecidableEq, Repr

namespace Span

section Order

variable {α : Type*} [LinearOrder α]

/-- The points of a span. -/
def Contains (r : Span α) (t : α) : Prop := r.lo ≤ t ∧ t < r.hi

instance (r : Span α) (t : α) : Decidable (r.Contains t) :=
  inferInstanceAs (Decidable (_ ∧ _))

/-- The bounds are in order (the span may be empty). -/
def Ordered (r : Span α) : Prop := r.lo ≤ r.hi

instance (r : Span α) : Decidable r.Ordered := inferInstanceAs (Decidable (_ ≤ _))

/-- A point of the union of the spans of a list. -/
def Covered (l : List (Span α)) (t : α) : Prop := ∃ r ∈ l, r.Contains t

instance (l : List (Span α)) (t : α) : Decidable (Covered l t) :=
  inferInstanceAs (Decidable (∃ r ∈ l, _))

@[simp] theorem covered_nil (t : α) : ¬Covered [] t := by simp [Covered]

@[simp] theorem covered_cons (r : Span α) (l : List (Span α)) (t : α) :
    Covered (r :: l) t ↔ r.Contains t ∨ Covered l t := by simp [Covered]

@[simp] theorem covered_append (l l' : List (Span α)) (t : α) :
    Covered (l ++ l') t ↔ Covered l t ∨ Covered l' t := by
  simp [Covered, or_and_right, exists_or]

/-- The span `r` contains every point of `r'`, by its bounds. -/
def Includes (r r' : Span α) : Prop := r.lo ≤ r'.lo ∧ r'.hi ≤ r.hi

instance (r r' : Span α) : Decidable (r.Includes r') := inferInstanceAs (Decidable (_ ∧ _))

/-- The lower bounds of the spans of a list never go down. -/
def Sorted (l : List (Span α)) : Prop := l.Pairwise fun a b => a.lo ≤ b.lo

instance (l : List (Span α)) : Decidable (Sorted l) :=
  inferInstanceAs (Decidable (List.Pairwise _ _))

variable (reach : α → α)

/-- A point that coalescing bridges: it lies between two spans, the later of
    which starts within the reach of the earlier. -/
def Bridged (l : List (Span α)) (t : α) : Prop :=
  ∃ a ∈ l, ∃ b ∈ l, a.hi ≤ t ∧ t < b.lo ∧ b.lo ≤ reach a.hi

instance (l : List (Span α)) (t : α) : Decidable (Bridged reach l t) :=
  inferInstanceAs (Decidable (∃ a ∈ l, _))

/-- Coalesces the spans of a list into the block in progress, which they join
    as long as they start within its reach. -/
def coalesceInto : Span α → List (Span α) → List (Span α)
  | cur, [] => [cur]
  | cur, r :: l =>
    if r.lo ≤ reach cur.hi then coalesceInto ⟨cur.lo, max cur.hi r.hi⟩ l
    else cur :: coalesceInto r l

/-- Coalesces the spans of a list, the first one starting the first block. -/
def coalesce : List (Span α) → List (Span α)
  | [] => []
  | r :: l => coalesceInto reach r l

/-- One block lies beyond the reach of another. -/
def Apart (a b : Span α) : Prop := reach a.hi < b.lo

theorem coalesceInto_ne_nil (cur : Span α) (l : List (Span α)) :
    coalesceInto reach cur l ≠ [] := by
  induction l generalizing cur with
  | nil => simp [coalesceInto]
  | cons r l ih =>
    rw [coalesceInto]
    split
    · exact ih _
    · simp

theorem coalesceInto_ordered {cur : Span α} {l : List (Span α)} (hcur : cur.Ordered)
    (hl : ∀ r ∈ l, r.Ordered) : ∀ b ∈ coalesceInto reach cur l, b.Ordered := by
  induction l generalizing cur with
  | nil => simpa [coalesceInto] using hcur
  | cons r l ih =>
    rw [List.forall_mem_cons] at hl
    rw [coalesceInto]
    split
    · exact ih (le_max_of_le_left hcur) hl.2
    · rw [List.forall_mem_cons]
      exact ⟨hcur, ih hl.1 hl.2⟩

theorem coalesce_ordered {l : List (Span α)} (hl : ∀ r ∈ l, r.Ordered) :
    ∀ b ∈ coalesce reach l, b.Ordered := by
  cases l with
  | nil => simp [coalesce]
  | cons r l => exact coalesceInto_ordered reach (hl r (by simp)) fun b hb => hl b (by simp [hb])

/-- Blocks stay inside a window that holds every span. -/
theorem coalesceInto_within {start stop : α} {cur : Span α} {l : List (Span α)}
    (hin : ∀ r ∈ cur :: l, start ≤ r.lo ∧ r.hi ≤ stop) :
    ∀ b ∈ coalesceInto reach cur l, start ≤ b.lo ∧ b.hi ≤ stop := by
  induction l generalizing cur with
  | nil => simpa [coalesceInto] using hin
  | cons r l ih =>
    simp only [List.forall_mem_cons] at hin
    obtain ⟨hcur, hr, hl⟩ := hin
    rw [coalesceInto]
    split
    · refine ih ?_
      rw [List.forall_mem_cons]
      exact ⟨⟨hcur.1, max_le hcur.2 hr.2⟩, hl⟩
    · rw [List.forall_mem_cons]
      refine ⟨hcur, ih ?_⟩
      rw [List.forall_mem_cons]
      exact ⟨hr, hl⟩

theorem coalesce_within {start stop : α} {l : List (Span α)}
    (hin : ∀ r ∈ l, start ≤ r.lo ∧ r.hi ≤ stop) :
    ∀ b ∈ coalesce reach l, start ≤ b.lo ∧ b.hi ≤ stop := by
  cases l with
  | nil => simp [coalesce]
  | cons r l => exact coalesceInto_within reach hin

variable {reach}

/-- The blocks made by coalescing lie beyond one another's reach: a block only
    ends when the next span starts past its reach, in whatever order they come. -/
theorem coalesceInto_separated (hreach : ∀ x, x ≤ reach x)
    {cur : Span α} {l : List (Span α)} (hcur : cur.Ordered) (hl : ∀ r ∈ l, r.Ordered) :
    (coalesceInto reach cur l).Pairwise (Apart reach) ∧
      ∀ b ∈ coalesceInto reach cur l, cur.lo ≤ b.lo := by
  induction l generalizing cur with
  | nil => simp [coalesceInto]
  | cons r l ih =>
    rw [List.forall_mem_cons] at hl
    rw [coalesceInto]
    split
    · exact ih (le_max_of_le_left hcur) hl.2
    · rename_i hgap
      obtain ⟨hpair, hlo⟩ := ih hl.1 hl.2
      have hnext : reach cur.hi < r.lo := not_le.1 hgap
      have hup : cur.lo ≤ r.lo := (hcur.trans (hreach _)).trans hnext.le
      refine ⟨List.pairwise_cons.2 ⟨fun b hb => hnext.trans_le (hlo b hb), hpair⟩, ?_⟩
      rw [List.forall_mem_cons]
      exact ⟨le_rfl, fun b hb => hup.trans (hlo b hb)⟩

/-- The blocks made by coalescing lie beyond one another's reach. -/
theorem coalesce_separated (hreach : ∀ x, x ≤ reach x)
    {l : List (Span α)} (hl : ∀ r ∈ l, r.Ordered) :
    (coalesce reach l).Pairwise (Apart reach) := by
  cases l with
  | nil => simp [coalesce]
  | cons r l =>
    exact (coalesceInto_separated hreach (hl r (by simp)) fun b hb => hl b (by simp [hb])).1

theorem Apart.le (hreach : ∀ x, x ≤ reach x) {a b : Span α} (h : Apart reach a b) :
    a.hi ≤ b.lo := (hreach _).trans (le_of_lt h)

/-- Joining a span to the block in progress that it starts in or within the
    reach of: the points covered or bridged stay the same. -/
theorem covered_or_bridged_join (hmono : Monotone reach) {cur r : Span α} {l : List (Span α)}
    (hord : ∀ b ∈ cur :: r :: l, b.Ordered) (hsort : Sorted (cur :: r :: l))
    (hjoin : r.lo ≤ reach cur.hi) (t : α) :
    Covered (⟨cur.lo, max cur.hi r.hi⟩ :: l) t ∨
        Bridged reach (⟨cur.lo, max cur.hi r.hi⟩ :: l) t ↔
      Covered (cur :: r :: l) t ∨ Bridged reach (cur :: r :: l) t := by
  simp only [Sorted, List.pairwise_cons, List.forall_mem_cons] at hord hsort
  obtain ⟨hcur, hr, hl⟩ := hord
  obtain ⟨⟨hcr, hcl⟩, hrl, -⟩ := hsort
  -- A span of the rest starts after `cur` and `r`: it never bridges to them.
  have hafter : ∀ a ∈ l, cur.lo ≤ a.hi ∧ r.lo ≤ a.hi := fun a ha =>
    ⟨(hcl a ha).trans (hl a ha), (hrl a ha).trans (hl a ha)⟩
  simp only [Ordered] at hcur hr
  constructor
  · rintro (hcov | ⟨a, ha, b, hb, h₁, h₂, h₃⟩)
    · rcases (covered_cons _ _ _).1 hcov with ⟨h₁, h₂⟩ | hcov
      · -- In the joined block: in `cur`, in `r`, or between the two.
        by_cases h : t < cur.hi
        · exact .inl (by simp [Contains, show cur.lo ≤ t from h₁, h])
        · have hthi : t < r.hi := (lt_max_iff.1 h₂).resolve_left h
          by_cases h' : r.lo ≤ t
          · exact .inl (by simp [Contains, h', hthi])
          · exact .inr ⟨cur, by simp, r, by simp, not_lt.1 h, not_le.1 h', hjoin⟩
      · exact .inl (by simp [hcov])
    · rcases List.mem_cons.1 hb with rfl | hb
      · rcases List.mem_cons.1 ha with rfl | ha
        · exact absurd h₂ (not_lt.2 (hcur.trans ((le_max_left _ _).trans h₁)))
        · exact absurd h₂ (not_lt.2 ((hafter a ha).1.trans h₁))
      · rcases List.mem_cons.1 ha with rfl | ha
        · -- The block ends where one of its two parts does.
          rcases max_choice cur.hi r.hi with h | h
          · simp only [h] at h₁ h₃
            exact .inr ⟨cur, by simp, b, by simp [hb], h₁, h₂, h₃⟩
          · simp only [h] at h₁ h₃
            exact .inr ⟨r, by simp, b, by simp [hb], h₁, h₂, h₃⟩
        · exact .inr ⟨a, by simp [ha], b, by simp [hb], h₁, h₂, h₃⟩
  · -- Either the joined block holds the point, or it ends before it and bridges.
    have hblock : cur.lo ≤ t → (t < cur.hi ∨ t < r.hi) →
        Covered (⟨cur.lo, max cur.hi r.hi⟩ :: l) t := fun h₁ h₂ => by
      simp [Contains, h₁, h₂]
    have hbridge : ∀ x, cur.lo ≤ t → (x = cur.hi ∨ x = r.hi) → ∀ b ∈ l, t < b.lo →
        b.lo ≤ reach x → Covered (⟨cur.lo, max cur.hi r.hi⟩ :: l) t ∨
          Bridged reach (⟨cur.lo, max cur.hi r.hi⟩ :: l) t := by
      intro x h₁ hx b hb h₂ h₃
      by_cases h : t < max cur.hi r.hi
      · exact .inl (hblock h₁ (lt_max_iff.1 h))
      · refine .inr ⟨⟨cur.lo, max cur.hi r.hi⟩, by simp, b, by simp [hb], not_lt.1 h, h₂, ?_⟩
        refine h₃.trans (hmono ?_)
        rcases hx with rfl | rfl
        · exact le_max_left _ _
        · exact le_max_right _ _
    rintro (hcov | ⟨a, ha, b, hb, h₁, h₂, h₃⟩)
    · simp only [covered_cons] at hcov
      rcases hcov with h | h | h
      · exact .inl (hblock h.1 (.inl h.2))
      · exact .inl (hblock (hcr.trans h.1) (.inr h.2))
      · exact .inl (by simp [h])
    · have hlo : cur.lo ≤ a.hi := by
        rcases List.mem_cons.1 ha with rfl | ha
        · exact hcur
        rcases List.mem_cons.1 ha with rfl | ha
        · exact hcr.trans hr
        · exact (hafter a ha).1
      have hcur_t : cur.lo ≤ t := hlo.trans h₁
      rcases List.mem_cons.1 hb with rfl | hb'
      · exact absurd h₂ (not_lt.2 hcur_t)
      rcases List.mem_cons.1 hb' with rfl | hb''
      · exact .inl (hblock hcur_t (.inr (h₂.trans_le hr)))
      rcases List.mem_cons.1 ha with rfl | ha'
      · exact hbridge _ hcur_t (.inl rfl) b hb'' h₂ h₃
      rcases List.mem_cons.1 ha' with rfl | ha''
      · exact hbridge _ hcur_t (.inr rfl) b hb'' h₂ h₃
      · exact .inr ⟨a, by simp [ha''], b, by simp [hb''], h₁, h₂, h₃⟩

/-- A block followed by a gap wider than its reach bridges to nothing. -/
theorem bridged_cons_of_apart {cur r : Span α} {l : List (Span α)}
    (hord : ∀ b ∈ cur :: r :: l, b.Ordered) (hsort : Sorted (cur :: r :: l))
    (hgap : reach cur.hi < r.lo) (t : α) :
    Bridged reach (cur :: r :: l) t ↔ Bridged reach (r :: l) t := by
  simp only [Sorted, List.pairwise_cons] at hsort
  obtain ⟨hcur, hr, -⟩ := hsort
  refine ⟨?_, fun ⟨a, ha, b, hb, h⟩ => ⟨a, by simp [ha], b, by simp [hb], h⟩⟩
  rintro ⟨a, ha, b, hb, h₁, h₂, h₃⟩
  have hlo : cur.lo ≤ a.hi := by
    rcases List.mem_cons.1 ha with rfl | ha'
    · exact hord a ha
    · exact (hcur a ha').trans (hord a ha)
  rcases List.mem_cons.1 hb with rfl | hrest
  · exact absurd h₂ (not_lt.2 (hlo.trans h₁))
  rcases List.mem_cons.1 ha with rfl | ha'
  · have hle : r.lo ≤ b.lo := by
      rcases List.mem_cons.1 hrest with rfl | hb'
      · exact le_rfl
      · exact hr b hb'
    exact absurd h₃ (not_le.2 (hgap.trans_le hle))
  · exact ⟨a, ha', b, hrest, h₁, h₂, h₃⟩

theorem covered_coalesceInto (hmono : Monotone reach) {cur : Span α} {l : List (Span α)}
    (hord : ∀ b ∈ cur :: l, b.Ordered) (hsort : Sorted (cur :: l)) (t : α) :
    Covered (coalesceInto reach cur l) t ↔
      Covered (cur :: l) t ∨ Bridged reach (cur :: l) t := by
  induction l generalizing cur with
  | nil =>
    have hnone : ¬Bridged reach [cur] t := by
      rintro ⟨a, ha, b, hb, h₁, h₂, -⟩
      obtain rfl := List.mem_singleton.1 ha
      obtain rfl := List.mem_singleton.1 hb
      exact absurd h₂ (not_lt.2 ((hord _ (by simp)).trans h₁))
    simp [coalesceInto, hnone]
  | cons r l ih =>
    have hord' := hord
    have hsort' := hsort
    simp only [Sorted, List.pairwise_cons, List.forall_mem_cons] at hord' hsort'
    rw [coalesceInto]
    split
    · rename_i hjoin
      rw [← covered_or_bridged_join hmono hord hsort hjoin]
      refine ih ?_ ?_
      · rw [List.forall_mem_cons]
        exact ⟨le_max_of_le_left hord'.1, hord'.2.2⟩
      · exact List.pairwise_cons.2 ⟨hsort'.1.2, hsort'.2.2⟩
    · rename_i hgap
      rw [covered_cons, bridged_cons_of_apart hord hsort (not_le.1 hgap), covered_cons cur,
        ih (fun b hb => hord b (by simp [hb])) (List.pairwise_cons.2 hsort'.2), or_assoc]

/-- Coalescing spans sorted by their lower bounds covers the union of the spans
    and the points it bridges. -/
theorem covered_coalesce (hmono : Monotone reach) {l : List (Span α)}
    (hord : ∀ b ∈ l, b.Ordered) (hsort : Sorted l) (t : α) :
    Covered (coalesce reach l) t ↔ Covered l t ∨ Bridged reach l t := by
  cases l with
  | nil => simp [coalesce, Bridged]
  | cons r l => exact covered_coalesceInto hmono hord hsort t

/-! ## Gaps -/

/-- What a list of disjoint blocks in order leaves of `[start, stop)`: up to the
    first block, between one and the next, and past the last, where `cursor` is
    the end of what has been passed. -/
def gaps (start stop : α) : α → List (Span α) → List (Span α)
  | cursor, [] => [⟨cursor, stop⟩]
  | cursor, b :: bs => ⟨cursor, min b.lo stop⟩ :: gaps start stop (max b.hi start) bs

/-- Blocks in order, none of which starts before `cursor` once clipped at `start`. -/
structure Ahead (start cursor : α) (bs : List (Span α)) : Prop where
  ordered : ∀ b ∈ bs, b.Ordered
  inOrder : bs.Pairwise fun a b => a.hi ≤ b.lo
  le_cursor : start ≤ cursor
  cursor_le : ∀ b ∈ bs, cursor ≤ max b.lo start

theorem Ahead.tail {start cursor : α} {b : Span α} {bs : List (Span α)}
    (h : Ahead start cursor (b :: bs)) : Ahead start (max b.hi start) bs where
  ordered c hc := h.ordered c (by simp [hc])
  inOrder := (List.pairwise_cons.1 h.inOrder).2
  le_cursor := le_max_right _ _
  cursor_le c hc := max_le_max ((List.pairwise_cons.1 h.inOrder).1 c hc) le_rfl

theorem Ahead.cursor_le_tail {start cursor : α} {b : Span α} {bs : List (Span α)}
    (h : Ahead start cursor (b :: bs)) : cursor ≤ max b.hi start :=
  (h.cursor_le b (by simp)).trans (max_le_max (h.ordered b (by simp)) le_rfl)

/-- The gaps are the points of the window that no block covers. -/
theorem covered_gaps {start cursor : α} (stop : α) {bs : List (Span α)}
    (h : Ahead start cursor bs) (t : α) : Covered (gaps start stop cursor bs) t ↔ cursor ≤ t ∧ t < stop ∧ ¬Covered bs t := by
  induction bs generalizing cursor with
  | nil => simp [gaps, Contains]
  | cons b bs ih =>
    have hlater : ∀ c ∈ bs, b.hi ≤ c.lo := (List.pairwise_cons.1 h.inOrder).1
    have hb : b.lo ≤ b.hi := h.ordered b (by simp)
    rw [gaps, covered_cons, ih h.tail, covered_cons]
    constructor
    · rintro (⟨h₁, h₂⟩ | ⟨h₁, h₂, h₃⟩)
      · -- Before `b`, hence before the blocks after it.
        obtain ⟨h₂, h₄⟩ := lt_min_iff.1 h₂
        refine ⟨h₁, h₄, ?_⟩
        rintro (hc | ⟨c, hc, hct⟩)
        · exact absurd h₂ (not_lt.2 hc.1)
        · exact absurd h₂ (not_lt.2 ((hb.trans (hlater c hc)).trans hct.1))
      · refine ⟨h.cursor_le_tail.trans h₁, h₂, ?_⟩
        rintro (hc | hc)
        · exact absurd hc.2 (not_lt.2 ((le_max_left _ _).trans h₁))
        · exact h₃ hc
    · rintro ⟨h₁, h₂, h₃⟩
      rw [not_or] at h₃
      by_cases hlo : t < b.lo
      · exact .inl ⟨h₁, lt_min hlo h₂⟩
      · have hhi : b.hi ≤ t := not_lt.1 fun hlt => h₃.1 ⟨not_lt.1 hlo, hlt⟩
        exact .inr ⟨max_le hhi (h.le_cursor.trans h₁), h₂, h₃.2⟩

/-- The gaps are in order, and start at the cursor or after it. -/
theorem gaps_inOrder {start cursor : α} (stop : α) {bs : List (Span α)}
    (h : Ahead start cursor bs) :
    (gaps start stop cursor bs).Pairwise (fun a b => a.hi ≤ b.lo) ∧
      ∀ g ∈ gaps start stop cursor bs, cursor ≤ g.lo := by
  induction bs generalizing cursor with
  | nil => simp [gaps]
  | cons b bs ih =>
    obtain ⟨hpair, hlo⟩ := ih h.tail
    have hb : b.lo ≤ b.hi := h.ordered b (by simp)
    rw [gaps, List.pairwise_cons, List.forall_mem_cons]
    refine ⟨⟨fun g hg => ?_, hpair⟩, le_rfl, fun g hg => h.cursor_le_tail.trans (hlo g hg)⟩
    calc min b.lo stop ≤ b.hi := (min_le_left _ _).trans hb
      _ ≤ max b.hi start := le_max_left _ _
      _ ≤ g.lo := hlo g hg

theorem gaps_hi_le {start stop cursor : α} {bs : List (Span α)} :
    ∀ g ∈ gaps start stop cursor bs, g.hi ≤ stop := by
  induction bs generalizing cursor with
  | nil => simp [gaps]
  | cons b bs ih =>
    rw [gaps, List.forall_mem_cons]
    exact ⟨min_le_right _ _, ih⟩

/-- Two spans without a common point. -/
def NoOverlap (a b : Span α) : Prop := ∀ t, ¬(a.Contains t ∧ b.Contains t)

theorem NoOverlap.symm {a b : Span α} (h : a.NoOverlap b) : b.NoOverlap a :=
  fun t ht => h t ht.symm

/-- Two spans in order do not overlap. -/
theorem noOverlap_of_inOrder {a b : Span α} (h : a.hi ≤ b.lo) : a.NoOverlap b :=
  fun _ ⟨ha, hb⟩ => absurd ha.2 (not_lt.2 (h.trans hb.1))

end Order

/-! ## Lengths of spans of integers -/

section Length

/-- The length of a span of integers. -/
def length (r : Span ℤ) : ℤ := r.hi - r.lo

/-- The lengths of the spans of a list, added up. -/
def total (l : List (Span ℤ)) : ℤ := (l.map length).sum

@[simp] theorem total_nil : total [] = 0 := rfl

@[simp] theorem total_cons (r : Span ℤ) (l : List (Span ℤ)) :
    total (r :: l) = r.length + total l := by simp [total]

theorem length_nonneg {r : Span ℤ} (h : r.Ordered) : 0 ≤ r.length := sub_nonneg.2 h

-- The order of the integers by which the points of a window can be enumerated.
local instance intervalOrder : Preorder ℤ := Int.instLinearOrder.toPreorder

/-- The points of the window `[start, stop)` where `p` holds, counted. -/
def count (start stop : ℤ) (p : ℤ → Prop) [DecidablePred p] : ℤ :=
  ((Finset.Ico start stop).filter p).card

theorem count_congr {start stop : ℤ} {p q : ℤ → Prop} [DecidablePred p] [DecidablePred q]
    (h : ∀ t, start ≤ t → t < stop → (p t ↔ q t)) : count start stop p = count start stop q := by
  unfold count
  congr 2
  ext t
  simp only [Finset.mem_filter, Finset.mem_Ico]
  exact and_congr_right fun ht => h t ht.1 ht.2

theorem count_le {start stop : ℤ} (h : start ≤ stop) (p : ℤ → Prop) [DecidablePred p] :
    count start stop p ≤ stop - start := by
  have hle := Finset.card_filter_le (Finset.Ico start stop) p
  rw [Int.card_Ico] at hle
  simp only [count]
  omega

/-- A predicate and its negation share the window. -/
theorem count_add_count_not {start stop : ℤ} (h : start ≤ stop) (p : ℤ → Prop)
    [DecidablePred p] : count start stop p + count start stop (fun t => ¬p t) = stop - start := by
  have hadd := Finset.card_filter_add_card_filter_not (s := Finset.Ico start stop) p
  rw [Int.card_Ico] at hadd
  simp only [count]
  omega

/-- Disjoint spans in order, inside the window: their lengths add up to the
    number of points they cover. -/
theorem card_covered {start stop : ℤ} {l : List (Span ℤ)} (hord : ∀ r ∈ l, r.Ordered)
    (hin : ∀ r ∈ l, start ≤ r.lo ∧ r.hi ≤ stop) (hdisj : l.Pairwise fun a b => a.hi ≤ b.lo) :
    total l = count start stop (Covered l) := by
  induction l with
  | nil => simp [count, covered_nil]
  | cons r l ih =>
    rw [List.forall_mem_cons] at hord hin
    rw [List.pairwise_cons] at hdisj
    have hsplit : (Finset.Ico start stop).filter (Covered (r :: l)) =
        Finset.Ico r.lo r.hi ∪ (Finset.Ico start stop).filter (Covered l) := by
      ext t
      simp only [Finset.mem_filter, Finset.mem_Ico, Finset.mem_union, covered_cons, Contains]
      have := hin.1
      constructor
      · rintro ⟨ht, h | h⟩
        · exact .inl h
        · exact .inr ⟨ht, h⟩
      · rintro (h | h)
        · exact ⟨⟨by omega, by omega⟩, .inl h⟩
        · exact ⟨h.1, .inr h.2⟩
    have hdisjoint : Disjoint (Finset.Ico r.lo r.hi)
        ((Finset.Ico start stop).filter (Covered l)) := by
      rw [Finset.disjoint_left]
      intro t ht ht'
      obtain ⟨b, hb, hbt⟩ := (Finset.mem_filter.1 ht').2
      exact noOverlap_of_inOrder (hdisj.1 b hb) t ⟨Finset.mem_Ico.1 ht, hbt⟩
    have hlen : ((r.hi - r.lo).toNat : ℤ) = r.length := Int.toNat_of_nonneg (length_nonneg hord.1)
    rw [total_cons, ih hord.2 hin.2 hdisj.2, count, count, hsplit,
      Finset.card_union_of_disjoint hdisjoint, Int.card_Ico, Nat.cast_add, hlen]

/-- Coalescing one more span never shrinks the total, in whatever order the
    spans come. -/
theorem total_coalesce_append (reach : ℤ → ℤ) (l : List (Span ℤ)) {r : Span ℤ}
    (hr : r.Ordered) : total (coalesce reach l) ≤ total (coalesce reach (l ++ [r])) := by
  have hinto : ∀ (l : List (Span ℤ)) (cur : Span ℤ),
      total (coalesceInto reach cur l) ≤ total (coalesceInto reach cur (l ++ [r])) := by
    intro l
    induction l with
    | nil =>
      intro cur
      rw [List.nil_append, coalesceInto, coalesceInto]
      split
      · simp only [coalesceInto, total_cons, total_nil, length]
        omega
      · have := length_nonneg hr
        simp only [coalesceInto, total_cons, total_nil]
        omega
    | cons a l ih =>
      intro cur
      rw [List.cons_append, coalesceInto, coalesceInto]
      split
      · exact ih _
      · have := ih a
        simp only [total_cons]
        omega
  cases l with
  | nil =>
    have := length_nonneg hr
    simpa [coalesce, coalesceInto] using this
  | cons a l => exact hinto l a

end Length

end Span

end Perfana
