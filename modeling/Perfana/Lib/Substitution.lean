import Mathlib.Data.List.Infix

/-!
# Substitution in texts

Some patterns of a text are replaced, all at once: what was put in is not looked at again
(`substitute`). Replacing one pattern after the other comes to the same if the patterns are kept
apart (`substitute_substitute`): no pattern begins in what was put in for another one, and none is
continued, or cut, by one that stands behind its beginning (`Rule.Apart`).

* `absent_substitute`: a pattern that is kept apart does not come to stand in a text;
* `substitute_congr`: what matters is which pattern is replaced at each place.
-/

namespace Perfana

variable {α : Type*} [DecidableEq α]

/-- A pattern, what may follow it, and the text that is put in. -/
structure Rule (α : Type*) where
  pattern : List α
  follows : List α → Bool
  text : List α

/-- The pattern stands at the head of a text. -/
def Rule.isAt (r : Rule α) (s : List α) : Bool :=
  r.pattern.isPrefixOf s && r.follows (s.drop r.pattern.length)

/-- Replace the first of the rules at each place; `skip` elements were replaced already. -/
def substituteFrom (rules : List (Rule α)) : ℕ → List α → List α
  | _, [] => []
  | skip + 1, _ :: s => substituteFrom rules skip s
  | 0, a :: s =>
    match rules.find? fun r => r.isAt (a :: s) with
    | some r => r.text ++ substituteFrom rules (r.pattern.length - 1) s
    | none => a :: substituteFrom rules 0 s

/-- Replace the patterns of a text, all at once. -/
def substitute (rules : List (Rule α)) (s : List α) : List α := substituteFrom rules 0 s

variable {rules rules' : List (Rule α)} {r rule : Rule α} {s b p : List α} {a : α}

theorem Rule.isAt_append : r.isAt (r.pattern ++ b) = r.follows b := by
  rw [isAt, List.isPrefixOf_iff_prefix.2 (List.prefix_append _ _), List.drop_left, Bool.true_and]

theorem Rule.isAt_iff : r.isAt s = true ↔ ∃ b, s = r.pattern ++ b ∧ r.follows b = true := by
  constructor
  · intro h
    rw [isAt, Bool.and_eq_true, List.isPrefixOf_iff_prefix] at h
    obtain ⟨⟨b, rfl⟩, hfollows⟩ := h
    rw [List.drop_left] at hfollows
    exact ⟨b, rfl, hfollows⟩
  · rintro ⟨b, rfl, hfollows⟩
    rw [isAt_append, hfollows]

theorem substituteFrom_eq (rules : List (Rule α)) (skip : ℕ) (s : List α) :
    substituteFrom rules skip s = substitute rules (s.drop skip) := by
  induction skip generalizing s with
  | zero => rfl
  | succ skip ih =>
    cases s with
    | nil => rfl
    | cons a s => exact ih s

@[simp] theorem substitute_nil : substitute rules ([] : List α) = [] := rfl

theorem substitute_cons : substitute rules (a :: s) =
    match rules.find? fun r => r.isAt (a :: s) with
    | some r => r.text ++ substitute rules (s.drop (r.pattern.length - 1))
    | none => a :: substitute rules s := by
  rw [substitute, substituteFrom]
  simp only [substituteFrom_eq]
  rfl

/-- Where no pattern stands, nothing changes, -/
theorem substitute_of_none (h : ∀ r ∈ rules, r.isAt (a :: s) = false) :
    substitute rules (a :: s) = a :: substitute rules s := by
  rw [substitute_cons, List.find?_eq_none.2 fun r hr => Bool.eq_false_iff.1 (h r hr)]

/-- and where one does, its text is put in. -/
theorem substitute_of_some (hne : r.pattern ≠ [])
    (h : (rules.find? fun r' => r'.isAt (r.pattern ++ b)) = some r) :
    substitute rules (r.pattern ++ b) = r.text ++ substitute rules b := by
  obtain ⟨a, p, hp⟩ := List.exists_cons_of_ne_nil hne
  rw [hp, List.cons_append] at h ⊢
  rw [substitute_cons, h]
  dsimp only
  rw [hp, List.length_cons, Nat.add_sub_cancel, List.drop_left]

/-- A stretch in which no pattern begins is left as it is. -/
theorem substitute_append
    (h : ∀ q q', p = q ++ q' → q' ≠ [] → ∀ r ∈ rules, r.isAt (q' ++ b) = false) :
    substitute rules (p ++ b) = p ++ substitute rules b := by
  induction p with
  | nil => rfl
  | cons a p ih =>
    rw [List.cons_append, substitute_of_none, ih, List.cons_append]
    · intro q q' hp hq'
      exact h (a :: q) q' (by rw [hp, List.cons_append]) hq'
    · exact h [] (a :: p) rfl (List.cons_ne_nil a p)

/-- Two lists of rules that replace the same at each place of a text do the same. -/
theorem substitute_congr
    (h : ∀ b, b <:+ s → (rules.find? fun r => r.isAt b).map (fun r => (r.pattern.length, r.text)) =
      (rules'.find? fun r => r.isAt b).map fun r => (r.pattern.length, r.text)) :
    substitute rules s = substitute rules' s := by
  have hfrom : ∀ skip, substituteFrom rules skip s = substituteFrom rules' skip s := by
    induction s with
    | nil => intro skip; cases skip <;> rfl
    | cons a s ih =>
      have ih := ih fun b hb => h b (hb.trans (List.suffix_cons a s))
      intro skip
      cases skip with
      | zero =>
        have hsame := h _ List.suffix_rfl
        rw [substituteFrom, substituteFrom]
        cases hr : rules.find? fun r => r.isAt (a :: s) with
        | some r =>
          rw [hr, Option.map_some, eq_comm, Option.map_eq_some_iff] at hsame
          obtain ⟨r', hr', heq⟩ := hsame
          obtain ⟨hlength, htext⟩ := Prod.ext_iff.1 heq
          dsimp only at hlength htext
          rw [hr']
          dsimp only
          rw [hlength, htext, ih]
        | none =>
          rw [hr, Option.map_none, eq_comm, Option.map_eq_none_iff] at hsame
          rw [hsame]
          exact congrArg (a :: ·) (ih 0)
      | succ skip => exact ih skip
  exact hfrom 0

/-- Where no pattern stands at all, the text is left as it is. -/
theorem substitute_of_absent (h : ∀ b, b <:+ s → ∀ r ∈ rules, r.isAt b = false) :
    substitute rules s = s := by
  induction s with
  | nil => rfl
  | cons a s ih =>
    rw [substitute_of_none (h _ List.suffix_rfl),
      ih fun b hb => h b (hb.trans (List.suffix_cons a s))]

/-- What begins at the head of a text after the substitution began there before, or at the
    beginning of a pattern. -/
theorem prefix_substitute (h : p <+: substitute rules s) :
    (∃ b, s = p ++ b ∧ substitute rules s = p ++ substitute rules b) ∨
      ∃ q c rest b r, p = q ++ c :: rest ∧ s = q ++ b ∧ r ∈ rules ∧ r.isAt b = true ∧
        (r.text = [] ∨ r.text.head? = some c) := by
  induction p generalizing s with
  | nil => exact .inl ⟨s, rfl, rfl⟩
  | cons c p ih =>
    cases s with
    | nil => cases List.prefix_nil.1 h
    | cons a s =>
      rw [substitute_cons] at h ⊢
      cases hfind : rules.find? fun r => r.isAt (a :: s) with
      | some r =>
        refine .inr ⟨[], c, p, a :: s, r, rfl, rfl, List.mem_of_find?_eq_some hfind, ?_, ?_⟩
        · exact (List.find?_eq_some_iff_append.1 hfind).1
        · rw [hfind] at h
          dsimp only at h
          cases htext : r.text with
          | nil => exact .inl rfl
          | cons d text =>
            rw [htext, List.cons_append] at h
            exact .inr (congrArg some (List.cons_prefix_cons.1 h).1.symm)
      | none =>
        rw [hfind] at h
        dsimp only at h ⊢
        obtain ⟨rfl, hrest⟩ := List.cons_prefix_cons.1 h
        rcases ih hrest with ⟨b, rfl, heq⟩ | ⟨q, c', rest, b, r, rfl, rfl, hr⟩
        · exact .inl ⟨b, rfl, congrArg (c :: ·) heq⟩
        · exact .inr ⟨c :: q, c', rest, b, r, rfl, rfl, hr⟩

/-- Nothing of a pattern begins in a text, whatever follows it. -/
def Rule.Inert (r : Rule α) (text : List α) : Prop :=
  ∀ t rest, t ≠ [] → t <:+ text → r.isAt (t ++ rest) = false

/-- A pattern begins nowhere in a text that does not have its first element. -/
theorem Rule.inert_of_notMem {text : List α} (hpattern : r.pattern.head? = some a)
    (h : a ∉ text) : r.Inert text := by
  intro t rest hne hsuffix
  obtain ⟨c, t, rfl⟩ := List.exists_cons_of_ne_nil hne
  by_contra htrue
  obtain ⟨b, hb, -⟩ := Rule.isAt_iff.1 ((Bool.not_eq_false _).mp htrue)
  obtain ⟨p, hp⟩ := List.head?_eq_some_iff.1 hpattern
  rw [hp, List.cons_append, List.cons_append] at hb
  exact h ((List.cons.inj hb).1 ▸ hsuffix.subset (List.mem_cons_self ..))

/-- In a text, a rule is kept apart from one that is replaced before it: where that one stands,
    nothing of the pattern begins in its text, nor does the pattern begin right before it and go
    on in it or in its text. -/
structure Rule.Apart (s : List α) (rule r : Rule α) : Prop where
  inert : ∀ b, b <:+ s → rule.isAt b = true → r.Inert rule.text
  apart : ∀ q c rest b, r.pattern = q ++ c :: rest → q ≠ [] → (q ++ b) <:+ s →
    rule.isAt b = true → b.head? ≠ some c ∧ rule.text ≠ [] ∧ rule.text.head? ≠ some c

theorem Rule.Apart.of_suffix {s' : List α} (h : rule.Apart s r) (hs : s' <:+ s) :
    rule.Apart s' r where
  inert b hb := h.inert b (hb.trans hs)
  apart q c rest b hpattern hq hb := h.apart q c rest b hpattern hq (hb.trans hs)

theorem substitute_inert {text : List α} (h : r.Inert text) :
    substitute [r] (text ++ b) = text ++ substitute [r] b := by
  refine substitute_append fun q q' hp hq' r' hr' => ?_
  rw [List.mem_singleton.1 hr']
  exact h q' b hq' ⟨q, hp.symm⟩

/-- A pattern that stands at a place which was left as it is stood there before. -/
theorem isAt_of_isAt_substitute (hr : r.pattern ≠ [])
    (happart : ∀ rule ∈ rules, rule.Apart (a :: s) r)
    (hfollows : ∀ b, b <:+ s → r.follows (substitute rules b) = r.follows b)
    (h : r.isAt (a :: substitute rules s) = true) : r.isAt (a :: s) = true := by
  obtain ⟨b', hb', hfollow⟩ := Rule.isAt_iff.1 h
  obtain ⟨a', p, hp⟩ := List.exists_cons_of_ne_nil hr
  rw [hp, List.cons_append] at hb'
  obtain ⟨rfl, hrest⟩ := List.cons.inj hb'
  rcases prefix_substitute ⟨b', hrest.symm⟩ with
    ⟨b, rfl, heq⟩ | ⟨q, c, rest, b, rule, rfl, rfl, hrule, hrulat, htext⟩
  · obtain rfl := List.append_cancel_left (hrest.symm.trans heq)
    rw [hfollows b (List.suffix_append p b)] at hfollow
    exact Rule.isAt_iff.2 ⟨b, by rw [hp, List.cons_append], hfollow⟩
  · -- It would have begun right before one that was replaced.
    obtain ⟨-, hne', hhead⟩ := (happart rule hrule).apart (a :: q) c rest b hp
      (List.cons_ne_nil a q) List.suffix_rfl hrulat
    exact absurd htext (not_or.2 ⟨hne', hhead⟩)

/-- What is before a place, and what it became: they are the same, or they end in the same stretch
    behind a pattern, and behind what was put in for it. -/
def SameEnd (rules : List (Rule α)) (before before' after : List α) : Prop :=
  before' = before ∨ ∃ front front' rule stretch, rule ∈ rules ∧
    before = front ++ (rule.pattern ++ stretch) ∧ before' = front' ++ (rule.text ++ stretch) ∧
    rule.isAt (rule.pattern ++ (stretch ++ after)) = true

theorem SameEnd.cons {before before' after : List α} (a : α)
    (h : SameEnd rules before before' after) :
    SameEnd rules (a :: before) (a :: before') after := by
  rcases h with rfl | ⟨front, front', rule, stretch, hrule, rfl, rfl, hat⟩
  · exact .inl rfl
  · exact .inr ⟨a :: front, a :: front', rule, stretch, hrule, rfl, rfl, hat⟩

theorem SameEnd.append {before before' after : List α} (hrule : rule ∈ rules)
    (hat : rule.isAt (rule.pattern ++ (before ++ after)) = true)
    (h : SameEnd rules before before' after) :
    SameEnd rules (rule.pattern ++ before) (rule.text ++ before') after := by
  rcases h with rfl | ⟨front, front', rule', stretch, hrule', rfl, rfl, hat'⟩
  · exact .inr ⟨[], [], rule, before', hrule, rfl, rfl, hat⟩
  · exact .inr ⟨rule.pattern ++ front, rule.text ++ front', rule', stretch, hrule',
      (List.append_assoc _ _ _).symm, (List.append_assoc _ _ _).symm, hat'⟩

/-- A pattern that stands in a text after the others were replaced stood there before. -/
theorem exists_of_isAt_substitute {before' b' : List α}
    (hne : ∀ rule ∈ rules, rule.pattern ≠ []) (hr : r.pattern ≠ [])
    (happart : ∀ rule ∈ rules, rule.Apart s r)
    (hfollows : ∀ b, b <:+ s → r.follows (substitute rules b) = r.follows b)
    (h : substitute rules s = before' ++ b') (hat : r.isAt b' = true) :
    ∃ before b, s = before ++ b ∧ b' = substitute rules b ∧ r.isAt b = true ∧
      (∀ rule ∈ rules, rule.isAt b = false) ∧ SameEnd rules before before' b := by
  induction hlen : s.length using Nat.strong_induction_on generalizing s before' with
  | _ n ih =>
  have ih : ∀ (c before' : List α), c <:+ s → c.length < s.length →
      substitute rules c = before' ++ b' → ∃ before b, c = before ++ b ∧ b' = substitute rules b ∧
        r.isAt b = true ∧ (∀ rule ∈ rules, rule.isAt b = false) ∧
          SameEnd rules before before' b := fun c before' hc hlt hb' =>
    ih c.length (hlen ▸ hlt) (fun rule hrule => (happart rule hrule).of_suffix hc)
      (fun b hb => hfollows b (hb.trans hc)) hb' rfl
  cases s with
  | nil =>
    obtain ⟨-, rfl⟩ := List.nil_eq_append_iff.1 h
    obtain ⟨rest, hrest, -⟩ := Rule.isAt_iff.1 hat
    exact absurd (List.append_eq_nil_iff.1 hrest.symm).1 hr
  | cons a s =>
    cases hfind : rules.find? fun rule => rule.isAt (a :: s) with
    | some rule =>
      have hmem := List.mem_of_find?_eq_some hfind
      have hrulat := (List.find?_eq_some_iff_append.1 hfind).1
      obtain ⟨c, hc, -⟩ := Rule.isAt_iff.1 hrulat
      have hinert := (happart rule hmem).inert _ List.suffix_rfl hrulat
      have hsuffix : c <:+ a :: s := hc ▸ List.suffix_append _ _
      have hlt : c.length < (a :: s).length := by
        have hpos := List.length_pos_of_ne_nil (hne rule hmem)
        rw [hc, List.length_append]
        omega
      rw [hc] at hfind h hrulat ⊢
      rw [substitute_of_some (hne rule hmem) hfind] at h
      -- It would begin in the text that was put in, or it is behind it.
      rcases List.append_eq_append_iff.1 h with ⟨behind, hbefore, hb'⟩ | ⟨t, htext, hb'⟩
      · obtain ⟨before, b, rfl, hb, hat, hfree, hend⟩ := ih c behind hsuffix hlt hb'
        exact ⟨rule.pattern ++ before, b, (List.append_assoc _ _ _).symm, hb, hat, hfree,
          hbefore ▸ hend.append hmem hrulat⟩
      · by_cases ht : t = []
        · rw [ht, List.nil_append] at hb'
          obtain ⟨before, b, rfl, hb, hat, hfree, hend⟩ := ih c [] hsuffix hlt hb'.symm
          refine ⟨rule.pattern ++ before, b, (List.append_assoc _ _ _).symm, hb, hat, hfree, ?_⟩
          rw [ht, List.append_nil] at htext
          have hend := hend.append hmem hrulat
          rwa [List.append_nil, htext] at hend
        · rw [hb', hinert t _ ht ⟨before', htext.symm⟩] at hat
          cases hat
    | none =>
      have hnone := List.find?_eq_none.1 hfind
      have hcons := substitute_of_none fun rule hrule => Bool.eq_false_iff.2 (hnone rule hrule)
      rcases List.cons_eq_append_iff.1 (hcons.symm.trans h) with ⟨rfl, rfl⟩ | ⟨before, rfl, hb'⟩
      · have hat := isAt_of_isAt_substitute hr happart
          (fun b hb => hfollows b (hb.trans (List.suffix_cons a s))) hat
        exact ⟨[], a :: s, rfl, hcons.symm, hat, fun rule hrule =>
          Bool.eq_false_iff.2 (hnone rule hrule), .inl rfl⟩
      · obtain ⟨before, b, rfl, hb, hat, hfree, hend⟩ :=
          ih s before (List.suffix_cons a s) (Nat.lt_succ_self _) hb'
        exact ⟨a :: before, b, rfl, hb, hat, hfree, hend.cons a⟩

/-- A pattern that does not stand in a text does not stand in it after the others were replaced. -/
theorem absent_substitute (hne : ∀ rule ∈ rules, rule.pattern ≠ []) (hr : r.pattern ≠ [])
    (happart : ∀ rule ∈ rules, rule.Apart s r)
    (hfollows : ∀ b, b <:+ s → r.follows (substitute rules b) = r.follows b)
    (habsent : ∀ b, b <:+ s → r.isAt b = false) : ∀ b, b <:+ substitute rules s →
      r.isAt b = false := by
  rintro b' ⟨before', hb'⟩
  by_contra htrue
  obtain ⟨before, b, rfl, -, hat, -, -⟩ := exists_of_isAt_substitute hne hr happart hfollows
    hb'.symm ((Bool.not_eq_false _).mp htrue)
  rw [habsent b (List.suffix_append _ _)] at hat
  cases hat

/-- No pattern that is replaced begins in one that stands in the text. -/
theorem substitute_pattern (happart : ∀ rule ∈ rules, rule.Apart s r) (hs : r.pattern ++ b <:+ s)
    (hnone : ∀ rule ∈ rules, rule.isAt (r.pattern ++ b) = false) :
    substitute rules (r.pattern ++ b) = r.pattern ++ substitute rules b := by
  refine substitute_append fun q q' hq hq' rule hrule => ?_
  by_contra htrue
  have hrulat := (Bool.not_eq_false _).mp htrue
  obtain ⟨c, rest, rfl⟩ := List.exists_cons_of_ne_nil hq'
  have hsplit : q ++ (c :: rest ++ b) = r.pattern ++ b := by rw [hq, List.append_assoc]
  by_cases hnil : q = []
  · rw [hnil, List.nil_append] at hsplit
    rw [hsplit, hnone rule hrule] at hrulat
    cases hrulat
  · exact ((happart rule hrule).apart q c rest _ hq hnil (hsplit ▸ hs) hrulat).1 rfl

/-- What is replaced before a place, where no pattern goes on into it, leaves the place alone. -/
theorem exists_substitute_append {before : List α} (hne : ∀ rule ∈ rules, rule.pattern ≠ [])
    (hcut : ∀ q c rest, (q ++ b) <:+ before ++ b → q ≠ [] → b.head? = some c →
      ∀ rule ∈ rules, rule.pattern ≠ q ++ c :: rest) :
    ∃ before', substitute rules (before ++ b) = before' ++ substitute rules b ∧
      SameEnd rules before before' b := by
  induction hlen : before.length using Nat.strong_induction_on generalizing before with
  | _ n ih =>
  have ih : ∀ behind : List α, behind <:+ before → behind.length < before.length →
      ∃ before', substitute rules (behind ++ b) = before' ++ substitute rules b ∧
        SameEnd rules behind before' b := fun behind hbehind hlt =>
    ih behind.length (hlen ▸ hlt) (fun q c rest hq =>
      hcut q c rest (hq.trans (List.suffix_append_self_iff.2 hbehind))) rfl
  cases before with
  | nil => exact ⟨[], rfl, .inl rfl⟩
  | cons a before =>
    rw [List.cons_append]
    cases hfind : rules.find? fun rule => rule.isAt (a :: (before ++ b)) with
    | some rule =>
      have hmem := List.mem_of_find?_eq_some hfind
      have hrulat := (List.find?_eq_some_iff_append.1 hfind).1
      obtain ⟨c, hc, -⟩ := Rule.isAt_iff.1 hrulat
      -- What stands here ends before the place.
      obtain ⟨behind, hbefore, rfl⟩ : ∃ behind, a :: before = rule.pattern ++ behind ∧
          c = behind ++ b := by
        rcases List.append_eq_append_iff.1 (List.cons_append ▸ hc : (a :: before) ++ b = _) with
          ⟨rest, hpattern, hb⟩ | ⟨behind, hbefore, hb⟩
        · cases rest with
          | nil => exact ⟨[], by rw [hpattern, List.append_nil, List.append_nil], hb.symm⟩
          | cons d rest =>
            exact absurd hpattern (hcut (a :: before) d rest List.suffix_rfl
              (List.cons_ne_nil _ _) (by rw [hb]; rfl) rule hmem)
        · exact ⟨behind, hbefore, hb⟩
      have hlt : behind.length < (a :: before).length := by
        have hpos := List.length_pos_of_ne_nil (hne rule hmem)
        rw [hbefore, List.length_append]
        omega
      obtain ⟨behind', hbehind', hend⟩ := ih behind (hbefore ▸ List.suffix_append _ _) hlt
      rw [hc] at hfind hrulat ⊢
      rw [substitute_of_some (hne rule hmem) hfind, hbehind', hbefore]
      exact ⟨rule.text ++ behind', (List.append_assoc _ _ _).symm, hend.append hmem hrulat⟩
    | none =>
      have hnone := List.find?_eq_none.1 hfind
      obtain ⟨before', hbefore', hend⟩ := ih before (List.suffix_cons a before)
        (Nat.lt_succ_self _)
      exact ⟨a :: before', by rw [substitute_of_none fun rule hrule =>
        Bool.eq_false_iff.2 (hnone rule hrule), hbefore', List.cons_append], hend.cons a⟩

/-- One more pattern that is replaced afterwards is replaced as if it were replaced at once. -/
theorem substitute_substitute (hne : ∀ rule ∈ rules, rule.pattern ≠ []) (hr : r.pattern ≠ [])
    (happart : ∀ rule ∈ rules, rule.Apart s r)
    (hfollows : ∀ b, b <:+ s → r.follows (substitute rules b) = r.follows b) :
    substitute [r] (substitute rules s) = substitute (rules ++ [r]) s := by
  induction hlen : s.length using Nat.strong_induction_on generalizing s with
  | _ n ih =>
  have ih : ∀ b, b <:+ s → b.length < s.length →
      substitute [r] (substitute rules b) = substitute (rules ++ [r]) b := fun b hb hlt =>
    ih b.length (hlen ▸ hlt) (fun rule hrule => (happart rule hrule).of_suffix hb)
      (fun b' hb' => hfollows b' (hb'.trans hb)) rfl
  cases s with
  | nil => rfl
  | cons a s =>
    cases hfind : rules.find? fun rule => rule.isAt (a :: s) with
    | some rule =>
      -- A pattern stands here that was replaced before.
      have hmem := List.mem_of_find?_eq_some hfind
      have hat := (List.find?_eq_some_iff_append.1 hfind).1
      obtain ⟨b, hb, -⟩ := Rule.isAt_iff.1 hat
      have hfind' : ((rules ++ [r]).find? fun rule => rule.isAt (a :: s)) = some rule := by
        rw [List.find?_append, hfind, Option.some_or]
      have hinert := (happart rule hmem).inert _ List.suffix_rfl hat
      have hsuffix : b <:+ a :: s := hb ▸ List.suffix_append _ _
      have hlt : b.length < (a :: s).length := by
        have hpos := List.length_pos_of_ne_nil (hne rule hmem)
        rw [hb, List.length_append]
        omega
      rw [hb] at hfind hfind' ⊢
      rw [substitute_of_some (hne rule hmem) hfind, substitute_of_some (hne rule hmem) hfind',
        substitute_inert hinert, ih b hsuffix hlt]
    | none =>
      have hnone := List.find?_eq_none.1 hfind
      by_cases hat : r.isAt (a :: s) = true
      · -- The pattern stands here, and none that was replaced before begins in it.
        obtain ⟨b, hb, hfollow⟩ := Rule.isAt_iff.1 hat
        have hfind' : ((rules ++ [r]).find? fun rule => rule.isAt (a :: s)) = some r := by
          rw [List.find?_append, hfind, Option.none_or]
          simp [hat]
        have hsuffix : b <:+ a :: s := hb ▸ List.suffix_append _ _
        have hlt : b.length < (a :: s).length := by
          have hpos := List.length_pos_of_ne_nil hr
          rw [hb, List.length_append]
          omega
        have hpattern : substitute rules (r.pattern ++ b) = r.pattern ++ substitute rules b :=
          substitute_pattern happart (hb ▸ List.suffix_rfl) fun rule hrule =>
            hb ▸ Bool.eq_false_iff.2 (hnone rule hrule)
        have hat' : ([r].find? fun rule => rule.isAt (r.pattern ++ substitute rules b)) =
            some r := by
          simp [Rule.isAt_append, hfollows b hsuffix, hfollow]
        rw [hb] at hfind' ⊢
        rw [hpattern, substitute_of_some hr hat', substitute_of_some hr hfind',
          ih b hsuffix hlt]
      · -- The pattern does not stand here, nor after the others were replaced.
        have hnot : r.isAt (a :: substitute rules s) = false := by
          by_contra htrue
          exact hat (isAt_of_isAt_substitute hr happart
            (fun b hb => hfollows b (hb.trans (List.suffix_cons a s)))
            ((Bool.not_eq_false _).mp htrue))
        have hnone' : ∀ r' ∈ rules ++ [r], r'.isAt (a :: s) = false := by
          intro r' hr'
          rcases List.mem_append.1 hr' with hr' | hr'
          · exact Bool.eq_false_iff.2 (hnone r' hr')
          · exact List.mem_singleton.1 hr' ▸ Bool.eq_false_iff.2 hat
        rw [substitute_of_none hnone', substitute_of_none fun r' hr' =>
          Bool.eq_false_iff.2 (hnone r' hr'), substitute_of_none fun r' hr' => by
            rw [List.mem_singleton.1 hr', hnot],
          ih s (List.suffix_cons a s) (Nat.lt_succ_self _)]

/-- If no two patterns stand at one place where none of the first ones does, their order does not
    matter. -/
theorem substitute_append_perm {first last : List (Rule α)}
    (h : ∀ b, b <:+ s → (∀ r ∈ first, r.isAt b = false) → ∀ rule ∈ rules, ∀ rule' ∈ rules,
      rule.isAt b = true → rule'.isAt b = true → rule = rule') (hperm : rules.Perm rules') :
    substitute (first ++ rules ++ last) s = substitute (first ++ rules' ++ last) s := by
  refine substitute_congr fun b hb => ?_
  rw [List.find?_append, List.find?_append, List.find?_append, List.find?_append]
  cases hfirst : first.find? fun r => r.isAt b with
  | some r => rfl
  | none =>
    have h := h b hb fun r hr => Bool.eq_false_iff.2 (List.find?_eq_none.1 hfirst r hr)
    rw [Option.none_or, Option.none_or]
    cases hfind : rules.find? fun r => r.isAt b with
    | none =>
      rw [List.find?_eq_none.2 fun r hr => List.find?_eq_none.1 hfind r (hperm.mem_iff.2 hr)]
    | some r =>
      have hat := (List.find?_eq_some_iff_append.1 hfind).1
      have hmem := List.mem_of_find?_eq_some hfind
      have hsome : (rules'.find? fun r => r.isAt b).isSome = true :=
        List.find?_isSome.2 ⟨r, hperm.mem_iff.1 hmem, hat⟩
      obtain ⟨r', hr'⟩ := Option.isSome_iff_exists.1 hsome
      rw [hr', h r hmem r' (hperm.mem_iff.2 (List.mem_of_find?_eq_some hr')) hat
        (List.find?_eq_some_iff_append.1 hr').1]

/-- Rules whose patterns stand nowhere do nothing. -/
theorem substitute_append_of_absent (h : ∀ b, b <:+ s → ∀ r ∈ rules', r.isAt b = false) :
    substitute (rules ++ rules') s = substitute rules s := by
  refine substitute_congr fun b hb => ?_
  have hnone : (rules'.find? fun r => r.isAt b) = none :=
    List.find?_eq_none.2 fun r hr => Bool.eq_false_iff.1 (h b hb r hr)
  rw [List.find?_append, hnone, Option.or_none]

/-- If no two patterns stand at one place, their order does not matter. -/
theorem substitute_perm (h : ∀ b, b <:+ s → ∀ rule ∈ rules, ∀ rule' ∈ rules,
      rule.isAt b = true → rule'.isAt b = true → rule = rule') (hperm : rules.Perm rules') :
    substitute rules s = substitute rules' s := by
  have hsame : substitute ([] ++ rules ++ []) s = substitute ([] ++ rules' ++ []) s :=
    substitute_append_perm (fun b hb _ => h b hb) hperm
  rwa [List.append_nil, List.append_nil] at hsame

/-! ## Checks -/

/-- A rule that stands nowhere is kept apart, -/
theorem Rule.Apart.of_absent (h : ∀ b, b <:+ s → rule.isAt b ≠ true) : rule.Apart s r where
  inert b hb hat := absurd hat (h b hb)
  apart q _ _ b _ _ hb hat := absurd hat (h b ((List.suffix_append q b).trans hb))

/-- and so is one before which, and in whose text, there is no first element of the pattern. -/
theorem Rule.Apart.of_head (hpattern : r.pattern.head? = some a) (htext : a ∉ rule.text)
    (hfirst : ∀ t, t <:+ s → t.head? = some a → ∀ b, b <:+ s → rule.isAt b = true →
      t.length ≤ b.length) : rule.Apart s r where
  inert _ _ _ := Rule.inert_of_notMem hpattern htext
  apart q _ _ b hsplit hq hb hat := by
    obtain ⟨d, q, rfl⟩ := List.exists_cons_of_ne_nil hq
    have hhead : (d :: q ++ b).head? = some a := by
      rw [hsplit] at hpattern
      exact hpattern
    have hle := hfirst _ hb hhead b ((List.suffix_append _ b).trans hb) hat
    rw [List.length_append, List.length_cons] at hle
    omega

/-- Whether two rules are kept apart in a text, as far as it is seen without looking at what may
    follow. -/
def Rule.isApart (s : List α) (rule r : Rule α) : Bool :=
  s.tails.all (fun b => !rule.isAt b) ||
    s.tails.all (fun b => !rule.isAt b || rule.text.tails.all fun t =>
      t.isEmpty || !t.isPrefixOf r.pattern && !r.pattern.isPrefixOf t) &&
    s.tails.all fun t => t.head? != r.pattern.head? || (List.range r.pattern.length).all fun i =>
      i == 0 || !(r.pattern.take i).isPrefixOf t || !rule.isAt (t.drop i) ||
        (t.drop i).head? != r.pattern[i]? && !rule.text.isEmpty &&
          rule.text.head? != r.pattern[i]?

theorem Rule.Apart.of_isApart (h : rule.isApart s r = true) : rule.Apart s r := by
  rw [Rule.isApart, Bool.or_eq_true, Bool.and_eq_true] at h
  rcases h with habsent | ⟨hinert, happart⟩
  · -- It stands nowhere.
    exact .of_absent fun b hb => by
      simpa using List.all_eq_true.1 habsent b (List.mem_tails _ _ |>.2 hb)
  rw [List.all_eq_true] at hinert happart
  refine ⟨fun b hb hat t rest hne ht => ?_, fun q c rest b hpattern hq hb hat => ?_⟩
  · have hin := hinert b (List.mem_tails _ _ |>.2 hb)
    rw [hat, Bool.not_true, Bool.false_or, List.all_eq_true] at hin
    have hin := hin t (List.mem_tails _ _ |>.2 ht)
    by_contra htrue
    obtain ⟨b', hb', -⟩ := Rule.isAt_iff.1 ((Bool.not_eq_false _).mp htrue)
    -- The pattern and the rest of the text would begin with one another.
    have hpattern : r.pattern <+: t ++ rest := ⟨b', hb'.symm⟩
    rcases List.prefix_or_prefix_of_prefix (List.prefix_append t rest) hpattern with
      hprefix | hprefix
    · simp [List.isPrefixOf_iff_prefix.2 hprefix, hne] at hin
    · simp [List.isPrefixOf_iff_prefix.2 hprefix, hne] at hin
  · have hhead : (q ++ b).head? = r.pattern.head? := by
      obtain ⟨d, q, rfl⟩ := List.exists_cons_of_ne_nil hq
      rw [hpattern]
      rfl
    have hap := happart (q ++ b) (List.mem_tails _ _ |>.2 hb)
    rw [hhead, bne_self_eq_false, Bool.false_or] at hap
    have hap := List.all_eq_true.1 hap q.length
      (List.mem_range.2 (by rw [hpattern, List.length_append, List.length_cons]; omega))
    have htake : r.pattern.take q.length = q := by rw [hpattern, List.take_left]
    have hget : r.pattern[q.length]? = some c := by simp [hpattern]
    have hprefix : q.isPrefixOf (q ++ b) = true :=
      List.isPrefixOf_iff_prefix.2 (List.prefix_append q b)
    have hlen : q.length ≠ 0 := fun hzero => hq (List.eq_nil_of_length_eq_zero hzero)
    rw [htake, hget, List.drop_left, hprefix, hat] at hap
    simpa [hlen, and_assoc] using hap

end Perfana
