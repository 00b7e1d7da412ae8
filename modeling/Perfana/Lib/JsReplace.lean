import Perfana.Lib.Substitution
import Perfana.Lib.Utf16

/-!
# Replacing in strings

A program that replaces a pattern in a string gives the text to put in as a template: in it a
dollar sign with what follows it may stand for a dollar sign, for what was matched, or for what is
before or after that (`getSubstitution`). A template without such references is put in as it is
(`replaceAll_of_isLiteral`).
-/

namespace Perfana

/-- The code unit is one of a word: a letter, a digit or an underscore. -/
def isWordUnit (u : CodeUnit) : Bool :=
  65 ≤ u.val && u.val ≤ 90 || 97 ≤ u.val && u.val ≤ 122 || 48 ≤ u.val && u.val ≤ 57 || u.val = 95

/-- One of a text and what is behind it ends a word or begins one: the assertion `\b`. -/
def wordBoundary (text rest : List CodeUnit) : Bool :=
  text.getLast?.any isWordUnit != rest.head?.any isWordUnit

/-- What a template stands for. -/
def getSubstitution (before matched after : List CodeUnit) : List CodeUnit → List CodeUnit
  | [] => []
  | [u] => [u]
  | u :: v :: template =>
    if u = 36 && v = 36 then 36 :: getSubstitution before matched after template
    else if u = 36 && v = 38 then matched ++ getSubstitution before matched after template
    else if u = 36 && v = 96 then before ++ getSubstitution before matched after template
    else if u = 36 && v = 39 then after ++ getSubstitution before matched after template
    else u :: getSubstitution before matched after (v :: template)

/-- The template has no references. -/
def isLiteral : List CodeUnit → Bool
  | u :: v :: template => !(u = 36 && [36, 38, 96, 39].contains v) && isLiteral (v :: template)
  | _ => true

/-- Replace a pattern everywhere, the text of the rule being the template. `before` was read, and
    `skip` units of it are part of a match. -/
def replaceFrom (r : Rule CodeUnit) : List CodeUnit → ℕ → List CodeUnit → List CodeUnit
  | _, _, [] => []
  | before, skip + 1, u :: s => replaceFrom r (before ++ [u]) skip s
  | before, 0, u :: s =>
    if r.isAt (u :: s) then
      getSubstitution before r.pattern ((u :: s).drop r.pattern.length) r.text ++
        replaceFrom r (before ++ [u]) (r.pattern.length - 1) s
    else u :: replaceFrom r (before ++ [u]) 0 s

/-- `replace` with a global pattern. -/
def replaceAll (r : Rule CodeUnit) (s : List CodeUnit) : List CodeUnit := replaceFrom r [] 0 s

def replaceFirstFrom (r : Rule CodeUnit) : List CodeUnit → List CodeUnit → List CodeUnit
  | _, [] => []
  | before, u :: s =>
    if r.isAt (u :: s) then
      getSubstitution before r.pattern ((u :: s).drop r.pattern.length) r.text ++
        (u :: s).drop r.pattern.length
    else u :: replaceFirstFrom r (before ++ [u]) s

/-- `replace` with a string, which is replaced where it stands first. -/
def replaceFirst (r : Rule CodeUnit) (s : List CodeUnit) : List CodeUnit := replaceFirstFrom r [] s

theorem getSubstitution_of_isLiteral {template : List CodeUnit} (h : isLiteral template = true)
    (before matched after : List CodeUnit) :
    getSubstitution before matched after template = template := by
  induction template using isLiteral.induct with
  | case1 u v template ih =>
    rw [isLiteral, Bool.and_eq_true, Bool.not_eq_true'] at h
    obtain ⟨hpair, hrest⟩ := h
    have hno : ∀ w ∈ [(36 : CodeUnit), 38, 96, 39], (u = 36 && v = w) = false := by
      intro w hw
      by_contra htrue
      rw [Bool.not_eq_false, Bool.and_eq_true, decide_eq_true_eq, decide_eq_true_eq] at htrue
      rw [htrue.1, htrue.2, List.contains_iff_mem.2 hw] at hpair
      cases hpair
    rw [getSubstitution, hno 36 (by decide), hno 38 (by decide), hno 96 (by decide),
      hno 39 (by decide), ih hrest]
    rfl
  | case2 template hshort =>
    rcases template with _ | ⟨u, _ | ⟨v, template⟩⟩
    · rfl
    · rfl
    · exact absurd rfl (hshort u v template)

theorem isLiteral_of_notMem {template : List CodeUnit} (h : 36 ∉ template) :
    isLiteral template = true := by
  induction template using isLiteral.induct with
  | case1 u v template ih =>
    have hu : u ≠ 36 := fun heq => h (heq ▸ List.mem_cons_self ..)
    rw [isLiteral, ih fun hmem => h (List.mem_cons_of_mem u hmem)]
    simp [hu]
  | case2 template hshort => rw [isLiteral]; exact hshort

/-- A template without references is put in as it is. -/
theorem replaceAll_of_isLiteral {r : Rule CodeUnit} (h : isLiteral r.text = true)
    (s : List CodeUnit) : replaceAll r s = substitute [r] s := by
  have hfrom : ∀ before skip, replaceFrom r before skip s = substituteFrom [r] skip s := by
    induction s with
    | nil =>
      intro before skip
      cases skip <;> rfl
    | cons u s ih =>
      intro before skip
      cases skip with
      | zero =>
        rw [replaceFrom, substituteFrom, getSubstitution_of_isLiteral h, ih, ih]
        cases hat : r.isAt (u :: s) with
        | true => simp [hat]
        | false => simp [hat]
      | succ skip => exact ih _ skip
  exact hfrom [] 0

theorem replaceFrom_of_absent {r : Rule CodeUnit} {s : List CodeUnit}
    (h : ∀ b, b <:+ s → r.isAt b = false) (before : List CodeUnit) (skip : ℕ) :
    replaceFrom r before skip s = s.drop skip := by
  induction s generalizing before skip with
  | nil => cases skip <;> rfl
  | cons u s ih =>
    have ih := ih fun b hb => h b (hb.trans (List.suffix_cons u s))
    cases skip with
    | zero =>
      rw [replaceFrom, h _ List.suffix_rfl, if_neg Bool.false_ne_true, ih, List.drop_zero,
        List.drop_zero]
    | succ skip => exact ih _ skip

theorem replaceAll_of_absent {r : Rule CodeUnit} {s : List CodeUnit}
    (h : ∀ b, b <:+ s → r.isAt b = false) : replaceAll r s = s :=
  replaceFrom_of_absent h [] 0

/-- What stands in a text only once is replaced everywhere where it is replaced once. -/
theorem replaceFirst_eq {r : Rule CodeUnit} {s : List CodeUnit} (hne : r.pattern ≠ [])
    (honce : ∀ b, b <:+ s → ∀ b', b' <:+ s → r.isAt b = true → r.isAt b' = true → b = b') :
    replaceFirst r s = replaceAll r s := by
  have hfrom : ∀ before, replaceFirstFrom r before s = replaceFrom r before 0 s := by
    induction s with
    | nil => intro before; rfl
    | cons u s ih =>
      intro before
      rw [replaceFirstFrom, replaceFrom]
      cases hat : r.isAt (u :: s) with
      | false =>
        have ih := ih fun b hb b' hb' => honce b (hb.trans (List.suffix_cons u s)) b'
          (hb'.trans (List.suffix_cons u s))
        rw [if_neg Bool.false_ne_true, if_neg Bool.false_ne_true, ih]
      | true =>
        have habsent : ∀ b, b <:+ s → r.isAt b = false := by
          intro b hb
          by_contra htrue
          have heq := honce b (hb.trans (List.suffix_cons u s)) _ List.suffix_rfl
            ((Bool.not_eq_false _).mp htrue) hat
          have hle := hb.length_le
          rw [heq, List.length_cons] at hle
          omega
        obtain ⟨d, p, hp⟩ := List.exists_cons_of_ne_nil hne
        rw [if_pos rfl, if_pos rfl, replaceFrom_of_absent habsent, hp, List.length_cons,
          List.drop_succ_cons, Nat.add_sub_cancel]
  exact hfrom []

/-- One more pattern is replaced as if it were replaced at once with those before it. -/
theorem replaceAll_substitute {rules : List (Rule CodeUnit)} {r : Rule CodeUnit}
    {s : List CodeUnit} (hne : ∀ rule ∈ rules, rule.pattern ≠ []) (hr : r.pattern ≠ [])
    (happart : ∀ rule ∈ rules, rule.Apart s r)
    (hfollows : ∀ b, b <:+ s → r.follows (substitute rules b) = r.follows b)
    (hliteral : ∀ b, b <:+ s → r.isAt b = true → isLiteral r.text = true) :
    replaceAll r (substitute rules s) = substitute (rules ++ [r]) s := by
  rw [← substitute_substitute hne hr happart hfollows]
  by_cases hoccurs : ∀ b, b <:+ s → r.isAt b = false
  · have habsent := absent_substitute hne hr happart hfollows hoccurs
    have hsame : substitute [r] (substitute rules s) = substitute rules s :=
      substitute_of_absent fun b hb r' hr' => List.mem_singleton.1 hr' ▸ habsent b hb
    rw [replaceAll_of_absent habsent, hsame]
  · push Not at hoccurs
    obtain ⟨b, hb, hat⟩ := hoccurs
    exact replaceAll_of_isLiteral (hliteral b hb ((Bool.not_eq_false _).mp hat)) _

/-- Patterns that are kept apart, and whose templates have no references, are replaced one after
    the other as they are at once. -/
theorem foldl_replaceAll {rules : List (Rule CodeUnit)} {s : List CodeUnit}
    (hne : ∀ rule ∈ rules, rule.pattern ≠ []) (happart : rules.Pairwise (Rule.Apart s))
    (hfollows : ∀ rules' b, rules' <+: rules → b <:+ s → ∀ r ∈ rules,
      r.follows (substitute rules' b) = r.follows b)
    (hliteral : ∀ rule ∈ rules, ∀ b, b <:+ s → rule.isAt b = true → isLiteral rule.text = true) :
    rules.foldl (fun s r => replaceAll r s) s = substitute rules s := by
  induction rules using List.reverseRecOn with
  | nil => exact (substitute_of_absent fun _ _ _ h => absurd h List.not_mem_nil).symm
  | append_singleton rules r ih =>
    have hr : r ∈ rules ++ [r] := List.mem_append_right _ (List.mem_singleton_self r)
    have hrules : ∀ rule ∈ rules, rule ∈ rules ++ [r] := fun rule => List.mem_append_left _
    rw [List.pairwise_append] at happart
    have hfollow : ∀ b, b <:+ s → r.follows (substitute rules b) = r.follows b := fun b hb =>
      hfollows rules b (List.prefix_append _ _) hb r hr
    have hne' : ∀ rule ∈ rules, rule.pattern ≠ [] := fun rule hrule => hne rule (hrules rule hrule)
    rw [List.foldl_append, List.foldl_cons, List.foldl_nil, ih hne' happart.1
      (fun rules' b hrules' hb r' hr' => hfollows rules' b
        (hrules'.trans (List.prefix_append _ _)) hb r' (hrules r' hr'))
      (fun rule hrule => hliteral rule (hrules rule hrule))]
    exact replaceAll_substitute hne' (hne r hr)
      (fun rule hrule => happart.2.2 rule hrule r (List.mem_singleton_self r)) hfollow
      (hliteral r hr)

end Perfana
