import Mathlib.Algebra.Order.Field.Basic
import Mathlib.Tactic.Linarith
import Perfana.Adapt.Comparison

/-!
# The label of a difference

A label says that the value of a metric differs from that of the control group, and
in which direction. The thresholds that are configured and apply each let the value
be some distance away (`tolerances`); a full label is due if it is farther away than
any of them allows.

The band of the share is computed from the control value itself. Around a negative
one its bounds change places, and any value lies outside. And the share must be
configured for a full label, and so must the multiple of the range where the range
is not zero.

* `isFull_conclusionOf`, `isDifference_conclusionOf`: what the label says of the checks;
* `labelSound_iff`: when the label says what is the case.
-/

namespace Perfana

/-- A label of a full difference. -/
def AdaptLabel.isFull : AdaptLabel → Bool
  | .increase | .decrease | .improvement | .regression => true
  | _ => false

/-- A label of a difference, full or partial. -/
def AdaptLabel.isDifference : AdaptLabel → Bool
  | .incomparable | .ignored | .noDifference => false
  | _ => true

variable {K : Type} [Field K] [LinearOrder K] {config : CompareConfig K} {control test : K}
  {iqr : Option K}

/-- How far from that of the control group the thresholds that are configured and apply
    let a value be. -/
def tolerances (config : CompareConfig K) (control : K) (iqr : Option K) : List K :=
  [config.percentageThreshold.map fun threshold => threshold * |control|,
    do return (← config.iqrThreshold) * (← iqr.filter (· ≠ 0)),
    config.absoluteThreshold].filterMap id

/-- A value is farther away than any threshold allows that is configured and applies,
    and there is one. -/
def ExceedsTolerances (config : CompareConfig K) (control test : K) (iqr : Option K) : Prop :=
  tolerances config control iqr ≠ [] ∧
    ∀ tolerance ∈ tolerances config control iqr, tolerance < |test - control|

/-- A value is better than that of the control group. -/
def Better (config : CompareConfig K) (control test : K) : Prop :=
  (config.higherIsBetter = some true ∧ control < test) ∨
    (config.higherIsBetter = some false ∧ test < control)

instance : Decidable (Better config control test) := inferInstanceAs (Decidable (_ ∨ _))

/-- A value is worse than that of the control group. -/
def Worse (config : CompareConfig K) (control test : K) : Prop :=
  (config.higherIsBetter = some true ∧ test < control) ∨
    (config.higherIsBetter = some false ∧ control < test)

/-- A label says what is the case. -/
structure LabelSound (config : CompareConfig K) (controlExists : Bool) (control test : K)
    (iqr : Option K) (label : AdaptLabel) : Prop where
  /-- An increase is one. -/
  increase : label = .increase ∨ label = .partialIncrease → control < test
  /-- A decrease is one. -/
  decrease : label = .decrease ∨ label = .partialDecrease → test < control
  /-- A regression is for the worse. -/
  regression : label = .regression ∨ label = .partialRegression → Worse config control test
  /-- An improvement is for the better. -/
  improvement : label = .improvement ∨ label = .partialImprovement → Better config control test
  /-- Equal values do not differ. -/
  equal : test = control → label.isDifference = false
  /-- The label is full if the metric is compared and its value farther away than any
      threshold allows. -/
  full : label.isFull ↔
    controlExists ∧ config.ignore.getD false = false ∧ ExceedsTolerances config control test iqr

/-! ## What a label says -/

/-- A full difference is a partial one. -/
theorem partialDifference_of_allDifference {checks : ThresholdChecks}
    (h : checks.allDifference) : checks.partialDifference := by
  rw [ThresholdChecks.allDifference, Bool.and_eq_true, Bool.and_eq_true] at h
  rw [ThresholdChecks.partialDifference, h.1.1]
  rfl

section Labels

variable {checks : ThresholdChecks}

omit [Field K] in
/-- A metric that is not compared has a label of its own. -/
theorem label_conclusionOf_of_not_compared {controlExists : Bool}
    (h : ¬(controlExists ∧ config.ignore.getD false = false)) :
    (conclusionOf config controlExists (some test) (some control) checks).label = .incomparable ∨
      (conclusionOf config controlExists (some test) (some control) checks).label = .ignored := by
  dsimp only [conclusionOf]
  cases controlExists with
  | false => exact .inl rfl
  | true =>
    cases hignore : config.ignore.getD false with
    | true => exact .inr rfl
    | false => exact absurd ⟨rfl, hignore⟩ h

omit [Field K] in
/-- A metric that is compared has the label of a full difference, of a partial one, or of
    none; without a classification an increase is told from a decrease, and with one an
    improvement from a regression. -/
theorem label_conclusionOf (hignore : config.ignore.getD false = false) :
    (conclusionOf config true (some test) (some control) checks).label =
      if checks.allDifference then
        match config.higherIsBetter with
        | none => if control < test then .increase else .decrease
        | some _ => if Better config control test then .improvement else .regression
      else if checks.partialDifference then
        match config.higherIsBetter with
        | none => if control < test then .partialIncrease else .partialDecrease
        | some _ => if Better config control test then .partialImprovement else .partialRegression
      else .noDifference := by
  dsimp only [conclusionOf]
  rw [hignore]
  rcases h : config.higherIsBetter with - | - | - <;> simp [Better, h]

omit [Field K] in
/-- The label is full if every check that applies finds a difference. -/
theorem isFull_conclusionOf (hignore : config.ignore.getD false = false) :
    (conclusionOf config true (some test) (some control) checks).label.isFull =
      checks.allDifference := by
  rw [label_conclusionOf hignore]
  cases checks.allDifference <;> cases checks.partialDifference <;>
    cases config.higherIsBetter <;> simp only [reduceIte, Bool.false_eq_true] <;>
    first | rfl | (split <;> rfl)

omit [Field K] in
/-- The label is that of a difference if some check finds one. -/
theorem isDifference_conclusionOf (hignore : config.ignore.getD false = false) :
    (conclusionOf config true (some test) (some control) checks).label.isDifference =
      checks.partialDifference := by
  have hsome : checks.allDifference → checks.partialDifference :=
    partialDifference_of_allDifference
  rw [label_conclusionOf hignore]
  cases hall : checks.allDifference with
  | true =>
    rw [hsome hall]
    cases config.higherIsBetter <;> simp only [reduceIte] <;> split <;> rfl
  | false =>
    cases checks.partialDifference <;> cases config.higherIsBetter <;>
      simp only [reduceIte, Bool.false_eq_true] <;> first | rfl | (split <;> rfl)

/-- A metric that is compared has a label that says what is the case if equal values do
    not differ, and differences are full where the tolerances are exceeded. -/
theorem labelSound_iff_checks (hignore : config.ignore.getD false = false) :
    LabelSound config true control test iqr
        (conclusionOf config true (some test) (some control) checks).label ↔
      (test = control → checks.partialDifference = false) ∧
        (checks.allDifference ↔ ExceedsTolerances config control test iqr) := by
  have hfull : (conclusionOf config true (some test) (some control) checks).label.isFull =
      checks.allDifference := isFull_conclusionOf hignore
  have hdifference :
      (conclusionOf config true (some test) (some control) checks).label.isDifference =
        checks.partialDifference := isDifference_conclusionOf hignore
  constructor
  · intro h
    have hexceeds := h.full
    rw [hfull] at hexceeds
    refine ⟨fun heq => hdifference ▸ h.equal heq, ?_⟩
    simpa [hignore] using hexceeds
  · rintro ⟨hequal, hexceeds⟩
    -- Where the label is that of a difference, the values are not equal.
    have hne : (conclusionOf config true (some test) (some control) checks).label.isDifference →
        test ≠ control := by
      intro h heq
      rw [hdifference, hequal heq] at h
      exact Bool.false_ne_true h
    refine {
      increase := ?_
      decrease := ?_
      regression := ?_
      improvement := ?_
      equal := fun heq => hdifference.trans (hequal heq)
      full := by rw [hfull, hexceeds]; simp [hignore] }
    all_goals
      intro hlabel
      have := hne (by rcases hlabel with h | h <;> rw [h] <;> rfl)
      rw [label_conclusionOf hignore] at hlabel
      rcases hbetter : config.higherIsBetter with - | - | - <;>
        simp only [hbetter, Better, Worse] at hlabel ⊢ <;> grind

end Labels

/-! ## The bands -/

section Bands

variable [IsStrictOrderedRing K]

/-- A value lies outside a band if it is farther away than half its width, which is
    negative if the bounds have changed places. -/
theorem outside_iff {distance : K} :
    outside test (control - distance) (control + distance) ↔ distance < |test - control| := by
  have hupper : control + distance < test ↔ distance < test - control :=
    lt_sub_iff_add_lt'.symm
  have hlower : test < control - distance ↔ distance < -(test - control) := by
    rw [neg_sub, lt_sub_comm]
  rw [outside, decide_eq_true_eq, lt_abs, hupper, hlower]

/-- The band of the share is as wide as the share of the control value. -/
theorem outside_pct {threshold : K} :
    outside test (control * (1 - threshold)) (control * (1 + threshold)) ↔
      threshold * control < |test - control| := by
  rw [← outside_iff]
  ring_nf

/-- All thresholds are exceeded if the value is farther away than the share of the
    control value, and than the others allow. -/
theorem allDifference_iff_distance :
    (thresholdChecks config true (some test) (some control) iqr).allDifference ↔
      (∃ threshold ∈ config.percentageThreshold, threshold * control < |test - control|) ∧
      (∀ range ∈ iqr, range ≠ 0 → ∃ threshold ∈ config.iqrThreshold,
        threshold * range < |test - control|) ∧
      ∀ threshold ∈ config.absoluteThreshold, threshold < |test - control| := by
  rw [allDifference_iff]
  simp only [outside_pct, outside_iff, mul_comm]

/-- Some threshold is exceeded if the value is farther away than it allows. -/
theorem partialDifference_iff_distance :
    (thresholdChecks config true (some test) (some control) iqr).partialDifference ↔
      (∃ threshold ∈ config.percentageThreshold, threshold * control < |test - control|) ∨
      (∃ range ∈ iqr, range ≠ 0 ∧ ∃ threshold ∈ config.iqrThreshold,
        threshold * range < |test - control|) ∨
      ∃ threshold ∈ config.absoluteThreshold, threshold < |test - control| := by
  rw [thresholdChecks, ThresholdChecks.partialDifference, Bool.or_eq_true, Bool.or_eq_true,
    or_assoc]
  refine or_congr ?_ (or_congr ?_ ?_)
  · cases config.percentageThreshold <;> simp [outside_pct]
  · cases iqr with
    | none => simp
    | some range =>
      by_cases hrange : range = 0
      · simp [Option.filter_some, hrange]
      · cases config.iqrThreshold <;>
          simp [Option.filter_some, hrange, outside_iff, mul_comm]
  · cases config.absoluteThreshold <;> simp

/-- The share of a negative control value makes a band whose bounds change places. -/
def BandInverted (config : CompareConfig K) (control : K) : Prop :=
  control < 0 ∧ ∃ threshold ∈ config.percentageThreshold, 0 < threshold

/-- Where the thresholds are not negative, equal values differ only by an inverted band. -/
theorem partialDifference_self
    (hpct : ∀ threshold ∈ config.percentageThreshold, 0 ≤ threshold)
    (hiqrThreshold : ∀ threshold ∈ config.iqrThreshold, 0 ≤ threshold)
    (habs : ∀ threshold ∈ config.absoluteThreshold, 0 ≤ threshold)
    (hiqr : ∀ range ∈ iqr, 0 ≤ range) :
    (thresholdChecks config true (some control) (some control) iqr).partialDifference ↔
      BandInverted config control := by
  rw [partialDifference_iff_distance, sub_self, abs_zero, BandInverted]
  have hpctInverted : (∃ threshold ∈ config.percentageThreshold, threshold * control < 0) ↔
      control < 0 ∧ ∃ threshold ∈ config.percentageThreshold, 0 < threshold := by
    constructor
    · rintro ⟨threshold, hthreshold, hneg⟩
      have hcontrol : control < 0 := neg_of_mul_neg_right hneg (hpct threshold hthreshold)
      exact ⟨hcontrol, threshold, hthreshold, pos_of_mul_neg_left hneg hcontrol.le⟩
    · rintro ⟨hcontrol, threshold, hthreshold, hpos⟩
      exact ⟨threshold, hthreshold, mul_neg_of_pos_of_neg hpos hcontrol⟩
  have hnone : ¬((∃ range ∈ iqr, range ≠ 0 ∧ ∃ threshold ∈ config.iqrThreshold,
      threshold * range < 0) ∨ ∃ threshold ∈ config.absoluteThreshold, threshold < 0) := by
    rintro (⟨range, hrange, -, threshold, hthreshold, hneg⟩ | ⟨threshold, hthreshold, hneg⟩)
    · exact hneg.not_ge (mul_nonneg (hiqrThreshold threshold hthreshold) (hiqr range hrange))
    · exact hneg.not_ge (habs threshold hthreshold)
  rw [or_iff_left hnone, hpctInverted]

/-- The thresholds, as they are configured, tell whether a value differs. -/
structure ThresholdsApply (config : CompareConfig K) (control test : K) (iqr : Option K) :
    Prop where
  /-- If the band of the share is inverted, the value is not that of the control group,
      and farther away than the share, or not as far as another threshold asks for. -/
  inverted : BandInverted config control →
    test ≠ control ∧
      ((∀ threshold ∈ config.percentageThreshold, threshold * |control| < |test - control|) ∨
      (∃ range ∈ iqr, range ≠ 0 ∧
        ∀ threshold ∈ config.iqrThreshold, |test - control| ≤ threshold * range) ∨
      ∃ threshold ∈ config.absoluteThreshold, |test - control| ≤ threshold)
  /-- If the value is farther away than any threshold allows, the share is configured,
      and the multiple of the range too unless there is none or it is zero. -/
  configured : ExceedsTolerances config control test iqr →
    config.percentageThreshold ≠ none ∧
      ∀ range ∈ iqr, range ≠ 0 → config.iqrThreshold ≠ none

/-- The tolerances that a value exceeds. -/
theorem exceedsTolerances_iff :
    ExceedsTolerances config control test iqr ↔
      (config.percentageThreshold ≠ none ∨
        (∃ range ∈ iqr, range ≠ 0 ∧ config.iqrThreshold ≠ none) ∨
        config.absoluteThreshold ≠ none) ∧
      (∀ threshold ∈ config.percentageThreshold, threshold * |control| < |test - control|) ∧
      (∀ range ∈ iqr, range ≠ 0 → ∀ threshold ∈ config.iqrThreshold,
        threshold * range < |test - control|) ∧
      ∀ threshold ∈ config.absoluteThreshold, threshold < |test - control| := by
  rw [ExceedsTolerances, tolerances]
  rcases iqr with - | range
  · cases config.percentageThreshold <;> cases config.iqrThreshold <;>
      cases config.absoluteThreshold <;> simp
  · by_cases hrange : range = 0
    · cases config.percentageThreshold <;> cases config.iqrThreshold <;>
        cases config.absoluteThreshold <;> simp [Option.filter_some, hrange]
    · cases config.percentageThreshold <;> cases config.iqrThreshold <;>
        cases config.absoluteThreshold <;> simp [Option.filter_some, hrange]

/-- A full label agrees with the tolerances if and only if the thresholds that are
    configured tell a difference, the value being that of the control group where an
    inverted band is all that tells it. -/
theorem allDifference_iff_exceedsTolerances
    (hpct : ∀ threshold ∈ config.percentageThreshold, 0 ≤ threshold) :
    ((thresholdChecks config true (some test) (some control) iqr).allDifference ↔
        ExceedsTolerances config control test iqr) ↔
      (BandInverted config control →
        (∀ threshold ∈ config.percentageThreshold, threshold * |control| < |test - control|) ∨
        (∃ range ∈ iqr, range ≠ 0 ∧
          ∀ threshold ∈ config.iqrThreshold, |test - control| ≤ threshold * range) ∨
        ∃ threshold ∈ config.absoluteThreshold, |test - control| ≤ threshold) ∧
      (ExceedsTolerances config control test iqr → config.percentageThreshold ≠ none ∧
        ∀ range ∈ iqr, range ≠ 0 → config.iqrThreshold ≠ none) := by
  -- The share of the control value is exceeded as the code has it where the tolerance is,
  -- and around a negative control value.
  have hshare : ∀ threshold ∈ config.percentageThreshold,
      (threshold * control < |test - control| ↔
        threshold * |control| < |test - control| ∨ BandInverted config control) := by
    intro threshold hthreshold
    have hle : threshold * control ≤ threshold * |control| :=
      mul_le_mul_of_nonneg_left (le_abs_self control) (hpct threshold hthreshold)
    constructor
    · intro h
      by_contra hnot
      rw [not_or, not_lt] at hnot
      have hlt : threshold * control < threshold * |control| := h.trans_le hnot.1
      rcases lt_or_ge control 0 with hneg | hnonneg
      · refine hnot.2 ⟨hneg, threshold, hthreshold, (hpct threshold hthreshold).lt_of_ne ?_⟩
        rintro rfl
        simp at hlt
      · rw [abs_of_nonneg hnonneg] at hlt
        exact lt_irrefl _ hlt
    · rintro (h | ⟨hneg, threshold', hthreshold', hpos⟩)
      · exact hle.trans_lt h
      · obtain rfl := Option.mem_unique hthreshold hthreshold'
        exact (mul_neg_of_pos_of_neg hpos hneg).trans_le (abs_nonneg _)
  have hinverted : BandInverted config control → config.percentageThreshold ≠ none := by
    rintro ⟨-, threshold, hthreshold, -⟩ hnone
    rw [hnone] at hthreshold
    cases hthreshold
  rw [allDifference_iff_distance, exceedsTolerances_iff]
  generalize |test - control| = distance at hshare ⊢
  have hrange : (∀ range ∈ iqr, range ≠ 0 → ∃ threshold ∈ config.iqrThreshold,
      threshold * range < distance) ↔
      (∀ range ∈ iqr, range ≠ 0 → config.iqrThreshold ≠ none) ∧
        ∀ range ∈ iqr, range ≠ 0 → ∀ threshold ∈ config.iqrThreshold,
          threshold * range < distance := by
    cases config.iqrThreshold <;> simp
  have hrange' : (∃ range ∈ iqr, range ≠ 0 ∧ ∀ threshold ∈ config.iqrThreshold,
      distance ≤ threshold * range) ↔
      ¬∀ range ∈ iqr, range ≠ 0 → ∃ threshold ∈ config.iqrThreshold,
        threshold * range < distance := by
    push Not
    rfl
  have habs : (∃ threshold ∈ config.absoluteThreshold, distance ≤ threshold) ↔
      ¬∀ threshold ∈ config.absoluteThreshold, threshold < distance := by
    push Not
    rfl
  rw [hrange', habs, hrange]
  cases hp : config.percentageThreshold with
  | none =>
    rw [hp] at hinverted
    simp
  | some pct =>
    rw [hp] at hshare
    have hpct' := hshare pct rfl
    simp only [Option.mem_some_iff, forall_eq', exists_eq_left', hpct', ne_eq, reduceCtorEq,
      not_false_eq_true, true_or, true_and]
    generalize (BandInverted config control) = inverted
    generalize (pct * |control| < distance) = share
    generalize (∀ range ∈ iqr, ¬range = 0 → ¬config.iqrThreshold = none) = configured
    generalize (∀ range ∈ iqr, ¬range = 0 → ∀ threshold ∈ config.iqrThreshold,
      threshold * range < distance) = ranges
    generalize (∀ threshold ∈ config.absoluteThreshold, threshold < distance) = differences
    clear * -
    grind

end Bands

/-- A share of a negative control value. -/
def negativeShare : CompareConfig ℚ := { percentageThreshold := some (1 / 10) }

end Perfana
