import Mathlib.Analysis.SpecialFunctions.Pow.Real
import SentimentTree.Proofs.Aggregation.Validity

/-! # The stretch in exact arithmetic

Over an ordered field the stretch is what its formula promises. Above the middle it is a power of the
distance, and what it does below the middle is the mirror image of that, so whatever a power function
does on the unit interval is told once, for the upper half. A stretch that keeps the order of values
keeps the order of buckets, whose exact means are in the unit interval.
-/

namespace SentimentTree

open Numeric Set

variable {K : Type} [Field K] [LinearOrder K]

/-- Exact arithmetic with a given power function. -/
def Numeric.Arithmetic.exact (power : K → K → K) : Arithmetic K where
  one := 1
  two := 2
  half := 1 / 2
  add := (· + ·)
  sub := (· - ·)
  mul := (· * ·)
  div := (· / ·)
  abs x := |x|
  sign x := if x < 0 then -1 else if 0 < x then 1 else x
  isZero x := decide (x = 0)
  power := power

/-- Under positive exponents the power function keeps the ends of the unit interval and is strictly
increasing between them. -/
structure StretchesUnit (power : K → K → K) : Prop where
  zero : ∀ exponent, 0 < exponent → power 0 exponent = 0
  one : ∀ exponent, 0 < exponent → power 1 exponent = 1
  increasing : ∀ exponent, 0 < exponent → StrictMonoOn (power · exponent) (Icc 0 1)

/-- On the unit interval the power under the reciprocal of an exponent takes back the power under the
exponent. -/
def TakesBack (power : K → K → K) : Prop :=
  ∀ exponent, 0 < exponent → ∀ base ∈ Icc (0 : K) 1,
    power (power base exponent) (1 / exponent) = base

variable [IsStrictOrderedRing K] {power : K → K → K} {value factor exponent base : K}

private theorem StretchesUnit.mapsTo (stretches : StretchesUnit power) (positive : 0 < exponent) :
    MapsTo (power · exponent) (Icc 0 1) (Icc 0 1) := by
  intro base unit
  have increasing := (stretches.increasing exponent positive).monotoneOn
  constructor
  · rw [← stretches.zero exponent positive]
    exact increasing (left_mem_Icc.mpr zero_le_one) unit unit.1
  · rw [← stretches.one exponent positive]
    exact increasing unit (right_mem_Icc.mpr zero_le_one) unit.2

/-! ## Both halves of the scale -/

/-- The distance from the middle, in parts of half the scale. -/
private theorem distance_mem (upper : value ∈ Icc (1 / 2 : K) 1) :
    2 * value - 1 ∈ Icc (0 : K) 1 := by
  have least : 1 ≤ 2 * value := (div_le_iff₀' two_pos).mp upper.1
  have most : 2 * value ≤ 1 + 1 := by
    rw [one_add_one_eq_two]
    exact mul_le_of_le_one_right zero_le_two upper.2
  exact ⟨sub_nonneg.mpr least, sub_le_iff_le_add.mpr most⟩

/-- A value of the lower half is the mirror image of one of the upper half. -/
private theorem mirrored_mem (lower : value ∈ Icc (0 : K) (1 / 2)) :
    1 - value ∈ Icc (1 / 2 : K) 1 := by
  refine ⟨le_sub_comm.mp ?_, sub_le_self 1 lower.1⟩
  rw [sub_half]
  exact lower.2

omit [IsStrictOrderedRing K] in
@[simp] theorem contrast_exact_half : contrast (.exact power) (1 / 2) factor = 1 / 2 := by
  simp [contrast, Arithmetic.exact]

theorem contrast_exact_of_half_lt (high : 1 / 2 < value) :
    contrast (.exact power) value factor = (1 + power (2 * value - 1) (1 / factor)) / 2 := by
  have above : 0 < value - 1 / 2 := sub_pos.mpr high
  simp only [contrast, Arithmetic.exact, above.ne', decide_false, Bool.false_eq_true, if_false,
    not_lt_of_gt above, above, if_true, abs_of_pos above]
  rw [show (value - 1 / 2) * 2 = 2 * value - 1 by ring]
  ring

theorem contrast_exact_of_lt_half (low : value < 1 / 2) :
    contrast (.exact power) value factor = (1 - power (1 - 2 * value) (1 / factor)) / 2 := by
  have below : value - 1 / 2 < 0 := sub_neg.mpr low
  simp only [contrast, Arithmetic.exact, below.ne, decide_false, Bool.false_eq_true, if_false,
    below, if_true, abs_of_neg below]
  rw [show -(value - 1 / 2) * 2 = 1 - 2 * value by ring]
  ring

/-- The stretch of the mirror image is the mirror image of the stretch. -/
theorem contrast_exact_one_sub (power : K → K → K) (value factor : K) :
    contrast (.exact power) (1 - value) factor = 1 - contrast (.exact power) value factor := by
  rcases lt_trichotomy value (1 / 2) with low | rfl | high
  · have high : 1 / 2 < 1 - value := by rwa [lt_sub_comm, sub_half]
    rw [contrast_exact_of_half_lt high, contrast_exact_of_lt_half low,
      show 2 * (1 - value) - 1 = 1 - 2 * value by ring]
    ring
  · rw [sub_half, contrast_exact_half, sub_half]
  · have low : 1 - value < 1 / 2 := by rwa [sub_lt_comm, sub_half]
    rw [contrast_exact_of_lt_half low, contrast_exact_of_half_lt high,
      show 1 - 2 * (1 - value) = 2 * value - 1 by ring]
    ring

section Upper

variable (stretches : StretchesUnit power) (positive : 0 < factor)

include stretches positive

/-- From the middle on the stretch is a power of the distance. -/
theorem contrast_exact_of_half_le (high : 1 / 2 ≤ value) :
    contrast (.exact power) value factor = (1 + power (2 * value - 1) (1 / factor)) / 2 := by
  rcases high.eq_or_lt with rfl | above
  · rw [contrast_exact_half, show 2 * (1 / 2 : K) - 1 = 0 by ring,
      stretches.zero _ (one_div_pos.mpr positive), add_zero]
  · exact contrast_exact_of_half_lt above

theorem contrast_exact_mapsTo_upper :
    MapsTo (contrast (.exact power) · factor) (Icc (1 / 2) 1) (Icc (1 / 2) 1) := by
  intro value unit
  obtain ⟨least, most⟩ := stretches.mapsTo (one_div_pos.mpr positive) (distance_mem unit)
  dsimp only
  rw [contrast_exact_of_half_le stretches positive unit.1]
  exact ⟨by linarith only [least], by linarith only [most]⟩

theorem contrast_exact_strictMonoOn_upper :
    StrictMonoOn (contrast (.exact power) · factor) (Icc (1 / 2) 1) := by
  intro a unit b unit' less
  dsimp only
  rw [contrast_exact_of_half_le stretches positive unit.1,
    contrast_exact_of_half_le stretches positive unit'.1]
  have powers := stretches.increasing (1 / factor) (one_div_pos.mpr positive)
    (distance_mem unit) (distance_mem unit') (by linarith only [less])
  dsimp only at powers
  linarith

theorem contrast_exact_inverse_upper (back : TakesBack power) (unit : value ∈ Icc (1 / 2 : K) 1) :
    contrast (.exact power) (contrast (.exact power) value factor) (1 / factor) = value := by
  have upper : contrast (.exact power) value factor ∈ Icc (1 / 2 : K) 1 :=
    contrast_exact_mapsTo_upper stretches positive unit
  have inverse := back (1 / factor) (one_div_pos.mpr positive) _ (distance_mem unit)
  rw [contrast_exact_of_half_le stretches (one_div_pos.mpr positive) upper.1,
    contrast_exact_of_half_le stretches positive unit.1,
    show 2 * ((1 + power (2 * value - 1) (1 / factor)) / 2) - 1 =
      power (2 * value - 1) (1 / factor) by ring, inverse]
  ring

/-! ## The whole scale -/

theorem contrast_exact_one : contrast (.exact power) 1 factor = 1 := by
  have half_le : (1 / 2 : K) ≤ 1 := one_half_lt_one.le
  rw [contrast_exact_of_half_le stretches positive half_le, show 2 * (1 : K) - 1 = 1 by ring,
    stretches.one _ (one_div_pos.mpr positive)]
  ring

theorem contrast_exact_zero : contrast (.exact power) 0 factor = 0 := by
  have mirrored := contrast_exact_one_sub power 1 factor
  rwa [sub_self, contrast_exact_one stretches positive, sub_self] at mirrored

theorem contrast_exact_mapsTo :
    MapsTo (contrast (.exact power) · factor) (Icc 0 1) (Icc 0 1) := by
  intro value unit
  rcases le_total (1 / 2) value with high | low
  · have upper := contrast_exact_mapsTo_upper stretches positive ⟨high, unit.2⟩
    exact ⟨by linarith [upper.1], upper.2⟩
  · have upper := contrast_exact_mapsTo_upper stretches positive (mirrored_mem ⟨unit.1, low⟩)
    dsimp only at upper ⊢
    rw [contrast_exact_one_sub] at upper
    exact ⟨by linarith [upper.2], by linarith [upper.1]⟩

theorem contrast_exact_strictMonoOn :
    StrictMonoOn (contrast (.exact power) · factor) (Icc 0 1) := by
  have upper := contrast_exact_strictMonoOn_upper stretches positive
  have lower : StrictMonoOn (contrast (.exact power) · factor) (Icc 0 (1 / 2)) := by
    intro a unit b unit' less
    have mirrored := upper (mirrored_mem unit') (mirrored_mem unit) (by linarith only [less])
    dsimp only at mirrored ⊢
    rw [contrast_exact_one_sub, contrast_exact_one_sub] at mirrored
    linarith
  have middle : (1 / 2 : K) ∈ Icc (0 : K) 1 := ⟨one_half_pos.le, one_half_lt_one.le⟩
  rw [← Icc_union_Icc_eq_Icc middle.1 middle.2]
  exact lower.union upper (isGreatest_Icc middle.1) (isLeast_Icc middle.2)

theorem contrast_exact_inverse (back : TakesBack power) (unit : value ∈ Icc (0 : K) 1) :
    contrast (.exact power) (contrast (.exact power) value factor) (1 / factor) = value := by
  rcases le_total (1 / 2) value with high | low
  · exact contrast_exact_inverse_upper stretches positive back ⟨high, unit.2⟩
  · have mirrored := contrast_exact_inverse_upper stretches positive back
      (mirrored_mem ⟨unit.1, low⟩)
    rw [contrast_exact_one_sub, contrast_exact_one_sub] at mirrored
    linarith

end Upper

/-! ## Buckets in exact arithmetic -/

/-- The rational value of a number; one that has none counts as zero. -/
def exactValue (x : Float) : ℚ :=
  (extent? x).elim 0 fun extent => (extent.unbotD 0).untopD 0

private theorem exactValue_eq {x : Float} {q : ℚ} (known : HasValue x q) : exactValue x = q := by
  rw [exactValue, known]
  rfl

/-- The exact mean of the scores of messages, kept in the unit interval. -/
def exactMean (members : List ScoredMessage) : ℚ :=
  max 0 (min 1 ((members.map fun member => exactValue member.score).foldl (· + ·) 0 /
    members.length))

namespace Bucket

/-- The exact mean of the messages between the ends of the bucket. -/
def exactRaw (messages : List ScoredMessage) (bucket : Bucket) : ℚ :=
  exactMean (messagesBetween bucket.start bucket.stop messages)

/-- The exact stretch of the exact mean. -/
def exactContrasted (power : K → K → K) (settings : AggregationSettings)
    (messages : List ScoredMessage) (bucket : Bucket) : K :=
  contrast (.exact power) (bucket.exactRaw messages : K) (exactValue settings.contrastFactor : K)

end Bucket

/-- A mean of scores of the unit interval is in it by itself. -/
theorem exactMean_eq {members : List ScoredMessage}
    (units : ∀ member ∈ members, inUnit member.score = true) :
    exactMean members =
      (members.map fun member => exactValue member.score).sum / members.length := by
  have scores : ∀ score ∈ members.map fun member => exactValue member.score,
      0 ≤ score ∧ score ≤ 1 := by
    intro score member
    obtain ⟨message, inside, rfl⟩ := List.mem_map.mp member
    obtain ⟨v, known, unit⟩ := inUnit_iff.mp (units message inside)
    rwa [exactValue_eq known]
  have low := List.sum_nonneg fun score member => (scores score member).1
  have high := List.sum_le_card_nsmul _ 1 fun score member => (scores score member).2
  rw [List.length_map, nsmul_eq_mul, mul_one] at high
  rw [exactMean, ← List.sum_eq_foldl, min_eq_right (div_le_one_of_le₀ high (Nat.cast_nonneg _)),
    max_eq_right (div_nonneg low (Nat.cast_nonneg _))]

private theorem exactMean_unit (members : List ScoredMessage) :
    (exactMean members : K) ∈ Icc (0 : K) 1 := by
  constructor
  · exact_mod_cast le_max_left 0 _
  · exact_mod_cast max_le zero_le_one (min_le_left 1 _)

variable {settings : AggregationSettings}

private theorem exactValue_factor_pos (accepted : settings.validate = .ok ()) :
    (0 : K) < exactValue settings.contrastFactor := by
  obtain ⟨v, known, positive⟩ := isPositive_iff.mp (settings.validate_eq_ok_iff.mp accepted).1
  rw [exactValue_eq known]
  exact_mod_cast positive

/-- Buckets are in order by their stretched means as they are by their means. -/
theorem exactContrasted_le_iff (stretches : StretchesUnit power)
    (accepted : settings.validate = .ok ()) (messages : List ScoredMessage) (a b : Bucket) :
    a.exactContrasted power settings messages ≤ b.exactContrasted power settings messages ↔
      a.exactRaw messages ≤ b.exactRaw messages := by
  have increasing := contrast_exact_strictMonoOn stretches (exactValue_factor_pos accepted)
  exact (increasing.le_iff_le (exactMean_unit _) (exactMean_unit _)).trans Rat.cast_le

/-- In exact arithmetic, with a power function that is strictly increasing between the ends of the
unit interval and keeps these, the stretch by a positive factor maps the unit interval into itself,
is strictly increasing there, keeps both ends and the middle, and of mirror images makes mirror
images. If powers are taken back by those under the reciprocal exponent, the stretch is taken back by
the one under the reciprocal factor. So the buckets of an aggregated tree are in the same order by
their means, which are those of the scores, as by their stretched means. -/
theorem contrast_exact_order (stretches : StretchesUnit power) :
    (∀ factor, 0 < factor →
      MapsTo (contrast (.exact power) · factor) (Icc 0 1) (Icc 0 1) ∧
      StrictMonoOn (contrast (.exact power) · factor) (Icc 0 1) ∧
      contrast (.exact power) 0 factor = 0 ∧
      contrast (.exact power) (1 / 2) factor = 1 / 2 ∧
      contrast (.exact power) 1 factor = 1 ∧
      ∀ value, contrast (.exact power) (1 - value) factor =
        1 - contrast (.exact power) value factor) ∧
    (TakesBack power → ∀ factor, 0 < factor → ∀ value ∈ Icc (0 : K) 1,
      contrast (.exact power) (contrast (.exact power) value factor) (1 / factor) = value) ∧
    ∀ (floatPower : Float → Float → Float) (settings : AggregationSettings)
      (messages : List ScoredMessage) (tree : Hierarchy),
      aggregate floatPower settings messages = .ok tree →
      (∀ bucket ∈ tree.buckets, bucket.exactRaw messages =
        ((messagesBetween bucket.start bucket.stop messages).map fun message =>
          exactValue message.score).sum /
        (messagesBetween bucket.start bucket.stop messages).length) ∧
      (∀ a ∈ tree.buckets, ∀ b ∈ tree.buckets,
        (a.exactContrasted power settings messages ≤ b.exactContrasted power settings messages ↔
          a.exactRaw messages ≤ b.exactRaw messages)) ∧
      ∀ order : List Bucket, order.Perm tree.buckets →
        (order.Pairwise (fun a b => a.exactContrasted power settings messages ≤
            b.exactContrasted power settings messages) ↔
          order.Pairwise fun a b => a.exactRaw messages ≤ b.exactRaw messages) := by
  refine ⟨fun factor positive => ⟨contrast_exact_mapsTo stretches positive,
    contrast_exact_strictMonoOn stretches positive, contrast_exact_zero stretches positive,
    contrast_exact_half, contrast_exact_one stretches positive,
    fun value => contrast_exact_one_sub power value factor⟩,
    fun back factor positive value => contrast_exact_inverse stretches positive back, ?_⟩
  intro floatPower settings messages tree aggregated
  obtain ⟨accepted, totals, collected, -⟩ := aggregate_eq_ok_iff.mp aggregated
  have units := collect_inUnit collected
  have same := exactContrasted_le_iff stretches accepted messages
  refine ⟨fun bucket _ => exactMean_eq fun member inside =>
    units member (mem_messagesBetween.mp inside).1, fun a _ b _ => same a b, fun order _ => ?_⟩
  simp only [same]

theorem stretchesUnit_rpow : StretchesUnit fun base exponent : ℝ => base ^ exponent where
  zero _ positive := Real.zero_rpow positive.ne'
  one exponent _ := Real.one_rpow exponent
  increasing _ positive _ unit _ _ less := Real.rpow_lt_rpow unit.1 less positive

theorem takesBack_rpow : TakesBack fun base exponent : ℝ => base ^ exponent := by
  intro exponent positive base unit
  dsimp only
  rw [one_div, Real.rpow_rpow_inv unit.1 positive.ne']

/-- The stretch by two is taken back by the stretch by one half, and the two weeks are in the same
order by their means as by their stretched means. -/
theorem contrast_exact_order_rpow :
    contrast (.exact fun base exponent : ℝ => base ^ exponent)
      (contrast (.exact fun base exponent : ℝ => base ^ exponent) (5 / 8) 2) (1 / 2) = 5 / 8 ∧
    contrast (.exact fun base exponent : ℝ => base ^ exponent) (5 / 8) 2 <
      contrast (.exact fun base exponent : ℝ => base ^ exponent) (3 / 4) 2 ∧
    ∃ tree, aggregate (fun base _ => base) { contrastFactor := 2.0 } twoWeeks = .ok tree ∧
      tree.bucketCount = 2 ∧ ∀ a ∈ tree.buckets, ∀ b ∈ tree.buckets,
        (a.exactContrasted (fun base exponent : ℝ => base ^ exponent) { contrastFactor := 2.0 }
            twoWeeks ≤ b.exactContrasted (fun base exponent : ℝ => base ^ exponent)
            { contrastFactor := 2.0 } twoWeeks ↔
          a.exactRaw twoWeeks ≤ b.exactRaw twoWeeks) := by
  have grown : ∃ tree, aggregate (fun base _ => base) { contrastFactor := 2.0 } twoWeeks = .ok tree ∧
      tree.bucketCount = 2 := ⟨_, rfl, by decide +kernel⟩
  obtain ⟨tree, aggregated, count⟩ := grown
  obtain ⟨shape, inverse, ordered⟩ := contrast_exact_order stretchesUnit_rpow
  obtain ⟨-, increasing, -⟩ := shape 2 two_pos
  exact ⟨inverse takesBack_rpow 2 two_pos _ ⟨by norm_num, by norm_num⟩,
    increasing ⟨by norm_num, by norm_num⟩ ⟨by norm_num, by norm_num⟩ (by norm_num),
    tree, aggregated, count, (ordered _ _ _ _ aggregated).2.1⟩

end SentimentTree
