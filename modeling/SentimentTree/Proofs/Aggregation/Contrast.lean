import SentimentTree.Aggregation.Contrast
import SentimentTree.Aggregation.Settings
import SentimentTree.Hierarchy.Validity
import SentimentTree.Proofs.Numeric.UnitInterval

/-! # Contrasted means and trunk heights stay within bounds

The stretch moves a value of the unit interval within it, whatever power function raises a base of
the unit interval to a positive exponent within it. The trunk's height lies within its bounds for
every budget, because the bounds are applied last.
-/

namespace SentimentTree

open Numeric

/-- The power function keeps bases of the unit interval there under positive exponents. -/
def KeepsUnit (power : Float → Float → Float) : Prop :=
  ∀ base exponent, inUnit base = true → 0.0 < exponent → inUnit (power base exponent) = true

variable {power : Float → Float → Float} {value factor least greatest : Float}

private theorem hasValue_minus_half : HasValue (-0.5) (-(1 / 2)) := by
  have stored : HasValue (-0.5) (-(2 ^ 52 * 2 ^ (-53 : ℤ))) := rfl
  rwa [show (2 : ℚ) ^ 52 * 2 ^ (-53 : ℤ) = 1 / 2 by norm_num] at stored

private theorem hasValue_minus_one : HasValue (-1.0) (-1) := by
  have stored : HasValue (-1.0) (-(2 ^ 52 * 2 ^ (-52 : ℤ))) := rfl
  rwa [show (2 : ℚ) ^ 52 * 2 ^ (-52 : ℤ) = 1 by norm_num] at stored

theorem isPositive_iff {x : Float} :
    AggregationSettings.isPositive x = true ↔ ∃ v, HasValue x v ∧ 0 < v := by
  rw [AggregationSettings.isPositive, Bool.and_eq_true, isFinite_iff, decide_eq_true_iff]
  constructor
  · rintro ⟨⟨v, value⟩, above⟩
    exact ⟨v, value, (hasValue_zero.lt_iff value).mp above⟩
  · rintro ⟨v, value, above⟩
    exact ⟨⟨v, value⟩, (hasValue_zero.lt_iff value).mpr above⟩

/-- The reciprocal of a positive number does not vanish, since the numbers next to zero are smaller
than the reciprocal of the greatest. -/
theorem reciprocal_pos (positive : AggregationSettings.isPositive factor = true) :
    0.0 < 1.0 / factor := by
  obtain ⟨v, value, above⟩ := isPositive_iff.mp positive
  have limit := value.fits.2
  rw [abs_of_pos above] at limit
  have tiny : HasValue (Float.ofBits 1) (1 * 2 ^ (-1074 : ℤ)) := rfl
  have below : 1 * (2 : ℚ) ^ (-1074 : ℤ) ≤ 1 / v := by
    rw [le_div_iff₀ above, one_mul]
    calc (2 : ℚ) ^ (-1074 : ℤ) * v ≤ 2 ^ (-1074 : ℤ) * (2 ^ (52 : ℤ) * 2 ^ (972 : ℤ)) :=
          mul_le_mul_of_nonneg_left (by exact_mod_cast limit.le) (by positivity)
      _ = 2 ^ (-50 : ℤ) := by
          rw [← zpow_add₀ (by norm_num), ← zpow_add₀ (by norm_num)]
          norm_num
      _ ≤ 1 := by norm_num
  exact lt_of_lt_of_le ((hasValue_zero.lt_iff tiny).mpr (by positivity))
    (((hasValue_one.div value above.ne') _ _ tiny).1 below)

private theorem signOf_eq {x : Float} {v : ℚ} (value : HasValue x v)
    (nonzero : (x == 0.0) = false) :
    signOf x = -1.0 ∨ signOf x = 1.0 := by
  unfold signOf
  split
  · exact .inl rfl
  · rename_i low
    right
    rw [if_pos]
    have different : v ≠ 0 := fun same => by
      simp [(value.beq_iff hasValue_zero).mpr same] at nonzero
    rw [value.lt_iff hasValue_zero] at low
    exact (hasValue_zero.lt_iff value).mpr (lt_of_le_of_ne (not_lt.mp low) different.symm)

/-- A number of the unit interval with a sign, halved and moved up by one half, is in the unit
interval. -/
theorem recentered_inUnit {sign x : Float} (signed : sign = -1.0 ∨ sign = 1.0)
    (unit : inUnit x = true) : inUnit (sign * x / 2.0 + 0.5) = true := by
  obtain ⟨v, value, low, high⟩ := inUnit_iff.mp unit
  have product : ∃ p, HasValue (sign * x) p ∧ -1 ≤ p ∧ p ≤ 1 := by
    rcases signed with rfl | rfl
    · exact (hasValue_minus_one.mul value).exists_value hasValue_minus_one hasValue_one
        (by linarith) (by linarith)
    · exact (hasValue_one.mul value).exists_value hasValue_minus_one hasValue_one
        (by linarith) (by linarith)
  obtain ⟨p, product, p_low, p_high⟩ := product
  obtain ⟨h, halved, h_low, h_high⟩ := (product.div hasValue_two two_ne_zero).exists_value
    hasValue_minus_half hasValue_half (by linarith) (by linarith)
  exact inUnit_iff.mpr ((halved.add hasValue_half).exists_value hasValue_zero hasValue_one
    (by linarith) (by linarith))

theorem contrast_inUnit (keeps : KeepsUnit power) (unit : inUnit value = true)
    (positive : AggregationSettings.isPositive factor = true) :
    inUnit (contrast (.floating power) value factor) = true := by
  obtain ⟨v, known, low, high⟩ := inUnit_iff.mp unit
  obtain ⟨c, centered, c_low, c_high⟩ := (known.sub hasValue_half).exists_value
    hasValue_minus_half hasValue_half (by linarith) (by linarith)
  have base : inUnit ((value - 0.5).abs * 2.0) = true := by
    have bound : |c| ≤ 1 / 2 := abs_le.mpr ⟨c_low, c_high⟩
    have nonneg := abs_nonneg c
    exact inUnit_iff.mpr ((centered.abs.mul hasValue_two).exists_value hasValue_zero hasValue_one
      (by linarith) (by linarith))
  have stretched := keeps _ _ base (reciprocal_pos positive)
  change inUnit (if (value - 0.5 == 0.0) = true then 0.5
    else signOf (value - 0.5) * power ((value - 0.5).abs * 2.0) (1.0 / factor) / 2.0 + 0.5) = true
  split
  · rfl
  · rename_i nonzero
    exact recentered_inUnit (signOf_eq centered (Bool.eq_false_iff.mpr nonzero)) stretched

/-! ## The trunk -/

variable {a b c : Float}

private theorem le_larger (defined : b.isNaN = false) : b ≤ larger a b := by
  unfold larger
  split
  · exact le_refl defined
  · rename_i known
    rw [if_neg (Bool.eq_false_iff.mp defined)]
    split
    · exact le_refl defined
    · rename_i low
      exact le_of_not_lt (Bool.eq_false_iff.mpr known) defined low

private theorem smaller_le (first : a.isNaN = false) (second : b.isNaN = false) :
    smaller a b ≤ b := by
  unfold smaller
  rw [if_neg (Bool.eq_false_iff.mp first), if_neg (Bool.eq_false_iff.mp second)]
  split
  · exact le_refl second
  · rename_i low
    exact le_of_not_lt second first low

private theorem le_smaller (first : c ≤ a) (second : c ≤ b) : c ≤ smaller a b := by
  unfold smaller
  split
  · exact second
  · split
    · exact first
    · split
      · exact second
      · exact first

theorem trunkHeight_fits (fit : AggregationSettings.boundsFit least greatest = true)
    (months : UInt64) (budget : Float) :
    Hierarchy.trunkFits least greatest (trunkHeight months budget least greatest) = true := by
  simp only [AggregationSettings.boundsFit, Bool.and_eq_true, decide_eq_true_iff,
    isFinite_iff] at fit
  obtain ⟨⟨⟨⟨low, bottom⟩, high, top⟩, _⟩, ordered⟩ := fit
  have defined := not_isNaN_of_le ordered
  have raised : least ≤ larger (budget / (months.toFloat + 2.0)) least := le_larger defined.1
  have above := le_smaller raised ordered
  have below := smaller_le (not_isNaN_of_le raised).2 defined.2
  obtain ⟨v, value, _⟩ := exists_value_of_between bottom top above below
  have finite := (isFinite_iff _).mpr ⟨v, value⟩
  simp [Hierarchy.trunkFits, trunkHeight, finite, above, below]

end SentimentTree
