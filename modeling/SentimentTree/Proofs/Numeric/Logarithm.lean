import SentimentTree.Numeric.LogOnePlus
import SentimentTree.Proofs.Numeric.Magnitude

/-! # The logarithm stays finite

Each step of the logarithm of one more than a number from one to `2 ^ 64` is bounded by a power of
two, so the result is finite.
-/

namespace SentimentTree.Numeric

open Decimal

variable {x f z k correction : Float}

private theorem within_toFloat {n : ℕ} (small : n ≤ 2 ^ 12) : Within 12 n.toFloat := by
  have narrow : n < 2 ^ 53 ∧ 0 ≤ 22 := by omega
  have converted : n.toFloat = n.toUInt64.toFloat * 1.0 := by
    change Float.ofScientific n false 0 = _
    unfold Float.ofScientific
    rw [dif_pos narrow]
    rfl
  have kept : n.toUInt64.toNat = n := UInt64.toNat_ofNat_of_lt' (by rw [UInt64.size]; omega)
  have count : Within 12 n.toUInt64.toFloat := by
    refine (roundsTo_toFloat n.toUInt64).within ?_ (by norm_num)
    rw [kept, Nat.abs_cast]
    exact_mod_cast small
  rw [converted]
  exact count.mul (.of_inUnit rfl) (by norm_num)

/-- The number with an exponent field that is not an end of the range and a fraction field. -/
theorem hasValue_ofBits {field fraction : ℕ} (least : 1 ≤ field) (greatest : field ≤ 2046)
    (proper : fraction < 2 ^ 52) :
    HasValue (Float.ofBits (UInt64.ofNat (field * Nat.pow 2 52 + fraction)))
      (((2 ^ 52 + fraction : ℕ) : ℚ) * 2 ^ ((field : ℤ) - 1075)) := by
  have fits : Binary.Fits .double ⟨2 ^ 52 + fraction, (field : ℤ) - 1075⟩ := by
    refine ⟨?_, ?_, ?_, .inl (Nat.le_add_right _ _)⟩
    · change 2 ^ 52 + fraction < 2 ^ 53
      omega
    · change -1074 ≤ (field : ℤ) - 1075
      omega
    · change (field : ℤ) - 1075 ≤ 971
      omega
  have bits : Binary.bits ⟨2 ^ 52 + fraction, (field : ℤ) - 1075⟩ =
      field * Nat.pow 2 52 + fraction := by
    unfold Binary.bits
    simp only [Nat.pow_eq]
    rw [if_neg (by omega), sub_add_cancel, Int.toNat_natCast]
    omega
  have stored := hasValue_toFloat fits false
  unfold toFloat at stored
  simp only [bits] at stored
  exact stored

/-- A factor is at least a half and at most two, so it is one and a fraction. -/
private theorem exists_fraction {field fraction : ℕ} (field_le : field = 1022 ∨ field = 1023)
    (proper : fraction < 2 ^ 52) :
    ∃ v, HasValue (Float.ofBits (UInt64.ofNat (field * Nat.pow 2 52 + fraction)) - 1.0) v ∧
      -(1 / 2) ≤ v ∧ v ≤ 1 := by
  have factor := hasValue_ofBits (show 1 ≤ field by omega) (by omega) proper
  have mantissa : ((2 ^ 52 + fraction : ℕ) : ℚ) < 2 ^ 53 := by
    exact_mod_cast (by omega : 2 ^ 52 + fraction < 2 ^ 53)
  have full : (2 : ℚ) ^ 52 ≤ (2 ^ 52 + fraction : ℕ) := by
    exact_mod_cast Nat.le_add_right _ _
  refine (factor.sub hasValue_one).exists_value hasValue_half.neg hasValue_one ?_ ?_
  · rcases field_le with rfl | rfl
    · norm_num at full ⊢
      linarith
    · norm_num at full ⊢
      linarith
  · rcases field_le with rfl | rfl
    · norm_num at mantissa ⊢
      linarith
    · norm_num at mantissa ⊢
      linarith

private theorem logPolynomial_within (within : Within 0 z) : Within 8 (logPolynomial z) := by
  have r2 : Within 2 (multiplyAdd z 2.857142874366239149e-01 3.999999999940941908e-01) :=
    within.multiplyAdd (.of_inUnit rfl) (.of_inUnit rfl) le_rfl le_rfl (by norm_num)
  have r3 : Within 2 (multiplyAdd z 1.818357216161805012e-01 2.222219843214978396e-01) :=
    within.multiplyAdd (.of_inUnit rfl) (.of_inUnit rfl) le_rfl le_rfl (by norm_num)
  have r4 : Within 2 (multiplyAdd z 1.479819860511658591e-01 1.531383769920937332e-01) :=
    within.multiplyAdd (.of_inUnit rfl) (.of_inUnit rfl) le_rfl le_rfl (by norm_num)
  have z2 : Within 0 (z * z) := within.mul within (by norm_num)
  have z4 : Within 0 (z * z * (z * z)) := z2.mul z2 (by norm_num)
  have z6 : Within 0 (z * z * (z * z * (z * z))) := z2.mul z4 (by norm_num)
  have r1 : Within 0 6.666666666666735130e-01 := .of_inUnit rfl
  have first : Within 4 (multiplyAdd z 6.666666666666735130e-01 (z * z * _)) :=
    within.multiplyAdd r1 (z2.mul r2 (by norm_num)) (by norm_num) le_rfl (by norm_num)
  have second : Within 6 (multiplyAdd (z * z * (z * z)) _ _) :=
    z4.multiplyAdd r3 first (by norm_num) le_rfl (by norm_num)
  exact z6.multiplyAdd r4 second (by norm_num) le_rfl (by norm_num)

private theorem logParts_within (exponent : Within 12 k) (correct : Within 67 correction)
    (fraction : ∃ v, HasValue f v ∧ -(1 / 2) ≤ v ∧ v ≤ 1) (nearOne : Bool) :
    Within 80 (logParts k f correction nearOne) := by
  obtain ⟨v, value, low_le, le_one⟩ := fraction
  have bounded : Within 0 f := ⟨v, value, by rw [pow_zero, abs_le]; constructor <;> linarith⟩
  have half : Within 0 (0.5 * f * f) :=
    ((Within.of_inUnit (x := 0.5) rfl).mul bounded (by norm_num)).mul bounded (by norm_num)
  have low : Within 69 (multiplyAdd k lnTwoLow correction) :=
    exponent.multiplyAdd (.of_inUnit rfl) correct (by norm_num) le_rfl (by norm_num)
  unfold logParts
  dsimp only
  split
  · split
    · have total : Within 71 (multiplyAdd k lnTwoHigh _) :=
        exponent.multiplyAdd (.of_inUnit rfl) low (by norm_num) le_rfl (by norm_num)
      exact total.mono (by norm_num)
    · have third : Within 2 (multiplyAdd (-f) 0.66666666666666666 1.0) :=
        bounded.neg.multiplyAdd (.of_inUnit rfl) (.of_inUnit rfl) le_rfl le_rfl (by norm_num)
      have r := (half.mul third (by norm_num)).mono (show 0 + 2 ≤ 69 by norm_num)
      have rest := ((r.sub low (by norm_num)).sub (bounded.mono (by norm_num)) (by norm_num)).neg
      have total : Within 73 (multiplyAdd k lnTwoHigh _) :=
        exponent.multiplyAdd (.of_inUnit rfl) rest (by norm_num) le_rfl (by norm_num)
      exact total.mono (by norm_num)
  · obtain ⟨y, four⟩ := exists_hasValue_two_pow (show 2 ≤ 1023 by norm_num)
    obtain ⟨w, denominator, one_le, -⟩ := (hasValue_two.add value).exists_value hasValue_one four
      (by linarith) (by linarith)
    have s := bounded.div denominator one_le (by norm_num)
    have r := logPolynomial_within (s.mul s (by norm_num))
    have corrected := s.mul (r.add (half.mono (by norm_num)) (by norm_num)) (by norm_num)
    have sum := low.add (corrected.mono (by norm_num)) (by norm_num)
    have rest := (((half.mono (by norm_num)).sub sum (by norm_num)).sub
      (bounded.mono (by norm_num)) (by norm_num)).neg
    have total : Within 74 (multiplyAdd k lnTwoHigh _) :=
      exponent.multiplyAdd (.of_inUnit rfl) rest (by norm_num) le_rfl (by norm_num)
    exact total.mono (by norm_num)

/-- The correction for the rounding of a sum is bounded. -/
private theorem correction_within {sum : Float} {w : ℚ} (term : Within 64 x) (total : Within 65 sum)
    (value : HasValue sum w) (one_le : 1 ≤ w) (large early : Prop) [Decidable large]
    [Decidable early] :
    Within 67 (if large then 0.0
      else (if early then 1.0 - (sum - x) else x - (sum - 1.0)) / sum) := by
  have one : Within 0 1.0 := .of_inUnit rfl
  split
  · have zero : Within 0 0.0 := .of_inUnit rfl
    exact zero.mono (by norm_num)
  · apply Within.div _ value one_le (by norm_num)
    split
    · exact (one.mono (by norm_num)).sub (total.sub (term.mono (by norm_num)) (by norm_num))
        (by norm_num)
    · exact (term.mono (by norm_num)).sub (total.sub (one.mono (by norm_num)) (by norm_num))
        (by norm_num)

/-- The logarithm of one more than a number from one to `2 ^ 64` is bounded. -/
theorem logOnePlus_within {v : ℚ} (value : HasValue x v) (one_le : 1 ≤ v) (le : v ≤ 2 ^ 64) :
    Within 80 (logOnePlus x) := by
  have term : Within 64 x := ⟨v, value, by rwa [abs_of_nonneg (by linarith)]⟩
  obtain ⟨y, limit⟩ := exists_hasValue_two_pow (show 65 ≤ 1023 by norm_num)
  obtain ⟨sum, sum_eq⟩ : ∃ sum, sum = if 9007199254740992.0 ≤ x then x else 1.0 + x := ⟨_, rfl⟩
  have total : ∃ w, HasValue sum w ∧ 1 ≤ w ∧ w ≤ 2 ^ 65 := by
    rw [sum_eq]
    split
    · exact ⟨v, value, one_le, le.trans (by norm_num)⟩
    · exact (hasValue_one.add value).exists_value hasValue_one limit (by linarith)
        (by linarith [show (2 : ℚ) ^ 64 + 1 ≤ 2 ^ 65 by norm_num])
  obtain ⟨w, sum_value, low, high⟩ := total
  have bounded : Within 65 sum := ⟨w, sum_value, by rwa [abs_of_nonneg (by linarith)]⟩
  have bits := sum.toBits.toNat_lt
  have proper : sum.toBits.toNat % 2 ^ 52 < 2 ^ 52 := Nat.mod_lt _ (by norm_num)
  unfold logOnePlus
  dsimp only
  rw [← sum_eq]
  have correct := correction_within term bounded sum_value low (9007199254740992.0 ≤ x)
    (0 < sum.toBits.toNat / Nat.pow 2 52 - 1023)
  split
  · exact logParts_within (within_toFloat (by rw [Nat.pow_eq]; omega)) correct
      (exists_fraction (.inr rfl) proper) _
  · exact logParts_within (within_toFloat (by rw [Nat.pow_eq]; omega)) correct
      (exists_fraction (.inl rfl) proper) _

end SentimentTree.Numeric
