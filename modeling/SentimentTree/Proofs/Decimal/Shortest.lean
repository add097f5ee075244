import SentimentTree.Decimal.Reader
import SentimentTree.Proofs.Decimal.Nearest

/-! # Shortest digits read back

The search for few digits only takes digits that round back, and behind it stands the exact
expansion. Reading digits rounds their value, with the shortcuts for sizes far outside the range
justified by what rounds to a number of the format at all.
-/

namespace SentimentTree.Decimal

/-! ## Counting digits -/

theorem digitCount_le_iff {n k : ℕ} (positive : 0 < k) : digitCount n ≤ k ↔ n < 10 ^ k :=
  Nat.length_toDigits_le_iff (by norm_num) positive

private theorem lt_pow_digitCount (n : ℕ) : n < 10 ^ digitCount n :=
  (digitCount_le_iff Nat.length_toDigits_pos).mp le_rfl

private theorem pow_digitCount_le {n : ℕ} (positive : 0 < n) : 10 ^ (digitCount n - 1) ≤ n := by
  rcases Nat.eq_zero_or_pos (digitCount n - 1) with zero | large
  · rw [zero, pow_zero]
    exact positive
  · by_contra less
    have short := (digitCount_le_iff large).mpr (not_le.mp less)
    omega

/-- A value lies below the power of ten that its size names, and not below the one before. -/
theorem Digits.value_bounds {x : Digits} (positive : 0 < x.coefficient) :
    (10 : ℚ) ^ ((digitCount x.coefficient : ℤ) + x.exponent - 1) ≤ x.value ∧
      x.value < 10 ^ ((digitCount x.coefficient : ℤ) + x.exponent) := by
  have count : 0 < digitCount x.coefficient := Nat.length_toDigits_pos
  have low : ((10 ^ (digitCount x.coefficient - 1) : ℕ) : ℚ) ≤ x.coefficient := by
    exact_mod_cast pow_digitCount_le positive
  have high : (x.coefficient : ℚ) < ((10 ^ digitCount x.coefficient : ℕ) : ℚ) := by
    exact_mod_cast lt_pow_digitCount x.coefficient
  rw [Nat.cast_pow, Nat.cast_ofNat, ← zpow_natCast] at low high
  refine ⟨?_, ?_⟩
  · rw [show (digitCount x.coefficient : ℤ) + x.exponent - 1 =
      ((digitCount x.coefficient - 1 : ℕ) : ℤ) + x.exponent by omega, zpow_add₀ (by norm_num)]
    exact mul_le_mul_of_nonneg_right low (by positivity)
  · rw [zpow_add₀ (by norm_num)]
    exact mul_lt_mul_of_pos_right high (by positivity)

/-! ## Trimming -/

/-- A number is divisible by ten as often as zeros stand at the end of its digits. -/
theorem pow_trailingZeros_dvd (n : ℕ) :
    10 ^ ((Nat.toDigits 10 n).reverse.takeWhile (· == '0')).length ∣ n := by
  set backwards := (Nat.toDigits 10 n).reverse with backwards_eq
  have zeros : backwards.takeWhile (· == '0') =
      List.replicate (backwards.takeWhile (· == '0')).length '0' := by
    rw [List.eq_replicate_iff]
    refine ⟨rfl, fun c member => ?_⟩
    simpa using List.mem_takeWhile_imp member
  have digits : Nat.toDigits 10 n = (backwards.dropWhile (· == '0')).reverse ++
      List.replicate (backwards.takeWhile (· == '0')).length '0' := by
    rw [← List.reverse_replicate, ← zeros, ← List.reverse_append, List.takeWhile_append_dropWhile,
      backwards_eq, List.reverse_reverse]
  refine ⟨Nat.ofDigitChars 10 (backwards.dropWhile (· == '0')).reverse 0, ?_⟩
  rw [← Nat.ofDigitChars_replicate_zero, ← Nat.ofDigitChars_append, ← digits,
    Nat.ofDigitChars_ten_toDigits]

private theorem Digits.trimmed_value (x : Digits) : x.trimmed.value = x.value := by
  unfold trimmed
  split
  · rename_i zero
    simp [value, zero]
  · obtain ⟨rest, shape⟩ := pow_trailingZeros_dvd x.coefficient
    dsimp only
    generalize ((Nat.toDigits 10 x.coefficient).reverse.takeWhile (· == '0')).length = zeros at *
    rw [value, value, shape]
    simp only [Nat.pow_eq]
    rw [Nat.mul_div_cancel_left _ (by positivity), zpow_add₀ (by norm_num), zpow_natCast]
    push_cast
    ring

/-! ## The search -/

variable {format : BinaryFormat} {tie : Tie} {x : Binary}

private theorem readsBack_of_neighbour? {count : ℕ} {digits : Digits}
    (found : neighbour? format tie x count = some digits) :
    digits.readsBack format x = true := by
  unfold neighbour? at found
  exact List.find?_some found

private theorem Binary.expansion_value (x : Binary) : x.expansion.value = x.value := by
  unfold expansion
  split
  · rename_i nonneg
    obtain ⟨k, shape⟩ := Int.eq_ofNat_of_zero_le nonneg
    simp [Digits.value, value, shape]
  · rename_i negative
    obtain ⟨k, shape⟩ := Int.eq_ofNat_of_zero_le (show 0 ≤ -x.exponent by omega)
    have exponent : x.exponent = -(k : ℤ) := by omega
    simp only [Digits.value, value, exponent, neg_neg, Int.toNat_natCast, Nat.pow_eq, zpow_neg,
      zpow_natCast, Nat.cast_mul, Nat.cast_pow, Nat.cast_ofNat]
    rw [show (10 : ℚ) = 5 * 2 by norm_num, mul_pow]
    field_simp

/-- The shortest digits of a number of the format round to it. -/
theorem Binary.Fits.nearest_shortest (proper : format.Proper) (fits : x.Fits format)
    {num den : ℕ} (positive : 0 < den)
    (equal : (num / den : ℚ) = (shortest format tie x).value) :
    format.nearest num den = some x := by
  unfold shortest at equal
  split at equal
  · rename_i zero
    apply fits.nearest_eq proper positive
    rw [equal]
    simp [Digits.value, value, zero]
  · split at equal
    · rename_i digits found
      obtain ⟨count, -, hit⟩ := List.exists_of_findSome?_eq_some found
      have back : format.nearest digits.ratio.1 digits.ratio.2 = some x := by
        simpa [Digits.readsBack] using readsBack_of_neighbour? hit
      obtain ⟨ratio_pos, ratio⟩ := digits.ratio_value
      rw [← back]
      apply BinaryFormat.nearest_congr positive ratio_pos
      rw [equal, digits.trimmed_value, ratio]
    · apply fits.nearest_eq proper positive
      rw [equal, Digits.trimmed_value, expansion_value]

/-! ## Reading -/

theorem Digits.fits_of_toBinary? (proper : format.Proper) {digits : Digits}
    (reads : digits.toBinary? format = some x) : x.Fits format := by
  unfold toBinary? at reads
  have zero : (⟨0, format.minExponent⟩ : Binary).Fits format :=
    ⟨Nat.two_pow_pos _, le_rfl, proper.exponents, .inr rfl⟩
  split at reads
  · exact Option.some.inj reads ▸ zero
  · dsimp only at reads
    split at reads
    · nomatch reads
    · split at reads
      · exact Option.some.inj reads ▸ zero
      · exact BinaryFormat.fits_of_nearest proper digits.ratio_value.1 reads

/-- Digits that round to a double are read as it: values that the shortcuts settle do not round to
one, or to zero. -/
theorem Digits.toBinary?_eq {digits : Digits}
    (rounds : BinaryFormat.double.nearest digits.ratio.1 digits.ratio.2 = some x)
    (nonzero : x.mantissa ≠ 0) : digits.toBinary? .double = some x := by
  obtain ⟨ratio_pos, ratio⟩ := digits.ratio_value
  have above := BinaryFormat.le_of_nearest ratio_pos rounds nonzero
  have below := BinaryFormat.lt_of_nearest ratio_pos rounds
  rw [ratio] at above below
  have positive : 0 < digits.coefficient := by
    apply Nat.pos_of_ne_zero
    intro zero
    rw [value, zero, Nat.cast_zero, zero_mul] at above
    exact above.not_gt (by positivity)
  obtain ⟨low, high⟩ := value_bounds positive
  unfold toBinary?
  rw [if_neg positive.ne']
  dsimp only
  rw [if_neg, if_neg]
  · exact rounds
  · intro small
    have size : (10 : ℚ) ^ ((digitCount digits.coefficient : ℤ) + digits.exponent) ≤
        10 ^ (-401 : ℤ) := zpow_le_zpow_right₀ (by norm_num) (by omega)
    have apart : (10 : ℚ) ^ (-401 : ℤ) < 2 ^ (BinaryFormat.double.minExponent - 1) := by
      have powers : 2 ^ 1075 < 10 ^ 401 := by decide +kernel
      rw [show BinaryFormat.double.minExponent - 1 = -(1075 : ℕ) from rfl,
        show (-401 : ℤ) = -(401 : ℕ) from rfl, zpow_neg, zpow_neg, zpow_natCast, zpow_natCast]
      exact inv_strictAnti₀ (by positivity) (by exact_mod_cast powers)
    linarith
  · intro large
    have size : (10 : ℚ) ^ (400 : ℤ) ≤
        10 ^ ((digitCount digits.coefficient : ℤ) + digits.exponent - 1) :=
      zpow_le_zpow_right₀ (by norm_num) (by omega)
    have apart : (2 : ℚ) ^ ((BinaryFormat.double.precision : ℤ) + BinaryFormat.double.maxExponent) <
        10 ^ (400 : ℤ) := by
      have powers : 2 ^ 1024 < 10 ^ 400 := by decide +kernel
      rw [show (BinaryFormat.double.precision : ℤ) + BinaryFormat.double.maxExponent =
        (1024 : ℕ) from rfl, show (400 : ℤ) = (400 : ℕ) from rfl, zpow_natCast, zpow_natCast]
      exact_mod_cast powers
    linarith

end SentimentTree.Decimal
