import Mathlib
import SentimentTree.Decimal.Shortest

/-! # Rounding fractions

Rounding to a binary format sees only the value of a fraction, not how it is written. What it gives
belongs to the format, and a number of the format rounds to itself.
-/

namespace SentimentTree.Decimal

/-- The exact value of a binary magnitude. -/
def Binary.value (x : Binary) : ℚ := x.mantissa * 2 ^ x.exponent

/-- The exact value of a decimal magnitude. -/
def Digits.value (x : Digits) : ℚ := x.coefficient * 10 ^ x.exponent

/-- A magnitude at the only place where the format has it: the mantissa is full unless the exponent
is the least one. -/
structure Binary.Fits (format : BinaryFormat) (x : Binary) : Prop where
  bound : x.mantissa < 2 ^ format.precision
  least : format.minExponent ≤ x.exponent
  greatest : x.exponent ≤ format.maxExponent
  full : 2 ^ (format.precision - 1) ≤ x.mantissa ∨ x.exponent = format.minExponent

/-- A format with at least one bit and one exponent. -/
structure BinaryFormat.Proper (format : BinaryFormat) : Prop where
  precision_pos : 0 < format.precision
  exponents : format.minExponent ≤ format.maxExponent

theorem BinaryFormat.double_proper : BinaryFormat.double.Proper := ⟨by decide, by decide⟩

/-! ## Fractions -/

private theorem ratio_of_sign {base : ℕ} (positive : 0 < base) (n : ℕ) (exponent : ℤ) :
    let ratio := if 0 ≤ exponent then (n * Nat.pow base exponent.toNat, 1)
      else (n, Nat.pow base (-exponent).toNat)
    0 < ratio.2 ∧ (ratio.1 / ratio.2 : ℚ) = n * (base : ℚ) ^ exponent := by
  dsimp only
  split
  · rename_i nonneg
    refine ⟨one_pos, ?_⟩
    obtain ⟨k, rfl⟩ := Int.eq_ofNat_of_zero_le nonneg
    simp
  · rename_i negative
    refine ⟨Nat.pow_pos positive, ?_⟩
    obtain ⟨k, shape⟩ := Int.eq_ofNat_of_zero_le (show 0 ≤ -exponent by omega)
    obtain rfl : exponent = -(k : ℤ) := by omega
    simp [div_eq_mul_inv]

theorem Binary.ratio_value (x : Binary) :
    0 < x.ratio.2 ∧ (x.ratio.1 / x.ratio.2 : ℚ) = x.value :=
  ratio_of_sign two_pos x.mantissa x.exponent

theorem Digits.ratio_value (x : Digits) :
    0 < x.ratio.2 ∧ (x.ratio.1 / x.ratio.2 : ℚ) = x.value :=
  ratio_of_sign (show 0 < 10 by norm_num) x.coefficient x.exponent

/-- Scaling down divides the value by the power of two. -/
private theorem scaleDown_value (num : ℕ) {den : ℕ} (positive : 0 < den) (exponent : ℤ) :
    0 < (scaleDown num den exponent).2 ∧
      ((scaleDown num den exponent).1 / (scaleDown num den exponent).2 : ℚ) =
        num / den / 2 ^ exponent := by
  have nonzero : (den : ℚ) ≠ 0 := by exact_mod_cast positive.ne'
  unfold scaleDown
  split
  · rename_i nonneg
    refine ⟨Nat.mul_pos positive (Nat.pow_pos two_pos), ?_⟩
    obtain ⟨k, rfl⟩ := Int.eq_ofNat_of_zero_le nonneg
    simp [div_div]
  · rename_i negative
    refine ⟨positive, ?_⟩
    obtain ⟨k, shape⟩ := Int.eq_ofNat_of_zero_le (show 0 ≤ -exponent by omega)
    obtain rfl : exponent = -(k : ℤ) := by omega
    simp [div_mul_eq_mul_div]

section roundEven

variable {n d n' d' : ℕ}

theorem roundEven_mul_right (n : ℕ) {d k : ℕ} (positive : 0 < k) :
    roundEven (n * k) (d * k) = roundEven n d := by
  have quotient : n * k / (d * k) = n / d := Nat.mul_div_mul_right n d positive
  have rest : 2 * (n * k % (d * k)) = 2 * (n % d) * k := by
    rw [Nat.mul_mod_mul_right, Nat.mul_assoc]
  unfold roundEven
  simp only [quotient, rest, Nat.mul_lt_mul_right positive]

/-- Equal fractions round alike. -/
theorem roundEven_congr (positive : 0 < d) (positive' : 0 < d') (equal : (n / d : ℚ) = n' / d') :
    roundEven n d = roundEven n' d' := by
  have cross : n * d' = n' * d := by
    have nonzero : (d : ℚ) ≠ 0 := by exact_mod_cast positive.ne'
    have nonzero' : (d' : ℚ) ≠ 0 := by exact_mod_cast positive'.ne'
    rw [div_eq_div_iff nonzero nonzero'] at equal
    exact_mod_cast equal
  calc roundEven n d = roundEven (n * d') (d * d') := (roundEven_mul_right n positive').symm
    _ = roundEven (n' * d) (d' * d) := by rw [cross, Nat.mul_comm d d']
    _ = roundEven n' d' := roundEven_mul_right n' positive

@[simp] theorem roundEven_one (n : ℕ) : roundEven n 1 = n := by simp [roundEven, Nat.mod_one]

theorem roundEven_le {k : ℕ} (positive : 0 < d) (above : (n / d : ℚ) < k) : roundEven n d ≤ k := by
  have floor : n / d < k := by
    rw [div_lt_iff₀ (by exact_mod_cast positive)] at above
    exact (Nat.div_lt_iff_lt_mul positive).mpr (by exact_mod_cast above)
  unfold roundEven
  grind

theorem le_roundEven {k : ℕ} (positive : 0 < d) (below : (k : ℚ) ≤ n / d) : k ≤ roundEven n d := by
  have floor : k ≤ n / d := by
    rw [le_div_iff₀ (by exact_mod_cast positive)] at below
    exact (Nat.le_div_iff_mul_le positive).mpr (by exact_mod_cast below)
  unfold roundEven
  grind

/-- Less than a half rounds to nothing. -/
theorem half_le_of_roundEven_pos (positive : 0 < d) (rounded : 0 < roundEven n d) :
    (1 / 2 : ℚ) ≤ n / d := by
  have double : d ≤ 2 * n := by
    by_contra less
    have quotient : n / d = 0 := Nat.div_eq_of_lt (by omega)
    have rest : n % d = n := Nat.mod_eq_of_lt (by omega)
    have zero : roundEven n d = 0 := by
      unfold roundEven
      simp only [quotient, rest]
      rw [if_pos (by omega)]
    omega
  rw [div_le_div_iff₀ two_pos (by exact_mod_cast positive)]
  have cast : (d : ℚ) ≤ 2 * n := by exact_mod_cast double
  linarith

end roundEven

/-! ## The exponent -/

section nearest

variable {format : BinaryFormat} {num den num' den' : ℕ}

private theorem log2_bounds {n : ℕ} (positive : 0 < n) :
    (2 : ℚ) ^ (Nat.log2 n : ℤ) ≤ n ∧ (n : ℚ) < 2 ^ ((Nat.log2 n : ℤ) + 1) := by
  have low := Nat.log2_self_le positive.ne'
  have high := Nat.lt_log2_self (n := n)
  refine ⟨?_, ?_⟩
  · rw [zpow_natCast]
    exact_mod_cast low
  · rw [show (Nat.log2 n : ℤ) + 1 = ((Nat.log2 n + 1 : ℕ) : ℤ) by push_cast; rfl, zpow_natCast]
    exact_mod_cast high

private theorem div_lt_zpow_log2 (positive : 0 < num) (positive' : 0 < den) :
    (2 : ℚ) ^ ((Nat.log2 num : ℤ) - Nat.log2 den - 1) < num / den ∧
      (num / den : ℚ) < 2 ^ ((Nat.log2 num : ℤ) - Nat.log2 den + 1) := by
  obtain ⟨low, high⟩ := log2_bounds positive
  obtain ⟨low', high'⟩ := log2_bounds positive'
  have den_pos : (0 : ℚ) < den := by exact_mod_cast positive'
  refine ⟨?_, ?_⟩
  · rw [lt_div_iff₀ den_pos]
    calc (2 : ℚ) ^ ((Nat.log2 num : ℤ) - Nat.log2 den - 1) * den
        < 2 ^ ((Nat.log2 num : ℤ) - Nat.log2 den - 1) * 2 ^ ((Nat.log2 den : ℤ) + 1) :=
          mul_lt_mul_of_pos_left high' (by positivity)
      _ = 2 ^ (Nat.log2 num : ℤ) := by
          rw [← zpow_add₀ two_ne_zero]
          congr 1
          ring
      _ ≤ num := low
  · rw [div_lt_iff₀ den_pos]
    calc (num : ℚ) < 2 ^ ((Nat.log2 num : ℤ) + 1) := high
      _ = 2 ^ ((Nat.log2 num : ℤ) - Nat.log2 den + 1) * 2 ^ (Nat.log2 den : ℤ) := by
          rw [← zpow_add₀ two_ne_zero]
          congr 1
          ring
      _ ≤ 2 ^ ((Nat.log2 num : ℤ) - Nat.log2 den + 1) * den :=
          mul_le_mul_of_nonneg_left low' (by positivity)

/-- The exponent is the least one of the format at which the value is below the mantissas' end. -/
theorem BinaryFormat.exponentFor_le_iff (format : BinaryFormat) (positive : 0 < num)
    (positive' : 0 < den) (e : ℤ) :
    format.exponentFor num den ≤ e ↔
      format.minExponent ≤ e ∧ (num / den : ℚ) < 2 ^ (format.precision + e) := by
  obtain ⟨above, below⟩ := div_lt_zpow_log2 positive positive'
  set low : ℤ := (Nat.log2 num : ℤ) - Nat.log2 den - format.precision with low_eq
  obtain ⟨scaled_pos, scaled⟩ := scaleDown_value num positive' low
  have fits : (scaleDown num den low).1 / (scaleDown num den low).2 < 2 ^ format.precision ↔
      (num / den : ℚ) < 2 ^ (format.precision + low) := by
    rw [Nat.div_lt_iff_lt_mul scaled_pos, zpow_add₀ two_ne_zero, ← div_lt_iff₀ (by positivity),
      ← scaled, div_lt_iff₀ (by exact_mod_cast scaled_pos), zpow_natCast]
    norm_cast
  have lift {a : ℤ} (less : e < a) (reach : (2 : ℚ) ^ (format.precision + a - 1) ≤ num / den) :
      ¬(num / den : ℚ) < 2 ^ (format.precision + e) := by
    refine not_lt.mpr (le_trans ?_ reach)
    exact zpow_le_zpow_right₀ (by norm_num) (by omega)
  have drop {a : ℤ} (le : a ≤ e) (short : (num / den : ℚ) < 2 ^ (format.precision + a)) :
      (num / den : ℚ) < 2 ^ (format.precision + e) :=
    short.trans_le (zpow_le_zpow_right₀ (by norm_num) (by omega))
  change max format.minExponent (if (scaleDown num den low).1 / (scaleDown num den low).2 <
    2 ^ format.precision then low else low + 1) ≤ e ↔ _
  rw [max_le_iff, and_congr_right_iff]
  intro _
  split
  · rename_i short
    refine ⟨fun le => drop le (fits.mp short), fun less => ?_⟩
    by_contra more
    refine lift (not_le.mp more) ?_ less
    rw [low_eq, show (format.precision : ℤ) + ((Nat.log2 num : ℤ) - Nat.log2 den -
      format.precision) - 1 = Nat.log2 num - Nat.log2 den - 1 by ring]
    exact above.le
  · rename_i long
    refine ⟨fun le => drop le ?_, fun less => ?_⟩
    · rw [low_eq, show (format.precision : ℤ) + ((Nat.log2 num : ℤ) - Nat.log2 den -
        format.precision + 1) = Nat.log2 num - Nat.log2 den + 1 by ring]
      exact below
    · by_contra more
      refine lift (not_le.mp more) ?_ less
      rw [fits, not_lt] at long
      rw [show (format.precision : ℤ) + (low + 1) - 1 = format.precision + low by ring]
      exact long

/-- Equal fractions get the same exponent. -/
private theorem BinaryFormat.exponentFor_congr (positive : 0 < num) (positive' : 0 < den)
    (other : 0 < num') (other' : 0 < den') (equal : (num / den : ℚ) = num' / den') :
    format.exponentFor num den = format.exponentFor num' den' := by
  apply le_antisymm
  · rw [format.exponentFor_le_iff positive positive', equal,
      ← format.exponentFor_le_iff other other']
  · rw [format.exponentFor_le_iff other other', ← equal,
      ← format.exponentFor_le_iff positive positive']

/-! ## The nearest number -/

def BinaryFormat.mantissaFor (format : BinaryFormat) (num den : ℕ) : ℕ :=
  roundEven (scaleDown num den (format.exponentFor num den)).1
    (scaleDown num den (format.exponentFor num den)).2

/-- A mantissa at an exponent, with a carry out of the last bit moved into the exponent. -/
def BinaryFormat.carried (format : BinaryFormat) (mantissa : ℕ) (exponent : ℤ) : Binary :=
  if mantissa = 2 ^ format.precision then ⟨2 ^ (format.precision - 1), exponent + 1⟩
  else ⟨mantissa, exponent⟩

private theorem BinaryFormat.nearest_zero (den : ℕ) :
    format.nearest 0 den = some ⟨0, format.minExponent⟩ := if_pos rfl

theorem BinaryFormat.nearest_eq_some_iff (positive : 0 < num) {x : Binary} :
    format.nearest num den = some x ↔
      format.carried (format.mantissaFor num den) (format.exponentFor num den) = x ∧
        x.exponent ≤ format.maxExponent := by
  have shape : format.nearest num den =
      if (format.carried (format.mantissaFor num den) (format.exponentFor num den)).exponent ≤
        format.maxExponent
      then some (format.carried (format.mantissaFor num den) (format.exponentFor num den))
      else none := by
    rw [nearest, if_neg positive.ne']
    rfl
  rw [shape, Option.ite_none_right_eq_some, Option.some.injEq, and_comm]
  exact and_congr_right fun equal => by rw [equal]

/-- Equal fractions get the same mantissa. -/
private theorem BinaryFormat.mantissaFor_congr (positive : 0 < num) (positive' : 0 < den)
    (other : 0 < num') (other' : 0 < den') (equal : (num / den : ℚ) = num' / den') :
    format.mantissaFor num den = format.mantissaFor num' den' := by
  unfold mantissaFor
  rw [exponentFor_congr positive positive' other other' equal]
  obtain ⟨scaled_pos, scaled⟩ := scaleDown_value num positive' (format.exponentFor num' den')
  obtain ⟨scaled_pos', scaled'⟩ := scaleDown_value num' other' (format.exponentFor num' den')
  exact roundEven_congr scaled_pos scaled_pos' (by rw [scaled, scaled', equal])

/-- Rounding depends on the value of a fraction only. -/
theorem BinaryFormat.nearest_congr (positive : 0 < den) (positive' : 0 < den')
    (equal : (num / den : ℚ) = num' / den') :
    format.nearest num den = format.nearest num' den' := by
  have den_ne : (den : ℚ) ≠ 0 := by exact_mod_cast positive.ne'
  have den_ne' : (den' : ℚ) ≠ 0 := by exact_mod_cast positive'.ne'
  rcases Nat.eq_zero_or_pos num with rfl | num_pos
  · have zero : num' = 0 := by
      rw [Nat.cast_zero, zero_div, eq_comm, div_eq_zero_iff] at equal
      exact_mod_cast equal.resolve_right den_ne'
    rw [zero, nearest_zero, nearest_zero]
  · have num_pos' : 0 < num' := by
      apply Nat.pos_of_ne_zero
      rintro rfl
      rw [Nat.cast_zero, zero_div, div_eq_zero_iff] at equal
      exact num_pos.ne' (by exact_mod_cast equal.resolve_right den_ne)
    ext x
    rw [nearest_eq_some_iff num_pos, nearest_eq_some_iff num_pos',
      exponentFor_congr num_pos positive num_pos' positive' equal,
      mantissaFor_congr num_pos positive num_pos' positive' equal]

private theorem BinaryFormat.mantissaFor_le (positive : 0 < den) {k : ℕ}
    (below : (num / den : ℚ) < k * 2 ^ format.exponentFor num den) :
    format.mantissaFor num den ≤ k := by
  obtain ⟨scaled_pos, scaled⟩ := scaleDown_value num positive (format.exponentFor num den)
  apply roundEven_le scaled_pos
  rw [scaled, div_lt_iff₀ (by positivity)]
  exact below

private theorem BinaryFormat.le_mantissaFor (positive : 0 < den) {k : ℕ}
    (above : k * 2 ^ format.exponentFor num den ≤ (num / den : ℚ)) :
    k ≤ format.mantissaFor num den := by
  obtain ⟨scaled_pos, scaled⟩ := scaleDown_value num positive (format.exponentFor num den)
  apply le_roundEven scaled_pos
  rw [scaled, le_div_iff₀ (by positivity)]
  exact above

private theorem two_pow_mul_zpow (k : ℕ) (e : ℤ) : ((2 ^ k : ℕ) : ℚ) * 2 ^ e = 2 ^ (k + e) := by
  rw [zpow_add₀ two_ne_zero, zpow_natCast, Nat.cast_pow, Nat.cast_ofNat]

/-- What rounding gives belongs to the format. -/
theorem BinaryFormat.fits_of_nearest (proper : format.Proper) (positive : 0 < den) {x : Binary}
    (rounds : format.nearest num den = some x) : x.Fits format := by
  obtain ⟨precision_pos, exponents⟩ := proper
  rcases Nat.eq_zero_or_pos num with rfl | num_pos
  · rw [nearest_zero] at rounds
    obtain rfl := Option.some.inj rounds
    exact ⟨Nat.two_pow_pos _, le_rfl, exponents, .inr rfl⟩
  · obtain ⟨rfl, greatest⟩ := (nearest_eq_some_iff num_pos).mp rounds
    set e := format.exponentFor num den with e_eq
    obtain ⟨least, below⟩ := (format.exponentFor_le_iff num_pos positive e).mp e_eq.ge
    have bound : format.mantissaFor num den ≤ 2 ^ format.precision := by
      apply mantissaFor_le positive
      rw [two_pow_mul_zpow]
      exact below
    -- at any exponent but the least, the one below would have been too small
    have full : 2 ^ (format.precision - 1) ≤ format.mantissaFor num den ∨
        e = format.minExponent := by
      rw [or_iff_not_imp_right]
      intro larger
      have lower := (format.exponentFor_le_iff num_pos positive (e - 1)).not.mp
        (by omega)
      have reach := not_lt.mp fun less => lower ⟨by omega, less⟩
      apply le_mantissaFor positive
      rw [two_pow_mul_zpow, ← e_eq,
        show ((format.precision - 1 : ℕ) : ℤ) + e = format.precision + (e - 1) by omega]
      exact reach
    have halves : 2 ^ (format.precision - 1) < 2 ^ format.precision :=
      Nat.pow_lt_pow_right (by norm_num) (by omega)
    unfold carried at greatest ⊢
    split
    · rename_i carry
      rw [if_pos carry] at greatest
      exact ⟨halves, by dsimp only; omega, greatest, .inl le_rfl⟩
    · rename_i fits
      rw [if_neg fits] at greatest
      exact ⟨by dsimp only; omega, least, greatest, full⟩

/-- A number of the format rounds to itself. -/
theorem Binary.Fits.nearest_eq (proper : format.Proper) {x : Binary} (fits : x.Fits format)
    (positive : 0 < den) (equal : (num / den : ℚ) = x.value) :
    format.nearest num den = some x := by
  obtain ⟨bound, least, greatest, full⟩ := fits
  rcases Nat.eq_zero_or_pos num with rfl | num_pos
  · have zero : x.mantissa = 0 := by
      rw [Nat.cast_zero, zero_div, value, eq_comm, mul_eq_zero] at equal
      exact_mod_cast equal.resolve_right (by positivity)
    have exponent : x.exponent = format.minExponent :=
      full.resolve_left (by rw [zero]; exact (Nat.two_pow_pos _).not_ge)
    rw [BinaryFormat.nearest_zero, ← exponent, ← zero]
  · have exponent : format.exponentFor num den = x.exponent := by
      apply le_antisymm
      · rw [format.exponentFor_le_iff num_pos positive]
        refine ⟨least, ?_⟩
        rw [equal, value, ← two_pow_mul_zpow]
        exact mul_lt_mul_of_pos_right (by exact_mod_cast bound) (by positivity)
      · by_contra less
        obtain ⟨above, below⟩ :=
          (format.exponentFor_le_iff num_pos positive (x.exponent - 1)).mp (by omega)
        have large := full.resolve_right (by omega)
        have precision_pos := proper.precision_pos
        rw [equal, value, show (format.precision : ℤ) + (x.exponent - 1) =
          ((format.precision - 1 : ℕ) : ℤ) + x.exponent by omega,
          ← two_pow_mul_zpow, mul_lt_mul_iff_left₀ (by positivity)] at below
        exact large.not_gt (by exact_mod_cast below)
    have mantissa : format.mantissaFor num den = x.mantissa := by
      obtain ⟨scaled_pos, scaled⟩ := scaleDown_value num positive (format.exponentFor num den)
      rw [← roundEven_one x.mantissa]
      apply roundEven_congr scaled_pos one_pos
      rw [scaled, exponent, equal, value, mul_div_assoc, div_self (by positivity)]
      simp
    rw [BinaryFormat.nearest_eq_some_iff num_pos, mantissa, exponent, BinaryFormat.carried,
      if_neg bound.ne]
    exact ⟨rfl, greatest⟩

/-! ## The range -/

/-- A value beyond the greatest exponent rounds to no number of the format. -/
theorem BinaryFormat.lt_of_nearest (positive : 0 < den) {x : Binary}
    (rounds : format.nearest num den = some x) :
    (num / den : ℚ) < 2 ^ (format.precision + format.maxExponent) := by
  rcases Nat.eq_zero_or_pos num with rfl | num_pos
  · rw [Nat.cast_zero, zero_div]
    positivity
  · obtain ⟨rfl, greatest⟩ := (nearest_eq_some_iff num_pos).mp rounds
    have small : format.exponentFor num den ≤ format.maxExponent := by
      unfold carried at greatest
      split at greatest
      · dsimp only at greatest
        omega
      · exact greatest
    exact ((format.exponentFor_le_iff num_pos positive _).mp small).2

/-- A value below half of the least positive number rounds to zero. -/
theorem BinaryFormat.le_of_nearest (positive : 0 < den) {x : Binary}
    (rounds : format.nearest num den = some x) (nonzero : x.mantissa ≠ 0) :
    (2 : ℚ) ^ (format.minExponent - 1) ≤ num / den := by
  rcases Nat.eq_zero_or_pos num with rfl | num_pos
  · rw [nearest_zero] at rounds
    obtain rfl := Option.some.inj rounds
    exact (nonzero rfl).elim
  · obtain ⟨rfl, -⟩ := (nearest_eq_some_iff num_pos).mp rounds
    have least := ((format.exponentFor_le_iff num_pos positive _).mp le_rfl).1
    obtain ⟨scaled_pos, scaled⟩ := scaleDown_value num positive (format.exponentFor num den)
    have rounded : 0 < format.mantissaFor num den := by
      apply Nat.pos_of_ne_zero
      intro zero
      rw [zero, carried, if_neg (Nat.two_pow_pos format.precision).ne] at nonzero
      exact nonzero rfl
    have half := half_le_of_roundEven_pos scaled_pos rounded
    rw [scaled, le_div_iff₀ (by positivity)] at half
    calc (2 : ℚ) ^ (format.minExponent - 1) ≤ 2 ^ (format.exponentFor num den - 1) :=
          zpow_le_zpow_right₀ (by norm_num) (by omega)
      _ = 1 / 2 * 2 ^ format.exponentFor num den := by
          rw [zpow_sub_one₀ two_ne_zero]
          ring
      _ ≤ num / den := half

private theorem BinaryFormat.carried_value (proper : format.Proper) (mantissa : ℕ) (e : ℤ) :
    (format.carried mantissa e).value = mantissa * 2 ^ e := by
  have precision_pos := proper.precision_pos
  unfold carried
  split
  · rename_i full
    rw [full, Binary.value, two_pow_mul_zpow, two_pow_mul_zpow]
    congr 1
    dsimp only
    omega
  · rfl

/-- A value below a power of two inside the range rounds to a number that does not exceed it. -/
theorem BinaryFormat.exists_nearest (proper : format.Proper) (positive : 0 < den) {e : ℤ}
    (least : format.minExponent ≤ e) (small : e < format.maxExponent)
    (below : (num / den : ℚ) < 2 ^ (format.precision + e)) :
    ∃ x, format.nearest num den = some x ∧ x.value ≤ 2 ^ (format.precision + e) := by
  rcases Nat.eq_zero_or_pos num with rfl | num_pos
  · refine ⟨_, nearest_zero den, ?_⟩
    rw [Binary.value, Nat.cast_zero, zero_mul]
    positivity
  · have exponent := (format.exponentFor_le_iff num_pos positive e).mpr ⟨least, below⟩
    have mantissa : format.mantissaFor num den ≤ 2 ^ format.precision := by
      apply mantissaFor_le positive
      rw [two_pow_mul_zpow]
      exact ((format.exponentFor_le_iff num_pos positive _).mp le_rfl).2
    refine ⟨_, (nearest_eq_some_iff num_pos).mpr ⟨rfl, ?_⟩, ?_⟩
    · unfold carried
      split
      · dsimp only
        omega
      · dsimp only
        omega
    · rw [carried_value proper]
      calc (format.mantissaFor num den : ℚ) * 2 ^ format.exponentFor num den
          ≤ (2 ^ format.precision : ℕ) * 2 ^ format.exponentFor num den :=
            mul_le_mul_of_nonneg_right (by exact_mod_cast mantissa) (by positivity)
        _ = 2 ^ (format.precision + format.exponentFor num den) := two_pow_mul_zpow _ _
        _ ≤ 2 ^ (format.precision + e) := zpow_le_zpow_right₀ (by norm_num) (by omega)

end nearest

end SentimentTree.Decimal
