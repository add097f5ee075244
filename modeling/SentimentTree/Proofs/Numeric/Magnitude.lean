import SentimentTree.Numeric.Fused
import SentimentTree.Proofs.Decimal.Parts
import SentimentTree.Proofs.Numeric.UnitInterval

/-! # Bounded magnitudes

A number within a power of two of zero is finite. Sums, differences, products, quotients by a number
of at least one and fused steps of such numbers are within a power of two again, so a computation
that takes few steps from small numbers never leaves the finite range.
-/

namespace SentimentTree.Numeric

open Decimal Float.Model Float.Model.UnpackedFloat

variable {x y z r : Float} {p q : ℚ} {i j k n : ℕ}

/-- The number has a value whose magnitude is at most a power of two. -/
def Within (k : ℕ) (x : Float) : Prop := ∃ q, HasValue x q ∧ |q| ≤ 2 ^ k

theorem Within.isFinite (within : Within k x) : x.isFinite = true := by
  obtain ⟨q, value, -⟩ := within
  exact (isFinite_iff x).mpr ⟨q, value⟩

theorem Within.mono (within : Within j x) (le : j ≤ k) : Within k x := by
  obtain ⟨q, value, bound⟩ := within
  exact ⟨q, value, bound.trans (pow_le_pow_right₀ (by norm_num) le)⟩

theorem Within.of_inUnit (unit : inUnit x = true) : Within 0 x := by
  obtain ⟨v, value, low, high⟩ := inUnit_iff.mp unit
  exact ⟨v, value, by rwa [abs_of_nonneg low, pow_zero]⟩

/-- The powers of two below the limit of the format are numbers. -/
theorem exists_hasValue_two_pow (small : k ≤ 1023) : ∃ y, HasValue y (2 ^ k) := by
  have normalized : IsNormalized (2 ^ 52) ((k : ℤ) - 52) :=
    ⟨by norm_num, by omega, .inl le_rfl⟩
  have stored := hasValue_pack
    (unpack_pack_signedNumber .positive normalized (by omega))
    (extentOf?_signedNumber .positive (2 ^ 52) ((k : ℤ) - 52))
  have value : withSign .positive (((2 ^ 52 : ℕ) : ℚ) * 2 ^ ((k : ℤ) - 52)) = 2 ^ k := by
    change ((2 ^ 52 : ℕ) : ℚ) * 2 ^ ((k : ℤ) - 52) = 2 ^ k
    rw [zpow_sub₀ two_ne_zero, zpow_natCast]
    push_cast
    ring
  rw [value] at stored
  exact ⟨_, stored⟩

/-- A result that rounds to a bounded number is bounded. -/
theorem RoundsTo.within (rounds : RoundsTo r q) (bound : |q| ≤ 2 ^ k) (small : k ≤ 1023) :
    Within k r := by
  obtain ⟨y, power⟩ := exists_hasValue_two_pow small
  obtain ⟨low, high⟩ := abs_le.mp bound
  obtain ⟨v, value, above, below⟩ := rounds.exists_value power.neg power low high
  exact ⟨v, value, abs_le.mpr ⟨above, below⟩⟩

theorem Within.neg (within : Within k x) : Within k (-x) := by
  obtain ⟨q, value, bound⟩ := within
  exact ⟨-q, value.neg, by rwa [abs_neg]⟩

private theorem abs_add_le_two_pow (first : |p| ≤ 2 ^ k) (second : |q| ≤ 2 ^ k) :
    |p + q| ≤ 2 ^ (k + 1) := by
  calc |p + q| ≤ |p| + |q| := abs_add_le p q
    _ ≤ 2 ^ k + 2 ^ k := add_le_add first second
    _ = 2 ^ (k + 1) := by ring

private theorem abs_mul_le_two_pow (first : |p| ≤ 2 ^ j) (second : |q| ≤ 2 ^ k) :
    |p * q| ≤ 2 ^ (j + k) := by
  rw [abs_mul, pow_add]
  exact mul_le_mul first second (abs_nonneg q) (by positivity)

theorem Within.add (left : Within k x) (right : Within k y) (small : k < 1023) :
    Within (k + 1) (x + y) := by
  obtain ⟨p, first, low⟩ := left
  obtain ⟨q, second, high⟩ := right
  exact (first.add second).within (abs_add_le_two_pow low high) small

theorem Within.sub (left : Within k x) (right : Within k y) (small : k < 1023) :
    Within (k + 1) (x - y) := by
  rw [sub_eq_add]
  exact left.add right.neg small

theorem Within.mul (left : Within j x) (right : Within k y) (small : j + k ≤ 1023) :
    Within (j + k) (x * y) := by
  obtain ⟨p, first, low⟩ := left
  obtain ⟨q, second, high⟩ := right
  exact (first.mul second).within (abs_mul_le_two_pow low high) small

theorem Within.div (left : Within k x) (right : HasValue y q) (one_le : 1 ≤ q) (small : k ≤ 1023) :
    Within k (x / y) := by
  obtain ⟨p, first, bound⟩ := left
  refine (first.div right (by linarith)).within ?_ small
  rw [abs_div, abs_of_pos (by linarith : 0 < q)]
  exact (div_le_self (abs_nonneg p) one_le).trans bound

/-! ## Fused steps -/

/-- A number with a value is an integer times a power of two. -/
private theorem scaled?_of_hasValue (value : HasValue x q) :
    ∃ (m e : ℤ), scaled? x = some (m, e) ∧ (m : ℚ) * 2 ^ e = q := by
  obtain ⟨negative, magnitude, parts, rfl⟩ := exists_parts_of_hasValue value
  refine ⟨if negative then -magnitude.mantissa else magnitude.mantissa, magnitude.exponent, ?_, ?_⟩
  · simp only [scaled?, parts]
  · cases negative with
    | false => simp [signedValue, Binary.value]
    | true => simp [signedValue, Binary.value]

/-- A magnitude of the format becomes a number with its value. -/
theorem hasValue_toFloat {magnitude : Binary} (fits : magnitude.Fits .double) (negative : Bool) :
    HasValue (toFloat negative (some magnitude)) (signedValue negative magnitude) :=
  hasValue_of_parts (fits.ofFloat_toFloat negative)

private theorem abs_signedValue (negative : Bool) (magnitude : Binary) :
    |signedValue negative magnitude| = magnitude.value := by
  have nonneg : 0 ≤ magnitude.value := by
    unfold Binary.value
    positivity
  cases negative with
  | false => exact abs_of_nonneg nonneg
  | true => exact (abs_neg _).trans (abs_of_nonneg nonneg)

/-- The number nearest to a bounded integer times a power of two is bounded. -/
theorem within_nearest (total low : ℤ) (bound : |(total : ℚ) * 2 ^ low| ≤ 2 ^ k) (small : k < 1023)
    (negative : Bool) :
    Within (k + 1) (toFloat negative (BinaryFormat.double.nearest
      (Binary.ratio ⟨total.natAbs, low⟩).1 (Binary.ratio ⟨total.natAbs, low⟩).2)) := by
  obtain ⟨positive, value⟩ := Binary.ratio_value ⟨total.natAbs, low⟩
  have magnitude : Binary.value ⟨total.natAbs, low⟩ = |(total : ℚ) * 2 ^ low| := by
    rw [Binary.value, abs_mul, abs_of_pos (show (0 : ℚ) < 2 ^ low by positivity), Nat.cast_natAbs,
      Int.cast_abs]
  have power : (2 : ℚ) ^ ((53 : ℕ) + ((k : ℤ) - 52)) = 2 ^ (k + 1) := by
    rw [← zpow_natCast]
    congr 1
    push_cast
    ring
  have below : ((Binary.ratio ⟨total.natAbs, low⟩).1 / (Binary.ratio ⟨total.natAbs, low⟩).2 : ℚ) <
      2 ^ ((53 : ℕ) + ((k : ℤ) - 52)) := by
    rw [power, value, magnitude]
    exact bound.trans_lt (pow_lt_pow_right₀ (by norm_num) (by omega))
  obtain ⟨nearest, rounds, le⟩ := BinaryFormat.double.exists_nearest BinaryFormat.double_proper
    positive (show -1074 ≤ (k : ℤ) - 52 by omega) (show (k : ℤ) - 52 < 971 by omega) below
  have fits := BinaryFormat.fits_of_nearest BinaryFormat.double_proper positive rounds
  rw [rounds]
  refine ⟨_, hasValue_toFloat fits negative, ?_⟩
  rw [abs_signedValue, ← power]
  exact le

private theorem raised_value (m : ℤ) {e low : ℤ} (le : low ≤ e) :
    ((m * (Nat.pow 2 (e - low).toNat : ℕ) : ℤ) : ℚ) * 2 ^ low = m * 2 ^ e := by
  obtain ⟨count, rfl⟩ := Int.le.dest le
  rw [add_sub_cancel_left, Int.toNat_natCast, zpow_add₀ two_ne_zero, zpow_natCast, Nat.pow_eq]
  push_cast
  ring

/-- A fused step takes two bits more than its larger part. -/
theorem Within.multiplyAdd (left : Within i x) (right : Within j y) (term : Within k z)
    (product : i + j ≤ n) (sum : k ≤ n) (small : n < 1022) :
    Within (n + 2) (multiplyAdd x y z) := by
  have twice : Within (n + 1) (x * y + z) :=
    ((left.mul right (by omega)).mono product).add (term.mono sum) (by omega)
  obtain ⟨p, first, p_le⟩ := left
  obtain ⟨q, second, q_le⟩ := right
  obtain ⟨v, third, v_le⟩ := term.mono sum
  obtain ⟨ma, ea, scaledA, rfl⟩ := scaled?_of_hasValue first
  obtain ⟨mb, eb, scaledB, rfl⟩ := scaled?_of_hasValue second
  obtain ⟨mc, ec, scaledC, rfl⟩ := scaled?_of_hasValue third
  unfold Numeric.multiplyAdd
  rw [scaledA, scaledB, scaledC]
  dsimp only
  split
  · exact twice.mono (by omega)
  · apply within_nearest _ _ _ (by omega)
    rw [Int.cast_add, add_mul, raised_value _ (min_le_left _ _), raised_value _ (min_le_right _ _)]
    have factors : ((ma * mb : ℤ) : ℚ) * 2 ^ (ea + eb) = ma * 2 ^ ea * (mb * 2 ^ eb) := by
      rw [zpow_add₀ two_ne_zero]
      push_cast
      ring
    rw [factors]
    refine abs_add_le_two_pow ?_ v_le
    exact (abs_mul_le_two_pow p_le q_le).trans (pow_le_pow_right₀ (by norm_num) product)

end SentimentTree.Numeric
