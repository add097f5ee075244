import Mathlib

/-! # Rounding keeps what lies between

A magnitude that does not fit the format is cut down bit by bit, with one bit and a flag kept for
what is lost, and then rounded. What matters here is not the error but the order: a number of the
format below the exact magnitude stays below the rounded one, and a number above stays above
(`Brackets`). Bounds on results then follow from bounds on exact values, with no error analysis.
-/

namespace SentimentTree.Numeric

open Float.Model Float.Model.UnpackedFloat

/-- The exact magnitude, in units of the mantissa's last place, that an extended mantissa stands
for. -/
def Describes (em : ExtendedMantissa) (x : ℚ) : Prop :=
  match em.roundBit, em.stickyBit with
  | false, false => x = em.mantissa
  | false, true => em.mantissa < x ∧ x < em.mantissa + 1 / 2
  | true, false => x = em.mantissa + 1 / 2
  | true, true => em.mantissa + 1 / 2 < x ∧ x < em.mantissa + 1

namespace Describes

variable {em : ExtendedMantissa} {x : ℚ}

private theorem floor (describes : Describes em x) : em.mantissa ≤ x ∧ x < em.mantissa + 1 := by
  rcases em with ⟨m, r, s⟩
  cases r <;> cases s <;> simp only [Describes] at describes ⊢ <;> constructor <;> linarith

private theorem shiftRightOne (describes : Describes em x) :
    Describes em.shiftRightOne (x / 2) := by
  rcases em with ⟨m, r, s⟩
  obtain ⟨half, rfl | rfl⟩ := Nat.even_or_odd' m
  · have halved : 2 * half / 2 = half := by omega
    have even : (2 * half % 2 != 0) = false := by simp
    cases r <;> cases s <;>
      simp only [Describes, ExtendedMantissa.shiftRightOne, halved, even, Bool.or_false,
        Bool.or_true, Nat.cast_mul, Nat.cast_ofNat] at describes ⊢
    · linarith
    · exact ⟨by linarith, by linarith⟩
    · exact ⟨by linarith, by linarith⟩
    · exact ⟨by linarith, by linarith⟩
  · have halved : (2 * half + 1) / 2 = half := by omega
    have odd : ((2 * half + 1) % 2 != 0) = true := by simp
    cases r <;> cases s <;>
      simp only [Describes, ExtendedMantissa.shiftRightOne, halved, odd, Bool.or_false,
        Bool.or_true, Nat.cast_add, Nat.cast_mul, Nat.cast_ofNat, Nat.cast_one] at describes ⊢
    · linarith
    · exact ⟨by linarith, by linarith⟩
    · exact ⟨by linarith, by linarith⟩
    · exact ⟨by linarith, by linarith⟩

private theorem shiftRight (describes : Describes em x) (count : ℕ) :
    Describes (em >>> count) (x / 2 ^ count) := by
  induction count with
  | zero =>
    rw [pow_zero, div_one]
    exact describes
  | succ count ih =>
    have next := ih.shiftRightOne
    rw [div_div, ← pow_succ] at next
    exact next

/-- A whole number below the exact magnitude is not above the rounded one. -/
private theorem le_rounded (describes : Describes em x) {n : ℕ} (below : n ≤ x) :
    n ≤ em.roundedMantissa := by
  have whole : n ≤ em.mantissa := by
    have := describes.floor.2
    have : (n : ℚ) < em.mantissa + 1 := by linarith
    exact Nat.lt_succ_iff.mp (by exact_mod_cast this)
  refine whole.trans ?_
  rcases em with ⟨m, r, s⟩
  cases r <;> cases s <;>
    simp [ExtendedMantissa.roundedMantissa, ExtendedMantissa.accuracy, Accuracy.roundToNearestEven]

/-- A whole number above the exact magnitude is not below the rounded one. -/
private theorem rounded_le (describes : Describes em x) {n : ℕ} (above : x ≤ n) :
    em.roundedMantissa ≤ n := by
  rcases em with ⟨m, r, s⟩
  cases r <;> cases s <;>
    simp only [Describes, ExtendedMantissa.roundedMantissa, ExtendedMantissa.accuracy,
      Accuracy.roundToNearestEven] at describes ⊢
  · exact_mod_cast describes ▸ above
  · have : (m : ℚ) < n := by linarith [describes.1]
    exact le_of_lt (by exact_mod_cast this)
  · have : (m : ℚ) < n := by linarith
    have : m < n := by exact_mod_cast this
    omega
  · have : (m : ℚ) < n := by linarith [describes.1]
    have : m < n := by exact_mod_cast this
    omega

end Describes

private theorem ofMantissaAndAccuracy_mantissa (m : ℕ) (accuracy : Accuracy) :
    (ExtendedMantissa.ofMantissaAndAccuracy m accuracy).mantissa = m := by
  cases accuracy with
  | exact => rfl
  | inexact order => cases order <;> rfl

theorem describes_exact (m : ℕ) : Describes (.ofMantissaAndAccuracy m .exact) m := rfl

/-- A quotient that is cut down to a whole number is described by that number and its remainder. -/
theorem describes_fraction {num den : ℕ} (positive : 0 < den) :
    Describes (.ofMantissaAndAccuracy (num / den) (accuracyOfFraction (num % den) den))
      ((num : ℚ) / den) := by
  have den_pos : (0 : ℚ) < den := by exact_mod_cast positive
  have split : (num : ℚ) / den = (num / den : ℕ) + (num % den : ℕ) / (den : ℚ) := by
    rw [eq_comm, add_div_eq_mul_add_div _ _ den_pos.ne', div_left_inj' den_pos.ne']
    exact_mod_cast Nat.div_add_mod' num den
  have proper : num % den < den := Nat.mod_lt _ positive
  rw [split]
  generalize num / den = quotient
  generalize num % den = remainder at proper
  unfold accuracyOfFraction
  split
  · rename_i zero
    simp [Describes, ExtendedMantissa.ofMantissaAndAccuracy, zero]
  · rename_i nonzero
    have above : (0 : ℚ) < remainder / den := by
      have : (0 : ℚ) < remainder := by exact_mod_cast Nat.pos_of_ne_zero nonzero
      positivity
    have below : (remainder : ℚ) / den < 1 := (div_lt_one den_pos).mpr (by exact_mod_cast proper)
    rcases Nat.lt_trichotomy (2 * remainder) den with less | half | more
    · have : (remainder : ℚ) / den < 1 / 2 := by
        rw [div_lt_div_iff₀ den_pos (by norm_num)]
        exact_mod_cast (by omega : remainder * 2 < 1 * den)
      rw [Nat.compare_eq_lt.mpr less]
      change (quotient : ℚ) < quotient + remainder / den ∧ _ < (quotient : ℚ) + 1 / 2
      exact ⟨by linarith, by linarith⟩
    · have : (remainder : ℚ) / den = 1 / 2 := by
        rw [div_eq_div_iff den_pos.ne' (by norm_num)]
        exact_mod_cast (by omega : remainder * 2 = 1 * den)
      rw [Nat.compare_eq_eq.mpr half, this]
      rfl
    · have : (1 : ℚ) / 2 < remainder / den := by
        rw [div_lt_div_iff₀ (by norm_num) den_pos]
        exact_mod_cast (by omega : 1 * den < remainder * 2)
      rw [Nat.compare_eq_gt.mpr more]
      change (quotient : ℚ) + 1 / 2 < quotient + remainder / den ∧ _ < (quotient : ℚ) + 1
      exact ⟨by linarith, by linarith⟩

/-! ## The members of the format -/

/-- The magnitudes that fit the format, those beyond its largest exponent included. -/
def Fits (v : ℚ) : Prop := ∃ (m : ℕ) (e : ℤ), m < 2 ^ 53 ∧ -1074 ≤ e ∧ v = m * 2 ^ e

/-- A magnitude that lies on the same side of every magnitude that fits as the exact one does, or
meets it. -/
def Brackets (x v : ℚ) : Prop := ∀ w, Fits w → (w ≤ x → w ≤ v) ∧ (x ≤ w → v ≤ w)

/-- The number with a sign, a mantissa and an exponent. -/
def signedNumber (s : Sign) (m : ℕ) (e : ℤ) : UnpackedFloat :=
  if positive : 0 < m then .finite s m e positive else .zero s

/-- Mantissa and exponent are those that the format gives their magnitude. -/
def IsNormalized (m : ℕ) (e : ℤ) : Prop := m < 2 ^ 53 ∧ -1074 ≤ e ∧ (2 ^ 52 ≤ m ∨ e = -1074)

theorem IsNormalized.fits {m : ℕ} {e : ℤ} (normalized : IsNormalized m e) :
    Fits (m * 2 ^ e) := ⟨m, e, normalized.1, normalized.2.1, rfl⟩

private theorem two_zpow_add (e : ℤ) (count : ℕ) :
    (2 : ℚ) ^ (e + count) = 2 ^ e * 2 ^ count := by
  rw [zpow_add₀ (by norm_num), zpow_natCast]

/-- Rounding to a whole number of units brackets, unless the unit is too coarse for the format. -/
private theorem brackets_of_units {x : ℚ} {n : ℕ} {e : ℤ}
    (low : ∀ w : ℕ, (w : ℚ) ≤ x → w ≤ n) (high : ∀ w : ℕ, x ≤ w → n ≤ w)
    (fine : e = -1074 ∨ 2 ^ 52 ≤ x) : Brackets (x * 2 ^ e) (n * 2 ^ e) := by
  rintro w ⟨m, f, bound, least, rfl⟩
  have unit : (0 : ℚ) < 2 ^ e := by positivity
  by_cases coarse : e ≤ f
  · obtain ⟨count, rfl⟩ := Int.le.dest coarse
    have units : (m : ℚ) * 2 ^ (e + count) = (m * 2 ^ count : ℕ) * 2 ^ e := by
      rw [two_zpow_add]
      push_cast
      ring
    rw [units, mul_le_mul_iff_of_pos_right unit, mul_le_mul_iff_of_pos_right unit,
      mul_le_mul_iff_of_pos_right unit, mul_le_mul_iff_of_pos_right unit]
    exact ⟨fun below => by exact_mod_cast low _ below, fun above => by exact_mod_cast high _ above⟩
  · have large : (2 : ℚ) ^ 52 ≤ x := fine.resolve_left (by omega)
    have whole : 2 ^ 52 ≤ n := low (2 ^ 52) (by exact_mod_cast large)
    obtain ⟨count, split⟩ := Int.le.dest (show f + 1 ≤ e by omega)
    have finer : (2 : ℚ) ^ f * 2 ≤ 2 ^ e := by
      have : (2 : ℚ) ^ f * 2 = 2 ^ (f + 1) := by rw [zpow_add₀ (by norm_num), zpow_one]
      rw [this]
      exact zpow_le_zpow_right₀ (by norm_num) (by omega)
    have small : (m : ℚ) * 2 ^ f < 2 ^ 52 * 2 ^ e := by
      have mantissa : (m : ℚ) < 2 ^ 53 := by exact_mod_cast bound
      have positive : (0 : ℚ) < 2 ^ f := by positivity
      nlinarith
    have rounded : (2 : ℚ) ^ 52 * 2 ^ e ≤ n * 2 ^ e :=
      mul_le_mul_of_nonneg_right (by exact_mod_cast whole) unit.le
    have exact : (2 : ℚ) ^ 52 * 2 ^ e ≤ x * 2 ^ e := mul_le_mul_of_nonneg_right large unit.le
    exact ⟨fun _ => by linarith, fun above => by linarith⟩

/-! ## Rounding a magnitude -/

private theorem targetExponent_eq (m : ℕ) (e : ℤ) :
    Format.binary64.targetExponent (totalExponent m e) = max ((m.log2 : ℤ) + e - 52) (-1074) := by
  simp only [Format.targetExponent, totalExponent, Format.mantissaBits, Format.minExponent]
  norm_num
  omega

private theorem lt_two_pow_log2 (m : ℕ) : m + 1 ≤ 2 ^ (m.log2 + 1) := Nat.lt_log2_self

/-- The first cut leaves at most fifty-three bits, and as many as that unless the exponent is the
least one. -/
private theorem shiftToTargetExponent_spec {m : ℕ} {e : ℤ} {accuracy : Accuracy} {x : ℚ}
    (describes : Describes (.ofMantissaAndAccuracy m accuracy) x)
    (full : 2 ^ 52 ≤ m ∨ e ≤ -1074) :
    ∃ (em : ExtendedMantissa) (t : ℤ) (y : ℚ),
      shiftToTargetExponent Format.binary64 m e accuracy = (em, t) ∧
      Describes em y ∧ y * 2 ^ t = x * 2 ^ e ∧ y < 2 ^ 53 ∧ -1074 ≤ t ∧
      (t = -1074 ∨ 2 ^ 52 ≤ y) := by
  obtain ⟨low, high⟩ := describes.floor
  rw [ofMantissaAndAccuracy_mantissa] at low high
  have log : 2 ^ 52 ≤ m → 52 ≤ m.log2 := fun large => (Nat.le_log2 (by omega)).mpr large
  obtain ⟨count, cut⟩ : ∃ count : ℕ, max ((m.log2 : ℤ) + e - 52) (-1074) = e + count :=
    ⟨(max ((m.log2 : ℤ) + e - 52) (-1074) - e).toNat, by omega⟩
  refine ⟨ExtendedMantissa.ofMantissaAndAccuracy m accuracy >>> count, e + count, x / 2 ^ count, ?_,
    describes.shiftRight count, ?_, ?_, by omega, ?_⟩
  · have amount : (e + (count : ℤ) - e).toNat = count := by omega
    simp only [shiftToTargetExponent, targetExponent_eq, cut, shiftToExponent, amount]
  · rw [two_zpow_add]
    field_simp
  · rw [div_lt_iff₀ (by positivity), ← pow_add]
    have bits : 2 ^ (m.log2 + 1) ≤ 2 ^ (53 + count) := Nat.pow_le_pow_right (by norm_num) (by omega)
    have : ((m + 1 : ℕ) : ℚ) ≤ (2 ^ (53 + count) : ℕ) := by
      exact_mod_cast (lt_two_pow_log2 m).trans bits
    push_cast at this
    linarith
  · by_cases least : e + (count : ℤ) = -1074
    · exact .inl least
    · right
      have nonzero : m ≠ 0 := by
        rintro rfl
        simp only [Nat.log2_zero] at cut
        omega
      have bits : 52 + count = m.log2 := by omega
      rw [le_div_iff₀ (by positivity), ← pow_add, bits]
      have : ((2 ^ m.log2 : ℕ) : ℚ) ≤ m := by exact_mod_cast Nat.log2_self_le nonzero
      push_cast at this
      linarith

/-- The second cut only moves a carry. -/
private theorem shiftToTargetExponent_carry {n : ℕ} {t : ℤ} (bound : n ≤ 2 ^ 53)
    (least : -1074 ≤ t) (full : t = -1074 ∨ 2 ^ 52 ≤ n) :
    ∃ (m : ℕ) (e : ℤ), shiftToTargetExponent Format.binary64 n t .exact = (⟨m, false, false⟩, e) ∧
      IsNormalized m e ∧ (m : ℚ) * 2 ^ e = n * 2 ^ t := by
  rcases bound.lt_or_eq with small | rfl
  · have log : n.log2 ≤ 52 := by
      by_cases zero : n = 0
      · simp [zero]
      · exact Nat.lt_succ_iff.mp ((Nat.log2_lt zero).mpr small)
    have amount : (max ((n.log2 : ℤ) + t - 52) (-1074) - t).toNat = 0 := by omega
    refine ⟨n, t, ?_, ⟨small, least, full.symm⟩, rfl⟩
    simp only [shiftToTargetExponent, targetExponent_eq, shiftToExponent, amount]
    exact Prod.ext rfl (Int.add_zero t)
  · have amount : (max (((2 ^ 53).log2 : ℤ) + t - 52) (-1074) - t).toNat = 1 := by
      rw [Nat.log2_two_pow]
      omega
    refine ⟨2 ^ 52, t + 1, ?_, ⟨by norm_num, by omega, .inl le_rfl⟩, ?_⟩
    · simp only [shiftToTargetExponent, targetExponent_eq, shiftToExponent, amount]
      rfl
    · rw [zpow_add₀ (by norm_num), zpow_one]
      push_cast
      ring

theorem roundWithAccuracy_spec (s : Sign) {m : ℕ} {e : ℤ} {accuracy : Accuracy} {x : ℚ}
    (describes : Describes (.ofMantissaAndAccuracy m accuracy) x)
    (full : 2 ^ 52 ≤ m ∨ e ≤ -1074) :
    ∃ (m' : ℕ) (e' : ℤ),
      roundWithAccuracy Format.binary64 s m e accuracy = signedNumber s m' e' ∧
      IsNormalized m' e' ∧ Brackets (x * 2 ^ e) (m' * 2 ^ e') := by
  obtain ⟨em, t, y, cut, rest, same, small, least, fine⟩ :=
    shiftToTargetExponent_spec describes full
  have bound : em.roundedMantissa ≤ 2 ^ 53 := rest.rounded_le (by push_cast; exact small.le)
  have large : t = -1074 ∨ 2 ^ 52 ≤ em.roundedMantissa :=
    fine.imp_right fun large => rest.le_rounded (by push_cast; exact large)
  obtain ⟨m', e', carry, normalized, value⟩ := shiftToTargetExponent_carry bound least large
  refine ⟨m', e', ?_, normalized, ?_⟩
  · simp only [roundWithAccuracy, cut, carry, signedNumber, Nat.pos_iff_ne_zero]
    split <;> simp_all
  · rw [← same, value]
    exact brackets_of_units (fun _ below => rest.le_rounded below)
      (fun _ above => rest.rounded_le above) fine

private theorem decreaseExponent_spec {m : ℕ} (positive : 0 < m) (e : ℤ) :
    ∃ (m' : ℕ) (e' : ℤ),
      decreaseExponent m e (Format.binary64.targetExponent (totalExponent m e)) = (m', e') ∧
      (2 ^ 52 ≤ m' ∨ e' ≤ -1074) ∧ (m' : ℚ) * 2 ^ e' = m * 2 ^ e := by
  rw [targetExponent_eq]
  obtain ⟨count, amount⟩ : ∃ count : ℕ,
      (e - max ((m.log2 : ℤ) + e - 52) (-1074)).toNat = count := ⟨_, rfl⟩
  refine ⟨m <<< count, e - count, ?_, ?_, ?_⟩
  · simp only [decreaseExponent, amount]
  · by_cases least : e - (count : ℤ) ≤ -1074
    · exact .inr least
    · left
      rw [Nat.shiftLeft_eq]
      calc 2 ^ 52 ≤ 2 ^ (m.log2 + count) := Nat.pow_le_pow_right (by norm_num) (by omega)
        _ = 2 ^ m.log2 * 2 ^ count := pow_add _ _ _
        _ ≤ m * 2 ^ count := Nat.mul_le_mul_right _ (Nat.log2_self_le positive.ne')
  · have split : (2 : ℚ) ^ e = 2 ^ (e - (count : ℤ)) * 2 ^ count := by
      rw [← two_zpow_add, sub_add_cancel]
    rw [Nat.shiftLeft_eq, split]
    push_cast
    ring

theorem round_spec (s : Sign) {m : ℕ} (positive : 0 < m) (e : ℤ) :
    ∃ (m' : ℕ) (e' : ℤ), UnpackedFloat.round Format.binary64 s m e = signedNumber s m' e' ∧
      IsNormalized m' e' ∧ Brackets (m * 2 ^ e) (m' * 2 ^ e') := by
  obtain ⟨wide, lower, moved, full, same⟩ := decreaseExponent_spec positive e
  obtain ⟨m', e', rounded, normalized, brackets⟩ :=
    roundWithAccuracy_spec s (describes_exact wide) full
  refine ⟨m', e', ?_, normalized, same ▸ brackets⟩
  simp only [UnpackedFloat.round, moved, rounded]

end SentimentTree.Numeric
