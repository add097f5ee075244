import SentimentTree.Proofs.Decimal.Characters
import SentimentTree.Proofs.Decimal.Nearest
import SentimentTree.Proofs.Numeric.Order

/-! # The parts of a number

A finite number is taken apart into a sign and a magnitude of the double format and put together
again without loss, and its value is that of its parts.
-/

namespace SentimentTree.Decimal

open Numeric Float.Model Float.Model.UnpackedFloat

/-! ## Bits -/

/-- Bits that are not those of an infinity or an undefined number are kept. -/
theorem toBits_ofBits {bits : UInt64} (finite : bits.toNat / 2 ^ 52 % 2048 ≠ 2047) :
    (Float.ofBits bits).toBits = bits := by
  have valid : Float.Model.Format.binary64.Valid bits.toBitVec := by
    refine ⟨fun exponent _ => (finite ?_).elim⟩
    rw [← UInt64.toNat_toBitVec, ← unpackExponent_toNat, exponent]
    rfl
  have kept := Float.ofBits_toBits (.ofModel ⟨bits, valid⟩)
  exact congrArg Float.toBits kept

def signedBits (negative : Bool) (x : Binary) : ℕ :=
  negative.toNat * 2 ^ 63 + x.bits

private theorem Binary.Fits.bits_lt {x : Binary} (fits : x.Fits .double) :
    x.bits < 2047 * 2 ^ 52 := by
  obtain ⟨bound, least, greatest, -⟩ := fits
  change x.mantissa < 2 ^ 53 at bound
  change -1074 ≤ x.exponent at least
  change x.exponent ≤ 971 at greatest
  unfold Binary.bits
  simp only [Nat.pow_eq]
  split <;> omega

private theorem Binary.Fits.signedBits_lt {x : Binary} (fits : x.Fits .double) (negative : Bool) :
    signedBits negative x < 2 ^ 64 := by
  have small := fits.bits_lt
  have sign := negative.toNat_le
  unfold signedBits
  omega

/-- A magnitude of the format is found again in its bits. -/
private theorem Binary.Fits.ofBits_signedBits {x : Binary} (fits : x.Fits .double)
    (negative : Bool) :
    Parts.ofBits (signedBits negative x) = .finite negative x := by
  have small := fits.bits_lt
  have sign : decide (2 ^ 63 ≤ signedBits negative x) = negative := by
    cases negative
    · exact decide_eq_false (by rw [signedBits, Bool.toNat_false]; omega)
    · exact decide_eq_true (by rw [signedBits, Bool.toNat_true]; omega)
  have field : signedBits negative x / 2 ^ 52 % 2048 = x.bits / 2 ^ 52 := by
    unfold signedBits
    omega
  have fraction : signedBits negative x % 2 ^ 52 = x.bits % 2 ^ 52 := by
    unfold signedBits
    omega
  obtain ⟨bound, least, greatest, full⟩ := fits
  change x.mantissa < 2 ^ 53 at bound
  change -1074 ≤ x.exponent at least
  change 2 ^ 52 ≤ x.mantissa ∨ x.exponent = -1074 at full
  unfold Parts.ofBits
  simp only [Nat.pow_eq]
  rw [sign, field, fraction, if_neg (by omega)]
  unfold bits
  simp only [Nat.pow_eq]
  rcases x with ⟨m, e⟩
  dsimp only at bound least full ⊢
  split
  · rename_i subnormal
    rw [if_pos (by omega)]
    obtain rfl : e = -1074 := full.resolve_left (by omega)
    rw [Nat.mod_eq_of_lt subnormal]
  · rename_i normal
    obtain ⟨biased, shape⟩ := Int.eq_ofNat_of_zero_le (show 0 ≤ e + 1075 by omega)
    obtain rfl : e = biased - 1075 := by omega
    rw [shape, Int.toNat_natCast, if_neg (by omega)]
    congr 2 <;> omega

private theorem toNat_sign {bits : ℕ} (bound : bits < 2 ^ 64) :
    (decide (2 ^ 63 ≤ bits)).toNat = bits / 2 ^ 63 := by
  rcases Nat.lt_or_ge bits (2 ^ 63) with small | large
  · rw [decide_eq_false small.not_ge, Bool.toNat_false]
    omega
  · rw [decide_eq_true large, Bool.toNat_true]
    omega

/-- A finite number's parts are a magnitude of the format, and its bits are theirs. -/
private theorem signedBits_of_parts {bits : ℕ} (bound : bits < 2 ^ 64) {negative : Bool}
    {x : Binary} (parts : Parts.ofBits bits = .finite negative x) :
    x.Fits .double ∧ signedBits negative x = bits := by
  have sign := toNat_sign bound
  unfold Parts.ofBits at parts
  simp only [Nat.pow_eq] at parts
  split at parts
  · split at parts <;> nomatch parts
  · rename_i finite
    split at parts
    · rename_i subnormal
      obtain ⟨rfl, rfl⟩ := Parts.finite.inj parts
      have small : bits % 2 ^ 52 < 2 ^ 52 := Nat.mod_lt _ (by norm_num)
      refine ⟨⟨?_, le_rfl, ?_, .inr rfl⟩, ?_⟩
      · change bits % 2 ^ 52 < 2 ^ 53
        omega
      · change (-1074 : ℤ) ≤ 971
        omega
      · have kept : Binary.bits ⟨bits % 2 ^ 52, -1074⟩ = bits % 2 ^ 52 := if_pos small
        rw [signedBits, sign, kept]
        omega
    · rename_i normal
      obtain ⟨rfl, rfl⟩ := Parts.finite.inj parts
      have large : ¬bits % 2 ^ 52 + 2 ^ 52 < Nat.pow 2 52 := by
        rw [Nat.pow_eq]
        omega
      refine ⟨⟨?_, ?_, ?_, .inl ?_⟩, ?_⟩
      · change bits % 2 ^ 52 + 2 ^ 52 < 2 ^ 53
        omega
      · change -1074 ≤ ((bits / 2 ^ 52 % 2048 : ℕ) : ℤ) - 1075
        omega
      · change ((bits / 2 ^ 52 % 2048 : ℕ) : ℤ) - 1075 ≤ 971
        omega
      · exact Nat.le_add_left _ _
      · rw [signedBits, sign, Binary.bits, if_neg large, Nat.pow_eq]
        dsimp only
        omega

private theorem toFloat_eq (negative : Bool) (x : Binary) :
    toFloat negative (some x) = .ofBits (.ofNat (signedBits negative x)) := by
  cases negative with
  | false => simp [signedBits, toFloat]
  | true => simp [signedBits, toFloat]

/-- A sign and a magnitude of the format make a number that has them. -/
theorem Binary.Fits.ofFloat_toFloat {x : Binary} (fits : x.Fits .double) (negative : Bool) :
    Parts.ofFloat (toFloat negative (some x)) = .finite negative x := by
  have bound := fits.signedBits_lt negative
  have parts := fits.ofBits_signedBits negative
  have toNat : (UInt64.ofNat (signedBits negative x)).toNat = signedBits negative x :=
    UInt64.toNat_ofNat_of_lt' bound
  have finite : (UInt64.ofNat (signedBits negative x)).toNat / 2 ^ 52 % 2048 ≠ 2047 := by
    have small := fits.bits_lt
    rw [toNat, signedBits]
    omega
  rw [toFloat_eq, Parts.ofFloat, toBits_ofBits finite, toNat, parts]

/-- A finite number is made of its parts. -/
theorem toFloat_of_parts {x : Float} {negative : Bool} {magnitude : Binary}
    (parts : Parts.ofFloat x = .finite negative magnitude) :
    magnitude.Fits .double ∧ toFloat negative (some magnitude) = x := by
  obtain ⟨fits, same⟩ := signedBits_of_parts x.toBits.toNat_lt parts
  refine ⟨fits, ?_⟩
  rw [toFloat_eq, same, UInt64.ofNat_toNat, Float.ofBits_toBits]

/-! ## Values -/

def signedValue (negative : Bool) (x : Binary) : ℚ := if negative then -x.value else x.value

private theorem unpackMantissa_toNat (bits : BitVec 64) :
    (@unpackMantissa Format.binary64 bits).toNat = bits.toNat % 2 ^ 52 := by
  change (bits.toNat >>> 0) % 2 ^ 52 = _
  rw [Nat.shiftRight_zero]

private theorem unpackSign_eq (bits : BitVec 64) :
    Sign.ofBitVec (@unpackSign Format.binary64 bits) =
      if 2 ^ 63 ≤ bits.toNat then .negative else .positive := by
  have bound := bits.isLt
  have toNat : (@unpackSign Format.binary64 bits).toNat = bits.toNat / 2 ^ 63 := by
    change (bits.toNat >>> 63) % 2 ^ 1 = _
    rw [Nat.shiftRight_eq_div_pow]
    omega
  have zero : @unpackSign Format.binary64 bits = 0#1 ↔ ¬2 ^ 63 ≤ bits.toNat := by
    rw [← BitVec.toNat_inj, toNat]
    change bits.toNat / 2 ^ 63 = 0 ↔ _
    omega
  unfold Sign.ofBitVec
  rw [ite_congr (propext zero) (fun _ => rfl) (fun _ => rfl), ite_not]

private theorem withSign_eq (sign : Prop) [Decidable sign] (x : Binary) :
    withSign (if sign then .negative else .positive) (x.mantissa * 2 ^ x.exponent) =
      signedValue (decide sign) x := by
  by_cases negative : sign
  · rw [if_pos negative, decide_eq_true negative]
    rfl
  · rw [if_neg negative, decide_eq_false negative]
    rfl

/-- A number's value is that of its parts. -/
theorem hasValue_of_parts {x : Float} {negative : Bool} {magnitude : Binary}
    (parts : Parts.ofFloat x = .finite negative magnitude) :
    HasValue x (signedValue negative magnitude) := by
  change extentOf? x.toModel.unpack = _
  rw [Float.Model.unpack, unpack_eq_ofFields, unpackExponent_toNat, unpackMantissa_toNat,
    unpackSign_eq]
  change extentOf? (ofFields (if 2 ^ 63 ≤ x.toBits.toNat then _ else _)
    (x.toBits.toNat / 2 ^ 52 % 2048) (x.toBits.toNat % 2 ^ 52)) = _
  unfold Parts.ofFloat Parts.ofBits at parts
  simp only [Nat.pow_eq] at parts
  unfold ofFields
  split at parts
  · split at parts <;> cases parts
  · rename_i finite
    rw [if_neg finite]
    split at parts
    · rename_i least
      obtain ⟨rfl, rfl⟩ := Parts.finite.inj parts
      rw [if_pos least, extentOf?_signedNumber, ← withSign_eq]
      rfl
    · rename_i normal
      obtain ⟨rfl, rfl⟩ := Parts.finite.inj parts
      rw [if_neg normal, extentOf?_signedNumber, ← withSign_eq, Nat.add_comm]
      rfl

/-- A number with a value has parts of that value. -/
theorem exists_parts_of_hasValue {x : Float} {q : ℚ} (value : HasValue x q) :
    ∃ negative magnitude, Parts.ofFloat x = .finite negative magnitude ∧
      signedValue negative magnitude = q := by
  obtain ⟨negative, magnitude, parts⟩ :=
    (isFinite_iff_parts x).mp ((isFinite_iff x).mpr ⟨q, value⟩)
  refine ⟨negative, magnitude, parts, ?_⟩
  have same := Option.some.inj ((hasValue_of_parts parts).symm.trans value)
  exact_mod_cast same

end SentimentTree.Decimal
