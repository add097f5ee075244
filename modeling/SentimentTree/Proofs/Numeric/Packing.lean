import SentimentTree.Proofs.Numeric.Rounding

/-! # Stored numbers

What the bits of a number unpack to is a member of the format, and a rounded number is stored as it
is, or as an infinity when its exponent is too large.
-/

namespace SentimentTree.Numeric

open Float.Model Float.Model.UnpackedFloat

/-- A number of the format: mantissa and exponent normalized, the exponent not too large. -/
def IsCanonical : UnpackedFloat → Prop
  | .finite _ m e _ => IsNormalized m e ∧ e ≤ 971
  | _ => True

def ofFields (s : Sign) (exponent fraction : ℕ) : UnpackedFloat :=
  if exponent = 2047 then if fraction = 0 then .infinity s else .notANumber
  else if exponent = 0 then signedNumber s fraction (-1074)
  else signedNumber s (2 ^ 52 + fraction) (exponent - 1075)

theorem signedNumber_of_pos (s : Sign) {m : ℕ} (e : ℤ) (positive : 0 < m) :
    signedNumber s m e = .finite s m e positive := dif_pos positive

@[simp] theorem signedNumber_zero (s : Sign) (e : ℤ) : signedNumber s 0 e = .zero s := rfl

private theorem toNat_implicit_append (fraction : BitVec 52) :
    (1#1 ++ fraction).toNat = 2 ^ 52 + fraction.toNat := by
  rw [BitVec.toNat_append, ← Nat.shiftLeft_add_eq_or_of_lt fraction.isLt]
  rfl

private theorem unpack_fields (sign : Sign) (exponent : BitVec 11) (fraction : BitVec 52) :
    (if exponent = -1#11 then if fraction = 0#52 then .infinity sign else .notANumber
      else if exponent = 0#11 then
        if nonzero : fraction = 0#52 then .zero sign
        else .finite sign fraction.toNat ((exponent.toNat : ℤ) - 1075 + 1)
          (by simpa [BitVec.toNat_pos, BitVec.pos_iff_ne_zero] using nonzero)
      else .finite sign (1#1 ++ fraction).toNat ((exponent.toNat : ℤ) - 1075)
        (by rw [toNat_implicit_append]; omega)) =
      ofFields sign exponent.toNat fraction.toNat := by
  have last : exponent = -1#11 ↔ exponent.toNat = 2047 := by
    rw [← BitVec.toNat_inj]
    rfl
  have least : exponent = 0#11 ↔ exponent.toNat = 0 := by
    rw [← BitVec.toNat_inj]
    rfl
  have none : fraction = 0#52 ↔ fraction.toNat = 0 := by
    rw [← BitVec.toNat_inj]
    rfl
  unfold ofFields
  simp only [last, least, none]
  split
  · rfl
  · split
    · rename_i zero
      split
      · rename_i empty
        rw [empty, signedNumber_zero]
      · rename_i nonempty
        rw [signedNumber_of_pos _ _ (Nat.pos_of_ne_zero nonempty)]
        simp only [zero]
        rfl
    · rw [signedNumber_of_pos _ _ (by omega)]
      simp only [toNat_implicit_append]

theorem unpack_eq_ofFields (bits : BitVec 64) :
    UnpackedFloat.unpack Format.binary64 bits =
      ofFields (Sign.ofBitVec (@unpackSign Format.binary64 bits))
        (@unpackExponent Format.binary64 bits).toNat
        (@unpackMantissa Format.binary64 bits).toNat := by
  rw [← unpack_fields]
  rfl

/-- What a stored number unpacks to is canonical. -/
theorem isCanonical_ofFields (s : Sign) {exponent fraction : ℕ} (small : exponent < 2048)
    (proper : fraction < 2 ^ 52) : IsCanonical (ofFields s exponent fraction) := by
  unfold ofFields
  split
  · split <;> trivial
  · split
    · unfold signedNumber
      split
      · exact ⟨⟨by omega, by omega, .inr rfl⟩, by omega⟩
      · trivial
    · rw [signedNumber_of_pos _ _ (by omega)]
      exact ⟨⟨by omega, by omega, .inl (by omega)⟩, by omega⟩

theorem isCanonical_unpack (x : Float.Model) : IsCanonical x.unpack := by
  rw [Float.Model.unpack, unpack_eq_ofFields]
  exact isCanonical_ofFields _ (BitVec.isLt _) (BitVec.isLt _)

/-! ## Packing -/

private theorem unpack_packComponents (s : Sign) (exponent : BitVec 11) (fraction : BitVec 52) :
    UnpackedFloat.unpack Format.binary64 (packComponents Format.binary64 s exponent fraction) =
      ofFields s exponent.toNat fraction.toNat := by
  rw [unpack_eq_ofFields, unpackSign_packComponents, unpackExponent_packComponents,
    unpackMantissa_packComponents, Sign.ofBitVec_toBitVec]

/-- A normalized number that is not too large is stored as it is. -/
theorem unpack_pack_signedNumber (s : Sign) {m : ℕ} {e : ℤ} (normalized : IsNormalized m e)
    (small : e ≤ 971) : (Float.Model.pack (signedNumber s m e)).unpack = signedNumber s m e := by
  obtain ⟨bound, least, full⟩ := normalized
  change UnpackedFloat.unpack Format.binary64 (UnpackedFloat.pack Format.binary64 _) = _
  by_cases positive : 0 < m
  · have biased : (e + (Format.binary64.exponentBias : ℤ) +
        Format.binary64.mantissaBitsWithoutImplicit).toNat = (e + 1075).toNat := by
      congr 1
      change e + 1023 + 52 = e + 1075
      omega
    have fits : ¬2 ^ Format.binary64.exponentBits ≤ (e + 1075).toNat + 1 := by
      change ¬2 ^ 11 ≤ (e + 1075).toNat + 1
      omega
    rw [signedNumber_of_pos _ _ positive, UnpackedFloat.pack]
    simp only [biased, fits, if_false]
    split
    · rename_i normal
      have large : 2 ^ 52 ≤ m := by
        have log : m.log2 = 52 := Nat.succ.inj normal
        exact (Nat.le_log2 positive.ne').mp log.ge
      change UnpackedFloat.unpack Format.binary64 (packComponents Format.binary64 s
        (BitVec.ofNat 11 (e + 1075).toNat) (BitVec.ofNat 52 m)) = _
      rw [unpack_packComponents, BitVec.toNat_ofNat, BitVec.toNat_ofNat,
        Nat.mod_eq_of_lt (show (e + 1075).toNat < 2 ^ 11 by omega), ofFields,
        if_neg (by omega), if_neg (by omega), signedNumber_of_pos _ _ (by omega)]
      congr 1 <;> omega
    · rename_i notNormal
      have subnormal : m < 2 ^ 52 := by
        by_contra large
        have low := (Nat.le_log2 positive.ne').mpr (Nat.not_lt.mp large)
        have high := (Nat.log2_lt positive.ne').mpr bound
        exact notNormal (show m.log2 + 1 = 53 by omega)
      obtain rfl : e = -1074 := full.resolve_left (by omega)
      change UnpackedFloat.unpack Format.binary64 (packComponents Format.binary64 s
        (BitVec.ofNat 11 0) (BitVec.ofNat 52 m)) = _
      rw [unpack_packComponents, BitVec.toNat_ofNat, BitVec.toNat_ofNat,
        Nat.mod_eq_of_lt subnormal, ← signedNumber_of_pos _ _ positive]
      rfl
  · obtain rfl : m = 0 := by omega
    rw [signedNumber_zero]
    change UnpackedFloat.unpack Format.binary64 (packComponents Format.binary64 s 0#11 0#52) = _
    rw [unpack_packComponents]
    rfl

/-- A number with too large an exponent is stored as an infinity. -/
theorem unpack_pack_overflow (s : Sign) {m : ℕ} {e : ℤ} (positive : 0 < m) (large : 971 < e) :
    (Float.Model.pack (signedNumber s m e)).unpack = .infinity s := by
  change UnpackedFloat.unpack Format.binary64 (UnpackedFloat.pack Format.binary64 _) = _
  have overflows : 2 ^ Format.binary64.exponentBits ≤ (e + (Format.binary64.exponentBias : ℤ) +
      Format.binary64.mantissaBitsWithoutImplicit).toNat + 1 := by
    change 2 ^ 11 ≤ (e + 1023 + 52).toNat + 1
    omega
  rw [signedNumber_of_pos _ _ positive, UnpackedFloat.pack]
  simp only [overflows, if_true]
  change UnpackedFloat.unpack Format.binary64 (packComponents Format.binary64 s (-1#11) 0#52) = _
  rw [unpack_packComponents]
  rfl

end SentimentTree.Numeric
