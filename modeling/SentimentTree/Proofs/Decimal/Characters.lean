import SentimentTree.Decimal.Layout
import SentimentTree.Proofs.Numeric.Packing

/-! # The characters of numbers

A finite number is written with digits, a point and a minus sign in running text and with a fixed
count of places. A number that is not finite has a letter in its text.
-/

namespace SentimentTree.Decimal

open Numeric Float.Model Float.Model.UnpackedFloat

/-- A digit, a point or a minus sign. -/
def isNumeral (c : Char) : Bool := c.isDigit || c == '.' || c == '-'

/-! ## Finite parts -/

theorem unpackExponent_toNat (bits : BitVec 64) :
    (@unpackExponent Format.binary64 bits).toNat = bits.toNat / 2 ^ 52 % 2048 := by
  change (bits.toNat >>> 52) % 2 ^ 11 = _
  rw [Nat.shiftRight_eq_div_pow]

/-- A number is finite unless its exponent field is full. -/
theorem isFinite_iff_field (x : Float) :
    x.isFinite = true ↔ x.toBits.toNat / 2 ^ 52 % 2048 ≠ 2047 := by
  change x.toModel.unpack.isFinite = true ↔ _
  rw [Float.Model.unpack, unpack_eq_ofFields, unpackExponent_toNat]
  change (ofFields _ (x.toBits.toNat / 2 ^ 52 % 2048) _).isFinite = true ↔ _
  unfold ofFields
  split
  · rename_i full
    rw [full]
    split <;> simp [UnpackedFloat.isFinite]
  · rename_i proper
    refine iff_of_true ?_ proper
    split <;> (unfold signedNumber; split <;> rfl)

/-- Finite numbers are those whose parts are a sign and a magnitude. -/
theorem isFinite_iff_parts (x : Float) :
    x.isFinite = true ↔ ∃ negative magnitude, Parts.ofFloat x = .finite negative magnitude := by
  rw [isFinite_iff_field, Parts.ofFloat, Parts.ofBits]
  simp only [Nat.pow_eq]
  split
  · rename_i full
    split <;> simp [full]
  · rename_i proper
    split <;> simp [proper]

/-! ## Finite numbers -/

theorem isNumeral_of_mem_toDigits {n : ℕ} : ∀ c ∈ Nat.toDigits 10 n, isNumeral c = true := by
  intro c member
  have digit : c.isDigit = true := Nat.isDigit_of_mem_toDigits (by norm_num) le_rfl member
  simp [isNumeral, digit]

private theorem isNumeral_of_mem_pointed {coefficient places : ℕ} :
    ∀ c ∈ pointed coefficient places, isNumeral c = true := by
  have padded : ∀ c ∈ List.replicate (places + 1 - (Nat.toDigits 10 coefficient).length) '0' ++
      Nat.toDigits 10 coefficient, isNumeral c = true := by
    intro c member
    rcases List.mem_append.mp member with zero | digit
    · rw [List.eq_of_mem_replicate zero]
      rfl
    · exact isNumeral_of_mem_toDigits c digit
  intro c member
  rcases List.mem_append.mp member with whole | fraction
  · exact padded c (List.mem_of_mem_take whole)
  · rcases List.mem_cons.mp fraction with rfl | fraction
    · rfl
    · exact padded c (List.mem_of_mem_drop fraction)

private theorem isNumeral_of_mem_signed {negative : Bool} {text : List Char}
    (numerals : ∀ c ∈ text, isNumeral c = true) :
    ∀ c ∈ signed negative text, isNumeral c = true := by
  cases negative with
  | false => exact numerals
  | true =>
    intro c member
    rcases List.mem_cons.mp member with rfl | member
    · rfl
    · exact numerals c member

private theorem isNumeral_of_mem_magnitudeText {format : BinaryFormat} {magnitude : Binary} :
    ∀ c ∈ Layout.sentence.magnitudeText format magnitude, isNumeral c = true := by
  change ∀ c ∈ Layout.sentence.positionalText (shortest format .up magnitude), _
  unfold Layout.positionalText
  split
  · rw [show Layout.sentence.wholeEnd = [] from rfl, List.append_nil]
    exact isNumeral_of_mem_toDigits
  · exact isNumeral_of_mem_pointed

private theorem isNumeral_of_mem_fixedMagnitude {places : ℕ} {magnitude : Binary} :
    ∀ c ∈ fixedMagnitude places magnitude, isNumeral c = true := by
  unfold fixedMagnitude
  dsimp only
  split
  · exact isNumeral_of_mem_toDigits
  · exact isNumeral_of_mem_pointed

variable {x : Float}

theorem isNumeral_of_mem_plainText (finite : x.isFinite = true) :
    ∀ c ∈ plainText x, isNumeral c = true := by
  obtain ⟨negative, magnitude, parts⟩ := (isFinite_iff_parts x).mp finite
  rw [plainText, parts]
  exact isNumeral_of_mem_signed isNumeral_of_mem_magnitudeText

theorem isNumeral_of_mem_fixedText {places : ℕ} (finite : x.isFinite = true) :
    ∀ c ∈ fixedText places x, isNumeral c = true := by
  obtain ⟨negative, magnitude, parts⟩ := (isFinite_iff_parts x).mp finite
  rw [fixedText, parts]
  exact isNumeral_of_mem_signed isNumeral_of_mem_fixedMagnitude

/-! ## Other numbers -/

theorem letter_of_not_finite (infinite : x.isFinite = false) (places : ℕ) :
    ('N' ∈ plainText x ∨ 'i' ∈ plainText x) ∧
      ('N' ∈ fixedText places x ∨ 'i' ∈ fixedText places x) := by
  have parts := (isFinite_iff_parts x).not.mp (Bool.eq_false_iff.mp infinite)
  rw [plainText, fixedText]
  cases shape : Parts.ofFloat x with
  | notANumber => simp [nanText]
  | infinite negative => cases negative <;> simp [signed, infinityText]
  | finite negative magnitude => exact (parts ⟨negative, magnitude, shape⟩).elim

/-! ## Any numbers -/

/-- A character of the text of a number that need not be finite. -/
def isFigure (c : Char) : Bool := isNumeral c || ['N', 'a', 'i', 'n', 'f'].contains c

theorem isFigure_of_isNumeral {c : Char} (numeral : isNumeral c = true) : isFigure c = true := by
  simp [isFigure, numeral]

/-- What is not finite is written with letters and a sign. -/
private theorem isFigure_of_not_finite (negative : Bool) :
    (∀ c ∈ nanText, isFigure c = true) ∧ ∀ c ∈ signed negative infinityText, isFigure c = true := by
  cases negative <;> simp [nanText, infinityText, signed, isFigure, isNumeral]

theorem isFigure_of_mem_plainText : ∀ c ∈ plainText x, isFigure c = true := by
  rw [plainText]
  cases Parts.ofFloat x with
  | notANumber => exact (isFigure_of_not_finite false).1
  | infinite negative => exact (isFigure_of_not_finite negative).2
  | finite negative magnitude =>
    intro c member
    exact isFigure_of_isNumeral (isNumeral_of_mem_signed isNumeral_of_mem_magnitudeText c member)

theorem isFigure_of_mem_fixedText {places : ℕ} : ∀ c ∈ fixedText places x, isFigure c = true := by
  rw [fixedText]
  cases Parts.ofFloat x with
  | notANumber => exact (isFigure_of_not_finite false).1
  | infinite negative => exact (isFigure_of_not_finite negative).2
  | finite negative magnitude =>
    intro c member
    exact isFigure_of_isNumeral (isNumeral_of_mem_signed isNumeral_of_mem_fixedMagnitude c member)

end SentimentTree.Decimal
