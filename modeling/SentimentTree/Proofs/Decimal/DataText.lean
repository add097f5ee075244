import SentimentTree.Json.Writer
import SentimentTree.Proofs.Decimal.Literal
import SentimentTree.Proofs.Decimal.Parts

/-! # Numbers survive data files

The text of a finite number in data files is a literal that reads back as the same number, bit for
bit, and whatever is read from a data file is finite.
-/

namespace SentimentTree

open Decimal

namespace Json

open Decimal.Literal

/-- What is read as a number is finite. -/
theorem isFinite_of_float? {value : Json} {x : Float} (reads : value.float? = some x) :
    x.isFinite = true := by
  rw [isFinite_iff_parts]
  unfold float? at reads
  split at reads
  · rename_i literal
    dsimp only at reads
    split at reads
    · rename_i digits _
      obtain ⟨magnitude, read, rfl⟩ := Option.map_eq_some_iff.mp reads
      have fits := digits.fits_of_toBinary? BinaryFormat.double_proper read
      exact ⟨_, _, fits.ofFloat_toFloat _⟩
    · nomatch reads
  · nomatch reads

/-- The text of a magnitude of the format reads back as it. -/
private theorem toBinary?_of_value {digits : Digits} {x : Binary} (fits : x.Fits .double)
    (value : digits.value = (shortest .double .even x).value) :
    digits.toBinary? .double = some x := by
  obtain ⟨ratio_pos, ratio⟩ := digits.ratio_value
  rcases Nat.eq_zero_or_pos x.mantissa with zero | positive
  · have exponent : x.exponent = BinaryFormat.double.minExponent :=
      fits.full.resolve_left (by rw [zero]; exact (Nat.two_pow_pos _).not_ge)
    have coefficient : digits.coefficient = 0 := by
      rw [shortest, if_pos zero, Digits.value, Digits.value, Nat.cast_zero, zero_mul,
        mul_eq_zero] at value
      exact_mod_cast value.resolve_right (by positivity)
    rw [Digits.toBinary?, if_pos coefficient, ← exponent, ← zero]
  · apply Digits.toBinary?_eq _ positive.ne'
    exact fits.nearest_shortest BinaryFormat.double_proper ratio_pos (ratio.trans value)

/-- A literal with a sign reads as the number of the sign and the literal's magnitude. -/
theorem float?_signed {literal : Literal} (wellFormed : literal.WellFormed) (negative : Bool) :
    (Json.number (signed negative literal.text)).float? =
      (literal.digits.toBinary? .double).map fun x => toFloat negative (some x) := by
  have reads := wellFormed.readMagnitude?_text
  obtain ⟨c, after, shape, digit⟩ := wellFormed.exists_digit
  cases negative with
  | true =>
    unfold signed float?
    simp only [if_true, reads]
  | false =>
    have unsigned : c ≠ '-' := ne_of_isDigit digit rfl
    unfold signed float?
    rw [shape] at reads ⊢
    simp [unsigned, reads]

/-- A finite number is written as a number literal that reads back as the same number. -/
theorem float_spec {x : Float} (finite : x.isFinite = true) :
    ∃ (negative : Bool) (literal : Literal), literal.WellFormed ∧
      Json.float x = .number (signed negative literal.text) ∧
      (Json.float x).float? = some x := by
  obtain ⟨negative, magnitude, parts⟩ := (isFinite_iff_parts x).mp finite
  obtain ⟨fits, made⟩ := toFloat_of_parts parts
  obtain ⟨literal, wellFormed, value, text⟩ := exists_literal_magnitudeText .double magnitude
  have written : Json.float x = .number (signed negative literal.text) := by
    rw [Json.float, dataText?, parts, text]
  refine ⟨negative, literal, wellFormed, written, ?_⟩
  rw [written, float?_signed wellFormed, toBinary?_of_value fits value, Option.map_some, made]

end Json

end SentimentTree
