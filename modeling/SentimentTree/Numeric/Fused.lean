import SentimentTree.Decimal.Binary

/-! # Multiplying and adding in one step

A product and a sum that are rounded once, after both. The exact value is an integer times a power
of two, so it is computed with integers and rounded to the nearest number.
-/

namespace SentimentTree.Numeric

/-- A finite number as an integer times a power of two, and the exponent of that power. -/
def scaled? (x : Float) : Option (Int × Int) :=
  match Decimal.Parts.ofFloat x with
  | .finite negative magnitude =>
    let mantissa : Int := magnitude.mantissa
    some (if negative then -mantissa else mantissa, magnitude.exponent)
  | .notANumber | .infinite _ => none

/-- The number nearest to `a · b + c`. Where that is zero or a number is not finite, rounding twice
makes no difference. -/
def multiplyAdd (a b c : Float) : Float :=
  match scaled? a, scaled? b, scaled? c with
  | some (ma, ea), some (mb, eb), some (mc, ec) =>
    let low := min (ea + eb) ec
    let raise (mantissa exponent : Int) : Int :=
      mantissa * (Nat.pow 2 (exponent - low).toNat : Nat)
    let total := raise (ma * mb) (ea + eb) + raise mc ec
    if total = 0 then a * b + c
    else
      let (num, den) := Decimal.Binary.ratio ⟨total.natAbs, low⟩
      Decimal.toFloat (total < 0) (Decimal.BinaryFormat.double.nearest num den)
  | _, _, _ => a * b + c

end SentimentTree.Numeric
