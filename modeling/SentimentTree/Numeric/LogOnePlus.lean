import SentimentTree.Numeric.Fused

/-! # The logarithm of one more

`ln (1 + x)` for `x ≥ 1`, by splitting `1 + x` into a power of two and a factor near one, and a
polynomial in `s = f / (2 + f)` for that factor. The order of the floating point operations, and
which products and sums are rounded together, is part of the definition: it fixes the last bit.
-/

namespace SentimentTree.Numeric

/-- The upper part of `ln 2`, short enough that its small multiples are exact. -/
def lnTwoHigh : Float := 6.93147180369123816490e-01

/-- What the upper part leaves of `ln 2`. -/
def lnTwoLow : Float := 1.90821492927058770002e-10

/-- The polynomial for the logarithm of a factor near one, in the square of `s`. -/
def logPolynomial (z : Float) : Float :=
  let r1 := 6.666666666666735130e-01
  let r2 := multiplyAdd z 2.857142874366239149e-01 3.999999999940941908e-01
  let r3 := multiplyAdd z 1.818357216161805012e-01 2.222219843214978396e-01
  let r4 := multiplyAdd z 1.479819860511658591e-01 1.531383769920937332e-01
  let z2 := z * z
  let z4 := z2 * z2
  let z6 := z2 * z4
  multiplyAdd z6 r4 (multiplyAdd z4 r3 (multiplyAdd z r1 (z2 * r2)))

/-- The part `k · ln 2 + ln (1 + f)` given the correction for the rounding of `1 + x`; `nearOne`
says that `f` is too small for the polynomial. -/
def logParts (k f correction : Float) (nearOne : Bool) : Float :=
  let half := 0.5 * f * f
  let low := multiplyAdd k lnTwoLow correction
  if nearOne then
    if f == 0.0 then multiplyAdd k lnTwoHigh low
    else
      let r := half * multiplyAdd (-f) 0.66666666666666666 1.0
      multiplyAdd k lnTwoHigh (-((r - low) - f))
  else
    let s := f / (2.0 + f)
    let r := logPolynomial (s * s)
    multiplyAdd k lnTwoHigh (-((half - (low + s * (r + half))) - f))

/-- `ln (1 + x)` for a finite `x ≥ 1`. -/
def logOnePlus (x : Float) : Float :=
  let large := 9007199254740992.0 ≤ x
  let sum := if large then x else 1.0 + x
  let bits := sum.toBits.toNat
  let exponent := bits / Nat.pow 2 52 - 1023
  let correction :=
    if large then 0.0
    else (if 0 < exponent then 1.0 - (sum - x) else x - (sum - 1.0)) / sum
  let high := bits / Nat.pow 2 32 % Nat.pow 2 20
  let fraction := bits % Nat.pow 2 52
  if high < 0x6A09E then
    let factor := Float.ofBits (UInt64.ofNat (1023 * Nat.pow 2 52 + fraction))
    logParts exponent.toFloat (factor - 1.0) correction (high == 0)
  else
    let factor := Float.ofBits (UInt64.ofNat (1022 * Nat.pow 2 52 + fraction))
    logParts (exponent + 1).toFloat (factor - 1.0) correction ((Nat.pow 2 20 - high) / 4 == 0)

end SentimentTree.Numeric
