/-! # Binary fractions

A finite floating point number is a mantissa times a power of two. This module decodes and encodes
that view, and rounds any fraction of natural numbers to the nearest member of a binary format.
Rounding is exact arithmetic on natural numbers, so nothing here depends on hardware.
-/

namespace SentimentTree.Decimal

/-- The value `mantissa · 2 ^ exponent`. -/
structure Binary where
  mantissa : Nat
  exponent : Int
deriving DecidableEq, Repr

def Binary.ratio (x : Binary) : Nat × Nat :=
  if 0 ≤ x.exponent then (x.mantissa * Nat.pow 2 x.exponent.toNat, 1)
  else (x.mantissa, Nat.pow 2 (-x.exponent).toNat)

/-- The mantissas below `2 ^ precision` with the exponents between two bounds. -/
structure BinaryFormat where
  precision : Nat
  minExponent : Int
  maxExponent : Int

def BinaryFormat.double : BinaryFormat := ⟨53, -1074, 971⟩

def BinaryFormat.single : BinaryFormat := ⟨24, -149, 104⟩

/-- The quotient rounded to the nearest natural number, a half to the even one. -/
def roundEven (num den : Nat) : Nat :=
  let quotient := num / den
  let rest := 2 * (num % den)
  if rest < den then quotient
  else if den < rest then quotient + 1
  else if quotient % 2 = 0 then quotient else quotient + 1

/-- The fraction divided by a power of two, as a numerator over a denominator. -/
def scaleDown (num den : Nat) (exponent : Int) : Nat × Nat :=
  if 0 ≤ exponent then (num, den * Nat.pow 2 exponent.toNat)
  else (num * Nat.pow 2 (-exponent).toNat, den)

/-- The exponent at which the fraction has the full precision, if the format has it. -/
def BinaryFormat.exponentFor (format : BinaryFormat) (num den : Nat) : Int :=
  let low : Int := (Nat.log2 num : Int) - Nat.log2 den - format.precision
  let (n, d) := scaleDown num den low
  max format.minExponent (if n / d < Nat.pow 2 format.precision then low else low + 1)

/-- The member of the format nearest to a fraction, a half to the even mantissa; `none` when the
fraction rounds beyond the largest one. -/
def BinaryFormat.nearest (format : BinaryFormat) (num den : Nat) : Option Binary :=
  if num = 0 then some ⟨0, format.minExponent⟩
  else
    let exponent := format.exponentFor num den
    let (n, d) := scaleDown num den exponent
    let mantissa := roundEven n d
    let rounded : Binary :=
      if mantissa = Nat.pow 2 format.precision then ⟨Nat.pow 2 (format.precision - 1), exponent + 1⟩
      else ⟨mantissa, exponent⟩
    if rounded.exponent ≤ format.maxExponent then some rounded else none

/-- What a floating point number holds. -/
inductive Parts
  | notANumber
  | infinite (negative : Bool)
  | finite (negative : Bool) (magnitude : Binary)
deriving DecidableEq, Repr

/-- The parts that the bits of a double encode. -/
def Parts.ofBits (bits : Nat) : Parts :=
  let negative := decide (Nat.pow 2 63 ≤ bits)
  let field : Nat := bits / Nat.pow 2 52 % 2048
  let fraction : Nat := bits % Nat.pow 2 52
  if field = 2047 then
    if fraction = 0 then .infinite negative else .notANumber
  else if field = 0 then .finite negative ⟨fraction, -1074⟩
  else .finite negative ⟨fraction + Nat.pow 2 52, (field : Int) - 1075⟩

def Parts.ofFloat (x : Float) : Parts := .ofBits x.toBits.toNat

/-- The bits of a magnitude that belongs to the double format. -/
def Binary.bits (x : Binary) : Nat :=
  if x.mantissa < Nat.pow 2 52 then x.mantissa
  else (x.exponent + 1075).toNat * Nat.pow 2 52 + (x.mantissa - Nat.pow 2 52)

/-- The number with the given sign and magnitude; no magnitude stands for infinity. -/
def toFloat (negative : Bool) (magnitude : Option Binary) : Float :=
  let bits := match magnitude with
    | some x => x.bits
    | none => 2047 * Nat.pow 2 52
  Float.ofBits (UInt64.ofNat (if negative then Nat.pow 2 63 + bits else bits))

def toSingle (x : Float) : Float :=
  match Parts.ofFloat x with
  | .finite negative magnitude =>
    let (num, den) := magnitude.ratio
    match BinaryFormat.single.nearest num den with
    | some rounded =>
      let (n, d) := rounded.ratio
      toFloat negative (BinaryFormat.double.nearest n d)
    | none => toFloat negative none
  | _ => x

end SentimentTree.Decimal
