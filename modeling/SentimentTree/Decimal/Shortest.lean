import SentimentTree.Decimal.Binary

/-! # Shortest decimal digits

The fewest decimal digits that round back to a given binary value. For one digit, two digits and so
on, the two neighbours of the value on that decimal grid are tried; the first grid with a hit wins
and of two hits the nearer. The exact expansion stands behind the search, so whatever is returned
rounds back.
-/

namespace SentimentTree.Decimal

/-- The value `coefficient · 10 ^ exponent`. -/
structure Digits where
  coefficient : Nat
  exponent : Int
deriving DecidableEq, Repr

def Digits.ratio (x : Digits) : Nat × Nat :=
  if 0 ≤ x.exponent then (x.coefficient * Nat.pow 10 x.exponent.toNat, 1)
  else (x.coefficient, Nat.pow 10 (-x.exponent).toNat)

def digitCount (n : Nat) : Nat := (Nat.toDigits 10 n).length

/-- The same value with no zero at the end of its coefficient. -/
def Digits.trimmed (x : Digits) : Digits :=
  if x.coefficient = 0 then ⟨0, 0⟩
  else
    let zeros := ((Nat.toDigits 10 x.coefficient).reverse.takeWhile (· == '0')).length
    ⟨x.coefficient / Nat.pow 10 zeros, x.exponent + zeros⟩

/-- The exponent of the leading decimal digit of a fraction. -/
def leadingExponent (num den : Nat) : Int :=
  let high : Int := (digitCount num : Int) - digitCount den
  let reached :=
    if 0 ≤ high then den * Nat.pow 10 high.toNat ≤ num else den ≤ num * Nat.pow 10 (-high).toNat
  if reached then high else high - 1

/-- Which of two equally near neighbours is taken. -/
inductive Tie
  | even
  | up
deriving DecidableEq, Repr

/-- Whether the decimal value rounds to the binary one. -/
def Digits.readsBack (format : BinaryFormat) (x : Binary) (digits : Digits) : Bool :=
  let (num, den) := digits.ratio
  format.nearest num den == some x

/-- Whether the neighbour above is taken, given the quotient and remainder of the value by the
grid. -/
def Tie.takesUpper (tie : Tie) (quotient remainder den : Nat) : Bool :=
  den < 2 * remainder ||
    (den == 2 * remainder && (tie == .up || quotient % 2 == 1))

/-- The neighbour with so many digits that rounds back, the nearer one if both do. -/
def neighbour? (format : BinaryFormat) (tie : Tie) (x : Binary) (count : Nat) : Option Digits :=
  let (num, den) := x.ratio
  let grid : Int := leadingExponent num den + 1 - count
  let (n, d) :=
    if 0 ≤ grid then (num, den * Nat.pow 10 grid.toNat)
    else (num * Nat.pow 10 (-grid).toNat, den)
  let lower : Digits := ⟨n / d, grid⟩
  let upper : Digits := ⟨n / d + 1, grid⟩
  let ordered := if tie.takesUpper (n / d) (n % d) d then [upper, lower] else [lower, upper]
  ordered.find? (·.readsBack format x)

def Binary.expansion (x : Binary) : Digits :=
  if 0 ≤ x.exponent then ⟨x.mantissa * Nat.pow 2 x.exponent.toNat, 0⟩
  else ⟨x.mantissa * Nat.pow 5 (-x.exponent).toNat, x.exponent⟩

/-- The shortest digits of a binary value that belongs to the format. -/
def shortest (format : BinaryFormat) (tie : Tie) (x : Binary) : Digits :=
  if x.mantissa = 0 then ⟨0, 0⟩
  else
    match (List.range' 1 17).findSome? (neighbour? format tie x) with
    | some digits => digits.trimmed
    | none => x.expansion.trimmed

end SentimentTree.Decimal
