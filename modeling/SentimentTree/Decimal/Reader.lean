import SentimentTree.Decimal.Shortest

/-! # Reading numbers

Decimal digits read as natural numbers, bounded integers with an optional sign, and decimal
literals rounded to the nearest floating point number.
-/

namespace SentimentTree.Decimal

/-- A decimal digit of ASCII. -/
def isDigit (c : Char) : Bool := '0' ≤ c && c ≤ '9'

/-- The natural number written with at least one digit and nothing else. -/
def readNat? (text : List Char) : Option Nat :=
  if text.isEmpty || !text.all isDigit then none else some (Nat.ofDigitChars 10 text 0)

/-- A natural number up to a bound; a plus sign may stand in front. -/
def readUnsigned? (bound : Nat) (text : List Char) : Option Nat :=
  let digits := match text with
    | '+' :: rest => rest
    | _ => text
  (readNat? digits).filter (· ≤ bound)

/-- An integer between two bounds, with an optional sign. -/
def readSigned? (least greatest : Int) (text : List Char) : Option Int :=
  let value := match text with
    | '-' :: rest => (readNat? rest).map fun n => -(n : Int)
    | '+' :: rest => (readNat? rest).map Int.ofNat
    | _ => (readNat? text).map Int.ofNat
  value.filter fun n => least ≤ n && n ≤ greatest

/-- The largest natural number of sixty-four bits. -/
def maxUnsigned64 : Nat := Nat.pow 2 64 - 1

/-- The magnitude nearest to a decimal value; `none` when it is too large. Values far outside the
range are settled without computing the power of ten. -/
def Digits.toBinary? (format : BinaryFormat) (x : Digits) : Option Binary :=
  if x.coefficient = 0 then some ⟨0, format.minExponent⟩
  else
    let size : Int := digitCount x.coefficient + x.exponent
    if 400 < size then none
    else if size < -400 then some ⟨0, format.minExponent⟩
    else
      let (num, den) := x.ratio
      format.nearest num den

/-- The double nearest to a signed decimal value; infinite when it is too large. -/
def Digits.toFloat (negative : Bool) (x : Digits) : Float :=
  Decimal.toFloat negative (x.toBinary? .double)

/-- Digits before the point, digits after it, and the exponent. -/
def Digits.ofParts (whole fraction : List Char) (exponent : Int) : Digits :=
  ⟨Nat.ofDigitChars 10 (whole ++ fraction) 0, exponent - fraction.length⟩

/-- The exponent part of a literal: absent, or a mark with an optional sign and at least one
digit. -/
def readExponent? : List Char → Option Int
  | [] => some 0
  | mark :: rest =>
    if mark = 'e' ∨ mark = 'E' then
      match rest with
      | '-' :: digits => (readNat? digits).map fun n => -(n : Int)
      | '+' :: digits => (readNat? digits).map Int.ofNat
      | digits => (readNat? digits).map Int.ofNat
    else none

/-- An unsigned literal with digits on at least one side of an optional point. -/
def readMagnitude? (text : List Char) : Option Digits :=
  let whole := text.takeWhile isDigit
  let (fraction, rest) := match text.dropWhile isDigit with
    | '.' :: after => (after.takeWhile isDigit, after.dropWhile isDigit)
    | after => ([], after)
  if whole.isEmpty && fraction.isEmpty then none
  else (readExponent? rest).map (Digits.ofParts whole fraction)

/-- A number in its loosest spelling: an optional sign, then a literal, or a name of infinity or of
the undefined number in any case. -/
def readFloat? (text : List Char) : Option Float :=
  let (negative, body) := match text with
    | '-' :: rest => (true, rest)
    | '+' :: rest => (false, rest)
    | _ => (false, text)
  let word := String.ofList (body.map Char.toLower)
  if word = "inf" || word = "infinity" then some (Decimal.toFloat negative none)
  else if word = "nan" then some (Float.ofBits 0x7FF8000000000000)
  else (readMagnitude? body).map (Digits.toFloat negative)

end SentimentTree.Decimal
