import SentimentTree.Decimal.Shortest

/-! # Layouts of a number

Three ways to write a floating point number. The data layout is positional for leading exponents
from -5 to 15 and marks whole numbers with `.0`; outside it has a signed exponent. The running-text
layout is always positional. The fixed layout has a set count of decimal places, rounded from the
exact value with halves to even.
-/

namespace SentimentTree.Decimal

/-- The decisions of a layout with shortest digits. -/
structure Layout where
  /-- Leading exponents that are written positionally. -/
  positional : Int → Bool
  /-- What follows a positional whole number. -/
  wholeEnd : List Char
  tie : Tie

def Layout.data : Layout := ⟨fun leading => -5 ≤ leading && leading ≤ 15, ['.', '0'], .even⟩

def Layout.sentence : Layout := ⟨fun _ => true, [], .up⟩

/-- Digits with a point before the last `places` of them. -/
def pointed (coefficient places : Nat) : List Char :=
  let digits := Nat.toDigits 10 coefficient
  let padded := List.replicate (places + 1 - digits.length) '0' ++ digits
  padded.take (padded.length - places) ++ '.' :: padded.drop (padded.length - places)

def Layout.positionalText (layout : Layout) (x : Digits) : List Char :=
  if 0 ≤ x.exponent then
    Nat.toDigits 10 (x.coefficient * Nat.pow 10 x.exponent.toNat) ++ layout.wholeEnd
  else pointed x.coefficient (-x.exponent).toNat

/-- Text with one digit before the point and the exponent of that digit, signed. -/
def exponentText (x : Digits) (leading : Int) : List Char :=
  let mantissa := match Nat.toDigits 10 x.coefficient with
    | first :: second :: rest => first :: '.' :: second :: rest
    | digits => digits
  mantissa ++ 'e' :: (if 0 ≤ leading then '+' else '-') :: Nat.toDigits 10 leading.natAbs

def Layout.magnitudeText (layout : Layout) (format : BinaryFormat) (x : Binary) : List Char :=
  let digits := shortest format layout.tie x
  let leading : Int := digits.exponent + digitCount digits.coefficient - 1
  if layout.positional leading then layout.positionalText digits else exponentText digits leading

def signed (negative : Bool) (text : List Char) : List Char :=
  if negative then '-' :: text else text

def nanText : List Char := ['N', 'a', 'N']

def infinityText : List Char := ['i', 'n', 'f']

/-- The number as it stands inside sentences and words: positional, shortest digits. -/
def plainText (x : Float) : List Char :=
  match Parts.ofFloat x with
  | .notANumber => nanText
  | .infinite negative => signed negative infinityText
  | .finite negative magnitude =>
    signed negative (Layout.sentence.magnitudeText .double magnitude)

/-- The number as it stands in data files; only finite numbers have such a text. -/
def dataText? (x : Float) : Option (List Char) :=
  match Parts.ofFloat x with
  | .finite negative magnitude =>
    some (signed negative (Layout.data.magnitudeText .double magnitude))
  | _ => none

/-- The data text of a number that was rounded to thirty-two bits: the fewest digits that tell it
from the other numbers of that format. -/
def singleDataText? (x : Float) : Option (List Char) :=
  match Parts.ofFloat x with
  | .finite negative magnitude =>
    let (num, den) := magnitude.ratio
    (BinaryFormat.single.nearest num den).map fun rounded =>
      signed negative (Layout.data.magnitudeText .single rounded)
  | _ => none

def fixedMagnitude (places : Nat) (x : Binary) : List Char :=
  let (num, den) := x.ratio
  let units := roundEven (num * Nat.pow 10 places) den
  if places = 0 then Nat.toDigits 10 units else pointed units places

/-- The number with a fixed count of places, rounded from its exact value, halves to even. -/
def fixedText (places : Nat) (x : Float) : List Char :=
  match Parts.ofFloat x with
  | .notANumber => nanText
  | .infinite negative => signed negative infinityText
  | .finite negative magnitude => signed negative (fixedMagnitude places magnitude)

end SentimentTree.Decimal
