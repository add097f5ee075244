import SentimentTree.Decimal.Reader
import SentimentTree.Text.Lines
import SentimentTree.Text.Radix

/-! # Host names that are numbers

A host name whose last label is a number is an address of thirty-two bits. It is written in up to
four numbers with dots between, each in base ten, eight or sixteen; all but the last stand for one
byte, and the last fills the bytes that are left.
-/

namespace SentimentTree.HostName

/-- A part of a dotted number: decimal, octal after `0` or hexadecimal after `0x`. -/
def dottedPart? : List Char → Option Nat
  | [] => none
  | '0' :: 'x' :: digits | '0' :: 'X' :: digits => Text.numberIn? 16 digits
  | ['0'] => some 0
  | '0' :: digits => Text.numberIn? 8 digits
  | digits => Text.numberIn? 10 digits

/-- The parts of a host name, without the empty one after a final dot. -/
def dottedParts (name : List Char) : List (List Char) :=
  let parts := Text.splitAt (· == '.') name
  match parts.getLast? with
  | some [] => if 1 < parts.length then parts.dropLast else parts
  | _ => parts

/-- Whether a host name has to be a number: its last part is digits or reads as a number. -/
def endsInNumber (name : List Char) : Bool :=
  match (dottedParts name).getLast? with
  | some part =>
    (!part.isEmpty && part.all Decimal.isDigit) ||
      (part.take 2).map Char.toLower == ['0', 'x'] && (dottedPart? part).isSome
  | none => false

/-- The address that a host name writes as a number, if it does. -/
def dottedNumber? (name : List Char) : Option Nat := do
  let numbers ← (dottedParts name).mapM dottedPart?
  let last ← numbers.getLast?
  let bytes := numbers.dropLast
  let room := Nat.pow 256 (4 - bytes.length)
  if bytes.length < 4 ∧ bytes.all (· < 256) ∧ last < room then
    some (bytes.foldl (fun total byte => total * 256 + byte) 0 * room + last)
  else none

/-- An address as four decimal numbers with dots between. -/
def dottedText (number : Nat) : List Char :=
  Text.joinWith ['.'] ([3, 2, 1, 0].map fun place =>
    Nat.toDigits 10 (number / Nat.pow 256 place % 256))

end SentimentTree.HostName
