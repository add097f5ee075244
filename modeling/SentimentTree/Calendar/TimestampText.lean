import SentimentTree.Calendar.Timestamp
import SentimentTree.Decimal.Reader
import SentimentTree.Text.Blank

/-! # Reading points in time

The spellings of a timestamp that chat exports use, tried in a fixed order: date and time with a
space or `T` between, without seconds, with an offset (which is dropped, so the wall clock counts),
and a date alone. Numbers may have leading blanks and fewer digits except in the form with an
offset, which is strict.
-/

namespace SentimentTree.Calendar

/-- A step of reading: a value and the text after it. -/
abbrev Reader (α : Type) := List Char → Option (α × List Char)

namespace Reader

/-- A run of digits, at least `least` and at most `most` of them. -/
def digits (least most : Nat) : Reader Nat := fun text =>
  let run := (text.takeWhile Decimal.isDigit).take most
  if run.length < least then none
  else some (Nat.ofDigitChars 10 run 0, text.drop run.length)

def char (test : Char → Bool) : Reader Char
  | c :: rest => if test c then some (c, rest) else none
  | [] => none

/-- A number of one or two digits after optional blanks. -/
def short : Reader Nat := fun text => digits 1 2 (Text.trimStart text)

/-- A year after optional blanks: up to four digits, or any number of them after a sign. -/
def year : Reader Int := fun text =>
  match Text.trimStart text with
  | '-' :: rest => (digits 1 rest.length rest).map fun (n, after) => (-(n : Int), after)
  | '+' :: rest => (digits 1 rest.length rest).map fun (n, after) => ((n : Int), after)
  | start => (digits 1 4 start).map fun (n, after) => ((n : Int), after)

/-- The digits of a fraction of a second: the first nine count. -/
def nanoseconds : Reader Nat := fun text =>
  (digits 1 9 text).map fun (n, after) =>
    (n * Nat.pow 10 (9 - (text.length - after.length)), after.dropWhile Decimal.isDigit)

/-- A fraction of a second, if a point starts one. -/
def fraction : Reader Nat
  | '.' :: rest => nanoseconds rest
  | text => some (0, text)

/-- Year, month and day with hyphens between. -/
def civil : Reader (Int × Nat × Nat) := fun text => do
  let (y, text) ← year text
  let (_, text) ← char (· == '-') text
  let (m, text) ← short text
  let (_, text) ← char (· == '-') text
  let (d, text) ← short text
  pure ((y, m, d), text)

def hourMinute : Reader (Nat × Nat) := fun text => do
  let (h, text) ← short text
  let (_, text) ← char (· == ':') text
  let (m, text) ← short text
  pure ((h, m), text)

def seconds : Reader (Nat × Nat) := fun text => do
  let (_, text) ← char (· == ':') text
  let (s, text) ← short text
  let (nano, text) ← fraction text
  pure ((s, nano), text)

def noSeconds : Reader (Nat × Nat) := fun text => some ((0, 0), text)

def gap : Reader Unit := fun text => some ((), Text.trimStart text)

/-- A capital `T` between a date and a time. -/
def letterT : Reader Unit := fun text => (char (· == 'T') text).map fun (_, rest) => ((), rest)

/-- A zone offset, checked and dropped: `Z`, or a sign with hours and minutes. -/
def offset : Reader Unit
  | c :: rest =>
    if c = 'Z' ∨ c = 'z' then some ((), rest)
    else if c = '+' ∨ c = '-' ∨ c.toNat = 0x2212 then do
      let (h, text) ← digits 2 2 rest
      let (_, text) ← char (· == ':') text
      let (m, text) ← digits 2 2 text
      if h < 24 ∧ m < 60 then some ((), text) else none
    else none
  | [] => none

end Reader

namespace Timestamp

/-- The timestamp of civil and clock numbers, if there is one. -/
def ofNumbers? (civil : Int × Nat × Nat) (hour minute second nano : Nat) : Option Timestamp := do
  let date ← Date.ofCivil? civil.1 civil.2.1 civil.2.2
  ofClock? date hour minute second nano

/-- A date, what stands between, hours and minutes, and the given form of seconds. -/
def readClock? (between : Reader Unit) (seconds : Reader (Nat × Nat)) (text : List Char) :
    Option Timestamp := do
  let (date, text) ← Reader.civil text
  let (_, text) ← between text
  let ((hour, minute), text) ← Reader.hourMinute text
  let ((second, nano), text) ← seconds text
  if text.isEmpty then ofNumbers? date hour minute second nano else none

/-- The strict form: all numbers in full width and an offset at the end. -/
def readOffset? (text : List Char) : Option Timestamp := do
  let (year, text) ← Reader.digits 4 4 text
  let (_, text) ← Reader.char (· == '-') text
  let (month, text) ← Reader.digits 2 2 text
  let (_, text) ← Reader.char (· == '-') text
  let (day, text) ← Reader.digits 2 2 text
  let (_, text) ← Reader.char (fun c => c == 'T' || c == 't' || c == ' ') text
  let (hour, text) ← Reader.digits 2 2 text
  let (_, text) ← Reader.char (· == ':') text
  let (minute, text) ← Reader.digits 2 2 text
  let (_, text) ← Reader.char (· == ':') text
  let (second, text) ← Reader.digits 2 2 text
  let (nano, text) ← Reader.fraction text
  let (_, text) ← Reader.offset text
  if text.isEmpty then ofNumbers? (year, month, day) hour minute second nano else none

def readDay? (text : List Char) : Option Timestamp := do
  let ((year, month, day), text) ← Reader.civil text
  if text.isEmpty then (Date.ofCivil? year month day).map midnight else none

/-- The timestamp a text spells: the first of the accepted forms that reads all of it. -/
def read? (text : List Char) : Option Timestamp :=
  let text := Text.trim text
  readClock? Reader.gap Reader.seconds text
    <|> readClock? Reader.letterT Reader.seconds text
    <|> readClock? Reader.gap Reader.noSeconds text
    <|> readOffset? text
    <|> readDay? text

end Timestamp

/-- A date as data files spell it: like year, month and day above, with blanks around the parts. -/
def Date.read? (text : List Char) : Option Date := do
  let (year, text) ← Reader.year text
  let (_, text) ← Reader.char (· == '-') (Text.trimStart text)
  let (month, text) ← Reader.short text
  let (_, text) ← Reader.char (· == '-') (Text.trimStart text)
  let (day, text) ← Reader.short text
  if (Text.trimStart text).isEmpty then Date.ofCivil? year month day else none

end SentimentTree.Calendar
