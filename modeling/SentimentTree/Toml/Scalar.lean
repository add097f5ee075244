import SentimentTree.Calendar.Date
import SentimentTree.Decimal.Reader
import SentimentTree.Text.Lines
import SentimentTree.Text.Radix
import SentimentTree.Toml.Value

/-! # TOML scalars

Strings in their four spellings, integers in four bases, floating point numbers, dates and times,
and keys. Each reader takes the longest piece of its kind from the front of a text.
-/

namespace SentimentTree.Toml

/-- A step of reading: a value and the text after it. -/
abbrev Step (α : Type) := List Char → Option (α × List Char)

/-- Whether the text starts at the end of a line, and what follows it. -/
def lineEnd? : List Char → Option (List Char)
  | '\n' :: rest => some rest
  | '\r' :: '\n' :: rest => some rest
  | _ => none

def skipBlanks (text : List Char) : List Char := text.dropWhile fun c => c == ' ' || c == '\t'

/-- A character that comments and strings may hold: no control character but the tab. -/
def isPlain (c : Char) : Bool := c == '\t' || (0x20 ≤ c.toNat && c.toNat != 0x7F)

def skipComment : List Char → List Char
  | '#' :: rest => rest.dropWhile isPlain
  | text => text

/-- The text after blanks, comments and line ends, with as much fuel as lines at most. -/
def skipSpace : Nat → List Char → List Char
  | 0, text => text
  | fuel + 1, text =>
    let after := skipComment (skipBlanks text)
    match lineEnd? after with
    | some rest => skipSpace fuel rest
    | none => after

def skipLines (text : List Char) : List Char := skipSpace (text.length + 1) text

/-- The character with a code point of so many hexadecimal digits. -/
def codeEscape? (width : Nat) (text : List Char) : Option (Char × List Char) :=
  if text.length < width then none
  else do
    let code ← Text.numberIn? 16 (text.take width)
    if code.isValidChar then some (Char.ofNat code, text.drop width) else none

def escape? : Step Char
  | 'b' :: rest => some ('\x08', rest)
  | 't' :: rest => some ('\t', rest)
  | 'n' :: rest => some ('\n', rest)
  | 'f' :: rest => some ('\x0c', rest)
  | 'r' :: rest => some ('\r', rest)
  | '"' :: rest => some ('"', rest)
  | '\\' :: rest => some ('\\', rest)
  | 'u' :: rest => codeEscape? 4 rest
  | 'U' :: rest => codeEscape? 8 rest
  | _ => none

/-- The rest of a one-line string with escapes, up to its closing quote. -/
def basicRest : Nat → Step (List Char)
  | 0, _ => none
  | fuel + 1, text =>
    match text with
    | '"' :: rest => some ([], rest)
    | '\\' :: rest => do
      let (c, rest) ← escape? rest
      let (more, rest) ← basicRest fuel rest
      pure (c :: more, rest)
    | c :: rest =>
      if isPlain c then do
        let (more, rest) ← basicRest fuel rest
        pure (c :: more, rest)
      else none
    | [] => none

/-- The rest of a one-line string without escapes, up to its closing quote. -/
def literalRest : Step (List Char) := fun text =>
  let content := text.takeWhile fun c => isPlain c && c != '\''
  match text.drop content.length with
  | '\'' :: rest => some (content, rest)
  | _ => none

/-- The closing quotes of a string over several lines, up to two of which may belong to it. -/
def closing? (quote : Char) (text : List Char) : Option (List Char × List Char) :=
  let quotes := (text.takeWhile (· == quote)).length
  if quotes < 3 then none
  else
    let own := min (quotes - 3) 2
    some (List.replicate own quote, text.drop (own + 3))

def skipBreaks : List Char → List Char
  | '\r' :: '\n' :: rest => skipBreaks rest
  | c :: rest => if c = ' ' ∨ c = '\t' ∨ c = '\n' then skipBreaks rest else c :: rest
  | [] => []

/-- The text after a backslash that ends its line: blanks and line ends are left out. -/
def continued? (text : List Char) : Option (List Char) :=
  (lineEnd? (skipBlanks text)).map skipBreaks

/-- The rest of a string over several lines, up to its closing quotes; in one with double quotes the
backslash starts escapes. A line end is a line feed. -/
def longRest (quote : Char) : Nat → Step (List Char)
  | 0, _ => none
  | fuel + 1, text =>
    match closing? quote text with
    | some result => some result
    | none =>
      match lineEnd? text with
      | some rest => do
        let (more, rest) ← longRest quote fuel rest
        pure ('\n' :: more, rest)
      | none =>
        match text with
        | c :: rest =>
          if c = '\\' ∧ quote = '"' then
            match continued? rest with
            | some rest => longRest quote fuel rest
            | none => do
              let (c, rest) ← escape? rest
              let (more, rest) ← longRest quote fuel rest
              pure (c :: more, rest)
          else if isPlain c then do
            let (more, rest) ← longRest quote fuel rest
            pure (c :: more, rest)
          else none
        | [] => none

/-- The content of a long string after its opening quotes; a line end right there is left out. -/
def longString (quote : Char) : Step (List Char) := fun text =>
  longRest quote (text.length + 1) ((lineEnd? text).getD text)

def string? : Step (List Char)
  | '"' :: '"' :: '"' :: rest => longString '"' rest
  | '"' :: rest => basicRest (rest.length + 1) rest
  | '\'' :: '\'' :: '\'' :: rest => longString '\'' rest
  | '\'' :: rest => literalRest rest
  | _ => none

def isKeyChar (c : Char) : Bool := c.isAlphanum || c == '_' || c == '-'

def keyPart? : Step String
  | '"' :: rest =>
    (basicRest (rest.length + 1) rest).map fun (key, rest) => (String.ofList key, rest)
  | '\'' :: rest => (literalRest rest).map fun (key, rest) => (String.ofList key, rest)
  | text =>
    let key := text.takeWhile isKeyChar
    if key.isEmpty then none else some (String.ofList key, text.drop key.length)

/-- The parts of a key with dots between, blanks allowed around each. -/
def keyParts : Nat → Step (List String)
  | 0, _ => none
  | fuel + 1, text => do
    let (part, rest) ← keyPart? (skipBlanks text)
    match skipBlanks rest with
    | '.' :: rest => do
      let (more, rest) ← keyParts fuel rest
      pure (part :: more, rest)
    | rest => pure ([part], rest)

/-- Keys have fewer parts than this, and values fewer levels. -/
def depthLimit : Nat := 80

/-- A key, as the path to its last part and that part. -/
def key? : Step (List String × String) := fun text => do
  let (parts, rest) ← keyParts (text.length + 1) text
  let last ← parts.getLast?
  if parts.length < depthLimit then pure ((parts.dropLast, last), rest) else none

/-- Digits with single underscores between, which are left out. -/
def spacedDigits? (test : Char → Bool) : Step (List Char)
  | c :: rest =>
    if test c then go [c] rest else none
  | [] => none
where
  /-- Goes on after digits read so far, last first. -/
  go (read : List Char) : Step (List Char)
    | '_' :: c :: rest => if test c then go (c :: read) rest else none
    | c :: rest =>
      if test c then go (c :: read) rest
      else if c = '_' then none else some (read.reverse, c :: rest)
    | [] => some (read.reverse, [])

def signOf : List Char → Option Bool × List Char
  | '-' :: rest => (some true, rest)
  | '+' :: rest => (some false, rest)
  | text => (none, text)

def wholeDigits? : Step (List Char)
  | '0' :: rest => some (['0'], rest)
  | text => spacedDigits? Decimal.isDigit text

def exponent? : Step Int
  | c :: rest =>
    if c = 'e' ∨ c = 'E' then do
      let (sign, rest) := signOf rest
      let (digits, rest) ← spacedDigits? Decimal.isDigit rest
      let n := Nat.ofDigitChars 10 digits 0
      pure (if sign = some true then -n else n, rest)
    else none
  | [] => none

/-- An unsigned number with a fraction, an exponent or both. -/
def fractional? : Step Decimal.Digits := fun text => do
  let (whole, rest) ← wholeDigits? text
  match rest with
  | '.' :: rest => do
    let (fraction, rest) ← spacedDigits? Decimal.isDigit rest
    match rest with
    | 'e' :: _ | 'E' :: _ => do
      let (exponent, rest) ← exponent? rest
      pure (.ofParts whole fraction exponent, rest)
    | _ => pure (.ofParts whole fraction 0, rest)
  | _ => do
    let (exponent, rest) ← exponent? rest
    pure (.ofParts whole [] exponent, rest)

/-- The name of infinity or of the undefined number. -/
def special? : Step Float := fun text =>
  match Text.afterPrefix? "inf".toList text with
  | some rest => some (Decimal.toFloat false none, rest)
  | none => (Text.afterPrefix? "nan".toList text).map fun rest =>
    (Float.ofBits 0x7FF8000000000000, rest)

/-- A floating point number; too large a positive one is refused. -/
def float? : Step Float := fun text =>
  let (sign, body) := signOf text
  let negative := sign == some true
  match fractional? body with
  | some (digits, rest) =>
    let value := digits.toFloat negative
    if value.isInf && !negative then none else some (value, rest)
  | none => (special? body).map fun (value, rest) => (if negative then -value else value, rest)

def based? (test : Char → Bool) (base : Nat) : Step Nat := fun text => do
  let (digits, rest) ← spacedDigits? test text
  let n ← Text.numberIn? base digits
  pure (n, rest)

def integer? : Step Int := fun text =>
  let unsigned (step : Option (Nat × List Char)) : Option (Int × List Char) :=
    (step.filter fun result => result.1 < Nat.pow 2 63).map fun (n, rest) => ((n : Int), rest)
  match text with
  | '0' :: 'x' :: rest => unsigned (based? (fun c => (Text.digitValue? 16 c).isSome) 16 rest)
  | '0' :: 'o' :: rest => unsigned (based? (fun c => '0' ≤ c && c ≤ '7') 8 rest)
  | '0' :: 'b' :: rest => unsigned (based? (fun c => c == '0' || c == '1') 2 rest)
  | _ => do
    let (sign, body) := signOf text
    let (digits, rest) ← wholeDigits? body
    let n : Int := Nat.ofDigitChars 10 digits 0
    let value := if sign = some true then -n else n
    if -Nat.pow 2 63 ≤ value ∧ value < Nat.pow 2 63 then some (value, rest) else none

/-- A number of a fixed count of digits up to a bound. -/
def fixedNumber? (width least greatest : Nat) : Step Nat := fun text =>
  match Decimal.readNat? (text.take width) with
  | some n =>
    if width ≤ text.length ∧ least ≤ n ∧ n ≤ greatest then some (n, text.drop width) else none
  | none => none

def mark? (mark : Char) : List Char → Option (List Char)
  | c :: rest => if c = mark then some rest else none
  | [] => none

def time? (text : List Char) : Option (List Char) := do
  let (_, text) ← fixedNumber? 2 0 23 text
  let text ← mark? ':' text
  let (_, text) ← fixedNumber? 2 0 59 text
  let text ← mark? ':' text
  let (_, text) ← fixedNumber? 2 0 60 text
  match text with
  | '.' :: rest =>
    if (rest.takeWhile Decimal.isDigit).isEmpty then pure text
    else pure (rest.dropWhile Decimal.isDigit)
  | _ => pure text

def skipOffset (text : List Char) : List Char :=
  match text with
  | 'Z' :: rest | 'z' :: rest => rest
  | c :: rest =>
    if c = '+' ∨ c = '-' then
      (do
        let (_, rest) ← fixedNumber? 2 0 23 rest
        let rest ← mark? ':' rest
        let (_, rest) ← fixedNumber? 2 0 59 rest
        pure rest : Option (List Char)).getD text
    else text
  | [] => text

def date? (text : List Char) : Option (List Char) := do
  let (year, text) ← fixedNumber? 4 0 9999 text
  let text ← mark? '-' text
  let (month, text) ← fixedNumber? 2 1 12 text
  let text ← mark? '-' text
  let (day, text) ← fixedNumber? 2 1 31 text
  let _ ← Calendar.Date.ofCivil? year month day
  pure text

/-- A date, a time of day, or both with an optional offset. -/
def moment? (text : List Char) : Option (List Char) :=
  match date? text with
  | none => time? text
  | some rest =>
    match rest with
    | c :: clock =>
      if c = 'T' ∨ c = 't' ∨ c = ' ' then
        match time? clock with
        | some rest => some (skipOffset rest)
        | none => some rest
      else some rest
    | [] => some rest

end SentimentTree.Toml
