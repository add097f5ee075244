import SentimentTree.Decimal.Layout
import SentimentTree.Json.Value

/-! # Writing JSON

The text of a JSON value, on one line or with two spaces of indentation per level.
-/

namespace SentimentTree.Json

/-- A floating point number as a value; only finite ones have a number literal. -/
def float (x : Float) : Json :=
  match Decimal.dataText? x with
  | some literal => .number literal
  | none => .null

def escapeChar (c : Char) : List Char :=
  if c = '"' then ['\\', '"']
  else if c = '\\' then ['\\', '\\']
  else if c = '\x08' then ['\\', 'b']
  else if c = '\x0c' then ['\\', 'f']
  else if c = '\n' then ['\\', 'n']
  else if c = '\r' then ['\\', 'r']
  else if c = '\t' then ['\\', 't']
  else if c.toNat < 0x20 then
    ['\\', 'u', '0', '0', Nat.digitChar (c.toNat / 16), Nat.digitChar (c.toNat % 16)]
  else [c]

/-- A string between quotes; one without text is shown as the replacement character. -/
def stringText (text : Option String) : List Char :=
  match text with
  | some text => '"' :: text.toList.flatMap escapeChar ++ ['"']
  | none => ['"', Char.ofNat 0xFFFD, '"']

mutual

def compact : Json → List Char
  | .null => ['n', 'u', 'l', 'l']
  | .bool true => ['t', 'r', 'u', 'e']
  | .bool false => ['f', 'a', 'l', 's', 'e']
  | .number literal => literal
  | .string text => stringText text
  | .array items => '[' :: compactItems items ++ [']']
  | .object members => '\x7b' :: compactMembers members ++ ['\x7d']

def compactItems : List Json → List Char
  | [] => []
  | [item] => compact item
  | item :: rest => compact item ++ ',' :: compactItems rest

def compactMembers : List (Option String × Json) → List Char
  | [] => []
  | [(key, value)] => stringText key ++ ':' :: compact value
  | (key, value) :: rest => stringText key ++ ':' :: compact value ++ ',' :: compactMembers rest

end

def newLine (level : Nat) : List Char := '\n' :: List.replicate (2 * level) ' '

mutual

/-- The value at a level of indentation, one item or member to a line. -/
def prettyAt (level : Nat) : Json → List Char
  | .array (item :: rest) =>
    '[' :: prettyItems (level + 1) (item :: rest) ++ newLine level ++ [']']
  | .object (member :: rest) =>
    '\x7b' :: prettyMembers (level + 1) (member :: rest) ++ newLine level ++ ['\x7d']
  | .null => ['n', 'u', 'l', 'l']
  | .bool true => ['t', 'r', 'u', 'e']
  | .bool false => ['f', 'a', 'l', 's', 'e']
  | .number literal => literal
  | .string text => stringText text
  | .array [] => ['[', ']']
  | .object [] => ['\x7b', '\x7d']

/-- The items of an array, each on a line of its own. -/
def prettyItems (level : Nat) : List Json → List Char
  | [] => []
  | [item] => newLine level ++ prettyAt level item
  | item :: rest => newLine level ++ prettyAt level item ++ ',' :: prettyItems level rest

/-- The members of an object, each on a line of its own. -/
def prettyMembers (level : Nat) : List (Option String × Json) → List Char
  | [] => []
  | [(key, value)] => newLine level ++ stringText key ++ ':' :: ' ' :: prettyAt level value
  | (key, value) :: rest =>
    newLine level ++ stringText key ++ ':' :: ' ' :: prettyAt level value ++
      ',' :: prettyMembers level rest

end

/-- The value with two spaces of indentation per level. -/
def pretty (value : Json) : List Char := prettyAt 0 value

end SentimentTree.Json
