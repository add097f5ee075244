import SentimentTree.HostName.DirectionTable
import SentimentTree.HostName.JoiningTable
import SentimentTree.Text.Canonical

/-! # Labels of a host name

The conditions on the labels of a host name in any script. A label does not begin with a mark, an
invisible joiner stands only where it changes how letters join, and if any label holds text from
right to left, every label keeps to one direction.
-/

namespace SentimentTree.HostName

/-! ## Joiners -/

/-- Whether the first letter that joins do not look through is one of the given ones. -/
def meetsLetter (letters : List (Nat × Nat)) (text : List Char) : Bool :=
  match text.find? fun c => !Text.inRanges joinTransparent c.toNat with
  | some c => Text.inRanges letters c.toNat
  | none => false

/-- Whether a joiner may stand between two texts, the one before it given last character first:
after a character that suppresses a vowel, or, for the joiner that parts letters, between letters
that would join. -/
def allowsJoiner (before : List Char) (parts : Bool) (after : List Char) : Bool :=
  match before with
  | [] => false
  | previous :: _ =>
    Text.combiningClass previous.toNat == 9 ||
      parts && meetsLetter (joinsNext ++ joinsBoth) before &&
        meetsLetter (joinsPrevious ++ joinsBoth) after

/-- Whether all joiners of a text may stand where they do, given what is before it. -/
def joinersAllowed (before : List Char) : List Char → Bool
  | [] => true
  | c :: rest =>
    (if c.toNat = 0x200C then allowsJoiner before true rest
      else if c.toNat = 0x200D then allowsJoiner before false rest else true) &&
      joinersAllowed (c :: before) rest

/-! ## Direction -/

/-- How a character takes part in the direction of its text. -/
inductive Direction
  | leftToRight
  | rightToLeft
  | europeanNumber
  | arabicNumber
  | attached
  | neutral
  /-- Ends a line or a paragraph, or is a blank. -/
  | separator
deriving DecidableEq

def Direction.of (c : Char) : Direction :=
  let code := c.toNat
  if code ≤ 0x20 && (9 ≤ code && code ≤ 13 || 28 ≤ code) then separator
  else if Text.inRanges rightToLeftRanges code then .rightToLeft
  else if Text.inRanges arabicNumberRanges code then .arabicNumber
  else if Text.inRanges europeanNumberRanges code then .europeanNumber
  else if Text.inRanges attachedRanges code then .attached
  else if Text.inRanges neutralRanges code then .neutral
  else .leftToRight

def isRightToLeft (label : List Char) : Bool :=
  label.any fun c => Direction.of c == .rightToLeft || Direction.of c == .arabicNumber

/-- Whether a label keeps to one direction: that of its first character, which has to be a letter.
What ends it, apart from attached marks, is a letter of that direction or a number. -/
def keepsDirection (label : List Char) : Bool :=
  let directions := label.map Direction.of
  let last := directions.reverse.find? (· != .attached)
  match directions with
  | [] => true
  | .leftToRight :: _ =>
    directions.all [.leftToRight, .europeanNumber, .neutral, .attached].contains &&
      [some .leftToRight, some .europeanNumber].contains last
  | .rightToLeft :: _ =>
    directions.all [.rightToLeft, .arabicNumber, .europeanNumber, .neutral, .attached].contains &&
      [some .rightToLeft, some .europeanNumber, some .arabicNumber].contains last &&
      !(directions.contains .europeanNumber && directions.contains .arabicNumber)
  | _ => false

def isLabel (label : List Char) : Bool :=
  (match label with
    | [] => true
    | first :: _ => !Text.inRanges marks first.toNat) && joinersAllowed [] label

end SentimentTree.HostName
