import SentimentTree.HostName.Label
import SentimentTree.HostName.MappingTable
import SentimentTree.HostName.Punycode

/-! # Host names in any script

A host name may be typed in any script. Its characters are replaced by those they stand for and
composed, the labels between its dots are checked, and labels beyond ASCII get their form in ASCII,
which starts with `xn--`. A label that is typed in that form has to be the form of a label that
needs it.
-/

namespace SentimentTree.HostName

/-- Characters of ASCII that no host name may hold. -/
def isForbidden (c : Char) : Bool :=
  c.toNat ≤ 0x20 || c.toNat == 0x7F || ['"', '#', '%', '/', ':', '<', '>', '?', '@', '[', '\\', ']',
    '^', '\x60', '\x7b', '|', '\x7d'].contains c

/-- The characters that a character stands for in a host name, if it may stand there. -/
def mapped? (c : Char) : Option (List Nat) :=
  let code := c.toNat
  if code < 128 then some [c.toLower.toNat]
  else if Text.inRanges plainRanges code then some [code]
  else match movedRuns.find? (·.covers code) with
    | some run => some [run.move code]
    | none =>
      match replacements.lookup code with
      | some codes => some codes
      | none => if Text.inRanges droppedRanges code then some [] else none

/-- A text with its characters replaced and composed, if all of them may stand in a host name. -/
def normalized? (text : List Char) : Option (List Char) := do
  let codes ← text.mapM mapped?
  pure ((Text.compose codes.flatten).map Char.ofNat)

/-- What the form in ASCII of a label starts with. -/
def asciiMark : List Char := ['x', 'n', '-', '-']

/-- The longest form in ASCII that is read, and the longest label that gets one. -/
def maxDigits : Nat := 2000
def maxCharacters : Nat := 1000

/-- The label that a label typed in its form in ASCII stands for, given without the mark: one that
is beyond ASCII, stands for itself, and does not start like such a form. -/
def typedForm? (label : List Char) : Option (List Char) := do
  if label.getLast? = some '-' ∨ label.isEmpty ∨ maxDigits < label.length then none
  else
    let text ← Punycode.decode? label
    if (← normalized? text) = text ∧ !text.contains '.' ∧ (Text.afterPrefix? asciiMark text).isNone
    then some text else none

def ownForm? (label : List Char) : Option (List Char) :=
  match Text.afterPrefix? asciiMark label with
  | some digits => typedForm? digits
  | none => some label

/-- A label in ASCII. -/
def asciiForm? (label : List Char) : Option (List Char) :=
  if label.all (·.toNat < 128) then some label
  else if maxCharacters < label.length then none
  else some (asciiMark ++ Punycode.encode label)

/-- The labels of a host name in their own characters, if the name is one. -/
def labels? (name : List Char) : Option (List (List Char)) := do
  let text ← normalized? name
  let labels ← (Text.splitAt (· == '.') text).mapM ownForm?
  let permitted := labels.all fun label => isLabel label && !label.any isForbidden
  let directed := !labels.any isRightToLeft || labels.all keepsDirection
  if permitted && directed then some labels else none

/-- A host name in ASCII, if it is one; it may be empty. -/
def ascii? (name : List Char) : Option (List Char) := do
  let labels ← (← labels? name).mapM asciiForm?
  pure (Text.joinWith ['.'] labels)

end SentimentTree.HostName
