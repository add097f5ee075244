import SentimentTree.Decimal.Reader
import SentimentTree.Text.Lines
import SentimentTree.Text.Radix

/-! # Addresses in groups

Addresses of eight groups of sixteen bits with colons between. A double colon stands for groups of
zeros that are left out, and the last two groups may be written as a dotted number.
-/

namespace SentimentTree.HostName

/-- The number of groups of sixteen bits that pieces between colons make up; only the last piece may
be a dotted number, in four decimal parts. -/
def groupCount? (pieces : List (List Char)) : Option Nat :=
  let isGroup (piece : List Char) : Bool :=
    1 ≤ piece.length && piece.length ≤ 4 && (Text.numberIn? 16 piece).isSome
  let isQuad (piece : List Char) : Bool :=
    let parts := Text.splitAt (· == '.') piece
    parts.length == 4 && parts.all fun part =>
      (part == ['0'] || part.head? != some '0') && match Decimal.readNat? part with
        | some n => n < 256
        | none => false
  match pieces.getLast? with
  | none => some 0
  | some last =>
    if pieces.dropLast.all isGroup then
      if isGroup last then some pieces.length
      else if isQuad last then some (pieces.length + 1) else none
    else none

def cutDoubleColon? : List Char → Option (List Char × List Char)
  | ':' :: ':' :: rest => some ([], rest)
  | c :: rest => (cutDoubleColon? rest).map fun (before, after) => (c :: before, after)
  | [] => none

/-- Whether the text is an address of eight groups, a double colon standing for missing ones. -/
def isGroupedAddress (text : List Char) : Bool :=
  let pieces (part : List Char) : List (List Char) :=
    if part.isEmpty then [] else Text.splitAt (· == ':') part
  match cutDoubleColon? text with
  | none => groupCount? (pieces text) == some 8
  | some (before, after) =>
    match groupCount? (pieces before), groupCount? (pieces after) with
    | some m, some n => m + n ≤ 7 && (before.all (· != '.'))
    | _, _ => false

end SentimentTree.HostName
