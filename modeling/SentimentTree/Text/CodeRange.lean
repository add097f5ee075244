import SentimentTree.Text.Lines

/-! # Ranges of code points

Ranges and runs of code points, and the text form of large tables of them: code points in
hexadecimal digits, one entry after another with blanks or line ends between.
-/

namespace SentimentTree.Text

/-- Membership in a list of closed ranges of code points. -/
def inRanges (ranges : List (Nat × Nat)) (code : Nat) : Bool :=
  ranges.any fun range => range.1 ≤ code && code ≤ range.2

/-- The characters `first`, `first + stride`, … up to `last`, each moved by `shift`. -/
structure Shift where
  first : Nat
  last : Nat
  stride : Nat
  shift : Int

/-- A code point is covered by a run when it is one of its steps. -/
def Shift.covers (run : Shift) (code : Nat) : Bool :=
  run.first ≤ code && code ≤ run.last && (code - run.first) % run.stride == 0

def Shift.move (run : Shift) (code : Nat) : Nat := ((code : Int) + run.shift).toNat

/-- The number that hexadecimal digits write, letters being capitals. -/
def readCode (digits : List Char) : Nat :=
  digits.foldl (fun total c => total * 16 + (c.toNat - if c.isDigit then 48 else 55)) 0

def entries (table : String) : List (List Char) :=
  (splitAt (fun c => c == ' ' || c == '\n') table.toList).filter (!·.isEmpty)

/-- A range: its ends with a hyphen between, or its only member. -/
def readRange (entry : List Char) : Nat × Nat :=
  match cutAt? (· == '-') entry with
  | some (first, last) => (readCode first, readCode last)
  | none => (readCode entry, readCode entry)

def readRanges (table : String) : List (Nat × Nat) := (entries table).map readRange

/-- A sequence of code points with plus signs between. -/
def readSequence (entry : List Char) : List Nat := (splitAt (· == '+') entry).map readCode

/-- A table of code points with the sequences they stand for: an entry with a colon names its code
point before the colon, any other belongs to the next code point. -/
def readSequences (table : String) : List (Nat × List Nat) :=
  let step (state : Nat × List (Nat × List Nat)) (entry : List Char) :
      Nat × List (Nat × List Nat) :=
    let (code, sequence) := match cutAt? (· == ':') entry with
      | some (code, sequence) => (readCode code, sequence)
      | none => (state.1, entry)
    (code + 1, (code, readSequence sequence) :: state.2)
  ((entries table).foldl step (0, [])).2.reverse

end SentimentTree.Text
