import SentimentTree.Text.Blank

/-! # Lines and cuts

Text split at line feeds, at its first separator, and its comparison with a fixed word.
-/

namespace SentimentTree.Text

/-- The pieces between the characters that pass the test; always at least one. -/
def splitAt (test : Char → Bool) : List Char → List (List Char)
  | [] => [[]]
  | c :: rest =>
    if test c then [] :: splitAt test rest
    else match splitAt test rest with
      | piece :: pieces => (c :: piece) :: pieces
      | [] => [[c]]

def splitLines (text : List Char) : List (List Char) := splitAt (· == '\n') text

def dropReturn (line : List Char) : List Char :=
  match line.getLast? with
  | some '\r' => line.dropLast
  | _ => line

/-- The lines of a text: a line feed ends a line, and a carriage return before it is dropped. A
piece after the last line feed counts unless it is empty, and keeps its carriage return. -/
def lines (text : List Char) : List (List Char) :=
  let pieces := splitLines text
  let ended := pieces.dropLast.map dropReturn
  match pieces.getLast? with
  | some [] | none => ended
  | some last => ended ++ [last]

/-- The text before and after the first character that passes the test. -/
def cutAt? (test : Char → Bool) (text : List Char) : Option (List Char × List Char) :=
  match text.dropWhile (!test ·) with
  | [] => none
  | _ :: after => some (text.takeWhile (!test ·), after)

/-- What follows the opening, if the text starts with it. -/
def afterPrefix? : List Char → List Char → Option (List Char)
  | [], text => some text
  | _ :: _, [] => none
  | p :: ps, c :: cs => if p = c then afterPrefix? ps cs else none

/-- The texts one after another with a separator between neighbours. -/
def joinWith (separator : List Char) : List (List Char) → List Char
  | [] => []
  | [piece] => piece
  | piece :: pieces => piece ++ separator ++ joinWith separator pieces

end SentimentTree.Text
