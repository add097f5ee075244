/-! # Checking a word

A word is well formed when it uses the word's alphabet only and its two kinds of brackets are well
nested. The check walks the word once with the openers that are still open; it counts segments,
steps and fruits and the deepest nesting of square brackets. Positions are offsets in UTF-8 bytes.
-/

namespace SentimentTree

/-- What a well-formed word holds. -/
structure WordStats where
  segments : Nat := 0
  steps : Nat := 0
  fruits : Nat := 0
  maxDepth : Nat := 0
deriving DecidableEq

/-- Where and how a word is malformed. -/
inductive WordProblem
  | unexpectedSymbol (symbol : Char) (offset : Nat)
  | unmatchedClose (closer : Char) (offset : Nat)
  | unclosedScope (opener : Char) (offset : Nat)
deriving DecidableEq

def WordProblem.message : WordProblem → String
  | unexpectedSymbol symbol offset =>
    "unexpected symbol '" ++ String.ofList [symbol] ++ "' at offset " ++ toString offset
  | unmatchedClose closer offset =>
    "'" ++ String.ofList [closer] ++ "' at offset " ++ toString offset ++ " has no matching opener"
  | unclosedScope opener offset =>
    "'" ++ String.ofList [opener] ++ "' at offset " ++ toString offset ++ " is never closed"

/-- The alphabet of words. -/
def isWordSymbol (c : Char) : Bool :=
  ['T', 'M', 'W', 'F', '(', ')', '[', ']', '+', '-', '.', ','].contains c || c.isDigit

/-- The state of a check: position, openers still open (innermost first), depth and counts. -/
structure WordScan where
  offset : Nat := 0
  openers : List (Char × Nat) := []
  depth : Nat := 0
  stats : WordStats := {}
deriving DecidableEq

namespace WordScan

def count (stats : WordStats) (c : Char) : WordStats :=
  if c = 'T' then { stats with segments := stats.segments + 1 }
  else if c = 'M' then { stats with steps := stats.steps + 1 }
  else if c = 'F' then { stats with fruits := stats.fruits + 1 }
  else stats

def opener? (c : Char) : Option Char :=
  if c = ']' then some '[' else if c = ')' then some '(' else none

def step (scan : WordScan) (c : Char) : Except WordProblem WordScan :=
  let next := scan.offset + c.utf8Size
  if !isWordSymbol c then .error (.unexpectedSymbol c scan.offset)
  else if c = '[' then
    .ok { offset := next, openers := (c, scan.offset) :: scan.openers, depth := scan.depth + 1
          stats := { scan.stats with maxDepth := max scan.stats.maxDepth (scan.depth + 1) } }
  else if c = '(' then
    .ok { scan with offset := next, openers := (c, scan.offset) :: scan.openers }
  else match opener? c with
    | some opener =>
      match scan.openers with
      | (innermost, _) :: outer =>
        if innermost = opener then
          .ok { scan with offset := next, openers := outer
                          depth := if c = ']' then scan.depth - 1 else scan.depth }
        else .error (.unmatchedClose c scan.offset)
      | [] => .error (.unmatchedClose c scan.offset)
    | none => .ok { scan with offset := next, stats := count scan.stats c }

/-- The state after more symbols. -/
def run (scan : WordScan) : List Char → Except WordProblem WordScan
  | [] => .ok scan
  | c :: rest =>
    match scan.step c with
    | .ok next => next.run rest
    | .error problem => .error problem

/-- The result at the end of the word: nothing may be left open. -/
def finish (scan : WordScan) : Except WordProblem WordStats :=
  match scan.openers with
  | [] => .ok scan.stats
  | (opener, offset) :: _ => .error (.unclosedScope opener offset)

end WordScan

/-- The statistics of a well-formed word, or the first fault. -/
def checkWord (word : List Char) : Except WordProblem WordStats :=
  match WordScan.run {} word with
  | .ok scan => scan.finish
  | .error problem => .error problem

end SentimentTree
