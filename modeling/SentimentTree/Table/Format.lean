import SentimentTree.Text.Case
import SentimentTree.Text.Lines

/-! # Table formats by file name

The format of a message table follows from the extension of its file's name, in any case.
-/

namespace SentimentTree

/-- The formats of message tables. -/
inductive TableFormat
  | csv
  | json
deriving DecidableEq

def TableFormat.name : TableFormat → String
  | csv => "Csv"
  | json => "Json"

/-- The last component of a path; slashes at the end and components that stand for the directory
itself do not count. -/
def fileName? (path : List Char) : Option (List Char) :=
  let parts := (Text.splitAt (· == '/') path).filter fun part => !part.isEmpty
  let parts := match parts with
    | first :: rest => first :: rest.filter fun part => part != ['.']
    | [] => []
  match parts.getLast? with
  | some name => if name = ['.'] ∨ name = ['.', '.'] then none else some name
  | none => none

/-- What follows the last dot of a file name, unless the dot starts it. -/
def extension? (name : List Char) : Option (List Char) :=
  let last := (name.reverse.takeWhile (· != '.')).reverse
  if last.length + 1 < name.length then some last else none

def TableFormat.ofPath? (path : String) : Option TableFormat := do
  let extension ← extension? (← fileName? path.toList)
  let small := String.ofList (Text.lower extension)
  if small = "csv" then some .csv else if small = "json" then some .json else none

end SentimentTree
