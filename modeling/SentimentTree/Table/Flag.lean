import SentimentTree.Text.Blank
import SentimentTree.Text.Case

/-! # Yes-or-no spellings

The words that a table may use for a boolean.
-/

namespace SentimentTree

/-- The boolean that a word means, in any case and with blanks around it; a blank word means that
there is none, and the outer option fails on any other word. -/
def readFlag? (word : List Char) : Option (Option Bool) :=
  let small := String.ofList (Text.lower (Text.trim word))
  if small = "" then some none
  else if ["true", "t", "yes", "y", "1"].contains small then some (some true)
  else if ["false", "f", "no", "n", "0"].contains small then some (some false)
  else none

def flagOfInt? (n : Int) : Option (Option Bool) :=
  if n = 0 then some (some false) else if n = 1 then some (some true) else none

end SentimentTree
