/-! # Blank characters

The characters with the Unicode property `White_Space`, and the text left when they are taken off
its ends.
-/

namespace SentimentTree.Text

/-- A character is blank when it has the property `White_Space`. -/
def isBlank (c : Char) : Bool :=
  let n := c.toNat
  (9 ≤ n && n ≤ 13) || n == 0x20 || n == 0x85 || n == 0xA0 || n == 0x1680 ||
    (0x2000 ≤ n && n ≤ 0x200A) || n == 0x2028 || n == 0x2029 || n == 0x202F ||
    n == 0x205F || n == 0x3000

def trimStart (text : List Char) : List Char := text.dropWhile isBlank

/-- The text before its trailing run of characters that pass the test. -/
def dropEndWhile (test : Char → Bool) (text : List Char) : List Char :=
  (text.reverse.dropWhile test).reverse

def trim (text : List Char) : List Char := dropEndWhile isBlank (trimStart text)

end SentimentTree.Text
