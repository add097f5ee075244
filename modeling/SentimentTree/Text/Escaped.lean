import SentimentTree.Text.CodeRange
import SentimentTree.Text.EscapedTable

/-! # Quoted text with escapes

Text between quotes in which every character can be seen: line breaks and tabs have short escapes,
other invisible characters their code point in braces.
-/

namespace SentimentTree.Text

def needsCode (c : Char) : Bool :=
  c.toNat < 0x20 || c.toNat == 0x7F || inRanges escapedRanges c.toNat

def escapeChar (c : Char) : List Char :=
  if c.toNat = 0 then ['\\', '0']
  else if c = '\t' then ['\\', 't']
  else if c = '\r' then ['\\', 'r']
  else if c = '\n' then ['\\', 'n']
  else if c = '\\' then ['\\', '\\']
  else if c = '"' then ['\\', '"']
  else if needsCode c then
    ['\\', 'u', '\x7b'] ++ Nat.toDigits 16 c.toNat ++ ['\x7d']
  else [c]

/-- The text between quotes, each character escaped where it has to be. -/
def quoted (text : List Char) : List Char :=
  '"' :: text.flatMap escapeChar ++ ['"']

end SentimentTree.Text
