import SentimentTree.Text.Radix

/-! # Percent escapes

Bytes of a text written as a percent sign and two hexadecimal digits, the way web addresses hold
characters that they have no other place for.
-/

namespace SentimentTree.Text

/-- The bytes of a text, an escape giving the byte that it writes. A percent sign that begins no
escape stands for itself. -/
def unescapedBytes : List Char → List UInt8
  | '%' :: a :: b :: rest =>
    match digitValue? 16 a, digitValue? 16 b with
    | some high, some low => UInt8.ofNat (high * 16 + low) :: unescapedBytes rest
    | _, _ => 37 :: unescapedBytes (a :: b :: rest)
  | c :: rest => String.utf8EncodeChar c ++ unescapedBytes rest
  | [] => []

/-- The text with its escapes replaced by what they write, if that is text. -/
def unescape? (text : List Char) : Option (List Char) :=
  (String.fromUTF8? ⟨(unescapedBytes text).toArray⟩).map String.toList

def escapeByte (byte : UInt8) : List Char :=
  '%' :: [byte.toNat / 16, byte.toNat % 16].map fun digit => (Nat.digitChar digit).toUpper

/-- The text with escapes for all that is no visible character of ASCII and for the characters
listed. -/
def escapeAll (listed : List Char) (text : List Char) : List Char :=
  text.flatMap fun c =>
    if 0x20 < c.toNat ∧ c.toNat < 0x7F ∧ !listed.contains c then [c]
    else (String.utf8EncodeChar c).flatMap escapeByte

end SentimentTree.Text
