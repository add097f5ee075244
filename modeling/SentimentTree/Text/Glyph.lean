/-! # Glyphs of a byte string

A file is read as a list of glyphs: the characters of its UTF-8 text, and a mark for every byte that
belongs to none.
-/

namespace SentimentTree.Text

/-- A character of a file, or `none` for a byte that is no part of UTF-8 text. -/
abbrev Glyph := Option Char

def continuation? (byte : UInt8) : Option Nat :=
  if byte.toNat / 64 = 2 then some (byte.toNat % 64) else none

/-- The code point if it needs at least `least` and is a character. -/
def codePoint? (least code : Nat) : Option Char :=
  if least ≤ code ∧ code.isValidChar then some (Char.ofNat code) else none

/-- The character whose first byte is given, and how many of the following bytes it takes. -/
def firstChar? (byte : UInt8) (rest : List UInt8) : Option (Char × Nat) :=
  let first := byte.toNat
  if first < 0x80 then some (Char.ofNat first, 0)
  else if first < 0xC0 then none
  else if first < 0xE0 then
    match rest with
    | b :: _ => do
      let b ← continuation? b
      (codePoint? 0x80 (first % 32 * 64 + b)).map (·, 1)
    | _ => none
  else if first < 0xF0 then
    match rest with
    | b :: c :: _ => do
      let b ← continuation? b
      let c ← continuation? c
      (codePoint? 0x800 (first % 16 * 4096 + b * 64 + c)).map (·, 2)
    | _ => none
  else if first < 0xF8 then
    match rest with
    | b :: c :: d :: _ => do
      let b ← continuation? b
      let c ← continuation? c
      let d ← continuation? d
      (codePoint? 0x10000 (first % 8 * 262144 + b * 4096 + c * 64 + d)).map (·, 3)
    | _ => none
  else none

/-- The glyphs of the bytes after the first `skip`, which belong to a character already read. -/
def glyphsAfter (skip : Nat) : List UInt8 → List Glyph
  | [] => []
  | byte :: rest =>
    match skip with
    | more + 1 => glyphsAfter more rest
    | 0 =>
      match firstChar? byte rest with
      | some (c, taken) => some c :: glyphsAfter taken rest
      | none => none :: glyphsAfter 0 rest

/-- The glyphs of a byte string; text is just its characters. -/
def glyphs (bytes : ByteArray) : List Glyph :=
  match String.fromUTF8? bytes with
  | some text => text.toList.map some
  | none => glyphsAfter 0 bytes.toList

end SentimentTree.Text
