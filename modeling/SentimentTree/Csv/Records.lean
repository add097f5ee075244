import SentimentTree.Text.Glyph

/-! # Comma-separated records

Records of fields between commas, one record to a line. A field that starts with a quote runs to the
closing quote, a doubled quote inside standing for one; a quote elsewhere is an ordinary character.
Carriage return, line feed or both end a record, and empty lines are skipped.
-/

namespace SentimentTree.Csv

open Text (Glyph)

abbrev Field := List Glyph

/-- Where the scan is. -/
inductive Place
  /-- Before the first character of a record. -/
  | recordStart
  /-- After a comma. -/
  | fieldStart
  | plain
  | quoted
  /-- After a quote inside a quoted field. -/
  | quote
deriving DecidableEq

/-- The state of a scan; everything is kept last first. -/
structure Scan where
  place : Place := .recordStart
  field : Field := []
  fields : List Field := []
  records : List (List Field) := []

namespace Scan

def endField (scan : Scan) : Scan :=
  { scan with place := .fieldStart, field := [], fields := scan.field.reverse :: scan.fields }

def endRecord (scan : Scan) : Scan :=
  let fields := scan.endField.fields
  { records := fields.reverse :: scan.records }

def push (scan : Scan) (place : Place) (glyph : Glyph) : Scan :=
  { scan with place := place, field := glyph :: scan.field }

def unquoted (scan : Scan) (glyph : Glyph) : Scan :=
  if glyph = some ',' then scan.endField
  else if glyph = some '\n' ∨ glyph = some '\r' then scan.endRecord
  else scan.push .plain glyph

def step (scan : Scan) (glyph : Glyph) : Scan :=
  match scan.place with
  | .recordStart =>
    if glyph = some '\n' ∨ glyph = some '\r' then scan
    else if glyph = some '"' then { scan with place := .quoted }
    else scan.unquoted glyph
  | .fieldStart =>
    if glyph = some '"' then { scan with place := .quoted } else scan.unquoted glyph
  | .plain => scan.unquoted glyph
  | .quoted =>
    if glyph = some '"' then { scan with place := .quote } else scan.push .quoted glyph
  | .quote =>
    if glyph = some '"' then scan.push .quoted glyph else scan.unquoted glyph

/-- The records at the end of the glyphs, in order; an open record ends there. -/
def finish (scan : Scan) : List (List Field) :=
  match scan.place with
  | .recordStart => scan.records.reverse
  | _ => scan.endRecord.records.reverse

end Scan

/-- The glyphs without a byte order mark in front. -/
def dropMark : List Glyph → List Glyph
  | some c :: rest => if c.toNat = 0xFEFF then rest else some c :: rest
  | glyphs => glyphs

def records (glyphs : List Glyph) : List (List Field) :=
  ((dropMark glyphs).foldl Scan.step {}).finish

def fieldText? (field : Field) : Option (List Char) := field.mapM id

end SentimentTree.Csv
