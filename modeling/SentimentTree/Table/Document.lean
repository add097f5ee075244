import SentimentTree.Json.Reader
import SentimentTree.Table.Flag
import SentimentTree.Table.Row

/-! # Message tables as JSON

A table is an array of records. All columns may be missing or `null`.
-/

namespace SentimentTree

namespace Json

/-- A point in time: a whole number of milliseconds or a text. -/
def rawTimestamp? (value : Json) : Option RawTimestamp :=
  match value with
  | .string (some text) => some (.text text)
  | value => value.int64?.map .millis

def flag? (value : Json) : Option (Option Bool) :=
  match value with
  | .null => some none
  | .bool flag => some (some flag)
  | .string (some text) => readFlag? text.toList
  | value => value.int64?.bind flagOfInt?

end Json

def MessageRow.columnNames : List String :=
  ["send_datetime", "message", "is_analyzable", "sentiment", "certainty", "sentiment_score"]

def MessageRow.ofJson? (value : Json) : Option MessageRow := do
  match ← value.fields? MessageRow.columnNames with
  | [sentAt, message, analyzable, sentiment, certainty, score] =>
    pure {
      sentAt := ← Json.missing? Json.rawTimestamp? sentAt
      message := ← Json.missing? Json.text? message
      analyzable := ← (match analyzable with
        | none => some none
        | some value => value.flag?)
      sentiment := ← Json.missing? Json.text? sentiment
      certainty := ← Json.missing? Json.float? certainty
      score := ← Json.missing? Json.float? score }
  | _ => none

def MessageRow.ofDocument? (glyphs : List Text.Glyph) : Option (List MessageRow) :=
  (Json.ofGlyphs? glyphs).bind (Json.items? MessageRow.ofJson?)

end SentimentTree
