import SentimentTree.Csv.Records
import SentimentTree.Decimal.Reader
import SentimentTree.Table.Document
import SentimentTree.Table.Flag
import SentimentTree.Table.Row

/-! # Message tables as comma-separated values

The first record names the columns; each later one is a row with as many fields. An empty field is
absent. A timestamp or flag without a fixed type is a boolean, an integer, another number or text,
the first that fits. If the column names are no text, fields are taken in the order of the columns.
-/

namespace SentimentTree

/-- What a field of no fixed type holds. -/
inductive Cell
  | bool (value : Bool)
  | int (value : Int)
  /-- A number that is no integer of sixty-four bits. -/
  | otherNumber
  | text (value : String)

namespace Cell

def ofField (field : List Char) : Cell :=
  if field = ['t', 'r', 'u', 'e'] then .bool true
  else if field = ['f', 'a', 'l', 's', 'e'] then .bool false
  else match Decimal.readSigned? (-Nat.pow 2 63) (Nat.pow 2 63 - 1) field with
    | some n => .int n
    | none =>
      if (Decimal.readFloat? field).isSome then .otherNumber else .text (String.ofList field)

def rawTimestamp? : Cell → Option RawTimestamp
  | int n => some (.millis n)
  | text value => some (.text value)
  | _ => none

def flag? : Cell → Option (Option Bool)
  | bool value => some (some value)
  | int n => flagOfInt? n
  | text value => readFlag? value.toList
  | otherNumber => none

end Cell

namespace MessageRow

/-- The row with a column filled from a field; an empty field leaves the column absent. -/
def fill? (row : MessageRow) (column : String) (field : List Char) : Option MessageRow :=
  if field.isEmpty then some row
  else if column = "send_datetime" then
    (Cell.ofField field).rawTimestamp?.map fun raw => { row with sentAt := some raw }
  else if column = "message" then some { row with message := some (String.ofList field) }
  else if column = "is_analyzable" then
    (Cell.ofField field).flag?.map fun flag => { row with analyzable := flag }
  else if column = "sentiment" then some { row with sentiment := some (String.ofList field) }
  else if column = "certainty" then
    (Decimal.readFloat? field).map fun x => { row with certainty := some x }
  else if column = "sentiment_score" then
    (Decimal.readFloat? field).map fun x => { row with score := some x }
  else some row

/-- The row of a record of texts, given the names of its columns; a column of the table may be
named once at most. -/
def ofFields? (names : List String) (fields : List (List Char)) : Option MessageRow :=
  if columnNames.all fun column => names.count column ≤ 1 then
    (names.zip fields).foldlM (fun row entry => row.fill? entry.1 entry.2) {}
  else none

/-- The row of a record, which must be text throughout and have as many fields as the first. -/
def ofRecord? (width : Nat) (names : List String) (record : List Csv.Field) : Option MessageRow :=
  if record.length = width then (record.mapM Csv.fieldText?).bind (ofFields? names) else none

/-- The rows of the records from a number on, or the number of the first that is none. -/
def ofRecords (width : Nat) (names : List String) (row : Nat) :
    List (List Csv.Field) → Except Nat (List MessageRow)
  | [] => .ok []
  | record :: rest =>
    match ofRecord? width names record with
    | none => .error row
    | some first =>
      match ofRecords width names (row + 1) rest with
      | .error row => .error row
      | .ok rows => .ok (first :: rows)

def namesOf (record : List Csv.Field) : List String :=
  match record.mapM Csv.fieldText? with
  | some names => names.map String.ofList
  | none => columnNames

/-- The rows of a sheet, or the number of the first that cannot be read. -/
def ofSheet (glyphs : List Text.Glyph) : Except Nat (List MessageRow) :=
  match Csv.records glyphs with
  | [] => .ok []
  | first :: rest => ofRecords first.length (namesOf first) 1 rest

end MessageRow

end SentimentTree
