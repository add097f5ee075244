import SentimentTree.Calendar.TimestampText
import SentimentTree.Decimal.Layout
import SentimentTree.Message.Scored
import SentimentTree.Numeric.Arithmetic
import SentimentTree.Text.Escaped

/-! # Rows of a message table

A row as it was read, every column optional, and its validation into a scored message: by a
classifier's verdict when there is one, otherwise by the row's own sentiment columns.
-/

namespace SentimentTree

open Calendar

/-- A point in time as a table gives it. -/
inductive RawTimestamp
  /-- Milliseconds since the start of 1970. -/
  | millis (count : Int)
  | text (spelling : String)
deriving DecidableEq

/-- The point in time that is meant, if the spelling is readable. -/
def RawTimestamp.read? : RawTimestamp → Option Timestamp
  | millis count => Timestamp.ofMillis? count
  | text spelling => Timestamp.read? spelling.toList

def RawTimestamp.shown : RawTimestamp → String
  | millis count => "EpochMillis(" ++ toString count ++ ")"
  | text spelling => "Text(" ++ String.ofList (Text.quoted spelling.toList) ++ ")"

/-- A row of a message table. -/
structure MessageRow where
  sentAt : Option RawTimestamp := none
  message : Option String := none
  analyzable : Option Bool := none
  /-- The name of a label. -/
  sentiment : Option String := none
  certainty : Option Float := none
  score : Option Float := none
deriving DecidableEq

instance : Inhabited MessageRow := ⟨{}⟩

/-- Why a row cannot be used. -/
inductive RowProblem
  | noTimestamp
  | unreadableTimestamp (raw : RawTimestamp)
  | noFlag
  | unknownLabel (problem : UnknownLabel)
  /-- A number that lies outside the unit interval, with what it is. -/
  | outsideUnit (quantity : String) (value : Float)
  | noSentiment
deriving DecidableEq

/-- A row that cannot be used, counted from 1. -/
structure RowError where
  row : Nat
  problem : RowProblem
deriving DecidableEq

def RowError.message (error : RowError) : String :=
  let row := "row " ++ toString error.row
  match error.problem with
  | .noTimestamp => row ++ " has no send_datetime"
  | .unreadableTimestamp raw => row ++ " has an unreadable send_datetime " ++ raw.shown
  | .noFlag => row ++ " has no is_analyzable"
  | .unknownLabel problem => row ++ ": " ++ problem.message
  | .outsideUnit quantity value =>
    row ++ " has " ++ quantity ++ " " ++ String.ofList (Decimal.plainText value) ++
      ", outside [0,1]"
  | .noSentiment =>
    row ++ " is analyzable but has no sentiment_score (or sentiment + certainty); " ++
      "run with --classify to score it"

namespace MessageRow

def timestamp (row : MessageRow) : Except RowProblem Timestamp :=
  match row.sentAt with
  | none => .error .noTimestamp
  | some raw =>
    match raw.read? with
    | some time => .ok time
    | none => .error (.unreadableTimestamp raw)

def flag (row : MessageRow) : Except RowProblem Bool :=
  match row.analyzable with
  | some flag => .ok flag
  | none => .error .noFlag

def text (row : MessageRow) : String := row.message.getD ""

end MessageRow

/-- Accepts a number of the unit interval. -/
def checkUnit (quantity : String) (value : Float) : Except RowProblem Unit :=
  if Numeric.inUnit value then .ok () else .error (.outsideUnit quantity value)

/-- The label that the sentiment column names, if it is filled. -/
def MessageRow.label? (row : MessageRow) : Except RowProblem (Option Label) :=
  match row.sentiment with
  | none => .ok none
  | some name =>
    match Label.read name.toList with
    | .ok label => .ok (some label)
    | .error problem => .error (.unknownLabel problem)

/-- A message with the verdict that label and certainty columns give, where both are filled. -/
def ScoredMessage.withVerdict (message : ScoredMessage) (label : Option Label)
    (certainty : Option Float) : ScoredMessage :=
  match label, certainty with
  | some label, some certainty => { message with label := label, certainty := certainty }
  | _, _ => message

namespace MessageRow

/-- The message of a row that a classifier has judged. -/
def judged (row : MessageRow) (time : Timestamp) (analyzable : Bool) (verdict : Classification) :
    Except RowProblem ScoredMessage := do
  checkUnit "classifier confidence" verdict.confidence
  pure (.classified time row.text analyzable verdict)

/-- The message of an analyzable row by its own columns: the score counts first, else label and
certainty together. -/
def selfScored (row : MessageRow) (time : Timestamp) : Except RowProblem ScoredMessage := do
  let label ← row.label?
  match row.certainty with
  | some certainty => checkUnit "certainty" certainty
  | none => pure ()
  match row.score with
  | some score =>
    checkUnit "sentiment_score" score
    pure ((ScoredMessage.withScore time row.text true score).withVerdict label row.certainty)
  | none =>
    match label, row.certainty with
    | some label, some certainty => pure (.classified time row.text true ⟨label, certainty⟩)
    | _, _ => .error .noSentiment

/-- The scored message of a row, by the verdict if there is one. A row that cannot be analyzed is
neutral whatever its sentiment columns hold. -/
def scored (row : MessageRow) (verdict : Option Classification) :
    Except RowProblem ScoredMessage := do
  let time ← row.timestamp
  let analyzable ← row.flag
  match verdict with
  | some verdict => row.judged time analyzable verdict
  | none =>
    if analyzable then row.selfScored time
    else pure (.withScore time row.text false neutralScore)

end MessageRow

/-- A row's result with the row's number in the error. -/
def atRow {α : Type} (row : Nat) : Except RowProblem α → Except RowError α
  | .ok value => .ok value
  | .error problem => .error ⟨row, problem⟩

/-- The messages of the rows from a number on, by their own columns. -/
def scoreRowsFrom (row : Nat) : List MessageRow → Except RowError (List ScoredMessage)
  | [] => .ok []
  | first :: rest =>
    match atRow row (first.scored none) with
    | .error problem => .error problem
    | .ok message =>
      match scoreRowsFrom (row + 1) rest with
      | .error problem => .error problem
      | .ok messages => .ok (message :: messages)

/-- The messages of all rows by their own columns, or the first row that cannot be used. -/
def scoreRows (rows : List MessageRow) : Except RowError (List ScoredMessage) :=
  scoreRowsFrom 1 rows

end SentimentTree
