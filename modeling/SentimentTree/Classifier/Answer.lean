import SentimentTree.Json.Reader
import SentimentTree.Message.Sentiment
import SentimentTree.Numeric.Arithmetic
import SentimentTree.Text.Lines

/-! # Reading a model's answer

A model answers with one JSON record per line: the number of a message, a label and a confidence.
Lines of any other kind are passed over. For each message the last record counts, and every message
needs one.
-/

namespace SentimentTree

/-- What a record of an answer says about one message. -/
structure AnswerRecord where
  /-- The number of the message, from 1. -/
  index : Nat
  label : String
  confidence : Float
deriving DecidableEq

def AnswerRecord.ofJson? (value : Json) : Option AnswerRecord := do
  match ← value.fields? ["index", "label", "confidence"] with
  | [some index, some label, some confidence] =>
    pure {
      index := ← index.nat? Decimal.maxUnsigned64
      label := ← label.text?
      confidence := ← confidence.float? }
  | _ => none

/-- What a line of an answer amounts to. -/
inductive AnswerLine
  /-- A line that does not look like a record. -/
  | other
  /-- A line that looks like a record and is none. -/
  | unreadable (line : List Char)
  /-- A record about a message that was not asked about. -/
  | outOfRange (index : Nat)
  | hit (record : AnswerRecord)
deriving DecidableEq

/-- A line without the blanks around it and the commas after it. -/
def AnswerLine.bare (line : List Char) : List Char :=
  Text.dropEndWhile (· == ',') (Text.trim line)

/-- What a line amounts to when `expected` messages were asked about. -/
def AnswerLine.read (expected : Nat) (line : List Char) : AnswerLine :=
  let line := bare line
  if line.head? ≠ some '\x7b' then .other
  else match (Json.parse? line).bind AnswerRecord.ofJson? with
    | none => .unreadable line
    | some record =>
      if record.index = 0 ∨ expected < record.index then .outOfRange record.index
      else .hit record

def AnswerLine.remark? : AnswerLine → Option String
  | unreadable line => some ("Skipping unparseable line: " ++ String.ofList line)
  | outOfRange index => some ("Skipping out-of-range index " ++ toString index)
  | _ => none

/-- Why an answer cannot be used. -/
inductive AnswerProblem
  | unknownLabel (index : Nat) (problem : UnknownLabel)
  | missing (index : Nat)
deriving DecidableEq

def AnswerProblem.message : AnswerProblem → String
  | unknownLabel index problem => "message " ++ toString index ++ ": " ++ problem.message
  | missing index => "no classification for message " ++ toString index

/-- A verdict for each message, as far as it is known. -/
abbrev VerdictSlots := List (Option Classification)

/-- The slots after more lines, or the first unknown label; with the remarks made until then. -/
def fillSlots (slots : VerdictSlots) :
    List AnswerLine → List String × Except AnswerProblem VerdictSlots
  | [] => ([], .ok slots)
  | .hit record :: rest =>
    match Label.read record.label.toList with
    | .error problem => ([], .error (.unknownLabel record.index problem))
    | .ok label =>
      fillSlots (slots.set (record.index - 1) (some ⟨label, Numeric.clampUnit record.confidence⟩))
        rest
  | line :: rest =>
    let (remarks, result) := fillSlots slots rest
    (line.remark?.toList ++ remarks, result)

/-- The verdicts of the messages from a number on, all of which have to be known. -/
def allFilled (index : Nat) : VerdictSlots → Except AnswerProblem (List Classification)
  | [] => .ok []
  | none :: _ => .error (.missing index)
  | some verdict :: rest =>
    match allFilled (index + 1) rest with
    | .error problem => .error problem
    | .ok verdicts => .ok (verdict :: verdicts)

/-- The verdicts of an answer about `expected` messages, with the remarks made on the way. -/
def readAnswer (expected : Nat) (answer : List Char) :
    List String × Except AnswerProblem (List Classification) :=
  let lines := (Text.lines answer).map (AnswerLine.read expected)
  match fillSlots (List.replicate expected none) lines with
  | (remarks, .ok slots) => (remarks, allFilled 1 slots)
  | (remarks, .error problem) => (remarks, .error problem)

end SentimentTree
