import SentimentTree.Text.Blank
import SentimentTree.Text.Case

/-! # Sentiment of one message

Labels, a classifier's verdict on a text, and the place of a verdict on the scale from 0 (negative)
over one half (neutral) to 1 (positive).
-/

namespace SentimentTree

/-- The sentiment a classifier sees in a text. -/
inductive Label
  | positive
  | negative
  | neutral
deriving DecidableEq, Repr

instance : Inhabited Label := ⟨.neutral⟩

/-- A text that names no label, trimmed and in small letters. -/
structure UnknownLabel where
  name : List Char
deriving DecidableEq

def UnknownLabel.message (problem : UnknownLabel) : String :=
  "unknown sentiment label '" ++ String.ofList problem.name ++ "'"

namespace Label

def name : Label → String
  | positive => "positive"
  | negative => "negative"
  | neutral => "neutral"

/-- The first three letters of the name, which stand for it too. -/
def shortName : Label → String
  | positive => "pos"
  | negative => "neg"
  | neutral => "neu"

/-- The label a text names, in any case and with blanks around it. -/
def read (text : List Char) : Except UnknownLabel Label :=
  let word := Text.lower (Text.trim text)
  match [positive, negative, neutral].find? fun label =>
      word == label.name.toList || word == label.shortName.toList with
  | some label => .ok label
  | none => .error ⟨word⟩

end Label

/-- A label with the confidence in it. -/
structure Classification where
  label : Label
  confidence : Float
deriving DecidableEq

/-- The middle of the sentiment scale. -/
def neutralScore : Float := 0.5

/-- The place on the scale: a positive message scores its certainty, a negative one what is left of
it, and a neutral message or one that cannot be analyzed the middle. -/
def sentimentScore (label : Label) (certainty : Float) (analyzable : Bool) : Float :=
  if analyzable then
    match label with
    | .positive => certainty
    | .negative => 1.0 - certainty
    | .neutral => neutralScore
  else neutralScore

end SentimentTree
