import SentimentTree.Calendar.Timestamp
import SentimentTree.Message.Sentiment

/-! # Scored messages

A message with its point in time and its place on the sentiment scale, built from a verdict or from
a score. A message that cannot be analyzed always sits in the middle.
-/

namespace SentimentTree

/-- A message with its sentiment. -/
structure ScoredMessage where
  timestamp : Calendar.Timestamp
  text : String
  analyzable : Bool
  label : Label
  certainty : Float
  score : Float
deriving DecidableEq

namespace ScoredMessage

def classified (timestamp : Calendar.Timestamp) (text : String) (analyzable : Bool)
    (verdict : Classification) : ScoredMessage where
  timestamp := timestamp
  text := text
  analyzable := analyzable
  label := verdict.label
  certainty := verdict.confidence
  score := sentimentScore verdict.label verdict.confidence analyzable

def verdictOfScore (score : Float) : Classification :=
  if neutralScore < score then ⟨.positive, score⟩
  else if score < neutralScore then ⟨.negative, 1.0 - score⟩
  else ⟨.neutral, 0.0⟩

/-- A message with a known score, which counts only if the message can be analyzed. -/
def withScore (timestamp : Calendar.Timestamp) (text : String) (analyzable : Bool)
    (score : Float) : ScoredMessage :=
  let kept := if analyzable then score else neutralScore
  { timestamp, text, analyzable, score := kept
    label := (verdictOfScore kept).label
    certainty := (verdictOfScore kept).confidence }

end ScoredMessage

end SentimentTree
