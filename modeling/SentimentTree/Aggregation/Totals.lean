import SentimentTree.Aggregation.Settings
import SentimentTree.Message.Scored
import SentimentTree.Numeric.Arithmetic

/-! # Running totals

Counts and score sums per bucket, collected in one pass over the messages. The totals are a list in
strictly increasing order of their first day; the scores of a bucket are added in message order.
-/

namespace SentimentTree

open Calendar

/-- The running total of one bucket. -/
structure BucketTotal where
  start : Date
  stop : Date
  count : UInt64
  sum : Float
deriving DecidableEq

namespace BucketTotal

def single (start stop : Date) (score : Float) : BucketTotal := ⟨start, stop, 1, 0.0 + score⟩

def add (total : BucketTotal) (score : Float) : BucketTotal :=
  { total with count := total.count + 1, sum := total.sum + score }

/-- Adds a score to the bucket that starts on a day, opening it where it belongs in the order. -/
def insert (start stop : Date) (score : Float) : List BucketTotal → List BucketTotal
  | [] => [single start stop score]
  | total :: rest =>
    if total.start = start then total.add score :: rest
    else if start < total.start then single start stop score :: total :: rest
    else total :: insert start stop score rest

end BucketTotal

/-- The bucket of a message, or what is wrong with the message at this position, counted from 1. -/
def ScoredMessage.place (frequency : Frequency) (position : Nat) (message : ScoredMessage) :
    Except AggregationProblem (Date × Date) :=
  if !Numeric.inUnit message.score then
    .error (.scoreOutside position message.timestamp message.score)
  else match frequency.bounds? message.timestamp.date with
    | some bounds => .ok bounds
    | none => .error (.unplaceable message.timestamp.date frequency)

def collectFrom (frequency : Frequency) (position : Nat) (totals : List BucketTotal) :
    List ScoredMessage → Except AggregationProblem (List BucketTotal)
  | [] => .ok totals
  | message :: rest =>
    match message.place frequency position with
    | .error problem => .error problem
    | .ok (start, stop) =>
      collectFrom frequency (position + 1) (BucketTotal.insert start stop message.score totals) rest

/-- The totals of all messages; the first message that cannot be placed stops the pass. -/
def collect (frequency : Frequency) (messages : List ScoredMessage) :
    Except AggregationProblem (List BucketTotal) :=
  collectFrom frequency 1 [] messages

end SentimentTree
