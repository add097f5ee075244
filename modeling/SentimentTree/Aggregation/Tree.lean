import SentimentTree.Aggregation.Contrast
import SentimentTree.Aggregation.Totals
import SentimentTree.Hierarchy.Basic
import SentimentTree.Numeric.LogOnePlus

/-! # From messages to the tree

Each total becomes a bucket with its mean and contrasted mean, and buckets that follow each other
within a month are grouped under it.
-/

namespace SentimentTree

open Calendar

def BucketTotal.mean (total : BucketTotal) : Float :=
  Numeric.clampUnit (total.sum / total.count.toFloat)

def BucketTotal.toBucket (power : Float → Float → Float) (settings : AggregationSettings)
    (total : BucketTotal) : Bucket where
  label := settings.edge.pick total.start total.stop
  start := total.start
  stop := total.stop
  count := total.count
  rawMean := total.mean
  contrastedMean := contrast (.floating power) total.mean settings.contrastFactor
  normalizedCount :=
    if settings.normalizedCount then some (Numeric.logOnePlus total.count.toFloat * 5.0) else none
  rawCount := if settings.rawCount then some total.count else none

/-- The month groups with one more bucket in front, which joins the first group if that is its
month. -/
def MonthGroup.consBucket (bucket : Bucket) (month : YearMonth) : List MonthGroup → List MonthGroup
  | group :: rest =>
    if group.month = month then ⟨month, bucket :: group.buckets⟩ :: rest
    else ⟨month, [bucket]⟩ :: group :: rest
  | [] => [⟨month, [bucket]⟩]

/-- Runs of buckets with the same month become one group each. -/
def groupByMonth (buckets : List Bucket) : List MonthGroup :=
  buckets.foldr (fun bucket groups => MonthGroup.consBucket bucket (.ofDate bucket.label) groups) []

/-- The tree of the messages. -/
def aggregate (power : Float → Float → Float) (settings : AggregationSettings)
    (messages : List ScoredMessage) : Except AggregationProblem Hierarchy := do
  settings.validate
  let totals ← collect settings.frequency messages
  let buckets := (totals.filter fun total => total.count != 0).map (·.toBucket power settings)
  let months := groupByMonth buckets
  pure {
    trunkHeight := trunkHeight (UInt64.ofNat months.length) settings.maxTreeHeight
      settings.minTrunkHeight settings.maxTrunkHeight
    totalMonths := months.length
    months }

end SentimentTree
