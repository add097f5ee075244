import SentimentTree.Calendar.Frequency
import SentimentTree.Calendar.Timestamp
import SentimentTree.Decimal.Layout

/-! # Aggregation settings

What shapes the tree of months: bucket width and label, contrast, the trunk's height budget and
bounds, and which counts are written. Also everything that can stop an aggregation.
-/

namespace SentimentTree

open Calendar

/-- The parameters of one aggregation. -/
structure AggregationSettings where
  frequency : Frequency := .weekly .sunday
  edge : BucketEdge := .last
  contrastFactor : Float := 2.0
  maxTreeHeight : Float := 600.0
  minTrunkHeight : Float := 10.0
  maxTrunkHeight : Float := 40.0
  normalizedCount : Bool := true
  rawCount : Bool := true
deriving DecidableEq

/-- Why messages cannot be aggregated. -/
inductive AggregationProblem
  | contrastNotPositive (factor : Float)
  | treeHeightNotPositive (height : Float)
  | trunkBoundsInvalid (least greatest : Float)
  | scoreOutside (position : Nat) (time : Timestamp) (score : Float)
  | unplaceable (date : Date) (frequency : Frequency)
deriving DecidableEq

def AggregationProblem.message : AggregationProblem → String
  | contrastNotPositive factor =>
    "contrast factor must be a positive number, got " ++ String.ofList (Decimal.plainText factor)
  | treeHeightNotPositive height =>
    "max tree height must be a positive number, got " ++ String.ofList (Decimal.plainText height)
  | trunkBoundsInvalid least greatest =>
    "trunk height bounds [" ++ String.ofList (Decimal.plainText least) ++ ", " ++
      String.ofList (Decimal.plainText greatest) ++ "] are not a valid range"
  | scoreOutside position time score =>
    "message " ++ toString position ++ " at " ++ String.ofList time.text ++
      " has sentiment score " ++ String.ofList (Decimal.plainText score) ++ ", outside [0,1]"
  | unplaceable date frequency =>
    "cannot place " ++ String.ofList date.text ++ " in a " ++ String.ofList frequency.code ++
      " bucket"

namespace AggregationSettings

instance : Inhabited AggregationSettings := ⟨{}⟩

def isPositive (x : Float) : Bool := x.isFinite && 0.0 < x

def boundsFit (least greatest : Float) : Bool :=
  least.isFinite && greatest.isFinite && 0.0 < least && least ≤ greatest

def validate (settings : AggregationSettings) : Except AggregationProblem Unit :=
  if !isPositive settings.contrastFactor then
    .error (.contrastNotPositive settings.contrastFactor)
  else if !isPositive settings.maxTreeHeight then
    .error (.treeHeightNotPositive settings.maxTreeHeight)
  else if !boundsFit settings.minTrunkHeight settings.maxTrunkHeight then
    .error (.trunkBoundsInvalid settings.minTrunkHeight settings.maxTrunkHeight)
  else .ok ()

end AggregationSettings

end SentimentTree
