import SentimentTree.Hierarchy.Basic
import SentimentTree.Decimal.Layout
import SentimentTree.Numeric.Arithmetic

/-! # Checking a tree

A tree that comes from a file is checked before use: trunk height within bounds, the stated number
of months, months and buckets in strict order, and every bucket non-empty, filed under its own month
and with means in the unit interval. The first broken rule, in that order, is reported.
-/

namespace SentimentTree

open Calendar

/-- A rule that a tree breaks. -/
inductive HierarchyProblem
  | trunkOutside (height least greatest : Float)
  | monthTotal (stated present : Nat)
  | monthsOutOfOrder (first second : YearMonth)
  | bucketsOutOfOrder (month : YearMonth) (first second : Date)
  | emptyBucket (label : Date) (month : YearMonth)
  | misfiled (label : Date) (month : YearMonth)
  | rawMeanOutside (label : Date) (mean : Float)
  | contrastedMeanOutside (label : Date) (mean : Float)
deriving DecidableEq

private def meanMessage (field : String) (label : Date) (mean : Float) : String :=
  field ++ " of bucket " ++ String.ofList label.text ++ " is " ++
    String.ofList (Decimal.plainText mean) ++ ", outside [0,1]"

def HierarchyProblem.message : HierarchyProblem → String
  | trunkOutside height least greatest =>
    "trunk height " ++ String.ofList (Decimal.plainText height) ++ " is outside [" ++
      String.ofList (Decimal.plainText least) ++ ", " ++
      String.ofList (Decimal.plainText greatest) ++ "]"
  | monthTotal stated present =>
    "total_months is " ++ toString stated ++ " but " ++ toString present ++ " months are present"
  | monthsOutOfOrder first second =>
    "months out of order: " ++ String.ofList first.text ++ " before " ++ String.ofList second.text
  | bucketsOutOfOrder month first second =>
    "buckets out of order in " ++ String.ofList month.text ++ ": " ++ String.ofList first.text ++
      " before " ++ String.ofList second.text
  | emptyBucket label month =>
    "empty bucket " ++ String.ofList label.text ++ " in " ++ String.ofList month.text
  | misfiled label month =>
    "bucket " ++ String.ofList label.text ++ " filed under " ++ String.ofList month.text
  | rawMeanOutside label mean => meanMessage "avg_sentiment_raw" label mean
  | contrastedMeanOutside label mean => meanMessage "avg_sentiment" label mean

/-- The first two neighbours of which the earlier is not below the later. -/
def firstDisorder? {α : Type} (below : α → α → Bool) : List α → Option (α × α)
  | first :: second :: rest =>
    if below first second then firstDisorder? below (second :: rest) else some (first, second)
  | _ => none

/-- The first rule that a bucket of a month breaks. -/
def Bucket.problem? (month : YearMonth) (bucket : Bucket) : Option HierarchyProblem :=
  if bucket.count = 0 then some (.emptyBucket bucket.label month)
  else if !month.holds bucket.label then some (.misfiled bucket.label month)
  else if !Numeric.inUnit bucket.rawMean then some (.rawMeanOutside bucket.label bucket.rawMean)
  else if !Numeric.inUnit bucket.contrastedMean then
    some (.contrastedMeanOutside bucket.label bucket.contrastedMean)
  else none

/-- The first rule that a month breaks: the order of its buckets, then each bucket by itself. -/
def MonthGroup.problem? (group : MonthGroup) : Option HierarchyProblem :=
  match firstDisorder? (fun a b => decide (a < b)) (group.buckets.map (·.label)) with
  | some (first, second) => some (.bucketsOutOfOrder group.month first second)
  | none => group.buckets.findSome? (Bucket.problem? group.month)

namespace Hierarchy

/-- Whether the trunk's height is a number within bounds. -/
def trunkFits (least greatest height : Float) : Bool :=
  height.isFinite && least ≤ height && height ≤ greatest

def problem? (least greatest : Float) (tree : Hierarchy) : Option HierarchyProblem :=
  if !trunkFits least greatest tree.trunkHeight then
    some (.trunkOutside tree.trunkHeight least greatest)
  else if tree.totalMonths ≠ tree.months.length then
    some (.monthTotal tree.totalMonths tree.months.length)
  else match firstDisorder? (fun a b => decide (a < b)) (tree.months.map (·.month)) with
    | some (first, second) => some (.monthsOutOfOrder first second)
    | none => tree.months.findSome? MonthGroup.problem?

/-- Accepts a tree that breaks no rule, with the trunk's height between the two bounds. -/
def validate (least greatest : Float) (tree : Hierarchy) : Except HierarchyProblem Unit :=
  match tree.problem? least greatest with
  | some problem => .error problem
  | none => .ok ()

end Hierarchy

end SentimentTree
