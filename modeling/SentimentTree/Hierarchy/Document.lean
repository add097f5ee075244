import SentimentTree.Calendar.TimestampText
import SentimentTree.Hierarchy.Basic
import SentimentTree.Json.Reader
import SentimentTree.Json.Writer

/-! # Trees as JSON documents

The document form of a tree. Reading takes fields in any order, or records as arrays in field order;
the two derived counts of a bucket may be missing or `null`. Writing leaves absent counts out.
-/

namespace SentimentTree

open Calendar

namespace Json

def date? (value : Json) : Option Date := do Date.read? (← value.text?).toList

def yearMonth? (value : Json) : Option YearMonth := do
  match YearMonth.read (← value.text?).toList with
  | .ok month => some month
  | .error _ => none

def count? (value : Json) : Option UInt64 :=
  (value.nat? Decimal.maxUnsigned64).map UInt64.ofNat

end Json

def Bucket.fieldNames : List String :=
  ["send_datetime", "period_start", "period_end", "msg_count", "avg_sentiment_raw",
    "avg_sentiment", "normalized_count", "raw_count"]

def Bucket.ofJson? (value : Json) : Option Bucket := do
  match ← value.fields? Bucket.fieldNames with
  | [some label, some start, some stop, some count, some raw, some contrasted, normalized,
      rawCount] =>
    pure {
      label := ← label.date?
      start := ← start.date?
      stop := ← stop.date?
      count := ← count.count?
      rawMean := ← raw.float?
      contrastedMean := ← contrasted.float?
      normalizedCount := ← Json.missing? Json.float? normalized
      rawCount := ← Json.missing? Json.count? rawCount }
  | _ => none

def MonthGroup.ofJson? (value : Json) : Option MonthGroup := do
  match ← value.fields? ["month", "weeks"] with
  | [some month, some buckets] =>
    pure { month := ← month.yearMonth?, buckets := ← buckets.items? Bucket.ofJson? }
  | _ => none

def Hierarchy.ofJson? (value : Json) : Option Hierarchy := do
  match ← value.fields? ["meta", "months"] with
  | [some summary, some months] =>
    match ← summary.fields? ["trunk_height", "total_months"] with
    | [some height, some total] =>
      pure {
        trunkHeight := ← height.float?
        totalMonths := ← total.nat? Decimal.maxUnsigned64
        months := ← months.items? MonthGroup.ofJson? }
    | _ => none
  | _ => none

/-- A field that is written only if it has a value. -/
def optionalMember (name : String) (value : Option Json) : List (String × Json) :=
  match value with
  | some value => [(name, value)]
  | none => []

def Calendar.Date.toJson (date : Date) : Json := .text (String.ofList date.text)

def Bucket.toJson (bucket : Bucket) : Json :=
  .record ([
    ("send_datetime", bucket.label.toJson),
    ("period_start", bucket.start.toJson),
    ("period_end", bucket.stop.toJson),
    ("msg_count", .nat bucket.count.toNat),
    ("avg_sentiment_raw", .float bucket.rawMean),
    ("avg_sentiment", .float bucket.contrastedMean)] ++
    optionalMember "normalized_count" (bucket.normalizedCount.map .float) ++
    optionalMember "raw_count" (bucket.rawCount.map fun count => .nat count.toNat))

def MonthGroup.toJson (group : MonthGroup) : Json :=
  .record [
    ("month", .text (String.ofList group.month.text)),
    ("weeks", .array (group.buckets.map Bucket.toJson))]

def Hierarchy.toJson (tree : Hierarchy) : Json :=
  .record [
    ("meta", .record [
      ("trunk_height", .float tree.trunkHeight),
      ("total_months", .nat tree.totalMonths)]),
    ("months", .array (tree.months.map MonthGroup.toJson))]

def Hierarchy.documentText (tree : Hierarchy) : List Char := tree.toJson.pretty

def Hierarchy.ofDocumentText? (text : List Char) : Option Hierarchy :=
  (Json.parse? text).bind Hierarchy.ofJson?

end SentimentTree
