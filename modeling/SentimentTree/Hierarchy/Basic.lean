import SentimentTree.Calendar.YearMonth

/-! # The tree of months and buckets

Buckets of days with the sentiment of their messages, nested under the calendar month of the day
that names them, and the height of the trunk that carries them.
-/

namespace SentimentTree

open Calendar

def Calendar.YearMonth.ofDate (date : Date) : YearMonth where
  year := date.year
  month := date.month
  year_ge := by have := date.year_ge; omega
  year_le := by have := date.year_le; omega
  month_pos := date.one_le_month
  month_le := date.month_le

def Calendar.YearMonth.holds (month : YearMonth) (date : Date) : Bool :=
  date.year == month.year && date.month == month.month

/-- The messages of a run of days, summed up. -/
structure Bucket where
  /-- The day that names the bucket and decides its month. -/
  label : Date
  start : Date
  stop : Date
  count : UInt64
  rawMean : Float
  /-- The mean after the contrast stretch; it is what a fruit shows. -/
  contrastedMean : Float
  normalizedCount : Option Float
  rawCount : Option UInt64
deriving DecidableEq

/-- The buckets named by days of one month. -/
structure MonthGroup where
  month : YearMonth
  buckets : List Bucket
deriving DecidableEq

/-- Months in order of time with the trunk's height. -/
structure Hierarchy where
  trunkHeight : Float
  totalMonths : Nat
  months : List MonthGroup
deriving DecidableEq

namespace Hierarchy

def buckets (tree : Hierarchy) : List Bucket := tree.months.flatMap (·.buckets)

def bucketCount (tree : Hierarchy) : Nat := tree.buckets.length

/-- Two counts added up, if sixty-four bits hold the sum. -/
def addCounts? (total count : UInt64) : Option UInt64 :=
  if total.toNat + count.toNat < UInt64.size then some (total + count) else none

/-- The number of messages, bucket after bucket; there is none once a sum is too large. -/
def messageCount? (tree : Hierarchy) : Option UInt64 :=
  tree.buckets.foldlM (fun total bucket => addCounts? total bucket.count) 0

end Hierarchy

end SentimentTree
