import SentimentTree.Calendar.Weekday
import SentimentTree.Text.Blank
import SentimentTree.Text.Case
import SentimentTree.Text.Lines

/-! # Bucket frequencies

The width of a bucket of days, its one-word aliases, and the first and last day of the bucket that
holds a date.
-/

namespace SentimentTree.Calendar

/-- The width of a bucket. -/
inductive Frequency
  /-- One day. -/
  | daily
  /-- Seven days, the named weekday being the last. -/
  | weekly (endsOn : Weekday)
  /-- One month. -/
  | monthly
deriving DecidableEq

/-- Why a text names no frequency. -/
inductive FrequencyProblem
  | unknown (text : List Char)
  | unknownWeekday (name : List Char)
deriving DecidableEq

def FrequencyProblem.message : FrequencyProblem → String
  | unknown text => "unknown bucket frequency '" ++ String.ofList text ++ "'"
  | unknownWeekday name => "unknown weekday '" ++ String.ofList name ++ "' in bucket frequency"

namespace Frequency

instance : Inhabited Frequency := ⟨weekly .sunday⟩

/-- The one alias that stands for the frequency when it is written. -/
def code : Frequency → List Char
  | daily => ['D']
  | weekly endsOn => 'W' :: '-' :: endsOn.shortName
  | monthly => ['M']

/-- The frequency a text names, in any case and with blanks around it. -/
def read (text : List Char) : Except FrequencyProblem Frequency :=
  let name := Text.upper (Text.trim text)
  let word := String.ofList name
  if ["D", "DAY", "DAILY"].contains word then .ok daily
  else if ["W", "WEEK", "WEEKLY"].contains word then .ok (weekly .sunday)
  else if ["M", "ME", "MONTH", "MONTHLY"].contains word then .ok monthly
  else match name with
    | 'W' :: '-' :: day =>
      match Weekday.ofName? day with
      | some endsOn => .ok (weekly endsOn)
      | none => .error (.unknownWeekday day)
    | _ => .error (.unknown text)

/-- The first day of the month after a date's. -/
def nextMonth? (date : Date) : Option Date :=
  if date.month = 12 then Date.ofCivil? (date.year + 1) 1 1
  else Date.ofCivil? date.year (date.month + 1) 1

/-- The first and last day of the bucket that holds a date, if both are on the calendar and, for a
month, the next month starts on it too. -/
def bounds? (frequency : Frequency) (date : Date) : Option (Date × Date) :=
  match frequency with
  | daily => some (date, date)
  | weekly endsOn => do
    let last ← date.addDays? ((endsOn.index + 7 - date.weekdayIndex) % 7 : Nat)
    let first ← last.addDays? (-6)
    pure (first, last)
  | monthly => do
    let first ← Date.ofCivil? date.year date.month 1
    let next ← nextMonth? date
    let last ← next.addDays? (-1)
    pure (first, last)

end Frequency

/-- Which end of a bucket names it. -/
inductive BucketEdge
  | first
  | last
deriving DecidableEq

/-- The day that names the bucket between two days. -/
def BucketEdge.pick : BucketEdge → Date → Date → Date
  | first, start, _ => start
  | last, _, stop => stop

end SentimentTree.Calendar
