import SentimentTree.Calendar.Date
import SentimentTree.Decimal.Reader
import SentimentTree.Text.Lines

/-! # Months of a year

A calendar year and month with its text form. Writing pads the year to four characters, sign
included; reading splits at the first hyphen, so it never yields a negative year.
-/

namespace SentimentTree.Calendar

/-- A year of thirty-two bits and a month, counted from 1. -/
structure YearMonth where
  year : Int
  month : Nat
  year_ge : -2147483648 ≤ year := by omega
  year_le : year ≤ 2147483647 := by omega
  month_pos : 1 ≤ month := by omega
  month_le : month ≤ 12 := by omega
deriving DecidableEq

/-- Why a text names no month. -/
inductive YearMonthProblem
  | noHyphen (text : List Char)
  | badYear (text : List Char)
  | badMonth (text : List Char)
  | monthOutOfRange (text : List Char)
deriving DecidableEq

def YearMonthProblem.message : YearMonthProblem → String
  | noHyphen text => "expected YYYY-MM, got '" ++ String.ofList text ++ "'"
  | badYear text => "invalid year in '" ++ String.ofList text ++ "'"
  | badMonth text => "invalid month in '" ++ String.ofList text ++ "'"
  | monthOutOfRange text => "month out of range in '" ++ String.ofList text ++ "'"

namespace YearMonth

/-- The month with the given numbers, if they are in range. -/
def new? (year : Int) (month : Nat) : Option YearMonth :=
  if inside : (-2147483648 ≤ year ∧ year ≤ 2147483647) ∧ 1 ≤ month ∧ month ≤ 12 then
    some ⟨year, month, inside.1.1, inside.1.2, inside.2.1, inside.2.2⟩
  else none

/-- Months in order of time. -/
def compare (a b : YearMonth) : Ordering :=
  (Ord.compare a.year b.year).then (Ord.compare a.month b.month)

instance : Ord YearMonth := ⟨compare⟩
instance : LT YearMonth := ⟨fun a b => a.year < b.year ∨ a.year = b.year ∧ a.month < b.month⟩
instance (a b : YearMonth) : Decidable (a < b) :=
  inferInstanceAs (Decidable (a.year < b.year ∨ a.year = b.year ∧ a.month < b.month))

/-- A number padded with zeros to four characters, the sign counted. -/
def paddedYear (year : Int) : List Char :=
  if year < 0 then '-' :: padded 3 year.natAbs else padded 4 year.natAbs

/-- The year, a hyphen and the month in two digits. -/
def text (month : YearMonth) : List Char := paddedYear month.year ++ '-' :: padded 2 month.month

/-- The month a text names: the year before the first hyphen, the month after it. -/
def read (text : List Char) : Except YearMonthProblem YearMonth :=
  match Text.cutAt? (· == '-') text with
  | none => .error (.noHyphen text)
  | some (yearPart, monthPart) =>
    match Decimal.readSigned? (-2147483648) 2147483647 yearPart with
    | none => .error (.badYear text)
    | some year =>
      match Decimal.readUnsigned? 4294967295 monthPart with
      | none => .error (.badMonth text)
      | some month =>
        match new? year month with
        | some value => .ok value
        | none => .error (.monthOutOfRange text)

end YearMonth

end SentimentTree.Calendar
