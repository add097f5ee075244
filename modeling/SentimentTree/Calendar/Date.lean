/-! # Calendar dates

Days of the proleptic Gregorian calendar, from `-262143-01-01` to `+262142-12-31`. A date is its
position on the line of days, counted from `0000-01-01`; year, month and day are views of it.
-/

namespace SentimentTree.Calendar

/-- The number of days between `0000-01-01` and the first day of a year. -/
def daysBeforeYear (year : Int) : Int :=
  365 * year + (year + 3) / 4 - (year + 99) / 100 + (year + 399) / 400

/-- Years divisible by four have a leap day, except centuries not divisible by four hundred. -/
def isLeap (year : Int) : Bool :=
  year % 4 == 0 && (year % 100 != 0 || year % 400 == 0)

def monthLengths (leap : Bool) : List Nat :=
  [31, if leap then 29 else 28, 31, 30, 31, 30, 31, 31, 30, 31, 30, 31]

/-- The number of days in a year before the first day of a month, counted from 1. -/
def daysBeforeMonth (leap : Bool) (month : Nat) : Nat :=
  ((monthLengths leap).take (month - 1)).foldr (· + ·) 0

/-- The month, counted from 1, and the day in it, counted from 1, of a day of the year counted
from 0, given the lengths of the months. -/
def monthAndDay : List Nat → Nat → Nat × Nat
  | length :: next :: rest, day =>
    if day < length then (1, day + 1)
    else
      let later := monthAndDay (next :: rest) (day - length)
      (later.1 + 1, later.2)
  | _, day => (1, day + 1)

theorem one_le_monthAndDay (lengths : List Nat) (day : Nat) : 1 ≤ (monthAndDay lengths day).1 := by
  fun_induction monthAndDay lengths day <;> simp

private theorem monthAndDay_le (lengths : List Nat) (day : Nat) :
    (monthAndDay lengths day).1 ≤ max 1 lengths.length := by
  fun_induction monthAndDay lengths day with
  | case1 => simp
  | case2 length next rest day _ later ih =>
    have shorter : later.1 ≤ max 1 (next :: rest).length := ih
    simp only [List.length_cons] at shorter ⊢
    omega
  | case3 => exact Nat.le_max_left 1 _

def yearOfDay (day : Int) : Int :=
  let guess := 400 * day / 146097
  if day < daysBeforeYear guess then guess - 1
  else if daysBeforeYear (guess + 1) ≤ day then guess + 1
  else guess

/-- The first day of the calendar, `-262143-01-01`. -/
abbrev firstDay : Int := -95745764

/-- The last day of the calendar, `+262142-12-31`. -/
abbrev lastDay : Int := 95745764

example : firstDay = daysBeforeYear (-262143) := by decide

example : lastDay = daysBeforeYear 262143 - 1 := by decide

/-- A day of the calendar. -/
structure Date where
  /-- Days since `0000-01-01`. -/
  number : Int
  first_le : firstDay ≤ number := by omega
  le_last : number ≤ lastDay := by omega
deriving DecidableEq

namespace Date

instance : LE Date := ⟨fun a b => a.number ≤ b.number⟩
instance : LT Date := ⟨fun a b => a.number < b.number⟩
instance (a b : Date) : Decidable (a ≤ b) := inferInstanceAs (Decidable (a.number ≤ b.number))
instance (a b : Date) : Decidable (a < b) := inferInstanceAs (Decidable (a.number < b.number))

/-- The day with a given number, if the calendar holds it. -/
def ofNumber? (number : Int) : Option Date :=
  if inside : firstDay ≤ number ∧ number ≤ lastDay then some ⟨number, inside.1, inside.2⟩ else none

/-- The day of a year, month and day of the month, if there is one. -/
def ofCivil? (year : Int) (month day : Nat) : Option Date :=
  match (monthLengths (isLeap year))[month - 1]? with
  | some length =>
    if 1 ≤ month ∧ 1 ≤ day ∧ day ≤ length then
      ofNumber? (daysBeforeYear year + daysBeforeMonth (isLeap year) month + (day - 1))
    else none
  | none => none

def year (date : Date) : Int := yearOfDay date.number

/-- The day of the year, counted from 0. -/
def dayOfYear (date : Date) : Nat := (date.number - daysBeforeYear date.year).toNat

/-- The month of a day, counted from 1. -/
def month (date : Date) : Nat := (monthAndDay (monthLengths (isLeap date.year)) date.dayOfYear).1

theorem one_le_month (date : Date) : 1 ≤ date.month := one_le_monthAndDay _ _

theorem month_le (date : Date) : date.month ≤ 12 := by
  have bound := monthAndDay_le (monthLengths (isLeap date.year)) date.dayOfYear
  simp only [monthLengths, List.length_cons, List.length_nil] at bound
  exact bound

theorem year_ge (date : Date) : -262144 ≤ date.year := by
  have low := date.first_le
  unfold year yearOfDay
  grind

theorem year_le (date : Date) : date.year ≤ 262144 := by
  have high := date.le_last
  unfold year yearOfDay
  grind

/-- The day of the month, counted from 1. -/
def dayOfMonth (date : Date) : Nat :=
  (monthAndDay (monthLengths (isLeap date.year)) date.dayOfYear).2

/-- The day some days later, or earlier for a negative count. -/
def addDays? (date : Date) (count : Int) : Option Date := ofNumber? (date.number + count)

end Date

/-- Digits with zeros in front up to a width. -/
def padded (width n : Nat) : List Char :=
  let digits := Nat.toDigits 10 n
  List.replicate (width - digits.length) '0' ++ digits

/-- A year of a date: four digits, with a sign outside the range from 0 to 9999. -/
def yearText (year : Int) : List Char :=
  if 0 ≤ year ∧ year ≤ 9999 then padded 4 year.toNat
  else (if year < 0 then '-' else '+') :: padded 4 year.natAbs

def Date.text (date : Date) : List Char :=
  yearText date.year ++ '-' :: padded 2 date.month ++ '-' :: padded 2 date.dayOfMonth

end SentimentTree.Calendar
