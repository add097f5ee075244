import SentimentTree.Calendar.Date

/-! # Days of the week

The seven weekdays, the weekday of a date, and their names.
-/

namespace SentimentTree.Calendar

/-- A day of the week. -/
inductive Weekday
  | monday | tuesday | wednesday | thursday | friday | saturday | sunday
deriving DecidableEq, Repr

namespace Weekday

/-- All weekdays, Monday first. -/
def all : List Weekday := [monday, tuesday, wednesday, thursday, friday, saturday, sunday]

/-- The number of days since Monday. -/
def index : Weekday → Nat
  | monday => 0 | tuesday => 1 | wednesday => 2 | thursday => 3
  | friday => 4 | saturday => 5 | sunday => 6

/-- The first three letters of the name, in capitals. -/
def shortName : Weekday → List Char
  | monday => ['M', 'O', 'N'] | tuesday => ['T', 'U', 'E'] | wednesday => ['W', 'E', 'D']
  | thursday => ['T', 'H', 'U'] | friday => ['F', 'R', 'I'] | saturday => ['S', 'A', 'T']
  | sunday => ['S', 'U', 'N']

/-- What the full name has beyond its first three letters. -/
def nameEnd : Weekday → List Char
  | monday | friday | sunday => ['D', 'A', 'Y']
  | tuesday => ['S', 'D', 'A', 'Y']
  | wednesday => ['N', 'E', 'S', 'D', 'A', 'Y']
  | thursday => ['R', 'S', 'D', 'A', 'Y']
  | saturday => ['U', 'R', 'D', 'A', 'Y']

/-- The weekday with a short or full name, in any case. -/
def ofName? (name : List Char) : Option Weekday :=
  let capitals := name.map Char.toUpper
  all.find? fun day => capitals == day.shortName || capitals == day.shortName ++ day.nameEnd

end Weekday

/-- The number of days since the last Monday; `0000-01-03` is one. -/
def Date.weekdayIndex (date : Date) : Nat := ((date.number + 5) % 7).toNat

end SentimentTree.Calendar
