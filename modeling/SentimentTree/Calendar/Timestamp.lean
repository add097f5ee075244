import SentimentTree.Calendar.Date

/-! # Points in time

A date with a time of day down to the nanosecond, without a zone. A leap second is kept as the last
second before it with a full second of nanoseconds added, and written as second 60.
-/

namespace SentimentTree.Calendar

/-- A date and a time of day. -/
structure Timestamp where
  date : Date
  /-- Seconds since midnight. -/
  second : Nat
  /-- Nanoseconds, from `10^9` on within the leap second after `second`. -/
  nano : Nat
  second_lt : second < 86400 := by omega
  nano_lt : nano < 2000000000 := by omega
deriving DecidableEq

namespace Timestamp

/-- The time of day with the given hour, minute, second and nanosecond on a date; second 60 is the
leap second. -/
def ofClock? (date : Date) (hour minute second nano : Nat) : Option Timestamp :=
  if inside : hour < 24 ∧ minute < 60 ∧ second ≤ 60 ∧ nano < 1000000000 then
    if second = 60 then
      some ⟨date, hour * 3600 + minute * 60 + 59, nano + 1000000000, by omega, by omega⟩
    else some ⟨date, hour * 3600 + minute * 60 + min second 59, nano, by omega, by omega⟩
  else none

def midnight (date : Date) : Timestamp := ⟨date, 0, 0, by omega, by omega⟩

/-- The time so many milliseconds after the start of 1970, or before it for a negative count. -/
def ofMillis? (millis : Int) : Option Timestamp :=
  let seconds := millis / 1000
  (Date.ofNumber? (seconds / 86400 + 719528)).map fun date =>
    ⟨date, (seconds % 86400).toNat, (millis % 1000).toNat * 1000000, by omega, by omega⟩

/-- A fraction of a second in the fewest of three, six or nine digits that are exact. -/
def fractionText (nano : Nat) : List Char :=
  if nano = 0 then []
  else if nano % 1000000 = 0 then '.' :: padded 3 (nano / 1000000)
  else if nano % 1000 = 0 then '.' :: padded 6 (nano / 1000)
  else '.' :: padded 9 nano

def clockText (time : Timestamp) : List Char :=
  let leap := 1000000000 ≤ time.nano
  let second := if leap then time.second % 60 + 1 else time.second % 60
  let nano := if leap then time.nano - 1000000000 else time.nano
  padded 2 (time.second / 3600) ++ ':' :: padded 2 (time.second / 60 % 60) ++
    ':' :: padded 2 second ++ fractionText nano

/-- The date and the time of day with a space between. -/
def text (time : Timestamp) : List Char := time.date.text ++ ' ' :: time.clockText

end Timestamp

end SentimentTree.Calendar
