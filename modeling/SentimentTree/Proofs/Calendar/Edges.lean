import SentimentTree.Proofs.Calendar.Buckets

/-! # The ends of buckets, and of the calendar

The ends of a week are seven days in a row up to its weekday, those of a month are the first and the
last of its days. Both can be said of days that no calendar holds, which tells the days that have no
bucket: those whose week reaches over an end of the calendar, and those of its last month, which no
other day follows (`bounds?_eq_none_iff`). Buckets keep the order of the days in them.
-/

namespace SentimentTree.Calendar

variable {endsOn : Weekday} {year : Int} {month : Nat}

/-! ## Weeks and months -/

/-- Seven days in a row that end on a weekday and hold a day, on the calendar or not. -/
structure IsWeekOf (endsOn : Weekday) (day first last : Int) : Prop where
  span : last = first + 6
  weekday : (last + 5) % 7 = endsOn.index
  first_le : first ≤ day
  le_last : day ≤ last

theorem IsWeekOf.unique {day first last first' last' : Int} (week : IsWeekOf endsOn day first last)
    (other : IsWeekOf endsOn day first' last') : first' = first ∧ last' = last := by
  obtain ⟨span, weekday, low, high⟩ := week
  obtain ⟨span', weekday', low', high'⟩ := other
  omega

theorem Date.dayOfMonth_eq_iff {date : Date} (inside : date.year = year ∧ date.month = month)
    (day : Nat) :
    date.dayOfMonth = day ↔ date.number + 1 = monthStart year month + day := by
  have number := date.number_eq
  rw [inside.1, inside.2] at number
  omega

namespace Frequency

variable {frequency : Frequency} {date other first last first' last' : Date}

/-- What the days of a bucket are: the day itself; the seven days up to the weekday; the days of the
month, from its first to its last. -/
def Spans : Frequency → Date → Date → Date → Prop
  | daily, date, first, last => first = date ∧ last = date
  | weekly endsOn, _, first, last =>
    last.weekdayIndex = endsOn.index ∧ last.number = first.number + 6
  | monthly, date, first, last =>
    (∀ other : Date, first ≤ other ∧ other ≤ last ↔
      other.year = date.year ∧ other.month = date.month) ∧
    first.dayOfMonth = 1 ∧
    (monthLengths (isLeap date.year))[date.month - 1]? = some last.dayOfMonth

private theorem spans_of_bounds? (placed : frequency.bounds? date = some (first, last)) :
    frequency.Spans date first last := by
  obtain ⟨bucket, low, high⟩ := (bounds?_eq_some_iff _ _ _ _).mp placed
  cases frequency with
  | daily =>
    obtain rfl : first = last := bucket
    obtain rfl : first = date := Date.ext_number (Int.le_antisymm low high)
    exact ⟨rfl, rfl⟩
  | weekly endsOn => exact ⟨bucket.2, bucket.1.symm⟩
  | monthly =>
    obtain ⟨year, month, positive, bound, starts, ends, -⟩ := bucket
    rw [Date.le_iff] at low high
    have inside (other : Date) : first ≤ other ∧ other ≤ last ↔
        other.year = year ∧ other.month = month := by
      rw [other.inMonth_iff year positive bound, Date.le_iff, Date.le_iff]
      omega
    obtain ⟨rfl, rfl⟩ := (inside date).mp ⟨low, high⟩
    obtain ⟨length, found, nonempty, next⟩ := exists_monthLength date.year positive bound
    have own := (inside first).mp ⟨Int.le_refl _, Int.le_trans low high⟩
    have others := (inside last).mp ⟨Int.le_trans low high, Int.le_refl _⟩
    refine ⟨inside, ?_, ?_⟩
    · rw [Date.dayOfMonth_eq_iff own]
      omega
    · rw [found, eq_comm, Option.some.injEq, Date.dayOfMonth_eq_iff others]
      omega

/-- A day and a month begin and end in one month. -/
theorem ofDate_first_eq_last (within : frequency = .daily ∨ frequency = .monthly)
    (placed : frequency.bounds? date = some (first, last)) :
    YearMonth.ofDate first = YearMonth.ofDate last := by
  have order : first ≤ last := Int.le_trans (first_le_of_bounds? placed) (le_last_of_bounds? placed)
  have spans := spans_of_bounds? placed
  rcases within with rfl | rfl
  · obtain ⟨rfl, rfl⟩ := spans
    rfl
  · obtain ⟨inside, -, -⟩ := spans
    obtain ⟨year, month⟩ := (inside first).mp ⟨Int.le_refl _, order⟩
    obtain ⟨year', month'⟩ := (inside last).mp ⟨order, Int.le_refl _⟩
    simp only [YearMonth.ofDate, year, month, year', month']

end Frequency

end SentimentTree.Calendar
