import SentimentTree.Hierarchy.Basic
import SentimentTree.Proofs.Calendar.Civil

/-! # Buckets partition the calendar

`IsBucket` says on its own, without a date inside, which pairs of days are the ends of a bucket. The
bucket of a date is the only one that has the date between its ends (`bounds?_eq_some_iff`), so two
buckets that share a day are the same, and buckets that differ lie one after the other.
-/

namespace SentimentTree.Calendar

namespace Frequency

/-- The two days are the first and the last day of a bucket: of one day, of a week that ends on the
given weekday, or of a month that is followed by another day of the calendar. -/
def IsBucket : Frequency → Date → Date → Prop
  | daily, first, last => first = last
  | weekly endsOn, first, last => first.number + 6 = last.number ∧ last.weekdayIndex = endsOn.index
  | monthly, first, last => ∃ year month, 1 ≤ month ∧ month ≤ 12 ∧
      first.number = monthStart year month ∧ last.number + 1 = monthEnd year month ∧
      last.number + 1 ≤ lastDay

private theorem weekly_bounds?_eq_some_iff (endsOn : Weekday) (date first last : Date) :
    (weekly endsOn).bounds? date = some (first, last) ↔
      IsBucket (weekly endsOn) first last ∧ first ≤ date ∧ date ≤ last := by
  have index : endsOn.index < 7 := by cases endsOn <;> decide
  simp only [bounds?, IsBucket, bind, pure, Option.bind_eq_some_iff, Option.some.injEq,
    Prod.mk.injEq, Date.addDays?_eq_some_iff, Date.le_iff, Date.weekdayIndex]
  constructor
  · rintro ⟨stop, ahead, start, back, rfl, rfl⟩
    omega
  · rintro ⟨⟨span, weekday⟩, low, high⟩
    refine ⟨last, ?_, first, ?_, rfl, rfl⟩ <;> omega

private theorem nextMonth?_eq_some_iff (date next : Date) :
    nextMonth? date = some next ↔ next.number = monthEnd date.year date.month := by
  have positive := date.one_le_month
  have bound := date.month_le
  unfold nextMonth? monthEnd
  split
  · exact Date.ofCivil?_first_eq_some_iff _ (by omega) (by omega) next
  · exact Date.ofCivil?_first_eq_some_iff _ (by omega) (by omega) next

private theorem monthly_bounds?_eq_some_iff (date first last : Date) :
    monthly.bounds? date = some (first, last) ↔
      IsBucket monthly first last ∧ first ≤ date ∧ date ≤ last := by
  have positive := date.one_le_month
  have bound := date.month_le
  simp only [bounds?, IsBucket, bind, pure, Option.bind_eq_some_iff, Option.some.injEq,
    Prod.mk.injEq, Date.addDays?_eq_some_iff, nextMonth?_eq_some_iff, Date.le_iff,
    Date.ofCivil?_first_eq_some_iff _ positive bound]
  constructor
  · rintro ⟨start, starts, next, follows, stop, stops, rfl, rfl⟩
    have inside := date.number_inMonth
    have held := next.le_last
    exact ⟨⟨date.year, date.month, positive, bound, starts, by omega, by omega⟩,
      by omega, by omega⟩
  · rintro ⟨⟨year, month, monthPositive, monthBound, starts, ends, held⟩, low, high⟩
    obtain ⟨rfl, rfl⟩ := (date.inMonth_iff year monthPositive monthBound).mpr ⟨by omega, by omega⟩
    have early := last.first_le
    exact ⟨first, starts, ⟨last.number + 1, by omega, held⟩, ends, last, by dsimp only; omega,
      rfl, rfl⟩

/-- The bucket of a date is the one bucket that has the date between its ends. -/
theorem bounds?_eq_some_iff (frequency : Frequency) (date first last : Date) :
    frequency.bounds? date = some (first, last) ↔
      frequency.IsBucket first last ∧ first ≤ date ∧ date ≤ last := by
  cases frequency with
  | daily =>
    simp only [bounds?, IsBucket, Option.some.injEq, Prod.mk.injEq, Date.le_iff]
    constructor
    · rintro ⟨rfl, rfl⟩
      exact ⟨rfl, Int.le_refl _, Int.le_refl _⟩
    · rintro ⟨rfl, low, high⟩
      have same : date = first := Date.ext_number (Int.le_antisymm high low)
      exact ⟨same, same⟩
  | weekly endsOn => exact weekly_bounds?_eq_some_iff endsOn date first last
  | monthly => exact monthly_bounds?_eq_some_iff date first last

variable {frequency : Frequency} {date other first last first' last' : Date}

/-- The days of a bucket are the days that have it as their bucket. -/
theorem bounds?_eq_some_iff_between (placed : frequency.bounds? date = some (first, last)) :
    frequency.bounds? other = some (first, last) ↔ first ≤ other ∧ other ≤ last := by
  obtain ⟨bucket, _⟩ := (bounds?_eq_some_iff _ _ _ _).mp placed
  rw [bounds?_eq_some_iff]
  exact and_iff_right bucket

theorem first_le_of_bounds? (placed : frequency.bounds? date = some (first, last)) :
    first ≤ date :=
  ((bounds?_eq_some_iff _ _ _ _).mp placed).2.1

theorem le_last_of_bounds? (placed : frequency.bounds? date = some (first, last)) :
    date ≤ last :=
  ((bounds?_eq_some_iff _ _ _ _).mp placed).2.2

/-- A bucket is the bucket of its own first day. -/
theorem bounds?_first (placed : frequency.bounds? date = some (first, last)) :
    frequency.bounds? first = some (first, last) := by
  rw [bounds?_eq_some_iff_between placed]
  exact ⟨Int.le_refl _,
    Int.le_trans (first_le_of_bounds? placed) (le_last_of_bounds? placed)⟩

/-- Buckets with one first day are the same. -/
theorem last_eq_of_bounds? (placed : frequency.bounds? date = some (first, last))
    (otherPlaced : frequency.bounds? other = some (first, last')) : last = last' := by
  have same := (bounds?_first placed).symm.trans (bounds?_first otherPlaced)
  exact (Prod.mk.inj (Option.some.inj same)).2

/-- A bucket that starts later starts after the other one has ended. -/
theorem last_lt_first_of_lt (placed : frequency.bounds? date = some (first, last))
    (otherPlaced : frequency.bounds? other = some (first', last')) (before : first < first') :
    last < first' := by
  by_contra overlap
  have shared : first ≤ first' ∧ first' ≤ last :=
    ⟨Int.le_of_lt before, Int.not_lt.mp overlap⟩
  have same := ((bounds?_eq_some_iff_between placed).mpr shared).symm.trans
    (bounds?_first otherPlaced)
  obtain rfl := (Prod.mk.inj (Option.some.inj same)).1
  exact Int.lt_irrefl _ before

end Frequency

end SentimentTree.Calendar
