import SentimentTree.Calendar.Frequency
import Mathlib.Algebra.Order.BigOperators.Group.List
import Mathlib.Algebra.Order.Ring.Nat

/-! # Years and months as runs of days

The year of a day is the one run `[daysBeforeYear y, daysBeforeYear (y + 1))` that holds it, and the
months of a year cut that run into consecutive pieces. `Date.inMonth_iff` states both at once: year
and month of a date are a year and a month exactly when its number lies between the first day of
that month and the first day of the month after it.
-/

namespace SentimentTree.Calendar

namespace Date

theorem le_iff (a b : Date) : a ≤ b ↔ a.number ≤ b.number := Iff.rfl

theorem lt_iff (a b : Date) : a < b ↔ a.number < b.number := Iff.rfl

theorem ne_of_lt {a b : Date} (before : a < b) : a ≠ b := by
  rintro rfl
  exact Int.lt_irrefl _ before

theorem ext_number {a b : Date} (same : a.number = b.number) : a = b := by
  cases a
  cases b
  cases same
  rfl

theorem ofNumber?_eq_some_iff (number : Int) (date : Date) :
    ofNumber? number = some date ↔ date.number = number := by
  unfold ofNumber?
  constructor
  · intro found
    split at found
    · cases found
      rfl
    · contradiction
  · rintro rfl
    rw [dif_pos ⟨date.first_le, date.le_last⟩]

theorem addDays?_eq_some_iff (date other : Date) (count : Int) :
    date.addDays? count = some other ↔ other.number = date.number + count :=
  ofNumber?_eq_some_iff _ _

end Date

/-! ## Years -/

theorem isLeap_iff (year : Int) :
    isLeap year = true ↔ year % 4 = 0 ∧ (year % 100 ≠ 0 ∨ year % 400 = 0) := by
  simp [isLeap]

/-- A year is followed by the next one after 365 days, or 366 in a leap year. -/
private theorem daysBeforeYear_succ (year : Int) :
    daysBeforeYear (year + 1) = daysBeforeYear year + if isLeap year then 366 else 365 := by
  have leap := isLeap_iff year
  unfold daysBeforeYear
  split
  · rename_i yes
    have rule := leap.mp yes
    omega
  · rename_i no
    have rule := mt leap.mpr no
    omega

theorem daysBeforeYear_mono {a b : Int} (le : a ≤ b) : daysBeforeYear a ≤ daysBeforeYear b := by
  unfold daysBeforeYear
  omega

private theorem daysBeforeYear_yearOfDay_le (day : Int) : daysBeforeYear (yearOfDay day) ≤ day := by
  unfold yearOfDay daysBeforeYear
  dsimp only
  split
  · omega
  · split <;> omega

private theorem lt_daysBeforeYear_yearOfDay (day : Int) :
    day < daysBeforeYear (yearOfDay day + 1) := by
  unfold yearOfDay
  dsimp only
  split
  · rename_i early
    rwa [Int.sub_add_cancel]
  · unfold daysBeforeYear
    split <;> omega

/-- The year of a day is the one whose days include it. -/
theorem yearOfDay_eq_iff (day year : Int) :
    yearOfDay day = year ↔ daysBeforeYear year ≤ day ∧ day < daysBeforeYear (year + 1) := by
  have low := daysBeforeYear_yearOfDay_le day
  have high := lt_daysBeforeYear_yearOfDay day
  constructor
  · rintro rfl
    exact ⟨low, high⟩
  · rintro ⟨first, last⟩
    rcases Int.lt_trichotomy (yearOfDay day) year with before | same | after
    · have := daysBeforeYear_mono (show yearOfDay day + 1 ≤ year by omega)
      omega
    · exact same
    · have := daysBeforeYear_mono (show year + 1 ≤ yearOfDay day by omega)
      omega

/-! ## Months -/

/-- A day within the pieces falls into the piece its month counts, past all earlier ones. -/
private theorem monthAndDay_spec (lengths : List Nat) (day : Nat) (within : day < lengths.sum) :
    (lengths.take ((monthAndDay lengths day).1 - 1)).sum ≤ day ∧
      day < (lengths.take (monthAndDay lengths day).1).sum := by
  fun_induction monthAndDay lengths day with
  | case1 length next rest day inside => simpa using inside
  | case2 length next rest day outside later ih =>
    simp only [List.sum_cons] at within ih
    obtain ⟨low, high⟩ := ih (by omega)
    obtain ⟨earlier, month⟩ :
        ∃ earlier, (monthAndDay (next :: rest) (day - length)).1 = earlier + 1 :=
      ⟨_, (Nat.sub_add_cancel (one_le_monthAndDay (next :: rest) (day - length))).symm⟩
    simp only [later, month, Nat.add_sub_cancel, List.take_succ_cons, List.sum_cons] at low high ⊢
    omega
  | case3 lengths day single =>
    rcases lengths with _ | ⟨length, _ | ⟨next, rest⟩⟩
    · simp at within
    · simpa using within
    · exact (single length next rest rfl).elim

/-- Day of the month and days before it make up the day. -/
theorem monthAndDay_snd (lengths : List Nat) (day : Nat) (within : day < lengths.sum) :
    (lengths.take ((monthAndDay lengths day).1 - 1)).sum + (monthAndDay lengths day).2 =
      day + 1 := by
  fun_induction monthAndDay lengths day with
  | case1 length next rest day inside => simp
  | case2 length next rest day outside later ih =>
    simp only [List.sum_cons] at within ih
    obtain ⟨earlier, month⟩ :
        ∃ earlier, (monthAndDay (next :: rest) (day - length)).1 = earlier + 1 :=
      ⟨_, (Nat.sub_add_cancel (one_le_monthAndDay (next :: rest) (day - length))).symm⟩
    have whole := ih (by omega)
    simp only [later, month, Nat.add_sub_cancel, List.take_succ_cons, List.sum_cons] at whole ⊢
    omega
  | case3 => simp

/-- The number of the first day of a month. -/
def monthStart (year : Int) (month : Nat) : Int :=
  daysBeforeYear year + daysBeforeMonth (isLeap year) month

/-- The number of the first day after a month. -/
def monthEnd (year : Int) (month : Nat) : Int :=
  if month = 12 then monthStart (year + 1) 1 else monthStart year (month + 1)

/-- The days of the first months of a year. -/
private theorem daysBeforeMonth_succ (leap : Bool) (month : Nat) :
    daysBeforeMonth leap (month + 1) = ((monthLengths leap).take month).sum := rfl

@[simp] theorem daysBeforeMonth_one (leap : Bool) : daysBeforeMonth leap 1 = 0 := rfl

theorem daysBeforeMonth_mono (leap : Bool) {a b : Nat} (le : a ≤ b) :
    daysBeforeMonth leap a ≤ daysBeforeMonth leap b := by
  change ((monthLengths leap).take (a - 1)).sum ≤ ((monthLengths leap).take (b - 1)).sum
  exact (List.take_sublist_take_left (by omega)).sum_le_sum (fun _ _ => Nat.zero_le _)

private theorem monthLengths_sum (leap : Bool) :
    (monthLengths leap).sum = if leap then 366 else 365 := by
  cases leap <;> rfl

/-- The months end where the year ends. -/
theorem monthEnd_eq (year : Int) {month : Nat} (positive : 1 ≤ month) (bound : month ≤ 12) :
    monthEnd year month = daysBeforeYear year + daysBeforeMonth (isLeap year) (month + 1) := by
  unfold monthEnd
  split
  · rename_i last
    subst last
    rw [monthStart, daysBeforeMonth_one, daysBeforeYear_succ, daysBeforeMonth_succ,
      List.take_of_length_le (Nat.le_refl 12), monthLengths_sum]
    cases isLeap year <;> simp
  · rfl

/-- A month has a length, and is followed by the next one after so many days. -/
theorem exists_monthLength (year : Int) {month : Nat} (positive : 1 ≤ month) (bound : month ≤ 12) :
    ∃ length, (monthLengths (isLeap year))[month - 1]? = some length ∧ 1 ≤ length ∧
      monthEnd year month = monthStart year month + length := by
  have size : month - 1 < (monthLengths (isLeap year)).length := by
    change month - 1 < 12
    omega
  refine ⟨_, List.getElem?_eq_getElem size, ?_, ?_⟩
  · have shortest : ∀ leap, ∀ length ∈ monthLengths leap, 1 ≤ length := by decide
    exact shortest _ _ (List.getElem_mem size)
  · have next : daysBeforeMonth (isLeap year) (month + 1) =
        daysBeforeMonth (isLeap year) month + (monthLengths (isLeap year))[month - 1] := by
      change ((monthLengths (isLeap year)).take (month + 1 - 1)).sum =
        ((monthLengths (isLeap year)).take (month - 1)).sum + _
      rw [show month + 1 - 1 = month - 1 + 1 by omega]
      exact List.sum_take_succ _ _ size
    rw [monthEnd_eq year positive bound, next, monthStart]
    omega

private theorem monthEnd_le (year : Int) {month : Nat} (positive : 1 ≤ month) (bound : month ≤ 12) :
    monthEnd year month ≤ daysBeforeYear (year + 1) := by
  have within := daysBeforeMonth_mono (isLeap year) (show month + 1 ≤ 13 by omega)
  have total : daysBeforeMonth (isLeap year) 13 = if isLeap year then 366 else 365 := by
    rw [daysBeforeMonth_succ, List.take_of_length_le (Nat.le_refl 12), monthLengths_sum]
  rw [monthEnd_eq year positive bound, daysBeforeYear_succ]
  rw [total] at within
  cases leap : isLeap year <;> simp only [leap, Bool.false_eq_true, if_true, if_false] at within ⊢
  · omega
  · omega

namespace Date

private theorem number_bounds (date : Date) :
    daysBeforeYear date.year ≤ date.number ∧ date.number < daysBeforeYear (date.year + 1) :=
  (yearOfDay_eq_iff date.number date.year).mp rfl

private theorem dayOfYear_lt (date : Date) :
    date.dayOfYear < (monthLengths (isLeap date.year)).sum := by
  have bounds := date.number_bounds
  rw [daysBeforeYear_succ] at bounds
  rw [monthLengths_sum, dayOfYear]
  split at bounds <;> simp_all <;> omega

/-- A date lies in its own month. -/
theorem number_inMonth (date : Date) :
    monthStart date.year date.month ≤ date.number ∧
      date.number < monthEnd date.year date.month := by
  obtain ⟨low, high⟩ := monthAndDay_spec _ _ date.dayOfYear_lt
  change daysBeforeMonth (isLeap date.year) date.month ≤ date.dayOfYear at low
  change date.dayOfYear < daysBeforeMonth (isLeap date.year) (date.month + 1) at high
  have offset : (date.dayOfYear : Int) = date.number - daysBeforeYear date.year :=
    Int.toNat_of_nonneg (by have := date.number_bounds; omega)
  rw [monthEnd_eq _ date.one_le_month date.month_le, monthStart]
  omega

/-- A date is the day of the month, counted from 1, of its own month. -/
theorem number_eq (date : Date) :
    date.number + 1 = monthStart date.year date.month + date.dayOfMonth := by
  have day := monthAndDay_snd _ _ date.dayOfYear_lt
  change daysBeforeMonth (isLeap date.year) date.month + date.dayOfMonth = date.dayOfYear + 1 at day
  have offset : (date.dayOfYear : Int) = date.number - daysBeforeYear date.year :=
    Int.toNat_of_nonneg (by have := date.number_bounds; omega)
  rw [monthStart]
  omega

/-- The day of the month of a date does not exceed the month's length. -/
theorem dayOfMonth_bounds (date : Date) :
    ∃ length, (monthLengths (isLeap date.year))[date.month - 1]? = some length ∧
      1 ≤ date.dayOfMonth ∧ date.dayOfMonth ≤ length := by
  have day := date.number_eq
  obtain ⟨low, high⟩ := date.number_inMonth
  obtain ⟨length, found, -, ends⟩ := exists_monthLength date.year date.one_le_month date.month_le
  exact ⟨length, found, by omega, by omega⟩

theorem dayOfMonth_le (date : Date) : date.dayOfMonth ≤ 31 := by
  obtain ⟨length, found, -, within⟩ := date.dayOfMonth_bounds
  have longest : ∀ leap, ∀ length ∈ monthLengths leap, length ≤ 31 := by decide
  exact within.trans (longest _ _ (List.mem_of_getElem? found))

/-- Year, month and day of a date name it. -/
theorem ofCivil?_self (date : Date) :
    ofCivil? date.year date.month date.dayOfMonth = some date := by
  obtain ⟨length, found, positive, within⟩ := date.dayOfMonth_bounds
  have day := date.number_eq
  rw [monthStart] at day
  rw [ofCivil?, found]
  dsimp only
  rw [if_pos ⟨date.one_le_month, positive, within⟩, ofNumber?_eq_some_iff]
  omega

/-- Year and month of a date are those whose days include it. -/
theorem inMonth_iff (date : Date) (year : Int) {month : Nat} (positive : 1 ≤ month)
    (bound : month ≤ 12) :
    date.year = year ∧ date.month = month ↔
      monthStart year month ≤ date.number ∧ date.number < monthEnd year month := by
  obtain ⟨low, high⟩ := date.number_inMonth
  constructor
  · rintro ⟨rfl, rfl⟩
    exact ⟨low, high⟩
  · rintro ⟨first, last⟩
    have sameYear : date.year = year := by
      have yearEnd := monthEnd_le year positive bound
      refine (yearOfDay_eq_iff date.number year).mpr ⟨?_, by omega⟩
      rw [monthStart] at first
      omega
    subst sameYear
    refine ⟨rfl, ?_⟩
    rw [monthEnd_eq _ date.one_le_month date.month_le] at high
    rw [monthEnd_eq _ positive bound] at last
    rw [monthStart] at low first
    rcases Nat.lt_trichotomy date.month month with before | same | after
    · have := daysBeforeMonth_mono (isLeap date.year) (show date.month + 1 ≤ month by omega)
      omega
    · exact same
    · have := daysBeforeMonth_mono (isLeap date.year) (show month + 1 ≤ date.month by omega)
      omega

/-- The first day of a month, where the calendar holds it. -/
theorem ofCivil?_first_eq_some_iff (year : Int) {month : Nat} (positive : 1 ≤ month)
    (bound : month ≤ 12) (date : Date) :
    ofCivil? year month 1 = some date ↔ date.number = monthStart year month := by
  obtain ⟨length, found, nonempty, -⟩ := exists_monthLength year positive bound
  have inside : 1 ≤ month ∧ 1 ≤ 1 ∧ 1 ≤ length := ⟨positive, Nat.le_refl 1, nonempty⟩
  simp only [ofCivil?, found, inside, true_and, if_true, ofNumber?_eq_some_iff, monthStart]
  omega

end Date

end SentimentTree.Calendar
