import SentimentTree.Proofs.Calendar.Spelling
import SentimentTree.Table.Row

/-! # Points in time in text

A point in time has many spellings: with a space or a `T` between date and time, with a zone that is
dropped, with fewer digits of a fraction, without seconds, or without a time at all. The forms are
tried in an order, and each spelling is refused by the forms in front of its own, so it means the
point in time that it spells.
-/

namespace SentimentTree

/-! ## Blanks around a text -/

namespace Text

variable {text : List Char}

/-- The text starts with something that is no blank. -/
def InkFirst (text : List Char) : Prop := ∃ c rest, text = c :: rest ∧ isBlank c = false

/-- The text ends with something that is no blank. -/
def InkLast (text : List Char) : Prop := ∃ front c, text = front ++ [c] ∧ isBlank c = false

private theorem InkFirst.append (first : InkFirst text) (rest : List Char) :
    InkFirst (text ++ rest) := by
  obtain ⟨c, more, rfl, ink⟩ := first
  exact ⟨c, more ++ rest, rfl, ink⟩

private theorem InkLast.append (last : InkLast text) (front : List Char) :
    InkLast (front ++ text) := by
  obtain ⟨more, c, rfl, ink⟩ := last
  exact ⟨front ++ more, c, (List.append_assoc front more [c]).symm, ink⟩

private theorem InkLast.cons (last : InkLast text) (c : Char) :
    InkLast (c :: text) := last.append [c]

private theorem InkLast.of_forall (filled : text ≠ []) (ink : ∀ c ∈ text, isBlank c = false) :
    InkLast text :=
  ⟨text.dropLast, text.getLast filled, (List.dropLast_append_getLast filled).symm,
    ink _ (List.getLast_mem filled)⟩

/-- Blanks around a text are cut off if it neither starts nor ends with one. -/
theorem trim_surrounded {before after : List Char} (blankBefore : ∀ c ∈ before, isBlank c = true)
    (blankAfter : ∀ c ∈ after, isBlank c = true) (first : InkFirst text) (last : InkLast text) :
    trim (before ++ text ++ after) = text := by
  obtain ⟨c, rest, shape, inkFirst⟩ := first
  obtain ⟨front, d, shape', inkLast⟩ := last
  have start : trimStart (before ++ text ++ after) = text ++ after := by
    rw [trimStart, List.append_assoc, List.dropWhile_append_of_pos blankBefore, shape,
      List.cons_append, List.dropWhile_cons_of_neg (by simp [inkFirst])]
  rw [trim, start, dropEndWhile, List.reverse_append, List.dropWhile_append_of_pos
    (fun c member => blankAfter c (List.mem_reverse.mp member)), shape', List.reverse_append,
    List.reverse_singleton, List.singleton_append, List.dropWhile_cons_of_neg (by simp [inkLast]),
    List.reverse_cons, List.reverse_reverse]

end Text

namespace Calendar

open Decimal

variable {time : Timestamp} {nano : ℕ} {text rest zone fraction : List Char}

/-! ## Spellings -/

/-- A fraction of a second: a point and up to nine digits, or nothing if it is zero. -/
inductive SpellsFraction : ℕ → List Char → Prop
  | none : SpellsFraction 0 []
  | digits {nano : ℕ} {digits : List Char} (all : ∀ c ∈ digits, isDigit c = true)
      (some : digits ≠ []) (few : digits.length ≤ 9)
      (value : Nat.ofDigitChars 10 digits 0 * 10 ^ (9 - digits.length) = nano) :
      SpellsFraction nano ('.' :: digits)

/-- A zone behind a time: a `Z`, or an offset of hours and minutes. -/
inductive SpellsZone : List Char → Prop
  | utc : SpellsZone ['Z']
  | offset {sign : Char} {hour minute : ℕ} (signed : sign = '+' ∨ sign = '-') (hours : hour < 24)
      (minutes : minute < 60) : SpellsZone (sign :: padded 2 hour ++ ':' :: padded 2 minute)

/-- A zone starts with neither a digit nor a point. -/
private theorem SpellsZone.exists_cons (spelled : SpellsZone zone) :
    ∃ c rest, zone = c :: rest ∧ isDigit c = false ∧ c ≠ '.' := by
  cases spelled with
  | utc => exact ⟨'Z', [], rfl, by decide, by decide⟩
  | offset signed =>
    refine ⟨_, _, rfl, ?_⟩
    rcases signed with rfl | rfl <;> decide

private theorem SpellsZone.stop (spelled : SpellsZone zone) :
    ∀ c ∈ zone.head?, isDigit c = false := by
  obtain ⟨c, rest, rfl, other, -⟩ := spelled.exists_cons
  exact Reader.stop_cons c rest other

private theorem SpellsZone.point (spelled : SpellsZone zone) : zone.head? ≠ some '.' := by
  obtain ⟨c, rest, rfl, -, other⟩ := spelled.exists_cons
  exact fun same => other (Option.some.inj same)

private theorem SpellsZone.ne_nil (spelled : SpellsZone zone) : zone ≠ [] := by
  obtain ⟨c, rest, rfl, -⟩ := spelled.exists_cons
  exact List.cons_ne_nil c rest

/-- No digit follows the seconds, whether they have a fraction or not. -/
private theorem SpellsFraction.stop (spelled : SpellsFraction nano text)
    (stop : ∀ c ∈ rest.head?, isDigit c = false) :
    ∀ c ∈ (text ++ rest).head?, isDigit c = false := by
  cases spelled with
  | none => exact stop
  | digits => exact Reader.stop_cons '.' _ rfl

namespace Timestamp

def minuteText (time : Timestamp) : List Char :=
  padded 2 (time.second / 3600) ++ ':' :: padded 2 (time.second / 60 % 60)

/-- Hour, minute and second of a time that is no leap second. -/
def secondText (time : Timestamp) : List Char :=
  time.minuteText ++ ':' :: padded 2 (time.second % 60)

/-- The spellings of a time: all of it after a space, or after a `T` perhaps with a zone behind; up
to the minute if that is all of it; or the date alone if it is midnight. -/
inductive Spells (time : Timestamp) : List Char → Prop
  | spaced {fraction : List Char} (exact : SpellsFraction time.nano fraction) :
      Spells time (time.date.text ++ ' ' :: (time.secondText ++ fraction))
  | lettered {fraction : List Char} (exact : SpellsFraction time.nano fraction) :
      Spells time (time.date.text ++ 'T' :: (time.secondText ++ fraction))
  | zoned {fraction zone : List Char} (exact : SpellsFraction time.nano fraction)
      (zoned : SpellsZone zone) :
      Spells time (time.date.text ++ 'T' :: (time.secondText ++ fraction ++ zone))
  | minute (whole : time.second % 60 = 0) (exact : time.nano = 0) :
      Spells time (time.date.text ++ ' ' :: time.minuteText)
  | day (midnight : time.second = 0) (exact : time.nano = 0) : Spells time time.date.text

end Timestamp

/-! ## Reading the parts -/

namespace Reader

private theorem digits_full {width n : ℕ} (positive : 0 < width) (small : n < 10 ^ width)
    (stop : ∀ c ∈ rest.head?, isDigit c = false) :
    digits width width (padded width n ++ rest) = some (n, rest) := by
  have count : digitCount n ≤ width := (digitCount_le_iff positive).mpr small
  have length := length_padded width n
  exact digits_padded stop (by omega) (by omega)

@[simp] theorem char_cons (c : Char) (rest : List Char) :
    char (· == c) (c :: rest) = some (c, rest) := by
  simp [char]

private theorem civil_text (date : Date) (stop : ∀ c ∈ rest.head?, isDigit c = false) :
    civil (date.text ++ rest) = some ((date.year, date.month, date.dayOfMonth), rest) := by
  have month := date.month_le
  have day := date.dayOfMonth_le
  unfold civil Date.text
  simp only [List.append_assoc, List.cons_append, year_yearText _ (stop_cons '-' _ rfl), char_cons,
    short_padded (show date.month < 100 by omega) (stop_cons '-' _ rfl),
    short_padded (show date.dayOfMonth < 100 by omega) stop, Option.bind_eq_bind, Option.bind_some,
    Option.pure_def]

private theorem hourMinute_minuteText (time : Timestamp)
    (stop : ∀ c ∈ rest.head?, isDigit c = false) :
    hourMinute (time.minuteText ++ rest) =
      some ((time.second / 3600, time.second / 60 % 60), rest) := by
  have inside := time.second_lt
  unfold hourMinute Timestamp.minuteText
  simp only [List.append_assoc, List.cons_append, char_cons,
    short_padded (show time.second / 3600 < 100 by omega) (stop_cons ':' _ rfl),
    short_padded (show time.second / 60 % 60 < 100 by omega) stop, Option.bind_eq_bind,
    Option.bind_some, Option.pure_def]

/-- A fraction is read from its spelling up to what is behind it. -/
private theorem fraction_spelled (spelled : SpellsFraction nano text)
    (stop : ∀ c ∈ rest.head?, isDigit c = false) (point : rest.head? ≠ some '.') :
    Reader.fraction (text ++ rest) = some (nano, rest) := by
  cases spelled with
  | none =>
    rw [List.nil_append, Reader.fraction.eq_def]
    split
    · exact (point rfl).elim
    · rfl
  | @digits _ digits all some few value =>
    have start : 0 < digits.length := List.length_pos_of_ne_nil some
    have length : (digits ++ rest).length - rest.length = digits.length := by
      rw [List.length_append, Nat.add_sub_cancel]
    have after : rest.dropWhile isDigit = rest := (@span_digits [] rest nofun stop).2
    change nanoseconds (digits ++ rest) = _
    rw [nanoseconds, digits_run all stop start few, Option.map_some]
    dsimp only
    rw [length, after, ← value]
    rfl

private theorem seconds_spelled {second : ℕ} (small : second < 60)
    (spelled : SpellsFraction nano text)
    (stop : ∀ c ∈ rest.head?, isDigit c = false) (point : rest.head? ≠ some '.') :
    seconds (':' :: (padded 2 second ++ (text ++ rest))) = some ((second, nano), rest) := by
  unfold seconds
  simp only [char_cons, short_padded (show second < 100 by omega) (spelled.stop stop),
    fraction_spelled spelled stop point, Option.bind_eq_bind, Option.bind_some, Option.pure_def]

/-- A zone is read to its end. -/
private theorem offset_spelled (spelled : SpellsZone zone) : offset zone = some ((), []) := by
  cases spelled with
  | utc => rfl
  | @offset sign hour minute signed hours minutes =>
    have readHour : digits 2 2 (padded 2 hour ++ ':' :: padded 2 minute) =
        some (hour, ':' :: padded 2 minute) :=
      digits_full two_pos (by omega) (stop_cons ':' _ rfl)
    have readMinute : digits 2 2 (padded 2 minute ++ []) = some (minute, []) :=
      digits_full two_pos (by omega) nofun
    rw [List.append_nil] at readMinute
    rcases signed with rfl | rfl
    all_goals
      simp [offset, readHour, readMinute, hours, minutes]

end Reader

/-! ## Trying the forms -/

namespace Timestamp

/-- A time has the numbers of its date and clock. -/
theorem ofNumbers?_self (noLeap : time.nano < 10 ^ 9) :
    ofNumbers? (time.date.year, time.date.month, time.date.dayOfMonth) (time.second / 3600)
      (time.second / 60 % 60) (time.second % 60) time.nano = some time := by
  have inside := time.second_lt
  have clock : time.second / 3600 * 3600 + time.second / 60 % 60 * 60 +
      min (time.second % 60) 59 = time.second := by omega
  have whole : time.second / 3600 < 24 ∧ time.second / 60 % 60 < 60 ∧ time.second % 60 ≤ 60 ∧
      time.nano < 1000000000 := by omega
  have least : time.second % 60 ≠ 60 := by omega
  simp only [ofNumbers?, ofClock?, Date.ofCivil?_self, Option.bind_eq_bind, Option.bind_some,
    dif_pos whole, if_neg least, clock]

/-- The form after a date is read from what is behind the date. -/
private theorem readClock?_text (between : Reader Unit) (seconds : Reader (ℕ × ℕ)) (date : Date)
    (rest : List Char) (stop : ∀ c ∈ rest.head?, isDigit c = false) :
    readClock? between seconds (date.text ++ rest) = (do
      let (_, text) ← between rest
      let ((hour, minute), text) ← Reader.hourMinute text
      let ((second, nano), text) ← seconds text
      if text.isEmpty then
        ofNumbers? (date.year, date.month, date.dayOfMonth) hour minute second nano
      else none) := by
  unfold readClock?
  rw [Reader.civil_text date stop]
  rfl

/-- Hour to second are read as they are spelled, which is all if no zone is behind them. -/
private theorem readClock?_moment {between : Reader Unit} {mark : Char}
    (other : isDigit mark = false)
    (noLeap : time.nano < 10 ^ 9) (spelled : SpellsFraction time.nano fraction)
    (stop : ∀ c ∈ zone.head?, isDigit c = false) (point : zone.head? ≠ some '.')
    (skips : between (mark :: (time.secondText ++ fraction ++ zone)) =
      some ((), time.secondText ++ fraction ++ zone)) :
    readClock? between Reader.seconds
        (time.date.text ++ mark :: (time.secondText ++ fraction ++ zone)) =
      if zone.isEmpty then some time else none := by
  have shape : time.secondText ++ fraction ++ zone =
      time.minuteText ++ ':' :: (padded 2 (time.second % 60) ++ (fraction ++ zone)) := by
    simp only [secondText, List.append_assoc, List.cons_append]
  rw [readClock?_text _ _ _ _ (Reader.stop_cons mark _ other), skips, shape]
  simp only [Option.bind_eq_bind, Option.bind_some,
    Reader.hourMinute_minuteText time (Reader.stop_cons ':' _ rfl),
    Reader.seconds_spelled (show time.second % 60 < 60 by omega) spelled stop point,
    ofNumbers?_self noLeap]

/-- A blank in front of a clock is skipped. -/
private theorem gap_minuteText (time : Timestamp) (rest : List Char) :
    Reader.gap (' ' :: (time.minuteText ++ rest)) = some ((), time.minuteText ++ rest) := by
  have skip : Text.trimStart (' ' :: (time.minuteText ++ rest)) =
      Text.trimStart (time.minuteText ++ rest) := rfl
  rw [Reader.gap, skip, minuteText, List.append_assoc, Reader.trimStart_padded]

private theorem gap_secondText (time : Timestamp) (rest : List Char) :
    Reader.gap (' ' :: (time.secondText ++ rest)) = some ((), time.secondText ++ rest) := by
  rw [secondText, List.append_assoc]
  exact gap_minuteText time _

private theorem readClock?_spaced (noLeap : time.nano < 10 ^ 9)
    (spelled : SpellsFraction time.nano fraction) :
    readClock? Reader.gap Reader.seconds (time.date.text ++ ' ' :: (time.secondText ++ fraction)) =
      some time := by
  have moment := @readClock?_moment _ [] _ Reader.gap ' ' rfl noLeap spelled nofun nofun
  rw [List.append_nil] at moment
  exact moment (gap_secondText time fraction)

private theorem readClock?_lettered (noLeap : time.nano < 10 ^ 9)
    (spelled : SpellsFraction time.nano fraction) :
    readClock? Reader.letterT Reader.seconds
      (time.date.text ++ 'T' :: (time.secondText ++ fraction)) = some time := by
  have moment := @readClock?_moment _ [] _ Reader.letterT 'T' rfl noLeap spelled nofun nofun
  rw [List.append_nil] at moment
  exact moment rfl

/-- The form without a zone does not read one. -/
private theorem readClock?_zoned (noLeap : time.nano < 10 ^ 9)
    (spelled : SpellsFraction time.nano fraction) (zoned : SpellsZone zone) :
    readClock? Reader.letterT Reader.seconds
      (time.date.text ++ 'T' :: (time.secondText ++ fraction ++ zone)) = none := by
  rw [readClock?_moment rfl noLeap spelled zoned.stop zoned.point rfl,
    if_neg (mt List.isEmpty_iff.mp zoned.ne_nil)]

/-- A `T` is not skipped like a blank. -/
private theorem readClock?_gap_letter (seconds : Reader (ℕ × ℕ)) (date : Date) (rest : List Char) :
    readClock? Reader.gap seconds (date.text ++ 'T' :: rest) = none := by
  rw [readClock?_text _ _ _ _ (Reader.stop_cons 'T' _ rfl)]
  rfl

/-- A blank is not read as a `T`. -/
private theorem readClock?_letterT_space (seconds : Reader (ℕ × ℕ)) (date : Date)
    (rest : List Char) :
    readClock? Reader.letterT seconds (date.text ++ ' ' :: rest) = none := by
  rw [readClock?_text _ _ _ _ (Reader.stop_cons ' ' _ rfl)]
  rfl

/-- Without seconds only the form without them goes on. -/
private theorem readClock?_gap_minute (time : Timestamp) (seconds : Reader (ℕ × ℕ)) :
    readClock? Reader.gap seconds (time.date.text ++ ' ' :: time.minuteText) = (do
      let ((second, nano), text) ← seconds []
      if text.isEmpty then
        ofNumbers? (time.date.year, time.date.month, time.date.dayOfMonth) (time.second / 3600)
          (time.second / 60 % 60) second nano
      else none) := by
  have skips := gap_minuteText time []
  have clock := @Reader.hourMinute_minuteText [] time nofun
  rw [List.append_nil] at skips clock
  rw [readClock?_text _ _ _ _ (Reader.stop_cons ' ' _ rfl), skips]
  simp only [Option.bind_eq_bind, Option.bind_some, clock]

private theorem readClock?_minute (whole : time.second % 60 = 0) (exact : time.nano = 0) :
    readClock? Reader.gap Reader.noSeconds (time.date.text ++ ' ' :: time.minuteText) =
      some time := by
  have numbers := @ofNumbers?_self time (by rw [exact]; decide)
  rw [whole, exact] at numbers
  exact (readClock?_gap_minute time Reader.noSeconds).trans numbers

/-- A date alone has no clock. -/
private theorem readClock?_day {between : Reader Unit} (seconds : Reader (ℕ × ℕ)) (date : Date)
    (clockless : ((between []).bind fun found => Reader.hourMinute found.2) = none) :
    readClock? between seconds date.text = none := by
  have form := readClock?_text between seconds date [] nofun
  rw [List.append_nil] at form
  rw [form]
  cases skipped : between [] with
  | none => rfl
  | some found =>
    rw [skipped, Option.bind_some] at clockless
    simp only [Option.bind_eq_bind, Option.bind_some, clockless, Option.bind_none]

/-- The form with a zone after a date of four digits is read from what is behind the date. -/
private theorem readOffset?_text {date : Date} (year : 0 ≤ date.year ∧ date.year ≤ 9999)
    (rest : List Char) (stop : ∀ c ∈ rest.head?, isDigit c = false) :
    readOffset? (date.text ++ rest) = (do
      let (_, text) ← Reader.char (fun c => c == 'T' || c == 't' || c == ' ') rest
      let (hour, text) ← Reader.digits 2 2 text
      let (_, text) ← Reader.char (· == ':') text
      let (minute, text) ← Reader.digits 2 2 text
      let (_, text) ← Reader.char (· == ':') text
      let (second, text) ← Reader.digits 2 2 text
      let (nano, text) ← Reader.fraction text
      let (_, text) ← Reader.offset text
      if text.isEmpty then
        ofNumbers? (date.year, date.month, date.dayOfMonth) hour minute second nano
      else none) := by
  have month := date.month_le
  have day := date.dayOfMonth_le
  unfold readOffset? Date.text yearText
  rw [if_pos year]
  -- dates are not to be unfolded when their numbers are told apart
  generalize date.year = y, date.month = m, date.dayOfMonth = d at *
  obtain ⟨n, rfl⟩ := Int.eq_ofNat_of_zero_le year.1
  simp only [List.append_assoc, List.cons_append, Int.toNat_natCast]
  -- one number after the other, since a simplifier would go through what is left again and again
  rw [Reader.digits_full four_pos (show n < 10 ^ 4 by omega) (Reader.stop_cons '-' _ rfl)]
  dsimp only [Option.bind_eq_bind, Option.bind_some]
  rw [Reader.char_cons]
  dsimp only [Option.bind_some]
  rw [Reader.digits_full two_pos (show m < 10 ^ 2 by omega) (Reader.stop_cons '-' _ rfl)]
  dsimp only [Option.bind_some]
  rw [Reader.char_cons]
  dsimp only [Option.bind_some]
  rw [Reader.digits_full two_pos (show d < 10 ^ 2 by omega) stop]
  rfl

/-- All of a time is read in the form with a zone. -/
private theorem readOffset?_zoned (year : 0 ≤ time.date.year ∧ time.date.year ≤ 9999)
    (noLeap : time.nano < 10 ^ 9) (spelled : SpellsFraction time.nano fraction)
    (zoned : SpellsZone zone) :
    readOffset? (time.date.text ++ 'T' :: (time.secondText ++ fraction ++ zone)) = some time := by
  have inside := time.second_lt
  have numbers := ofNumbers?_self noLeap
  have ends : ∀ c ∈ (fraction ++ zone).head?, isDigit c = false := spelled.stop zoned.stop
  have letter (rest : List Char) :
      Reader.char (fun c => c == 'T' || c == 't' || c == ' ') ('T' :: rest) = some ('T', rest) :=
    rfl
  rw [readOffset?_text year _ (Reader.stop_cons 'T' _ rfl), secondText, minuteText]
  simp only [List.append_assoc, List.cons_append, letter, Reader.char_cons,
    Reader.digits_full two_pos (show time.second / 3600 < 10 ^ 2 by omega)
      (Reader.stop_cons ':' _ rfl),
    Reader.digits_full two_pos (show time.second / 60 % 60 < 10 ^ 2 by omega)
      (Reader.stop_cons ':' _ rfl),
    Reader.digits_full two_pos (show time.second % 60 < 10 ^ 2 by omega) ends,
    Reader.fraction_spelled spelled zoned.stop zoned.point, Reader.offset_spelled zoned,
    Option.bind_eq_bind, Option.bind_some, numbers]
  rfl

private theorem readOffset?_day {date : Date} (year : 0 ≤ date.year ∧ date.year ≤ 9999) :
    readOffset? date.text = none := by
  have form := readOffset?_text year [] nofun
  rw [List.append_nil] at form
  rw [form]
  rfl

private theorem readDay?_text (midnight : time.second = 0) (exact : time.nano = 0) :
    readDay? time.date.text = some time := by
  have form := @Reader.civil_text [] time.date nofun
  rw [List.append_nil] at form
  have whole : Timestamp.midnight time.date = time := by
    obtain ⟨date, second, nano, _, _⟩ := time
    obtain rfl : second = 0 := midnight
    obtain rfl : nano = 0 := exact
    rfl
  rw [readDay?, form]
  simp only [Option.bind_eq_bind, Option.bind_some, List.isEmpty_nil, if_true,
    Date.ofCivil?_self, Option.map_some, whole]

/-! ## Ends of spellings -/

private theorem isBlank_of_mem_padded {width n : ℕ} :
    ∀ c ∈ padded width n, Text.isBlank c = false :=
  fun c member => Reader.isBlank_of_isDigit (isDigit_of_mem_padded c member)

private theorem isBlank_of_mem_fraction (spelled : SpellsFraction nano fraction) :
    ∀ c ∈ fraction, Text.isBlank c = false := by
  cases spelled with
  | none => exact nofun
  | digits all =>
    rw [List.forall_mem_cons]
    exact ⟨by decide, fun c member => Reader.isBlank_of_isDigit (all c member)⟩

private theorem isBlank_of_mem_zone (spelled : SpellsZone zone) :
    ∀ c ∈ zone, Text.isBlank c = false := by
  cases spelled with
  | utc =>
    intro c member
    obtain rfl := List.mem_singleton.mp member
    decide
  | @offset sign _ _ signed =>
    have ink : Text.isBlank sign = false := by rcases signed with rfl | rfl <;> decide
    rw [List.cons_append, List.forall_mem_cons, List.forall_mem_append, List.forall_mem_cons]
    exact ⟨ink, isBlank_of_mem_padded, by decide, isBlank_of_mem_padded⟩

/-- A date of four digits starts with one. -/
private theorem inkFirst_text {date : Date} (year : 0 ≤ date.year ∧ date.year ≤ 9999) :
    Text.InkFirst date.text := by
  obtain ⟨c, rest, shape, digit⟩ := exists_cons_padded 4 date.year.toNat
  have start : Text.InkFirst (padded 4 date.year.toNat) :=
    ⟨c, rest, shape, Reader.isBlank_of_isDigit digit⟩
  rw [Date.text, yearText, if_pos year]
  exact (start.append _).append _

private theorem Spells.inkFirst (year : 0 ≤ time.date.year ∧ time.date.year ≤ 9999)
    (spelled : time.Spells text) : Text.InkFirst text := by
  cases spelled with
  | day => exact inkFirst_text year
  | _ => exact (inkFirst_text year).append _

private theorem Spells.inkLast (spelled : time.Spells text) : Text.InkLast text := by
  have number (n : ℕ) : Text.InkLast (padded 2 n) :=
    .of_forall (padded_ne_nil 2 n) isBlank_of_mem_padded
  have second {fraction : List Char} (exact : SpellsFraction time.nano fraction) :
      Text.InkLast (time.secondText ++ fraction) := by
    have ink : ∀ c ∈ padded 2 (time.second % 60) ++ fraction, Text.isBlank c = false :=
      List.forall_mem_append.mpr ⟨isBlank_of_mem_padded, isBlank_of_mem_fraction exact⟩
    have filled := List.append_ne_nil_of_left_ne_nil (padded_ne_nil 2 (time.second % 60)) fraction
    rw [secondText, List.append_assoc]
    exact ((Text.InkLast.of_forall filled ink).cons ':').append _
  cases spelled with
  | spaced exact => exact ((second exact).cons ' ').append _
  | lettered exact => exact ((second exact).cons 'T').append _
  | zoned _ zoned =>
    have zone := Text.InkLast.of_forall zoned.ne_nil (isBlank_of_mem_zone zoned)
    exact ((zone.append _).cons 'T').append _
  | minute => exact ((((number _).cons ':').append _).cons ' ').append _
  | day => exact ((number _).cons '-').append _

/-! ## Readings -/

/-- A spelling with blanks around it is read as its time, in the form that it has. -/
theorem read?_surrounded (year : 0 ≤ time.date.year ∧ time.date.year ≤ 9999)
    (noLeap : time.nano < 10 ^ 9) (spelled : time.Spells text) {before after : List Char}
    (blankBefore : ∀ c ∈ before, Text.isBlank c = true)
    (blankAfter : ∀ c ∈ after, Text.isBlank c = true) :
    read? (before ++ text ++ after) = some time := by
  rw [read?, Text.trim_surrounded blankBefore blankAfter (spelled.inkFirst year) spelled.inkLast]
  -- in each case the forms in front of the one that reads the spelling refuse it
  cases spelled with
  | spaced exact =>
    rw [readClock?_spaced noLeap exact]
    rfl
  | lettered exact =>
    rw [readClock?_gap_letter, readClock?_lettered noLeap exact]
    rfl
  | zoned exact zoned =>
    rw [readClock?_gap_letter, readClock?_zoned noLeap exact zoned, readClock?_gap_letter,
      readOffset?_zoned year noLeap exact zoned]
    rfl
  | minute whole exact =>
    have seconds : readClock? Reader.gap Reader.seconds
        (time.date.text ++ ' ' :: time.minuteText) = none := readClock?_gap_minute time _
    rw [seconds, readClock?_letterT_space, readClock?_minute whole exact]
    rfl
  | day midnight exact =>
    rw [readClock?_day _ _ rfl, readClock?_day _ _ rfl, readClock?_day _ _ rfl,
      readOffset?_day year, readDay?_text midnight exact]
    rfl

end Timestamp

/-! ## Milliseconds -/

/-- The first day of 1970, from which milliseconds are counted. -/
def Date.epoch : Date := ⟨719528, by decide, by decide⟩

namespace Timestamp

/-- The milliseconds from the start of 1970 to a time, less than zero before it. -/
def millis (time : Timestamp) : ℤ :=
  ((time.date.number - Date.epoch.number) * 86400 + time.second) * 1000 + time.nano / 1000000

/-- A time that is a whole number of milliseconds is read back from their count. -/
theorem ofMillis?_millis (noLeap : time.nano < 10 ^ 9) (exact : time.nano % 1000000 = 0) :
    ofMillis? time.millis = some time := by
  have inside := time.second_lt
  have count : time.millis =
      ((time.date.number - 719528) * 86400 + time.second) * 1000 + time.nano / 1000000 := rfl
  have day : time.millis / 1000 / 86400 + 719528 = time.date.number := by omega
  have clock : (time.millis / 1000 % 86400).toNat = time.second := by omega
  have fraction : (time.millis % 1000).toNat * 1000000 = time.nano := by omega
  simp only [ofMillis?, day, (Date.ofNumber?_eq_some_iff _ time.date).mpr rfl, Option.map_some,
    clock, fraction]

end Timestamp

end Calendar

open Calendar

/-- Every spelling of a time without a leap second, whatever blanks are around it, means that time,
if its year has four digits. So does the count of its milliseconds, if it has nothing smaller. -/
theorem RawTimestamp.read?_of_spells (time : Timestamp)
    (year : 0 ≤ time.date.year ∧ time.date.year ≤ 9999) (noLeap : time.nano < 10 ^ 9) :
    (∀ text before after : List Char, time.Spells text → (∀ c ∈ before, Text.isBlank c = true) →
      (∀ c ∈ after, Text.isBlank c = true) →
      (RawTimestamp.text (String.ofList (before ++ text ++ after))).read? = some time) ∧
    (time.nano % 1000000 = 0 → (RawTimestamp.millis time.millis).read? = some time) := by
  refine ⟨fun text before after spelled blankBefore blankAfter => ?_,
    Timestamp.ofMillis?_millis noLeap⟩
  rw [read?, String.toList_ofList]
  exact Timestamp.read?_surrounded year noLeap spelled blankBefore blankAfter

/-- Less than two seconds before 1970. -/
def lateEvening : Timestamp :=
  ⟨⟨719527, by decide, by decide⟩, 86398, 250000000, by decide, by decide⟩

theorem RawTimestamp.read?_of_spells_lateEvening :
    (0 ≤ lateEvening.date.year ∧ lateEvening.date.year ≤ 9999) ∧ lateEvening.nano < 10 ^ 9 ∧
    (RawTimestamp.text "\t1969-12-31T23:59:58.250+14:30 ").read? = some lateEvening ∧
    (RawTimestamp.millis (-1750)).read? = some lateEvening := by
  have fraction : SpellsFraction lateEvening.nano ".250".toList :=
    @SpellsFraction.digits _ "250".toList (List.all_eq_true.mp (by decide)) (by decide) (by decide)
      (by decide)
  have zone : SpellsZone "+14:30".toList :=
    @SpellsZone.offset '+' 14 30 (.inl rfl) (by decide) (by decide)
  have shown : String.ofList (['\t'] ++ (lateEvening.date.text ++ 'T' ::
      (lateEvening.secondText ++ ".250".toList ++ "+14:30".toList)) ++ [' ']) =
      "\t1969-12-31T23:59:58.250+14:30 " := by decide +kernel
  obtain ⟨spellings, millis⟩ :=
    RawTimestamp.read?_of_spells lateEvening (by decide) (by decide)
  rw [← shown]
  exact ⟨by decide, by decide, spellings _ ['\t'] [' '] (.zoned fraction zone)
    (List.forall_mem_singleton.mpr rfl) (List.forall_mem_singleton.mpr rfl), millis (by decide)⟩

end SentimentTree
