import SentimentTree.Calendar.TimestampText
import SentimentTree.Calendar.YearMonth
import SentimentTree.Proofs.Calendar.Civil
import SentimentTree.Proofs.Decimal.Literal

/-! # Dates and months in text

Every date of the calendar is read back from its text. A month is read back from its text exactly
when its year is not negative: reading splits at the first hyphen, which in a negative year is the
sign. So no text at all names a month of a negative year, while the other months have more texts
than the one that is written: a count may have a plus sign and any number of zeros in front.
-/

namespace SentimentTree.Calendar

open Decimal

/-! ## Digits with zeros in front -/

theorem isDigit_of_mem_padded {width n : ℕ} : ∀ c ∈ padded width n, isDigit c = true :=
  isDigit_of_mem_zeros_append _ isDigit_of_mem_toDigits

theorem length_padded (width n : ℕ) : (padded width n).length = max width (digitCount n) := by
  unfold padded digitCount
  dsimp only
  rw [List.length_append, List.length_replicate]
  omega

private theorem ofDigitChars_padded (width n : ℕ) : Nat.ofDigitChars 10 (padded width n) 0 = n := by
  rw [padded, ofDigitChars_zeros_append, Nat.ofDigitChars_ten_toDigits]

theorem padded_ne_nil (width n : ℕ) : padded width n ≠ [] := by
  apply List.ne_nil_of_length_pos
  have count : 0 < digitCount n := Nat.length_toDigits_pos
  rw [length_padded]
  omega

/-- The first character of padded digits is a digit. -/
theorem exists_cons_padded (width n : ℕ) :
    ∃ c rest, padded width n = c :: rest ∧ isDigit c = true := by
  obtain ⟨c, rest, shape⟩ := List.exists_cons_of_ne_nil (padded_ne_nil width n)
  exact ⟨c, rest, shape, isDigit_of_mem_padded c (shape ▸ List.mem_cons_self)⟩

/-! ## Dates -/

namespace Reader

/-- A character that is no digit ends a run of digits. -/
theorem stop_cons (c : Char) (rest : List Char) (other : isDigit c = false) :
    ∀ d ∈ (c :: rest).head?, isDigit d = false := by
  rintro _ ⟨⟩
  exact other

theorem digits_run {least most : ℕ} {run rest : List Char} (all : ∀ c ∈ run, isDigit c = true)
    (stop : ∀ c ∈ rest.head?, isDigit c = false) (enough : least ≤ run.length)
    (fits : run.length ≤ most) :
    digits least most (run ++ rest) = some (Nat.ofDigitChars 10 run 0, rest) := by
  obtain ⟨taken, -⟩ := span_digits all stop
  unfold digits
  rw [taken, List.take_of_length_le fits, if_neg (by omega), List.drop_left]

theorem digits_padded {least most width n : ℕ} {rest : List Char}
    (stop : ∀ c ∈ rest.head?, isDigit c = false) (enough : least ≤ (padded width n).length)
    (fits : (padded width n).length ≤ most) :
    digits least most (padded width n ++ rest) = some (n, rest) := by
  rw [digits_run isDigit_of_mem_padded stop enough fits, ofDigitChars_padded]

theorem isBlank_of_isDigit {c : Char} (digit : isDigit c = true) : Text.isBlank c = false := by
  obtain ⟨n, small, rfl⟩ := exists_digitChar digit
  interval_cases n <;> rfl

theorem trimStart_padded (width n : ℕ) (rest : List Char) :
    Text.trimStart (padded width n ++ rest) = padded width n ++ rest := by
  obtain ⟨c, more, shape, digit⟩ := exists_cons_padded width n
  rw [shape, List.cons_append, Text.trimStart, List.dropWhile_cons_of_neg]
  simp [isBlank_of_isDigit digit]

theorem short_padded {n : ℕ} (small : n < 100) {rest : List Char}
    (stop : ∀ c ∈ rest.head?, isDigit c = false) : short (padded 2 n ++ rest) = some (n, rest) := by
  have count : digitCount n ≤ 2 := (digitCount_le_iff two_pos).mpr small
  have length := length_padded 2 n
  rw [short, trimStart_padded]
  exact digits_padded stop (by omega) (by omega)

/-- A year is read back from its text, sign included. -/
theorem year_yearText (y : ℤ) {rest : List Char} (stop : ∀ c ∈ rest.head?, isDigit c = false) :
    year (yearText y ++ rest) = some (y, rest) := by
  have length := length_padded 4 y.natAbs
  have signed : digits 1 (padded 4 y.natAbs ++ rest).length (padded 4 y.natAbs ++ rest) =
      some (y.natAbs, rest) := by
    apply digits_padded stop
    · omega
    · rw [List.length_append]
      exact Nat.le_add_right _ _
  unfold yearText
  split
  · rename_i inside
    obtain ⟨n, rfl⟩ := Int.eq_ofNat_of_zero_le inside.1
    have count : digitCount n ≤ 4 := (digitCount_le_iff (by norm_num)).mpr (by omega)
    have unsigned : digits 1 4 (padded 4 n ++ rest) = some (n, rest) := by
      rw [Int.natAbs_natCast] at length
      exact digits_padded stop (by omega) (by omega)
    obtain ⟨c, more, shape, digit⟩ := exists_cons_padded 4 n
    have minus : c ≠ '-' := ne_of_isDigit digit rfl
    have plus : c ≠ '+' := ne_of_isDigit digit rfl
    rw [Int.toNat_natCast, year, trimStart_padded]
    rw [shape, List.cons_append] at unsigned ⊢
    simp [minus, plus, unsigned]
  · rename_i outside
    rcases Int.lt_or_le y 0 with negative | nonneg
    · rw [if_pos negative]
      change (digits 1 (padded 4 y.natAbs ++ rest).length (padded 4 y.natAbs ++ rest)).map
        (fun found => (-(found.1 : ℤ), found.2)) = _
      rw [signed, Option.map_some]
      dsimp only
      rw [Int.ofNat_natAbs_of_nonpos negative.le, neg_neg]
    · rw [if_neg nonneg.not_gt]
      change (digits 1 (padded 4 y.natAbs ++ rest).length (padded 4 y.natAbs ++ rest)).map
        (fun found => ((found.1 : ℤ), found.2)) = _
      rw [signed, Option.map_some]
      dsimp only
      rw [Int.natAbs_of_nonneg nonneg]

end Reader

/-- A date is read back from its text. -/
theorem Date.read?_text (date : Date) : Date.read? date.text = some date := by
  have month := date.month_le
  have day := date.dayOfMonth_le
  have stop (rest : List Char) := Reader.stop_cons '-' rest rfl
  have hyphen (rest : List Char) :
      Reader.char (· == '-') (Text.trimStart ('-' :: rest)) = some ('-', rest) := rfl
  have readMonth := Reader.short_padded (show date.month < 100 by omega)
    (stop (padded 2 date.dayOfMonth))
  have readDay := @Reader.short_padded _ (show date.dayOfMonth < 100 by omega) [] nofun
  rw [List.append_nil] at readDay
  unfold read? text
  rw [List.append_assoc, List.cons_append]
  simp only [Reader.year_yearText _ (stop _), hyphen, readMonth, readDay, Option.bind_eq_bind,
    Option.bind_some]
  exact date.ofCivil?_self

/-! ## Counts -/

section
variable {text : List Char}

/-- A count is spelled with digits, any number of zeros in front, and perhaps a plus sign. -/
inductive SpellsCount : List Char → ℕ → Prop
  | plain {digits : List Char} (present : digits ≠ []) (all : ∀ c ∈ digits, isDigit c = true) :
      SpellsCount digits (Nat.ofDigitChars 10 digits 0)
  | plus {digits : List Char} (present : digits ≠ []) (all : ∀ c ∈ digits, isDigit c = true) :
      SpellsCount ('+' :: digits) (Nat.ofDigitChars 10 digits 0)

private theorem spellsCount_padded (width n : ℕ) : SpellsCount (padded width n) n := by
  have spelled := SpellsCount.plain (padded_ne_nil width n) isDigit_of_mem_padded
  rwa [ofDigitChars_padded] at spelled

private theorem SpellsCount.unhyphened {n : ℕ} (spelled : SpellsCount text n) :
    ∀ c ∈ text, c ≠ '-' := by
  cases spelled with
  | plain _ all => exact fun c member => ne_of_isDigit (all c member) rfl
  | plus _ all =>
    refine List.forall_mem_cons.mpr ⟨by decide, ?_⟩
    exact fun c member => ne_of_isDigit (all c member) rfl

theorem readUnsigned?_eq_some_iff {bound n : ℕ} :
    readUnsigned? bound text = some n ↔ SpellsCount text n ∧ n ≤ bound := by
  unfold readUnsigned?
  rw [Option.filter_eq_some_iff, decide_eq_true_eq]
  refine and_congr_left fun _ => ⟨fun reads => ?_, fun spelled => ?_⟩
  · split at reads
    · obtain ⟨present, all, rfl⟩ := readNat?_eq_some_iff.mp reads
      exact .plus present all
    · obtain ⟨present, all, rfl⟩ := readNat?_eq_some_iff.mp reads
      exact .plain present all
  · cases spelled with
    | plain present all =>
      -- digits start with no sign
      split
      · exact Bool.noConfusion (all '+' List.mem_cons_self)
      · exact readNat?_of_digits present all
    | plus present all => exact readNat?_of_digits present all

/-- Without a hyphen only counts are read as integers. -/
theorem readSigned?_eq_some_iff {least greatest n : ℤ} (unhyphened : ∀ c ∈ text, c ≠ '-') :
    readSigned? least greatest text = some n ↔
      (∃ k : ℕ, SpellsCount text k ∧ n = k) ∧ least ≤ n ∧ n ≤ greatest := by
  unfold readSigned?
  rw [Option.filter_eq_some_iff, Bool.and_eq_true, decide_eq_true_eq, decide_eq_true_eq]
  refine and_congr_left fun _ => ⟨fun reads => ?_, ?_⟩
  · split at reads
    · exact (unhyphened '-' List.mem_cons_self rfl).elim
    · obtain ⟨k, digits, rfl⟩ := Option.map_eq_some_iff.mp reads
      obtain ⟨present, all, rfl⟩ := readNat?_eq_some_iff.mp digits
      exact ⟨_, .plus present all, rfl⟩
    · obtain ⟨k, digits, rfl⟩ := Option.map_eq_some_iff.mp reads
      obtain ⟨present, all, rfl⟩ := readNat?_eq_some_iff.mp digits
      exact ⟨_, .plain present all, rfl⟩
  · rintro ⟨k, spelled, rfl⟩
    cases spelled with
    | plain present all =>
      split
      · exact (unhyphened '-' List.mem_cons_self rfl).elim
      · exact Bool.noConfusion (all '+' List.mem_cons_self)
      · rw [readNat?_of_digits present all]
        rfl
    | plus present all =>
      simp only [readNat?_of_digits present all]
      rfl

end

/-! ## Months -/

namespace YearMonth

variable {text before after : List Char} {value : YearMonth}

/-- A year and a month are named by their counts with a hyphen between. -/
def Names (text : List Char) (year month : ℕ) : Prop :=
  ∃ before after, text = before ++ '-' :: after ∧ SpellsCount before year ∧ SpellsCount after month

/-- A text is cut at its first hyphen. -/
theorem cutAt?_eq_some_iff : Text.cutAt? (· == '-') text = some (before, after) ↔
    text = before ++ '-' :: after ∧ ∀ c ∈ before, c ≠ '-' := by
  unfold Text.cutAt?
  constructor
  · intro cut
    split at cut
    · nomatch cut
    · rename_i c rest shape
      obtain ⟨rfl, rfl⟩ := Prod.mk.inj (Option.some.inj cut)
      have first := List.find?_eq_head?_dropWhile_not (· == '-') (l := text)
      rw [shape, List.head?_cons] at first
      obtain rfl : c = '-' := by simpa using List.find?_some first
      refine ⟨?_, fun c member => by simpa using List.mem_takeWhile_imp member⟩
      rw [← shape, List.takeWhile_append_dropWhile]
  · rintro ⟨rfl, unhyphened⟩
    have other : ∀ c ∈ before, (!(c == '-')) = true := by simpa using unhyphened
    rw [List.dropWhile_append_of_pos other, List.takeWhile_append_of_pos other]
    simp

theorem new?_eq_some_iff {year : ℤ} {month : ℕ} :
    new? year month = some value ↔ value.year = year ∧ value.month = month := by
  unfold new?
  constructor
  · intro named
    split at named
    · obtain rfl := Option.some.inj named
      exact ⟨rfl, rfl⟩
    · nomatch named
  · rintro ⟨rfl, rfl⟩
    exact dif_pos ⟨⟨value.year_ge, value.year_le⟩, value.month_pos, value.month_le⟩

/-- A month is read from the texts that name it and from no others. -/
theorem read_eq_ok_iff : read text = .ok value ↔
    ∃ year month : ℕ, Names text year month ∧ value.year = year ∧ value.month = month := by
  have low := value.year_ge
  have high := value.year_le
  have inside := value.month_le
  unfold read
  constructor
  · intro reads
    split at reads
    · nomatch reads
    · rename_i before after cut
      obtain ⟨rfl, unhyphened⟩ := cutAt?_eq_some_iff.mp cut
      split at reads
      · nomatch reads
      · rename_i year readYear
        obtain ⟨⟨y, yearSpelled, rfl⟩, -⟩ := (readSigned?_eq_some_iff unhyphened).mp readYear
        split at reads
        · nomatch reads
        · rename_i month readMonth
          obtain ⟨monthSpelled, -⟩ := readUnsigned?_eq_some_iff.mp readMonth
          split at reads
          · rename_i named
            obtain rfl := Except.ok.inj reads
            exact ⟨y, month, ⟨_, _, rfl, yearSpelled, monthSpelled⟩, new?_eq_some_iff.mp named⟩
          · nomatch reads
  · rintro ⟨year, month, ⟨before, after, rfl, yearSpelled, monthSpelled⟩, sameYear, sameMonth⟩
    have unhyphened := yearSpelled.unhyphened
    have cut : Text.cutAt? (· == '-') (before ++ '-' :: after) = some (before, after) :=
      cutAt?_eq_some_iff.mpr ⟨rfl, unhyphened⟩
    have readYear : readSigned? (-2147483648) 2147483647 before = some (year : ℤ) :=
      (readSigned?_eq_some_iff unhyphened).mpr ⟨⟨year, yearSpelled, rfl⟩, by omega, by omega⟩
    have readMonth : readUnsigned? 4294967295 after = some month :=
      readUnsigned?_eq_some_iff.mpr ⟨monthSpelled, by omega⟩
    rw [cut]
    dsimp only
    rw [readYear, readMonth]
    dsimp only
    rw [new?_eq_some_iff.mpr ⟨sameYear, sameMonth⟩]

/-- No text names a month of a negative year. -/
theorem year_nonneg_of_read (reads : read text = .ok value) : 0 ≤ value.year := by
  obtain ⟨year, _, _, same, _⟩ := read_eq_ok_iff.mp reads
  omega

theorem read_text_of_nonneg {month : YearMonth} (nonneg : 0 ≤ month.year) :
    read month.text = .ok month := by
  refine read_eq_ok_iff.mpr ⟨month.year.natAbs, month.month, ⟨_, _, ?_, spellsCount_padded 4 _,
    spellsCount_padded 2 _⟩, (Int.natAbs_of_nonneg nonneg).symm, rfl⟩
  rw [text, paddedYear, if_neg nonneg.not_gt]

/-- The sign of a negative year is taken for the hyphen after the year. -/
theorem read_text_of_neg {month : YearMonth} (negative : month.year < 0) :
    read month.text = .error (.badYear month.text) := by
  have cut : Text.cutAt? (· == '-') month.text =
      some ([], padded 3 month.year.natAbs ++ '-' :: padded 2 month.month) := by
    rw [text, paddedYear, if_pos negative]
    rfl
  rw [read, cut]
  rfl

/-- A month is read back from its text exactly when its year is not negative. Reading takes more
texts than are written, namely all that name a month from a year that is not negative, and each
month that it finds is read back from its own text. -/
theorem read_text_exact :
    (∀ month : YearMonth, read month.text = .ok month ↔ 0 ≤ month.year) ∧
    (∀ (text : List Char) (month : YearMonth), read text = .ok month ↔
      ∃ y m : ℕ, Names text y m ∧ month.year = y ∧ month.month = m) ∧
    ∀ (text : List Char) (month : YearMonth), read text = .ok month →
      0 ≤ month.year ∧ 1 ≤ month.month ∧ month.month ≤ 12 ∧ read month.text = .ok month := by
  refine ⟨fun month => ⟨year_nonneg_of_read, read_text_of_nonneg⟩, fun _ _ => read_eq_ok_iff, ?_⟩
  intro text month reads
  have nonneg := year_nonneg_of_read reads
  exact ⟨nonneg, month.month_pos, month.month_le, read_text_of_nonneg nonneg⟩

/-- A year of five digits, with a sign and zeros that are not written. -/
theorem read_text_exact_lenient : ∃ month : YearMonth,
    read "+012345-0007".toList = .ok month ∧ month.year = 12345 ∧ month.month = 7 ∧
    month.text = "12345-07".toList ∧ read "12345-07".toList = .ok month := by
  have reads : ∃ month : YearMonth, read "+012345-0007".toList = .ok month ∧
      month.year = 12345 ∧ month.month = 7 ∧ month.text = "12345-07".toList :=
    ⟨_, rfl, rfl, rfl, rfl⟩
  obtain ⟨month, reads, year, number, text⟩ := reads
  obtain ⟨-, -, -, again⟩ := read_text_exact.2.2 _ _ reads
  exact ⟨month, reads, year, number, text, text ▸ again⟩

end YearMonth

end SentimentTree.Calendar
