import SentimentTree.Decimal.Layout
import SentimentTree.Json.Token
import SentimentTree.Proofs.Decimal.Shortest

/-! # Number literals

The data layout of a magnitude is a literal: a whole part without a needless zero, an optional
fraction and an optional exponent (`Literal`). Reading it gives digits of the same value, so what is
written as data reads back as the same number.
-/

namespace SentimentTree.Decimal

/-! ## Digits -/

private theorem isDigit_eq (c : Char) : isDigit c = c.isDigit := rfl

theorem ne_of_isDigit {c d : Char} (digit : isDigit c = true) (other : isDigit d = false) :
    c ≠ d := by
  rintro rfl
  exact Bool.noConfusion (digit.symm.trans other)

theorem exists_digitChar {c : Char} (digit : isDigit c = true) :
    ∃ n, n < 10 ∧ c = Nat.digitChar n := by
  have bounds : '0' ≤ c ∧ c ≤ '9' := by simpa [isDigit] using digit
  change 48 ≤ c.toNat ∧ c.toNat ≤ 57 at bounds
  refine ⟨c.toNat - 48, by omega, Char.toNat_inj.mp ?_⟩
  rw [Nat.toNat_digitChar_of_lt_ten (by omega)]
  omega

theorem isDigit_of_mem_toDigits {n : ℕ} : ∀ c ∈ Nat.toDigits 10 n, isDigit c = true := by
  intro c member
  rw [isDigit_eq]
  exact Nat.isDigit_of_mem_toDigits (by norm_num) le_rfl member

theorem isDigit_of_mem_zeros_append (zeros : ℕ) {digits : List Char}
    (all : ∀ c ∈ digits, isDigit c = true) :
    ∀ c ∈ List.replicate zeros '0' ++ digits, isDigit c = true := by
  intro c member
  rcases List.mem_append.mp member with zero | digit
  · rw [List.eq_of_mem_replicate zero]
    rfl
  · exact all c digit

theorem ofDigitChars_zeros_append (zeros : ℕ) (digits : List Char) :
    Nat.ofDigitChars 10 (List.replicate zeros '0' ++ digits) 0 = Nat.ofDigitChars 10 digits 0 := by
  rw [Nat.ofDigitChars_append, Nat.ofDigitChars_replicate_zero, Nat.mul_zero]

theorem readNat?_of_digits {digits : List Char} (nonempty : digits ≠ [])
    (all : ∀ c ∈ digits, isDigit c = true) :
    readNat? digits = some (Nat.ofDigitChars 10 digits 0) := by
  simp [readNat?, nonempty, List.all_eq_true.mpr all]

theorem readNat?_eq_some_iff {text : List Char} {n : ℕ} :
    readNat? text = some n ↔
      text ≠ [] ∧ (∀ c ∈ text, isDigit c = true) ∧ n = Nat.ofDigitChars 10 text 0 := by
  constructor
  · intro reads
    unfold readNat? at reads
    split at reads
    · nomatch reads
    · rename_i digits
      simp only [Bool.or_eq_true, List.isEmpty_iff, Bool.not_eq_true', not_or,
        Bool.not_eq_false, List.all_eq_true] at digits
      exact ⟨digits.1, digits.2, (Option.some.inj reads).symm⟩
  · rintro ⟨present, all, rfl⟩
    exact readNat?_of_digits present all

@[simp] theorem readNat?_toDigits (n : ℕ) : readNat? (Nat.toDigits 10 n) = some n := by
  rw [readNat?_of_digits Nat.toDigits_ne_nil isDigit_of_mem_toDigits,
    Nat.ofDigitChars_ten_toDigits]

/-- The first digit of a positive number is not zero. -/
private theorem head?_toDigits_ne_zero {n : ℕ} (positive : 0 < n) :
    (Nat.toDigits 10 n).head? ≠ some '0' := by
  induction n using Nat.strong_induction_on with
  | _ n ih =>
    rcases Nat.lt_or_ge n 10 with small | large
    · rw [Nat.toDigits_of_lt_base small]
      interval_cases n <;> decide
    · rw [Nat.toDigits_of_base_le (by norm_num) large,
        List.head?_append_of_ne_nil _ Nat.toDigits_ne_nil]
      exact ih (n / 10) (by omega) (by omega)

theorem isWholePart_iff {digits : List Char} (all : ∀ c ∈ digits, isDigit c = true) :
    isWholePart digits = true ↔ digits ≠ [] ∧ (digits.head? = some '0' → digits = ['0']) := by
  unfold isWholePart
  split
  · simp
  · rename_i c rest other
    rw [List.all_eq_true.mpr all]
    simp
    grind
  · simp

theorem isWholePart_toDigits (n : ℕ) : isWholePart (Nat.toDigits 10 n) = true := by
  rw [isWholePart_iff isDigit_of_mem_toDigits]
  refine ⟨Nat.toDigits_ne_nil, fun zero => ?_⟩
  rcases Nat.eq_zero_or_pos n with rfl | positive
  · exact Nat.toDigits_zero 10
  · exact (head?_toDigits_ne_zero positive zero).elim

/-- Digits in front of something else are read off. -/
theorem span_digits {digits rest : List Char} (all : ∀ c ∈ digits, isDigit c = true)
    (stop : ∀ c ∈ rest.head?, isDigit c = false) :
    (digits ++ rest).takeWhile isDigit = digits ∧ (digits ++ rest).dropWhile isDigit = rest := by
  have ends : rest.takeWhile isDigit = [] ∧ rest.dropWhile isDigit = rest := by
    cases rest with
    | nil => simp
    | cons c rest => simp [stop c rfl]
  rw [List.takeWhile_append_of_pos all, List.dropWhile_append_of_pos all, ends.1, ends.2,
    List.append_nil]
  exact ⟨rfl, rfl⟩

/-! ## Literals -/

/-- The parts of a number literal without sign. -/
structure Literal where
  whole : List Char
  fraction : List Char
  exponent : Option ℤ

namespace Literal

/-- The point and the digits after it, if there are any. -/
def pointPart (fraction : List Char) : List Char :=
  if fraction = [] then [] else '.' :: fraction

/-- The exponent with its mark and its sign. -/
def exponentPart : Option ℤ → List Char
  | none => []
  | some n => 'e' :: (if 0 ≤ n then '+' else '-') :: Nat.toDigits 10 n.natAbs

def text (literal : Literal) : List Char :=
  literal.whole ++ (pointPart literal.fraction ++ exponentPart literal.exponent)

/-- The decimal value that the literal writes. -/
def digits (literal : Literal) : Digits :=
  .ofParts literal.whole literal.fraction (literal.exponent.getD 0)

/-- Digits on both sides of the point, with no needless zero in front. -/
structure WellFormed (literal : Literal) : Prop where
  whole : ∀ c ∈ literal.whole, isDigit c = true
  fraction : ∀ c ∈ literal.fraction, isDigit c = true
  isWhole : isWholePart literal.whole = true

private theorem readExponent?_exponentPart (exponent : Option ℤ) :
    readExponent? (exponentPart exponent) = some (exponent.getD 0) := by
  cases exponent with
  | none => rfl
  | some n =>
    rcases le_or_gt 0 n with nonneg | negative
    · rw [exponentPart, if_pos nonneg]
      simp [readExponent?, abs_of_nonneg nonneg]
    · rw [exponentPart, if_neg negative.not_ge]
      simp [readExponent?, abs_of_neg negative]

private theorem exponentPart_stop (exponent : Option ℤ) :
    ∀ c ∈ (exponentPart exponent).head?, isDigit c = false := by
  cases exponent with
  | none => nofun
  | some n =>
    intro c member
    obtain rfl := Option.some.inj member
    rfl

variable {literal : Literal}

private theorem WellFormed.whole_ne_nil (wellFormed : literal.WellFormed) : literal.whole ≠ [] :=
  ((isWholePart_iff wellFormed.whole).mp wellFormed.isWhole).1

/-- The digits in front are the whole part. -/
private theorem WellFormed.span_text (wellFormed : literal.WellFormed) :
    literal.text.takeWhile isDigit = literal.whole ∧ literal.text.dropWhile isDigit =
      pointPart literal.fraction ++ exponentPart literal.exponent := by
  apply span_digits wellFormed.whole
  unfold pointPart
  split
  · exact exponentPart_stop literal.exponent
  · intro c member
    obtain rfl := Option.some.inj member
    rfl

/-- A literal reads as its digits. -/
theorem WellFormed.readMagnitude?_text (wellFormed : literal.WellFormed) :
    readMagnitude? literal.text = some literal.digits := by
  obtain ⟨taken, dropped⟩ := wellFormed.span_text
  obtain ⟨taken', dropped'⟩ := span_digits wellFormed.fraction (exponentPart_stop literal.exponent)
  have nonempty := wellFormed.whole_ne_nil
  have back := readExponent?_exponentPart literal.exponent
  unfold readMagnitude?
  rw [taken, dropped]
  rcases literal with ⟨whole, fraction, exponent⟩
  dsimp only at nonempty taken' dropped' back ⊢
  cases fraction with
  | nil =>
    cases exponent with
    | none => simp [pointPart, exponentPart, nonempty, readExponent?, digits]
    | some n =>
      rw [exponentPart] at back ⊢
      simp [pointPart, nonempty, back, digits]
  | cons first rest =>
    change (if _ then none else Option.map
      (Digits.ofParts whole ((first :: rest ++ exponentPart exponent).takeWhile isDigit))
      (readExponent? ((first :: rest ++ exponentPart exponent).dropWhile isDigit))) = _
    rw [taken', dropped', back, if_neg (by simp [nonempty])]
    rfl

private theorem isExponentPart_exponentPart (n : ℤ) :
    isExponentPart (exponentPart (some n)) = true := by
  have nonempty : (Nat.toDigits 10 n.natAbs).isEmpty = false := by simp [Nat.toDigits_ne_nil]
  have digits : (Nat.toDigits 10 n.natAbs).all isDigit = true :=
    List.all_eq_true.mpr isDigit_of_mem_toDigits
  rw [exponentPart, isExponentPart]
  split
  · rw [nonempty, digits]
    rfl
  · rw [nonempty, digits]
    rfl

theorem WellFormed.exists_digit (wellFormed : literal.WellFormed) :
    ∃ c rest, literal.text = c :: rest ∧ isDigit c = true := by
  rcases literal with ⟨whole, fraction, exponent⟩
  cases whole with
  | nil => exact (wellFormed.whole_ne_nil rfl).elim
  | cons c rest => exact ⟨c, _, rfl, wellFormed.whole c List.mem_cons_self⟩

/-- A literal is one by the grammar of data files. -/
theorem WellFormed.isNumberLiteral_text (wellFormed : literal.WellFormed) :
    isNumberLiteral literal.text = true := by
  obtain ⟨taken, dropped⟩ := wellFormed.span_text
  obtain ⟨taken', dropped'⟩ := span_digits wellFormed.fraction (exponentPart_stop literal.exponent)
  unfold isNumberLiteral
  split
  · rename_i minus
    obtain ⟨c, after, shape, digit⟩ := wellFormed.exists_digit
    rw [shape] at minus
    exact (ne_of_isDigit digit rfl (List.cons.inj minus).1).elim
  · dsimp only
    rw [taken, dropped, wellFormed.isWhole, Bool.true_and]
    rcases literal with ⟨whole, fraction, exponent⟩
    dsimp only at taken' dropped' ⊢
    cases fraction with
    | nil =>
      cases exponent with
      | none => rfl
      | some n => exact isExponentPart_exponentPart n
    | cons first rest =>
      change (!((first :: rest ++ exponentPart exponent).takeWhile isDigit).isEmpty &&
        (((first :: rest ++ exponentPart exponent).dropWhile isDigit).isEmpty ||
          isExponentPart ((first :: rest ++ exponentPart exponent).dropWhile isDigit))) = true
      rw [taken', dropped']
      cases exponent with
      | none => rfl
      | some n => exact isExponentPart_exponentPart n

/-- A minus sign in front keeps a literal a literal. -/
theorem WellFormed.isNumberLiteral_signed (wellFormed : literal.WellFormed) (negative : Bool) :
    isNumberLiteral (signed negative literal.text) = true := by
  have plain := wellFormed.isNumberLiteral_text
  obtain ⟨c, after, shape, digit⟩ := wellFormed.exists_digit
  cases negative with
  | false => exact plain
  | true =>
    rw [shape] at plain ⊢
    unfold isNumberLiteral at plain
    split at plain
    · rename_i minus
      exact (ne_of_isDigit digit rfl (List.cons.inj minus).1).elim
    · exact plain

end Literal

/-! ## The data layout -/

/-- The literal with a point before the last places of the digits. -/
def pointedLiteral (n places : ℕ) : Literal :=
  let digits := Nat.toDigits 10 n
  let padded := List.replicate (places + 1 - digits.length) '0' ++ digits
  ⟨padded.take (padded.length - places), padded.drop (padded.length - places), none⟩

/-- The literal of a decimal value in a layout that marks whole numbers with `.0`. -/
def Digits.positionalLiteral (x : Digits) : Literal :=
  if 0 ≤ x.exponent then
    ⟨Nat.toDigits 10 (x.coefficient * Nat.pow 10 x.exponent.toNat), ['0'], none⟩
  else pointedLiteral x.coefficient (-x.exponent).toNat

/-- The literal with one digit before the point. -/
def Digits.scientificLiteral (x : Digits) : Literal where
  whole := (Nat.toDigits 10 x.coefficient).take 1
  fraction := (Nat.toDigits 10 x.coefficient).drop 1
  exponent := some (x.exponent + digitCount x.coefficient - 1)

private theorem isWholePart_singleton {c : Char} (digit : isDigit c = true) :
    isWholePart [c] = true := by
  rw [isWholePart_iff (by simpa using digit)]
  simp

private theorem Digits.scientificLiteral_spec (x : Digits) :
    x.scientificLiteral.WellFormed ∧ x.scientificLiteral.digits = x ∧
      x.scientificLiteral.text =
        exponentText x (x.exponent + digitCount x.coefficient - 1) := by
  have digits := isDigit_of_mem_toDigits (n := x.coefficient)
  have back : Nat.ofDigitChars 10 (Nat.toDigits 10 x.coefficient) 0 = x.coefficient :=
    Nat.ofDigitChars_ten_toDigits
  have nonempty : Nat.toDigits 10 x.coefficient ≠ [] := Nat.toDigits_ne_nil
  unfold scientificLiteral exponentText digitCount
  generalize Nat.toDigits 10 x.coefficient = shown at digits back nonempty ⊢
  cases shown with
  | nil => exact (nonempty rfl).elim
  | cons first rest =>
    refine ⟨⟨?_, ?_, ?_⟩, ?_, ?_⟩
    · exact fun c member => digits c (List.mem_of_mem_take member)
    · exact fun c member => digits c (List.mem_of_mem_drop member)
    · exact isWholePart_singleton (digits first List.mem_cons_self)
    · have exponent : x.exponent + ((first :: rest).length : ℕ) - 1 - (rest.length : ℕ) =
          x.exponent := by
        rw [List.length_cons]
        omega
      change (⟨Nat.ofDigitChars 10 (first :: rest) 0, _⟩ : Digits) = x
      rw [back]
      exact congrArg (Digits.mk x.coefficient) exponent
    · cases rest <;> rfl

private theorem ofDigitChars_point_zero (n : ℕ) :
    Nat.ofDigitChars 10 (Nat.toDigits 10 n ++ ['0']) 0 = 10 * n := by
  rw [Nat.ofDigitChars_append, Nat.ofDigitChars_ten_toDigits]
  rfl

/-- The digits before the point are a whole part. -/
private theorem isWholePart_pointed {n places : ℕ} (positive : 0 < places) :
    isWholePart (pointedLiteral n places).whole = true := by
  set digits := Nat.toDigits 10 n with digits_eq
  set padded := List.replicate (places + 1 - digits.length) '0' ++ digits with padded_eq
  change isWholePart (padded.take (padded.length - places)) = true
  rcases Nat.lt_or_ge places digits.length with long | short
  · have same : padded = digits := by
      simp only [padded, Nat.sub_eq_zero_of_le long, List.replicate_zero, List.nil_append]
    have taken : 0 < digits.length - places := by omega
    have wholeDigits : ∀ c ∈ digits.take (digits.length - places), isDigit c = true :=
      fun c member => isDigit_of_mem_toDigits c (List.mem_of_mem_take member)
    rw [same, isWholePart_iff wholeDigits, List.head?_take, if_neg taken.ne']
    refine ⟨?_, fun zero => ?_⟩
    · simp [taken.ne', digits, Nat.toDigits_ne_nil]
    · rcases Nat.eq_zero_or_pos n with rfl | n_pos
      · have : digits.length = 1 := by simp [digits]
        omega
      · exact (head?_toDigits_ne_zero n_pos zero).elim
  · have length : padded.length - places = 1 := by
      simp only [padded, List.length_append, List.length_replicate]
      omega
    have zeros : places + 1 - digits.length = places - digits.length + 1 := by omega
    rw [length]
    simp only [padded, zeros, List.replicate_succ, List.cons_append]
    exact isWholePart_singleton rfl

private theorem pointedLiteral_spec {n places : ℕ} (positive : 0 < places) :
    (pointedLiteral n places).WellFormed ∧ (pointedLiteral n places).digits = ⟨n, -places⟩ ∧
      (pointedLiteral n places).text = pointed n places := by
  have whole := isWholePart_pointed (n := n) positive
  have all := isDigit_of_mem_zeros_append (places + 1 - (Nat.toDigits 10 n).length)
    (isDigit_of_mem_toDigits (n := n))
  have back := ofDigitChars_zeros_append (places + 1 - (Nat.toDigits 10 n).length)
    (Nat.toDigits 10 n)
  rw [Nat.ofDigitChars_ten_toDigits] at back
  have enough : places < (List.replicate (places + 1 - (Nat.toDigits 10 n).length) '0' ++
      Nat.toDigits 10 n).length := by
    rw [List.length_append, List.length_replicate]
    omega
  unfold pointedLiteral pointed at *
  dsimp only at whole ⊢
  generalize List.replicate (places + 1 - (Nat.toDigits 10 n).length) '0' ++
    Nat.toDigits 10 n = padded at *
  have dropped : (padded.drop (padded.length - places)).length = places := by
    rw [List.length_drop]
    omega
  refine ⟨⟨?_, ?_, whole⟩, ?_, ?_⟩
  · exact fun c member => all c (List.mem_of_mem_take member)
  · exact fun c member => all c (List.mem_of_mem_drop member)
  · rw [Literal.digits, Digits.ofParts, List.take_append_drop, back, dropped, Option.getD_none,
      zero_sub]
  · have nonempty : padded.drop (padded.length - places) ≠ [] := by
      apply List.ne_nil_of_length_pos
      omega
    simp [Literal.text, Literal.pointPart, Literal.exponentPart, nonempty]

private theorem Digits.positionalLiteral_spec (x : Digits) :
    x.positionalLiteral.WellFormed ∧ x.positionalLiteral.digits.value = x.value ∧
      x.positionalLiteral.text = Layout.data.positionalText x := by
  unfold positionalLiteral Layout.positionalText
  split
  · rename_i nonneg
    obtain ⟨k, exponent⟩ := Int.eq_ofNat_of_zero_le nonneg
    refine ⟨⟨isDigit_of_mem_toDigits, by simp [isDigit], isWholePart_toDigits _⟩, ?_, rfl⟩
    change ((Nat.ofDigitChars 10 (Nat.toDigits 10 _ ++ ['0']) 0 : ℕ) : ℚ) * 10 ^ (-1 : ℤ) = _
    rw [ofDigitChars_point_zero, value, exponent]
    simp only [Int.toNat_natCast, Nat.pow_eq, Nat.cast_mul, Nat.cast_pow, Nat.cast_ofNat,
      zpow_natCast]
    norm_num
    ring
  · rename_i negative
    obtain ⟨places, shape⟩ := Int.eq_ofNat_of_zero_le (show 0 ≤ -x.exponent by omega)
    rw [shape, Int.toNat_natCast]
    obtain ⟨wellFormed, digits, text⟩ :=
      pointedLiteral_spec (n := x.coefficient) (show 0 < places by omega)
    refine ⟨wellFormed, ?_, text⟩
    rw [digits, value, value, show -(places : ℤ) = x.exponent by omega]

/-- The data layout is a literal of the shortest digits' value. -/
theorem exists_literal_magnitudeText (format : BinaryFormat) (x : Binary) :
    ∃ literal : Literal, literal.WellFormed ∧
      literal.digits.value = (shortest format .even x).value ∧
      literal.text = Layout.data.magnitudeText format x := by
  unfold Layout.magnitudeText
  dsimp only
  split
  · exact ⟨_, Digits.positionalLiteral_spec _⟩
  · obtain ⟨wellFormed, digits, text⟩ := Digits.scientificLiteral_spec (shortest format .even x)
    exact ⟨_, wellFormed, congrArg Digits.value digits, text⟩

end SentimentTree.Decimal
