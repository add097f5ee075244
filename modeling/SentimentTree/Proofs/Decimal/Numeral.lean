import Mathlib.Data.List.Chain
import SentimentTree.Proofs.Decimal.DataText

/-! # Numerals

Digits with an optional point among them and an optional exponent, in all spellings that data files
and fields of tables may use. Reading a numeral takes exactly these spellings for their decimal
values, so a numeral is read as the same number wherever it stands. No numeral has a hyphen directly
behind a digit, which tells a number from a date.
-/

namespace SentimentTree.Decimal

variable {text whole fraction marked literal : List Char} {digits : Digits} {x : Float}

/-! ## Exponents -/

/-- An exponent is absent, or a mark with an optional sign and digits. -/
inductive SpellsExponent : List Char → ℤ → Prop
  | absent : SpellsExponent [] 0
  | plain {mark : Char} {digits : List Char} {n : ℕ} (letter : mark = 'e' ∨ mark = 'E')
      (reads : readNat? digits = some n) : SpellsExponent (mark :: digits) n
  | plus {mark : Char} {digits : List Char} {n : ℕ} (letter : mark = 'e' ∨ mark = 'E')
      (reads : readNat? digits = some n) : SpellsExponent (mark :: '+' :: digits) n
  | minus {mark : Char} {digits : List Char} {n : ℕ} (letter : mark = 'e' ∨ mark = 'E')
      (reads : readNat? digits = some n) : SpellsExponent (mark :: '-' :: digits) (-n)

theorem readExponent?_eq_some_iff {exponent : ℤ} :
    readExponent? marked = some exponent ↔ SpellsExponent marked exponent := by
  constructor
  · intro reads
    unfold readExponent? at reads
    split at reads
    · obtain rfl := Option.some.inj reads
      exact .absent
    · split at reads
      · rename_i letter
        split at reads
        · simp only [Option.map_eq_some_iff, Option.bind_eq_bind, Option.bind_eq_some_iff,
            Option.pure_def, Option.some.injEq] at reads
          obtain ⟨_, ⟨n, value, rfl⟩, rfl⟩ := reads
          exact .minus letter value
        · obtain ⟨n, value, rfl⟩ := Option.map_eq_some_iff.mp reads
          exact .plus letter value
        · obtain ⟨n, value, rfl⟩ := Option.map_eq_some_iff.mp reads
          exact .plain letter value
      · nomatch reads
  · intro spelled
    cases spelled with
    | absent => rfl
    | @plain mark digits n letter reads =>
      obtain ⟨-, all, -⟩ := readNat?_eq_some_iff.mp reads
      unfold readExponent?
      dsimp only
      rw [if_pos letter]
      -- digits start with no sign
      split
      · exact Bool.noConfusion (all '-' List.mem_cons_self)
      · exact Bool.noConfusion (all '+' List.mem_cons_self)
      · rw [reads]
        rfl
    | plus letter reads =>
      rw [readExponent?, if_pos letter]
      simp [reads]
    | minus letter reads =>
      rw [readExponent?, if_pos letter]
      simp [reads]

private theorem SpellsExponent.stop {exponent : ℤ} (spelled : SpellsExponent marked exponent) :
    ∀ c ∈ marked.head?, isDigit c = false ∧ c ≠ '.' := by
  have letters : ∀ {mark : Char}, mark = 'e' ∨ mark = 'E' → isDigit mark = false ∧ mark ≠ '.' := by
    rintro mark (rfl | rfl) <;> decide
  intro c first
  cases spelled with
  | absent => nomatch first
  | plain letter => exact Option.some.inj first ▸ letters letter
  | plus letter => exact Option.some.inj first ▸ letters letter
  | minus letter => exact Option.some.inj first ▸ letters letter

/-! ## Magnitudes -/

/-- A numeral without sign has digits on at least one side of its point, if there is one. -/
inductive SpellsNumeral : List Char → Digits → Prop
  | whole {whole marked : List Char} {exponent : ℤ} (present : whole ≠ [])
      (all : ∀ c ∈ whole, isDigit c = true) (spelled : SpellsExponent marked exponent) :
      SpellsNumeral (whole ++ marked) (.ofParts whole [] exponent)
  | pointed {whole fraction marked : List Char} {exponent : ℤ}
      (present : whole ≠ [] ∨ fraction ≠ []) (all : ∀ c ∈ whole, isDigit c = true)
      (behind : ∀ c ∈ fraction, isDigit c = true) (spelled : SpellsExponent marked exponent) :
      SpellsNumeral (whole ++ '.' :: (fraction ++ marked)) (.ofParts whole fraction exponent)

theorem readMagnitude?_eq_some_iff :
    readMagnitude? text = some digits ↔ SpellsNumeral text digits := by
  constructor
  · intro reads
    have all : ∀ (rest : List Char), ∀ c ∈ rest.takeWhile isDigit, isDigit c = true :=
      fun rest c member => List.mem_takeWhile_imp member
    unfold readMagnitude? at reads
    split at reads
    rename_i fraction rest cut
    dsimp only at reads
    split at reads
    · nomatch reads
    · rename_i present
      simp only [Bool.and_eq_true, List.isEmpty_iff, not_and_or] at present
      obtain ⟨exponent, value, rfl⟩ := Option.map_eq_some_iff.mp reads
      have spelled := readExponent?_eq_some_iff.mp value
      split at cut
      · rename_i after point
        obtain ⟨rfl, rfl⟩ := Prod.mk.inj cut
        have numeral := SpellsNumeral.pointed present (all text) (all after) spelled
        rwa [List.takeWhile_append_dropWhile, ← point, List.takeWhile_append_dropWhile] at numeral
      · obtain ⟨rfl, rfl⟩ := Prod.mk.inj cut
        have whole := present.resolve_right fun nonempty => nonempty rfl
        have numeral := SpellsNumeral.whole whole (all text) spelled
        rwa [List.takeWhile_append_dropWhile] at numeral
  · intro spelled
    cases spelled with
    | @whole whole marked exponent present all spelled =>
      obtain ⟨taken, dropped⟩ := span_digits all fun c first => (spelled.stop c first).1
      have reads := readExponent?_eq_some_iff.mpr spelled
      unfold readMagnitude?
      rw [taken, dropped]
      split
      rename_i fraction rest cut
      split at cut
      · exact ((spelled.stop '.' rfl).2 rfl).elim
      · obtain ⟨rfl, rfl⟩ := Prod.mk.inj cut
        simp [present, reads]
    | @pointed whole fraction marked exponent present all behind spelled =>
      obtain ⟨taken, dropped⟩ := @span_digits whole ('.' :: (fraction ++ marked)) all (by simp; rfl)
      obtain ⟨taken', dropped'⟩ := span_digits behind fun c first => (spelled.stop c first).1
      have reads := readExponent?_eq_some_iff.mpr spelled
      unfold readMagnitude?
      rw [taken, dropped]
      change (if (whole.isEmpty && ((fraction ++ marked).takeWhile isDigit).isEmpty) = true then none
        else (readExponent? ((fraction ++ marked).dropWhile isDigit)).map
          (Digits.ofParts whole ((fraction ++ marked).takeWhile isDigit))) = _
      rw [taken', dropped', reads, if_neg (by simpa [or_iff_not_imp_left] using present)]
      rfl

/-- A numeral starts with a digit or with its point. -/
private theorem SpellsNumeral.exists_cons (spelled : SpellsNumeral text digits) :
    ∃ c rest, text = c :: rest ∧ (isDigit c = true ∨ c = '.') := by
  have first : ∀ {whole rest : List Char}, whole ≠ [] → (∀ c ∈ whole, isDigit c = true) →
      ∃ c more, whole ++ rest = c :: more ∧ (isDigit c = true ∨ c = '.') := by
    intro whole rest present all
    obtain ⟨c, more, rfl⟩ := List.exists_cons_of_ne_nil present
    exact ⟨c, more ++ rest, rfl, .inl (all c List.mem_cons_self)⟩
  cases spelled with
  | whole present all => exact first present all
  | @pointed whole fraction marked _ present all =>
    by_cases empty : whole = []
    · subst empty
      exact ⟨'.', _, rfl, .inr rfl⟩
    · exact first empty all

/-! ## Numbers -/

/-- The literal is a numeral with a sign if it is negative, and the number is the one nearest to its
value, which is in range. -/
def WritesNumber (literal : List Char) (x : Float) : Prop :=
  ∃ negative body digits magnitude, literal = signed negative body ∧ SpellsNumeral body digits ∧
    digits.toBinary? .double = some magnitude ∧ x = toFloat negative (some magnitude)

private theorem toLower_of_start {c : Char} (start : isDigit c = true ∨ c = '.') :
    c.toLower = c := by
  rcases start with digit | rfl
  · obtain ⟨n, small, rfl⟩ := exists_digitChar digit
    interval_cases n <;> rfl
  · rfl

private theorem ne_of_start {c d : Char} (start : isDigit c = true ∨ c = '.')
    (other : isDigit d = false) (point : d ≠ '.') : c ≠ d := by
  rintro rfl
  rcases start with digit | rfl
  · exact Bool.noConfusion (digit.symm.trans other)
  · exact point rfl

/-- A numeral is read from a field, since it is no name of an infinity or of the undefined number. -/
theorem WritesNumber.readFloat?_eq (writes : WritesNumber literal x) :
    readFloat? literal = some x := by
  obtain ⟨negative, body, digits, magnitude, rfl, spelled, rounded, rfl⟩ := writes
  obtain ⟨c, rest, shape, start⟩ := spelled.exists_cons
  have reads := readMagnitude?_eq_some_iff.mpr spelled
  have named : ∀ {d : Char} {name : List Char}, isDigit d = false → d ≠ '.' →
      String.ofList (body.map Char.toLower) ≠ String.ofList (d :: name) := by
    intro d name other point same
    rw [String.ofList_inj, shape, List.map_cons, toLower_of_start start] at same
    exact ne_of_start start other point (List.cons.inj same).1
  have unnamed : ∀ negative : Bool,
      (if String.ofList (body.map Char.toLower) = "inf" ||
          String.ofList (body.map Char.toLower) = "infinity" then
          some (Decimal.toFloat negative none)
        else if String.ofList (body.map Char.toLower) = "nan" then
          some (Float.ofBits 0x7FF8000000000000)
        else (readMagnitude? body).map (Digits.toFloat negative)) =
      some (toFloat negative (some magnitude)) := by
    intro negative
    rw [if_neg (by simpa using ⟨named rfl (by decide), named rfl (by decide)⟩),
      if_neg (named rfl (by decide)), reads, Option.map_some, Digits.toFloat, rounded]
  cases negative with
  | true => exact unnamed true
  | false =>
    rw [signed, if_neg Bool.false_ne_true]
    unfold readFloat?
    split
    rename_i negative' body' sign
    split at sign
    · exact (ne_of_start start rfl (by decide) (List.cons.inj (shape.symm.trans rfl)).1).elim
    · exact (ne_of_start start rfl (by decide) (List.cons.inj (shape.symm.trans rfl)).1).elim
    · obtain ⟨rfl, rfl⟩ := Prod.mk.inj sign
      exact unnamed false

/-- A numeral is read from a document. -/
theorem WritesNumber.float?_eq (writes : WritesNumber literal x) :
    Json.float? (.number literal) = some x := by
  obtain ⟨negative, body, digits, magnitude, rfl, spelled, rounded, rfl⟩ := writes
  obtain ⟨c, rest, shape, start⟩ := spelled.exists_cons
  have reads := readMagnitude?_eq_some_iff.mpr spelled
  cases negative with
  | true =>
    unfold signed Json.float?
    simp only [if_true, reads, rounded, Option.map_some]
  | false =>
    have unsigned : c ≠ '-' := ne_of_start start rfl (by decide)
    unfold signed Json.float?
    rw [shape] at reads ⊢
    simp [unsigned, reads, rounded]

/-- A finite number is written into documents by a numeral. -/
theorem float_writesNumber (finite : x.isFinite = true) :
    ∃ literal, Json.float x = .number literal ∧ WritesNumber literal x := by
  obtain ⟨negative, literal, wellFormed, written, reads⟩ := Json.float_spec finite
  have spelled := readMagnitude?_eq_some_iff.mp wellFormed.readMagnitude?_text
  rw [written, Json.float?_signed wellFormed] at reads
  obtain ⟨magnitude, rounded, made⟩ := Option.map_eq_some_iff.mp reads
  exact ⟨_, written, negative, _, _, magnitude, rfl, spelled, rounded, made.symm⟩

/-! ## What numbers do not look like -/

/-- No hyphen is directly behind a digit. -/
def Unhyphened (text : List Char) : Prop := text.IsChain fun a b => isDigit a = true → b ≠ '-'

private theorem Unhyphened.cons_other {c : Char} (other : isDigit c = false)
    (rest : Unhyphened text) :
    Unhyphened (c :: text) := by
  apply List.isChain_cons.mpr
  exact ⟨fun _ _ digit => Bool.noConfusion (digit.symm.trans other), rest⟩

/-- Digits may stand in front of anything but a hyphen. -/
private theorem Unhyphened.digits_append (all : ∀ c ∈ whole, isDigit c = true)
    (rest : Unhyphened text) (start : ∀ c ∈ text.head?, c ≠ '-') : Unhyphened (whole ++ text) := by
  induction whole with
  | nil => exact rest
  | cons c whole ih =>
    obtain ⟨-, all⟩ := List.forall_mem_cons.mp all
    apply List.isChain_cons.mpr
    refine ⟨fun next first _ => ?_, ih all⟩
    cases whole with
    | nil => exact start next first
    | cons d whole =>
      obtain rfl := Option.some.inj first
      exact ne_of_isDigit (all _ List.mem_cons_self) rfl

private theorem unhyphened_of_digits (all : ∀ c ∈ whole, isDigit c = true) : Unhyphened whole := by
  have plain := Unhyphened.digits_append all List.isChain_nil nofun
  rwa [List.append_nil] at plain

theorem unhyphened_of_others (others : ∀ c ∈ text, isDigit c = false) : Unhyphened text := by
  induction text with
  | nil => exact List.isChain_nil
  | cons c text ih =>
    obtain ⟨other, others⟩ := List.forall_mem_cons.mp others
    exact (ih others).cons_other other

private theorem unhyphened_of_readNat? {n : ℕ} (reads : readNat? text = some n) : Unhyphened text :=
  unhyphened_of_digits (readNat?_eq_some_iff.mp reads).2.1

private theorem SpellsExponent.unhyphened {exponent : ℤ}
    (spelled : SpellsExponent marked exponent) :
    Unhyphened marked := by
  cases spelled with
  | absent => exact List.isChain_nil
  | plain letter reads =>
    apply (unhyphened_of_readNat? reads).cons_other
    rcases letter with rfl | rfl <;> rfl
  | plus letter reads =>
    apply Unhyphened.cons_other _ ((unhyphened_of_readNat? reads).cons_other rfl)
    rcases letter with rfl | rfl <;> rfl
  | minus letter reads =>
    apply Unhyphened.cons_other _ ((unhyphened_of_readNat? reads).cons_other rfl)
    rcases letter with rfl | rfl <;> rfl

private theorem SpellsExponent.head?_ne {exponent : ℤ} (spelled : SpellsExponent marked exponent) :
    ∀ c ∈ marked.head?, c ≠ '-' := by
  intro c first
  cases spelled with
  | absent => nomatch first
  | plain letter => rcases letter with rfl | rfl <;> obtain rfl := Option.some.inj first <;> decide
  | plus letter => rcases letter with rfl | rfl <;> obtain rfl := Option.some.inj first <;> decide
  | minus letter => rcases letter with rfl | rfl <;> obtain rfl := Option.some.inj first <;> decide

private theorem SpellsNumeral.unhyphened (spelled : SpellsNumeral text digits) :
    Unhyphened text := by
  cases spelled with
  | whole _ all spelled => exact spelled.unhyphened.digits_append all spelled.head?_ne
  | pointed _ all behind spelled =>
    apply Unhyphened.digits_append all
    · exact (spelled.unhyphened.digits_append behind spelled.head?_ne).cons_other rfl
    · rintro c ⟨⟩
      decide

/-- An integer has no hyphen behind a digit. -/
theorem unhyphened_of_readSigned? {least greatest n : ℤ}
    (reads : readSigned? least greatest text = some n) : Unhyphened text := by
  obtain ⟨value, -⟩ := Option.filter_eq_some_iff.mp reads
  split at value
  · simp only [Option.map_eq_some_iff, Option.bind_eq_bind, Option.bind_eq_some_iff] at value
    obtain ⟨_, ⟨n, reads, -⟩, -⟩ := value
    exact (unhyphened_of_readNat? reads).cons_other rfl
  · obtain ⟨n, reads, -⟩ := Option.map_eq_some_iff.mp value
    exact (unhyphened_of_readNat? reads).cons_other rfl
  · obtain ⟨n, reads, -⟩ := Option.map_eq_some_iff.mp value
    exact unhyphened_of_readNat? reads

/-- A number has no hyphen behind a digit. -/
theorem unhyphened_of_readFloat? (reads : readFloat? text = some x) : Unhyphened text := by
  have named : ∀ {body : List Char} {name : String}, (∀ c ∈ name.toList, isDigit c = false) →
      String.ofList (body.map Char.toLower) = name → Unhyphened body := by
    rintro body name letters rfl
    apply unhyphened_of_others
    intro c member
    rw [String.toList_ofList] at letters
    have small := letters _ (List.mem_map_of_mem member)
    cases digit : isDigit c with
    | false => rfl
    | true => rwa [toLower_of_start (.inl digit), digit] at small
  have unsigned : ∀ {negative : Bool} {body : List Char},
      (if String.ofList (body.map Char.toLower) = "inf" ||
          String.ofList (body.map Char.toLower) = "infinity" then
          some (Decimal.toFloat negative none)
        else if String.ofList (body.map Char.toLower) = "nan" then
          some (Float.ofBits 0x7FF8000000000000)
        else (readMagnitude? body).map (Digits.toFloat negative)) = some x →
      Unhyphened body := by
    intro negative body reads
    split at reads
    · rename_i infinite
      rcases (by simpa using infinite : _ ∨ _) with name | name
      · exact named (by simp [isDigit]) name
      · exact named (by simp [isDigit]) name
    · split at reads
      · rename_i name
        exact named (by simp [isDigit]) name
      · obtain ⟨digits, value, -⟩ := Option.map_eq_some_iff.mp reads
        exact (readMagnitude?_eq_some_iff.mp value).unhyphened
  unfold readFloat? at reads
  split at reads
  rename_i negative body sign
  split at sign
  · obtain ⟨rfl, rfl⟩ := Prod.mk.inj sign
    exact (unsigned reads).cons_other rfl
  · obtain ⟨rfl, rfl⟩ := Prod.mk.inj sign
    exact (unsigned reads).cons_other rfl
  · obtain ⟨rfl, rfl⟩ := Prod.mk.inj sign
    exact unsigned reads

end SentimentTree.Decimal
