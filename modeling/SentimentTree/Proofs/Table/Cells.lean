import SentimentTree.Proofs.Decimal.Numeral
import SentimentTree.Table.Sheet

/-! # What cells are taken for

A cell of no fixed type is a boolean, an integer, another number or text, the first that fits. Every
text that is read as a point in time has a hyphen directly behind a digit and no number has one, so a
cell with a date is text. The words for booleans are read alike as cells and as texts, though a cell
takes some of them for a boolean or for an integer before it comes to text.
-/

namespace SentimentTree

open Calendar Decimal

variable {text rest field : List Char}

/-! ## Dates -/

/-- A hyphen stands directly behind a digit, as in every date. -/
def DateShaped (text : List Char) : Prop :=
  ∃ before digit after, text = before ++ digit :: '-' :: after ∧ isDigit digit = true

private theorem DateShaped.not_unhyphened (shaped : DateShaped text) : ¬Unhyphened text := by
  intro unhyphened
  obtain ⟨before, digit, after, rfl, behind⟩ := shaped
  exact List.isChain_iff_forall_rel_of_append_cons_cons.mp unhyphened rfl behind rfl

private theorem DateShaped.within (shaped : DateShaped text) (before after : List Char) :
    DateShaped (before ++ (text ++ after)) := by
  obtain ⟨first, digit, last, rfl, behind⟩ := shaped
  exact ⟨before ++ first, digit, last ++ after, by simp, behind⟩

/-- A cell that is no boolean and no number is text. -/
private theorem ofField_eq_text (yes : field ≠ ['t', 'r', 'u', 'e'])
    (no : field ≠ ['f', 'a', 'l', 's', 'e'])
    (noInteger : readSigned? (-Nat.pow 2 63) (Nat.pow 2 63 - 1) field = none)
    (noNumber : readFloat? field = none) : Cell.ofField field = .text (String.ofList field) := by
  rw [Cell.ofField, if_neg yes, if_neg no, noInteger, noNumber]
  rfl

/-- A cell with a date is text. -/
theorem DateShaped.ofField_eq (shaped : DateShaped field) :
    Cell.ofField field = .text (String.ofList field) := by
  have unlike := shaped.not_unhyphened
  have word : ∀ {name : List Char}, (∀ c ∈ name, isDigit c = false) → field ≠ name := by
    rintro name letters rfl
    exact unlike (unhyphened_of_others letters)
  apply ofField_eq_text (word (by simp [isDigit])) (word (by simp [isDigit]))
  · rw [Option.eq_none_iff_forall_ne_some]
    intro n reads
    exact unlike (unhyphened_of_readSigned? reads)
  · rw [Option.eq_none_iff_forall_ne_some]
    intro x reads
    exact unlike (unhyphened_of_readFloat? reads)

namespace Calendar

namespace Reader

variable {least most n : ℕ} {c : Char}

/-- Digits that are read stand in front of what is left. -/
private theorem exists_run_of_digits (reads : digits least most text = some (n, rest)) :
    ∃ run, text = run ++ rest ∧ (∀ c ∈ run, isDigit c = true) ∧ least ≤ run.length := by
  unfold digits at reads
  dsimp only at reads
  split at reads
  · nomatch reads
  · rename_i enough
    obtain ⟨-, rfl⟩ := Prod.mk.inj (Option.some.inj reads)
    have start : (text.takeWhile isDigit).take most <+: text :=
      (List.take_prefix _ _).trans (List.takeWhile_prefix _)
    have all : ∀ c ∈ (text.takeWhile isDigit).take most, isDigit c = true :=
      fun c member => List.mem_takeWhile_imp (List.mem_of_mem_take member)
    generalize (text.takeWhile isDigit).take most = run at *
    refine ⟨run, ?_, all, by omega⟩
    calc text = text.take run.length ++ text.drop run.length := (List.take_append_drop _ _).symm
      _ = run ++ text.drop run.length := by rw [← List.prefix_iff_eq_take.mp start]

private theorem cons_of_char {test : Char → Bool} (reads : char test text = some (c, rest)) :
    text = c :: rest ∧ test c = true := by
  unfold char at reads
  split at reads
  · split at reads
    · rename_i passes
      obtain ⟨rfl, rfl⟩ := Prod.mk.inj (Option.some.inj reads)
      exact ⟨rfl, passes⟩
    · nomatch reads
  · nomatch reads

/-- Digits and a hyphen behind them. -/
private theorem dateShaped_of_digits {middle : List Char} (positive : 0 < least)
    (number : digits least most text = some (n, middle))
    (hyphen : char (· == '-') middle = some (c, rest)) : DateShaped text := by
  obtain ⟨run, rfl, all, enough⟩ := exists_run_of_digits number
  obtain ⟨rfl, same⟩ := cons_of_char hyphen
  obtain rfl := eq_of_beq same
  obtain ⟨before, digit, rfl⟩ := List.eq_nil_or_concat run |>.resolve_left
    (List.ne_nil_of_length_pos (by omega))
  exact ⟨before, digit, rest, by simp, all digit (by simp)⟩

private theorem exists_trimStart (text : List Char) :
    ∃ before, text = before ++ Text.trimStart text :=
  ⟨_, List.takeWhile_append_dropWhile.symm⟩

/-- A year and a hyphen behind it. -/
private theorem dateShaped_of_year {y : ℤ} {middle : List Char}
    (reads : year text = some (y, middle))
    (hyphen : char (· == '-') middle = some (c, rest)) : DateShaped text := by
  have number : ∀ {most : ℕ} {start : List Char} {f : ℕ × List Char → ℤ × List Char},
      (∀ pair, (f pair).2 = pair.2) → (digits 1 most start).map f = some (y, middle) →
      DateShaped start := by
    intro most start f kept reads
    obtain ⟨⟨n, after⟩, number, same⟩ := Option.map_eq_some_iff.mp reads
    have rest := kept (n, after)
    rw [same] at rest
    obtain rfl : middle = after := rest
    exact dateShaped_of_digits one_pos number hyphen
  obtain ⟨blanks, split⟩ := exists_trimStart text
  rw [split]
  have shaped : DateShaped (Text.trimStart text) := by
    unfold year at reads
    split at reads
    · rename_i signed sign
      have shaped := (number (fun _ => rfl) reads).within ['-'] []
      rwa [List.append_nil, List.singleton_append, ← sign] at shaped
    · rename_i signed sign
      have shaped := (number (fun _ => rfl) reads).within ['+'] []
      rwa [List.append_nil, List.singleton_append, ← sign] at shaped
    · exact number (fun _ => rfl) reads
  have whole := shaped.within blanks []
  rwa [List.append_nil] at whole

private theorem dateShaped_of_civil {date : ℤ × ℕ × ℕ} (reads : civil text = some (date, rest)) :
    DateShaped text := by
  unfold civil at reads
  obtain ⟨⟨y, middle⟩, first, reads⟩ := Option.bind_eq_some_iff.mp reads
  obtain ⟨⟨c, behind⟩, hyphen, -⟩ := Option.bind_eq_some_iff.mp reads
  exact dateShaped_of_year first hyphen

end Reader

namespace Timestamp

variable {time : Timestamp}

private theorem dateShaped_of_readClock? {between : Reader Unit} {seconds : Reader (ℕ × ℕ)}
    (reads : readClock? between seconds text = some time) : DateShaped text := by
  unfold readClock? at reads
  obtain ⟨⟨date, rest⟩, first, -⟩ := Option.bind_eq_some_iff.mp reads
  exact Reader.dateShaped_of_civil first

private theorem dateShaped_of_readOffset? (reads : readOffset? text = some time) :
    DateShaped text := by
  unfold readOffset? at reads
  obtain ⟨⟨y, middle⟩, first, reads⟩ := Option.bind_eq_some_iff.mp reads
  obtain ⟨⟨c, behind⟩, hyphen, -⟩ := Option.bind_eq_some_iff.mp reads
  exact Reader.dateShaped_of_digits four_pos first hyphen

private theorem dateShaped_of_readDay? (reads : readDay? text = some time) : DateShaped text := by
  unfold readDay? at reads
  obtain ⟨⟨⟨y, m, d⟩, rest⟩, first, -⟩ := Option.bind_eq_some_iff.mp reads
  exact Reader.dateShaped_of_civil first

/-- A text that is read as a point in time has the shape of a date. -/
theorem dateShaped_of_read? (reads : read? text = some time) : DateShaped text := by
  have trimmed : DateShaped (Text.trim text) := by
    unfold read? at reads
    simp only [Option.orElse_eq_orElse, Option.orElse_eq_or, Option.or_eq_some_iff] at reads
    rcases reads with reads | ⟨-, reads | ⟨-, reads | ⟨-, reads | ⟨-, reads⟩⟩⟩⟩
    · exact dateShaped_of_readClock? reads
    · exact dateShaped_of_readClock? reads
    · exact dateShaped_of_readClock? reads
    · exact dateShaped_of_readOffset? reads
    · exact dateShaped_of_readDay? reads
  obtain ⟨before, start⟩ := Reader.exists_trimStart text
  obtain ⟨after, stop⟩ := Reader.exists_trimStart (Text.trimStart text).reverse
  have whole : text = before ++ (Text.trim text ++ after.reverse) := by
    have turned := congrArg List.reverse stop
    rw [List.reverse_reverse, List.reverse_append] at turned
    change text = before ++ ((Text.trimStart (Text.trimStart text).reverse).reverse ++ _)
    rw [← turned, ← start]
  rw [whole]
  exact trimmed.within before after.reverse

end Timestamp

end Calendar

/-! ## Flags -/

/-- The word in every mixture of small and capital letters. -/
def casings : List Char → List (List Char)
  | [] => [[]]
  | c :: rest => (casings rest).flatMap fun tail => [c :: tail, c.toUpper :: tail]

/-- The words for booleans, in small letters. -/
def flagWords : List (String × Bool) :=
  [("true", true), ("t", true), ("yes", true), ("y", true), ("1", true),
    ("false", false), ("f", false), ("no", false), ("n", false), ("0", false)]

/-- The boolean that a word means in any case. -/
def flagOf? (word : String) : Option Bool :=
  (flagWords.find? fun entry => (casings entry.1.toList).contains word.toList).map (·.2)

/-- A word that a cell takes for a boolean or an integer is read like a text, and so is one that is
no number. -/
theorem flag?_ofField {word : List Char}
    (plain : word ∈ ["true", "false", "1", "0"].map String.toList ∨
      readSigned? (-Nat.pow 2 63) (Nat.pow 2 63 - 1) word = none ∧ readFloat? word = none) :
    (Cell.ofField word).flag? = readFlag? word := by
  by_cases typed : word ∈ ["true", "false", "1", "0"].map String.toList
  · simp only [List.map_cons, List.map_nil, List.mem_cons, List.not_mem_nil, or_false] at typed
    rcases typed with rfl | rfl | rfl | rfl <;> decide
  · obtain ⟨noInteger, noNumber⟩ := plain.resolve_left typed
    rw [ofField_eq_text _ _ noInteger noNumber]
    · rw [Cell.flag?, String.toList_ofList]
    · rintro rfl
      exact typed (by decide)
    · rintro rfl
      exact typed (by decide)

private theorem casings_lower : ∀ entry ∈ flagWords, ∀ word ∈ casings entry.1.toList,
    Text.lower (Text.trim word) = Text.lower (Text.trim entry.1.toList) := by
  decide +kernel

private theorem casings_plain : ∀ entry ∈ flagWords, ∀ word ∈ casings entry.1.toList,
    word ∈ ["true", "false", "1", "0"].map String.toList ∨
      readSigned? (-Nat.pow 2 63) (Nat.pow 2 63 - 1) word = none ∧ readFloat? word = none := by
  decide +kernel

private theorem flagWords_read : ∀ entry ∈ flagWords,
    readFlag? entry.1.toList = some (some entry.2) := by
  decide +kernel

/-- A word for a boolean is read as it is meant, from a cell and from a text. -/
theorem flag_spec {word : String} {flag : Bool} (means : flagOf? word = some flag) :
    word.toList ≠ [] ∧ (Cell.ofField word.toList).flag? = some (some flag) ∧
      readFlag? word.toList = some (some flag) := by
  obtain ⟨entry, found, rfl⟩ := Option.map_eq_some_iff.mp means
  have known := List.mem_of_find?_eq_some found
  have own : word.toList ∈ casings entry.1.toList := by simpa using List.find?_some found
  have read : readFlag? word.toList = some (some entry.2) := by
    rw [← flagWords_read entry known]
    unfold readFlag?
    rw [casings_lower entry known _ own]
  refine ⟨?_, (flag?_ofField (casings_plain entry known _ own)).trans read, read⟩
  intro empty
  rw [empty] at read
  nomatch read

end SentimentTree
