import SentimentTree.Json.Writer
import SentimentTree.Proofs.Decimal.Literal

/-! # Lexing what is written

Blanks leave no token, a string between quotes is one string token with the same text, escapes
undone, and a number literal or a word is one token if what follows cannot continue it.
-/

namespace SentimentTree

open Text (Glyph)

namespace JsonLexer

/-- The tokens at the end of more glyphs. -/
def tokens? (lexer : JsonLexer) (glyphs : List Glyph) : Option (List JsonToken) :=
  (run? lexer glyphs).bind finish?

theorem tokens?_cons (lexer : JsonLexer) (glyph : Glyph) (glyphs : List Glyph) :
    lexer.tokens? (glyph :: glyphs) = (step? lexer glyph).bind (·.tokens? glyphs) := by
  unfold tokens? run?
  rw [List.foldlM_cons]
  cases step? lexer glyph <;> rfl

variable {found : List JsonToken} {rest : List Glyph}

/-! ## Blanks -/

theorem tokens?_newLine (level : ℕ) (found : List JsonToken) (rest : List Glyph) :
    tokens? ⟨.between, found⟩ ((Json.newLine level).map some ++ rest) =
      tokens? ⟨.between, found⟩ rest := by
  have blanks : ∀ count, tokens? ⟨.between, found⟩
      ((List.replicate count ' ').map some ++ rest) = tokens? ⟨.between, found⟩ rest := by
    intro count
    induction count with
    | zero => rfl
    | succ count ih =>
      rw [List.replicate_succ, List.map_cons, List.cons_append, tokens?_cons]
      exact ih
  rw [Json.newLine, List.map_cons, List.cons_append, tokens?_cons]
  exact blanks _

/-! ## Strings -/

/-- Inside a string, with these characters read so far, last first. -/
def inString (read : List Char) (found : List JsonToken) : JsonLexer :=
  ⟨.string { read := some read }, found⟩

private theorem tokens?_string (state : StringState) (found : List JsonToken) (glyph : Glyph)
    (rest : List Glyph) :
    tokens? ⟨.string state, found⟩ (glyph :: rest) =
      (stringStep? found state glyph).bind (·.tokens? rest) := by
  rw [tokens?_cons]
  rfl

private theorem digitValue?_digitChar {n : ℕ} (small : n < 16) :
    Text.digitValue? 16 (Nat.digitChar n) = some n := by
  interval_cases n <;> rfl

private theorem tokens?_code {n : ℕ} (small : n < 0x20) (read : List Char) :
    tokens? (inString read found) (['\\', 'u', '0', '0', Nat.digitChar (n / 16),
      Nat.digitChar (n % 16)].map some ++ rest) =
      tokens? (inString (Char.ofNat n :: read) found) rest := by
  change tokens? ⟨.string { read := some read, escape := .code 2 0 }, found⟩
    (some (Nat.digitChar (n / 16)) :: some (Nat.digitChar (n % 16)) :: rest) = _
  have high : stringStep? found { read := some read, escape := .code 2 0 }
      (some (Nat.digitChar (n / 16))) =
        some ⟨.string { read := some read, escape := .code 3 (n / 16) }, found⟩ := by
    simp [stringStep?, digitValue?_digitChar (show n / 16 < 16 by omega)]
  have low : stringStep? found { read := some read, escape := .code 3 (n / 16) }
      (some (Nat.digitChar (n % 16))) = some (inString (Char.ofNat n :: read) found) := by
    simp only [stringStep?, digitValue?_digitChar (show n % 16 < 16 by omega), Option.map_some,
      Nat.div_add_mod', if_true, StringState.pushUnit]
    rw [if_neg (by omega), if_neg (by omega)]
    rfl
  rw [tokens?_string, high, Option.bind_some, tokens?_string, low, Option.bind_some]

/-- An escaped character is read as itself. -/
theorem tokens?_escapeChar (c : Char) (read : List Char) :
    tokens? (inString read found) ((Json.escapeChar c).map some ++ rest) =
      tokens? (inString (c :: read) found) rest := by
  unfold Json.escapeChar
  split_ifs with quote slash backspace feed line carriage tab control
  · subst quote
    rfl
  · subst slash
    rfl
  · subst backspace
    rfl
  · subst feed
    rfl
  · subst line
    rfl
  · subst carriage
    rfl
  · subst tab
    rfl
  · rw [tokens?_code control, Char.ofNat_toNat]
  · have plain : stringStep? found { read := some read } (some c) =
        some (inString (c :: read) found) := by
      simp only [stringStep?, quote, slash, control, if_false]
      rfl
    change tokens? ⟨.string { read := some read }, found⟩ (some c :: rest) = _
    rw [tokens?_string, plain, Option.bind_some]

private theorem tokens?_flatMap_escapeChar (text read : List Char) :
    tokens? (inString read found) ((text.flatMap Json.escapeChar).map some ++ rest) =
      tokens? (inString (text.reverse ++ read) found) rest := by
  induction text generalizing read with
  | nil => rfl
  | cons c text ih =>
    rw [List.flatMap_cons, List.map_append, List.append_assoc, tokens?_escapeChar, ih,
      List.reverse_cons, List.append_assoc]
    rfl

/-- A string is one token with its text. -/
theorem tokens?_stringText (text : String) (found : List JsonToken) (rest : List Glyph) :
    tokens? ⟨.between, found⟩ ((Json.stringText (some text)).map some ++ rest) =
      tokens? ⟨.between, .string (some text) :: found⟩ rest := by
  have opened : tokens? ⟨.between, found⟩ ((Json.stringText (some text)).map some ++ rest) =
      tokens? (inString [] found)
        ((text.toList.flatMap Json.escapeChar).map some ++ (some '"' :: rest)) := by
    simp only [Json.stringText, List.map_cons, List.map_append, List.append_assoc,
      List.cons_append, List.map_nil, List.nil_append]
    rw [tokens?_cons]
    rfl
  rw [opened, tokens?_flatMap_escapeChar, List.append_nil, tokens?_cons]
  change tokens? ⟨.between, .string (some (String.ofList text.toList.reverse.reverse)) :: found⟩
    rest = _
  rw [List.reverse_reverse, String.ofList_toList]

/-! ## Number literals -/

private theorem isNumberChar_of_isDigit {c : Char} (digit : Decimal.isDigit c = true) :
    isNumberChar c = true := by
  simp [isNumberChar, digit]

private theorem isNumberChar_of_isExponentPart {text : List Char}
    (exponent : isExponentPart text = true) :
    ∀ c ∈ text, isNumberChar c = true := by
  have digits {rest : List Char} (all : rest.all Decimal.isDigit = true) :
      ∀ c ∈ rest, isNumberChar c = true :=
    fun c member => isNumberChar_of_isDigit (List.all_eq_true.mp all c member)
  unfold isExponentPart at exponent
  split at exponent
  · rename_i mark sign rest
    obtain ⟨marked, signed⟩ := Bool.and_eq_true_iff.mp exponent
    have first : isNumberChar mark = true := by
      rcases Bool.or_eq_true_iff.mp marked with e | e
      · rw [eq_of_beq e]
        rfl
      · rw [eq_of_beq e]
        rfl
    have others : ∀ c ∈ sign :: rest, isNumberChar c = true := by
      split at signed
      · rename_i either
        refine List.forall_mem_cons.mpr ⟨?_, digits (Bool.and_eq_true_iff.mp signed).2⟩
        rcases Bool.or_eq_true_iff.mp either with plus | minus
        · rw [eq_of_beq plus]
          rfl
        · rw [eq_of_beq minus]
          rfl
      · exact digits signed
    exact List.forall_mem_cons.mpr ⟨first, others⟩
  · nomatch exponent

/-- What may follow the whole part of a literal: a fraction, an exponent, both or neither. -/
private theorem isNumberChar_of_tail {rest : List Char} (tail : (match rest with
      | [] => true
      | '.' :: after =>
        !(after.takeWhile Decimal.isDigit).isEmpty &&
          (let last := after.dropWhile Decimal.isDigit
           last.isEmpty || isExponentPart last)
      | last => isExponentPart last) = true) : ∀ c ∈ rest, isNumberChar c = true := by
  split at tail
  · simp
  · rename_i after
    have last := (Bool.and_eq_true_iff.mp tail).2
    refine List.forall_mem_cons.mpr ⟨rfl, ?_⟩
    rw [← List.takeWhile_append_dropWhile (p := Decimal.isDigit) (l := after)]
    intro c member
    rcases List.mem_append.mp member with digit | member
    · exact isNumberChar_of_isDigit (List.mem_takeWhile_imp digit)
    · rcases Bool.or_eq_true_iff.mp last with none | exponent
      · rw [List.isEmpty_iff.mp none] at member
        nomatch member
      · exact isNumberChar_of_isExponentPart exponent c member
  · exact isNumberChar_of_isExponentPart tail

/-- A literal starts with a digit or a minus sign and has only characters of numbers. -/
private theorem exists_cons_of_isNumberLiteral {literal : List Char}
    (valid : isNumberLiteral literal = true) :
    ∃ c more, literal = c :: more ∧ (c = '-' ∨ Decimal.isDigit c = true) ∧
      ∀ d ∈ literal, isNumberChar d = true := by
  have characters {body : List Char} (tail : ∀ d ∈ body.dropWhile Decimal.isDigit,
      isNumberChar d = true) : ∀ d ∈ body, isNumberChar d = true := by
    intro d member
    rw [← List.takeWhile_append_dropWhile (p := Decimal.isDigit) (l := body)] at member
    rcases List.mem_append.mp member with digit | member
    · exact isNumberChar_of_isDigit (List.mem_takeWhile_imp digit)
    · exact tail d member
  unfold isNumberLiteral at valid
  split at valid
  · rename_i body
    have tail := isNumberChar_of_tail (Bool.and_eq_true_iff.mp valid).2
    exact ⟨'-', body, rfl, .inl rfl, List.forall_mem_cons.mpr ⟨rfl, characters tail⟩⟩
  · obtain ⟨whole, tail⟩ := Bool.and_eq_true_iff.mp valid
    cases literal with
    | nil => nomatch whole
    | cons c more =>
      refine ⟨c, more, rfl, .inr ?_, characters (isNumberChar_of_tail tail)⟩
      by_contra other
      rw [List.takeWhile_cons_of_neg other] at whole
      nomatch whole

/-! ## Words and numbers -/

/-- The glyphs cannot continue a word or a number. -/
def Stops (glyphs : List Glyph) : Prop :=
  ∀ glyph ∈ glyphs.head?, ∃ c, glyph = some c ∧ isNumberChar c = false ∧ ¬('a' ≤ c ∧ c ≤ 'z')

/-- A finished word is a token. -/
theorem tokens?_word {letters : List Char} {token : JsonToken}
    (known : wordToken? letters.reverse = some token) (stops : Stops rest) :
    tokens? ⟨.word letters, found⟩ rest = tokens? ⟨.between, token :: found⟩ rest := by
  cases rest with
  | nil => simp [tokens?, run?, finish?, known]
  | cons glyph rest =>
    obtain ⟨c, rfl, -, apart⟩ := stops glyph rfl
    have next : step? ⟨.word letters, found⟩ (some c) = startToken? (token :: found) (some c) := by
      simp only [step?, if_neg apart, known]
      rfl
    rw [tokens?_cons, next, tokens?_cons]
    rfl

private theorem tokens?_digits {text : List Char} (all : ∀ c ∈ text, isNumberChar c = true)
    (read : List Char) :
    tokens? ⟨.number read, found⟩ (text.map some ++ rest) =
      tokens? ⟨.number (text.reverse ++ read), found⟩ rest := by
  induction text generalizing read with
  | nil => rfl
  | cons c text ih =>
    obtain ⟨first, others⟩ := List.forall_mem_cons.mp all
    have next : step? ⟨.number read, found⟩ (some c) = some ⟨.number (c :: read), found⟩ := by
      simp only [step?, first, if_true]
    rw [List.map_cons, List.cons_append, tokens?_cons, next, Option.bind_some, ih others,
      List.reverse_cons, List.append_assoc]
    rfl

/-- A number is one token. -/
theorem tokens?_number {literal : List Char} (valid : isNumberLiteral literal = true)
    (stops : Stops rest) :
    tokens? ⟨.between, found⟩ (literal.map some ++ rest) =
      tokens? ⟨.between, .number literal :: found⟩ rest := by
  obtain ⟨c, more, rfl, start, all⟩ := exists_cons_of_isNumberLiteral valid
  have first : startToken? found (some c) = some ⟨.number [c], found⟩ := by
    rcases start with rfl | digit
    · rfl
    · obtain ⟨n, small, rfl⟩ := Decimal.exists_digitChar digit
      interval_cases n <;> rfl
  have finished : tokens? ⟨.number (c :: more).reverse, found⟩ rest =
      tokens? ⟨.between, .number (c :: more) :: found⟩ rest := by
    cases rest with
    | nil =>
      change finish? ⟨.number (c :: more).reverse, found⟩ = some _
      simp only [finish?, List.reverse_reverse, valid, if_true]
    | cons glyph rest =>
      obtain ⟨d, rfl, apart, -⟩ := stops glyph rfl
      have next : step? ⟨.number (c :: more).reverse, found⟩ (some d) =
          startToken? (.number (c :: more) :: found) (some d) := by
        simp only [step?, apart, List.reverse_reverse, valid]
        rfl
      rw [tokens?_cons, next, tokens?_cons]
      rfl
  rw [← finished, List.map_cons, List.cons_append, tokens?_cons]
  change (startToken? found (some c)).bind _ = _
  rw [first, Option.bind_some, tokens?_digits (List.forall_mem_cons.mp all).2, List.reverse_cons]

end JsonLexer

end SentimentTree
