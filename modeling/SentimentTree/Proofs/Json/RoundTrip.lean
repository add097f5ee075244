import SentimentTree.Json.Reader
import SentimentTree.Proofs.Json.Lexing

/-! # What is written reads back

Values with number literals for numbers and text for strings and keys (`Json.Writable`) are read
from their indented text as they were: the lexer finds the value's tokens, and the machine puts the
tokens of a value together to the value, whatever is open around it.
-/

namespace SentimentTree

open Text (Glyph)
open JsonLexer (tokens? Stops)

namespace Json

/-- A value with number literals for numbers, in which all strings and keys are text. -/
inductive Writable : Json → Prop
  | null : Writable .null
  | bool (value : Bool) : Writable (.bool value)
  | number {literal : List Char} (valid : isNumberLiteral literal = true) :
    Writable (.number literal)
  | string (text : String) : Writable (.string (some text))
  | array {items : List Json} (each : ∀ item ∈ items, Writable item) : Writable (.array items)
  | object {members : List (Option String × Json)}
    (keys : ∀ member ∈ members, member.1.isSome = true)
    (each : ∀ member ∈ members, Writable member.2) : Writable (.object members)

mutual

def tokens : Json → List JsonToken
  | .null => [.null]
  | .bool value => [.bool value]
  | .number literal => [.number literal]
  | .string text => [.string text]
  | .array [] => [.openArray, .closeArray]
  | .array (item :: rest) => .openArray :: item.tokens ++ laterItems rest ++ [.closeArray]
  | .object [] => [.openObject, .closeObject]
  | .object ((key, value) :: rest) =>
    .openObject :: .string key :: .colon :: value.tokens ++ laterMembers rest ++ [.closeObject]

/-- The tokens of the items after the first, each with its comma. -/
def laterItems : List Json → List JsonToken
  | [] => []
  | item :: rest => .comma :: item.tokens ++ laterItems rest

/-- The tokens of the members after the first, each with its comma. -/
def laterMembers : List (Option String × Json) → List JsonToken
  | [] => []
  | (key, value) :: rest => .comma :: .string key :: .colon :: value.tokens ++ laterMembers rest

end

/-! ## Lexing -/

/-- The lexer finds the value's tokens in its text, at any level of indentation and in front of
anything that cannot continue a word or a number. -/
def LexedAtAnyLevel (value : Json) : Prop :=
  ∀ (level : ℕ) (found : List JsonToken) (rest : List Glyph), Stops rest →
    tokens? ⟨.between, found⟩ ((value.prettyAt level).map some ++ rest) =
      tokens? ⟨.between, value.tokens.reverse ++ found⟩ rest

theorem stops_newLine (level : ℕ) (glyphs : List Glyph) :
    Stops ((newLine level).map some ++ glyphs) := by
  intro glyph member
  obtain rfl := Option.some.inj member
  exact ⟨'\n', rfl, rfl, by decide⟩

theorem stops_comma (glyphs : List Glyph) : Stops (some ',' :: glyphs) := by
  intro glyph member
  obtain rfl := Option.some.inj member
  exact ⟨',', rfl, rfl, by decide⟩

private theorem tokens?_mark {c : Char} {token : JsonToken} {found : List JsonToken}
    (mark : JsonLexer.startToken? found (some c) = some ⟨.between, token :: found⟩)
    (glyphs : List Glyph) :
    tokens? ⟨.between, found⟩ (some c :: glyphs) = tokens? ⟨.between, token :: found⟩ glyphs := by
  rw [JsonLexer.tokens?_cons]
  exact congrArg (Option.bind · _) mark

theorem lexed_items (level : ℕ) {item : Json} {rest : List Json}
    (each : ∀ member ∈ item :: rest, LexedAtAnyLevel member) (found : List JsonToken)
    {glyphs : List Glyph} (stops : Stops glyphs) :
    tokens? ⟨.between, found⟩ ((prettyItems level (item :: rest)).map some ++ glyphs) =
      tokens? ⟨.between, (item.tokens ++ laterItems rest).reverse ++ found⟩ glyphs := by
  induction rest generalizing item found with
  | nil =>
    obtain ⟨first, -⟩ := List.forall_mem_cons.mp each
    rw [prettyItems, List.map_append, List.append_assoc, JsonLexer.tokens?_newLine,
      first level found glyphs stops, laterItems, List.append_nil]
  | cons next rest ih =>
    obtain ⟨first, others⟩ := List.forall_mem_cons.mp each
    have shape : prettyItems level (item :: next :: rest) =
        newLine level ++ (prettyAt level item ++ ',' :: prettyItems level (next :: rest)) := by
      rw [prettyItems, List.append_assoc]
      simp
    rw [shape]
    simp only [List.map_append, List.append_assoc, List.map_cons, List.cons_append]
    rw [JsonLexer.tokens?_newLine, first level found _ (stops_comma _), tokens?_mark rfl,
      ih others, laterItems]
    simp

private theorem lexed_member (level : ℕ) (name : String) {value : Json}
    (lexed : LexedAtAnyLevel value) (found : List JsonToken) {glyphs : List Glyph}
    (stops : Stops glyphs) :
    tokens? ⟨.between, found⟩ ((prettyMembers level [(some name, value)]).map some ++ glyphs) =
      tokens? ⟨.between, (.string (some name) :: .colon :: value.tokens).reverse ++ found⟩
        glyphs := by
  have blank (found : List JsonToken) (glyphs : List Glyph) :
      tokens? ⟨.between, found⟩ (some ' ' :: glyphs) = tokens? ⟨.between, found⟩ glyphs :=
    JsonLexer.tokens?_cons _ _ _
  rw [prettyMembers]
  simp only [List.map_append, List.append_assoc, List.map_cons, List.cons_append]
  rw [JsonLexer.tokens?_newLine, JsonLexer.tokens?_stringText, tokens?_mark rfl, blank,
    lexed level _ glyphs stops]
  simp

theorem lexed_members (level : ℕ) {key : Option String} {value : Json}
    {rest : List (Option String × Json)}
    (keys : ∀ member ∈ (key, value) :: rest, member.1.isSome = true)
    (each : ∀ member ∈ (key, value) :: rest, LexedAtAnyLevel member.2) (found : List JsonToken)
    {glyphs : List Glyph} (stops : Stops glyphs) :
    tokens? ⟨.between, found⟩ ((prettyMembers level ((key, value) :: rest)).map some ++ glyphs) =
      tokens? ⟨.between, (.string key :: .colon :: value.tokens ++ laterMembers rest).reverse ++
        found⟩ glyphs := by
  induction rest generalizing key value found with
  | nil =>
    obtain ⟨first, -⟩ := List.forall_mem_cons.mp each
    obtain ⟨named, -⟩ := List.forall_mem_cons.mp keys
    obtain ⟨name, rfl⟩ := Option.isSome_iff_exists.mp named
    rw [lexed_member level name first found stops, laterMembers, List.append_nil]
  | cons next rest ih =>
    obtain ⟨first, others⟩ := List.forall_mem_cons.mp each
    obtain ⟨named, namedOthers⟩ := List.forall_mem_cons.mp keys
    obtain ⟨name, rfl⟩ := Option.isSome_iff_exists.mp named
    obtain ⟨key', value'⟩ := next
    have shape : prettyMembers level ((some name, value) :: (key', value') :: rest) =
        prettyMembers level [(some name, value)] ++
          ',' :: prettyMembers level ((key', value') :: rest) := by
      rw [prettyMembers, prettyMembers]
      simp
    rw [shape, List.map_append, List.map_cons, List.append_assoc, List.cons_append,
      lexed_member level name first found (stops_comma _), tokens?_mark rfl,
      ih namedOthers others, laterMembers]
    simp

/-- The lexer finds the tokens of a value in its text. -/
theorem Writable.lexed {value : Json} (writable : value.Writable) : LexedAtAnyLevel value := by
  induction writable with
  | null =>
    intro level found rest stops
    exact JsonLexer.tokens?_word rfl stops
  | bool value =>
    intro level found rest stops
    cases value with
    | false => exact JsonLexer.tokens?_word rfl stops
    | true => exact JsonLexer.tokens?_word rfl stops
  | number valid =>
    intro level found rest stops
    exact JsonLexer.tokens?_number valid stops
  | string text =>
    intro level found rest _
    exact JsonLexer.tokens?_stringText text found rest
  | @array items _ ih =>
    intro level found rest _
    cases items with
    | nil =>
      change tokens? ⟨.between, found⟩ (some '[' :: some ']' :: rest) = _
      rw [tokens?_mark rfl, tokens?_mark rfl]
      rfl
    | cons item more =>
      rw [prettyAt, tokens]
      simp only [List.map_append, List.append_assoc, List.map_cons, List.cons_append]
      rw [tokens?_mark rfl, lexed_items (level + 1) ih _ (stops_newLine level _),
        JsonLexer.tokens?_newLine, List.map_nil, List.nil_append, tokens?_mark rfl]
      simp
  | @object members keys _ ih =>
    intro level found rest _
    cases members with
    | nil =>
      change tokens? ⟨.between, found⟩ (some '\x7b' :: some '\x7d' :: rest) = _
      rw [tokens?_mark rfl, tokens?_mark rfl]
      rfl
    | cons member more =>
      obtain ⟨key, value⟩ := member
      rw [prettyAt, tokens]
      simp only [List.map_append, List.append_assoc, List.map_cons, List.cons_append]
      rw [tokens?_mark rfl, lexed_members (level + 1) keys ih _ (stops_newLine level _),
        JsonLexer.tokens?_newLine, List.map_nil, List.nil_append, tokens?_mark rfl]
      simp

/-! ## Putting tokens together -/

theorem run?_cons (machine : JsonMachine) (token : JsonToken) (rest : List JsonToken) :
    machine.run? (token :: rest) = (machine.step? token).bind (JsonMachine.run? · rest) := by
  unfold JsonMachine.run?
  rw [List.foldlM_cons]
  rfl

/-- The machine puts the value's tokens together to the value, whatever is open around it. -/
def Assembles (value : Json) : Prop :=
  ∀ (frames : List JsonFrame) (expect : JsonExpect) (rest : List JsonToken),
    expect = .value ∨ expect = .valueOrClose →
      JsonMachine.run? ⟨frames, expect⟩ (value.tokens ++ rest) =
        (JsonMachine.complete? value frames).bind (JsonMachine.run? · rest)

private theorem run?_start (token : JsonToken) (starts : token ≠ .closeArray)
    (frames : List JsonFrame) {expect : JsonExpect} (rest : List JsonToken)
    (expects : expect = .value ∨ expect = .valueOrClose) :
    JsonMachine.run? ⟨frames, expect⟩ (token :: rest) =
      (JsonMachine.value? frames token).bind (JsonMachine.run? · rest) := by
  have step : JsonMachine.step? ⟨frames, expect⟩ token = JsonMachine.value? frames token := by
    rcases expects with rfl | rfl <;> cases token <;> first | rfl | exact (starts rfl).elim
  rw [run?_cons, step]

theorem assembles_laterItems {items : List Json} (each : ∀ item ∈ items, Assembles item)
    (done : List Json) (frames : List JsonFrame) (rest : List JsonToken) :
    JsonMachine.run? ⟨.array done :: frames, .commaOrClose⟩
        (laterItems items ++ .closeArray :: rest) =
      (JsonMachine.complete? (.array (done.reverse ++ items)) frames).bind
        (JsonMachine.run? · rest) := by
  induction items generalizing done with
  | nil =>
    rw [laterItems, List.nil_append, run?_cons, List.append_nil]
    rfl
  | cons item items ih =>
    obtain ⟨first, others⟩ := List.forall_mem_cons.mp each
    have comma (rest : List JsonToken) :
        JsonMachine.run? ⟨.array done :: frames, .commaOrClose⟩ (.comma :: rest) =
          JsonMachine.run? ⟨.array done :: frames, .value⟩ rest := run?_cons _ _ _
    have next := ih others (item :: done)
    rw [List.reverse_cons, List.append_assoc] at next
    rw [laterItems, List.cons_append, List.cons_append, comma, List.append_assoc,
      first _ _ _ (.inl rfl)]
    exact next

theorem assembles_laterMembers {members : List (Option String × Json)}
    (each : ∀ member ∈ members, Assembles member.2) (done : List (Option String × Json))
    (frames : List JsonFrame) (rest : List JsonToken) :
    JsonMachine.run? ⟨.object done :: frames, .commaOrClose⟩
        (laterMembers members ++ .closeObject :: rest) =
      (JsonMachine.complete? (.object (done.reverse ++ members)) frames).bind
        (JsonMachine.run? · rest) := by
  induction members generalizing done with
  | nil =>
    rw [laterMembers, List.nil_append, run?_cons, List.append_nil]
    rfl
  | cons member members ih =>
    obtain ⟨key, value⟩ := member
    obtain ⟨first, others⟩ := List.forall_mem_cons.mp each
    have named (rest : List JsonToken) :
        JsonMachine.run? ⟨.object done :: frames, .commaOrClose⟩
            (.comma :: .string key :: .colon :: rest) =
          JsonMachine.run? ⟨.member done key :: frames, .value⟩ rest := by
      rw [run?_cons]
      rfl
    have next := ih others ((key, value) :: done)
    rw [List.reverse_cons, List.append_assoc] at next
    rw [laterMembers]
    simp only [List.cons_append, List.append_assoc]
    rw [named, first _ _ _ (.inl rfl)]
    exact next

/-- The tokens of a value assemble to it. -/
theorem Writable.assembles {value : Json} (writable : value.Writable) : Assembles value := by
  induction writable with
  | null => exact fun frames _ rest => run?_start .null nofun frames rest
  | bool value => exact fun frames _ rest => run?_start (.bool value) nofun frames rest
  | @number literal _ => exact fun frames _ rest => run?_start (.number literal) nofun frames rest
  | string text => exact fun frames _ rest => run?_start (.string text) nofun frames rest
  | @array items _ ih =>
    intro frames expect rest expects
    cases items with
    | nil =>
      change JsonMachine.run? ⟨frames, expect⟩ (.openArray :: .closeArray :: rest) = _
      rw [run?_start .openArray nofun frames _ expects]
      rfl
    | cons item more =>
      obtain ⟨first, others⟩ := List.forall_mem_cons.mp ih
      have later := assembles_laterItems others [item] frames rest
      rw [tokens]
      simp only [List.cons_append, List.append_assoc]
      rw [run?_start .openArray nofun frames _ expects]
      change JsonMachine.run? ⟨.array [] :: frames, .valueOrClose⟩ _ = _
      rw [first _ _ _ (.inr rfl)]
      exact later
  | @object members keys _ ih =>
    intro frames expect rest expects
    cases members with
    | nil =>
      change JsonMachine.run? ⟨frames, expect⟩ (.openObject :: .closeObject :: rest) = _
      rw [run?_start .openObject nofun frames _ expects]
      rfl
    | cons member more =>
      obtain ⟨key, value⟩ := member
      obtain ⟨first, others⟩ := List.forall_mem_cons.mp ih
      have later := assembles_laterMembers others [(key, value)] frames rest
      rw [tokens]
      simp only [List.cons_append, List.append_assoc]
      rw [run?_start .openObject nofun frames _ expects]
      change JsonMachine.run? ⟨.member [] key :: frames, .value⟩ _ = _
      rw [first _ _ _ (.inl rfl)]
      exact later

/-- A value is read from its indented text as it was. -/
theorem Writable.parse?_pretty {value : Json} (writable : value.Writable) :
    parse? value.pretty = some value := by
  have lexed := writable.lexed 0 [] [] nofun
  have assembled := writable.assembles [] .value [] (.inl rfl)
  rw [List.append_nil, List.append_nil] at lexed
  rw [List.append_nil] at assembled
  have found : JsonToken.ofGlyphs? (value.pretty.map some) = some value.tokens := by
    change tokens? {} (value.pretty.map some) = _
    rw [pretty, lexed]
    exact congrArg some (List.reverse_reverse _)
  have built : ofTokens? value.tokens = some value := by
    rw [ofTokens?, assembled]
    rfl
  rw [parse?, ofGlyphs?, found, Option.bind_some, built]

end Json

end SentimentTree
