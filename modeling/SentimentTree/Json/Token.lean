import SentimentTree.Json.Value
import SentimentTree.Text.Glyph
import SentimentTree.Text.Radix

/-! # JSON tokens

The lexical level of JSON: glyphs grouped into marks, words, numbers and strings. The lexer is a
fold of one step over the glyphs; its state holds what the current token has read so far.
-/

namespace SentimentTree

open Text (Glyph)

/-- A lexical unit. -/
inductive JsonToken
  | openArray | closeArray | openObject | closeObject | comma | colon
  | null
  | bool (value : Bool)
  | number (literal : List Char)
  | string (text : Option String)

/-- Where a string is with respect to a backslash. -/
inductive EscapeState
  | plain
  | slash
  /-- Inside `\uXXXX`, with the digits read so far. -/
  | code (digits value : Nat)

/-- The inside of a string that is being read. -/
structure StringState where
  /-- The characters so far, last first; nothing once the string is no text. -/
  read : Option (List Char) := some []
  /-- The first half of a surrogate pair that waits for the second. -/
  high : Option Nat := none
  escape : EscapeState := .plain

/-- What the lexer is in the middle of. -/
inductive LexState
  | between
  /-- Small letters, last first. -/
  | word (letters : List Char)
  /-- Characters of a number, last first. -/
  | number (characters : List Char)
  | string (state : StringState)

namespace StringState

/-- The string with one more glyph; a glyph after half a surrogate pair spoils the text. -/
def push (state : StringState) (glyph : Glyph) : StringState :=
  { read := match state.high, state.read, glyph with
      | none, some read, some c => some (c :: read)
      | _, _, _ => none }

/-- The string with one more code unit of sixteen bits. -/
def pushUnit (state : StringState) (unit : Nat) : StringState :=
  match state.high with
  | some high =>
    if 0xDC00 ≤ unit ∧ unit < 0xE000 then
      let point := 0x10000 + (high - 0xD800) * 1024 + (unit - 0xDC00)
      { read := state.read.map (Char.ofNat point :: ·) }
    else { read := none }
  | none =>
    if 0xD800 ≤ unit ∧ unit < 0xDC00 then { read := state.read, high := some unit }
    else if 0xDC00 ≤ unit ∧ unit < 0xE000 then { read := none }
    else state.push (some (Char.ofNat unit))

def text (state : StringState) : Option String :=
  match state.high with
  | none => state.read.map fun read => String.ofList read.reverse
  | some _ => none

end StringState

/-- The character that a letter after a backslash stands for. -/
def escapedChar? (c : Char) : Option Char :=
  if c = '"' ∨ c = '\\' ∨ c = '/' then some c
  else if c = 'b' then some '\x08'
  else if c = 'f' then some '\x0c'
  else if c = 'n' then some '\n'
  else if c = 'r' then some '\r'
  else if c = 't' then some '\t'
  else none

def isNumberChar (c : Char) : Bool :=
  Decimal.isDigit c || c == '-' || c == '+' || c == '.' || c == 'e' || c == 'E'

/-- Whether the text is digits without a needless zero in front. -/
def isWholePart (text : List Char) : Bool :=
  match text with
  | ['0'] => true
  | c :: _ => c != '0' && text.all Decimal.isDigit
  | [] => false

/-- Whether the text is an exponent mark with an optional sign and digits. -/
def isExponentPart (text : List Char) : Bool :=
  match text with
  | mark :: sign :: rest =>
    (mark == 'e' || mark == 'E') &&
      (if sign == '+' || sign == '-' then !rest.isEmpty && rest.all Decimal.isDigit
       else (sign :: rest).all Decimal.isDigit)
  | _ => false

def isNumberLiteral (text : List Char) : Bool :=
  let body := match text with
    | '-' :: body => body
    | body => body
  let whole := body.takeWhile Decimal.isDigit
  let rest := body.dropWhile Decimal.isDigit
  isWholePart whole &&
    match rest with
    | [] => true
    | '.' :: after =>
      !(after.takeWhile Decimal.isDigit).isEmpty &&
        (let last := after.dropWhile Decimal.isDigit
         last.isEmpty || isExponentPart last)
    | last => isExponentPart last

def wordToken? (word : List Char) : Option JsonToken :=
  if word = ['n', 'u', 'l', 'l'] then some .null
  else if word = ['t', 'r', 'u', 'e'] then some (.bool true)
  else if word = ['f', 'a', 'l', 's', 'e'] then some (.bool false)
  else none

/-- The state and the tokens found so far, last first. -/
structure JsonLexer where
  state : LexState := .between
  found : List JsonToken := []

namespace JsonLexer

def startToken? (found : List JsonToken) : Glyph → Option JsonLexer
  | none => none
  | some c =>
    if c = ' ' ∨ c = '\n' ∨ c = '\t' ∨ c = '\r' then some ⟨.between, found⟩
    else if c = '[' then some ⟨.between, .openArray :: found⟩
    else if c = ']' then some ⟨.between, .closeArray :: found⟩
    else if c = '\x7b' then some ⟨.between, .openObject :: found⟩
    else if c = '\x7d' then some ⟨.between, .closeObject :: found⟩
    else if c = ',' then some ⟨.between, .comma :: found⟩
    else if c = ':' then some ⟨.between, .colon :: found⟩
    else if c = '"' then some ⟨.string {}, found⟩
    else if 'a' ≤ c ∧ c ≤ 'z' then some ⟨.word [c], found⟩
    else if c = '-' ∨ Decimal.isDigit c then some ⟨.number [c], found⟩
    else none

/-- The string after one more glyph; the closing quote ends it. -/
def stringStep? (found : List JsonToken) (state : StringState) (glyph : Glyph) :
    Option JsonLexer :=
  match state.escape, glyph with
  | .plain, none => some ⟨.string (state.push none), found⟩
  | .plain, some c =>
    if c = '"' then some ⟨.between, .string state.text :: found⟩
    else if c = '\\' then some ⟨.string { state with escape := .slash }, found⟩
    else if c.toNat < 0x20 then none
    else some ⟨.string (state.push (some c)), found⟩
  | .slash, some c =>
    if c = 'u' then some ⟨.string { state with escape := .code 0 0 }, found⟩
    else (escapedChar? c).map fun meant => ⟨.string (state.push (some meant)), found⟩
  | .code digits value, some c =>
    (Text.digitValue? 16 c).map fun digit =>
      let value := value * 16 + digit
      if digits = 3 then ⟨.string (state.pushUnit value), found⟩
      else ⟨.string { state with escape := .code (digits + 1) value }, found⟩
  | _, none => none

def step? (lexer : JsonLexer) (glyph : Glyph) : Option JsonLexer :=
  match lexer.state, glyph with
  | .between, _ => startToken? lexer.found glyph
  | .string state, _ => stringStep? lexer.found state glyph
  | .word letters, some c =>
    if 'a' ≤ c ∧ c ≤ 'z' then some ⟨.word (c :: letters), lexer.found⟩
    else do startToken? ((← wordToken? letters.reverse) :: lexer.found) glyph
  | .number read, some c =>
    if isNumberChar c then some ⟨.number (c :: read), lexer.found⟩
    else if isNumberLiteral read.reverse then
      startToken? (.number read.reverse :: lexer.found) glyph
    else none
  | _, none => none

/-- The tokens at the end of the glyphs, in order. -/
def finish? (lexer : JsonLexer) : Option (List JsonToken) :=
  match lexer.state with
  | .between => some lexer.found.reverse
  | .word letters => (wordToken? letters.reverse).map fun token => (token :: lexer.found).reverse
  | .number read =>
    if isNumberLiteral read.reverse then some (JsonToken.number read.reverse :: lexer.found).reverse
    else none
  | .string _ => none

def run? (lexer : JsonLexer) (glyphs : List Glyph) : Option JsonLexer :=
  glyphs.foldlM step? lexer

end JsonLexer

def JsonToken.ofGlyphs? (glyphs : List Glyph) : Option (List JsonToken) :=
  (JsonLexer.run? {} glyphs).bind JsonLexer.finish?

end SentimentTree
