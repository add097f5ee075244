import SentimentTree.Json.Token

/-! # Reading JSON

Tokens are put together by a machine with a stack of open arrays and objects, so documents of any
depth are read without recursion on depth.
-/

namespace SentimentTree

/-- An array or object that is still open; contents are kept last first. -/
inductive JsonFrame
  | array (items : List Json)
  | object (members : List (Option String × Json))
  /-- An object whose last key waits for its value. -/
  | member (members : List (Option String × Json)) (key : Option String)

/-- What may come next. -/
inductive JsonExpect
  | value
  | valueOrClose
  | keyOrClose
  | key
  | colon (key : Option String)
  | commaOrClose
  | nothing (document : Json)

/-- The open frames, innermost first, and what may come next. -/
structure JsonMachine where
  frames : List JsonFrame := []
  expect : JsonExpect := .value

namespace JsonMachine

def complete? (value : Json) : List JsonFrame → Option JsonMachine
  | [] => some ⟨[], .nothing value⟩
  | .array items :: outer => some ⟨.array (value :: items) :: outer, .commaOrClose⟩
  | .member members key :: outer =>
    some ⟨.object ((key, value) :: members) :: outer, .commaOrClose⟩
  | .object _ :: _ => none

def value? (frames : List JsonFrame) : JsonToken → Option JsonMachine
  | .null => complete? .null frames
  | .bool value => complete? (.bool value) frames
  | .number literal => complete? (.number literal) frames
  | .string text => complete? (.string text) frames
  | .openArray => some ⟨.array [] :: frames, .valueOrClose⟩
  | .openObject => some ⟨.object [] :: frames, .keyOrClose⟩
  | _ => none

def step? (machine : JsonMachine) (token : JsonToken) : Option JsonMachine :=
  match machine.expect, token, machine.frames with
  | .valueOrClose, .closeArray, .array items :: outer => complete? (.array items.reverse) outer
  | .valueOrClose, token, frames => value? frames token
  | .value, token, frames => value? frames token
  | .keyOrClose, .closeObject, .object members :: outer =>
    complete? (.object members.reverse) outer
  | .keyOrClose, .string key, frames => some ⟨frames, .colon key⟩
  | .key, .string key, frames => some ⟨frames, .colon key⟩
  | .colon key, .colon, .object members :: outer => some ⟨.member members key :: outer, .value⟩
  | .commaOrClose, .comma, .array items :: outer => some ⟨.array items :: outer, .value⟩
  | .commaOrClose, .comma, .object members :: outer => some ⟨.object members :: outer, .key⟩
  | .commaOrClose, .closeArray, .array items :: outer => complete? (.array items.reverse) outer
  | .commaOrClose, .closeObject, .object members :: outer =>
    complete? (.object members.reverse) outer
  | _, _, _ => none

def run? (machine : JsonMachine) (tokens : List JsonToken) : Option JsonMachine :=
  tokens.foldlM step? machine

end JsonMachine

namespace Json

def ofTokens? (tokens : List JsonToken) : Option Json :=
  match JsonMachine.run? {} tokens with
  | some ⟨_, .nothing document⟩ => some document
  | _ => none

def ofGlyphs? (glyphs : List Text.Glyph) : Option Json :=
  (JsonToken.ofGlyphs? glyphs).bind ofTokens?

def parse? (text : List Char) : Option Json := ofGlyphs? (text.map some)

end Json

end SentimentTree
