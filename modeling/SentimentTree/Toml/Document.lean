import SentimentTree.Toml.Scalar

/-! # TOML documents

Values with arrays and inline tables, nested to a fixed depth, and documents of headers and
key-value lines. The length of the text serves as fuel.
-/

namespace SentimentTree.Toml

/-- A piece of a document. -/
inductive Item
  | pair (path : List String) (key : String) (content : Toml)
  | header (path : List String) (key : String)
  | element (path : List String) (key : String)

def numeric? : Step Toml := fun text =>
  match moment? text with
  | some rest => some (.moment, rest)
  | none =>
    match float? text with
    | some (value, rest) => some (.float value, rest)
    | none => (integer? text).map fun (value, rest) => (.int value, rest)

def scalar? : Step Toml := fun text =>
  match text with
  | '"' :: _ | '\'' :: _ =>
    (string? text).map fun (content, rest) => (.string (String.ofList content), rest)
  | 't' :: _ => (Text.afterPrefix? "true".toList text).map fun rest => (.bool true, rest)
  | 'f' :: _ => (Text.afterPrefix? "false".toList text).map fun rest => (.bool false, rest)
  | _ => numeric? text

mutual

/-- A value of any kind, with so many levels of arrays and inline tables. -/
def value? (depth : Nat) : Nat → Step Toml
  | 0, _ => none
  | fuel + 1, text =>
    match text, depth with
    | '[' :: rest, inner + 1 =>
      (arrayRest? inner fuel rest).map fun (items, rest) => (.array items, rest)
    | '\x7b' :: rest, inner + 1 =>
      match skipBlanks rest with
      | '\x7d' :: rest => some (.table [], rest)
      | rest => do
        let (entries, rest) ← inlineRest? inner fuel [] rest
        pure (.table (TomlNode.entriesToToml entries), rest)
    | text, _ => scalar? text

/-- The items of an array up to its closing bracket; a comma may follow the last one. -/
def arrayRest? (depth : Nat) : Nat → Step (List Toml)
  | 0, _ => none
  | fuel + 1, text =>
    match skipLines text with
    | ']' :: rest => some ([], rest)
    | text => do
      let (item, rest) ← value? depth fuel text
      match skipLines rest with
      | ']' :: rest => pure ([item], rest)
      | ',' :: rest => do
        let (more, rest) ← arrayRest? depth fuel rest
        pure (item :: more, rest)
      | _ => none

/-- The pairs of an inline table up to its closing brace, added to those read so far. -/
def inlineRest? (depth : Nat) : Nat → List (String × TomlNode) → Step (List (String × TomlNode))
  | 0, _, _ => none
  | fuel + 1, entries, text => do
    let ((path, key), rest) ← key? text
    let rest ← mark? '=' rest
    let (content, rest) ← value? depth fuel (skipBlanks rest)
    let entries ← TomlNode.addValue path key content entries
    match skipBlanks rest with
    | '\x7d' :: rest => pure (entries, rest)
    | ',' :: rest => inlineRest? depth fuel entries rest
    | _ => none

end

/-- A header, an array header or a key-value pair at the start of a line. -/
def item? : Step Item := fun text =>
  match text with
  | '[' :: '[' :: rest => do
    let ((path, key), rest) ← key? rest
    let rest ← mark? ']' rest
    let rest ← mark? ']' rest
    pure (.element path key, rest)
  | '[' :: rest => do
    let ((path, key), rest) ← key? rest
    let rest ← mark? ']' rest
    pure (.header path key, rest)
  | _ => do
    let ((path, key), rest) ← key? text
    let rest ← mark? '=' rest
    let rest := skipBlanks rest
    let (content, rest) ← value? (depthLimit - 1) (rest.length + 1) rest
    pure (.pair path key content, rest)

/-- A document under construction: the path of the header in force and all entries. -/
structure Draft where
  header : List String := []
  entries : List (String × TomlNode) := []

def Draft.add (draft : Draft) : Item → Option Draft
  | .header path key =>
    (TomlNode.openTable path key draft.entries).map fun entries => ⟨path ++ [key], entries⟩
  | .element path key =>
    (TomlNode.openElement path key draft.entries).map fun entries => ⟨path ++ [key], entries⟩
  | .pair path key content =>
    (TomlNode.changeAt false (fun _ entries => TomlNode.addValue path key content entries)
      draft.header false draft.entries).map fun entries => ⟨draft.header, entries⟩

/-- The rest of a document, one piece at most to a line. -/
def documentRest? : Nat → Draft → List Char → Option Draft
  | 0, _, _ => none
  | fuel + 1, draft, text =>
    match skipComment (skipBlanks text) with
    | [] => some draft
    | start =>
      match lineEnd? start with
      | some rest => documentRest? fuel draft rest
      | none => do
        let (item, rest) ← item? start
        let draft ← draft.add item
        match skipComment (skipBlanks rest) with
        | [] => pure draft
        | rest => do
          let rest ← lineEnd? rest
          documentRest? fuel draft rest

/-- The entries of a document; a byte order mark may stand in front. -/
def parse? (text : List Char) : Option (List (String × Toml)) :=
  let text := match text with
    | c :: rest => if c.toNat = 0xFEFF then rest else text
    | [] => []
  (documentRest? (text.length + 1) {} text).map fun draft => TomlNode.entriesToToml draft.entries

end SentimentTree.Toml
