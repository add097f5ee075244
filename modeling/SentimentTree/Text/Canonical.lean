import SentimentTree.Text.CanonicalTable

/-! # Canonical composition

Texts that mean the same characters have one composed form: characters are taken apart, combining
marks are put in the order of their classes, and what composes is put together again from the left.
-/

namespace SentimentTree.Text

/-- The class that orders a combining mark; 0 for every other character. -/
def combiningClass (code : Nat) : Nat :=
  match combiningRanges.find? fun entry => inRanges entry.2 code with
  | some (order, _) => order
  | none => 0

/-! ## Syllables of Hangul -/

/-- The first syllable; leading consonants, vowels and trailing consonants count up from their
first ones. -/
abbrev firstSyllable : Nat := 0xAC00
abbrev firstLeading : Nat := 0x1100
abbrev firstVowel : Nat := 0x1161
/-- One below the first trailing consonant, so that 0 stands for none. -/
abbrev noTrailing : Nat := 0x11A7
abbrev leadingCount : Nat := 19
abbrev vowelCount : Nat := 21
abbrev trailingCount : Nat := 28

def isSyllable (code : Nat) : Bool :=
  firstSyllable ≤ code && code < firstSyllable + leadingCount * vowelCount * trailingCount

def syllableParts (code : Nat) : List Nat :=
  let index := code - firstSyllable
  let trailing := index % trailingCount
  [firstLeading + index / (vowelCount * trailingCount),
    firstVowel + index / trailingCount % vowelCount] ++
    if trailing = 0 then [] else [noTrailing + trailing]

/-- The syllable of a leading consonant and a vowel, or of such a syllable and a trailing
consonant. -/
def syllable? (first second : Nat) : Option Nat :=
  if firstLeading ≤ first ∧ first < firstLeading + leadingCount ∧
      firstVowel ≤ second ∧ second < firstVowel + vowelCount then
    some (firstSyllable +
      ((first - firstLeading) * vowelCount + (second - firstVowel)) * trailingCount)
  else if isSyllable first ∧ (first - firstSyllable) % trailingCount = 0 ∧
      noTrailing < second ∧ second < noTrailing + trailingCount then
    some (first + (second - noTrailing))
  else none

/-! ## Taking apart -/

def compositionDepth : Nat := 4

/-- The parts of a character, taken apart up to a depth. -/
def partsWithin : Nat → Nat → List Nat
  | 0, code => [code]
  | depth + 1, code =>
    match composedPairs.lookup code with
    | some (first :: rest) => partsWithin depth first ++ rest
    | _ => [code]

/-- A character taken apart in full. -/
def canonicalParts (code : Nat) : List Nat :=
  if code < 0xC0 then [code]
  else if isSyllable code then syllableParts code
  else match replacedCharacters.lookup code with
    | some parts => parts
    | none => partsWithin compositionDepth code

/-- The text, last character first, with a character put behind it: a mark goes before marks of
higher classes. -/
def insertMark (code : Nat) : List Nat → List Nat
  | before :: rest =>
    if 0 < combiningClass code ∧ combiningClass code < combiningClass before then
      before :: insertMark code rest
    else code :: before :: rest
  | [] => [code]

def decompose (codes : List Nat) : List Nat :=
  ((codes.flatMap canonicalParts).foldl (fun before code => insertMark code before) []).reverse

/-! ## Putting together -/

def composition? (first second : Nat) : Option Nat :=
  match syllable? first second with
  | some code => some code
  | none => (composedPairs.find? (·.2 == [first, second])).map (·.1)

/-- A text on the way of being composed. -/
structure Composing where
  /-- What is settled, last character first. -/
  settled : List Nat := []
  /-- The last character that is no mark, to which later ones may be added. -/
  base : Option Nat := none
  /-- The marks behind it that stay by themselves, last first. -/
  marks : List Nat := []

namespace Composing

def codes (state : Composing) : List Nat := state.marks ++ state.base.toList ++ state.settled

/-- Whether the marks behind the base let a character through to it. -/
def reaches (state : Composing) (code : Nat) : Bool :=
  match state.marks with
  | [] => true
  | last :: _ => combiningClass last < combiningClass code

def add (state : Composing) (code : Nat) : Composing :=
  let composed := do
    let base ← state.base
    if state.reaches code then composition? base code else none
  match composed with
  | some code => { state with base := some code }
  | none =>
    if combiningClass code = 0 then { settled := state.codes, base := some code }
    else { state with marks := code :: state.marks }

end Composing

def compose (codes : List Nat) : List Nat :=
  ((decompose codes).foldl Composing.add {}).codes.reverse

end SentimentTree.Text
