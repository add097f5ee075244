import SentimentTree.Text.Lines

/-! # Labels in letters and digits

A label of any script has a form in ASCII: its ASCII characters, a hyphen, and digits in base 36
that say which characters to insert where. The digits of a number come lowest first; how many
there are follows from thresholds that adapt to the numbers so far.
-/

namespace SentimentTree.HostName.Punycode

/-- The largest number that a label may reach. -/
def largest : Nat := 4294967295

/-- The threshold of a digit: one that is smaller ends its number. -/
def threshold (place bias : Nat) : Nat :=
  if place ≤ bias then 1 else if bias + 26 ≤ place then 26 else place - bias

private theorem one_le_threshold (place bias : Nat) : 1 ≤ threshold place bias := by
  unfold threshold
  split
  · omega
  · split <;> omega

/-- Divides a number until it is small, and counts the divisions in steps of 36. -/
def settle (delta place : Nat) : Nat × Nat :=
  if 455 < delta then settle (delta / 35) (place + 36) else (delta, place)
termination_by delta
decreasing_by omega

/-- The bias after a number, given how many characters there are by then. -/
def adapt (delta count : Nat) (isFirst : Bool) : Nat :=
  let halved := if isFirst then delta / 700 else delta / 2
  let (small, place) := settle (halved + halved / count) 0
  place + 36 * small / (small + 38)

/-! ## Reading -/

def digit? (c : Char) : Option Nat :=
  if 'a' ≤ c ∧ c ≤ 'z' then some (c.toNat - 97)
  else if 'A' ≤ c ∧ c ≤ 'Z' then some (c.toNat - 65)
  else if '0' ≤ c ∧ c ≤ '9' then some (c.toNat - 22)
  else none

/-- A label on the way of being read. -/
structure Reading where
  text : List Char
  /-- The code point that is inserted next, less what the current number adds. -/
  code : Nat := 128
  /-- Where it is inserted, with what the current number adds so far. -/
  index : Nat := 0
  bias : Nat := 72
  /-- Where the current number began, and the weight and place of its next digit. -/
  start : Nat := 0
  weight : Nat := 1
  place : Nat := 36

namespace Reading

/-- The label with the character that the current number says, if there is such a character. -/
def insert? (state : Reading) : Option Reading :=
  let count := state.text.length + 1
  let code := state.code + state.index / count
  let index := state.index % count
  if code < 0xD800 ∨ 0xDFFF < code ∧ code < 0x110000 then
    some {
      text := state.text.insertIdx index (Char.ofNat code)
      code := code
      index := index + 1
      bias := adapt (state.index - state.start) count (state.start == 0)
      start := index + 1 }
  else none

def add? (state : Reading) (c : Char) : Option Reading := do
  let digit ← digit? c
  let index := state.index + digit * state.weight
  let limit := threshold state.place state.bias
  if largest < index then none
  else if digit < limit then insert? { state with index := index }
  else
    let weight := state.weight * (36 - limit)
    if largest < weight then none
    else some { state with index := index, weight := weight, place := state.place + 36 }

end Reading

/-- The characters before the last hyphen and the digits after it; a hyphen in front is none. -/
def cut (label : List Char) : List Char × List Char :=
  let digits := (label.reverse.takeWhile (· != '-')).reverse
  let before := label.take (label.length - digits.length - 1)
  if before.isEmpty then ([], label) else (before, digits)

/-- The label whose form in ASCII is given. -/
def decode? (label : List Char) : Option (List Char) := do
  let (kept, digits) := cut label
  let state ← digits.foldlM Reading.add? { text := kept.map Char.toLower }
  if state.place = 36 then some state.text else none

/-! ## Writing -/

def digitChar (value : Nat) : Char :=
  if value < 26 then Char.ofNat (97 + value) else Char.ofNat (22 + value)

def digits (bias place number : Nat) : List Char :=
  let limit := threshold place bias
  if number < limit then [digitChar number]
  else
    digitChar (limit + (number - limit) % (36 - limit)) ::
      digits bias (place + 36) ((number - limit) / (36 - limit))
termination_by number
decreasing_by
  have least := one_le_threshold place bias
  exact Nat.lt_of_le_of_lt (Nat.div_le_self _ _) (by omega)

/-- A label on the way of being written. -/
structure Writing where
  /-- The digits so far, in pieces, last piece first. -/
  pieces : List (List Char) := []
  delta : Nat := 0
  bias : Nat := 72
  /-- How many characters have been written. -/
  count : Nat

/-- What a character of the label adds when the code point of a round is written. -/
def Writing.add (kept code : Nat) (state : Writing) (c : Char) : Writing :=
  if c.toNat < code then { state with delta := state.delta + 1 }
  else if c.toNat = code then
    { pieces := digits state.bias 36 state.delta :: state.pieces
      bias := adapt state.delta (state.count + 1) (state.count == kept)
      count := state.count + 1 }
  else state

/-- The code points beyond ASCII in rising order, each once. -/
def rounds (label : List Char) : List Nat :=
  let codes := (label.map Char.toNat).filter (128 ≤ ·)
  (codes.mergeSort (· ≤ ·)).eraseDups

/-- The form in ASCII of a label. -/
def encode (label : List Char) : List Char :=
  let kept := label.filter (·.toNat < 128)
  let round (state : Nat × Writing) (code : Nat) : Nat × Writing :=
    let start := { state.2 with
      delta := state.2.delta + (code - state.1) * (state.2.count + 1) }
    let done := label.foldl (Writing.add kept.length code) start
    (code + 1, { done with delta := done.delta + 1 })
  let written := ((rounds label).foldl round (128, { count := kept.length })).2
  kept ++ (if kept.isEmpty then [] else ['-']) ++ written.pieces.reverse.flatten

end SentimentTree.HostName.Punycode
