import SentimentTree.Decimal.Reader

/-! # JSON values

A JSON document as a tree. Numbers keep their digits as written, so that nothing is lost before the
reader of a field decides what it wants; objects keep their members in order, repeated keys
included. A string that is no Unicode text has a place of its own.
-/

namespace SentimentTree

/-- A JSON value. -/
inductive Json
  | null
  | bool (value : Bool)
  /-- A number with its literal. -/
  | number (literal : List Char)
  /-- A string; without text if it holds a lone surrogate or stray bytes. -/
  | string (text : Option String)
  | array (items : List Json)
  | object (members : List (Option String × Json))

namespace Json

def text (value : String) : Json := .string (some value)

def record (members : List (String × Json)) : Json :=
  .object (members.map fun member => (some member.1, member.2))

def nat (n : Nat) : Json := .number (Nat.toDigits 10 n)

def int (n : Int) : Json :=
  .number (if n < 0 then '-' :: Nat.toDigits 10 n.natAbs else Nat.toDigits 10 n.natAbs)

end Json

/-- A number literal without fraction and exponent: its sign and digits. -/
def integerLiteral? (literal : List Char) : Option (Bool × Nat) :=
  match literal with
  | '-' :: digits => (Decimal.readNat? digits).map (true, ·)
  | digits => (Decimal.readNat? digits).map (false, ·)

namespace Json

def text? : Json → Option String
  | .string text => text
  | _ => none

def bool? : Json → Option Bool
  | .bool value => some value
  | _ => none

/-- The natural number up to a bound that a literal without sign, fraction and exponent writes. -/
def nat? (bound : Nat) : Json → Option Nat
  | .number literal =>
    match integerLiteral? literal with
    | some (false, n) => if n ≤ bound then some n else none
    | _ => none
  | _ => none

/-- The integer of sixty-four bits that a literal writes; a zero with a sign is not one. -/
def int64? : Json → Option Int
  | .number literal =>
    match integerLiteral? literal with
    | some (false, n) => if n < Nat.pow 2 63 then some n else none
    | some (true, n) => if 0 < n ∧ n ≤ Nat.pow 2 63 then some (-n) else none
    | none => none
  | _ => none

/-- The floating point number nearest to a literal, unless it is out of range. -/
def float? : Json → Option Float
  | .number literal =>
    let (negative, body) := match literal with
      | '-' :: body => (true, body)
      | body => (false, body)
    match Decimal.readMagnitude? body with
    | some digits => (digits.toBinary? .double).map fun x => Decimal.toFloat negative (some x)
    | none => none
  | _ => none

/-- A value that may be absent: `null` stands for absence. -/
def optional? {α : Type} (read : Json → Option α) : Json → Option (Option α)
  | .null => some none
  | value => (read value).map some

/-- A field that may be missing, with a value that may be `null`. -/
def missing? {α : Type} (read : Json → Option α) : Option Json → Option (Option α)
  | none => some none
  | some value => value.optional? read

def items? {α : Type} (read : Json → Option α) : Json → Option (List α)
  | .array items => items.mapM read
  | _ => none

/-- The value of a key that may occur once at most; the outer option fails on repetition. -/
def member? (members : List (Option String × Json)) (name : String) : Option (Option Json) :=
  match members.filter fun member => member.1 == some name with
  | [] => some none
  | [member] => some (some member.2)
  | _ => none

/-- The values of named fields, absent ones marked. A record is an object, whose other keys are
ignored if they are text, or an array with the values in field order, which may stop early. -/
def fields? (names : List String) : Json → Option (List (Option Json))
  | .object members =>
    if members.all fun member => member.1.isSome then names.mapM (member? members) else none
  | .array items =>
    if items.length ≤ names.length then
      some (items.map some ++ List.replicate (names.length - items.length) none)
    else none
  | _ => none

end Json

end SentimentTree
