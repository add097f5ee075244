/-! # Arithmetic as a parameter

The operations that the sentiment formulas need, as a record, so that one formula can be read over
floating point numbers and over exact ones. The power function is left to the caller.
-/

namespace SentimentTree.Numeric

/-- The operations of a number system. -/
structure Arithmetic (α : Type) where
  one : α
  two : α
  half : α
  add : α → α → α
  sub : α → α → α
  mul : α → α → α
  div : α → α → α
  abs : α → α
  /-- One with the sign of a number that is not zero. -/
  sign : α → α
  isZero : α → Bool
  power : α → α → α

/-- The sign of a number as a number; a number without a sign is kept. -/
def signOf (x : Float) : Float := if x < 0.0 then -1.0 else if 0.0 < x then 1.0 else x

def Arithmetic.floating (power : Float → Float → Float) : Arithmetic Float where
  one := 1.0
  two := 2.0
  half := 0.5
  add := (· + ·)
  sub := (· - ·)
  mul := (· * ·)
  div := (· / ·)
  abs := Float.abs
  sign := signOf
  isZero x := x == 0.0
  power := power

/-- Membership in the closed unit interval. -/
def inUnit (x : Float) : Bool := 0.0 ≤ x && x ≤ 1.0

/-- The number moved into the unit interval; a number already there, or none at all, is kept. -/
def clampUnit (x : Float) : Float := if x < 0.0 then 0.0 else if 1.0 < x then 1.0 else x

/-- The larger number, of two equal ones the first; an undefined operand yields the other. -/
def larger (a b : Float) : Float :=
  if a.isNaN then b else if b.isNaN then a else if a < b then b else a

/-- The smaller number, of two equal ones the first; an undefined operand yields the other. -/
def smaller (a b : Float) : Float :=
  if a.isNaN then b else if b.isNaN then a else if b < a then b else a

end SentimentTree.Numeric
