import SentimentTree.Numeric.Arithmetic

/-! # Contrast and trunk height

The power-law stretch of a mean around the middle of the scale, and the height of a trunk that a
number of months share.
-/

namespace SentimentTree

open Numeric

/-- The stretch of a value around one half: with `d = value - 1/2` it is
`sign d · |2 d| ^ (1 / factor) / 2 + 1/2`, and the middle stays where it is. -/
def contrast {α : Type} (system : Arithmetic α) (value factor : α) : α :=
  let centered := system.sub value system.half
  if system.isZero centered then system.half
  else
    let stretched :=
      system.power (system.mul (system.abs centered) system.two) (system.div system.one factor)
    system.add (system.div (system.mul (system.sign centered) stretched) system.two) system.half

/-- The height of the trunk: a budget shared by the months and two more, kept within bounds. -/
def trunkHeight (months : UInt64) (budget least greatest : Float) : Float :=
  smaller (larger (budget / (months.toFloat + 2.0)) least) greatest

end SentimentTree
