import SentimentTree.Decimal.Layout

/-! # Geometry of the word

The numbers and the first side that a grammar word is drawn with.
-/

namespace SentimentTree

/-- The side a branch leans to. -/
inductive Side
  | left
  | right
deriving DecidableEq

namespace Side

def sign : Side → Char
  | left => '-'
  | right => '+'

def flip : Side → Side
  | left => right
  | right => left

def name : Side → String
  | left => "left"
  | right => "right"

def ofName? (name : String) : Option Side :=
  if name = "left" then some left else if name = "right" then some right else none

end Side

/-- The geometry of a word. -/
structure Geometry where
  /-- The length of every trunk segment. -/
  segmentHeight : Float := 20.0
  /-- The length of every step along a branch. -/
  step : Float := 8.0
  /-- The length of a twig without messages. -/
  lengthBase : Float := 10.0
  /-- The length a twig gains with each message. -/
  lengthScale : Float := 0.5
  /-- The side of the first month's branch; later ones alternate. -/
  firstSide : Side := .right
deriving DecidableEq

instance : Inhabited Geometry := ⟨{}⟩

/-- A number of the geometry that is negative or not finite, with the name of its setting. -/
structure GeometryProblem where
  setting : String
  value : Float
deriving DecidableEq

def GeometryProblem.message (problem : GeometryProblem) : String :=
  problem.setting ++ " must be a non-negative number, got " ++
    String.ofList (Decimal.plainText problem.value)

namespace Geometry

/-- The numbers of the geometry under the names of their settings. -/
def numbers (geometry : Geometry) : List (String × Float) :=
  [("trunk_segment_height", geometry.segmentHeight), ("week_step", geometry.step),
    ("week_length_base", geometry.lengthBase), ("week_length_scale", geometry.lengthScale)]

def isLength (x : Float) : Bool := x.isFinite && !(x < 0.0)

/-- Accepts a geometry of finite numbers, none of them negative. -/
def validate (geometry : Geometry) : Except GeometryProblem Unit :=
  match geometry.numbers.find? fun entry => !isLength entry.2 with
  | some (setting, value) => .error ⟨setting, value⟩
  | none => .ok ()

end Geometry

end SentimentTree
