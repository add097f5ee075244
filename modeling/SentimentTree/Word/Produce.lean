import SentimentTree.Hierarchy.Basic
import SentimentTree.Word.Geometry

/-! # The grammar word of a tree

Each month is a trunk segment `T(h)` with one branch in brackets that starts with its turn. Each
bucket is a step `M(s)` along the branch and a twig in brackets, `+W(length)`, that ends in a fruit
`F(mean,count)`. Branches alternate sides.
-/

namespace SentimentTree

def token (symbol : Char) (parameters : List Char) : List Char :=
  symbol :: '(' :: parameters ++ [')']

/-- The length of the twig of a bucket with so many messages. -/
def Geometry.twigLength (geometry : Geometry) (count : UInt64) : Float :=
  geometry.lengthBase + count.toFloat * geometry.lengthScale

/-- The parameters of a fruit: the contrasted mean in two places and the number of messages. -/
def Bucket.fruit (bucket : Bucket) : List Char :=
  Decimal.fixedText 2 bucket.contrastedMean ++ ',' :: Nat.toDigits 10 bucket.count.toNat

/-- The step and twig of a bucket. -/
def Bucket.word (geometry : Geometry) (bucket : Bucket) : List Char :=
  token 'M' (Decimal.plainText geometry.step) ++ '[' :: '+' ::
    token 'W' (Decimal.fixedText 1 (geometry.twigLength bucket.count)) ++
      token 'F' bucket.fruit ++ [']']

/-- The trunk segment and branch of a month. -/
def MonthGroup.word (geometry : Geometry) (side : Side) (group : MonthGroup) : List Char :=
  token 'T' (Decimal.plainText geometry.segmentHeight) ++ '[' :: side.sign ::
    group.buckets.flatMap (Bucket.word geometry) ++ [']']

/-- The word of a list of months, the first branch on the given side. -/
def wordFrom (geometry : Geometry) (side : Side) : List MonthGroup → List Char
  | [] => []
  | group :: rest => group.word geometry side ++ wordFrom geometry side.flip rest

/-- The word of a tree. -/
def Hierarchy.word (tree : Hierarchy) (geometry : Geometry) : List Char :=
  wordFrom geometry geometry.firstSide tree.months

end SentimentTree
