/-! # Digits in a base

Numbers written in digits and letters, in bases up to sixteen.
-/

namespace SentimentTree.Text

def digitValue? (base : Nat) (c : Char) : Option Nat :=
  let value :=
    if '0' ≤ c ∧ c ≤ '9' then c.toNat - 48
    else if 'a' ≤ c ∧ c ≤ 'f' then c.toNat - 87
    else if 'A' ≤ c ∧ c ≤ 'F' then c.toNat - 55
    else 16
  if value < base then some value else none

/-- The number that digits write in a base; no digits write zero. -/
def numberIn? (base : Nat) (digits : List Char) : Option Nat :=
  digits.foldlM (fun total c => (digitValue? base c).map (total * base + ·)) 0

end SentimentTree.Text
