/-!
# Ranges of code points

A property of characters is a list of ranges of code points.  Ranges with a
stride hold the alternating blocks of capital and small letters.
-/

namespace Keychart.Unicode

/-- Whether a code point lies in one of the ranges, both ends included. -/
def inRanges (ranges : List (Nat × Nat)) (code : Nat) : Bool :=
  ranges.any fun (first, last) => first ≤ code && code ≤ last

/-- Every `stride`-th code point from `first` to `last`. -/
structure Progression where
  first : Nat
  last : Nat
  stride : Nat
deriving DecidableEq, Repr

def Progression.holds (p : Progression) (code : Nat) : Bool :=
  p.first ≤ code && code ≤ p.last && (code - p.first) % p.stride = 0

end Keychart.Unicode
