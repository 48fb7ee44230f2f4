import Keychart.Number.Shortest

/-!
# Scores

A score is the raw score of an alignment less a tenth for every character of
the text that is not matched.  It is kept in double precision: as a whole number
of units of 2 ^ -56, the last place of the double next to one tenth.  Scores are
therefore compared as integers.
-/

namespace Keychart

/-- A score, in units of 2 ^ -56. -/
structure Score where
  units : Int
deriving DecidableEq, Repr

namespace Score

def unitPlaces : Nat := 56

/-- The double next to one tenth, in units. -/
def lengthPenalty : Int := 7205759403792794

/-- The score of an alignment: product and difference are each rounded. -/
def ofRaw (raw : Int) (unmatched : Nat) : Score :=
  ⟨Number.roundInt (raw * Number.twoPow unitPlaces - Number.roundInt (lengthPenalty * unmatched))⟩

def max (a b : Score) : Score := if a.units < b.units then b else a

def write (s : Score) : Text :=
  match s.units with
  | .ofNat 0 => Text.ofString "0.0"
  | .ofNat (n + 1) => (Number.shortest (n + 1) unitPlaces).write
  | .negSucc n => '-' :: (Number.shortest (n + 1) unitPlaces).write

end Score

end Keychart
