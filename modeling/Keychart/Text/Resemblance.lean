import Keychart.Text.Basic

/-!
# Resemblance of words

How alike two words are: the share of their characters that lie in common
blocks.  The longest common block is taken first, then the longest ones on
either side of it, and so on.
-/

namespace Keychart.Text

def commonFront : Text → Text → Nat
  | a :: as, b :: bs => if a = b then commonFront as bs + 1 else 0
  | _, _ => 0

/-- A common block of two words: where it starts in each, and its length. -/
structure Block where
  left : Nat
  right : Nat
  length : Nat
deriving DecidableEq, Repr

/-- The longer of two blocks, the first of two that are equally long. -/
def Block.longer (a b : Block) : Block := if a.length < b.length then b else a

/-- The longest common block that starts at one place of the first word. -/
def longestAt (left : Nat) (as : Text) : (right : Nat) → Text → Block
  | right, [] => ⟨left, right, 0⟩
  | right, b :: bs =>
    Block.longer ⟨left, right, commonFront as (b :: bs)⟩ (longestAt left as (right + 1) bs)

/-- The longest common block that starts at some place of the first word or
behind it. -/
def longestFrom (bs : Text) : (left : Nat) → Text → Block
  | left, [] => ⟨left, 0, 0⟩
  | left, a :: as =>
    Block.longer (longestAt left (a :: as) 0 bs) (longestFrom bs (left + 1) as)

/-- The longest common block of two words, the first of several in the first word
and then in the second. -/
def longestBlock (as bs : Text) : Block := longestFrom bs 0 as

/-- The number of characters in common blocks, by rounds of search. -/
def matchedIn : (rounds : Nat) → Text → Text → Nat
  | 0, _, _ => 0
  | rounds + 1, as, bs =>
    let block := longestBlock as bs
    if block.length = 0 then 0
    else
      matchedIn rounds (as.take block.left) (bs.take block.right) + block.length +
        matchedIn rounds (as.drop (block.left + block.length))
          (bs.drop (block.right + block.length))

/-- The number of characters of either word that lie in common blocks.  Each round
shortens the first word. -/
def matched (as bs : Text) : Nat := matchedIn (as.length + 1) as bs

/-- A word with its resemblance to another one, as a quotient. -/
structure Likeness where
  word : Text
  matched : Nat
  total : Nat
deriving DecidableEq, Repr

def likeness (word candidate : Text) : Likeness :=
  ⟨candidate, 2 * matched candidate word, candidate.length + word.length⟩

/-- The order of two words by their characters. -/
def isBefore (a b : Text) : Bool := decide (String.ofList a < String.ofList b)

/-- Whether one candidate is to be named in front of another: the one that is more
alike, and of two the later in the order of words. -/
def Likeness.isBetter (a b : Likeness) : Bool :=
  b.matched * a.total < a.matched * b.total ||
    (b.matched * a.total = a.matched * b.total && !isBefore a.word b.word)

/-- The candidates that resemble a word in three fifths at least, no more than
three, in the order of words. -/
def closest (word : Text) (candidates : List Text) : List Text :=
  let close := (candidates.map (likeness word)).filter fun l => 3 * l.total ≤ 5 * l.matched
  (((close.mergeSort Likeness.isBetter).take 3).map Likeness.word).mergeSort fun a b =>
    !isBefore b a

end Keychart.Text
