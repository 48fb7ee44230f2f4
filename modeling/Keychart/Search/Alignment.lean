import Keychart.Search.Score
import Keychart.Unicode.Case

/-!
# Alignments of a query in a text

A query matches a text when its characters occur in the text in order, capitals
or not.  Among all ways to place them the best is taken: a match is worth more
at the start of a word, a run of neighbours inherits the strongest bonus met in
it, and skipped characters cost.

The best alignment is built row by row.  A row holds, for one character of the
query and each position of the text, the best alignment that ends there.
-/

namespace Keychart.Search

open Unicode

def matchScore : Nat := 16

def boundaryBonus : Nat := 10

/-- The bonus of a capital right behind a small letter. -/
def camelBonus : Nat := 7

/-- The least bonus of a match right behind another. -/
def consecutiveBonus : Nat := 4

/-- The cost of the first skipped character. -/
def gapStartPenalty : Nat := 3

/-- The cost of each further skipped character. -/
def gapExtensionPenalty : Nat := 1

def separators : Text := Text.ofString " \t-_/.:,+|<>()[]"

/-- The bonus of a character, given the one in front of it. -/
def bonusAfter : (before : Option Char) → (c : Char) → Nat
  | none, _ => boundaryBonus
  | some before, c =>
    if separators.contains before then boundaryBonus
    else if isLower before && isUpper c then camelBonus
    else 0

/-- One position of the text: its folded character and its bonus. -/
structure Column where
  folded : Char
  bonus : Nat
deriving DecidableEq, Repr

/-- The positions of a text, given the character in front of it. -/
def columnsAfter : (before : Option Char) → Text → List Column
  | _, [] => []
  | before, c :: text => ⟨fold c, bonusAfter before c⟩ :: columnsAfter (some c) text

def columns (text : Text) : List Column := columnsAfter none text

/-- The best alignment that ends at one position. -/
structure Cell where
  score : Int
  /-- The strongest bonus in the run of neighbours that ends here. -/
  run : Nat
  /-- The matched positions, the last first. -/
  path : List Nat
deriving DecidableEq, Repr

def firstRow (wanted : Char) : (i : Nat) → List Column → List (Option Cell)
  | _, [] => []
  | i, column :: rest =>
    (if column.folded = wanted then
      some ⟨matchScore + column.bonus, column.bonus, [i]⟩
    else none) :: firstRow wanted (i + 1) rest

/-- The best predecessor across a gap.  Its worth has the cost of extending the
gap up to its own position added, so that predecessors compare alike wherever
the gap ends. -/
structure Gap where
  worth : Int
  path : List Nat
deriving DecidableEq, Repr

/-- The better of the known gap and the one that starts behind position `k`; of
two equal ones the earlier. -/
def widenGap (gap : Option Gap) (k : Nat) : Option Cell → Option Gap
  | none => gap
  | some cell =>
    let worth := cell.score + gapExtensionPenalty * k
    match gap with
    | none => some ⟨worth, cell.path⟩
    | some known => if known.worth < worth then some ⟨worth, cell.path⟩ else gap

def Gap.land (gap : Gap) (i : Nat) (column : Column) : Cell :=
  ⟨gap.worth - gapStartPenalty - gapExtensionPenalty * ((i : Int) - 2) + matchScore +
      column.bonus,
    column.bonus, i :: gap.path⟩

/-- The alignment that goes on from the neighbour in front of position `i`. -/
def Cell.advance (cell : Cell) (i : Nat) (column : Column) : Cell :=
  let run := max cell.run column.bonus
  ⟨cell.score + matchScore + max run consecutiveBonus, run, i :: cell.path⟩

/-- The better of the alignments that end at position `i`; of two equal ones
that without a gap. -/
def bestAt (i : Nat) (column : Column) (gap : Option Gap) (neighbour : Option Cell) :
    Option Cell :=
  match gap, neighbour with
  | none, none => none
  | some gap, none => some (gap.land i column)
  | none, some cell => some (cell.advance i column)
  | some gap, some cell =>
    let across := gap.land i column
    let along := cell.advance i column
    some (if along.score < across.score then across else along)

/-- The row of a further query character, from position `i` on.  The row in
front is read along with the text: `two` and `one` are its cells two positions
and one position before `i`. -/
def nextRow (wanted : Char) :
    (i : Nat) → (gap : Option Gap) → (two one : Option Cell) →
      List (Option Cell) → List Column → List (Option Cell)
  | i, gap, two, one, here :: row, column :: rest =>
    let gap := widenGap gap (i - 2) two
    (if column.folded = wanted then bestAt i column gap one else none) ::
      nextRow wanted (i + 1) gap one here row rest
  | _, _, _, _, _, _ => []

def lastRow (columns : List Column) (row : List (Option Cell)) : (query : Text) →
    List (Option Cell)
  | [] => row
  | wanted :: query =>
    lastRow columns (nextRow wanted 0 none none none row columns) query

/-- The best cell of a row; of equal ones the first. -/
def bestCell : List (Option Cell) → Option Cell
  | [] => none
  | none :: row => bestCell row
  | some cell :: row =>
    match bestCell row with
    | none => some cell
    | some later => some (if cell.score < later.score then later else cell)

/-- The best alignment of a folded query, which is not empty. -/
def align (first : Char) (query : Text) (columns : List Column) : Option Cell :=
  bestCell (lastRow columns (firstRow first 0 columns) query)

/-- Whether the characters of the first text occur in the second in order. -/
def isSubsequence : Text → Text → Bool
  | [], _ => true
  | _ :: _, [] => false
  | q :: query, c :: text =>
    if q = c then isSubsequence query text else isSubsequence (q :: query) text

/-- How a query matches a text.  The empty query matches without a score. -/
structure Match where
  score : Option Score := none
  positions : List Nat := []
deriving DecidableEq, Repr

/-- The best match of a query in a text, if its characters occur there in order. -/
def fuzzyMatch (query text : Text) : Option Match :=
  let folded := query.map fold
  match folded with
  | [] => some {}
  | first :: rest =>
    if isSubsequence folded (text.map fold) then
      (align first rest (columns text)).map fun cell =>
        ⟨some (Score.ofRaw cell.score (text.length - query.length)), cell.path.reverse⟩
    else none

end Keychart.Search
