import Keychart.Proofs.Search.Matching

/-!
# Rows by comparing all predecessors

The scan that makes a row carries the best gap along, two positions behind the one that
is filled.  Without the scan a cell is found by going on from every filled cell of the row
in front, wherever it stands before the position, and keeping the greatest score.  Of
equal scores the neighbour comes first, and behind it the earliest.
-/

namespace Keychart.Search

open Unicode

def Cell.predecessor? (cell : Cell) : Option Nat := cell.path[1]?

/-- The row of the query character at place `j`; there is none behind the last. -/
def rowOf (query text : Text) (j : Nat) : List (Option Cell) :=
  match query.map fold with
  | [] => []
  | first :: rest => if j ≤ rest.length then rowAt first rest (columns text) j else []

/-- The best alignment is read off the last row. -/
theorem bestAlignment?_eq_bestCell (query text : Text) :
    bestAlignment? query text =
      if isSubsequence (query.map fold) (text.map fold) then
        bestCell (rowOf query text (query.length - 1))
      else none := by
  have sameLength : (query.map fold).length = query.length := List.length_map fold
  unfold bestAlignment? rowOf
  rw [← sameLength]
  cases query.map fold with
  | nil => simp [bestCell]
  | cons first rest =>
      dsimp only
      rw [List.length_cons, Nat.add_sub_cancel, if_pos (Nat.le_refl _), rowAt, List.take_length,
        align]

section RowsOfQuery

variable {query text : Text} {wanted : Char} {cell : Cell} {i j k : Nat}

private theorem exists_rowOf_eq_rowAt (bound : j < (query.map fold).length) (text : Text) :
    ∃ first rest, query.map fold = first :: rest ∧
      rowOf query text j = rowAt first rest (columns text) j := by
  unfold rowOf
  cases folded : query.map fold with
  | nil =>
      rw [folded] at bound
      cases bound
  | cons first rest =>
      rw [folded, List.length_cons] at bound
      exact ⟨first, rest, rfl, if_pos (Nat.le_of_lt_succ bound)⟩

private theorem length_rowOf (bound : j < (query.map fold).length) :
    (rowOf query text j).length = text.length := by
  obtain ⟨first, rest, -, row⟩ := exists_rowOf_eq_rowAt bound text
  rw [row]
  exact (rowDescribes_rowAt text first rest j).length

theorem rowOf_succ (within : (query.map fold)[j + 1]? = some wanted) :
    rowOf query text (j + 1) =
      nextRow wanted 0 none none none (rowOf query text j) (columns text) := by
  have bound := (List.getElem?_eq_some_iff.mp within).1
  obtain ⟨first, rest, folded, row⟩ := exists_rowOf_eq_rowAt bound text
  obtain ⟨_, _, again, rowInFront⟩ := exists_rowOf_eq_rowAt (Nat.lt_of_succ_lt bound) text
  obtain ⟨rfl, rfl⟩ := List.cons.inj (folded.symm.trans again)
  rw [folded, List.getElem?_cons_succ] at within
  rw [row, rowInFront, rowAt_succ within]

private theorem exists_wanted_of_filled (filled : Filled (rowOf query text j) i cell) :
    ∃ wanted, (query.map fold)[j]? = some wanted := by
  unfold rowOf at filled
  split at filled
  · cases filled
  · next first rest folded =>
      split at filled
      · next bound =>
          have within : j < (first :: rest).length := Nat.lt_succ_of_le bound
          rw [folded]
          exact ⟨_, List.getElem?_eq_getElem within⟩
      · cases filled

/-- Whether the text has at a position the query character at place `j`. -/
def Wants (query text : Text) (j i : Nat) : Prop :=
  ∃ wanted, (query.map fold)[j]? = some wanted ∧ (text.map fold)[i]? = some wanted

theorem filled_rowOf_succ_iff :
    Filled (rowOf query text (j + 1)) i cell ↔
      Wants query text (j + 1) i ∧
        ∃ k before, IsPredecessor text (rowOf query text j) i k before ∧
          cell = before.onward k text i := by
  have step {wanted : Char} (within : (query.map fold)[j + 1]? = some wanted) :
      Filled (rowOf query text (j + 1)) i cell ↔
        (text.map fold)[i]? = some wanted ∧
          ∃ k before, IsPredecessor text (rowOf query text j) i k before ∧
            cell = before.onward k text i := by
    have bound := (List.getElem?_eq_some_iff.mp within).1
    rw [rowOf_succ within]
    exact filled_nextRow_iff (length_rowOf (Nat.lt_of_succ_lt bound))
  constructor
  · intro filled
    obtain ⟨wanted, within⟩ := exists_wanted_of_filled filled
    obtain ⟨found, goesOn⟩ := (step within).mp filled
    exact ⟨⟨wanted, within, found⟩, goesOn⟩
  · intro both
    obtain ⟨⟨wanted, within, found⟩, goesOn⟩ := both
    exact (step within).mpr ⟨found, goesOn⟩

private theorem exists_filled_of_wants
    (wants : Wants query text (j + 1) i) {before : Cell}
    (less : k < i) (filled : Filled (rowOf query text j) k before) :
    ∃ cell, Filled (rowOf query text (j + 1)) i cell := by
  obtain ⟨wanted, within, found⟩ := wants
  have bound := (List.getElem?_eq_some_iff.mp within).1
  rw [rowOf_succ within]
  exact exists_filled_of_found (length_rowOf (Nat.lt_of_succ_lt bound)) found less filled

/-- The path of a cell begins with its position. -/
theorem exists_path_of_filled (filled : Filled (rowOf query text j) i cell) :
    ∃ front, cell.path = i :: front := by
  obtain ⟨wanted, within⟩ := exists_wanted_of_filled filled
  have bound := (List.getElem?_eq_some_iff.mp within).1
  obtain ⟨first, rest, -, row⟩ := exists_rowOf_eq_rowAt bound text
  rw [row] at filled
  obtain ⟨front, shape, -⟩ := (rowDescribes_rowAt text first rest j).sound i cell filled
  have reversed := congrArg List.reverse shape
  rw [List.reverse_reverse, List.reverse_concat] at reversed
  exact ⟨front.reverse, reversed⟩

private theorem predecessor?_onward (filled : Filled (rowOf query text j) k cell) (i : Nat) :
    (cell.onward k text i).predecessor? = some k := by
  obtain ⟨front, path⟩ := exists_path_of_filled filled
  rw [Cell.predecessor?, path_onward, path]
  rfl

end RowsOfQuery

/-- Behind the first row a cell stands exactly where the text has the query character and
some cell of the row in front stands before the position.  It is the cell that goes on
from the best of these, its predecessor: of equal scores the neighbour, or else the
earliest.  The best alignment is the best cell of the last row. -/
theorem cells_go_on_from_best (query text : Text) :
    (∀ j i cell, Filled (rowOf query text (j + 1)) i cell ↔
      Wants query text (j + 1) i ∧
        ∃ k before, IsPredecessor text (rowOf query text j) i k before ∧
          cell = before.onward k text i ∧ cell.predecessor? = some k) ∧
      (∀ j i, (∃ cell, Filled (rowOf query text (j + 1)) i cell) ↔
        Wants query text (j + 1) i ∧
          ∃ k before, k < i ∧ Filled (rowOf query text j) k before) ∧
      bestAlignment? query text =
        if isSubsequence (query.map fold) (text.map fold) then
          bestCell (rowOf query text (query.length - 1))
        else none := by
  refine ⟨?_, ?_, bestAlignment?_eq_bestCell query text⟩
  · intro j i cell
    rw [filled_rowOf_succ_iff]
    constructor
    · intro goesOn
      obtain ⟨wants, k, before, first, same⟩ := goesOn
      have predecessor := predecessor?_onward first.filled i
      rw [← same] at predecessor
      exact ⟨wants, k, before, first, same, predecessor⟩
    · intro goesOn
      obtain ⟨wants, k, before, first, same, -⟩ := goesOn
      exact ⟨wants, k, before, first, same⟩
  · intro j i
    constructor
    · intro some
      obtain ⟨cell, filled⟩ := some
      obtain ⟨wants, k, before, first, -⟩ := filled_rowOf_succ_iff.mp filled
      exact ⟨wants, k, before, first.inFront, first.filled⟩
    · intro some
      obtain ⟨wants, k, before, less, filled⟩ := some
      exact exists_filled_of_wants wants less filled

end Keychart.Search
