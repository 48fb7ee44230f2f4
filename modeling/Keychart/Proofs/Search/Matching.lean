import Keychart.Proofs.Search.Table

/-!
# Which queries match, and where

A query matches a text exactly when its folded characters are a subsequence of
the folded text, and the positions of the match spell the query there.

The test for a subsequence and the rows of best alignments are two algorithms;
that they agree comes from the rows: a row has a cell wherever an alignment
ends, and every cell describes an alignment that ends at its position.
-/

namespace Keychart.Search

open Unicode

private theorem isSubsequence_iff_sublist {query text : Text} :
    isSubsequence query text = true ↔ query.Sublist text := by
  induction text generalizing query with
  | nil =>
      cases query with
      | nil => simp [isSubsequence]
      | cons q query => simp [isSubsequence]
  | cons c text inductionHypothesis =>
      cases query with
      | nil => simp [isSubsequence]
      | cons q query =>
          rw [isSubsequence]
          split
          next same =>
            rw [inductionHypothesis, same, List.cons_sublist_cons]
          next different =>
            rw [inductionHypothesis]
            constructor
            · exact List.Sublist.cons c
            · intro sublist
              rcases List.sublist_cons_iff.mp sublist with
                later | ⟨rest, same, -⟩
              · exact later
              · injection same with headSame _
                exact absurd headSame different

/-- Whether a cell at position `i` describes an alignment that ends there. -/
def Cell.Describes (cell : Cell) (wanted text : Text) (i : Nat) : Prop :=
  ∃ front, cell.path.reverse = front ++ [i] ∧
    Aligned wanted (text.map fold) (front ++ [i]) ∧
    standing? text (front ++ [i]) = some (cell.standing i)

/-- A row describes alignments, and has a cell wherever one ends. -/
structure RowDescribes
    (text wanted : Text) (row : List (Option Cell)) : Prop where
  length : row.length = text.length
  sound : ∀ i cell, Filled row i cell → cell.Describes wanted text i
  complete : ∀ front i, Aligned wanted (text.map fold) (front ++ [i]) →
    ∃ cell, Filled row i cell

private theorem rowDescribes_firstRow (text : Text) (wanted : Char) :
    RowDescribes text [wanted] (firstRow wanted 0 (columns text)) := by
  constructor
  · rw [length_firstRow, length_columns]
  · intro i cell filled
    obtain ⟨found, rfl⟩ := filled_firstRow_iff.mp filled
    exact ⟨[], rfl, aligned_singleton_iff.mpr ⟨i, rfl, found⟩, rfl⟩
  · intro front i aligned
    obtain ⟨i', same, found⟩ := aligned_singleton_iff.mp aligned
    obtain ⟨-, rfl⟩ := List.append_singleton_inj.mp
      (same.trans (List.nil_append [i']).symm)
    exact ⟨_, filled_firstRow_iff.mpr ⟨found, rfl⟩⟩

/-- Going on from a described alignment describes one of one more character. -/
theorem Cell.Describes.extend
    {text wanted : Text} {w : Char} {k i : Nat} {before cell : Cell}
    (described : before.Describes wanted text k)
    (less : k < i) (found : (text.map fold)[i]? = some w)
    (path : cell.path = i :: before.path)
    (stands : cell.standing i = (before.standing k).next text i) :
    cell.Describes (wanted ++ [w]) text i := by
  obtain ⟨front, shape, aligned, beforeStands⟩ := described
  refine ⟨front ++ [k], ?_, aligned_extend_iff.mpr ⟨aligned, less, found⟩, ?_⟩
  · rw [path, List.reverse_cons, shape]
  · rw [standing?_concat, beforeStands, stands]
    rfl

theorem RowDescribes.nextRow
    {text done : Text} {row : List (Option Cell)}
    (described : RowDescribes text done row)
    (nonempty : done ≠ []) (wanted : Char) :
    RowDescribes text (done ++ [wanted])
      (nextRow wanted 0 none none none row (columns text)) := by
  have rowLength : row.length = (columns text).length := by
    rw [described.length, length_columns]
  constructor
  · rw [length_nextRow _ _ _ _ _ _ _ rowLength, length_columns]
  · intro i cell filled
    obtain ⟨found, k, before, less, beforeFilled, path, stands⟩ :=
      exists_before_of_filled described.length filled
    exact (described.sound k before beforeFilled).extend less found path stands
  · intro front i aligned
    have frontAligned := (aligned_append_singleton_iff.mp aligned).1
    obtain ⟨front', k, rfl⟩ := frontAligned.eq_concat nonempty
    obtain ⟨kAligned, less, found⟩ := aligned_extend_iff.mp aligned
    obtain ⟨before, beforeFilled⟩ := described.complete front' k kAligned
    obtain ⟨cell, filled, -⟩ :=
      exists_covering_cell described.length found less beforeFilled
    exact ⟨cell, filled⟩

/-- The last row describes the alignments of the whole query. -/
theorem rowDescribes_lastRow (text : Text) (first : Char) (query : Text) :
    RowDescribes text (first :: query)
      (lastRow (columns text) (firstRow first 0 (columns text)) query) :=
  lastRow_induction
    (rowDescribes_firstRow text)
    (fun _ wanted _ nonempty described => described.nextRow nonempty wanted)
    first query

/-- What a step keeps of rows that describe alignments holds of the last row. -/
theorem lastRow_induction_of_describes
    {text : Text} {holds : Text → List (Option Cell) → Prop}
    (start : ∀ wanted, holds [wanted] (firstRow wanted 0 (columns text)))
    (step : ∀ done wanted row, done ≠ [] → RowDescribes text done row →
      holds done row →
        holds (done ++ [wanted])
          (Search.nextRow wanted 0 none none none row (columns text)))
    (first : Char) (query : Text) :
    holds (first :: query)
      (lastRow (columns text) (firstRow first 0 (columns text)) query) := by
  have both :=
    @lastRow_induction (columns text)
      (fun done row => RowDescribes text done row ∧ holds done row)
      (fun wanted => ⟨rowDescribes_firstRow text wanted, start wanted⟩)
      (fun done wanted row nonempty rows =>
        ⟨rows.1.nextRow nonempty wanted,
          step done wanted row nonempty rows.1 rows.2⟩)
      first query
  exact both.2

theorem rowDescribes_rowAt (text : Text) (first : Char) (query : Text) (j : Nat) :
    RowDescribes text (first :: query.take j)
      (rowAt first query (columns text) j) :=
  rowDescribes_lastRow text first (query.take j)

/-- Following a cell back through the rows meets a filled cell in each of them,
and its path is the beginning of the path of the cell. -/
theorem exists_filled_rowAt
    {text : Text} {first : Char} {query : Text} {j : Nat}
    (bound : j ≤ query.length) :
    ∀ {i : Nat} {cell : Cell},
      Filled (rowAt first query (columns text) j) i cell →
      ∀ {m p : Nat}, cell.path.reverse[m]? = some p →
        ∃ earlier, Filled (rowAt first query (columns text) m) p earlier ∧
          earlier.path.reverse = cell.path.reverse.take (m + 1) := by
  induction j with
  | zero =>
      intro i cell filled m p found
      obtain ⟨-, rfl⟩ := filled_firstRow_iff.mp filled
      cases m with
      | zero =>
          obtain rfl : i = p := by simpa using found
          exact ⟨_, filled, rfl⟩
      | succ m => simp at found
  | succ j inductionHypothesis =>
      intro i cell filled m p found
      have wantedAt := List.getElem?_eq_getElem (Nat.lt_of_succ_le bound)
      have row := rowDescribes_rowAt text first query j
      obtain ⟨front, shape, aligned, -⟩ :=
        (rowDescribes_rowAt text first query (j + 1)).sound i cell filled
      rw [rowAt_succ wantedAt] at filled
      obtain ⟨-, k, before, -, beforeFilled, path, -⟩ :=
        exists_before_of_filled row.length filled
      have reversed : cell.path.reverse = before.path.reverse ++ [i] := by
        rw [path, List.reverse_cons]
      have length : before.path.reverse.length = j + 1 := by
        have whole := aligned.length_eq
        rw [← shape, reversed] at whole
        simp only [List.length_append, List.length_cons, List.length_nil,
          List.length_take] at whole
        omega
      rcases Nat.lt_or_ge m (j + 1) with inFront | atEnd
      · rw [reversed, List.getElem?_append_left (by omega)] at found
        obtain ⟨earlier, earlierFilled, begins⟩ :=
          inductionHypothesis (by omega) beforeFilled found
        refine ⟨earlier, earlierFilled, ?_⟩
        rw [begins, reversed, List.take_append_of_le_length (by omega)]
      · have last : m = j + 1 := by
          have within := (List.getElem?_eq_some_iff.mp found).1
          rw [reversed, List.length_append, length] at within
          simp only [List.length_cons, List.length_nil] at within
          omega
        subst last
        rw [reversed, List.getElem?_append_right (by omega), length] at found
        obtain rfl : i = p := by simpa using found
        refine ⟨cell, ?_, ?_⟩
        · rw [rowAt_succ wantedAt]
          exact filled
        · rw [List.take_of_length_le]
          rw [reversed, List.length_append, length]
          simp

/-! ## The best alignment of a query -/

/-- The best alignment of a query in a text, if the query is not empty and its
characters occur there in order. -/
def bestAlignment? (query text : Text) : Option Cell :=
  match query.map fold with
  | [] => none
  | first :: rest =>
    if isSubsequence (first :: rest) (text.map fold) then
      align first rest (columns text)
    else none

/-- A query that is not empty matches by its best alignment. -/
theorem fuzzyMatch_eq_map
    {query : Text} (text : Text) (nonempty : query ≠ []) :
    fuzzyMatch query text =
      (bestAlignment? query text).map fun cell =>
        ⟨some (Score.ofRaw cell.score (text.length - query.length)),
          cell.path.reverse⟩ := by
  unfold fuzzyMatch bestAlignment?
  cases folded : query.map fold with
  | nil => exact absurd (List.map_eq_nil_iff.mp folded) nonempty
  | cons first rest =>
      dsimp only
      split <;> rfl

/-- Where the characters occur in order the rows hold an alignment. -/
theorem exists_align_of_sublist
    {first : Char} {rest text : Text}
    (sublist : (first :: rest).Sublist (text.map fold)) :
    ∃ best, align first rest (columns text) = some best := by
  obtain ⟨positions, aligned⟩ := exists_aligned_iff_sublist.mpr sublist
  obtain ⟨front, last, rfl⟩ := aligned.eq_concat (List.cons_ne_nil first rest)
  obtain ⟨cell, filled⟩ :=
    (rowDescribes_lastRow text first rest).complete front last aligned
  cases found : align first rest (columns text) with
  | none => exact absurd filled (bestCell_eq_none_iff.mp found last cell)
  | some best => exact ⟨best, rfl⟩

theorem exists_bestAlignment_iff_sublist
    {query text : Text} (nonempty : query ≠ []) :
    (∃ best, bestAlignment? query text = some best) ↔
      (query.map fold).Sublist (text.map fold) := by
  unfold bestAlignment?
  cases folded : query.map fold with
  | nil => exact absurd (List.map_eq_nil_iff.mp folded) nonempty
  | cons first rest =>
      dsimp only
      rw [← isSubsequence_iff_sublist]
      split
      next occurs =>
        have sublist := isSubsequence_iff_sublist.mp occurs
        exact iff_of_true (exists_align_of_sublist sublist) occurs
      next absent =>
        exact iff_of_false (fun ⟨_, found⟩ => nomatch found) absent

theorem isSome_fuzzyMatch_iff_sublist (query text : Text) :
    (fuzzyMatch query text).isSome ↔
      (query.map fold).Sublist (text.map fold) := by
  by_cases empty : query = []
  · subst empty
    exact iff_of_true rfl (List.nil_sublist _)
  · rw [fuzzyMatch_eq_map text empty, Option.isSome_map, Option.isSome_iff_exists]
    exact exists_bestAlignment_iff_sublist empty

/-- The best alignment is an alignment, with its worth for a score, and no cell
of the last row has a greater score. -/
theorem describes_of_bestAlignment
    {query text : Text} {best : Cell}
    (found : bestAlignment? query text = some best) :
    ∃ first rest last, query.map fold = first :: rest ∧
      align first rest (columns text) = some best ∧
      Filled (rowAt first rest (columns text) rest.length) last best ∧
      best.Describes (first :: rest) text last := by
  unfold bestAlignment? at found
  split at found
  next => cases found
  next first rest folded =>
    split at found
    next =>
      obtain ⟨⟨last, filled⟩, -⟩ := filled_of_bestCell found
      refine ⟨first, rest, last, folded, found, ?_, ?_⟩
      · rw [rowAt, List.take_length]
        exact filled
      · exact (rowDescribes_lastRow text first rest).sound last best filled
    next => cases found

/-- What the positions of a match of a query in a text say. -/
structure Match.Spells (m : Match) (query text : Text) : Prop where
  length : m.positions.length = query.length
  increasing : m.positions.Pairwise (· < ·)
  within : ∀ p ∈ m.positions, p < text.length
  folded : ∀ j p : Nat, m.positions[j]? = some p →
    text[p]?.map fold = query[j]?.map fold

private theorem Match.spells_of_aligned
    {m : Match} {query text : Text}
    (aligned : Aligned (query.map fold) (text.map fold) m.positions) :
    m.Spells query text where
  length := by
    rw [aligned.length_eq, List.length_map]
  increasing := aligned.increasing
  within := by
    intro p member
    simpa using aligned.lt_length member
  folded := by
    intro j p found
    simpa only [List.getElem?_map] using aligned.getElem?_eq found

/-- The positions of a match spell the query. -/
theorem spells_of_fuzzyMatch
    {query text : Text} {m : Match} (nonempty : query ≠ [])
    (matched : fuzzyMatch query text = some m) :
    m.Spells query text := by
  rw [fuzzyMatch_eq_map text nonempty, Option.map_eq_some_iff] at matched
  obtain ⟨best, found, rfl⟩ := matched
  obtain ⟨first, rest, last, folded, -, -, front, shape, aligned, -⟩ :=
    describes_of_bestAlignment found
  apply Match.spells_of_aligned
  rw [folded, shape]
  exact aligned

/-- Whether following an alignment back from its last position meets a filled
cell in the row of every character. -/
def Traced (first : Char) (rest text : Text) (best : Cell) : Prop :=
  ∀ j p : Nat, best.path.reverse[j]? = some p →
    ∃ cell, Filled (rowAt first rest (columns text) j) p cell ∧
      cell.path.reverse = best.path.reverse.take (j + 1)

/-- A query matches exactly the texts in which its characters occur in order,
capitals or not, and the positions of a match spell the query.  Once they occur
in order, the rows hold a best alignment, and each step back from it meets a
filled cell. -/
theorem fuzzyMatch_matches_iff_sublist (query text : Text) :
    ((fuzzyMatch query text).isSome ↔
      (query.map fold).Sublist (text.map fold)) ∧
    (∀ m, query ≠ [] → fuzzyMatch query text = some m →
      m.Spells query text) ∧
    ∀ first rest, query.map fold = first :: rest →
      isSubsequence (query.map fold) (text.map fold) →
        ∃ best, align first rest (columns text) = some best ∧
          Traced first rest text best := by
  refine ⟨?_, ?_, ?_⟩
  · by_cases empty : query = []
    · subst empty
      simp [fuzzyMatch]
    · rw [fuzzyMatch_eq_map text empty, Option.isSome_map,
        Option.isSome_iff_exists]
      exact exists_bestAlignment_iff_sublist empty
  · intro m nonempty matched
    exact spells_of_fuzzyMatch nonempty matched
  · intro first rest folded occurs
    rw [folded] at occurs
    obtain ⟨best, found⟩ :=
      exists_align_of_sublist (isSubsequence_iff_sublist.mp occurs)
    obtain ⟨⟨last, filled⟩, -⟩ := filled_of_bestCell found
    refine ⟨best, found, fun j p reached => ?_⟩
    have filledAt :
        Filled (rowAt first rest (columns text) rest.length) last best := by
      rw [rowAt, List.take_length]
      exact filled
    exact exists_filled_rowAt (Nat.le_refl _) filledAt reached

end Keychart.Search
