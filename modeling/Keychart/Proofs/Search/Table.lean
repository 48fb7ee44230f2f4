import Keychart.Proofs.Search.Worth
import Mathlib.Data.List.Induction

/-!
# Rows of best alignments

What one row of cells says about the next, position by position.  The scan that
makes a row carries the best gap and the last two cells along; the statements
here forget the scan.  A cell always goes on from the best filled cell of the row
in front, its predecessor, so it is at least as good as going on from any other.
Of equal ones the neighbour comes first, and behind it the earliest.
-/

namespace Keychart.Search

open Unicode

/-- Whether a row holds a cell at a position. -/
def Filled (row : List (Option Cell)) (i : Nat) (cell : Cell) : Prop :=
  row[i]? = some (some cell)

/-- A cell as the standing of its alignment, which ends at position `i`. -/
def Cell.standing (cell : Cell) (i : Nat) : Standing := ⟨cell.score, i, cell.run⟩

def cellBefore (row : List (Option Cell)) (i : Nat) : Option Cell :=
  if i = 0 then none else row[i - 1]?.join

theorem Filled.unique
    {row : List (Option Cell)} {i : Nat} {cell other : Cell}
    (filled : Filled row i cell) (otherFilled : Filled row i other) :
    cell = other := by
  unfold Filled at filled otherFilled
  rw [filled] at otherFilled
  simpa using otherFilled

theorem cellBefore_succ_eq_some_iff
    {row : List (Option Cell)} {k : Nat} {cell : Cell} :
    cellBefore row (k + 1) = some cell ↔ Filled row k cell := by
  simp [cellBefore, Filled, Option.join_eq_some_iff]

/-- What a cell at position `k` is worth as the near side of a gap, with the cost
of extending the gap up to `k` added. -/
def gapWorth (k : Nat) (cell : Cell) : Int := cell.score + gapExtensionPenalty * k

/-- Whether this is the gap to take from the cells in front of `bound`: the one
that is worth most, of equal ones the earliest. -/
def BestGap (row : List (Option Cell)) (bound : Nat) : Option Gap → Prop
  | none => ∀ k cell, k < bound → ¬ Filled row k cell
  | some gap =>
      ∃ k cell, k < bound ∧ Filled row k cell ∧
        gap = ⟨gapWorth k cell, cell.path⟩ ∧
        ∀ j other, j < bound → Filled row j other →
          gapWorth j other ≤ gap.worth ∧ (j < k → gapWorth j other < gap.worth)

theorem bestGap_zero (row : List (Option Cell)) : BestGap row 0 none := by
  intro k cell less
  exact absurd less (Nat.not_lt_zero k)

/-- An empty cell leaves the best gap as it is. -/
theorem BestGap.skip
    {row : List (Option Cell)} {k : Nat} {gap : Option Gap}
    (best : BestGap row k gap) (empty : ∀ cell, ¬ Filled row k cell) :
    BestGap row (k + 1) gap := by
  cases gap with
  | none =>
      intro j cell less filled
      rcases Nat.lt_succ_iff_lt_or_eq.mp less with front | rfl
      · exact best j cell front filled
      · exact empty cell filled
  | some gap =>
      obtain ⟨k', cell, less, filled, same, greatest⟩ := best
      refine ⟨k', cell, by omega, filled, same, ?_⟩
      intro j other bound otherFilled
      rcases Nat.lt_succ_iff_lt_or_eq.mp bound with front | rfl
      · exact greatest j other front otherFilled
      · exact absurd otherFilled (empty other)

/-- A filled cell is compared with the best gap so far. -/
theorem BestGap.widen
    {row : List (Option Cell)} {k : Nat} {gap : Option Gap} {here : Cell}
    (best : BestGap row k gap) (hereFilled : Filled row k here) :
    BestGap row (k + 1) (widenGap gap k (some here)) := by
  cases gap with
  | none =>
      refine ⟨k, here, Nat.lt_succ_self k, hereFilled, rfl, ?_⟩
      intro j other bound otherFilled
      rcases Nat.lt_succ_iff_lt_or_eq.mp bound with front | rfl
      · exact absurd otherFilled (best j other front)
      · rw [otherFilled.unique hereFilled]
        exact ⟨Int.le_refl _, fun less => absurd less (Nat.lt_irrefl j)⟩
  | some gap =>
      obtain ⟨k', cell, less, filled, same, greatest⟩ := best
      by_cases better : gap.worth < gapWorth k here
      · have widened : widenGap (some gap) k (some here) =
            some ⟨gapWorth k here, here.path⟩ := by
          simp only [gapWorth] at better
          simp [widenGap, gapWorth, better]
        rw [widened]
        refine ⟨k, here, Nat.lt_succ_self k, hereFilled, rfl, ?_⟩
        intro j other bound otherFilled
        rcases Nat.lt_succ_iff_lt_or_eq.mp bound with front | rfl
        · have otherLe := (greatest j other front otherFilled).1
          exact ⟨by dsimp only; omega, fun _ => by dsimp only; omega⟩
        · rw [otherFilled.unique hereFilled]
          exact ⟨Int.le_refl _, fun less => absurd less (Nat.lt_irrefl j)⟩
      · have widened : widenGap (some gap) k (some here) = some gap := by
          simp only [gapWorth] at better
          simp [widenGap, better]
        rw [widened]
        refine ⟨k', cell, by omega, filled, same, ?_⟩
        intro j other bound otherFilled
        rcases Nat.lt_succ_iff_lt_or_eq.mp bound with front | rfl
        · exact greatest j other front otherFilled
        · rw [otherFilled.unique hereFilled]
          exact ⟨by omega, fun less => by omega⟩

/-- One step of the scan along the row in front. -/
theorem BestGap.scan
    {row : List (Option Cell)} {i : Nat} {gap : Option Gap}
    (best : BestGap row (i - 2) gap) :
    BestGap row (i - 1) (widenGap gap (i - 2) (cellBefore row (i - 1))) := by
  rcases i with _ | _ | k
  · exact best
  · exact best
  · change BestGap row (k + 1) (widenGap gap k (cellBefore row (k + 1)))
    cases before : cellBefore row (k + 1) with
    | none =>
        apply best.skip
        intro cell filled
        have found : cellBefore row (k + 1) = some cell :=
          cellBefore_succ_eq_some_iff.mpr filled
        rw [found] at before
        cases before
    | some here =>
        exact best.widen (cellBefore_succ_eq_some_iff.mp before)

private theorem firstRow_getElem?
    (wanted : Char) (s : Nat) (columns : List Column) (i : Nat) :
    (firstRow wanted s columns)[i]? =
      columns[i]?.map fun column =>
        if column.folded = wanted then
          some ⟨matchScore + column.bonus, column.bonus, [s + i]⟩
        else none := by
  induction columns generalizing s i with
  | nil =>
      simp [firstRow]
  | cons column columns inductionHypothesis =>
      cases i with
      | zero => simp [firstRow]
      | succ i =>
          rw [firstRow, List.getElem?_cons_succ, inductionHypothesis,
            List.getElem?_cons_succ, Nat.add_right_comm, Nat.add_assoc]

/-- The scan reads the row in front from position `i` on. -/
private theorem nextRow_scan
    (wanted : Char) (row : List (Option Cell)) :
    ∀ (cells : List (Option Cell)) (columns : List Column) (i : Nat)
      (gap : Option Gap),
      (∀ m, row[i + m]? = cells[m]?) →
      cells.length = columns.length →
      BestGap row (i - 2) gap →
      ∀ m column, columns[m]? = some column →
        ∃ gap', BestGap row (i + m - 1) gap' ∧
          (nextRow wanted i gap (cellBefore row (i - 1)) (cellBefore row i)
            cells columns)[m]? =
            some (if column.folded = wanted then
              bestAt (i + m) column gap' (cellBefore row (i + m))
            else none)
  | [], columns, i, gap, _, sameLength, _, m, column, found => by
      have empty : columns = [] :=
        List.length_eq_zero_iff.mp sameLength.symm
      simp [empty] at found
  | here :: cells, [], _, _, _, sameLength, _, _, _, _ => by
      simp at sameLength
  | here :: cells, first :: columns, i, gap, aligned, sameLength, best,
      m, column, found => by
      rw [nextRow]
      cases m with
      | zero =>
          rw [List.getElem?_cons_zero, Option.some.injEq] at found
          subst found
          exact ⟨_, best.scan, rfl⟩
      | succ m =>
          have hereBefore : here = cellBefore row (i + 1) := by
            have head := aligned 0
            simp only [Nat.add_zero, List.getElem?_cons_zero] at head
            simp [cellBefore, head]
          have rest :=
            nextRow_scan wanted row cells columns (i + 1)
              (widenGap gap (i - 2) (cellBefore row (i - 1)))
              (by
                intro m
                have tail := aligned (m + 1)
                rw [List.getElem?_cons_succ] at tail
                rw [← tail, Nat.add_right_comm, Nat.add_assoc])
              (by simpa using sameLength)
              best.scan m column (by simpa using found)
          rw [← hereBefore] at rest
          have shift : i + 1 + m = i + (m + 1) := by omega
          rw [shift] at rest
          simpa using rest

private theorem nextRow_getElem?
    {wanted : Char} {row : List (Option Cell)} {columns : List Column}
    (sameLength : row.length = columns.length)
    {i : Nat} {column : Column} (found : columns[i]? = some column) :
    ∃ gap, BestGap row (i - 1) gap ∧
      (nextRow wanted 0 none none none row columns)[i]? =
        some (if column.folded = wanted then
          bestAt i column gap (cellBefore row i)
        else none) := by
  have scan :=
    nextRow_scan wanted row row columns 0 none
      (by intro m; rw [Nat.zero_add]) sameLength (bestGap_zero row)
      i column found
  simpa [cellBefore] using scan

@[simp]
theorem length_firstRow (wanted : Char) (s : Nat) (columns : List Column) :
    (firstRow wanted s columns).length = columns.length := by
  induction columns generalizing s with
  | nil => rfl
  | cons column columns inductionHypothesis =>
      simp [firstRow, inductionHypothesis]

theorem length_nextRow
    (wanted : Char) (i : Nat) (gap : Option Gap) (two one : Option Cell) :
    ∀ (row : List (Option Cell)) (columns : List Column),
      row.length = columns.length →
      (nextRow wanted i gap two one row columns).length = columns.length
  | [], [], _ => rfl
  | [], _ :: _, sameLength => by simp at sameLength
  | _ :: _, [], sameLength => by simp at sameLength
  | here :: row, column :: columns, sameLength => by
      rw [nextRow, List.length_cons, List.length_cons,
        length_nextRow wanted (i + 1) _ one here row columns
          (by simpa using sameLength)]

/-- The cell at position `i` that goes on from a cell at position `k`. -/
def Cell.onward (before : Cell) (k : Nat) (text : Text) (i : Nat) : Cell :=
  if i = k + 1 then
    let run := max before.run (bonusAt text i)
    ⟨before.score + matchScore + max run consecutiveBonus, run, i :: before.path⟩
  else
    let skipped : Int := i - 2 - k
    ⟨before.score - gapStartPenalty - gapExtensionPenalty * skipped + matchScore +
        bonusAt text i,
      bonusAt text i, i :: before.path⟩

section Onward

variable {text : Text} {column : Column} {before other : Cell} {k m i : Nat}

private theorem advance_eq_onward (bonus : column.bonus = bonusAt text (k + 1)) :
    before.advance (k + 1) column = before.onward k text (k + 1) := by
  rw [Cell.onward, if_pos rfl, Cell.advance, bonus]

private theorem land_eq_onward (bonus : column.bonus = bonusAt text i) (apart : k + 1 < i) :
    Gap.land ⟨gapWorth k before, before.path⟩ i column = before.onward k text i := by
  rw [Cell.onward, if_neg (Nat.ne_of_gt apart), Gap.land, bonus]
  simp only [gapWorth, gapExtensionPenalty, Cell.mk.injEq, and_true]
  omega

theorem path_onward : (before.onward k text i).path = i :: before.path := by
  unfold Cell.onward
  split
  · rfl
  · rfl

private theorem standing_onward :
    (before.onward k text i).standing i = (before.standing k).next text i := by
  have last : (before.standing k).last = k := rfl
  rw [Cell.onward, Standing.next, last]
  by_cases adjacent : i = k + 1
  · rw [if_pos adjacent, if_pos adjacent]
    rfl
  · rw [if_neg adjacent, if_neg adjacent]
    simp only [Cell.standing, gapStartPenalty, gapExtensionPenalty, Standing.mk.injEq, and_true]
    omega

private theorem run_onward_of_apart (apart : k + 1 < i) :
    (before.onward k text i).run = bonusAt text i := by
  rw [Cell.onward, if_neg (Nat.ne_of_gt apart)]

private theorem bonusAt_le_run_onward : bonusAt text i ≤ (before.onward k text i).run := by
  unfold Cell.onward
  split
  · exact Nat.le_max_right _ _
  · exact Nat.le_refl _

/-- Across a gap cells compare as the near sides of the gap do, wherever it ends. -/
theorem score_onward_of_apart (apart : k + 1 < i) :
    (before.onward k text i).score =
      gapWorth k before +
        (matchScore + bonusAt text i - gapStartPenalty - gapExtensionPenalty * ((i : Int) - 2)) := by
  rw [Cell.onward, if_neg (Nat.ne_of_gt apart)]
  simp only [gapWorth, gapExtensionPenalty]
  omega

end Onward

/-! ## The best predecessor -/

/-- Whether the cell at position `k` is the one to go on from to position `i`: no other
gives a greater score, and where others give the same it is the neighbour, or none of
them is and it is the earliest. -/
structure IsPredecessor
    (text : Text) (row : List (Option Cell)) (i k : Nat) (before : Cell) : Prop where
  filled : Filled row k before
  inFront : k < i
  greatest : ∀ m other, m < i → Filled row m other →
    (other.onward m text i).score ≤ (before.onward k text i).score
  preferred : ∀ m other, m < i → Filled row m other →
    (other.onward m text i).score = (before.onward k text i).score →
      k + 1 = i ∨ k ≤ m ∧ m + 1 < i

section Predecessor

variable {text : Text} {row : List (Option Cell)} {column : Column} {gap : Option Gap}
variable {before other cell : Cell} {k m i : Nat}

theorem IsPredecessor.unique
    (first : IsPredecessor text row i k before) (second : IsPredecessor text row i m other) :
    k = m ∧ before = other := by
  have atMost := first.greatest m other second.inFront second.filled
  have atLeast := second.greatest k before first.inFront first.filled
  have same := Int.le_antisymm atMost atLeast
  have firstTie := first.preferred m other second.inFront second.filled same
  have secondTie := second.preferred k before first.inFront first.filled same.symm
  obtain rfl : k = m := by omega
  exact ⟨rfl, first.filled.unique second.filled⟩

/-- The best gap is the predecessor where the neighbour is worth less. -/
theorem exists_predecessor_of_gap
    {g : Gap} (bonus : column.bonus = bonusAt text i) (best : BestGap row (i - 1) (some g))
    (better : ∀ near, Filled row (i - 1) near →
      (near.onward (i - 1) text i).score < (g.land i column).score) :
    ∃ k before, IsPredecessor text row i k before ∧ g.land i column = before.onward k text i := by
  obtain ⟨k, before, less, filled, rfl, greatest⟩ := best
  have landed := @land_eq_onward text column before k i bonus (by omega)
  rw [landed] at better ⊢
  refine ⟨k, before, ⟨filled, by omega, ?_, ?_⟩, rfl⟩
  · intro m other inFront otherFilled
    by_cases neighbour : m = i - 1
    · subst neighbour
      exact Int.le_of_lt (better other otherFilled)
    · have worthLe := (greatest m other (by omega) otherFilled).1
      rw [score_onward_of_apart (by omega), score_onward_of_apart (by omega)]
      dsimp only at worthLe
      omega
  · intro m other inFront otherFilled same
    by_cases neighbour : m = i - 1
    · subst neighbour
      exact absurd same (Int.ne_of_lt (better other otherFilled))
    · have earliest := (greatest m other (by omega) otherFilled).2
      rw [score_onward_of_apart (by omega), score_onward_of_apart (by omega)] at same
      refine .inr ⟨?_, by omega⟩
      by_contra earlier
      have worthLt := earliest (by omega)
      dsimp only at worthLt
      omega

/-- The neighbour is the predecessor where the best gap is worth no more. -/
theorem isPredecessor_of_neighbour
    (bonus : column.bonus = bonusAt text (k + 1)) (filled : Filled row k before)
    (best : BestGap row k gap)
    (noBetter : ∀ g ∈ gap,
      (g.land (k + 1) column).score ≤ (before.onward k text (k + 1)).score) :
    IsPredecessor text row (k + 1) k before := by
  refine ⟨filled, Nat.lt_succ_self k, ?_, fun _ _ _ _ _ => .inl rfl⟩
  intro m other inFront otherFilled
  rcases Nat.lt_succ_iff_lt_or_eq.mp inFront with front | rfl
  · cases gap with
    | none => exact absurd otherFilled (best m other front)
    | some g =>
        obtain ⟨k', near, less, nearFilled, rfl, greatest⟩ := best
        have gapLe := noBetter _ rfl
        have worthLe := (greatest m other front otherFilled).1
        rw [land_eq_onward bonus (by omega), score_onward_of_apart (by omega)] at gapLe
        rw [score_onward_of_apart (by omega)]
        dsimp only at worthLe
        omega
  · exact Int.le_of_eq (congrArg (fun c => (Cell.onward c m text (m + 1)).score)
      (otherFilled.unique filled))

/-- What is kept at a position goes on from the predecessor. -/
theorem exists_predecessor_of_bestAt
    (bonus : column.bonus = bonusAt text i) (best : BestGap row (i - 1) gap)
    (reached : bestAt i column gap (cellBefore row i) = some cell) :
    ∃ k before, IsPredecessor text row i k before ∧ cell = before.onward k text i := by
  cases i with
  | zero =>
      cases gap with
      | none => cases reached
      | some g =>
          obtain ⟨k, _, less, _⟩ := best
          exact absurd less (Nat.not_lt_zero k)
  | succ k =>
      cases neighbour : cellBefore row (k + 1) with
      | none =>
          have alone : ∀ near, ¬ Filled row k near := by
            intro near filled
            rw [cellBefore_succ_eq_some_iff.mpr filled] at neighbour
            cases neighbour
          rw [neighbour] at reached
          cases gap with
          | none => cases reached
          | some g =>
              obtain rfl : g.land (k + 1) column = cell := Option.some.inj reached
              apply exists_predecessor_of_gap bonus best
              intro near filled
              exact absurd filled (alone near)
      | some near =>
          have nearFilled := cellBefore_succ_eq_some_iff.mp neighbour
          have along := @advance_eq_onward text column near k bonus
          rw [neighbour] at reached
          cases gap with
          | none =>
              obtain rfl : near.advance (k + 1) column = cell := Option.some.inj reached
              have first := isPredecessor_of_neighbour bonus nearFilled best (by simp)
              exact ⟨k, near, first, along⟩
          | some g =>
              simp only [bestAt, along, Option.some.injEq] at reached
              split at reached
              · next across =>
                  subst reached
                  apply exists_predecessor_of_gap bonus best
                  intro other filled
                  rw [filled.unique nearFilled]
                  exact across
              · next across =>
                  subst reached
                  have first := isPredecessor_of_neighbour bonus nearFilled best (by
                    intro h member
                    cases member
                    exact Int.not_lt.mp across)
                  exact ⟨k, near, first, rfl⟩

/-- Something is kept as soon as there is a filled cell in front. -/
theorem exists_bestAt_of_filled
    (best : BestGap row (i - 1) gap) (inFront : k < i) (filled : Filled row k before)
    (column : Column) :
    ∃ cell, bestAt i column gap (cellBefore row i) = some cell := by
  cases gap with
  | some g =>
      cases cellBefore row i with
      | none => exact ⟨_, rfl⟩
      | some near => exact ⟨_, rfl⟩
  | none =>
      have notApart : ¬ k < i - 1 := fun apart => best k before apart filled
      obtain rfl : i = k + 1 := by omega
      rw [cellBefore_succ_eq_some_iff.mpr filled]
      exact ⟨_, rfl⟩

/-- Whether a standing is no better than a cell: worth less, or worth the same
with a run that is no stronger. -/
def Cell.Covers (cell : Cell) (s : Standing) : Prop :=
  s.worth ≤ cell.score ∧ (s.worth = cell.score → s.run ≤ cell.run)

/-- Going on from the predecessor is at least as good as going on from any other cell. -/
theorem IsPredecessor.covers
    (first : IsPredecessor text row i k before) (inFront : m < i)
    (filled : Filled row m other) :
    (before.onward k text i).Covers ((other.standing m).next text i) := by
  rw [← standing_onward]
  refine ⟨first.greatest m other inFront filled, ?_⟩
  intro same
  change (other.onward m text i).run ≤ (before.onward k text i).run
  by_cases apart : m + 1 < i
  · rw [run_onward_of_apart apart]
    exact bonusAt_le_run_onward
  · -- The neighbour is preferred, so the two are one.
    have preferred := first.preferred m other inFront filled same
    obtain rfl : m = k := by
      have near := first.inFront
      omega
    obtain rfl := filled.unique first.filled
    exact Nat.le_refl _

end Predecessor

section Rows

variable {text : Text} {row : List (Option Cell)}

theorem filled_firstRow_iff {wanted : Char} {i : Nat} {cell : Cell} :
    Filled (firstRow wanted 0 (columns text)) i cell ↔
      (text.map fold)[i]? = some wanted ∧
        cell = ⟨matchScore + bonusAt text i, bonusAt text i, [i]⟩ := by
  rw [Filled, firstRow_getElem?, columns_getElem?]
  cases (text.map fold)[i]? with
  | none => simp
  | some c =>
      by_cases same : c = wanted
      · simp [same, eq_comm]
      · simp [same]

private theorem getElem?_nextRow_of_found
    (sameLength : row.length = text.length) {wanted : Char} {i : Nat}
    (found : (text.map fold)[i]? = some wanted) :
    ∃ gap, BestGap row (i - 1) gap ∧
      (nextRow wanted 0 none none none row (columns text))[i]? =
        some (bestAt i ⟨wanted, bonusAt text i⟩ gap (cellBefore row i)) := by
  have rowLength : row.length = (columns text).length := by
    rw [sameLength, length_columns]
  have columnFound : (columns text)[i]? = some ⟨wanted, bonusAt text i⟩ := by
    rw [columns_getElem?, found, Option.map_some]
  obtain ⟨gap, best, here⟩ := @nextRow_getElem? wanted _ _ rowLength _ _ columnFound
  rw [if_pos rfl] at here
  exact ⟨gap, best, here⟩

private theorem wanted_of_filled
    (sameLength : row.length = text.length) {wanted : Char} {i : Nat} {cell : Cell}
    (filled : Filled (nextRow wanted 0 none none none row (columns text)) i cell) :
    (text.map fold)[i]? = some wanted := by
  have rowLength : row.length = (columns text).length := by
    rw [sameLength, length_columns]
  have within : i < (columns text).length := by
    rw [← length_nextRow wanted 0 none none none row (columns text) rowLength]
    exact (List.getElem?_eq_some_iff.mp filled).1
  have found := List.getElem?_eq_getElem within
  obtain ⟨gap, -, here⟩ := @nextRow_getElem? wanted _ _ rowLength _ _ found
  rw [Filled, here] at filled
  rw [columns_getElem?, Option.map_eq_some_iff] at found
  obtain ⟨c, folded, same⟩ := found
  rw [← same] at filled
  split at filled
  · next wantedHere =>
      rw [folded]
      exact congrArg some wantedHere
  · cases filled

/-- A cell goes on from its predecessor in the row in front, and stands only where the text
has the wanted character. -/
theorem exists_predecessor_of_filled
    (sameLength : row.length = text.length) {wanted : Char} {i : Nat} {cell : Cell}
    (filled : Filled (nextRow wanted 0 none none none row (columns text)) i cell) :
    (text.map fold)[i]? = some wanted ∧
      ∃ k before, IsPredecessor text row i k before ∧ cell = before.onward k text i := by
  have found := wanted_of_filled sameLength filled
  obtain ⟨gap, best, here⟩ := getElem?_nextRow_of_found sameLength found
  rw [Filled, here, Option.some.injEq] at filled
  exact ⟨found, exists_predecessor_of_bestAt rfl best filled⟩

theorem exists_filled_of_found
    (sameLength : row.length = text.length) {wanted : Char} {k i : Nat} {before : Cell}
    (found : (text.map fold)[i]? = some wanted) (less : k < i) (filled : Filled row k before) :
    ∃ cell, Filled (nextRow wanted 0 none none none row (columns text)) i cell := by
  obtain ⟨gap, best, here⟩ := getElem?_nextRow_of_found sameLength found
  obtain ⟨cell, reached⟩ := exists_bestAt_of_filled best less filled ⟨wanted, bonusAt text i⟩
  exact ⟨cell, by rw [Filled, here, reached]⟩

/-- A row has a cell where the text has the wanted character behind a filled cell of the
row in front, and the cell goes on from its predecessor there. -/
theorem filled_nextRow_iff
    (sameLength : row.length = text.length) {wanted : Char} {i : Nat} {cell : Cell} :
    Filled (nextRow wanted 0 none none none row (columns text)) i cell ↔
      (text.map fold)[i]? = some wanted ∧
        ∃ k before, IsPredecessor text row i k before ∧ cell = before.onward k text i := by
  constructor
  · exact exists_predecessor_of_filled sameLength
  · intro goesOn
    obtain ⟨found, k, before, first, same⟩ := goesOn
    -- There is some cell, and its predecessor can only be this one.
    obtain ⟨reached, filled⟩ :=
      exists_filled_of_found sameLength found first.inFront first.filled
    obtain ⟨-, m, other, second, reachedSame⟩ := exists_predecessor_of_filled sameLength filled
    obtain ⟨samePlace, sameCell⟩ := first.unique second
    rw [same, samePlace, sameCell, ← reachedSame]
    exact filled

/-- A cell goes on from a filled cell of the row in front, and only where the
text has the wanted character. -/
theorem exists_before_of_filled
    (sameLength : row.length = text.length)
    {wanted : Char} {i : Nat} {cell : Cell}
    (filled :
      Filled (nextRow wanted 0 none none none row (columns text)) i cell) :
    (text.map fold)[i]? = some wanted ∧
      ∃ k before, k < i ∧ Filled row k before ∧
        cell.path = i :: before.path ∧
        cell.standing i = (before.standing k).next text i := by
  obtain ⟨found, k, before, first, rfl⟩ := exists_predecessor_of_filled sameLength filled
  exact ⟨found, k, before, first.inFront, first.filled, path_onward, standing_onward⟩

/-- Where the text has the wanted character behind a filled cell there is a cell,
and it covers going on from there. -/
theorem exists_covering_cell
    (sameLength : row.length = text.length)
    {wanted : Char} {k i : Nat} {before : Cell}
    (found : (text.map fold)[i]? = some wanted)
    (less : k < i) (filled : Filled row k before) :
    ∃ cell,
      Filled (nextRow wanted 0 none none none row (columns text)) i cell ∧
        cell.Covers ((before.standing k).next text i) := by
  obtain ⟨cell, reached⟩ := exists_filled_of_found sameLength found less filled
  obtain ⟨-, m, other, first, rfl⟩ := exists_predecessor_of_filled sameLength reached
  exact ⟨_, reached, first.covers less filled⟩

end Rows

/-! ## The best cell of a row -/

theorem filled_cons_succ
    {here : Option Cell} {row : List (Option Cell)} {i : Nat} {cell : Cell} :
    Filled (here :: row) (i + 1) cell ↔ Filled row i cell := by
  rw [Filled, List.getElem?_cons_succ, Filled]

theorem filled_cons_zero
    {here : Option Cell} {row : List (Option Cell)} {cell : Cell} :
    Filled (here :: row) 0 cell ↔ here = some cell := by
  rw [Filled, List.getElem?_cons_zero, Option.some.injEq]

theorem bestCell_eq_none_iff {row : List (Option Cell)} :
    bestCell row = none ↔ ∀ i cell, ¬ Filled row i cell := by
  induction row with
  | nil =>
      simp [bestCell, Filled]
  | cons here row inductionHypothesis =>
      cases here with
      | none =>
          rw [bestCell, inductionHypothesis]
          constructor
          · intro empty i cell filled
            cases i with
            | zero => simp [filled_cons_zero] at filled
            | succ i => exact empty i cell (filled_cons_succ.mp filled)
          · intro empty i cell filled
            exact empty (i + 1) cell (filled_cons_succ.mpr filled)
      | some cell =>
          constructor
          · intro absent
            rw [bestCell] at absent
            split at absent <;> cases absent
          · intro empty
            exact absurd (filled_cons_zero.mpr rfl) (empty 0 cell)

/-- The best cell is one of the row, and no other has a greater score. -/
theorem filled_of_bestCell
    {row : List (Option Cell)} {best : Cell} (found : bestCell row = some best) :
    (∃ i, Filled row i best) ∧
      ∀ i cell, Filled row i cell → cell.score ≤ best.score := by
  induction row generalizing best with
  | nil =>
      simp [bestCell] at found
  | cons here row inductionHypothesis =>
      cases here with
      | none =>
          obtain ⟨⟨i, filled⟩, greatest⟩ := inductionHypothesis found
          refine ⟨⟨i + 1, filled_cons_succ.mpr filled⟩, ?_⟩
          intro j cell other
          cases j with
          | zero => simp [filled_cons_zero] at other
          | succ j => exact greatest j cell (filled_cons_succ.mp other)
      | some here =>
          rw [bestCell] at found
          cases rest : bestCell row with
          | none =>
              rw [rest, Option.some.injEq] at found
              subst found
              refine ⟨⟨0, rfl⟩, ?_⟩
              intro j cell other
              cases j with
              | zero =>
                  have same := Option.some.inj (filled_cons_zero.mp other)
                  exact Int.le_of_eq (congrArg Cell.score same.symm)
              | succ j =>
                  exact absurd (filled_cons_succ.mp other)
                    (bestCell_eq_none_iff.mp rest j cell)
          | some later =>
              obtain ⟨⟨i, filled⟩, greatest⟩ := inductionHypothesis rest
              rw [rest, Option.some.injEq] at found
              constructor
              · split at found
                · exact ⟨i + 1, filled_cons_succ.mpr (found ▸ filled)⟩
                · exact ⟨0, filled_cons_zero.mpr (congrArg some found)⟩
              · have bounds :
                    here.score ≤ best.score ∧ later.score ≤ best.score := by
                  split at found
                  · subst found
                    exact ⟨by omega, Int.le_refl _⟩
                  · subst found
                    exact ⟨Int.le_refl _, by omega⟩
                intro j cell other
                cases j with
                | zero =>
                    rw [← Option.some.inj (filled_cons_zero.mp other)]
                    exact bounds.1
                | succ j =>
                    have scoreLe :=
                      greatest j cell (filled_cons_succ.mp other)
                    exact Int.le_trans scoreLe bounds.2

theorem lastRow_concat
    (columns : List Column) (row : List (Option Cell))
    (query : Text) (wanted : Char) :
    lastRow columns row (query ++ [wanted]) =
      nextRow wanted 0 none none none (lastRow columns row query) columns := by
  induction query generalizing row with
  | nil => rfl
  | cons first query inductionHypothesis =>
      exact inductionHypothesis _

def rowAt (first : Char) (query : Text) (columns : List Column) (j : Nat) :
    List (Option Cell) :=
  lastRow columns (firstRow first 0 columns) (query.take j)

theorem rowAt_succ
    {first wanted : Char} {query : Text} {columns : List Column} {j : Nat}
    (found : query[j]? = some wanted) :
    rowAt first query columns (j + 1) =
      nextRow wanted 0 none none none (rowAt first query columns j) columns := by
  rw [rowAt, List.take_add_one, found]
  exact lastRow_concat columns _ _ wanted

/-- What holds of the row of one character, and of each row made from one of
which it holds, holds of the last row. -/
theorem lastRow_induction
    {columns : List Column} {holds : Text → List (Option Cell) → Prop}
    (start : ∀ wanted, holds [wanted] (firstRow wanted 0 columns))
    (step : ∀ done wanted row, done ≠ [] → holds done row →
      holds (done ++ [wanted]) (nextRow wanted 0 none none none row columns))
    (first : Char) (query : Text) :
    holds (first :: query)
      (lastRow columns (firstRow first 0 columns) query) := by
  induction query using List.reverseRecOn with
  | nil => exact start first
  | append_singleton query wanted inductionHypothesis =>
      rw [lastRow_concat, ← List.cons_append]
      exact step _ _ _ (List.cons_ne_nil first query) inductionHypothesis

end Keychart.Search
