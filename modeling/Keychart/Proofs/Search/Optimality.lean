import Keychart.Proofs.Search.Matching
import Mathlib.Order.Bounds.Basic

/-!
# When the best alignment is found

The score of a match is that of an alignment, and it should be the greatest
that an alignment has.  A row keeps one cell for each position, the one that is
worth most there, and forgets how strong the runs of the others were.  A run
that is worth less now may be worth more later, so the best alignment can be
lost on the way.

It is found exactly when some best alignment is *kept*: none of its beginnings
is worth less than another kept alignment of the same characters that ends at
the same position.  A text without a capital behind a small letter has only
bonuses at the start of words, and there nothing is ever lost.
-/

namespace Keychart.Search

open Unicode

/-- The score of the best alignment found, before the length of the text counts. -/
def rawScore? (query text : Text) : Option Int :=
  (bestAlignment? query text).map Cell.score

def worths (query text : Text) : Set Int :=
  { w | ∃ positions, Aligned (query.map fold) (text.map fold) positions ∧
    worth text positions = w }

/-- The alignments kept for some characters, given the last one first: each goes
on from a kept one, and no kept one reaches the same position for more. -/
def KeptBack (text : Text) : (backwards : Text) → List Nat → Prop
  | [], positions => positions = []
  | w :: earlier, positions =>
    ∃ front i, positions = front ++ [i] ∧ KeptBack text earlier front ∧
      Aligned (earlier.reverse ++ [w]) (text.map fold) (front ++ [i]) ∧
      ∀ other, KeptBack text earlier other →
        Aligned (earlier.reverse ++ [w]) (text.map fold) (other ++ [i]) →
          worth text (other ++ [i]) ≤ worth text (front ++ [i])

/-- The alignments of folded characters that are kept. -/
def Kept (text wanted : Text) (positions : List Nat) : Prop :=
  KeptBack text wanted.reverse positions

theorem kept_nil_iff {text : Text} {positions : List Nat} :
    Kept text [] positions ↔ positions = [] := Iff.rfl

theorem kept_concat_iff
    {text done : Text} {w : Char} {front : List Nat} {i : Nat} :
    Kept text (done ++ [w]) (front ++ [i]) ↔
      Kept text done front ∧
      Aligned (done ++ [w]) (text.map fold) (front ++ [i]) ∧
      ∀ other, Kept text done other →
        Aligned (done ++ [w]) (text.map fold) (other ++ [i]) →
          worth text (other ++ [i]) ≤ worth text (front ++ [i]) := by
  simp only [Kept, List.reverse_append, List.reverse_singleton,
    List.singleton_append, KeptBack, List.reverse_reverse]
  constructor
  · rintro ⟨front', i', same, parts⟩
    obtain ⟨rfl, rfl⟩ := List.append_singleton_inj.mp same
    exact parts
  · intro parts
    exact ⟨front, i, rfl, parts⟩

theorem Kept.aligned
    {text wanted : Text} {positions : List Nat}
    (kept : Kept text wanted positions) :
    Aligned wanted (text.map fold) positions := by
  rcases List.eq_nil_or_concat' wanted with rfl | ⟨done, w, rfl⟩
  · exact aligned_nil_iff.mpr kept
  · have shape := kept
    rw [Kept, List.reverse_append] at shape
    obtain ⟨front, i, rfl, -⟩ := shape
    exact (kept_concat_iff.mp kept).2.1

/-- An alignment that ends where a cell stands is worth its score and has a run
no stronger than that of the cell. -/
def Cell.Matches (cell : Cell) (text : Text) (positions : List Nat) : Prop :=
  ∃ s, standing? text positions = some s ∧ s.worth = cell.score ∧
    s.run ≤ cell.run

/-- The cells of a row hold kept alignments, and no kept alignment stands better
than the cell it ends at. -/
structure RowKeeps
    (text wanted : Text) (row : List (Option Cell)) : Prop where
  kept : ∀ i cell, Filled row i cell → Kept text wanted cell.path.reverse
  greatest : ∀ front i cell, Kept text wanted (front ++ [i]) →
    Filled row i cell → cell.Matches text (front ++ [i])

private theorem rowKeeps_firstRow (text : Text) (wanted : Char) :
    RowKeeps text [wanted] (firstRow wanted 0 (columns text)) := by
  constructor
  · intro i cell filled
    obtain ⟨found, rfl⟩ := filled_firstRow_iff.mp filled
    refine (@kept_concat_iff text [] wanted [] i).mpr ⟨rfl, ?_, ?_⟩
    · exact aligned_singleton_iff.mpr ⟨i, rfl, found⟩
    · intro other kept _
      rw [kept_nil_iff.mp kept]
  · intro front i cell kept filled
    obtain ⟨-, rfl⟩ := filled_firstRow_iff.mp filled
    have empty := ((@kept_concat_iff text [] wanted front i).mp kept).1
    rw [kept_nil_iff.mp empty]
    exact ⟨Standing.start text i, rfl, rfl, Nat.le_refl _⟩

/-- A kept alignment with one more position is covered by the cell there. -/
private theorem RowKeeps.covers
    {text done : Text} {row : List (Option Cell)} {w : Char}
    {front : List Nat} {i : Nat}
    (described : RowDescribes text done row) (keeps : RowKeeps text done row)
    (nonempty : done ≠ []) (kept : Kept text done front)
    (aligned : Aligned (done ++ [w]) (text.map fold) (front ++ [i])) :
    ∃ cell s,
      Filled (nextRow w 0 none none none row (columns text)) i cell ∧
        standing? text (front ++ [i]) = some s ∧ cell.Covers s := by
  obtain ⟨front', k, rfl⟩ := kept.aligned.eq_concat nonempty
  obtain ⟨kAligned, less, found⟩ := aligned_extend_iff.mp aligned
  obtain ⟨before, beforeFilled⟩ := described.complete front' k kAligned
  obtain ⟨s, stands, worthEq, runLe⟩ :=
    keeps.greatest front' k before kept beforeFilled
  obtain ⟨t, tStands, tLast, goesOn⟩ := standing?_concat_concat text front' k i
  obtain rfl : s = t := Option.some.inj (stands.symm.trans tStands)
  obtain ⟨cell, filled, worthLe, tie⟩ :=
    exists_covering_cell described.length found less beforeFilled
  have mono :
      (s.next text i).worth ≤ ((before.standing k).next text i).worth ∧
        (s.next text i).run ≤ ((before.standing k).next text i).run :=
    Standing.next_mono tLast (Int.le_of_eq worthEq) runLe
  refine ⟨cell, s.next text i, filled, goesOn, by omega, ?_⟩
  intro same
  exact Nat.le_trans mono.2 (tie (by omega))

/-- The path of a cell goes on from the kept path of the cell before it, and the
cell covers whatever another kept path makes of it. -/
private theorem RowKeeps.kept_nextRow
    {text done : Text} {row : List (Option Cell)} {wanted : Char}
    {i : Nat} {cell : Cell}
    (described : RowDescribes text done row) (keeps : RowKeeps text done row)
    (nonempty : done ≠ [])
    (filled :
      Filled (nextRow wanted 0 none none none row (columns text)) i cell) :
    Kept text (done ++ [wanted]) cell.path.reverse := by
  have nextDescribed := described.nextRow nonempty wanted
  obtain ⟨front, shape, aligned, stands⟩ := nextDescribed.sound i cell filled
  obtain ⟨-, k, before, -, beforeFilled, path, -⟩ :=
    exists_before_of_filled described.length filled
  have fronts : before.path.reverse = front := by
    rw [path, List.reverse_cons] at shape
    exact (List.append_singleton_inj.mp shape).1
  rw [shape, kept_concat_iff]
  refine ⟨fronts ▸ keeps.kept k before beforeFilled, aligned, ?_⟩
  intro other otherKept otherAligned
  obtain ⟨cell', s, filled', otherStands, covers⟩ :=
    keeps.covers described nonempty otherKept otherAligned
  obtain rfl := filled.unique filled'
  rw [worth_eq otherStands, worth_eq stands]
  exact covers.1

theorem RowKeeps.nextRow
    {text done : Text} {row : List (Option Cell)}
    (described : RowDescribes text done row) (keeps : RowKeeps text done row)
    (nonempty : done ≠ []) (wanted : Char) :
    RowKeeps text (done ++ [wanted])
      (nextRow wanted 0 none none none row (columns text)) := by
  have nextDescribed := described.nextRow nonempty wanted
  refine ⟨fun i cell filled => keeps.kept_nextRow described nonempty filled, ?_⟩
  intro front i cell frontKept filled
  obtain ⟨beforeKept, aligned, most⟩ := kept_concat_iff.mp frontKept
  obtain ⟨cell', s, filled', stands, covers⟩ :=
    keeps.covers described nonempty beforeKept aligned
  obtain rfl := filled.unique filled'
  -- Kept as well, the path of the cell is worth no more.
  obtain ⟨own, shape, -, ownStands⟩ := nextDescribed.sound i cell filled
  have ownKept := keeps.kept_nextRow described nonempty filled
  rw [shape, kept_concat_iff] at ownKept
  have scoreLe := most own ownKept.1 ownKept.2.1
  rw [worth_eq stands, worth_eq ownStands] at scoreLe
  have same : s.worth = cell.score := Int.le_antisymm covers.1 scoreLe
  exact ⟨s, stands, same, covers.2 same⟩

private theorem rowKeeps_lastRow (text : Text) (first : Char) (query : Text) :
    RowKeeps text (first :: query)
      (lastRow (columns text) (firstRow first 0 (columns text)) query) :=
  lastRow_induction_of_describes (rowKeeps_firstRow text)
    (fun _ wanted _ nonempty described keeps =>
      RowKeeps.nextRow described keeps nonempty wanted)
    first query

/-- The run of an alignment is the bonus of one of the positions of the text. -/
theorem exists_bonusAt_of_standing
    {text : Text} {positions : List Nat} {s : Standing}
    (stands : standing? text positions = some s) :
    ∃ p, s.run = bonusAt text p := by
  induction positions using List.reverseRecOn generalizing s with
  | nil => cases stands
  | append_singleton front i inductionHypothesis =>
      rw [standing?_concat] at stands
      cases before : standing? text front with
      | none =>
          rw [before] at stands
          cases stands
          exact ⟨i, rfl⟩
      | some t =>
          rw [before] at stands
          cases stands
          obtain ⟨p, run⟩ := inductionHypothesis before
          unfold Standing.next
          split
          · rcases Nat.le_total t.run (bonusAt text i) with weaker | stronger
            · exact ⟨i, Nat.max_eq_right weaker⟩
            · exact ⟨p, (Nat.max_eq_left stronger).trans run⟩
          · exact ⟨i, rfl⟩

/-- Moving the last position of an alignment farther on costs at most the
strongest bonus, the start of a gap and the characters moved across. -/
theorem worth_le_worth_moved
    (text : Text) (front : List Nat) {k m : Nat}
    (behind : Behind k front) (less : k < m) :
    worth text (front ++ [k]) ≤
      worth text (front ++ [m]) + boundaryBonus + gapStartPenalty +
        ((m : Int) - k - 1) := by
  have bonusLe := bonusAt_le text k
  rcases List.eq_nil_or_concat' front with rfl | ⟨front, last, rfl⟩
  · change (matchScore + bonusAt text k : Int) ≤
      matchScore + bonusAt text m + boundaryBonus + gapStartPenalty +
        ((m : Int) - k - 1)
    simp only [boundaryBonus, gapStartPenalty] at *
    omega
  · have lastLess : last < k := behind last (by simp)
    obtain ⟨s, stands, sLast, here⟩ := standing?_concat_concat text front last k
    obtain ⟨t, tStands, -, there⟩ := standing?_concat_concat text front last m
    obtain rfl : s = t := Option.some.inj (stands.symm.trans tStands)
    obtain ⟨p, run⟩ := exists_bonusAt_of_standing stands
    have runLe := bonusAt_le text p
    rw [worth_eq here, worth_eq there]
    have distant : m ≠ s.last + 1 := by omega
    rw [Standing.next, Standing.next, if_neg distant]
    simp only [boundaryBonus, gapStartPenalty, gapExtensionPenalty,
      consecutiveBonus] at *
    split
    · dsimp only
      omega
    · dsimp only
      omega

/-- No alignment stands better than the cell it ends at. -/
structure RowGreatest
    (text wanted : Text) (row : List (Option Cell)) : Prop where
  covers : ∀ front i cell,
    Aligned wanted (text.map fold) (front ++ [i]) → Filled row i cell →
      ∃ s, standing? text (front ++ [i]) = some s ∧ s.worth ≤ cell.score ∧
        s.run ≤ cell.run

private theorem rowGreatest_firstRow (text : Text) (wanted : Char) :
    RowGreatest text [wanted] (firstRow wanted 0 (columns text)) := by
  constructor
  intro front i cell aligned filled
  obtain ⟨-, rfl⟩ := filled_firstRow_iff.mp filled
  obtain ⟨i', same, -⟩ := aligned_singleton_iff.mp aligned
  obtain ⟨rfl, rfl⟩ := List.append_singleton_inj.mp
    (same.trans (List.nil_append [i']).symm)
  exact ⟨Standing.start text i, rfl, Int.le_refl _, Nat.le_refl _⟩

section WordStarts

variable {text done : Text} {row : List (Option Cell)}

/-- A cell is worth little more than one farther on in its row. -/
private theorem RowGreatest.score_le
    (greatest : RowGreatest text done row)
    (described : RowDescribes text done row) (nonempty : done ≠ [])
    {k m : Nat} {cell farther : Cell} (filled : Filled row k cell)
    (fartherFilled : Filled row m farther) (less : k < m) :
    cell.score ≤ farther.score + boundaryBonus + gapStartPenalty +
      ((m : Int) - k - 1) := by
  obtain ⟨front, -, aligned, stands⟩ := described.sound k cell filled
  obtain ⟨other, -, otherAligned, -⟩ := described.sound m farther fartherFilled
  obtain ⟨done', w, rfl⟩ :=
    (List.eq_nil_or_concat' done).resolve_left nonempty
  obtain ⟨frontAligned, behind, -⟩ := aligned_append_singleton_iff.mp aligned
  obtain ⟨-, -, found⟩ := aligned_append_singleton_iff.mp otherAligned
  have moved :
      Aligned (done' ++ [w]) (text.map fold) (front ++ [m]) :=
    aligned_append_singleton_iff.mpr
      ⟨frontAligned, fun p member => Nat.lt_trans (behind p member) less, found⟩
  obtain ⟨s, movedStands, worthLe, -⟩ :=
    greatest.covers front m farther moved fartherFilled
  have cost := worth_le_worth_moved text front behind less
  rw [worth_eq stands, worth_eq movedStands] at cost
  simp only [Cell.standing] at cost
  omega

/-- Where words alone give bonuses, a gap is worth no more than going on from the
neighbour in a run stronger than the bonus at the position. -/
private theorem gap_le_neighbour
    (greatest : RowGreatest text done row)
    (described : RowDescribes text done row) (nonempty : done ≠ [])
    (plain : ∀ p, bonusAt text p ≠ camelBonus)
    {j k : Nat} {far near : Cell} (farFilled : Filled row j far)
    (nearFilled : Filled row k near) (less : j < k)
    (stronger : bonusAt text (k + 1) < near.run) :
    ((far.standing j).next text (k + 1)).worth ≤
      ((near.standing k).next text (k + 1)).worth := by
  have scoreLe :=
    greatest.score_le described nonempty farFilled nearFilled less
  obtain ⟨front, -, -, stands⟩ := described.sound k near nearFilled
  obtain ⟨p, run⟩ := exists_bonusAt_of_standing stands
  have runCases := bonusAt_cases text p
  have hereCases := bonusAt_cases text (k + 1)
  have runPlain := plain p
  have herePlain := plain (k + 1)
  have distant : k + 1 ≠ (far.standing j).last + 1 := by
    change k + 1 ≠ j + 1
    omega
  have adjacent : k + 1 = (near.standing k).last + 1 := rfl
  rw [Standing.next, if_neg distant, Standing.next, if_pos adjacent]
  simp only [Cell.standing, boundaryBonus, camelBonus, gapStartPenalty,
    gapExtensionPenalty, consecutiveBonus] at *
  push_cast
  omega

/-- A cell that covers going on from a neighbour or across a gap has a run no
weaker than what it covers. -/
private theorem RowGreatest.run_le
    (described : RowDescribes text done row)
    (greatest : RowGreatest text done row) (nonempty : done ≠ [])
    (plain : ∀ p, bonusAt text p ≠ camelBonus) {wanted : Char}
    {i k : Nat} {cell before : Cell}
    (filled :
      Filled (nextRow wanted 0 none none none row (columns text)) i cell)
    (beforeFilled : Filled row k before)
    (covers : cell.Covers ((before.standing k).next text i)) :
    ((before.standing k).next text i).run ≤ cell.run := by
  -- The cell itself goes on from `j`.
  obtain ⟨-, j, own, ownLess, ownFilled, -, ownStands⟩ :=
    exists_before_of_filled described.length filled
  have ownRun : bonusAt text i ≤ cell.run := by
    have bound := Standing.bonusAt_le_run_next text (own.standing j) i
    rw [← ownStands] at bound
    exact bound
  by_cases adjacent : i = k + 1
  · subst adjacent
    by_cases stronger : bonusAt text (k + 1) < before.run
    · rcases Nat.lt_or_eq_of_le (Nat.le_of_lt_succ ownLess) with gap | rfl
      · have gapLe :=
          gap_le_neighbour greatest described nonempty plain
            ownFilled beforeFilled gap stronger
        rw [← ownStands] at gapLe
        exact covers.2 (Int.le_antisymm covers.1 gapLe)
      · obtain rfl := ownFilled.unique beforeFilled
        rw [← ownStands]
        exact Nat.le_refl _
    · have run :
          ((before.standing k).next text (k + 1)).run =
            max before.run (bonusAt text (k + 1)) :=
        Standing.run_next_of_eq rfl
      omega
  · have run :
        ((before.standing k).next text i).run = bonusAt text i :=
      Standing.run_next_of_ne adjacent
    omega

theorem RowGreatest.nextRow
    (described : RowDescribes text done row)
    (greatest : RowGreatest text done row) (nonempty : done ≠ [])
    (plain : ∀ p, bonusAt text p ≠ camelBonus) (wanted : Char) :
    RowGreatest text (done ++ [wanted])
      (nextRow wanted 0 none none none row (columns text)) := by
  constructor
  intro front i cell aligned filled
  obtain ⟨frontAligned, -⟩ := aligned_append_singleton_iff.mp aligned
  obtain ⟨front', k, rfl⟩ := frontAligned.eq_concat nonempty
  obtain ⟨kAligned, less, found⟩ := aligned_extend_iff.mp aligned
  obtain ⟨before, beforeFilled⟩ := described.complete front' k kAligned
  obtain ⟨s, stands, worthLe, runLe⟩ :=
    greatest.covers front' k before kAligned beforeFilled
  obtain ⟨t, tStands, tLast, goesOn⟩ := standing?_concat_concat text front' k i
  obtain rfl : s = t := Option.some.inj (stands.symm.trans tStands)
  obtain ⟨cell', filled', covers⟩ :=
    exists_covering_cell described.length found less beforeFilled
  obtain rfl := filled.unique filled'
  have mono :
      (s.next text i).worth ≤ ((before.standing k).next text i).worth ∧
        (s.next text i).run ≤ ((before.standing k).next text i).run :=
    Standing.next_mono tLast worthLe runLe
  have cellRun :=
    greatest.run_le described nonempty plain filled beforeFilled covers
  exact ⟨s.next text i, goesOn, Int.le_trans mono.1 covers.1,
    Nat.le_trans mono.2 cellRun⟩

private theorem rowGreatest_lastRow
    (plain : ∀ p, bonusAt text p ≠ camelBonus) (first : Char) (query : Text) :
    RowGreatest text (first :: query)
      (lastRow (columns text) (firstRow first 0 (columns text)) query) :=
  lastRow_induction_of_describes (rowGreatest_firstRow text)
    (fun _ wanted _ nonempty described greatest =>
      RowGreatest.nextRow described greatest nonempty plain wanted)
    first query

end WordStarts

/-! ## The score found -/

section Found

variable {query text : Text} {best : Cell}

/-- The best alignment found is kept, with its worth for a score, and no kept
alignment is worth more. -/
theorem bestAlignment_greatest_kept
    (found : bestAlignment? query text = some best) :
    Kept text (query.map fold) best.path.reverse ∧
      worth text best.path.reverse = best.score ∧
      ∀ other, Kept text (query.map fold) other →
        worth text other ≤ best.score := by
  obtain ⟨first, rest, last, folded, aligned, filled, front, shape, -, stands⟩ :=
    describes_of_bestAlignment found
  have keeps := rowKeeps_lastRow text first rest
  have described := rowDescribes_lastRow text first rest
  rw [rowAt, List.take_length] at filled
  rw [folded]
  refine ⟨keeps.kept last best filled, ?_, ?_⟩
  · rw [shape]
    exact worth_eq stands
  · intro other kept
    obtain ⟨front', i, rfl⟩ := kept.aligned.eq_concat (List.cons_ne_nil _ _)
    obtain ⟨cell, cellFilled⟩ := described.complete front' i kept.aligned
    obtain ⟨s, otherStands, same, -⟩ :=
      keeps.greatest front' i cell kept cellFilled
    rw [worth_eq otherStands, same]
    exact (filled_of_bestCell aligned).2 i cell cellFilled

/-- The alignments of a text with bonuses at the start of words alone are worth
no more than the one found. -/
theorem worth_le_bestAlignment
    (found : bestAlignment? query text = some best)
    (plain : ∀ p, bonusAt text p ≠ camelBonus) {other : List Nat}
    (otherAligned : Aligned (query.map fold) (text.map fold) other) :
    worth text other ≤ best.score := by
  obtain ⟨first, rest, last, folded, aligned, -⟩ :=
    describes_of_bestAlignment found
  have greatest := rowGreatest_lastRow plain first rest
  have described := rowDescribes_lastRow text first rest
  rw [folded] at otherAligned
  obtain ⟨front, i, rfl⟩ := otherAligned.eq_concat (List.cons_ne_nil _ _)
  obtain ⟨cell, filled⟩ := described.complete front i otherAligned
  obtain ⟨s, stands, worthLe, -⟩ :=
    greatest.covers front i cell otherAligned filled
  rw [worth_eq stands]
  exact Int.le_trans worthLe ((filled_of_bestCell aligned).2 i cell filled)

/-- The score found is the greatest exactly when some best alignment is kept. -/
theorem isGreatest_score_iff
    (found : bestAlignment? query text = some best) :
    IsGreatest (worths query text) best.score ↔
      ∃ positions, Kept text (query.map fold) positions ∧
        ∀ other, Aligned (query.map fold) (text.map fold) other →
          worth text other ≤ worth text positions := by
  obtain ⟨kept, worthEq, most⟩ := bestAlignment_greatest_kept found
  constructor
  · rintro ⟨-, bound⟩
    refine ⟨best.path.reverse, kept, ?_⟩
    intro other otherAligned
    rw [worthEq]
    exact bound ⟨other, otherAligned, rfl⟩
  · rintro ⟨positions, positionsKept, bound⟩
    refine ⟨⟨best.path.reverse, kept.aligned, worthEq⟩, ?_⟩
    rintro w ⟨other, otherAligned, rfl⟩
    exact Int.le_trans (bound other otherAligned) (most positions positionsKept)

end Found

/-- Where a query occurs there is a score, which is that of an alignment.  It is
the greatest exactly when some best alignment is kept, and in a text without a
capital behind a small letter it always is. -/
theorem rawScore_isGreatest_iff_kept
    {query text : Text} (nonempty : query ≠ [])
    (occurs : (query.map fold).Sublist (text.map fold)) :
    ∃ raw m, rawScore? query text = some raw ∧
      fuzzyMatch query text = some m ∧
      m.score = some (Score.ofRaw raw (text.length - query.length)) ∧
      Aligned (query.map fold) (text.map fold) m.positions ∧
      worth text m.positions = raw ∧
      (IsGreatest (worths query text) raw ↔
        ∃ positions, Kept text (query.map fold) positions ∧
          ∀ other, Aligned (query.map fold) (text.map fold) other →
            worth text other ≤ worth text positions) ∧
      ((∀ i, bonusAt text i ≠ camelBonus) →
        IsGreatest (worths query text) raw) := by
  obtain ⟨best, found⟩ := (exists_bestAlignment_iff_sublist nonempty).mpr occurs
  obtain ⟨kept, worthEq, -⟩ := bestAlignment_greatest_kept found
  have matched := fuzzyMatch_eq_map text nonempty
  rw [found, Option.map_some] at matched
  have raw : rawScore? query text = some best.score := by
    rw [rawScore?, found, Option.map_some]
  refine ⟨best.score, _, raw, matched, rfl, kept.aligned, worthEq,
    isGreatest_score_iff found, ?_⟩
  intro plain
  refine ⟨⟨_, kept.aligned, worthEq⟩, ?_⟩
  rintro w ⟨other, otherAligned, rfl⟩
  exact worth_le_bestAlignment found plain otherAligned

private theorem mem_worths_capitals :
    138 ∈ worths (Text.ofString "aaaaca") (Text.ofString "aAAAACA") :=
  ⟨[1, 2, 3, 4, 5, 6], ⟨by decide, by decide⟩, by decide⟩

/-- Six capitals in a run behind a small letter are worth 138.  The row of the
fifth character forgets them: there the start of the text and a gap are worth
two more, and lose three on the next character. -/
theorem rawScore_not_greatest_capitals :
    rawScore? (Text.ofString "aaaaca") (Text.ofString "aAAAACA") = some 137 ∧
      ¬ IsGreatest
        (worths (Text.ofString "aaaaca") (Text.ofString "aAAAACA")) 137 := by
  constructor
  · decide
  · intro greatest
    have bound : (138 : Int) ≤ 137 := greatest.2 mem_worths_capitals
    omega

/-- So no best alignment of those capitals is kept. -/
theorem rawScore_isGreatest_iff_kept_capitals :
    Text.ofString "aaaaca" ≠ [] ∧
      ((Text.ofString "aaaaca").map fold).Sublist
        ((Text.ofString "aAAAACA").map fold) ∧
      ¬ ∃ positions,
        Kept (Text.ofString "aAAAACA") ((Text.ofString "aaaaca").map fold)
            positions ∧
          ∀ other,
            Aligned ((Text.ofString "aaaaca").map fold)
                ((Text.ofString "aAAAACA").map fold) other →
              worth (Text.ofString "aAAAACA") other ≤
                worth (Text.ofString "aAAAACA") positions := by
  have nonempty : Text.ofString "aaaaca" ≠ [] := by decide
  have occurs :
      ((Text.ofString "aaaaca").map fold).Sublist
        ((Text.ofString "aAAAACA").map fold) := by decide
  refine ⟨nonempty, occurs, fun kept => ?_⟩
  obtain ⟨raw, m, score, -, -, -, -, exactly, -⟩ :=
    rawScore_isGreatest_iff_kept nonempty occurs
  have computed :
      rawScore? (Text.ofString "aaaaca") (Text.ofString "aAAAACA") =
        some 137 := by decide
  obtain rfl : raw = 137 := Option.some.inj (score.symm.trans computed)
  have bound : (138 : Int) ≤ 137 := (exactly.mpr kept).2 mem_worths_capitals
  omega

end Keychart.Search
