import Keychart.Proofs.Search.Optimality
import Mathlib.Algebra.BigOperators.Group.Finset.Basic
import Mathlib.Data.Finset.Lattice.Fold
import Mathlib.Order.Lattice.Nat

/-!
# What each position adds to the score

The worth of an alignment is a sum with one summand for each position.  A
summand depends on the position in front and on the strongest bonus of the run of
neighbours that the position ends, and that run is read off the positions too:
they differ by as much as their places do.

Every cell of every row has the sum over its own path for a score, so the score
of a match is the sum over the positions that are returned with it.
-/

namespace Keychart.Search

open Unicode

def placeAt (positions : List Nat) (j : Nat) : Nat := positions.getD j 0

/-- The strongest bonus in the run of neighbours that ends at place `j`. -/
def runBonus (text : Text) (positions : List Nat) (j : Nat) : Nat :=
  ((Finset.range (j + 1)).filter fun k =>
      placeAt positions k + (j - k) = placeAt positions j).sup
    fun k => bonusAt text (placeAt positions k)

/-- What the position at place `j` adds. -/
def points (text : Text) (positions : List Nat) : (j : Nat) → Int
  | 0 => matchScore + bonusAt text (placeAt positions 0)
  | j + 1 =>
    if placeAt positions (j + 1) = placeAt positions j + 1 then
      matchScore + max (runBonus text positions (j + 1)) consecutiveBonus
    else
      let skipped : Int := placeAt positions (j + 1) - placeAt positions j - 1
      matchScore + bonusAt text (placeAt positions (j + 1)) - gapStartPenalty -
        gapExtensionPenalty * (skipped - 1)

theorem placeAt_append
    {front : List Nat} {j : Nat} (inside : j < front.length) (back : List Nat) :
    placeAt (front ++ back) j = placeAt front j := by
  rw [placeAt, placeAt, List.getD_eq_getElem?_getD, List.getD_eq_getElem?_getD,
    List.getElem?_append_left inside]

private theorem placeAt_length (front : List Nat) (i : Nat) :
    placeAt (front ++ [i]) front.length = i := by
  rw [placeAt, List.getD_eq_getElem?_getD, List.getElem?_concat_length,
    Option.getD_some]

/-- The strongest bonus of a run depends on the positions up to its end. -/
theorem runBonus_append
    (text : Text) {front : List Nat} {j : Nat} (inside : j < front.length)
    (back : List Nat) :
    runBonus text (front ++ back) j = runBonus text front j := by
  have same : ∀ k ∈ Finset.range (j + 1),
      placeAt (front ++ back) k = placeAt front k := by
    intro k member
    rw [Finset.mem_range] at member
    exact placeAt_append (by omega) back
  rw [runBonus, runBonus, placeAt_append inside]
  have sameRun :
      (Finset.range (j + 1)).filter (fun k =>
          placeAt (front ++ back) k + (j - k) = placeAt front j) =
        (Finset.range (j + 1)).filter fun k =>
          placeAt front k + (j - k) = placeAt front j := by
    apply Finset.filter_congr
    intro k member
    rw [same k member]
  rw [sameRun]
  apply Finset.sup_congr rfl
  intro k member
  rw [same k (Finset.mem_filter.mp member).1]

theorem points_append
    (text : Text) {front : List Nat} {j : Nat} (inside : j < front.length)
    (back : List Nat) :
    points text (front ++ back) j = points text front j := by
  cases j with
  | zero => rw [points, points, placeAt_append inside]
  | succ j =>
      rw [points, points, runBonus_append text inside, placeAt_append inside,
        placeAt_append (show j < front.length by omega)]

/-- Increasing positions differ by at least as much as their places. -/
theorem placeAt_add_le
    {positions : List Nat} (increasing : positions.Pairwise (· < ·))
    {k j : Nat} (le : k ≤ j) (inside : j < positions.length) :
    placeAt positions k + (j - k) ≤ placeAt positions j := by
  induction j, le using Nat.le_induction with
  | base => omega
  | succ j le inductionHypothesis =>
      have before := inductionHypothesis (by omega)
      have less : placeAt positions j < placeAt positions (j + 1) := by
        have here := List.pairwise_iff_getElem.mp increasing j (j + 1)
          (by omega) inside (by omega)
        rw [placeAt, placeAt, List.getD_eq_getElem?_getD,
          List.getD_eq_getElem?_getD, List.getElem?_eq_getElem inside,
          List.getElem?_eq_getElem (by omega)]
        exact here
      omega

/-- The neighbour of a position prolongs the run that ends there. -/
theorem runBonus_succ_of_adjacent
    (text : Text) {positions : List Nat} {j : Nat}
    (adjacent : placeAt positions (j + 1) = placeAt positions j + 1) :
    runBonus text positions (j + 1) =
      max (runBonus text positions j) (bonusAt text (placeAt positions (j + 1))) := by
  have run :
      (Finset.range (j + 1 + 1)).filter (fun k =>
          placeAt positions k + (j + 1 - k) = placeAt positions (j + 1)) =
        insert (j + 1) ((Finset.range (j + 1)).filter fun k =>
          placeAt positions k + (j - k) = placeAt positions j) := by
    ext k
    simp only [Finset.mem_filter, Finset.mem_range, Finset.mem_insert]
    constructor
    · rintro ⟨bound, same⟩
      by_cases last : k = j + 1
      · exact Or.inl last
      · exact Or.inr ⟨by omega, by omega⟩
    · rintro (rfl | ⟨bound, same⟩)
      · exact ⟨by omega, by omega⟩
      · exact ⟨by omega, by omega⟩
  rw [runBonus, run, Finset.sup_insert, max_comm]
  rfl

/-- Behind a gap a run begins. -/
theorem runBonus_succ_of_apart
    (text : Text) {positions : List Nat} (increasing : positions.Pairwise (· < ·))
    {j : Nat} (inside : j + 1 < positions.length)
    (apart : placeAt positions (j + 1) ≠ placeAt positions j + 1) :
    runBonus text positions (j + 1) = bonusAt text (placeAt positions (j + 1)) := by
  have run :
      (Finset.range (j + 1 + 1)).filter (fun k =>
          placeAt positions k + (j + 1 - k) = placeAt positions (j + 1)) =
        {j + 1} := by
    ext k
    simp only [Finset.mem_filter, Finset.mem_range, Finset.mem_singleton]
    constructor
    · rintro ⟨bound, same⟩
      by_contra other
      have step : placeAt positions j + (j + 1 - j) ≤ placeAt positions (j + 1) :=
        placeAt_add_le increasing (Nat.le_succ j) inside
      have front := placeAt_add_le increasing (show k ≤ j by omega) (by omega)
      omega
    · rintro rfl
      exact ⟨by omega, by omega⟩
  rw [runBonus, run, Finset.sup_singleton]

theorem runBonus_zero (text : Text) (positions : List Nat) :
    runBonus text positions 0 = bonusAt text (placeAt positions 0) := by
  have run :
      (Finset.range (0 + 1)).filter (fun k =>
          placeAt positions k + (0 - k) = placeAt positions 0) = {0} := by
    ext k
    simp only [Finset.mem_filter, Finset.mem_range, Finset.mem_singleton]
    constructor
    · rintro ⟨bound, -⟩
      omega
    · rintro rfl
      exact ⟨Nat.zero_lt_one, rfl⟩
  rw [runBonus, run, Finset.sup_singleton]

/-- A run is no stronger than the start of a word. -/
theorem runBonus_le (text : Text) (positions : List Nat) (j : Nat) :
    runBonus text positions j ≤ boundaryBonus :=
  Finset.sup_le fun _ _ => bonusAt_le text _

theorem bonusAt_le_runBonus
    (text : Text) {positions : List Nat} {k j : Nat} (le : k ≤ j)
    (run : placeAt positions k + (j - k) = placeAt positions j) :
    bonusAt text (placeAt positions k) ≤ runBonus text positions j :=
  Finset.le_sup (f := fun k => bonusAt text (placeAt positions k))
    (Finset.mem_filter.mpr ⟨Finset.mem_range.mpr (Nat.lt_succ_of_le le), run⟩)

/-! ## The sum -/

/-- One more position adds its own points to those of the positions in front. -/
theorem next_eq_points
    {text : Text} {front : List Nat} {last i : Nat}
    (increasing : (front ++ [last] ++ [i]).Pairwise (· < ·)) (s : Standing)
    (sLast : s.last = last)
    (run : s.run = runBonus text (front ++ [last]) front.length) :
    (s.next text i).worth =
        s.worth + points text (front ++ [last] ++ [i]) (front.length + 1) ∧
      (s.next text i).run =
        runBonus text (front ++ [last] ++ [i]) (front.length + 1) := by
  have length : (front ++ [last]).length = front.length + 1 := by
    rw [List.length_append, List.length_singleton]
  have here : placeAt (front ++ [last] ++ [i]) (front.length + 1) = i := by
    rw [← length, placeAt_length]
  have before : placeAt (front ++ [last] ++ [i]) front.length = last := by
    rw [placeAt_append (by omega), placeAt_length]
  have runBefore :
      runBonus text (front ++ [last] ++ [i]) front.length = s.run := by
    rw [runBonus_append text (by omega), run]
  rw [points, here, before]
  by_cases adjacent : i = last + 1
  · have prolonged :
        runBonus text (front ++ [last] ++ [i]) (front.length + 1) =
          max s.run (bonusAt text i) := by
      rw [runBonus_succ_of_adjacent text (by rw [here, before, adjacent]),
        runBefore, here]
    rw [Standing.next, if_pos (by rw [sLast, adjacent]), if_pos adjacent, prolonged]
    exact ⟨by dsimp only; omega, rfl⟩
  · have begun :
        runBonus text (front ++ [last] ++ [i]) (front.length + 1) =
          bonusAt text i := by
      rw [runBonus_succ_of_apart text increasing
        (by rw [List.length_append, length, List.length_singleton]; omega)
        (by rw [here, before]; exact adjacent), here]
    rw [Standing.next, if_neg (by rw [sLast]; exact adjacent), if_neg adjacent,
      begun, sLast]
    exact ⟨by dsimp only; omega, rfl⟩

/-- Increasing positions are worth the sum of their points, and their last run has
its strongest bonus. -/
theorem standing?_of_increasing
    (text : Text) {front : List Nat} {i : Nat}
    (increasing : (front ++ [i]).Pairwise (· < ·)) :
    ∃ s, standing? text (front ++ [i]) = some s ∧
      s.worth = ∑ j ∈ Finset.range (front.length + 1), points text (front ++ [i]) j ∧
      s.run = runBonus text (front ++ [i]) front.length := by
  induction front using List.reverseRecOn generalizing i with
  | nil =>
      refine ⟨Standing.start text i, rfl, ?_, ?_⟩
      · rw [List.length_nil, Nat.zero_add, Finset.sum_range_one]
        rfl
      · exact (runBonus_zero text [i]).symm
  | append_singleton front last inductionHypothesis =>
      have length : (front ++ [last]).length = front.length + 1 := by
        rw [List.length_append, List.length_singleton]
      obtain ⟨s, stands, worthHere, runHere⟩ :=
        inductionHypothesis (List.pairwise_append.mp increasing).1
      obtain ⟨t, tStands, tLast, goesOn⟩ := standing?_concat_concat text front last i
      obtain rfl : s = t := Option.some.inj (stands.symm.trans tStands)
      obtain ⟨worthNext, runNext⟩ := next_eq_points increasing s tLast runHere
      have earlier :
          ∑ j ∈ Finset.range (front.length + 1),
              points text (front ++ [last] ++ [i]) j =
            ∑ j ∈ Finset.range (front.length + 1),
              points text (front ++ [last]) j := by
        apply Finset.sum_congr rfl
        intro j member
        rw [Finset.mem_range, ← length] at member
        exact points_append text member [i]
      refine ⟨s.next text i, goesOn, ?_, ?_⟩
      · rw [length, Finset.sum_range_succ, earlier, ← worthHere, worthNext]
      · rw [length, runNext]

/-- Every cell of a row has the sum of the points along its path for a score, and the
strongest bonus of the run that the path ends with. -/
theorem Cell.Describes.eq_sum_points
    {text wanted : Text} {i : Nat} {cell : Cell}
    (described : cell.Describes wanted text i) :
    cell.score =
        ∑ j ∈ Finset.range wanted.length, points text cell.path.reverse j ∧
      cell.run = runBonus text cell.path.reverse (wanted.length - 1) := by
  obtain ⟨front, shape, aligned, stands⟩ := described
  have length : front.length + 1 = wanted.length := by
    rw [← aligned.length_eq, List.length_append, List.length_singleton]
  obtain ⟨s, known, worthEq, runEq⟩ :=
    standing?_of_increasing text aligned.increasing
  rw [stands, Option.some.injEq] at known
  subst known
  rw [shape, ← length]
  exact ⟨worthEq, runEq⟩

/-- The cells of all rows carry the sums of their paths. -/
theorem eq_sum_points_of_filled
    {text rest : Text} {first : Char} {j i : Nat} {cell : Cell}
    (inside : j ≤ rest.length)
    (filled : Filled (rowAt first rest (columns text) j) i cell) :
    cell.score = ∑ k ∈ Finset.range (j + 1), points text cell.path.reverse k ∧
      cell.run = runBonus text cell.path.reverse j := by
  have described := (rowDescribes_rowAt text first rest j).sound i cell filled
  have length : (first :: rest.take j).length = j + 1 := by
    rw [List.length_cons, List.length_take, Nat.min_eq_left inside]
  have sums := described.eq_sum_points
  rwa [length, Nat.add_sub_cancel] at sums

theorem eq_sum_points_of_bestAlignment
    {query text : Text} {best : Cell}
    (found : bestAlignment? query text = some best) :
    Aligned (query.map fold) (text.map fold) best.path.reverse ∧
      best.score =
        ∑ j ∈ Finset.range query.length, points text best.path.reverse j := by
  obtain ⟨first, rest, last, folded, -, -, described⟩ :=
    describes_of_bestAlignment found
  have length : query.length = (first :: rest).length := by
    rw [← folded, List.length_map]
  constructor
  · obtain ⟨front, shape, aligned, -⟩ := described
    rw [folded, shape]
    exact aligned
  · rw [length]
    exact described.eq_sum_points.1

/-- A match has the sum of the points of its own positions for a score, before the
length of the text counts.  So has every cell on the way to it: its score and its
run are those of the positions that it was reached by. -/
theorem fuzzyMatch_score_eq_sum_points
    {query text : Text} (nonempty : query ≠ []) {m : Match}
    (matched : fuzzyMatch query text = some m) :
    (∃ raw, rawScore? query text = some raw ∧
      m.score = some (Score.ofRaw raw (text.length - query.length)) ∧
      m.positions.length = query.length ∧
      raw = ∑ j ∈ Finset.range m.positions.length, points text m.positions j) ∧
    ∀ first rest, query.map fold = first :: rest →
      ∀ j i cell, j < query.length →
        Filled (rowAt first rest (columns text) j) i cell →
          cell.score =
              ∑ k ∈ Finset.range (j + 1), points text cell.path.reverse k ∧
            cell.run = runBonus text cell.path.reverse j := by
  constructor
  · rw [fuzzyMatch_eq_map text nonempty, Option.map_eq_some_iff] at matched
    obtain ⟨best, found, rfl⟩ := matched
    obtain ⟨aligned, sum⟩ := eq_sum_points_of_bestAlignment found
    have length : best.path.reverse.length = query.length := by
      rw [aligned.length_eq, List.length_map]
    refine ⟨best.score, ?_, rfl, length, by rw [length]; exact sum⟩
    rw [rawScore?, found, Option.map_some]
  · intro first rest folded j i cell inside filled
    have length := congrArg List.length folded
    rw [List.length_map, List.length_cons] at length
    exact eq_sum_points_of_filled (by omega) filled

/-- The start of a word lies a gap behind the first position, and the two characters
behind it inherit its bonus. -/
theorem fuzzyMatch_score_eq_sum_points_word :
    Text.ofString "bkil" ≠ [] ∧
      ∃ m, fuzzyMatch (Text.ofString "bkil") (Text.ofString "bar-kill") = some m ∧
        m.positions = [0, 4, 5, 6] ∧
        (List.range 4).map (points (Text.ofString "bar-kill") m.positions) =
          [26, 21, 26, 26] ∧
        rawScore? (Text.ofString "bkil") (Text.ofString "bar-kill") =
          some (∑ j ∈ Finset.range 4,
            points (Text.ofString "bar-kill") m.positions j) := by
  have nonempty : Text.ofString "bkil" ≠ [] := by decide
  have positions :
      (fuzzyMatch (Text.ofString "bkil") (Text.ofString "bar-kill")).map
        Match.positions = some [0, 4, 5, 6] := by decide
  obtain ⟨m, matched, here⟩ := Option.map_eq_some_iff.mp positions
  obtain ⟨⟨raw, found, -, length, sum⟩, -⟩ :=
    fuzzyMatch_score_eq_sum_points nonempty matched
  refine ⟨nonempty, m, matched, here, ?_, ?_⟩
  · rw [here]
    decide
  · rw [found, sum, length]
    rfl

end Keychart.Search
