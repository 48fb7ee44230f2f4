import Keychart.Search.Alignment
import Mathlib.Data.List.Basic
import Mathlib.Data.Option.Basic

/-!
# Alignments and their worth

An alignment of a text of wanted characters in another text is an increasing
list of positions at which these characters stand.  Its worth is read off the
positions alone, from the first to the last: a position right behind the one
before it prolongs a run and takes the strongest bonus met in that run; a
position farther on pays for the characters skipped and starts a new run.

Nothing here refers to the rows by which the best alignment is found.
-/

namespace Keychart.Search

open Unicode

/-- Increasing positions of a text at which the wanted characters stand. -/
structure Aligned (wanted text : Text) (positions : List Nat) : Prop where
  increasing : positions.Pairwise (· < ·)
  spelled : positions.map (text[·]?) = wanted.map some

/-- Whether position `i` lies behind all of the positions in front of it. -/
def Behind (i : Nat) (front : List Nat) : Prop := ∀ p ∈ front, p < i

theorem aligned_nil_iff {text : Text} {positions : List Nat} :
    Aligned [] text positions ↔ positions = [] := by
  constructor
  · intro aligned
    simpa using aligned.spelled
  · rintro rfl
    exact ⟨List.Pairwise.nil, rfl⟩

/-- An alignment of one more character is an alignment of those in front of it
and a position behind all of its positions. -/
theorem aligned_concat_iff
    {wanted text : Text} {w : Char} {positions : List Nat} :
    Aligned (wanted ++ [w]) text positions ↔
      ∃ front i, positions = front ++ [i] ∧
        Aligned wanted text front ∧ Behind i front ∧ text[i]? = some w := by
  constructor
  · intro aligned
    have sameLength := congrArg List.length aligned.spelled
    rcases List.eq_nil_or_concat' positions with rfl | ⟨front, i, rfl⟩
    · simp at sameLength
    · have spelled := aligned.spelled
      have increasing := aligned.increasing
      simp only [List.map_append] at spelled
      have parts :=
        List.append_inj spelled (by simpa using sameLength)
      simp only [List.pairwise_append] at increasing
      refine ⟨front, i, rfl, ⟨increasing.1, parts.1⟩, ?_, ?_⟩
      · intro p member
        exact increasing.2.2 p member i (List.Mem.head [])
      · simpa using parts.2
  · rintro ⟨front, i, rfl, aligned, behind, found⟩
    constructor
    · rw [List.pairwise_append]
      refine ⟨aligned.increasing, List.pairwise_singleton _ i, ?_⟩
      intro p member q last
      rw [List.mem_singleton.mp last]
      exact behind p member
    · simp [aligned.spelled, found]

theorem aligned_append_singleton_iff
    {wanted text : Text} {w : Char} {front : List Nat} {i : Nat} :
    Aligned (wanted ++ [w]) text (front ++ [i]) ↔
      Aligned wanted text front ∧ Behind i front ∧ text[i]? = some w := by
  rw [aligned_concat_iff]
  constructor
  · rintro ⟨front', i', same, parts⟩
    obtain ⟨rfl, rfl⟩ := List.append_singleton_inj.mp same
    exact parts
  · intro parts
    exact ⟨front, i, rfl, parts⟩

/-- Behind an alignment that ends at `last`, only the last position matters. -/
theorem aligned_extend_iff
    {wanted text : Text} {w : Char} {front : List Nat} {last i : Nat} :
    Aligned (wanted ++ [w]) text (front ++ [last] ++ [i]) ↔
      Aligned wanted text (front ++ [last]) ∧ last < i ∧
        text[i]? = some w := by
  rw [aligned_append_singleton_iff]
  constructor
  · rintro ⟨aligned, behind, found⟩
    exact ⟨aligned, behind last (by simp), found⟩
  · rintro ⟨aligned, less, found⟩
    refine ⟨aligned, ?_, found⟩
    have increasing := aligned.increasing
    rw [List.pairwise_append] at increasing
    intro p member
    rcases List.mem_append.mp member with inFront | isLast
    · exact Nat.lt_trans
        (increasing.2.2 p inFront last (List.Mem.head [])) less
    · rw [List.mem_singleton.mp isLast]
      exact less

theorem aligned_singleton_iff
    {text : Text} {w : Char} {positions : List Nat} :
    Aligned [w] text positions ↔
      ∃ i, positions = [i] ∧ text[i]? = some w := by
  have concat := @aligned_concat_iff [] text w positions
  rw [List.nil_append] at concat
  rw [concat]
  constructor
  · rintro ⟨front, i, rfl, aligned, -, found⟩
    rw [aligned_nil_iff] at aligned
    subst aligned
    exact ⟨i, rfl, found⟩
  · rintro ⟨i, rfl, found⟩
    exact ⟨[], i, rfl, aligned_nil_iff.mpr rfl, by simp [Behind], found⟩

namespace Aligned

variable {wanted text : Text} {positions : List Nat}

theorem length_eq (aligned : Aligned wanted text positions) :
    positions.length = wanted.length := by
  simpa using congrArg List.length aligned.spelled

/-- Alignments of something have a last position. -/
theorem eq_concat
    (aligned : Aligned wanted text positions) (nonempty : wanted ≠ []) :
    ∃ front last, positions = front ++ [last] := by
  rcases List.eq_nil_or_concat' positions with rfl | shape
  · have empty := aligned.length_eq
    exact (nonempty (List.length_eq_zero_iff.mp empty.symm)).elim
  · exact shape

theorem getElem?_eq
    (aligned : Aligned wanted text positions) {j p : Nat}
    (found : positions[j]? = some p) :
    text[p]? = wanted[j]? := by
  have same := congrArg (·[j]?) aligned.spelled
  simp only [List.getElem?_map, found, Option.map_some] at same
  cases wantedAt : wanted[j]? with
  | none => simp [wantedAt] at same
  | some w => simpa [wantedAt] using same

theorem lt_length
    (aligned : Aligned wanted text positions) {p : Nat}
    (member : p ∈ positions) :
    p < text.length := by
  obtain ⟨j, bound, rfl⟩ := List.getElem_of_mem member
  have found := aligned.getElem?_eq (List.getElem?_eq_getElem bound)
  have wantedBound : j < wanted.length := aligned.length_eq ▸ bound
  rw [List.getElem?_eq_getElem wantedBound] at found
  exact (List.getElem?_eq_some_iff.mp found).1

end Aligned

/-- A text has an alignment exactly where it is a subsequence. -/
theorem exists_aligned_iff_sublist {wanted text : Text} :
    (∃ positions, Aligned wanted text positions) ↔ wanted.Sublist text := by
  constructor
  · rintro ⟨positions, aligned⟩
    let places : List (Fin text.length) :=
      positions.pmap (fun p bound => ⟨p, bound⟩)
        (fun _ member => aligned.lt_length member)
    have values : places.map Fin.val = positions := by
      simp [places, List.map_pmap]
    have increasing : places.Pairwise (· < ·) := by
      have mapped := aligned.increasing
      rw [← values, List.pairwise_map] at mapped
      exact mapped
    have spelled : places.map (text[·]) = wanted := by
      apply List.map_injective_iff.mpr (Option.some_injective Char)
      rw [← aligned.spelled, ← values]
      simp
    rw [← spelled]
    exact List.map_getElem_sublist increasing
  · intro sublist
    obtain ⟨places, spelled, increasing⟩ :=
      List.sublist_eq_map_getElem sublist
    refine ⟨places.map Fin.val, ?_, ?_⟩
    · rw [List.pairwise_map]
      exact increasing
    · rw [spelled]
      simp

/-- The bonus of a position of a text; there is none behind its end. -/
def bonusAt (text : Text) (i : Nat) : Nat :=
  match text[i]? with
  | none => 0
  | some c => bonusAfter (if i = 0 then none else text[i - 1]?) c

private theorem columnsAfter_getElem?
    (before : Option Char) (text : Text) (i : Nat) :
    (columnsAfter before text)[i]? =
      text[i]?.map fun c =>
        ⟨fold c, bonusAfter (if i = 0 then before else text[i - 1]?) c⟩ := by
  induction text generalizing before i with
  | nil =>
      simp [columnsAfter]
  | cons c text inductionHypothesis =>
      cases i with
      | zero =>
          simp [columnsAfter]
      | succ i =>
          rw [columnsAfter, List.getElem?_cons_succ, inductionHypothesis]
          cases i with
          | zero => simp
          | succ i => simp

/-- The columns of a text hold its folded characters and their bonuses. -/
theorem columns_getElem? (text : Text) (i : Nat) :
    (columns text)[i]? =
      (text.map fold)[i]?.map fun c => ⟨c, bonusAt text i⟩ := by
  rw [columns, columnsAfter_getElem?, List.getElem?_map]
  cases found : text[i]? with
  | none => rfl
  | some c => simp [bonusAt, found]

@[simp]
theorem length_columns (text : Text) : (columns text).length = text.length := by
  suffices ∀ before, (columnsAfter before text).length = text.length from
    this none
  induction text with
  | nil => simp [columnsAfter]
  | cons c text inductionHypothesis =>
      simp [columnsAfter, inductionHypothesis]

private theorem bonusAfter_cases (before : Option Char) (c : Char) :
    bonusAfter before c = 0 ∨ bonusAfter before c = camelBonus ∨
      bonusAfter before c = boundaryBonus := by
  unfold bonusAfter
  split
  · exact Or.inr (Or.inr rfl)
  · split
    · exact Or.inr (Or.inr rfl)
    · split
      · exact Or.inr (Or.inl rfl)
      · exact Or.inl rfl

/-- There are three bonuses. -/
theorem bonusAt_cases (text : Text) (i : Nat) :
    bonusAt text i = 0 ∨ bonusAt text i = camelBonus ∨
      bonusAt text i = boundaryBonus := by
  unfold bonusAt
  split
  · exact Or.inl rfl
  · exact bonusAfter_cases _ _

theorem bonusAt_le (text : Text) (i : Nat) : bonusAt text i ≤ boundaryBonus := by
  have cases := bonusAt_cases text i
  simp only [camelBonus, boundaryBonus] at *
  omega

/-! ## Worth -/

/-- How an alignment stands at its last position. -/
structure Standing where
  worth : Int
  last : Nat
  /-- The strongest bonus in the run of neighbours that ends at `last`. -/
  run : Nat
deriving DecidableEq, Repr

namespace Standing

/-- The alignment of the first character. -/
def start (text : Text) (i : Nat) : Standing :=
  ⟨matchScore + bonusAt text i, i, bonusAt text i⟩

/-- The alignment with one more position, which prolongs the run when it is the
next one and else skips the characters in between. -/
def next (text : Text) (s : Standing) (i : Nat) : Standing :=
  if i = s.last + 1 then
    let run := max s.run (bonusAt text i)
    ⟨s.worth + matchScore + max run consecutiveBonus, i, run⟩
  else
    let skipped : Int := i - s.last - 1
    ⟨s.worth + matchScore + bonusAt text i -
        (gapStartPenalty + gapExtensionPenalty * (skipped - 1)),
      i, bonusAt text i⟩

/-- One more position, be it the first. -/
def step (text : Text) : Option Standing → Nat → Option Standing
  | none, i => some (start text i)
  | some s, i => some (s.next text i)

@[simp]
theorem last_start (text : Text) (i : Nat) : (start text i).last = i := rfl

@[simp]
theorem last_next (text : Text) (s : Standing) (i : Nat) :
    (s.next text i).last = i := by
  unfold next
  split <;> rfl

/-- A position never has a run weaker than its own bonus. -/
theorem bonusAt_le_run_next (text : Text) (s : Standing) (i : Nat) :
    bonusAt text i ≤ (s.next text i).run := by
  unfold next
  split
  · exact Nat.le_max_right _ _
  · exact Nat.le_refl _

theorem run_next_of_eq
    {text : Text} {s : Standing} {i : Nat} (adjacent : i = s.last + 1) :
    (s.next text i).run = max s.run (bonusAt text i) := by
  rw [next, if_pos adjacent]

theorem run_next_of_ne
    {text : Text} {s : Standing} {i : Nat} (apart : i ≠ s.last + 1) :
    (s.next text i).run = bonusAt text i := by
  rw [next, if_neg apart]

/-- What stands better at the same position also goes on better. -/
theorem next_mono
    {text : Text} {s t : Standing} {i : Nat}
    (sameLast : s.last = t.last)
    (worthLe : s.worth ≤ t.worth) (runLe : s.run ≤ t.run) :
    (s.next text i).worth ≤ (t.next text i).worth ∧
      (s.next text i).run ≤ (t.next text i).run := by
  unfold next
  rw [sameLast]
  split
  · constructor
    · dsimp only
      omega
    · dsimp only
      omega
  · constructor
    · dsimp only
      omega
    · exact Nat.le_refl _

end Standing

def standing? (text : Text) (positions : List Nat) : Option Standing :=
  positions.foldl (Standing.step text) none

def worth (text : Text) (positions : List Nat) : Int :=
  match standing? text positions with
  | none => 0
  | some s => s.worth

theorem standing?_concat (text : Text) (front : List Nat) (i : Nat) :
    standing? text (front ++ [i]) =
      Standing.step text (standing? text front) i := by
  rw [standing?, List.foldl_append]
  rfl

/-- A position behind others goes on from where they stand. -/
theorem standing?_concat_concat
    (text : Text) (front : List Nat) (last i : Nat) :
    ∃ s, standing? text (front ++ [last]) = some s ∧ s.last = last ∧
      standing? text (front ++ [last] ++ [i]) = some (s.next text i) := by
  rw [standing?_concat text (front ++ [last]), standing?_concat]
  cases standing? text front with
  | none => exact ⟨Standing.start text last, rfl, rfl, rfl⟩
  | some s =>
      exact ⟨s.next text last, rfl, Standing.last_next text s last, rfl⟩

theorem worth_eq
    {text : Text} {positions : List Nat} {s : Standing}
    (stands : standing? text positions = some s) :
    worth text positions = s.worth := by
  rw [worth, stands]

end Keychart.Search
