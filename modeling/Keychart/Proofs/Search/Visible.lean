import Keychart.Proofs.Search.Ranking
import Keychart.Proofs.Text.Trim
import Mathlib.Data.List.Pairwise

/-!
# Matched positions and white space

A folded character is white space exactly when the character is.  A search trims
its query, so a match ends at a visible character of the field, and in front of
its last position stands nothing that trimming the back of the field would take
away.
-/

namespace Keychart

open Unicode

namespace Unicode

/-- Whether some code points behind the blanks of ASCII hold no white space. -/
def HoldsNoBlank (first last : Int) : Prop :=
  0x20 < first ∧ ∀ range ∈ blankRanges, last < range.1 ∨ range.2 < first

instance (first last : Int) : Decidable (HoldsNoBlank first last) :=
  inferInstanceAs (Decidable (_ ∧ _))

private theorem HoldsNoBlank.isBlank_eq_false
    {first last : Int} (visible : HoldsNoBlank first last) {c : Char}
    (lower : first ≤ c.toNat) (upper : (c.toNat : Int) ≤ last) :
    isBlank c = false := by
  have beyond : 0x20 < c.toNat := by
    have := visible.1
    omega
  unfold isBlank
  split
  next =>
    rw [isAsciiBlank]
    simp only [Bool.or_eq_false_iff, Bool.and_eq_false_iff, decide_eq_false_iff_not]
    omega
  next =>
    rw [inRanges, List.any_eq_false]
    intro range member inside
    have apart := visible.2 range member
    simp only [Bool.and_eq_true, decide_eq_true_eq] at inside
    omega

private theorem HoldsNoBlank.isBlank_ofNat_eq_false
    {first last code : Int} (visible : HoldsNoBlank first last)
    (lower : first ≤ code) (upper : code ≤ last) :
    isBlank (Char.ofNat code.toNat) = false := by
  by_cases valid : code.toNat.isValidChar
  · have same : (Char.ofNat code.toNat).toNat = code.toNat := by
      rw [Char.ofNat, dif_pos valid]
      rfl
    have above := visible.1
    exact visible.isBlank_eq_false (by omega) (by omega)
  · -- What is no character is read as the null character, which is visible.
    rw [Char.ofNat, dif_neg valid]
    rfl

/-- No letter with a small form is white space, and no small form is. -/
theorem smallForms_holdNoBlank :
    ∀ form ∈ smallForms,
      HoldsNoBlank form.1.first form.1.last ∧
        HoldsNoBlank (form.1.first + form.2) (form.1.last + form.2) := by
  decide +kernel

private theorem isBlank_fold_ascii :
    ∀ code < 0x80, isBlank (fold (Char.ofNat code)) = isBlank (Char.ofNat code) := by
  decide

private theorem isBlank_fold (c : Char) : isBlank (fold c) = isBlank c := by
  by_cases ascii : c.toNat < 0x80
  · have checked := isBlank_fold_ascii c.toNat ascii
    rw [Char.ofNat_toNat] at checked
    exact checked
  · unfold fold
    simp only [if_neg ascii]
    split
    next dotted =>
      rw [← Char.ofNat_toNat c, dotted]
      decide +kernel
    next =>
      split
      next form distance found =>
        obtain ⟨capital, small⟩ :=
          smallForms_holdNoBlank _ (List.mem_of_find?_eq_some found)
        have holds := List.find?_some found
        simp only [Progression.holds, Bool.and_eq_true, decide_eq_true_eq] at holds
        dsimp only at capital small
        have visible : isBlank c = false :=
          capital.isBlank_eq_false (by omega) (by omega)
        have visibleSmall :
            isBlank (Char.ofNat (c.toNat + distance).toNat) = false :=
          small.isBlank_ofNat_eq_false (by omega) (by omega)
        rw [visible, visibleSmall]
      next => rfl

end Unicode

namespace Search

/-- What the positions of a result say of its description: they increase in it, and
none stands in white space at its back. -/
structure Marks (positions : List Nat) (text : Text) : Prop where
  increasing : positions.Pairwise (· < ·)
  within : ∀ p ∈ positions, p < text.length
  followed : ∀ p ∈ positions, ∃ q c, p ≤ q ∧ text[q]? = some c ∧ isBlank c = false

/-- The last character of a trimmed query is visible, and so is the one that it
matches. -/
theorem Match.Spells.marks
    {m : Match} {query text : Text} (spells : m.Spells query text)
    (trimmed : Text.Trimmed query) :
    Marks m.positions text where
  increasing := spells.increasing
  within := spells.within
  followed := by
    intro p member
    have nonempty : m.positions ≠ [] := List.ne_nil_of_mem member
    have asked : query ≠ [] := by
      intro empty
      have none := spells.length
      rw [empty] at none
      exact nonempty (List.length_eq_zero_iff.mp none)
    have last : m.positions[m.positions.length - 1]? =
        some (m.positions.getLast nonempty) := by
      rw [← List.getLast?_eq_getElem?, List.getLast?_eq_some_getLast nonempty]
    have same := spells.folded _ _ last
    rw [spells.length, ← List.getLast?_eq_getElem?,
      List.getLast?_eq_some_getLast asked, Option.map_some,
      Option.map_eq_some_iff] at same
    obtain ⟨c, found, folded⟩ := same
    refine ⟨m.positions.getLast nonempty, c, ?_, found, ?_⟩
    · exact (spells.increasing.imp Nat.le_of_lt).rel_getLast member
    · have visible : ¬ isBlank (query.getLast asked) = true :=
        List.rdropWhile_eq_self_iff.mp trimmed.back asked
      rw [← isBlank_fold c, folded, isBlank_fold]
      exact Bool.eq_false_iff.mpr visible

theorem mem_search_iff_resultFor
    {query : Text} (asked : Text.trim query ≠ []) {keybinds : List Keybind}
    {result : SearchResult} :
    result ∈ search query keybinds ↔
      ∃ index keybind, keybinds[index]? = some keybind ∧
        resultFor (Text.trim query) index keybind = some result := by
  rw [search_of_not_blank asked, (perm_rank _).mem_iff, mem_resultsFrom_iff]

/-- A search that finds positions in a description marks it with them. -/
theorem marks_of_mem_search
    {query : Text} {keybinds : List Keybind} {result : SearchResult}
    {positions : List Nat} (kept : result ∈ search query keybinds)
    (matched : result.descriptionPositions = some positions) :
    Marks positions result.keybind.description := by
  by_cases blank : Text.trim query = []
  · rw [search_of_blank blank] at kept
    obtain ⟨index, _, rfl⟩ := List.mem_mapIdx.mp kept
    cases matched
  · obtain ⟨index, keybind, -, found⟩ := (mem_search_iff_resultFor blank).mp kept
    obtain ⟨-, -, rates⟩ := rates_of_resultFor blank found
    rw [rates.descriptionPositions, Option.map_eq_some_iff] at matched
    obtain ⟨m, spelled, rfl⟩ := matched
    have trimmed : Text.Trimmed (Text.trim query) :=
      Text.trim_eq_self_iff.mp (Text.trim_trim query)
    exact (spells_of_fuzzyMatch blank spelled).marks trimmed

end Search

end Keychart
