import Keychart.Key.Parse
import Keychart.Proofs.Text.Marks
import Mathlib.Data.List.Infix

/-!
# Pastes as the terminal sends them

The marks around a paste do not overlap, so what stands between them, or has
arrived of it, is found again.  A paste is one item of input, whole or cut off,
and no key.
-/

namespace Keychart.Key

private theorem ledBy_pasteStart : Text.LedBy '\x1b' pasteStart := by decide

private theorem ledBy_pasteEnd : Text.LedBy '\x1b' pasteEnd := by decide

/-- Whether a text can stand between the marks: it holds neither. -/
structure Pastable (text : Text) : Prop where
  noStart : ¬ pasteStart <:+: text
  noEnd : ¬ pasteEnd <:+: text

instance (text : Text) : Decidable (Pastable text) :=
  decidable_of_iff (¬ pasteStart <:+: text ∧ ¬ pasteEnd <:+: text)
    ⟨fun parts => ⟨parts.1, parts.2⟩, fun pastable => ⟨pastable.1, pastable.2⟩⟩

def bracketed (text : Text) : Text := pasteStart ++ (text ++ pasteEnd)

namespace Pastable

variable {text front item rest : Text}

theorem splitAtMark?_pasteEnd (pastable : Pastable text) :
    Text.splitAtMark? pasteEnd (text ++ pasteEnd) = some (text, []) :=
  ledBy_pasteEnd.splitAtMark?_concat pastable.noEnd

/-- The end mark is complete at the end only. -/
theorem noEnd_of_more (pastable : Pastable text)
    (cut : front ++ rest = text ++ pasteEnd) (more : rest ≠ []) :
    ¬ pasteEnd <:+: front := by
  intro occurs
  obtain ⟨before, after, parts⟩ := occurs
  have same : before ++ pasteEnd ++ (after ++ rest) = text ++ pasteEnd := by
    rw [← cut, ← parts, List.append_assoc _ after]
  obtain ⟨-, -, nothing⟩ :=
    ledBy_pasteEnd.eq_of_append ledBy_pasteEnd rfl pastable.noEnd same
  exact more (List.append_eq_nil_iff.mp nothing).2

/-- No start mark stands behind that of the paste. -/
theorem noStart_of_infix (pastable : Pastable text)
    (inside : item <:+: text ++ pasteEnd) :
    ¬ pasteStart <:+: item := by
  intro occurs
  obtain ⟨before, after, parts⟩ := occurs.trans inside
  have sameLength : pasteStart.length = pasteEnd.length :=
    length_pasteStart.trans length_pasteEnd.symm
  obtain ⟨-, same, -⟩ :=
    ledBy_pasteStart.eq_of_append ledBy_pasteEnd sameLength pastable.noStart parts
  have different : pasteStart ≠ pasteEnd := by decide
  exact different same

end Pastable

theorem flatten_splitInput (data : Text) : (splitInput data).flatten = data :=
  Text.flatten_cutFrom itemLength 0 data

theorem ne_nil_of_mem_splitInput {data item : Text} (member : item ∈ splitInput data) :
    item ≠ [] :=
  Text.ne_nil_of_mem_cutFrom itemLength member

theorem flatten_ne_nil
    {items : List Text} (nonempty : ∀ item ∈ items, item ≠ []) (more : items ≠ []) :
    items.flatten ≠ [] := by
  obtain ⟨item, member⟩ := List.exists_mem_of_ne_nil items more
  intro empty
  exact nonempty item member (List.flatten_eq_nil_iff.mp empty item member)

theorem noEnd_pasteStart_append
    {text : Text} (absent : ¬ pasteEnd <:+: text) :
    ¬ pasteEnd <:+: pasteStart ++ text := by
  have spelled : pasteStart = ['\x1b', '[', '2', '0', '0', '~'] := by decide
  have endSpelled : pasteEnd = ['\x1b', '[', '2', '0', '1', '~'] := by decide
  rw [endSpelled] at absent ⊢
  simp [spelled, List.infix_cons_iff, absent]

theorem itemLength_pasteStart_append (text : Text) :
    itemLength (pasteStart ++ text) =
      match Text.splitAtMark? pasteEnd (pasteStart ++ text) with
      | some (before, _) => before.length + pasteEnd.length
      | none => (pasteStart ++ text).length := by
  have marked := Text.dropMark?_append pasteStart text
  cases whole : pasteStart ++ text with
  | nil =>
      rw [whole] at marked
      cases marked
  | cons c rest =>
      rw [whole] at marked
      rw [itemLength, marked]
      rfl

/-- A paste without its end is one item. -/
theorem splitInput_pasteStart_append {text : Text} (absent : ¬ pasteEnd <:+: text) :
    splitInput (pasteStart ++ text) = [pasteStart ++ text] := by
  have missing :=
    Text.splitAtMark?_eq_none_iff.mpr (noEnd_pasteStart_append absent)
  apply Text.cutBy_of_length_le
  · intro empty
    cases (List.append_eq_nil_iff.mp empty).1
  · apply Nat.le_of_eq
    rw [itemLength_pasteStart_append, missing]

/-- A whole paste is one item. -/
theorem Pastable.splitInput_bracketed {text : Text} (pastable : Pastable text) :
    splitInput (bracketed text) = [bracketed text] := by
  have absent := noEnd_pasteStart_append pastable.noEnd
  have found := ledBy_pasteEnd.splitAtMark?_concat absent
  rw [List.append_assoc] at found
  apply Text.cutBy_of_length_le
  · intro empty
    cases (List.append_eq_nil_iff.mp empty).1
  · rw [bracketed, itemLength_pasteStart_append, found]
    simp only [List.length_append]
    omega

theorem parse?_pasteStart_append (text : Text) : parse? (pasteStart ++ text) = none := by
  have spelled : pasteStart = ['\x1b', '[', '2', '0', '0', '~'] := by decide
  rw [spelled]
  rfl

/-- Reads that make up a paste between its marks.  The start mark is not cut. -/
structure PasteReads (text first : Text) (later : List Text) : Prop where
  pastable : Pastable text
  marked : pasteStart <+: first
  whole : (first :: later).flatten = bracketed text

instance (text first : Text) (later : List Text) : Decidable (PasteReads text first later) :=
  decidable_of_iff
    (Pastable text ∧ pasteStart <+: first ∧ (first :: later).flatten = bracketed text)
    ⟨fun parts => ⟨parts.1, parts.2.1, parts.2.2⟩, fun reads =>
      ⟨reads.pastable, reads.marked, reads.whole⟩⟩

private theorem flatten_flatMap_splitInput (reads : List Text) :
    (reads.flatMap splitInput).flatten = reads.flatten := by
  induction reads with
  | nil => rfl
  | cons read reads inductionHypothesis =>
      rw [List.flatMap_cons, List.flatten_append, flatten_splitInput, inductionHypothesis,
        List.flatten_cons]

/-- What the first read brings of the paste, and what the later ones are cut into. -/
theorem PasteReads.exists_arrived
    {text first : Text} {later : List Text} (reads : PasteReads text first later) :
    ∃ arrived,
      first = pasteStart ++ arrived ∧
        arrived ++ (later.flatMap splitInput).flatten = text ++ pasteEnd := by
  obtain ⟨arrived, begins⟩ := reads.marked
  have whole := reads.whole
  rw [List.flatten_cons, ← begins, bracketed, List.append_assoc] at whole
  refine ⟨arrived, begins.symm, ?_⟩
  rw [flatten_flatMap_splitInput]
  exact List.append_cancel_left whole

end Keychart.Key
