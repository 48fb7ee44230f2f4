import Keychart.Proofs.Text.Clusters
import Keychart.Text.WidthMemory
import Mathlib.Data.List.Basic

/-!
# Remembered widths are right

A memory of widths starts empty, and whatever it comes to hold is the width that the
clusters of a text give.  So the widths that are given out do not depend on what was
measured before.
-/

namespace Keychart.Text.WidthMemory

section Measure

variable {m : WidthMemory} {text : Text}

/-- Printable ASCII, and with it the empty text, goes by without the memory. -/
theorem measure_of_plain (plain : isPlainAscii (measured text) = true) :
    m.measure text = ((measured text).length, m) := by
  rw [measure]
  by_cases empty : text.isEmpty = true
  · rw [if_pos empty, List.isEmpty_iff.mp empty]
    rfl
  · rw [if_neg empty]
    exact if_pos plain

private theorem measure_of_not_plain (other : ¬ isPlainAscii (measured text) = true) :
    m.measure text =
      match m.find? (measured text) with
      | some width => (width, m)
      | none =>
        (clustersWidth (measured text),
          m.remember (measured text) (clustersWidth (measured text))) := by
  have some : ¬ text.isEmpty = true := by
    intro empty
    rw [List.isEmpty_iff.mp empty] at other
    exact other rfl
  rw [measure, if_neg some]
  exact if_neg other

private theorem mem_widths_of_find? {width : Nat} (found : m.find? text = some width) :
    (text, width) ∈ m.widths := by
  obtain ⟨front, back, parts, -⟩ := List.lookup_eq_some_iff.mp found
  rw [parts]
  exact List.mem_append_right front List.mem_cons_self

private theorem find?_remember (m : WidthMemory) (text : Text) (width : Nat) :
    (m.remember text width).find? text = some width := by
  rw [remember, find?]
  split <;> exact List.lookup_cons_self

/-- A text that has just been measured is not cut into clusters again. -/
theorem measure_measure (m : WidthMemory) (text : Text) :
    (m.measure text).2.measure text = m.measure text := by
  by_cases plain : isPlainAscii (measured text) = true
  · rw [measure_of_plain plain, measure_of_plain plain]
  · cases found : m.find? (measured text) with
    | some width =>
        have known : m.measure text = (width, m) := by
          rw [measure_of_not_plain plain, found]
        rw [known, known]
    | none =>
        have cut : m.measure text =
            (clustersWidth (measured text),
              m.remember (measured text) (clustersWidth (measured text))) := by
          rw [measure_of_not_plain plain, found]
        rw [cut, measure_of_not_plain plain, find?_remember]

end Measure

/-- What the measuring of texts keeps of a memory: each width is that of the clusters,
each text is remembered once, and there are no more than the memory can hold. -/
structure Sound (m : WidthMemory) : Prop where
  right : ∀ entry ∈ m.widths, entry.2 = clustersWidth entry.1
  once : (m.widths.map Prod.fst).Nodup
  bounded : m.widths.length ≤ capacity

private theorem sound_empty : Sound {} where
  right := fun _ member => absurd member List.not_mem_nil
  once := List.nodup_nil
  bounded := Nat.zero_le _

namespace Sound

variable {m : WidthMemory}

theorem remember (sound : m.Sound) (text : Text) :
    (m.remember text (clustersWidth text)).Sound := by
  rw [WidthMemory.remember]
  by_cases full : capacity ≤ m.widths.length
  · rw [if_pos full]
    refine ⟨?_, List.nodup_cons.mpr ⟨List.not_mem_nil, List.nodup_nil⟩, Nat.le_add_left 1 511⟩
    intro entry member
    rw [List.mem_singleton.mp member]
  · rw [if_neg full]
    refine ⟨?_, List.nodup_cons.mpr ⟨?_, ?_⟩, ?_⟩
    · intro entry member
      rcases List.mem_cons.mp member with rfl | earlier
      · rfl
      · exact sound.right entry (List.mem_of_mem_filter earlier)
    · intro again
      obtain ⟨entry, kept, same⟩ := List.mem_map.mp again
      exact of_decide_eq_true (List.mem_filter.mp kept).2 same
    · exact sound.once.sublist (List.filter_sublist.map Prod.fst)
    · have fewer := List.length_filter_le (fun entry : Text × Nat => entry.1 ≠ text) m.widths
      rw [List.length_cons]
      omega

/-- One text: its width is that of its clusters, remembered or not. -/
theorem measure (sound : m.Sound) (text : Text) :
    (m.measure text).1 = clustersWidth (measured text) ∧ (m.measure text).2.Sound := by
  by_cases plain : isPlainAscii (measured text) = true
  · have short := measuredWidth_eq_clustersWidth (measured text)
    rw [measuredWidth, if_pos plain] at short
    rw [measure_of_plain plain]
    exact ⟨short, sound⟩
  · rw [measure_of_not_plain plain]
    cases found : m.find? (measured text) with
    | some width => exact ⟨sound.right _ (mem_widths_of_find? found), sound⟩
    | none => exact ⟨rfl, sound.remember (measured text)⟩

/-- A run: the memory behind any number of texts. -/
theorem measureEach (sound : m.Sound) (texts : List Text) : (m.measureEach texts).Sound := by
  induction texts generalizing m with
  | nil => exact sound
  | cons text texts inductionHypothesis => exact inductionHypothesis (sound.measure text).2

end Sound

/-- Whatever texts were measured before, the width of a text is the sum of the widths of
its clusters, without its escape sequences and with three spaces for each tab, as it is
without a memory.  The memory never holds more widths than it has room for, and a text
that is measured again gets its width from there. -/
theorem measure_eq_total_clusters (earlier : List Text) (text : Text) :
    ((measureEach {} earlier).measure text).1 =
        Number.total ((clusters (expandTabs (stripEscapes text))).map clusterWidth) ∧
      visibleWidth text =
        Number.total ((clusters (expandTabs (stripEscapes text))).map clusterWidth) ∧
      (measureEach {} earlier).widths.length ≤ capacity ∧
      ((measureEach {} earlier).measure text).2.measure text =
        (measureEach {} earlier).measure text := by
  have sound := sound_empty.measureEach earlier
  exact ⟨(sound.measure text).1, visibleWidth_eq_clustersWidth text, sound.bounded,
    measure_measure _ text⟩

end Keychart.Text.WidthMemory
