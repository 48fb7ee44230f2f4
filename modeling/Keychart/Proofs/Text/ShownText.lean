import Keychart.Proofs.Text.LongestFront
import Keychart.Proofs.Text.Truncated

/-!
# What is shown of a text

A text is shown whole if it fits in its columns, and else cut to its longest front with an
ellipsis behind it.  A text of printable ASCII, whatever escape sequences it has, takes one
column for each character, so what is shown of it is never too wide.
-/

namespace Keychart.Text

open Unicode

/-- What is shown of a text in some columns: all of it if it fits, or else its longest front
that leaves room for an ellipsis, and that; or a front of the ellipsis where there is no
room for anything else. -/
inductive ShownIn (width : Nat) (ellipsis text : Text) : Text → Prop
  | nothing (none : width = 0) : ShownIn width ellipsis text []
  | whole (some : 0 < width) (fits : visibleWidth text ≤ width) : ShownIn width ellipsis text text
  | cut {shown : Text} (wide : width < visibleWidth text) (room : visibleWidth ellipsis < width)
      (front : ShownFront (width - visibleWidth ellipsis) text shown) :
      ShownIn width ellipsis text
        (shown ++ (if HasSequence shown then ['\x1b', '[', '0', 'm'] else []) ++ ellipsis)
  | noRoom {shown : Text} (some : 0 < width) (wide : width < visibleWidth text)
      (full : width ≤ visibleWidth ellipsis) (front : ShownFront width ellipsis shown) :
      ShownIn width ellipsis text shown

theorem shownIn_truncate (width : Nat) (ellipsis text : Text) :
    ShownIn width ellipsis text (truncate width ellipsis false text) := by
  rw [truncate]
  by_cases none : width = 0
  · rw [if_pos none]
    exact .nothing none
  rw [if_neg none]
  have some : 0 < width := Nat.pos_of_ne_zero none
  by_cases fits : visibleWidth text ≤ width
  · rw [if_pos fits]
    exact .whole some fits
  rw [if_neg fits, Text.cut]
  have wide := Nat.lt_of_not_le fits
  by_cases full : width ≤ visibleWidth ellipsis
  · rw [if_pos full]
    exact .noRoom some wide full (takeColumns_shownFront width ellipsis).1
  · obtain ⟨front, styled⟩ := takeColumns_shownFront (width - visibleWidth ellipsis) text
    rw [if_neg full]
    simp only [styled, Bool.false_eq_true, if_false]
    exact .cut wide (Nat.lt_of_not_le full) front

/-- Dots that leave no room fill the columns themselves. -/
private theorem visibleWidth_takeColumns_dots {width : Nat} (full : width ≤ visibleWidth dots) :
    visibleWidth (takeColumns width dots).1 = width := by
  have each : ∀ n : Fin 4, visibleWidth (takeColumns n dots).1 = n := by decide
  have three : visibleWidth dots = 3 := by decide
  exact each ⟨width, by omega⟩

theorem fit_eq_fill (width : Nat) (text : Text) :
    fit width text = fill width (shorten width text) := by
  rw [fit, truncate_true, shorten]
  split
  · rfl
  · next none =>
      obtain ⟨wide, full⟩ := not_or.mp none
      by_cases nothing : width = 0
      · rw [fill, nothing, truncate, if_pos rfl]
        rfl
      · rw [truncate, if_neg nothing, if_neg wide, cut, if_pos (Nat.le_of_not_lt full), fill,
          visibleWidth_takeColumns_dots (Nat.le_of_not_lt full), Nat.sub_self]
        exact (List.append_nil _).symm

theorem isPlainAscii_append {front back : Text} :
    isPlainAscii (front ++ back) = true ↔ isPlainAscii front = true ∧ isPlainAscii back = true := by
  rw [isPlainAscii, List.all_append, Bool.and_eq_true, isPlainAscii, isPlainAscii]

theorem isPlainAscii_of_subset {part text : Text} (within : part ⊆ text)
    (ascii : isPlainAscii text = true) :
    isPlainAscii part = true :=
  List.all_eq_true.mpr fun c member => List.all_eq_true.mp ascii c (within member)

private theorem of_isPlainAscii {text : Text} (ascii : isPlainAscii text = true) {c : Char}
    (member : c ∈ text) :
    (c ≠ '\x1b' ∧ c ≠ '\t') ∧ clusterClass c = .other := by
  have both := List.all_eq_true.mp ascii c member
  simp only [Bool.and_eq_true, decide_eq_true_eq] at both
  refine ⟨⟨?_, ?_⟩, (printable_ascii both.1 both.2).1⟩
  · rintro rfl
    exact absurd both.2 (by decide)
  · rintro rfl
    exact absurd both.2 (by decide)

/-- Whether printable ASCII is all that a text has beside its escape sequences. -/
def ShowsAscii (text : Text) : Prop := isPlainAscii (stripEscapes text) = true

instance (text : Text) : Decidable (ShowsAscii text) := inferInstanceAs (Decidable (_ = _))

theorem stripEscapes_of_isPlainAscii {text : Text} (ascii : isPlainAscii text = true) :
    stripEscapes text = text :=
  stripEscapes_eq_self fun _ member => (of_isPlainAscii ascii member).1.1

theorem showsAscii_of_isPlainAscii {text : Text} (ascii : isPlainAscii text = true) :
    ShowsAscii text := by
  rwa [ShowsAscii, stripEscapes_of_isPlainAscii ascii]

namespace ShowsAscii

variable {text : Text} (h : ShowsAscii text)
include h

theorem stripEscapes_append (back : Text) :
    stripEscapes (text ++ back) = stripEscapes text ++ stripEscapes back := by
  induction text using reading_induction with
  | nil => rfl
  | plain c text begun inductionHypothesis =>
      rw [ShowsAscii, stripEscapes_plain begun] at h
      have different : c ≠ '\x1b' := (of_isPlainAscii h List.mem_cons_self).1.1
      have rest : ShowsAscii text := isPlainAscii_of_subset (List.subset_cons_self _ _) h
      rw [List.cons_append, stripEscapes_plain (escapeLength_cons_of_ne different _),
        stripEscapes_plain begun, inductionHypothesis rest]
      rfl
  | sequence code text known inductionHypothesis =>
      rw [ShowsAscii, stripEscapes_sequence known] at h
      rw [List.append_assoc, stripEscapes_sequence known, stripEscapes_sequence known,
        inductionHypothesis h]

theorem append {back : Text} (h' : ShowsAscii back) : ShowsAscii (text ++ back) := by
  rw [ShowsAscii, h.stripEscapes_append]
  exact isPlainAscii_append.mpr ⟨h, h'⟩

/-- Each character takes one column. -/
theorem visibleWidth_eq_length : visibleWidth text = (stripEscapes text).length := by
  rw [visibleWidth, measured, expandTabs_eq_self fun _ member => (of_isPlainAscii h member).1.2,
    measuredWidth]
  exact if_pos h

theorem visibleWidth_append {back : Text} (h' : ShowsAscii back) :
    visibleWidth (text ++ back) = visibleWidth text + visibleWidth back := by
  rw [(h.append h').visibleWidth_eq_length, h.stripEscapes_append, List.length_append,
    h.visibleWidth_eq_length, h'.visibleWidth_eq_length]

theorem runByRun : RunByRun text := by
  have single (run : Text) (member : run ∈ plainRuns (pieces text)) :
      clusters run = run.map fun c => [c] := by
    refine clusters_of_other fun c within => (of_isPlainAscii h ?_).2
    rw [stripEscapes_eq_flatten_plainRuns]
    exact List.mem_flatten_of_mem member within
  refine ⟨fun member => (of_isPlainAscii h member).1.2 rfl, ?_⟩
  rw [clusters_of_other fun c member => (of_isPlainAscii h member).2, runClusters,
    List.flatMap_def, List.map_congr_left single, stripEscapes_eq_flatten_plainRuns,
    List.map_flatten]

end ShowsAscii

theorem visibleWidth_of_isPlainAscii {text : Text} (ascii : isPlainAscii text = true) :
    visibleWidth text = text.length := by
  rw [(showsAscii_of_isPlainAscii ascii).visibleWidth_eq_length, stripEscapes_of_isPlainAscii ascii]

theorem isPlainAscii_spaces (n : Nat) : isPlainAscii (spaces n) = true := by
  refine List.all_eq_true.mpr fun c member => ?_
  rw [List.eq_of_mem_replicate member]
  decide

/-- What is shown of a front is a front of what is shown. -/
theorem ShownFront.stripEscapes_begins {room : Nat} {text shown : Text}
    (h : ShownFront room text shown) :
    stripEscapes shown <+: stripEscapes text := by
  rcases h.longest with rfl | ⟨cluster, rest, others, -, counted, -⟩
  · exact List.prefix_rfl
  · rw [stripEscapes_eq_flatten_plainRuns, stripEscapes_eq_flatten_plainRuns,
      ← flatten_runClusters, ← flatten_runClusters, counted, List.flatten_append]
    exact List.prefix_append _ _

theorem ShownFront.showsAscii {room : Nat} {text shown : Text} (h : ShownFront room text shown)
    (ascii : ShowsAscii text) :
    ShowsAscii shown ∧ visibleWidth shown ≤ room := by
  have shows : ShowsAscii shown := isPlainAscii_of_subset h.stripEscapes_begins.subset ascii
  refine ⟨shows, ?_⟩
  rw [shows.runByRun.visibleWidth]
  exact h.fits

/-- What is shown of printable ASCII is never too wide. -/
theorem ShownIn.showsAscii {width : Nat} {ellipsis text shown : Text}
    (h : ShownIn width ellipsis text shown) (ascii : ShowsAscii text)
    (closes : ShowsAscii ellipsis) :
    ShowsAscii shown ∧ visibleWidth shown ≤ width := by
  cases h with
  | nothing none => exact ⟨rfl, Nat.zero_le _⟩
  | whole some fits => exact ⟨ascii, fits⟩
  | @cut front wide room isFront =>
      obtain ⟨shows, fits⟩ := isFront.showsAscii ascii
      have reset : ShowsAscii (if HasSequence front then resetCode else []) ∧
          visibleWidth (if HasSequence front then resetCode else []) = 0 := by
        split <;> decide
      refine ⟨(shows.append reset.1).append closes, ?_⟩
      change visibleWidth (front ++ (if HasSequence front then resetCode else []) ++ ellipsis) ≤ _
      rw [(shows.append reset.1).visibleWidth_append closes, shows.visibleWidth_append reset.1,
        reset.2]
      omega
  | noRoom some wide full front => exact front.showsAscii closes

end Keychart.Text
