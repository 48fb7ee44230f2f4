import Keychart.Proofs.Text.KeptRuns

/-!
# The width of a cut text

A cut counts the clusters of each plain run, while the whole text is measured
without its escape sequences and with its tabs as spaces.  Both come to the same
if no tab is shown and no cluster reaches over an escape sequence or into the
ellipsis.  Then a cut text is never too wide, and spaces fill it up exactly, unless
it ends in a character that draws the first of them to itself.

Otherwise a cut text can be wider than asked.
-/

namespace Keychart.Text

open Unicode Number

/-- The cut counts as much as it has room for. -/
theorem runsWidth_takeColumns_le (room : Nat) (text : Text) :
    runsWidth (pieces (takeColumns room text).1) ≤ room := by
  obtain ⟨front, back, isFront, taken, -, least⟩ :=
    exists_front_of_takePieces room (pieces text)
  rw [takeColumns, taken, pieces_spelled_of_front isFront]
  exact least

/-- Whether a text is measured run by run: no tab shows, and no cluster reaches over
an escape sequence. -/
structure RunByRun (text : Text) : Prop where
  noTab : '\t' ∉ stripEscapes text
  clusters : clusters (stripEscapes text) = runClusters (pieces text)

theorem runByRun_iff (text : Text) :
    RunByRun text ↔
      '\t' ∉ stripEscapes text ∧ Text.clusters (stripEscapes text) = runClusters (pieces text) :=
  ⟨fun h => ⟨h.noTab, h.clusters⟩, fun h => ⟨h.1, h.2⟩⟩

instance (text : Text) : Decidable (RunByRun text) :=
  decidable_of_iff _ (runByRun_iff text).symm

theorem RunByRun.measured {text : Text} (h : RunByRun text) :
    measured text = stripEscapes text :=
  expandTabs_eq_self fun _ member same => h.noTab (same ▸ member)

theorem RunByRun.visibleWidth {text : Text} (h : RunByRun text) :
    visibleWidth text = runsWidth (pieces text) := by
  rw [visibleWidth_eq_clustersWidth, h.measured, clustersWidth, h.clusters, runsWidth]

/-- What is taken of a text that is measured run by run is measured so too. -/
theorem RunByRun.takeColumns {text : Text} (h : RunByRun text) (room : Nat) :
    RunByRun (takeColumns room text).1 := by
  obtain ⟨front, back, isFront, taken, counted, -⟩ :=
    exists_front_of_takePieces room (pieces text)
  have own := pieces_spelled_of_front isFront
  have stripped :
      stripEscapes (Text.takeColumns room text).1 = (runClusters front).flatten := by
    rw [Text.takeColumns, taken, stripEscapes_eq_flatten_plainRuns, own, flatten_runClusters]
  have whole : stripEscapes text = (runClusters front).flatten ++ back.flatten := by
    rw [stripEscapes_eq_flatten_plainRuns, ← flatten_runClusters, counted,
      List.flatten_append]
  constructor
  · rw [stripped]
    intro member
    refine h.noTab ?_
    rw [whole]
    exact List.mem_append_left _ member
  · rw [stripped, Text.takeColumns, taken, own]
    exact clusters_flatten (h.clusters.trans counted)

private theorem runByRun_of_plain {text : Text} (plain : ∀ c ∈ text, c ≠ '\x1b' ∧ c ≠ '\t') :
    RunByRun text := by
  have stripped := stripEscapes_eq_self fun c member => (plain c member).1
  constructor
  · rw [stripped]
    exact fun member => (plain _ member).2 rfl
  · rw [stripped]
    by_cases empty : text = []
    · subst empty
      rfl
    · rw [pieces_of_plain empty fun c member => (plain c member).1, runClusters_plain]
      exact (List.append_nil _).symm

private theorem visibleWidth_append_spaces_le (text : Text) (n : Nat) :
    visibleWidth (text ++ spaces n) ≤ visibleWidth text + n := by
  rw [visibleWidth_eq_clustersWidth, visibleWidth_eq_clustersWidth, measured_append_spaces]
  by_cases drawn : EndsPrepended (measured text)
  · rcases Nat.eq_zero_or_pos n with rfl | positive
    · rw [spaces, List.replicate_zero, List.append_nil, Nat.add_zero]
    · exact Nat.le_of_lt (clustersWidth_append_spaces_lt drawn positive)
  · exact Nat.le_of_eq (clustersWidth_append_spaces drawn n)

private theorem visibleWidth_fill_le
    {width : Nat} {text : Text} (fits : visibleWidth text ≤ width) :
    visibleWidth (fill width text) ≤ width := by
  have filled := visibleWidth_append_spaces_le text (width - visibleWidth text)
  rw [fill]
  omega

/-- Spaces fill a text up exactly unless its last character draws the first of them
to itself. -/
theorem visibleWidth_fill_eq_iff
    {width : Nat} {text : Text} (fits : visibleWidth text ≤ width) :
    visibleWidth (fill width text) = width ↔
      visibleWidth text = width ∨ ¬ EndsPrepended (measured text) := by
  rw [fill]
  by_cases exact : visibleWidth text = width
  · rw [exact, Nat.sub_self, spaces, List.replicate_zero, List.append_nil]
    simp [exact]
  · rw [visibleWidth_eq_clustersWidth, measured_append_spaces]
    by_cases drawn : EndsPrepended (measured text)
    · have less := clustersWidth_append_spaces_lt drawn
        (show 0 < width - visibleWidth text by omega)
      rw [← visibleWidth_eq_clustersWidth] at less
      constructor
      · intro same
        omega
      · rintro (same | closed)
        · exact absurd same exact
        · exact absurd drawn closed
    · rw [clustersWidth_append_spaces drawn, ← visibleWidth_eq_clustersWidth]
      constructor
      · exact fun _ => .inr drawn
      · intro _
        omega

theorem visibleWidth_fill_eq_iff_le {width : Nat} {text : Text} :
    visibleWidth (fill width text) = width ↔
      visibleWidth text ≤ width ∧
        (visibleWidth text = width ∨ ¬ EndsPrepended (measured text)) := by
  by_cases fits : visibleWidth text ≤ width
  · rw [visibleWidth_fill_eq_iff fits, and_iff_right fits]
  · have nothing : width - visibleWidth text = 0 := Nat.sub_eq_zero_of_le (Nat.le_of_not_le fits)
    rw [fill, nothing, spaces, List.replicate_zero, List.append_nil]
    constructor
    · exact fun same => absurd (Nat.le_of_eq same) fits
    · exact fun both => absurd both.1 fits

/-! ## Cutting -/

/-- Whether neither a cluster nor an escape sequence reaches over the border of two
texts. -/
def Apart (front back : Text) : Prop :=
  clusters (measured (front ++ back)) = clusters (measured front) ++ clusters (measured back)

instance (front back : Text) : Decidable (Apart front back) := inferInstanceAs (Decidable (_ = _))

theorem visibleWidth_append {front back : Text} (apart : Apart front back) :
    visibleWidth (front ++ back) = visibleWidth front + visibleWidth back := by
  rw [Apart] at apart
  simp only [visibleWidth_eq_clustersWidth, clustersWidth, apart, List.map_append, total_append]

private theorem isSequence_resetCode : IsSequence resetCode :=
  .control ['0'] 'm' (List.forall_mem_singleton.mpr (by decide)) (by decide)

private theorem visibleWidth_reset (styled : Bool) (text : Text) :
    visibleWidth ((if styled then resetCode else []) ++ text) = visibleWidth text := by
  cases styled with
  | false => rfl
  | true =>
      rw [if_pos rfl, visibleWidth, measured, stripEscapes_sequence isSequence_resetCode]
      rfl

/-- Whether a cut text is measured as it was counted: what is shown of the text, or
of the ellipsis if that leaves no room, is measured run by run, and stands apart from
what follows it. -/
def MeasuredAsCounted (width : Nat) (ellipsis text : Text) : Prop :=
  if width ≤ visibleWidth ellipsis then RunByRun (takeColumns width ellipsis).1
  else
    RunByRun (takeColumns (width - visibleWidth ellipsis) text).1 ∧
      Apart (takeColumns (width - visibleWidth ellipsis) text).1
        ((if (takeColumns (width - visibleWidth ellipsis) text).2 then resetCode else []) ++
          ellipsis)

/-- A cut text takes no more columns than are asked. -/
theorem visibleWidth_cut_le
    {width : Nat} {ellipsis text : Text} (counted : MeasuredAsCounted width ellipsis text) :
    visibleWidth (cut width ellipsis false text) ≤ width := by
  rw [MeasuredAsCounted] at counted
  rw [cut]
  split at counted
  · next wide =>
      have least := runsWidth_takeColumns_le width ellipsis
      rw [if_pos wide, counted.visibleWidth]
      exact least
  · next room =>
      obtain ⟨byRuns, apart⟩ := counted
      have least := runsWidth_takeColumns_le (width - visibleWidth ellipsis) text
      rw [← byRuns.visibleWidth] at least
      rw [if_neg room]
      simp only [Bool.false_eq_true, if_false, List.append_assoc]
      rw [visibleWidth_append apart, visibleWidth_reset]
      omega

/-- Padding fills up what is shown, unless that is an ellipsis which leaves no
room. -/
theorem truncate_true (width : Nat) (ellipsis text : Text) :
    truncate width ellipsis true text =
      if visibleWidth text ≤ width ∨ visibleWidth ellipsis < width then
        fill width (truncate width ellipsis false text)
      else truncate width ellipsis false text := by
  by_cases nothing : width = 0
  · subst nothing
    rw [truncate, truncate, if_pos rfl, if_pos rfl]
    split <;> rfl
  · rw [truncate, truncate, if_neg nothing, if_neg nothing]
    by_cases fits : visibleWidth text ≤ width
    · simp only [fits, true_or, if_true, Bool.false_eq_true, if_false]
    · rw [if_neg fits, if_neg fits, cut, cut]
      by_cases wide : width ≤ visibleWidth ellipsis
      · rw [if_pos wide, if_pos wide, if_neg (by omega)]
      · rw [if_neg wide, if_neg wide, if_pos (by omega)]
        rfl

/-- A truncated text takes no more columns than are asked, and with padding exactly
as many, unless what is cut is measured otherwise than it was counted; the padding
stays short where only an ellipsis is shown that leaves no room, and behind a
character that draws the first space to itself. -/
theorem visibleWidth_truncate
    {width : Nat} {ellipsis text : Text}
    (counted : visibleWidth text ≤ width ∨ MeasuredAsCounted width ellipsis text) :
    (∀ padded, visibleWidth (truncate width ellipsis padded text) ≤ width) ∧
      (visibleWidth (truncate width ellipsis true text) = width ↔
        visibleWidth (truncate width ellipsis false text) = width ∨
          (visibleWidth text ≤ width ∨ visibleWidth ellipsis < width) ∧
            ¬ EndsPrepended (measured (truncate width ellipsis false text))) := by
  have shown : visibleWidth (truncate width ellipsis false text) ≤ width := by
    rw [truncate]
    by_cases nothing : width = 0
    · rw [if_pos nothing]
      exact Nat.zero_le _
    · rw [if_neg nothing]
      by_cases fits : visibleWidth text ≤ width
      · rw [if_pos fits]
        exact fits
      · rw [if_neg fits]
        exact visibleWidth_cut_le (counted.resolve_left fits)
  rw [truncate_true]
  constructor
  · intro padded
    cases padded with
    | false => exact shown
    | true =>
        rw [truncate_true]
        split
        · exact visibleWidth_fill_le shown
        · exact shown
  · split
    · next room =>
        rw [visibleWidth_fill_eq_iff shown]
        simp only [room, true_and]
    · next room => simp only [room, false_and, or_false]

/-- Spaces fill up what is left of the room by a styled text. -/
theorem visibleWidth_truncate_styled :
    visibleWidth (truncate 5 dots true (ofString "\x1b[1mabcdefgh")) = 5 := by
  have counted : MeasuredAsCounted 5 dots (ofString "\x1b[1mabcdefgh") := by
    rw [MeasuredAsCounted, if_neg (by decide)]
    exact ⟨by decide, by decide⟩
  exact (visibleWidth_truncate (.inr counted)).2.mpr (.inl (by decide))

/-- Tabs are counted as nothing where the text is cut. -/
theorem visibleWidth_truncate_tabs :
    visibleWidth (truncate 4 dots false ['\t', '\t', '\t']) = 12 ∧
      ¬ visibleWidth (truncate 4 dots false ['\t', '\t', '\t']) ≤ 4 := by
  decide

private theorem takeColumns_begins
    (room : Nat) (text : Text) : (takeColumns room text).1 <+: text := by
  obtain ⟨front, back, isFront, taken, -, -⟩ := exists_front_of_takePieces room (pieces text)
  have part := isFront.spelled_begins
  rw [spelled_pieces] at part
  rwa [takeColumns, taken]

private theorem takeColumns_of_plain
    {text : Text} (plain : ∀ c ∈ text, c ≠ '\x1b') (room : Nat) :
    (takeColumns room text).2 = false := by
  by_cases empty : text = []
  · subst empty
    rfl
  · rw [takeColumns, pieces_of_plain empty plain]
    cases found : (takeClusters room (clusters text)).2 with
    | none => rw [takePieces_plain_of_none found]
    | some left =>
        rw [takePieces_plain_of_some found]
        rfl

/-- Whether a text has no escape characters, no tabs and no characters that draw the
next one to themselves. -/
def IsPlain (text : Text) : Prop :=
  ∀ c ∈ text, (c ≠ '\x1b' ∧ c ≠ '\t') ∧ clusterClass c ≠ .prepended

private theorem other_of_mem_dots {c : Char} (member : c ∈ dots) : clusterClass c = .other := by
  obtain rfl : c = '.' := by simpa [dots] using member
  decide

private theorem isPlain_dots : IsPlain dots := by
  intro c member
  obtain rfl : c = '.' := by simpa [dots] using member
  decide

namespace IsPlain

variable {text : Text} (h : IsPlain text)
include h

theorem measured : measured text = text := measured_eq_self fun c member => (h c member).1

private theorem not_endsPrepended : ¬ EndsPrepended text := by
  rintro ⟨c, last, prepended⟩
  exact (h c (List.mem_of_getLast? last)).2 prepended

theorem append {back : Text} (h' : IsPlain back) : IsPlain (text ++ back) := by
  intro c member
  rcases List.mem_append.mp member with member | member
  · exact h c member
  · exact h' c member

theorem takeColumns (room : Nat) : IsPlain (takeColumns room text).1 :=
  fun c member => h c ((takeColumns_begins room text).subset member)

private theorem takeColumns_snd (room : Nat) : (Text.takeColumns room text).2 = false :=
  takeColumns_of_plain (fun c member => (h c member).1.1) room

theorem runByRun : RunByRun text := runByRun_of_plain fun c member => (h c member).1

/-- No dot joins a text in front of it. -/
theorem apart_dots : Apart text dots := by
  have closed : lastState text ≠ .afterPrepended := fun same =>
    h.not_endsPrepended ((lastState_eq_afterPrepended_iff text).mp same)
  have behind := clustersFrom_of_other closed fun _ => other_of_mem_dots
  rw [Apart, (h.append isPlain_dots).measured, h.measured, isPlain_dots.measured,
    clusters_append text (by rw [behind]), behind, clusters_of_other fun _ => other_of_mem_dots]

private theorem measuredAsCounted (width : Nat) : MeasuredAsCounted width dots text := by
  rw [MeasuredAsCounted]
  split
  · exact isPlain_dots.runByRun.takeColumns width
  · refine ⟨h.runByRun.takeColumns _, ?_⟩
    rw [h.takeColumns_snd, if_neg (by decide)]
    exact (h.takeColumns _).apart_dots

theorem shorten (width : Nat) : IsPlain (shorten width text) := by
  rw [Text.shorten, truncate]
  split
  · intro c member
    cases member
  split
  · exact h
  rw [cut]
  split
  · exact isPlain_dots.takeColumns width
  · simp only [h.takeColumns_snd, Bool.false_eq_true, if_false, List.append_nil]
    exact (h.takeColumns _).append isPlain_dots

/-- A plain text that is cut with dots or filled up takes exactly the columns that
are asked. -/
theorem visibleWidth_fit (width : Nat) : visibleWidth (fit width text) = width := by
  refine (visibleWidth_truncate (.inr (h.measuredAsCounted width))).2.mpr ?_
  by_cases room : visibleWidth text ≤ width ∨ visibleWidth dots < width
  · have shown := h.shorten width
    refine .inr ⟨room, ?_⟩
    change ¬ EndsPrepended (Text.measured (Text.shorten width text))
    rw [shown.measured]
    exact shown.not_endsPrepended
  · -- Nothing but dots is shown, as many as there are columns.
    have each : ∀ n : Fin 4, visibleWidth (Text.takeColumns n dots).1 = n := by decide
    have three : visibleWidth dots = 3 := by decide
    left
    rw [truncate]
    by_cases nothing : width = 0
    · rw [if_pos nothing, nothing]
      rfl
    · rw [if_neg nothing, if_neg (by omega), cut, if_pos (by omega)]
      exact each ⟨width, by omega⟩

end IsPlain

end Keychart.Text
