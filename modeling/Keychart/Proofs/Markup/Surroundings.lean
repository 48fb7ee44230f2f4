import Keychart.Proofs.Markup.Stored
import Keychart.Proofs.Markup.WrittenLine

/-!
# What stands around a region

The keymap of a source is that of its region.  Lines in front of the first region
mark and lines behind the mark that closes the region leave no trace, whatever
they hold: neither in the keymap nor in what is reported.

The phases carry this.  A reader leaves the phase in front of the region by a
region mark alone, stays inside until a bare mark, and does not leave the phase
behind it.
-/

namespace Keychart.Markup

/-- Whether a line marks a region, with a title or without one. -/
def Line.isRegionMark : Line → Bool
  | opening _ => true
  | closing => true
  | _ => false

namespace Reader

variable {r : Reader}

theorem read_of_before
    (before : r.phase = .before) {line : Line} (unmarked : line.isRegionMark = false) :
    r.read line = r := by
  cases line with
  | opening title => cases unmarked
  | closing => cases unmarked
  | _ => simp only [read, before]

private theorem readAll_of_before
    (before : r.phase = .before) {lines : List Line}
    (unmarked : ∀ line ∈ lines, line.isRegionMark = false) :
    r.readAll lines = r := by
  induction lines with
  | nil => rfl
  | cons line lines inductionHypothesis =>
      have first := read_of_before before (unmarked line List.mem_cons_self)
      have rest := inductionHypothesis fun l member =>
        unmarked l (List.mem_cons_of_mem line member)
      rw [readAll, List.foldl_cons, first]
      exact rest

theorem readAll_of_after (after : r.phase = .after) (lines : List Line) :
    r.readAll lines = r := by
  induction lines with
  | nil => rfl
  | cons line lines inductionHypothesis =>
      have first : r.read line = r := by
        simp only [read, after]
      rw [readAll, List.foldl_cons, first]
      exact inductionHypothesis

theorem phase_read_of_before
    (before : r.phase = .before) {line : Line} (mark : line.isRegionMark = true) :
    (r.read line).phase = .inside := by
  cases line with
  | opening title =>
      simp only [read, before]
      rfl
  | closing =>
      simp only [read, before]
      rfl
  | _ => cases mark

private theorem phase_readCode (line : Text) : (r.readCode line).phase = r.phase := by
  rcases readCode_cases r line with ⟨keybind, listed⟩ | ⟨note, reported⟩ | dropped
  · rw [listed]
    rfl
  · rw [reported]
    rfl
  · rw [dropped]
    rfl

private theorem phase_head (name : Option Text) : (r.head name).phase = r.phase := by
  cases name with
  | none => rfl
  | some name => rfl

/-- Only a bare mark leads out of the region. -/
theorem phase_read_of_inside
    (inside : r.phase = .inside) {line : Line} (stays : line ≠ .closing) :
    (r.read line).phase = .inside := by
  rw [read_of_inside inside]
  have flushed : r.flushEntry.phase = .inside := phase_flushEntry.trans inside
  cases line with
  | opening title => exact inside
  | closing => exact absurd rfl stays
  | heading name => exact (phase_head name).trans flushed
  | description text => exact flushed
  | entry keys text => exact flushed
  | hide note => exact flushed
  | code line => exact (phase_readCode line).trans inside
  | blank => exact inside
  | other line => exact inside

private theorem phase_readAll_of_inside
    (inside : r.phase = .inside) {lines : List Line}
    (stays : ∀ line ∈ lines, line ≠ .closing) :
    (r.readAll lines).phase = .inside := by
  induction lines generalizing r with
  | nil => exact inside
  | cons line lines inductionHypothesis =>
      have first := phase_read_of_inside inside (stays line List.mem_cons_self)
      exact inductionHypothesis first fun l member =>
        stays l (List.mem_cons_of_mem line member)

/-- A region mark, lines that do not close the region, and a bare mark. -/
theorem phase_readAll_region
    (before : r.phase = .before) {first : Line} (mark : first.isRegionMark = true)
    {inner : List Line} (stays : ∀ line ∈ inner, line ≠ .closing) :
    (r.readAll (first :: inner ++ [.closing])).phase = .after := by
  have opened : (r.read first).phase = .inside := phase_read_of_before before mark
  have inside : ((r.read first).readAll inner).phase = .inside :=
    phase_readAll_of_inside opened stays
  have closed := read_of_inside inside .closing
  rw [readAll_append, readAll_singleton]
  change (((r.read first).readAll inner).read .closing).phase = .after
  rw [closed]
  rfl

/-- Lines without a region mark in front of a region, and any lines behind it,
leave the reader where the region alone leaves it. -/
theorem readAll_surrounded
    (before : r.phase = .before) {front region : List Line}
    (unmarked : ∀ line ∈ front, line.isRegionMark = false)
    (closed : (r.readAll region).phase = .after) (back : List Line) :
    r.readAll (front ++ region ++ back) = r.readAll region := by
  rw [readAll_append, readAll_append, readAll_of_before before unmarked,
    readAll_of_after closed]

end Reader

open Text

theorem readLines_join_concat
    {front : List Text} {last : Text} (oneLine : ∀ line ∈ front ++ [last], OneLine line)
    (nonempty : last ≠ []) :
    readLines (join ['\n'] (front ++ [last])) = (front ++ [last]).map readLine := by
  have frontLines : ∀ line ∈ front, OneLine line := fun line member =>
    oneLine line (List.mem_append_left [last] member)
  have lastLine : OneLine last :=
    oneLine last (List.mem_append_right front List.mem_cons_self)
  rw [readLines, lines_join_concat frontLines lastLine nonempty]

/-- Whatever stands below some lines, they are read first. -/
theorem exists_readLines_join_append
    {front : List Text} {last : Text} (oneLine : ∀ line ∈ front ++ [last], OneLine line)
    (nonempty : last ≠ []) (back : List Text) :
    ∃ rest, readLines (join ['\n'] (front ++ [last] ++ back)) =
      (front ++ [last]).map readLine ++ rest := by
  by_cases below : back = []
  · refine ⟨[], ?_⟩
    rw [below, List.append_nil, List.append_nil]
    exact readLines_join_concat oneLine nonempty
  · refine ⟨readLines (join ['\n'] back), ?_⟩
    rw [readLines, lines_join_append oneLine below, List.map_append]
    rfl

/-- A region counts alone: with lines in front of it that mark no region, and any
lines below it, a source is read to the same end and has the same keymap. -/
theorem ofSource_surrounded
    {front inner back : List Text} {first last : Text}
    (oneLine : ∀ line ∈ front ++ (first :: inner ++ [last]), OneLine line)
    (unmarked : ∀ line ∈ front, (readLine line).isRegionMark = false)
    (opens : (readLine first).isRegionMark = true)
    (stays : ∀ line ∈ inner, readLine line ≠ .closing)
    (closes : readLine last = .closing) :
    let region := first :: inner ++ [last]
    readSource (join ['\n'] (front ++ region ++ back)) =
        readSource (join ['\n'] region) ∧
      Keymap.ofSource (join ['\n'] (front ++ region ++ back)) =
        Keymap.ofSource (join ['\n'] region) := by
  intro region
  have nonempty : last ≠ [] := by
    rintro rfl
    exact absurd closes (by decide)
  have regionLines : ∀ line ∈ first :: inner ++ [last], OneLine line :=
    fun line member => oneLine line (List.mem_append_right front member)
  have alone : readLines (join ['\n'] region) = region.map readLine :=
    readLines_join_concat regionLines nonempty
  obtain ⟨rest, whole⟩ :
      ∃ rest, readLines (join ['\n'] (front ++ region ++ back)) =
        front.map readLine ++ region.map readLine ++ rest := by
    rw [← List.append_assoc] at oneLine
    obtain ⟨rest, found⟩ := exists_readLines_join_append oneLine nonempty back
    refine ⟨rest, ?_⟩
    rw [← List.map_append, ← List.append_assoc]
    exact found
  have closed : (({} : Reader).readAll (region.map readLine)).phase = .after := by
    have marks : region.map readLine =
        readLine first :: inner.map readLine ++ [.closing] := by
      simp [region, closes]
    rw [marks]
    exact Reader.phase_readAll_region rfl opens (List.forall_mem_map.mpr stays)
  have same :
      ({} : Reader).readAll (readLines (join ['\n'] (front ++ region ++ back))) =
        ({} : Reader).readAll (readLines (join ['\n'] region)) := by
    rw [whole, alone]
    exact Reader.readAll_surrounded rfl (List.forall_mem_map.mpr unmarked) closed rest
  constructor
  · rw [readSource, readSource, same]
  · rw [Keymap.ofSource, Keymap.ofSource, Keymap.ofLines, Keymap.ofLines, same]

def strayLines : List Text :=
  ["-- ! hidden", "-- ## Before", "-- lost", "  , (\"M-a\", a)"].map Text.ofString

/-- The lines of a region between its marks; a titled mark does not end it. -/
def innerLines : List Text := ["  , (\"M-b\", b)", "-- # Again"].map Text.ofString

/-- A second region, which is left open, with an empty line at the end. -/
def secondRegion : List Text :=
  ["  , (\"M-c\", c)", "-- # More", "-- \"M-d\" d", ""].map Text.ofString

theorem ofSource_surrounded_stray :
    (∀ line ∈ strayLines ++ (titleLine ['T'] :: innerLines ++ [endLine]), OneLine line) ∧
      (∀ line ∈ strayLines, (readLine line).isRegionMark = false) ∧
      (readLine (titleLine ['T'])).isRegionMark = true ∧
      (∀ line ∈ innerLines, readLine line ≠ .closing) ∧
      readLine endLine = .closing ∧
      Keymap.ofSource (join ['\n']
          (strayLines ++ (titleLine ['T'] :: innerLines ++ [endLine]) ++ secondRegion)) =
        Keymap.ofSource (join ['\n'] (titleLine ['T'] :: innerLines ++ [endLine])) := by
  have oneLine : ∀ line ∈ strayLines ++ (titleLine ['T'] :: innerLines ++ [endLine]),
      OneLine line := by
    decide
  have unmarked : ∀ line ∈ strayLines, (readLine line).isRegionMark = false := by
    decide
  have opens : (readLine (titleLine ['T'])).isRegionMark = true := by
    decide
  have stays : ∀ line ∈ innerLines, readLine line ≠ .closing := by
    decide
  have closes : readLine endLine = .closing := readLine_endLine
  exact ⟨oneLine, unmarked, opens, stays, closes,
    (ofSource_surrounded oneLine unmarked opens stays closes).2⟩

end Keychart.Markup
