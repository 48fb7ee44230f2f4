import Keychart.Proofs.Viewer.WrittenRows
import Mathlib.Data.List.Basic
import Mathlib.Data.List.GetD
import Mathlib.Data.List.Induction
import Mathlib.Tactic.Push

/-!
# Lines without a carriage return

Lines that only a line feed separates make stairs: each begins in the column
where the one above it ended.  A line that reaches the right margin goes on in
the row below, so from there on every line stands a row too low.

The stairs show what the lines say exactly if nothing shows below a line that is
not empty.
-/

namespace Keychart.Viewer.Display

open Unicode

/-- The rows of a line from a column on.  A row that is just full loses its last
character when the rest of it is erased. -/
def climb (width start : Nat) (line : Text) : List Text :=
  if start + line.length ≤ width then [(Text.spaces start ++ line).take (width - 1)]
  else
    [(Text.spaces start ++ line).take width, (Text.spaces start ++ line).drop width]

def columnBehind (width start : Nat) (line : Text) : Nat :=
  if start + line.length ≤ width then min (start + line.length) (width - 1)
  else start + line.length - width

/-- The rows of some lines, the first of them from a column on. -/
def stairs (width : Nat) : (start : Nat) → List Text → List Text
  | _, [] => []
  | start, line :: lines =>
    climb width start line ++ stairs width (columnBehind width start line) lines

def endColumn (width : Nat) : (start : Nat) → List Text → Nat
  | start, [] => start
  | start, line :: lines => endColumn width (columnBehind width start line) lines

/-- Whether no line runs past the right margin. -/
def Fits (width : Nat) : (start : Nat) → List Text → Prop
  | _, [] => True
  | start, line :: lines =>
    start + line.length ≤ width ∧ Fits width (columnBehind width start line) lines

private theorem columnBehind_lt
    {width start : Nat} {line : Text}
    (startLess : start < width) (short : line.length < width) :
    columnBehind width start line < width := by
  unfold columnBehind
  split <;> omega

theorem climb_eq_concat
    {width start : Nat} (line : Text) :
    ∃ above last, climb width start line = above ++ [last] ∧
      last.length = columnBehind width start line := by
  unfold climb columnBehind
  split
  · refine ⟨[], _, rfl, ?_⟩
    rw [List.length_take, List.length_append, length_spaces, Nat.min_comm]
  · refine ⟨[(Text.spaces start ++ line).take width], _, rfl, ?_⟩
    rw [List.length_drop, List.length_append, length_spaces]

section Reading

variable {size : Size} {start : Nat} {line : Text}

/-- A line and the end of its row. -/
theorem read_line
    (above : List Text) (rows : 0 < size.rows) (startLess : start < size.columns)
    (short : line.length < size.columns) (narrow : ∀ c ∈ line, columns c = 1) :
    (ofRows size (above ++ [Text.spaces start])).read (line ++ Viewer.eraseLineEnd) =
      ofRows size (above ++ climb size.columns start line) := by
  have wide : 0 < size.columns := by omega
  have length := length_spaces start
  rw [read_append, climb]
  split
  · next room =>
      rw [read_ofRows_of_le rows narrow (by omega), read_eraseLineEnd,
        eraseLineEnd_ofRows rows wide (by rw [List.length_append]; omega)]
      rfl
  · next past =>
      -- The row is filled, and the rest begins the next one.
      obtain ⟨front, back, rfl, full⟩ :
          ∃ front back, line = front ++ back ∧ start + front.length = size.columns :=
        ⟨line.take (size.columns - start), line.drop (size.columns - start),
          (List.take_append_drop _ _).symm, by rw [List.length_take]; omega⟩
      rw [List.length_append] at past short
      have filled : (Text.spaces start ++ front).length = size.columns := by
        rw [List.length_append, length, full]
      have backNonempty : back ≠ [] := by
        intro empty
        rw [empty, List.length_nil] at past
        omega
      have narrowFront : ∀ c ∈ front, columns c = 1 := fun c member =>
        narrow c (List.mem_append_left _ member)
      have narrowBack : ∀ c ∈ back, columns c = 1 := fun c member =>
        narrow c (List.mem_append_right _ member)
      rw [read_append, read_ofRows_of_le rows narrowFront (by omega),
        read_ofRows_of_full rows filled backNonempty narrowBack (by omega),
        read_eraseLineEnd, eraseLineEnd_ofRows rows wide (by omega),
        ← List.append_assoc, List.take_left' filled, List.drop_left' filled,
        List.take_of_length_le (by omega), List.append_assoc]
      rfl

theorem read_wholeFrame
    {frame : List Text} (nonempty : frame ≠ []) (above : List Text)
    (rows : 0 < size.rows) (startLess : start < size.columns)
    (narrow : ∀ line ∈ frame, line.length < size.columns ∧ ∀ c ∈ line, columns c = 1) :
    (ofRows size (above ++ [Text.spaces start])).read (Screen.wholeFrame frame) =
      ofRows size (above ++ stairs size.columns start frame) := by
  induction frame generalizing above start with
  | nil => exact absurd rfl nonempty
  | cons line frame inductionHypothesis =>
      obtain ⟨short, lineNarrow⟩ := narrow line List.mem_cons_self
      have wide : 0 < size.columns := by omega
      have written := read_line above rows startLess short lineNarrow
      cases frame with
      | nil =>
          rw [stairs, stairs, List.append_nil]
          exact written
      | cons next frame =>
          have whole :
              Screen.wholeFrame (line :: next :: frame) =
                line ++ Viewer.eraseLineEnd ++ '\n' :: Screen.wholeFrame (next :: frame) := by
            simp [Screen.wholeFrame, Text.join]
          obtain ⟨front, last, rowsOfLine, lastLength⟩ :=
            @climb_eq_concat size.columns start line
          have less := columnBehind_lt startLess short
          have fed :
              (ofRows size (above ++ climb size.columns start line)).step '\n' =
                ofRows size (above ++ climb size.columns start line ++
                  [Text.spaces (columnBehind size.columns start line)]) := by
            rw [step_lineFeed rfl, rowsOfLine, ← List.append_assoc,
              lineFeed_ofRows_of_lt rows (by omega), lastLength]
          rw [whole, read_append, written, read_cons, fed,
            inductionHypothesis (List.cons_ne_nil _ _) _ less
              (fun other member => narrow other (List.mem_cons_of_mem line member)),
            List.append_assoc]
          rfl

end Reading

/-! ## What the stairs show -/

def Blank (row : Text) : Prop := ∀ column, cellAt row column = ' '

/-- Whether two rows show the same. -/
def Alike (one other : Text) : Prop := ∀ column, cellAt one column = cellAt other column

theorem blank_nil : Blank [] := fun _ => rfl

private theorem cellAt_drop (row : Text) (n column : Nat) :
    cellAt (row.drop n) column = cellAt row (n + column) := by
  simp only [cellAt, List.getD_eq_getElem?_getD, List.getElem?_drop]

theorem cellAt_spaces_append (n : Nat) (row : Text) (column : Nat) :
    cellAt (Text.spaces n ++ row) column =
      if column < n then ' ' else cellAt row (column - n) := by
  simp only [cellAt, Text.spaces, List.getD_eq_getElem?_getD, List.getElem?_append,
    List.length_replicate, List.getElem?_replicate]
  split <;> rfl

/-- A row that shows the same farther to the right shows nothing. -/
theorem blank_of_alike_indented
    {line : Text} {start width : Nat} (indented : 0 < start)
    (alike : Alike ((Text.spaces start ++ line).take width) line) :
    Blank line := by
  intro column
  induction column using Nat.strongRecOn with
  | ind column inductionHypothesis =>
      rw [← alike column, cellAt_take, cellAt_spaces_append]
      split
      · split
        · rfl
        · exact inductionHypothesis (column - start) (by omega)
      · rfl

/-- A row that shows the same without its front shows nothing. -/
theorem blank_of_alike_drop
    {line : Text} {n : Nat} (positive : 0 < n) (alike : Alike (line.drop n) line) :
    Blank line := by
  intro column
  induction left : line.length - column using Nat.strongRecOn generalizing column with
  | ind left' inductionHypothesis =>
      by_cases behind : line.length ≤ column
      · exact cellAt_of_length_le behind
      · rw [← alike column, cellAt_drop]
        exact inductionHypothesis _ (by omega) (n + column) rfl

private theorem blank_of_mem_climb
    {width start : Nat} {line row : Text} (blank : Blank line)
    (member : row ∈ climb width start line) :
    Blank row := by
  have whole : Blank (Text.spaces start ++ line) := by
    intro column
    rw [cellAt_spaces_append, blank]
    split <;> rfl
  have taken (n : Nat) : Blank ((Text.spaces start ++ line).take n) := by
    intro column
    rw [cellAt_take, whole]
    split <;> rfl
  have dropped (n : Nat) : Blank ((Text.spaces start ++ line).drop n) := by
    intro column
    rw [cellAt_drop, whole]
  unfold climb at member
  split at member
  · rw [List.mem_singleton.mp member]
    exact taken _
  · rcases List.mem_pair.mp member with rfl | rfl
    · exact taken _
    · exact dropped _

section Stairs

variable {width start : Nat} {line : Text} {lines : List Text}

theorem columnBehind_pos_iff
    (startLess : start < width) (short : line.length < width) :
    0 < columnBehind width start line ↔ 0 < start ∨ line ≠ [] := by
  have nonempty : line ≠ [] ↔ 0 < line.length := List.length_pos_iff.symm
  rw [nonempty]
  unfold columnBehind
  split <;> omega

theorem stairs_append (width start : Nat) (front back : List Text) :
    stairs width start (front ++ back) =
      stairs width start front ++ stairs width (endColumn width start front) back := by
  induction front generalizing start with
  | nil => rfl
  | cons line front inductionHypothesis =>
      rw [List.cons_append, stairs, inductionHypothesis, stairs, endColumn,
        List.append_assoc]

private theorem length_climb :
    (climb width start line).length = if start + line.length ≤ width then 1 else 2 := by
  unfold climb
  split <;> rfl

theorem length_le_length_stairs : lines.length ≤ (stairs width start lines).length := by
  induction lines generalizing start with
  | nil => exact Nat.le_refl 0
  | cons line lines inductionHypothesis =>
      have rest := @inductionHypothesis (columnBehind width start line)
      rw [stairs, List.length_append, length_climb, List.length_cons]
      split <;> omega

/-- There are as many rows as lines exactly if no line runs past the margin. -/
theorem length_stairs_eq_iff :
    (stairs width start lines).length = lines.length ↔ Fits width start lines := by
  induction lines generalizing start with
  | nil => simp [stairs, Fits]
  | cons line lines inductionHypothesis =>
      have atLeast :=
        @length_le_length_stairs width (columnBehind width start line) lines
      rw [stairs, List.length_append, length_climb, List.length_cons, Fits,
        ← inductionHypothesis]
      split
      · next room => simp only [room, true_and]; omega
      · next past => simp only [past, false_and, iff_false]; omega

theorem length_le_of_mem_stairs
    (startLess : start < width) (short : ∀ line ∈ lines, line.length < width)
    {row : Text} (member : row ∈ stairs width start lines) :
    row.length ≤ width := by
  induction lines generalizing start with
  | nil => cases member
  | cons line lines inductionHypothesis =>
      have lineShort := short line List.mem_cons_self
      rcases List.mem_append.mp member with here | later
      · unfold climb at here
        split at here
        · rw [List.mem_singleton.mp here, List.length_take]
          omega
        · rcases List.mem_pair.mp here with rfl | rfl
          · rw [List.length_take]
            omega
          · rw [List.length_drop, List.length_append, length_spaces]
            omega
      · exact inductionHypothesis (columnBehind_lt startLess lineShort)
          (fun other member => short other (List.mem_cons_of_mem line member)) later

theorem blank_of_mem_stairs
    (blank : ∀ line ∈ lines, Blank line) {row : Text}
    (member : row ∈ stairs width start lines) :
    Blank row := by
  induction lines generalizing start with
  | nil => cases member
  | cons line lines inductionHypothesis =>
      rcases List.mem_append.mp member with here | later
      · exact blank_of_mem_climb (blank line List.mem_cons_self) here
      · exact inductionHypothesis
          (fun other member => blank other (List.mem_cons_of_mem line member)) later

private theorem endColumn_lt
    (startLess : start < width) (short : ∀ line ∈ lines, line.length < width) :
    endColumn width start lines < width := by
  induction lines generalizing start with
  | nil => exact startLess
  | cons line lines inductionHypothesis =>
      exact inductionHypothesis
        (columnBehind_lt startLess (short line List.mem_cons_self))
        (fun other member => short other (List.mem_cons_of_mem line member))

/-- Only empty lines end in the first column, and they never run past the
margin. -/
theorem fits_of_endColumn_eq_zero
    (startLess : start < width) (short : ∀ line ∈ lines, line.length < width)
    (ends : endColumn width start lines = 0) :
    start = 0 ∧ Fits width start lines := by
  induction lines generalizing start with
  | nil => exact ⟨ends, trivial⟩
  | cons line lines inductionHypothesis =>
      have lineShort := short line List.mem_cons_self
      obtain ⟨behind, fits⟩ := inductionHypothesis
        (columnBehind_lt startLess lineShort)
        (fun other member => short other (List.mem_cons_of_mem line member)) ends
      have none := (columnBehind_pos_iff startLess lineShort).not.mp (by omega)
      push Not at none
      obtain ⟨startZero, rfl⟩ := none
      exact ⟨by omega, by rw [List.length_nil]; omega, fits⟩

theorem alike_indented_iff (short : line.length < width) :
    Alike ((Text.spaces start ++ line).take (width - 1)) line ↔ (0 < start → Blank line) := by
  constructor
  · intro alike indented
    exact blank_of_alike_indented indented alike
  · intro blank column
    rcases Nat.eq_zero_or_pos start with rfl | indented
    · rw [cellAt_take, cellAt_spaces_append]
      split
      · rfl
      · exact (cellAt_of_length_le (by omega)).symm
    · have whole := blank indented
      rw [cellAt_take, cellAt_spaces_append, whole, whole]
      split
      · split <;> rfl
      · rfl

/-- Such stairs show the lines exactly if only blank lines stand below a line that
is not empty, or to the right of the first column. -/
theorem stairs_alike_iff
    (startLess : start < width) (short : ∀ line ∈ lines, line.length < width)
    (fits : Fits width start lines) :
    (∀ row : Nat,
        Alike ((stairs width start lines)[row]?.getD []) (lines[row]?.getD [])) ↔
      (0 < start → ∀ line ∈ lines, Blank line) ∧
        lines.Pairwise fun above below => above = [] ∨ Blank below := by
  induction lines generalizing start with
  | nil => simp [stairs, Alike]
  | cons line lines inductionHypothesis =>
      obtain ⟨room, restFits⟩ := fits
      have lineShort := short line List.mem_cons_self
      have rest := inductionHypothesis (columnBehind_lt startLess lineShort)
        (fun other member => short other (List.mem_cons_of_mem line member)) restFits
      have parts :
          (∀ row : Nat, Alike ((stairs width start (line :: lines))[row]?.getD [])
              ((line :: lines)[row]?.getD [])) ↔
            Alike ((Text.spaces start ++ line).take (width - 1)) line ∧
              ∀ row : Nat,
                Alike ((stairs width (columnBehind width start line) lines)[row]?.getD [])
                  (lines[row]?.getD []) := by
        rw [stairs, climb, if_pos room]
        constructor
        · intro alike
          exact ⟨alike 0, fun row => alike (row + 1)⟩
        · rintro ⟨here, below⟩ row
          cases row with
          | zero => exact here
          | succ row => exact below row
      rw [parts, alike_indented_iff lineShort, rest, columnBehind_pos_iff startLess lineShort,
        List.pairwise_cons]
      constructor
      · rintro ⟨here, below, later⟩
        refine ⟨?_, ?_, later⟩
        · intro indented other member
          rcases List.mem_cons.mp member with rfl | member
          · exact here indented
          · exact below (.inl indented) other member
        · intro other member
          by_cases empty : line = []
          · exact .inl empty
          · exact .inr (below (.inr empty) other member)
      · rintro ⟨all, here, later⟩
        refine ⟨fun indented => all indented line List.mem_cons_self, ?_, later⟩
        rintro (indented | nonempty) other member
        · exact all indented other (List.mem_cons_of_mem line member)
        · exact (here other member).resolve_left nonempty

/-- The last row of a climb shows the line only if that is blank, unless the climb
begins in the first column and stays in its row. -/
theorem blank_of_alike_climb
    (startLess : start < width) {above : List Text} {last : Text}
    (shape : climb width start line = above ++ [last])
    (farther : 0 < start ∨ above ≠ []) (alike : Alike last line) :
    Blank line := by
  unfold climb at shape
  split at shape
  · obtain ⟨rfl, rfl⟩ := List.append_singleton_inj.mp
      ((List.nil_append _).trans shape)
    exact blank_of_alike_indented (farther.resolve_right (by simp)) alike
  · next past =>
      obtain ⟨-, rfl⟩ := List.append_singleton_inj.mp
        (show [_] ++ [_] = above ++ [last] from shape)
      have dropped :
          (Text.spaces start ++ line).drop width = line.drop (width - start) := by
        rw [List.drop_append, length_spaces, List.drop_eq_nil_of_le (by rw [length_spaces]; omega),
          List.nil_append]
      rw [dropped] at alike
      exact blank_of_alike_drop (by omega) alike

/-- Where rows have left the screen, the last line stands on the last row, or no row is
left for it. -/
theorem blank_of_alike_last
    (wide : 0 < width) (short : ∀ line ∈ lines, line.length < width)
    {above : List Text} {last : Text}
    (shape : climb width (endColumn width 0 lines) line = above ++ [last])
    {left : Nat} (positive : 0 < left)
    (few : (stairs width 0 lines).length + above.length ≤ left + lines.length)
    (alike :
      Alike ((stairs width 0 lines ++ (above ++ [last]))[left + lines.length]?.getD []) line) :
    Blank line := by
  have endLess := endColumn_lt wide short
  by_cases lastRow : left + lines.length = (stairs width 0 lines).length + above.length
  · rw [List.getElem?_append_right (by omega), lastRow, Nat.add_sub_cancel_left,
      List.getElem?_concat_length, Option.getD_some] at alike
    refine blank_of_alike_climb endLess shape ?_ alike
    by_cases indented : 0 < endColumn width 0 lines
    · exact .inl indented
    · right
      intro single
      have fits := (fits_of_endColumn_eq_zero wide short (by omega)).2
      have same := length_stairs_eq_iff.mpr fits
      rw [single, List.length_nil] at lastRow
      omega
  · rw [List.getElem?_eq_none (by
      rw [List.length_append, List.length_append, List.length_singleton]
      omega), Option.getD_none] at alike
    exact fun column => (alike column).symm

/-- Where rows have left the screen, what is left shows the lines only if they are
blank. -/
theorem blank_of_alike_above
    (wide : 0 < width) (short : ∀ line ∈ lines, line.length < width)
    {left : Nat} (positive : 0 < left)
    (few : (stairs width 0 lines).length ≤ left + lines.length)
    (alike : ∀ row, row < lines.length →
      Alike ((stairs width 0 lines)[left + row]?.getD []) (lines[row]?.getD [])) :
    ∀ line ∈ lines, Blank line := by
  induction lines using List.reverseRecOn with
  | nil => simp
  | append_singleton front line inductionHypothesis =>
      have frontShort : ∀ line ∈ front, line.length < width := fun other member =>
        short other (List.mem_append_left _ member)
      obtain ⟨above, last, shape, -⟩ :=
        @climb_eq_concat width (endColumn width 0 front) line
      have whole :
          stairs width 0 (front ++ [line]) = stairs width 0 front ++ (above ++ [last]) := by
        rw [stairs_append, stairs, stairs, List.append_nil, shape]
      rw [whole] at few alike
      simp only [List.length_append, List.length_singleton] at few alike
      have lineBlank : Blank line := by
        have here := alike front.length (by omega)
        rw [List.getElem?_concat_length, Option.getD_some] at here
        exact blank_of_alike_last wide frontShort shape positive (by omega) here
      -- What stands in the rows of the last line is blank, and so is what is behind it.
      have rest : ∀ line ∈ front, Blank line := by
        refine inductionHypothesis frontShort (by omega) ?_
        intro row less
        have here := alike row (by omega)
        rw [List.getElem?_append_left less] at here
        by_cases inside : left + row < (stairs width 0 front).length
        · rw [List.getElem?_append_left inside] at here
          exact here
        · rw [List.getElem?_append_right (by omega)] at here
          rw [List.getElem?_eq_none (by omega), Option.getD_none]
          intro column
          rw [← here column]
          cases found : (above ++ [last])[left + row - (stairs width 0 front).length]? with
          | none => rfl
          | some row =>
              have member : row ∈ climb width (endColumn width 0 front) line := by
                rw [shape]
                exact List.mem_of_getElem? found
              rw [Option.getD_some]
              exact (blank_of_mem_climb lineBlank member column).symm
      intro other member
      rcases List.mem_append.mp member with member | member
      · exact rest other member
      · rw [List.mem_singleton.mp member]
        exact lineBlank

end Stairs

end Keychart.Viewer.Display
