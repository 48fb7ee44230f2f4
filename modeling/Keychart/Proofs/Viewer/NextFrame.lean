import Keychart.Proofs.Text.Marks
import Keychart.Proofs.Viewer.Replacing
import Keychart.Proofs.Viewer.Restarts

/-!
# From one frame to the next

While a screen shows the frame that was drawn last, with the cursor in its row, a
further frame of the same width is written as what changes.  Then the screen shows
that frame, the rows of the old one below it are empty, and the cursor stands where
the width of the text in front of its mark says.  This is the column of the mark
unless characters in front of it share a cluster that is narrower than they are.
-/

namespace Keychart.Viewer

/-- A frame with the mark of the cursor at a place in one of its rows, or without a
mark. -/
def marked (frame : List Text) : Option (Nat × Nat) → List Text
  | none => frame
  | some (row, place) =>
    frame.modify row fun line => line.take place ++ (cursorMark ++ line.drop place)

def inFront (frame : List Text) (row place : Nat) : Text := (frame[row]?.getD []).take place

/-- Whether the mark stands in a row of the frame, at its end at most. -/
def MarkInside (frame : List Text) (mark : Option (Nat × Nat)) : Prop :=
  ∀ row place, mark = some (row, place) →
    row < frame.length ∧ place ≤ (frame[row]?.getD []).length

section Marked

variable {frame : List Text}

private theorem takeCursor_of_plain (plain : ∀ line ∈ frame, '\x1b' ∉ line) :
    takeCursor frame = (frame, none) := by
  induction frame with
  | nil => rfl
  | cons line frame inductionHypothesis =>
      have missing : Text.splitAtMark? cursorMark line = none :=
        Text.splitAtMark?_of_not_mem (by decide) (plain line List.mem_cons_self)
      rw [takeCursor, missing,
        inductionHypothesis fun other member => plain other (List.mem_cons_of_mem line member)]
      rfl

/-- The mark is taken out again, and its place is known. -/
theorem takeCursor_marked
    (plain : ∀ line ∈ frame, '\x1b' ∉ line) {row : Nat} (inside : row < frame.length)
    (place : Nat) :
    takeCursor (marked frame (some (row, place))) =
      (frame, some (row, Text.visibleWidth (inFront frame row place))) := by
  induction frame generalizing row with
  | nil => exact absurd inside (Nat.not_lt_zero row)
  | cons line frame inductionHypothesis =>
      have linePlain := plain line List.mem_cons_self
      cases row with
      | zero =>
          have found :
              Text.splitAtMark? cursorMark
                  (line.take place ++ (cursorMark ++ line.drop place)) =
                some (line.take place, line.drop place) :=
            Text.splitAtMark?_append_of_not_mem (c := '\x1b') (by decide)
              (fun member => linePlain (List.mem_of_mem_take member)) _
          rw [marked, List.modify_zero_cons, takeCursor, found]
          simp only [List.take_append_drop]
          rfl
      | succ row =>
          have missing : Text.splitAtMark? cursorMark line = none :=
            Text.splitAtMark?_of_not_mem (by decide) linePlain
          have rest := inductionHypothesis
            (fun other member => plain other (List.mem_cons_of_mem line member))
            (Nat.lt_of_succ_lt_succ inside)
          rw [marked] at rest
          rw [marked, List.modify_succ_cons, takeCursor, missing, rest]
          rfl

private theorem length_marked (frame : List Text) (mark : Option (Nat × Nat)) :
    (marked frame mark).length = frame.length := by
  cases mark with
  | none => rfl
  | some place => exact List.length_modify _ _ _

/-- The row of the cursor: that of the mark, or the last one. -/
def markRow (frame : List Text) : Option (Nat × Nat) → Nat
  | none => frame.length - 1
  | some (row, _) => row

/-- The column of the cursor: the width of what stands in front of the mark, or the
first one. -/
def markColumn (frame : List Text) : Option (Nat × Nat) → Nat
  | none => 0
  | some (row, place) => Text.visibleWidth (inFront frame row place)

private theorem markRow_le {mark : Option (Nat × Nat)} (inside : MarkInside frame mark) :
    markRow frame mark ≤ frame.length - 1 := by
  cases mark with
  | none => exact Nat.le_refl _
  | some mark => exact Nat.le_sub_one_of_lt (inside mark.1 mark.2 rfl).1

private theorem markRow_le_max
    {mark : Option (Nat × Nat)} (inside : MarkInside frame mark) (n : Nat) :
    markRow frame mark ≤ max frame.length n - 1 :=
  Nat.le_trans (markRow_le inside) (Nat.sub_le_sub_right (Nat.le_max_left frame.length n) 1)

private theorem takeCursor_marked_getD
    (plain : ∀ line ∈ frame, '\x1b' ∉ line) {mark : Option (Nat × Nat)}
    (inside : MarkInside frame mark) :
    (takeCursor (marked frame mark)).1 = frame ∧
      (takeCursor (marked frame mark)).2.getD (frame.length - 1, 0) =
        (markRow frame mark, markColumn frame mark) := by
  cases mark with
  | none =>
      rw [marked, takeCursor_of_plain plain]
      exact ⟨rfl, rfl⟩
  | some mark =>
      obtain ⟨row, place⟩ := mark
      rw [takeCursor_marked plain (inside row place rfl).1]
      exact ⟨rfl, rfl⟩

end Marked

/-- Whether a terminal can hold a frame: it has a row for each line, and each line is
of characters of one column and ends in front of the last column. -/
structure Size.Holds (size : Size) (frame : List Text) : Prop where
  rows : frame.length ≤ size.rows
  narrow : ∀ line ∈ frame, line.length < size.columns ∧ ∀ c ∈ line, Unicode.columns c = 1

namespace Size.Holds

variable {size : Size} {frame : List Text} (holds : size.Holds frame)
include holds

theorem plain : ∀ line ∈ frame, '\x1b' ∉ line := by
  intro line member escape
  exact absurd ((holds.narrow line member).2 '\x1b' escape) (by decide)

private theorem narrow_getD {row : Nat} {c : Char} (member : c ∈ frame[row]?.getD []) :
    Unicode.columns c = 1 := by
  cases found : frame[row]? with
  | none =>
      rw [found] at member
      cases member
  | some line =>
      rw [found] at member
      exact (holds.narrow line (List.mem_of_getElem? found)).2 c member

private theorem narrow_inFront {row place : Nat} {c : Char} (member : c ∈ inFront frame row place) :
    Unicode.columns c = 1 :=
  holds.narrow_getD (List.mem_of_mem_take member)

/-- The cursor goes to the right of its mark at no time. -/
theorem markColumn_le {row place : Nat} : markColumn frame (some (row, place)) ≤ place := by
  have width := visibleWidth_le_length fun c => @narrow_inFront _ _ holds row place c
  have length : (inFront frame row place).length ≤ place := List.length_take_le place _
  exact Nat.le_trans width length

private theorem markColumn_lt
    (wide : 0 < size.columns) {mark : Option (Nat × Nat)} (inside : MarkInside frame mark) :
    markColumn frame mark < size.columns := by
  cases mark with
  | none => exact wide
  | some mark =>
      obtain ⟨row, place⟩ := mark
      obtain ⟨less, most⟩ := inside row place rfl
      have line := holds.narrow frame[row] (List.getElem_mem less)
      rw [List.getElem?_eq_getElem less, Option.getD_some] at most
      exact Nat.lt_of_le_of_lt (Nat.le_trans holds.markColumn_le most) line.1

/-- The cursor goes to the column of its mark exactly if every cluster in front of it
is as wide as it has characters. -/
theorem markColumn_eq_iff
    {row place : Nat} (most : place ≤ (frame[row]?.getD []).length) :
    markColumn frame (some (row, place)) = place ↔
      ∀ cluster ∈ Text.clusters (inFront frame row place),
        Text.clusterWidth cluster = cluster.length := by
  have narrow : ∀ c ∈ inFront frame row place, Unicode.columns c = 1 := fun c =>
    holds.narrow_inFront
  have length : (inFront frame row place).length = place := List.length_take_of_le most
  rw [← Text.clustersWidth_eq_length_iff fun c member => Nat.le_of_eq (narrow c member), length,
    markColumn, visibleWidth_of_narrow narrow]

end Size.Holds

/-! ## Drawing -/

namespace Screen

/-- Whether a terminal is as the screen remembers it: it shows the frame that was
drawn last from its first row on, and the cursor is in the row where it was left. -/
structure ShownOn (s : Screen) (d : Display) : Prop where
  width : s.width = d.size.columns
  row : s.cursorRow = d.row
  fits : s.frame.length ≤ d.size.rows
  rows : d.ShowsFrom 0 s.frame

/-- What is written for a frame in place of the one drawn last, with the cursor in a
row and a column. -/
def changing (s : Screen) (frame : List Text) (row column : Nat) : Text :=
  hideCursor ++ moveRows (-(s.cursorRow : Int)) ++ ['\r'] ++ changes frame s.frame ++
    (moveRows (-((max frame.length s.frame.length - 1 - row : Nat) : Int)) ++
      '\r' :: moveRight column)

section Draw

variable {s : Screen} {d : Display} {frame : List Text} {mark : Option (Nat × Nat)}

private theorem columns_pos_of_canDraw {size : Size} (drawable : s.canDraw size = true) :
    0 < size.columns := by
  simp only [canDraw, Bool.and_eq_true, decide_eq_true_eq] at drawable
  exact Nat.pos_of_ne_zero drawable.1.2

/-- A frame of the same width is written as what changes. -/
theorem draw_changing
    (drawable : s.canDraw d.size = true) (shown : s.ShownOn d)
    (holds : d.size.Holds frame) (inside : MarkInside frame mark) :
    s.draw d.size (marked frame mark) =
      ({ s with frame := frame, cursorRow := markRow frame mark },
        [s.changing frame (markRow frame mark) (markColumn frame mark)]) := by
  obtain ⟨cleaned, place⟩ := takeCursor_marked_getD holds.plain inside
  have fits : (marked frame mark).length ≤ d.size.rows := by
    rw [length_marked]
    exact holds.rows
  have within := markRow_le_max inside s.frame.length
  have distance :
      -((max frame.length s.frame.length - 1 - markRow frame mark : Nat) : Int) =
        (markRow frame mark : Int) - (max frame.length s.frame.length - 1 : Nat) := by
    omega
  rw [draw, if_pos drawable, List.take_of_length_le fits, changing, distance]
  simp only [drawFrame, cleaned, place, shown.width, ne_eq, not_true_eq_false, if_false,
    List.append_assoc, List.cons_append, List.nil_append]

/-- What is written shows the frame, empties the rows of the old one below it, and
leaves all else alone. -/
theorem read_changing
    (shown : s.ShownOn d) (wide : 0 < d.size.columns) (holds : d.size.Holds frame)
    {row column : Nat} (within : row ≤ max frame.length s.frame.length - 1)
    (room : column < d.size.columns) :
    d.Still (s.changing frame row column) ∧
      (d.read (s.changing frame row column)).size = d.size ∧
      (d.read (s.changing frame row column)).row = row ∧
      (d.read (s.changing frame row column)).column = column ∧
      ∀ above place, place < d.size.columns →
        (d.read (s.changing frame row column)).cell above place =
          ((Display.linesFrom 0 (max frame.length s.frame.length) frame above).map
            fun line => Display.cellAt line place).getD (d.cell above place) := by
  have changed := @Display.replaces_changes d.home frame s.frame rfl wide holds.narrow rfl
    (Nat.max_le.mpr ⟨holds.rows, shown.fits⟩) shown.rows
  have up := d.read_home
  rw [← shown.row] at up
  have placed := @Display.read_place _ changed.reading
    (max frame.length s.frame.length - 1 - row) column (by rw [changed.size]; exact room)
  have begun :
      d.read (hideCursor ++ moveRows (-(s.cursorRow : Int)) ++ ['\r'] ++ changes frame s.frame) =
        d.home.read (changes frame s.frame) := by
    rw [Display.read_append, up]
  have still : d.Still (s.changing frame row column) := by
    rw [changing, Display.still_append, Display.still_append, begun, up]
    refine ⟨⟨?_, changed.still⟩, ?_⟩
    · rw [Display.still_append, Display.still_append]
      exact ⟨⟨d.still_hideCursor, Display.still_moveRows _ _⟩,
        Display.still_carriageReturn_cons.mpr trivial⟩
    · rw [Display.still_append, Display.still_carriageReturn_cons]
      exact ⟨Display.still_moveRows _ _, Display.still_moveRight _ _⟩
  have whole := Display.read_append d
    (hideCursor ++ moveRows (-(s.cursorRow : Int)) ++ ['\r'] ++ changes frame s.frame)
    (moveRows (-((max frame.length s.frame.length - 1 - row : Nat) : Int)) ++
      '\r' :: moveRight column)
  rw [begun, placed] at whole
  rw [changing] at still ⊢
  rw [whole]
  refine ⟨still, changed.size, ?_, rfl, changed.cell⟩
  change _ - _ = row
  rw [changed.row]
  change 0 + _ - _ = row
  omega

/-- The screen then remembers the terminal. -/
theorem shownOn_changing
    (shown : s.ShownOn d) (wide : 0 < d.size.columns) (holds : d.size.Holds frame)
    (inside : MarkInside frame mark) :
    ({ s with frame := frame, cursorRow := markRow frame mark } : Screen).ShownOn
      (d.read (s.changing frame (markRow frame mark) (markColumn frame mark))) := by
  obtain ⟨-, size, rowIs, -, cell⟩ := read_changing shown wide holds
    (markRow_le_max inside s.frame.length)
    (holds.markColumn_lt wide inside)
  refine ⟨?_, rowIs.symm, ?_, ?_⟩
  · rw [size]
    exact shown.width
  · rw [size]
    exact holds.rows
  · intro row line found column less
    have above : row < frame.length := (List.getElem?_eq_some_iff.mp found).1
    have here : frame[row]? = some line := found
    rw [size] at less
    rw [Nat.zero_add, cell row column less, Display.linesFrom, if_pos (by omega), Nat.sub_zero,
      here]
    rfl

/-- A further frame shows where the last one was shown.  Its rows below are empty, and
all other rows are left alone; nothing moves up.  The cursor goes to the row of the
mark and to the column that the text in front of it is wide, which is that of the
mark exactly if every cluster there is as wide as it has characters. -/
theorem draw_shows_next_frame
    (drawable : s.canDraw d.size = true) (shown : s.ShownOn d)
    (holds : d.size.Holds frame) (inside : MarkInside frame mark) :
    ∃ t written, s.draw d.size (marked frame mark) = (t, [written]) ∧
      t.frame = frame ∧ d.Still written ∧
      (∀ row column, column < d.size.columns →
        (d.read written).cell row column =
          if row < frame.length then Display.cellAt (frame[row]?.getD []) column
          else if row < s.frame.length then ' '
          else d.cell row column) ∧
      (d.read written).row = t.cursorRow ∧ t.cursorRow = markRow frame mark ∧
      (d.read written).column = markColumn frame mark ∧
      ∀ row place, mark = some (row, place) →
        ((d.read written).column = place ↔
          ∀ cluster ∈ Text.clusters (inFront frame row place),
            Text.clusterWidth cluster = cluster.length) := by
  have wide := columns_pos_of_canDraw drawable
  obtain ⟨still, -, rowIs, columnIs, cell⟩ := read_changing shown wide holds
    (markRow_le_max inside s.frame.length)
    (holds.markColumn_lt wide inside)
  refine ⟨_, _, draw_changing drawable shown holds inside, rfl, still, ?_, rowIs, rfl,
    columnIs, ?_⟩
  · intro row column less
    rw [cell row column less, Display.linesFrom, Nat.sub_zero]
    by_cases new : row < frame.length
    · rw [if_pos (by omega), if_pos new]
      rfl
    · rw [if_neg new]
      by_cases old : row < s.frame.length
      · rw [if_pos (by omega), if_pos old, List.getElem?_eq_none (by omega)]
        rfl
      · rw [if_neg (by omega), if_neg old]
        rfl
  · intro row place same
    subst same
    rw [columnIs]
    exact holds.markColumn_eq_iff (inside row place rfl).2

end Draw

def behindFrame (size : Size) (frame : List Text) : Screen where
  stopped := false
  frame := frame
  width := size.columns
  cursorRow := frame.length - 1

private theorem shownOn_behindFrame
    {size : Size} {frame : List Text} (fits : frame.length ≤ size.rows) :
    (behindFrame size frame).ShownOn (Display.ofRows size frame) := by
  have none : Display.gone size frame = 0 := Nat.sub_eq_zero_of_le fits
  refine ⟨rfl, ?_, fits, ?_⟩
  · change _ = frame.length - 1 - Display.gone size frame
    rw [none]
    rfl
  · intro row line found column _
    change Display.cellAt (frame[Display.gone size frame + (0 + row)]?.getD []) column = _
    have here : frame[row]? = some line := found
    rw [none, Nat.zero_add, Nat.zero_add, here, Option.getD_some]

/-- Two rows with another between them, where the mark is. -/
theorem draw_shows_next_frame_grown :
    ∃ t written,
      (behindFrame ⟨80, 24⟩ [['a'], ['c']]).draw ⟨80, 24⟩
          [['a'], 'b' :: cursorMark ++ ['b'], ['c']] = (t, [written]) ∧
        ((Display.ofRows ⟨80, 24⟩ [['a'], ['c']]).read written).cell 2 0 = 'c' ∧
        ((Display.ofRows ⟨80, 24⟩ [['a'], ['c']]).read written).row = 1 ∧
        ((Display.ofRows ⟨80, 24⟩ [['a'], ['c']]).read written).column = 1 := by
  have holds : Size.Holds ⟨80, 24⟩ [['a'], ['b', 'b'], ['c']] := by
    refine ⟨by decide, ?_⟩
    simp only [List.forall_mem_cons, List.not_mem_nil, false_implies, implies_true, and_true]
    decide
  have inside : MarkInside [['a'], ['b', 'b'], ['c']] (some (1, 1)) := by
    rintro row place same
    cases same
    decide
  obtain ⟨t, written, drawn, -, -, cell, row, place, -, column⟩ :=
    draw_shows_next_frame (s := behindFrame ⟨80, 24⟩ [['a'], ['c']])
      (d := Display.ofRows ⟨80, 24⟩ [['a'], ['c']]) (by decide)
      (shownOn_behindFrame (by decide)) holds inside
  refine ⟨t, written, drawn, ?_, row.trans place, (column 1 1 rfl).mpr ?_⟩
  · exact cell 2 0 (by decide)
  · decide

/-- Behind a letter and its sound mark, which are a cell each and one cluster of one
column, the cursor does not go to the column of the mark. -/
theorem cursor_short_of_mark_kana :
    ∃ t written,
      (behindFrame ⟨80, 24⟩ [['a', 'b']]).draw ⟨80, 24⟩
          (marked [['\uff76', '\uff9e']] (some (0, 2))) = (t, [written]) ∧
        (behindFrame ⟨80, 24⟩ [['a', 'b']]).ShownOn (Display.ofRows ⟨80, 24⟩ [['a', 'b']]) ∧
        Size.Holds ⟨80, 24⟩ [['\uff76', '\uff9e']] ∧
        (∀ c ∈ ['\uff76', '\uff9e'], Unicode.isPrintable c = true) ∧
        MarkInside [['\uff76', '\uff9e']] (some (0, 2)) ∧
        ((Display.ofRows ⟨80, 24⟩ [['a', 'b']]).read written).column = 1 ∧
        ((Display.ofRows ⟨80, 24⟩ [['a', 'b']]).read written).column ≠ 2 := by
  have holds : Size.Holds ⟨80, 24⟩ [['\uff76', '\uff9e']] := by
    refine ⟨by decide, ?_⟩
    simp only [List.forall_mem_cons, List.not_mem_nil, false_implies, implies_true, and_true]
    decide +kernel
  have printable : ∀ c ∈ ['\uff76', '\uff9e'], Unicode.isPrintable c = true := by
    simp only [List.forall_mem_cons, List.not_mem_nil, false_implies, implies_true, and_true]
    decide +kernel
  have inside : MarkInside [['\uff76', '\uff9e']] (some (0, 2)) := by
    rintro row place same
    cases same
    decide
  have shown := @shownOn_behindFrame ⟨80, 24⟩ [['a', 'b']] (by decide)
  have width : markColumn [['\uff76', '\uff9e']] (some (0, 2)) = 1 := by decide +kernel
  obtain ⟨-, -, -, column, -⟩ :=
    @read_changing _ _ _ shown (by decide) holds 0 1 (by decide) (by decide)
  have drawn := draw_changing (by decide) shown holds inside
  rw [width] at drawn
  exact ⟨_, _, drawn, shown, holds, printable, inside, column,
    ne_of_eq_of_ne column (by decide)⟩

/-- After one frame the terminal is again as the screen remembers it, and nothing has
moved up. -/
theorem exists_draw_shownOn
    {s : Screen} {d : Display} {frame : List Text} {mark : Option (Nat × Nat)}
    (drawable : s.canDraw d.size = true) (shown : s.ShownOn d)
    (holds : d.size.Holds frame) (inside : MarkInside frame mark) :
    ∃ t written, s.draw d.size (marked frame mark) = (t, [written]) ∧
      d.Still written ∧ (d.read written).size = d.size ∧ t.canDraw d.size = true ∧
      t.ShownOn (d.read written) := by
  have wide := columns_pos_of_canDraw drawable
  obtain ⟨still, size, -⟩ := read_changing shown wide holds
    (markRow_le_max inside s.frame.length)
    (holds.markColumn_lt wide inside)
  exact ⟨_, _, draw_changing drawable shown holds inside, still, size, drawable,
    shownOn_changing shown wide holds inside⟩

/-- Frame after frame of one width, the terminal stays as the screen remembers it, and
nothing ever moves up. -/
theorem shownOn_after_draws
    {s : Screen} {d : Display} {frames : List (List Text × Option (Nat × Nat))}
    (drawable : s.canDraw d.size = true) (shown : s.ShownOn d)
    (held : ∀ drawn ∈ frames, d.size.Holds drawn.1 ∧ MarkInside drawn.1 drawn.2) :
    let calls := frames.map fun drawn => Call.draw d.size (marked drawn.1 drawn.2)
    d.Still (s.writes calls).flatten ∧
      (s.after calls).ShownOn (d.read (s.writes calls).flatten) := by
  induction frames generalizing s d with
  | nil => exact ⟨trivial, shown⟩
  | cons drawn frames inductionHypothesis =>
      obtain ⟨holds, inside⟩ := held drawn List.mem_cons_self
      obtain ⟨t, written, drew, still, size, further, next⟩ :=
        exists_draw_shownOn drawable shown holds inside
      have answered : s.answer (.draw d.size (marked drawn.1 drawn.2)) = (t, [written]) := drew
      obtain ⟨restStill, restShown⟩ := inductionHypothesis (d := d.read written)
        (by rw [size]; exact further) next
        (by rw [size]; exact fun other member => held other (List.mem_cons_of_mem _ member))
      rw [size] at restStill restShown
      simp only [List.map_cons, writes, after, List.foldl_cons, answered, List.flatten_append,
        List.flatten_singleton, Display.still_append, Display.read_append]
      exact ⟨⟨still, restStill⟩, restShown⟩

end Screen

end Keychart.Viewer
