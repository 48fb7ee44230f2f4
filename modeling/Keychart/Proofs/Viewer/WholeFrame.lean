import Keychart.Proofs.Text.Clusters
import Keychart.Proofs.Text.Pieces
import Keychart.Proofs.Viewer.Stairs

/-!
# What a whole frame shows

Drawing a whole frame erases the screen, whatever it showed, and writes the lines
with a line feed between any two of them and no carriage return.  So the screen
shows stairs, and the frame only where the stairs happen to be level.  The cursor
goes to its column in any case, and to its row unless the stairs ran past the
bottom.
-/

namespace Keychart.Viewer

open Unicode

private theorem length_takeCursor
    (lines : List Text) : (takeCursor lines).1.length = lines.length := by
  induction lines with
  | nil => rfl
  | cons line lines inductionHypothesis =>
      rw [takeCursor]
      split
      · rfl
      · rw [List.length_cons, List.length_cons, inductionHypothesis]

/-- The cursor stands in a line of the frame, behind what was in front of its
mark. -/
theorem exists_of_takeCursor
    {lines : List Text} {row column : Nat} (found : (takeCursor lines).2 = some (row, column)) :
    ∃ front rest, (takeCursor lines).1[row]? = some (front ++ rest) ∧
      column = Text.visibleWidth front := by
  induction lines generalizing row with
  | nil => cases found
  | cons line lines inductionHypothesis =>
      rw [takeCursor] at found ⊢
      split at found
      · next front rest cut =>
          obtain ⟨rfl, rfl⟩ := Prod.mk.inj (Option.some.inj found)
          exact ⟨front, rest, rfl, rfl⟩
      · obtain ⟨⟨above, column'⟩, further, same⟩ := Option.map_eq_some_iff.mp found
        obtain ⟨rfl, rfl⟩ := Prod.mk.inj same
        exact inductionHypothesis further

theorem visibleWidth_of_narrow
    {text : Text} (narrow : ∀ c ∈ text, columns c = 1) :
    Text.visibleWidth text = Text.clustersWidth text := by
  have plain : ∀ c ∈ text, c ≠ '\x1b' ∧ c ≠ '\t' := by
    intro c member
    have visible := narrow c member
    constructor
    · rintro rfl
      exact absurd visible (by decide)
    · rintro rfl
      exact absurd visible (by decide)
  rw [Text.visibleWidth_eq_clustersWidth, Text.measured_eq_self plain]

theorem visibleWidth_le_length
    {text : Text} (narrow : ∀ c ∈ text, columns c = 1) :
    Text.visibleWidth text ≤ text.length := by
  rw [visibleWidth_of_narrow narrow]
  exact Text.clustersWidth_le_length fun c member => Nat.le_of_eq (narrow c member)

def cursorPlace (lines : List Text) : Nat × Nat :=
  (takeCursor lines).2.getD ((takeCursor lines).1.length - 1, 0)

private theorem cursorPlace_lt
    {lines : List Text} {width : Nat} (nonempty : lines ≠ []) (wide : 0 < width)
    (narrow : ∀ line ∈ (takeCursor lines).1,
      line.length < width ∧ ∀ c ∈ line, columns c = 1) :
    (cursorPlace lines).1 < (takeCursor lines).1.length ∧ (cursorPlace lines).2 < width := by
  have length := length_takeCursor lines
  have positive : 0 < lines.length := List.length_pos_iff.mpr nonempty
  unfold cursorPlace
  cases found : (takeCursor lines).2 with
  | none =>
      rw [Option.getD_none]
      exact ⟨by omega, wide⟩
  | some place =>
      obtain ⟨row, column⟩ := place
      obtain ⟨front, rest, here, rfl⟩ := exists_of_takeCursor found
      obtain ⟨inside, -⟩ := List.getElem?_eq_some_iff.mp here
      obtain ⟨short, lineNarrow⟩ := narrow _ (List.mem_of_getElem? here)
      have within := visibleWidth_le_length fun c member =>
        lineNarrow c (List.mem_append_left rest member)
      rw [List.length_append] at short
      exact ⟨inside, by rw [Option.getD_some]; omega⟩

namespace Display

private theorem read_moveUp {d : Display} (ground : d.reading = .ground) (n : Nat) :
    d.read (moveRows (-(n : Int))) = if n = 0 then d else d.up n := by
  rw [read_moveRows ground]
  by_cases none : n = 0
  · subst none
    rfl
  · rw [if_neg (by omega), if_pos (by omega), if_neg none, Int.natAbs_neg, Int.natAbs_natCast]

def home (d : Display) : Display :=
  { d with row := 0, column := 0, waits := false, reading := .ground }

/-- The cursor goes up from its row and then to the first column. -/
theorem read_home (d : Display) :
    d.read (hideCursor ++ moveRows (-(d.row : Int)) ++ ['\r']) = d.home := by
  have up := @read_moveUp { d with reading := .ground } rfl d.row
  rw [read_append, read_append, read_hideCursor, read_cons, read_nil, up]
  split
  · next corner =>
      rw [step_carriageReturn rfl, carriageReturn, home, corner]
  · rw [step_carriageReturn rfl]
    simp only [carriageReturn, Display.up, Nat.sub_self, home]

/-- Nothing is left of what the screen showed. -/
theorem read_erase (d : Display) :
    d.read (hideCursor ++ moveRows (-(d.row : Int)) ++ '\r' :: Viewer.eraseBelow) =
      blank d.size := by
  have parts :
      hideCursor ++ moveRows (-(d.row : Int)) ++ '\r' :: Viewer.eraseBelow =
        hideCursor ++ moveRows (-(d.row : Int)) ++ ['\r'] ++ Viewer.eraseBelow := by
    rw [List.append_assoc _ ['\r'], List.singleton_append]
  rw [parts, read_append, read_home, read_eraseBelow]
  ext row column
  · rfl
  · have everywhere : 0 < row ∨ (row = 0 ∧ 0 ≤ column) := by omega
    simp only [eraseBelow, home, everywhere, if_true, blank]
  · rfl
  · rfl
  · rfl
  · rfl

/-- The cursor goes up and then to its column. -/
theorem read_place
    {d : Display} (ground : d.reading = .ground) (n : Nat) {column : Nat}
    (room : column < d.size.columns) :
    d.read (moveRows (-(n : Int)) ++ '\r' :: moveRight column) =
      { d with row := d.row - n, column := column, waits := false } := by
  have begun :
      (d.read (moveRows (-(n : Int)))).step '\r' =
        { d with row := d.row - n, column := 0, waits := false } := by
    rw [read_moveUp ground]
    split
    · next none =>
        rw [step_carriageReturn ground, none]
        rfl
    · rw [step_carriageReturn (d := d.up n) ground]
      rfl
  have there :=
    @read_moveRight { d with row := d.row - n, column := 0, waits := false } ground column
  rw [read_append, read_cons, begun, there]
  split
  · next none => rw [none]
  · simp only [right, Nat.zero_add, Nat.min_eq_left (show column ≤ d.size.columns - 1 by omega)]

section Level

variable {size : Size} {frame : List Text}

private theorem blank_getD {lines : List Text} (blank : ∀ line ∈ lines, Blank line) (n : Nat) :
    Blank (lines[n]?.getD []) := by
  cases found : lines[n]? with
  | none => exact blank_nil
  | some line => exact blank line (List.mem_of_getElem? found)

private theorem alike_of_shows
    {rows : List Text} (shows : (ofRows size rows).Shows frame)
    (rowsShort : ∀ row ∈ rows, row.length ≤ size.columns)
    (frameShort : ∀ line ∈ frame, line.length < size.columns)
    {row : Nat} (less : row < size.rows) :
    Alike (rows[gone size rows + row]?.getD []) (frame[row]?.getD []) := by
  have short {lines : List Text} (short : ∀ line ∈ lines, line.length ≤ size.columns)
      (n : Nat) : (lines[n]?.getD []).length ≤ size.columns := by
    cases found : lines[n]? with
    | none => exact Nat.zero_le _
    | some line => exact short line (List.mem_of_getElem? found)
  intro column
  by_cases inside : column < size.columns
  · exact shows row column less inside
  · have first := short rowsShort (gone size rows + row)
    have second := short (fun line member => Nat.le_of_lt (frameShort line member)) row
    rw [cellAt_of_length_le (by omega), cellAt_of_length_le (by omega)]

private theorem row_stairs :
    (ofRows size (stairs size.columns 0 frame)).row =
      (stairs size.columns 0 frame).length - 1 - gone size (stairs size.columns 0 frame) := rfl

section Frame

variable
  (nonempty : frame ≠ []) (fits : frame.length ≤ size.rows) (wide : 0 < size.columns)
  (short : ∀ line ∈ frame, line.length < size.columns)
include nonempty fits wide short

/-- Stairs on which no line runs past the margin show the frame exactly if nothing
shows below a line that is not empty. -/
theorem shows_stairs_iff_of_fits (inside : Fits size.columns 0 frame) :
    ((ofRows size (stairs size.columns 0 frame)).Shows frame ∧
        (ofRows size (stairs size.columns 0 frame)).row = frame.length - 1) ↔
      frame.Pairwise fun above below => above = [] ∨ Blank below := by
  have positive : 0 < frame.length := List.length_pos_iff.mpr nonempty
  have same := length_stairs_eq_iff.mpr inside
  have none : gone size (stairs size.columns 0 frame) = 0 := by
    rw [gone]
    omega
  have level := stairs_alike_iff wide short inside
  rw [row_stairs]
  constructor
  · rintro ⟨shows, -⟩
    refine (level.mp fun row => ?_).2
    by_cases less : row < size.rows
    · have rowsShort : ∀ row ∈ stairs size.columns 0 frame, row.length ≤ size.columns :=
        fun row member => length_le_of_mem_stairs wide short member
      have here := alike_of_shows shows rowsShort short less
      rwa [none, Nat.zero_add] at here
    · rw [List.getElem?_eq_none (by omega), List.getElem?_eq_none (by omega)]
      exact fun _ => rfl
  · intro pairwise
    have alike := level.mpr ⟨fun indented => absurd indented (Nat.lt_irrefl 0), pairwise⟩
    refine ⟨fun row column _ _ => ?_, by omega⟩
    have here := alike row column
    change cellAt ((stairs size.columns 0 frame)[gone size _ + row]?.getD []) column = _
    rw [none, Nat.zero_add]
    exact here

/-- Stairs with more rows than lines show the frame, and end on its last row, only on
a full screen, where rows have left it, and if nothing shows at all. -/
theorem shows_stairs_iff_of_not_fits (past : ¬ Fits size.columns 0 frame) :
    ((ofRows size (stairs size.columns 0 frame)).Shows frame ∧
        (ofRows size (stairs size.columns 0 frame)).row = frame.length - 1) ↔
      frame.length = size.rows ∧ ∀ line ∈ frame, Blank line := by
  have positive : 0 < frame.length := List.length_pos_iff.mpr nonempty
  have more : frame.length < (stairs size.columns 0 frame).length :=
    Nat.lt_of_le_of_ne length_le_length_stairs fun same =>
      past (length_stairs_eq_iff.mp same.symm)
  rw [row_stairs, gone]
  constructor
  · rintro ⟨shows, same⟩
    have full : frame.length = size.rows := by omega
    have rowsShort : ∀ row ∈ stairs size.columns 0 frame, row.length ≤ size.columns :=
      fun row member => length_le_of_mem_stairs wide short member
    have scrolled : 0 < gone size (stairs size.columns 0 frame) := by
      rw [gone]
      omega
    have few :
        (stairs size.columns 0 frame).length ≤
          gone size (stairs size.columns 0 frame) + frame.length := by
      rw [gone]
      omega
    exact ⟨full, blank_of_alike_above wide short scrolled few fun row less =>
      alike_of_shows shows rowsShort short (by omega)⟩
  · rintro ⟨full, blank⟩
    have rowsBlank : ∀ row ∈ stairs size.columns 0 frame, Blank row :=
      fun row member => blank_of_mem_stairs blank member
    refine ⟨fun row column _ _ => ?_, by omega⟩
    have shown :=
      blank_getD rowsBlank (gone size (stairs size.columns 0 frame) + row) column
    exact shown.trans (blank_getD blank row column).symm

theorem shows_stairs_iff :
    ((ofRows size (stairs size.columns 0 frame)).Shows frame ∧
        (ofRows size (stairs size.columns 0 frame)).row = frame.length - 1) ↔
      (Fits size.columns 0 frame ∧
          frame.Pairwise fun above below => above = [] ∨ Blank below) ∨
        (frame.length = size.rows ∧ ∀ line ∈ frame, Blank line) := by
  by_cases inside : Fits size.columns 0 frame
  · rw [shows_stairs_iff_of_fits nonempty fits wide short inside]
    constructor
    · exact fun pairwise => .inl ⟨inside, pairwise⟩
    · rintro (⟨-, pairwise⟩ | ⟨-, blank⟩)
      · exact pairwise
      · exact List.pairwise_of_forall_mem_list fun _ _ below member =>
          .inr (blank below member)
  · rw [shows_stairs_iff_of_not_fits nonempty fits wide short inside]
    constructor
    · exact .inr
    · rintro (⟨fitting, -⟩ | right)
      · exact absurd fitting inside
      · exact right

end Frame

end Level

end Display

/-! ## Drawing -/

namespace Screen

section Whole

variable {s : Screen} {size : Size} {lines : List Text}

/-- What is written for a whole frame. -/
theorem draw_whole
    (drawable : s.canDraw size = true) (anew : size.columns ≠ s.width)
    (fits : lines.length ≤ size.rows) (inside : (cursorPlace lines).1 < lines.length) :
    ∃ t, s.draw size lines =
        (t, [hideCursor ++ moveRows (-(s.cursorRow : Int)) ++ '\r' :: Viewer.eraseBelow ++
          wholeFrame (takeCursor lines).1 ++
          (moveRows (-((lines.length - 1 - (cursorPlace lines).1 : Nat) : Int)) ++
            '\r' :: moveRight (cursorPlace lines).2)]) ∧
      t.frame = (takeCursor lines).1 ∧ t.cursorRow = (cursorPlace lines).1 := by
  have length := length_takeCursor lines
  have distance :
      -((lines.length - 1 - (cursorPlace lines).1 : Nat) : Int) =
        ((cursorPlace lines).1 : Int) - (lines.length - 1 : Nat) := by omega
  rw [distance, draw, if_pos drawable, List.take_of_length_le fits]
  simp only [drawFrame, anew, ne_eq, not_false_eq_true, if_true, length]
  refine ⟨_, Prod.ext rfl ?_, rfl, ?_⟩
  · simp only [cursorPlace, length, List.append_assoc, List.cons_append]
  · simp only [cursorPlace, length]

/-- When lines have been drawn as a whole frame, the screen shows their stairs, whatever
it showed before, and the cursor is in its column.  It is the frame that shows, with
the cursor in its row, exactly if the stairs are level. -/
theorem draw_shows_iff_level
    (drawable : s.canDraw size = true) (anew : size.columns ≠ s.width)
    (nonempty : lines ≠ []) (fits : lines.length ≤ size.rows)
    (narrow : ∀ line ∈ (takeCursor lines).1,
      line.length < size.columns ∧ ∀ c ∈ line, columns c = 1)
    {d : Display} (sized : d.size = size) (placed : d.row = s.cursorRow) :
    ∃ t written, s.draw size lines = (t, [written]) ∧
      t.frame = (takeCursor lines).1 ∧ t.cursorRow = (cursorPlace lines).1 ∧
      (d.read written).cell =
        (Display.ofRows size (Display.stairs size.columns 0 t.frame)).cell ∧
      (d.read written).column = (cursorPlace lines).2 ∧
      (((d.read written).Shows t.frame ∧ (d.read written).row = t.cursorRow) ↔
        (Display.Fits size.columns 0 t.frame ∧
            t.frame.Pairwise fun above below => above = [] ∨ Display.Blank below) ∨
          (t.frame.length = size.rows ∧ ∀ line ∈ t.frame, Display.Blank line)) := by
  have known : size.columns ≠ 0 ∧ size.rows ≠ 0 := by
    simp only [canDraw, Bool.and_eq_true, decide_eq_true_eq] at drawable
    exact ⟨drawable.1.2, drawable.2⟩
  have wide : 0 < size.columns := Nat.pos_of_ne_zero known.1
  have high : 0 < size.rows := Nat.pos_of_ne_zero known.2
  have length := length_takeCursor lines
  have frameNonempty : (takeCursor lines).1 ≠ [] := by
    rw [← List.length_pos_iff, length]
    exact List.length_pos_iff.mpr nonempty
  obtain ⟨inside, room⟩ := cursorPlace_lt nonempty wide narrow
  obtain ⟨t, drawn, frame, cursor⟩ := draw_whole drawable anew fits (by omega)
  refine ⟨t, _, drawn, frame, cursor, ?_⟩
  have shown :
      d.read (hideCursor ++ moveRows (-(s.cursorRow : Int)) ++ '\r' :: Viewer.eraseBelow ++
          wholeFrame (takeCursor lines).1) =
        Display.ofRows size (Display.stairs size.columns 0 (takeCursor lines).1) := by
    rw [← placed, Display.read_append, Display.read_erase, sized,
      ← Display.ofRows_blank size high wide]
    exact Display.read_wholeFrame frameNonempty [] high wide narrow
  have level := Display.shows_stairs_iff frameNonempty (by omega) wide fun line member =>
    (narrow line member).1
  have atLeast := @Display.length_le_length_stairs size.columns 0 (takeCursor lines).1
  rw [Display.read_append, shown, Display.read_place rfl _ room, frame, cursor, ← level]
  refine ⟨rfl, rfl, and_congr_right fun _ => ?_⟩
  -- The cursor goes up from the last row, which the stairs may have left.
  have last :
      (Display.ofRows size (Display.stairs size.columns 0 (takeCursor lines).1)).row =
        min ((Display.stairs size.columns 0 (takeCursor lines).1).length - 1)
          (size.rows - 1) := by
    simp only [Display.ofRows, Display.gone]
    omega
  rw [last]
  change min _ _ - _ = _ ↔ _
  omega

end Whole

/-- Below an empty line a line begins in the first column. -/
theorem draw_shows_below_empty :
    ∃ t written, (Screen.start {}).1.draw ⟨80, 24⟩ [[], ['c', 'd']] = (t, [written]) ∧
      t.frame = [[], ['c', 'd']] ∧
      ((Display.blank ⟨80, 24⟩).read written).Shows t.frame ∧
      ((Display.blank ⟨80, 24⟩).read written).row = t.cursorRow := by
  have frameOf : (takeCursor [[], ['c', 'd']]).1 = [[], ['c', 'd']] := by decide
  have narrow :
      ∀ line ∈ (takeCursor [[], ['c', 'd']]).1,
        line.length < 80 ∧ ∀ c ∈ line, columns c = 1 := by
    rw [frameOf]
    simp only [List.forall_mem_cons, List.not_mem_nil, false_implies, implies_true, and_true]
    decide
  obtain ⟨t, written, drawn, frame, -, -, -, level⟩ :=
    @draw_shows_iff_level (Screen.start {}).1 ⟨80, 24⟩ [[], ['c', 'd']] (by decide)
      (by decide) (by decide) (by decide) narrow (Display.blank ⟨80, 24⟩) rfl rfl
  rw [frameOf] at frame
  have right :
      Display.Fits 80 0 [[], ['c', 'd']] ∧
        [[], ['c', 'd']].Pairwise fun above below => above = [] ∨ Display.Blank below := by
    simp [Display.Fits, Display.columnBehind]
  exact ⟨t, written, drawn, frame, level.mpr (.inl (by rw [frame]; exact right))⟩

/-- Below a line that is not empty, a line begins where that one ended. -/
theorem draw_not_shows_pair :
    (Screen.start {}).1.canDraw ⟨80, 24⟩ = true ∧ 80 ≠ (Screen.start {}).1.width ∧
      ∃ t written, (Screen.start {}).1.draw ⟨80, 24⟩ [['a', 'b'], ['c', 'd']] = (t, [written]) ∧
        t.frame = [['a', 'b'], ['c', 'd']] ∧
        (∀ line ∈ t.frame, line.length < 80 ∧ ∀ c ∈ line, columns c = 1) ∧
        ((Display.blank ⟨80, 24⟩).read written).cell 1 0 = ' ' ∧
        ¬ ((Display.blank ⟨80, 24⟩).read written).Shows t.frame := by
  have empty : ((Display.blank ⟨80, 24⟩).read
      ((Screen.start {}).1.draw ⟨80, 24⟩ [['a', 'b'], ['c', 'd']]).2.flatten).cell 1 0 = ' ' := by
    decide
  have narrow :
      ∀ line ∈ [['a', 'b'], ['c', 'd']], line.length < 80 ∧ ∀ c ∈ line, columns c = 1 := by
    simp only [List.forall_mem_cons, List.not_mem_nil, false_implies, implies_true, and_true]
    decide
  refine ⟨by decide, by decide, _, _, rfl, by decide, narrow, empty, ?_⟩
  intro shows
  have begins := shows 1 0 (by decide) (by decide)
  exact absurd (empty.symm.trans begins) (by decide)

end Screen

end Keychart.Viewer
