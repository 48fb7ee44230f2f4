import Keychart.Proofs.Viewer.WholeFrame

/-!
# Rows replaced one by one

A row that is written from its first column replaces what stood there, and one that
is left alone stays.  Between two rows a line feed goes down.  So what changes one
frame into another shows the new frame where the old one was shown, and the rows of
the old one below are empty.  Nothing else changes, and nothing moves up.
-/

namespace Keychart.Viewer.Display

open Unicode

/-- Whether a character moves all rows up: a line feed in the last row, or a
character that goes on below it. -/
def movesUp (d : Display) (c : Char) : Bool :=
  d.reading = .ground && decide (d.size.rows ≤ d.row + 1) &&
    (c = '\n' || (d.waits && !isControl c))

/-- Whether reading a text moves no rows up. -/
def Still : Display → Text → Prop
  | _, [] => True
  | d, c :: text => d.movesUp c = false ∧ (d.step c).Still text

theorem still_append {d : Display} {front back : Text} :
    d.Still (front ++ back) ↔ d.Still front ∧ (d.read front).Still back := by
  induction front generalizing d with
  | nil => exact (iff_of_eq (true_and _)).symm
  | cons c front inductionHypothesis =>
      rw [List.cons_append, Still, Still, inductionHypothesis, and_assoc, read_cons]

private theorem movesUp_of_reading {d : Display} (inSequence : d.reading ≠ .ground) (c : Char) :
    d.movesUp c = false := by
  rw [movesUp, decide_eq_false inSequence, Bool.false_and, Bool.false_and]

/-- Of the control characters only a line feed moves rows up. -/
theorem movesUp_of_isControl
    (d : Display) {c : Char} (control : isControl c = true) (other : c ≠ '\n') :
    d.movesUp c = false := by
  simp [movesUp, control, other]

private theorem movesUp_of_lt
    {d : Display} (above : d.row + 1 < d.size.rows) (c : Char) : d.movesUp c = false := by
  have inside : ¬ d.size.rows ≤ d.row + 1 := by omega
  simp [movesUp, inside]

private theorem still_parameters
    {d : Display} {before : Text} (reading : d.reading = .control before)
    {parameters : Text} (plain : ∀ c ∈ parameters, c ≠ '\x1b' ∧ isFinal c = false) :
    d.Still parameters := by
  induction parameters generalizing d before with
  | nil => trivial
  | cons c parameters inductionHypothesis =>
      have inSequence : d.reading ≠ .ground := by
        rw [reading]
        exact Reading.noConfusion
      have first := @read_parameters d before reading [c] fun other member =>
        plain other (List.mem_cons.mpr (Or.inl (List.mem_singleton.mp member)))
      have further : (d.step c).reading = .control (before ++ [c]) :=
        congrArg Display.reading first
      exact ⟨movesUp_of_reading inSequence c, inductionHypothesis further fun other member =>
        plain other (List.mem_cons_of_mem c member)⟩

/-- No control sequence moves rows up. -/
theorem still_sequence
    (d : Display) {parameters : Text} {final : Char}
    (plain : ∀ c ∈ parameters, c ≠ '\x1b' ∧ isFinal c = false) :
    d.Still ('\x1b' :: '[' :: parameters ++ [final]) := by
  have opened : (d.step '\x1b').step '[' = { d with reading := .control [] } := rfl
  refine ⟨d.movesUp_of_isControl (by decide) (by decide),
    movesUp_of_reading Reading.noConfusion '[', ?_⟩
  rw [opened]
  change Still _ (parameters ++ [final])
  rw [still_append, read_parameters rfl plain]
  exact ⟨still_parameters rfl plain, movesUp_of_reading Reading.noConfusion final, trivial⟩

private theorem still_control (d : Display) (n : Nat) (final : Char) : d.Still (control n final) :=
  d.still_sequence fun _ member => mem_ofNat member

theorem still_hideCursor (d : Display) : d.Still hideCursor := by
  have plain : ∀ c ∈ ['?', '2', '5'], c ≠ '\x1b' ∧ isFinal c = false := by
    simp only [List.forall_mem_cons, List.not_mem_nil, false_implies, implies_true, and_true]
    decide
  exact @still_sequence d _ 'l' plain

private theorem still_eraseLineEnd (d : Display) : d.Still Viewer.eraseLineEnd :=
  @still_sequence d [] 'K' (by simp)

theorem still_moveRows (d : Display) (rows : Int) : d.Still (moveRows rows) := by
  unfold moveRows
  split
  · exact d.still_control _ _
  split
  · exact d.still_control _ _
  · trivial

theorem still_moveRight (d : Display) (columns : Nat) : d.Still (moveRight columns) := by
  unfold moveRight
  split
  · trivial
  · exact d.still_control _ _

theorem still_carriageReturn_cons {d : Display} {text : Text} :
    d.Still ('\r' :: text) ↔ (d.step '\r').Still text :=
  and_iff_right (d.movesUp_of_isControl (by decide) (by decide))

/-- The screen behind a text that is written from the first column. -/
def withFront (d : Display) (text : Text) : Display :=
  { d with
    cell := fun row column =>
      if row = d.row ∧ column < text.length then cellAt text column else d.cell row column
    column := text.length }

/-- The screen with another row in place of the cursor's. -/
def withRow (d : Display) (line : Text) : Display :=
  { d with
    cell := fun row column => if row = d.row then cellAt line column else d.cell row column
    column := line.length
    waits := false }

section Row

variable {d : Display} {line : Text} {c : Char}

private theorem write_withFront
    (room : line.length + 1 < d.size.columns) (ready : d.waits = false) :
    (d.withFront line).write c = d.withFront (line ++ [c]) := by
  have inside : (d.withFront line).column + 1 < (d.withFront line).size.columns := room
  have length : (line ++ [c]).length = line.length + 1 := List.length_append
  refine Display.ext rfl (funext fun row => funext fun column => ?_) rfl ?_ ?_ rfl
  · change (if row = d.row ∧ column = line.length then c
        else if row = d.row ∧ column < line.length then cellAt line column
        else d.cell row column) =
      if row = d.row ∧ column < (line ++ [c]).length then cellAt (line ++ [c]) column
      else d.cell row column
    rw [length, cellAt_concat]
    by_cases here : row = d.row
    · by_cases last : column = line.length
      · rw [if_pos ⟨here, last⟩, if_pos ⟨here, by omega⟩, if_pos last]
      · rw [if_neg (by omega), if_neg last]
        by_cases front : column < line.length
        · rw [if_pos ⟨here, front⟩, if_pos ⟨here, by omega⟩]
        · rw [if_neg (by omega), if_neg (by omega)]
    · rw [if_neg (by omega), if_neg (by omega), if_neg (by omega)]
  · exact (if_pos inside).trans length.symm
  · change (!decide ((d.withFront line).column + 1 < (d.withFront line).size.columns)) = d.waits
    rw [decide_eq_true inside, ready]
    rfl

private theorem eraseLineEnd_withFront : (d.withFront line).eraseLineEnd = d.withRow line := by
  refine Display.ext rfl (funext fun row => funext fun column => ?_) rfl rfl rfl rfl
  change (if row = d.row ∧ line.length ≤ column then ' '
      else if row = d.row ∧ column < line.length then cellAt line column
      else d.cell row column) =
    if row = d.row then cellAt line column else d.cell row column
  by_cases here : row = d.row
  · by_cases front : column < line.length
    · rw [if_neg (by omega), if_pos ⟨here, front⟩, if_pos here]
    · rw [if_pos ⟨here, by omega⟩, if_pos here, cellAt_of_length_le (by omega)]
  · rw [if_neg (by omega), if_neg (by omega), if_neg here]

variable (ground : d.reading = .ground) (narrow : ∀ c ∈ line, columns c = 1)
  (short : line.length < d.size.columns)
include ground narrow short

/-- A line that ends in front of the last column stands in its row. -/
theorem read_withFront (ready : d.waits = false) (first : d.column = 0) :
    d.Still line ∧ d.read line = d.withFront line := by
  induction line using List.reverseRecOn with
  | nil =>
      refine ⟨trivial, Display.ext rfl (funext fun row => funext fun column => ?_) rfl first rfl rfl⟩
      exact (if_neg fun inside => Nat.not_lt_zero _ inside.2).symm
  | append_singleton front c inductionHypothesis =>
      rw [List.length_append, List.length_singleton] at short
      have narrowLast : columns c = 1 := narrow c (List.mem_append_right _ List.mem_cons_self)
      obtain ⟨still, behind⟩ := inductionHypothesis
        (fun other member => narrow other (List.mem_append_left _ member)) (by omega)
      have notFeed : c ≠ '\n' := by
        rintro rfl
        exact absurd narrowLast (by decide)
      have stays : (d.withFront front).movesUp c = false := by
        have sameWaits : (d.withFront front).waits = false := ready
        simp [movesUp, sameWaits, notFeed]
      have last : (d.withFront front).step c = d.withFront (front ++ [c]) := by
        have sameWaits : (d.withFront front).waits = false := ready
        rw [step_of_columns_eq_one (d := d.withFront front) ground narrowLast, put, sameWaits]
        exact write_withFront short ready
      rw [still_append, read_append, behind]
      exact ⟨⟨still, stays, trivial⟩, last⟩

/-- A row that is written as a whole replaces that of the cursor. -/
theorem read_writeRow :
    d.Still (Screen.writeRow line) ∧ d.read (Screen.writeRow line) = d.withRow line := by
  have returned : d.step '\r' = { d with column := 0, waits := false } :=
    step_carriageReturn ground
  obtain ⟨still, written⟩ :=
    @read_withFront { d with column := 0, waits := false } line ground narrow short rfl rfl
  rw [Screen.writeRow, List.cons_append, still_carriageReturn_cons, read_cons, returned,
    still_append, read_append, written, read_eraseLineEnd, eraseLineEnd_withFront]
  refine ⟨⟨still, still_eraseLineEnd _⟩, ?_⟩
  exact Display.ext rfl rfl rfl rfl rfl ground.symm

end Row

/-- Reading a text goes some rows down, moves nothing up, and puts lines in the place
of some rows. -/
structure Replaces (d : Display) (text : Text) (down : Nat) (line? : Nat → Option Text) :
    Prop where
  still : d.Still text
  size : (d.read text).size = d.size
  reading : (d.read text).reading = .ground
  row : (d.read text).row = d.row + down
  cell : ∀ row column, column < d.size.columns →
    (d.read text).cell row column =
      ((line? row).map fun line => cellAt line column).getD (d.cell row column)

/-- The rows that some lines of a frame take from a row on.  Behind the last line the
rows are empty. -/
def linesFrom (top count : Nat) (frame : List Text) (row : Nat) : Option Text :=
  if top ≤ row ∧ row < top + count then some (frame[row - top]?.getD []) else none

theorem linesFrom_zero (top : Nat) (frame : List Text) (row : Nat) :
    linesFrom top 0 frame row = none :=
  if_neg (by omega)

private theorem linesFrom_one (top : Nat) (frame : List Text) (row : Nat) :
    linesFrom top 1 frame row = if row = top then some (frame.head?.getD []) else none := by
  rw [linesFrom, List.head?_eq_getElem?]
  by_cases here : row = top
  · rw [if_pos here, if_pos (by omega), here, Nat.sub_self]
  · rw [if_neg here, if_neg (by omega)]

/-- The first line, and the others from the row below on. -/
theorem linesFrom_succ (top count : Nat) (frame : List Text) (row : Nat) :
    (linesFrom (top + 1) count frame.tail row).or (linesFrom top 1 frame row) =
      linesFrom top (count + 1) frame row := by
  unfold linesFrom
  by_cases here : row = top
  · rw [if_neg (by omega), if_pos (by omega), if_pos (by omega), Option.none_or]
  · by_cases below : top + 1 ≤ row ∧ row < top + 1 + count
    · have place : row - (top + 1) + 1 = row - top := by omega
      rw [if_pos below, Option.some_or, if_pos (by omega), List.getElem?_tail, place]
    · rw [if_neg below, Option.none_or, if_neg (by omega), if_neg (by omega)]

section Replaces

variable {d : Display} {front back : Text} {n m : Nat} {above below : Nat → Option Text}

theorem Replaces.append
    (first : d.Replaces front n above) (second : (d.read front).Replaces back m below) :
    d.Replaces (front ++ back) (n + m) fun row => (below row).or (above row) := by
  constructor
  · exact still_append.mpr ⟨first.still, second.still⟩
  · rw [read_append, second.size, first.size]
  · rw [read_append, second.reading]
  · rw [read_append, second.row, first.row, Nat.add_assoc]
  · intro row column inside
    rw [read_append, second.cell row column (by rw [first.size]; exact inside)]
    cases below row with
    | none => exact first.cell row column inside
    | some line => rfl

theorem Replaces.of_eq (h : d.Replaces front n above) (same : ∀ row, above row = below row) :
    d.Replaces front n below :=
  funext same ▸ h

variable (ground : d.reading = .ground)
include ground

theorem replaces_nil : d.Replaces [] 0 fun _ => none :=
  ⟨trivial, rfl, ground, rfl, fun _ _ _ => rfl⟩

private theorem replaces_lineFeed (room : d.row + 1 < d.size.rows) :
    d.Replaces ['\n'] 1 fun _ => none := by
  have fed : d.read ['\n'] = { d with row := d.row + 1, waits := false } := by
    rw [read_cons, read_nil, step_lineFeed ground, lineFeed, if_pos room]
  constructor
  · exact ⟨movesUp_of_lt room '\n', trivial⟩
  · rw [fed]
  · rw [fed]
    exact ground
  · rw [fed]
  · intro row column _
    rw [fed]
    rfl

private theorem replaces_writeRow
    {line : Text} (narrow : ∀ c ∈ line, columns c = 1) (short : line.length < d.size.columns) :
    d.Replaces (Screen.writeRow line) 0 fun row => if row = d.row then some line else none := by
  obtain ⟨still, written⟩ := read_writeRow ground narrow short
  constructor
  · exact still
  · rw [written]
    rfl
  · rw [written]
    exact ground
  · rw [written]
    rfl
  · intro row column _
    rw [written]
    change (if row = d.row then cellAt line column else d.cell row column) = _
    split <;> rfl

private theorem replaces_changeRow
    (wide : 0 < d.size.columns) {new old : Option Text}
    (narrow : ∀ line, new = some line →
      line.length < d.size.columns ∧ ∀ c ∈ line, columns c = 1)
    (shown : ∀ line, old = some line → ∀ column, column < d.size.columns →
      d.cell d.row column = cellAt line column) :
    d.Replaces (Screen.changeRow new old) 0 fun row =>
      if row = d.row then some (new.getD []) else none := by
  cases new with
  | none => exact replaces_writeRow ground (List.forall_mem_nil _) wide
  | some line =>
      obtain ⟨short, narrowLine⟩ := narrow line rfl
      have written := replaces_writeRow ground narrowLine short
      cases old with
      | none => exact written
      | some before =>
          rw [Screen.changeRow]
          split
          · next same =>
              -- the row shows the line already
              refine ⟨trivial, rfl, ground, rfl, fun row column inside => ?_⟩
              rw [read_nil]
              split
              · next here =>
                  rw [here, same, shown before rfl column inside]
                  rfl
              · rfl
          · exact written

end Replaces

/-! ## All rows -/

private theorem changeRowsBelow_eq {new old : List Text} (more : new ≠ [] ∨ old ≠ []) :
    Screen.changeRowsBelow new old =
      ['\n'] ++ (Screen.changeRow new.head? old.head? ++
        Screen.changeRowsBelow new.tail old.tail) := by
  cases new with
  | nil =>
      cases old with
      | nil => exact absurd rfl (more.resolve_left (fun none => none rfl))
      | cons before old =>
          rw [Screen.changeRowsBelow]
          rfl
  | cons line new =>
      cases old <;> rw [Screen.changeRowsBelow] <;> rfl

private theorem changes_eq {new old : List Text} (more : new ≠ [] ∨ old ≠ []) :
    Screen.changes new old =
      Screen.changeRow new.head? old.head? ++ Screen.changeRowsBelow new.tail old.tail := by
  cases new with
  | nil =>
      cases old with
      | nil => exact absurd rfl (more.resolve_left (fun none => none rfl))
      | cons before old => rfl
  | cons line new => cases old <;> rfl

/-- Whether a screen shows lines in its rows from one on. -/
def ShowsFrom (d : Display) (top : Nat) (lines : List Text) : Prop :=
  ∀ row line, lines[row]? = some line → ∀ column, column < d.size.columns →
    d.cell (top + row) column = cellAt line column

section All

variable {d : Display} {top : Nat} {new old : List Text}

theorem ShowsFrom.head (shown : d.ShowsFrom top old) {line : Text}
    (first : old.head? = some line) {column : Nat} (inside : column < d.size.columns) :
    d.cell top column = cellAt line column :=
  shown 0 line (List.head?_eq_getElem?.symm.trans first) column inside

/-- What stands below a row that is replaced is still shown. -/
theorem ShowsFrom.tail (shown : d.ShowsFrom top old) {text : Text} {n : Nat}
    {line? : Nat → Option Text} (replaced : d.Replaces text n line?)
    (kept : ∀ row, top < row → line? row = none) :
    (d.read text).ShowsFrom (top + 1) old.tail := by
  intro row line below column inside
  rw [List.getElem?_tail] at below
  rw [replaced.size] at inside
  have place : top + 1 + row = top + (row + 1) := by omega
  rw [replaced.cell _ column inside, kept _ (by omega), place]
  exact shown (row + 1) line below column inside

variable (ground : d.reading = .ground) (wide : 0 < d.size.columns)
  (narrow : ∀ line ∈ new, line.length < d.size.columns ∧ ∀ c ∈ line, columns c = 1)
include ground wide narrow

/-- The first row of some lines, where the cursor is. -/
theorem replaces_changeRow_head (shown : d.ShowsFrom d.row old) :
    d.Replaces (Screen.changeRow new.head? old.head?) 0 (linesFrom d.row 1 new) := by
  have first := replaces_changeRow ground wide
    (fun line isHead => narrow line (List.mem_of_head? isHead))
    (fun line isHead column inside => shown.head isHead inside)
  exact first.of_eq fun row => (linesFrom_one d.row new row).symm

/-- The rows below that of the cursor. -/
theorem replaces_changeRowsBelow
    {count : Nat} (enough : max new.length old.length = count)
    (room : d.row + count < d.size.rows) (shown : d.ShowsFrom (d.row + 1) old) :
    d.Replaces (Screen.changeRowsBelow new old) count (linesFrom (d.row + 1) count new) := by
  induction count generalizing d new old with
  | zero =>
      obtain rfl : new = [] := List.length_eq_zero_iff.mp (by omega)
      obtain rfl : old = [] := List.length_eq_zero_iff.mp (by omega)
      rw [Screen.changeRowsBelow]
      exact (replaces_nil ground).of_eq fun row => (linesFrom_zero _ [] row).symm
  | succ count inductionHypothesis =>
      have more : new ≠ [] ∨ old ≠ [] := by
        rw [← List.length_pos_iff, ← List.length_pos_iff]
        omega
      have fed := replaces_lineFeed ground (show d.row + 1 < d.size.rows by omega)
      have stillShown : (d.read ['\n']).ShowsFrom (d.row + 1) old := by
        intro row line found column inside
        rw [fed.size] at inside
        rw [fed.cell _ column inside]
        exact shown row line found column inside
      -- the row below, and then the rows below that
      have first := replaces_changeRow_head (d := d.read ['\n']) fed.reading
        (by rw [fed.size]; exact wide) (by rw [fed.size]; exact narrow)
        (by rw [fed.row]; exact stillShown)
      have both := fed.append first
      have rest := @inductionHypothesis (d.read (['\n'] ++ _)) new.tail old.tail both.reading
        (by rw [both.size]; exact wide)
        (by rw [both.size]; exact fun line member => narrow line (List.mem_of_mem_tail member))
        (by rw [List.length_tail, List.length_tail]; omega)
        (by rw [both.row, both.size]; omega)
        (by
          rw [both.row]
          refine shown.tail both fun row past => ?_
          rw [fed.row, linesFrom, if_neg (by omega), Option.none_or])
      have whole := both.append rest
      have down : 1 + 0 + count = count + 1 := by omega
      rw [down] at whole
      rw [changeRowsBelow_eq more, ← List.append_assoc]
      refine whole.of_eq fun row => ?_
      rw [both.row, fed.row, Option.or_none]
      exact linesFrom_succ (d.row + 1) count new row

/-- What changes one frame into another, written from the first row on. -/
theorem replaces_changes
    (atTop : d.row = 0) (room : max new.length old.length ≤ d.size.rows)
    (shown : d.ShowsFrom 0 old) :
    d.Replaces (Screen.changes new old) (max new.length old.length - 1)
      (linesFrom 0 (max new.length old.length) new) := by
  by_cases none : max new.length old.length = 0
  · obtain rfl : new = [] := List.length_eq_zero_iff.mp (by omega)
    obtain rfl : old = [] := List.length_eq_zero_iff.mp (by omega)
    exact (replaces_nil ground).of_eq fun row => (linesFrom_zero _ [] row).symm
  · have more : new ≠ [] ∨ old ≠ [] := by
      rw [← List.length_pos_iff, ← List.length_pos_iff]
      omega
    obtain ⟨count, enough⟩ := Nat.exists_eq_succ_of_ne_zero none
    have first := replaces_changeRow_head ground wide narrow (by rw [atTop]; exact shown)
    rw [atTop] at first
    have rest := @replaces_changeRowsBelow (d.read _) new.tail old.tail first.reading
      (by rw [first.size]; exact wide)
      (by rw [first.size]; exact fun line member => narrow line (List.mem_of_mem_tail member))
      count (by rw [List.length_tail, List.length_tail]; omega)
      (by rw [first.row, first.size, atTop]; omega)
      (by
        rw [first.row, atTop]
        exact shown.tail first fun row past => if_neg (by omega))
    have whole := first.append rest
    rw [first.row, atTop, Nat.zero_add] at whole
    rw [changes_eq more, enough, Nat.succ_sub_one]
    exact whole.of_eq fun row => linesFrom_succ 0 count new row

end All

end Keychart.Viewer.Display
