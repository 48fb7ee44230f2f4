import Keychart.Viewer.Screen

/-!
# What a terminal shows

A terminal in raw mode is a grid of characters with a cursor, and changes with
every character that it is sent.  A character is shown where the cursor stands
and moves it to the right.  Behind the last column the cursor waits, and the next
character goes to the row below.  A line feed goes down and keeps the column.
Below the last row everything moves up by one.

The grid tells characters of one column only: every character that is no control
takes one cell.
-/

namespace Keychart.Viewer

open Unicode

/-- What a terminal has read of a control sequence. -/
inductive Reading where
  | ground
  | escape
  | control (parameters : Text)
deriving DecidableEq, Repr

/-- The screen of a terminal.  Rows and columns count from nought. -/
@[ext]
structure Display where
  size : Size
  cell : (row column : Nat) → Char
  row : Nat := 0
  column : Nat := 0
  /-- Whether the cursor waits behind the last column. -/
  waits : Bool := false
  reading : Reading := .ground

namespace Display

def blank (size : Size) : Display := { size := size, cell := fun _ _ => ' ' }

/-- All rows move up by one, and the last is empty. -/
def scroll (d : Display) : Display :=
  { d with
    cell := fun row column =>
      if row + 1 < d.size.rows then d.cell (row + 1) column else ' ' }

def lineFeed (d : Display) : Display :=
  if d.row + 1 < d.size.rows then { d with row := d.row + 1, waits := false }
  else { d.scroll with waits := false }

def carriageReturn (d : Display) : Display := { d with column := 0, waits := false }

def up (d : Display) (n : Nat) : Display := { d with row := d.row - n, waits := false }

def down (d : Display) (n : Nat) : Display :=
  { d with row := min (d.row + n) (d.size.rows - 1), waits := false }

def right (d : Display) (n : Nat) : Display :=
  { d with column := min (d.column + n) (d.size.columns - 1), waits := false }

/-- Shows a character at the cursor. -/
def write (d : Display) (c : Char) : Display :=
  { d with
    cell := fun row column => if row = d.row ∧ column = d.column then c else d.cell row column
    column := if d.column + 1 < d.size.columns then d.column + 1 else d.column
    waits := !(d.column + 1 < d.size.columns) }

/-- Shows a character, on the next row if the cursor waits. -/
def put (d : Display) (c : Char) : Display :=
  (if d.waits then { d.lineFeed with column := 0 } else d).write c

/-- Empties the row from the cursor on. -/
def eraseLineEnd (d : Display) : Display :=
  { d with
    cell := fun row column =>
      if row = d.row ∧ d.column ≤ column then ' ' else d.cell row column
    waits := false }

/-- Empties the row from the cursor on, and all rows below. -/
def eraseBelow (d : Display) : Display :=
  { d with
    cell := fun row column =>
      if d.row < row ∨ (row = d.row ∧ d.column ≤ column) then ' ' else d.cell row column
    waits := false }

/-- The number that a sequence asks for; none and nought both stand for one. -/
def countOf (parameters : Text) : Nat := max 1 (Nat.ofDigitChars 10 parameters 0)

/-- Does what a control sequence says.  All others say nothing of what is shown. -/
def obey (d : Display) (parameters : Text) : (final : Char) → Display
  | 'A' => d.up (countOf parameters)
  | 'B' => d.down (countOf parameters)
  | 'C' => d.right (countOf parameters)
  | 'J' => if parameters = [] ∨ parameters = ['0'] then d.eraseBelow else d
  | 'K' => if parameters = [] ∨ parameters = ['0'] then d.eraseLineEnd else d
  | _ => d

def isFinal (c : Char) : Bool := '@' ≤ c && c ≤ '~'

def receive (d : Display) (c : Char) : Display :=
  if c = '\n' then d.lineFeed
  else if c = '\r' then d.carriageReturn
  else if isControl c then d
  else d.put c

def step (d : Display) (c : Char) : Display :=
  if c = '\x1b' then { d with reading := .escape }
  else
    match d.reading with
    | .ground => d.receive c
    | .escape =>
      if c = '[' then { d with reading := .control [] } else { d with reading := .ground }
    | .control parameters =>
      if isFinal c then { d.obey parameters c with reading := .ground }
      else { d with reading := .control (parameters ++ [c]) }

def read (d : Display) (text : Text) : Display := text.foldl step d

/-- Whether the rows from the top show some lines from the first column, and all
else is blank. -/
def Shows (d : Display) (lines : List Text) : Prop :=
  ∀ row column, row < d.size.rows → column < d.size.columns →
    d.cell row column = (lines[row]?.getD []).getD column ' '

/-! ## What the sequences do -/

theorem read_append (d : Display) (front back : Text) :
    d.read (front ++ back) = (d.read front).read back :=
  List.foldl_append

theorem read_cons (d : Display) (c : Char) (text : Text) :
    d.read (c :: text) = (d.step c).read text := rfl

theorem read_nil (d : Display) : d.read [] = d := rfl

/-- Parameters are kept until a final character comes. -/
theorem read_parameters
    {d : Display} {before : Text} (reading : d.reading = .control before)
    {parameters : Text}
    (plain : ∀ c ∈ parameters, c ≠ '\x1b' ∧ isFinal c = false) :
    d.read parameters = { d with reading := .control (before ++ parameters) } := by
  induction parameters generalizing d before with
  | nil =>
      rw [List.append_nil, ← reading]
      rfl
  | cons c parameters inductionHypothesis =>
      obtain ⟨notEscape, notFinal⟩ := plain c List.mem_cons_self
      have first :
          d.step c = { d with reading := .control (before ++ [c]) } := by
        simp [step, notEscape, reading, notFinal]
      rw [read_cons, first, inductionHypothesis rfl fun other member =>
        plain other (List.mem_cons_of_mem c member)]
      simp

/-- A control sequence is obeyed, whatever was being read in front of it. -/
theorem read_sequence
    (d : Display) {parameters : Text} {final : Char}
    (plain : ∀ c ∈ parameters, c ≠ '\x1b' ∧ isFinal c = false)
    (last : isFinal final = true) (notEscape : final ≠ '\x1b') :
    d.read ('\x1b' :: '[' :: parameters ++ [final]) =
      { ({ d with reading := .control parameters } : Display).obey parameters final with
        reading := .ground } := by
  have opened :
      (d.step '\x1b').step '[' = { d with reading := .control [] } := rfl
  rw [List.cons_append, List.cons_append, read_cons, read_cons, opened, read_append,
    read_parameters rfl plain, List.nil_append, read_cons, read_nil]
  simp [step, notEscape, last]

theorem mem_ofNat {n : Nat} {c : Char} (member : c ∈ Text.ofNat n) :
    c ≠ '\x1b' ∧ isFinal c = false := by
  have digit : c.isDigit = true :=
    Nat.isDigit_of_mem_toDigits (by decide) (by decide) member
  have bounds : 48 ≤ c.toNat ∧ c.toNat ≤ 57 := by
    simpa [Char.isDigit, UInt32.le_iff_toNat_le] using digit
  constructor
  · rintro rfl
    exact absurd bounds.1 (by decide)
  · have below : ¬ '@' ≤ c := by
      intro above
      have : 64 ≤ c.toNat := above
      omega
    simp [isFinal, below]

private theorem countOf_ofNat {n : Nat} (positive : 0 < n) : countOf (Text.ofNat n) = n := by
  rw [countOf, Text.ofNat, Nat.ofDigitChars_ten_toDigits]
  omega

private theorem read_control
    (d : Display) (n : Nat) {final : Char}
    (last : isFinal final = true) (notEscape : final ≠ '\x1b') :
    d.read (control n final) =
      { ({ d with reading := .control (Text.ofNat n) } : Display).obey (Text.ofNat n)
          final with
        reading := .ground } :=
  read_sequence d (fun _ member => mem_ofNat member) last notEscape

theorem read_hideCursor (d : Display) :
    d.read hideCursor = { d with reading := .ground } := by
  have plain : ∀ c ∈ ['?', '2', '5'], c ≠ '\x1b' ∧ isFinal c = false := by
    simp only [List.forall_mem_cons, List.not_mem_nil, false_implies, implies_true, and_true]
    decide
  exact read_sequence d plain (by decide) (by decide)

theorem read_eraseLineEnd (d : Display) :
    d.read Viewer.eraseLineEnd = { d.eraseLineEnd with reading := .ground } :=
  @read_sequence d [] _ (by simp) (by decide) (by decide)

theorem read_eraseBelow (d : Display) :
    d.read Viewer.eraseBelow = { d.eraseBelow with reading := .ground } :=
  @read_sequence d [] _ (by simp) (by decide) (by decide)

section Ground

variable {d : Display} (ground : d.reading = .ground)
include ground

/-- The cursor moves up or down as many rows as are asked for, within the
screen. -/
theorem read_moveRows (rows : Int) :
    d.read (moveRows rows) =
      if 0 < rows then d.down rows.natAbs
      else if rows < 0 then d.up rows.natAbs
      else d := by
  unfold moveRows
  split
  · next positive =>
      rw [read_control d _ (by decide) (by decide)]
      simp [obey, countOf_ofNat (show 0 < rows.natAbs by omega), down, ground]
  split
  · next negative =>
      rw [read_control d _ (by decide) (by decide)]
      simp [obey, countOf_ofNat (show 0 < rows.natAbs by omega), up, ground]
  · rfl

theorem read_moveRight (columns : Nat) :
    d.read (moveRight columns) =
      if columns = 0 then d else d.right columns := by
  unfold moveRight
  split
  · rfl
  · next positive =>
      rw [read_control d _ (by decide) (by decide)]
      simp [obey, countOf_ofNat (Nat.pos_of_ne_zero positive), right, ground]

theorem step_carriageReturn : d.step '\r' = d.carriageReturn := by
  simp [step, ground, receive]

theorem step_lineFeed : d.step '\n' = d.lineFeed := by
  simp [step, ground, receive]

/-- A character of one column is shown. -/
theorem step_of_columns_eq_one {c : Char} (narrow : columns c = 1) :
    d.step c = d.put c := by
  have visible : isControl c = false := by
    cases hidden : isControl c with
    | false => rfl
    | true => simp [columns, hidden] at narrow
  have notEscape : c ≠ '\x1b' := by
    rintro rfl
    exact absurd visible (by decide)
  have notFeed : c ≠ '\n' := by
    rintro rfl
    exact absurd visible (by decide)
  have notReturn : c ≠ '\r' := by
    rintro rfl
    exact absurd visible (by decide)
  simp [step, ground, receive, notEscape, notFeed, notReturn, visible]

end Ground

end Display

end Keychart.Viewer
