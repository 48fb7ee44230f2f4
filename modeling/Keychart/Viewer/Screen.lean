import Keychart.Text.Width

/-!
# Drawing frames

A frame is a list of lines, one for each row of the terminal from the top.  The
screen remembers the frame it drew last and the row it left the cursor on, and
writes only the rows that changed.  When the width changed, or is not known, it
erases everything and writes the whole frame.

The terminal is in raw mode: a line feed goes down one row and keeps the column.
-/

namespace Keychart.Viewer

structure Size where
  columns : Nat
  rows : Nat
deriving DecidableEq, Repr

/-- The mark in a line that says where the cursor goes.  It takes no column and
is never written. -/
def cursorMark : Text := Text.ofString "\x1b_apekey:c\x07"

def hideCursor : Text := Text.ofString "\x1b[?25l"

def showCursor : Text := Text.ofString "\x1b[?25h"

def eraseLineEnd : Text := Text.ofString "\x1b[K"

def eraseBelow : Text := Text.ofString "\x1b[J"

def control (n : Nat) (final : Char) : Text := '\x1b' :: '[' :: Text.ofNat n ++ [final]

def moveRows (rows : Int) : Text :=
  if 0 < rows then control rows.natAbs 'B'
  else if rows < 0 then control rows.natAbs 'A'
  else []

def moveRight (columns : Nat) : Text := if columns = 0 then [] else control columns 'C'

/-- The lines without the first cursor mark, and the row and the column where it
stood. -/
def takeCursor : List Text → List Text × Option (Nat × Nat)
  | [] => ([], none)
  | line :: lines =>
    match Text.splitAtMark? cursorMark line with
    | some (front, rest) => ((front ++ rest) :: lines, some (0, Text.visibleWidth front))
    | none =>
      let (cleaned, place) := takeCursor lines
      (line :: cleaned, place.map fun (row, column) => (row + 1, column))

/-- What is known of the terminal between two frames. -/
structure Screen where
  stopped : Bool := true
  /-- The frame drawn last. -/
  frame : List Text := []
  /-- The width it was drawn for; nought when that no longer counts. -/
  width : Nat := 0
  /-- The row the cursor was left on. -/
  cursorRow : Nat := 0
  /-- How often everything was written. -/
  fullRedraws : Nat := 0
deriving DecidableEq, Repr

namespace Screen

def wholeFrame (frame : List Text) : Text :=
  Text.join ['\n'] (frame.map (· ++ eraseLineEnd))

def writeRow (line : Text) : Text := '\r' :: line ++ eraseLineEnd

/-- What changes a row from the old frame into that of the new: nothing if both
show the same, and an empty row where the new frame has none. -/
def changeRow : (new old : Option Text) → Text
  | none, _ => writeRow []
  | some line, some old => if line = old then [] else writeRow line
  | some line, none => writeRow line

/-- The rows of two frames from the second on, each behind a line feed. -/
def changeRowsBelow : (new old : List Text) → Text
  | [], [] => []
  | line :: new, [] => '\n' :: changeRow (some line) none ++ changeRowsBelow new []
  | [], line :: old => '\n' :: changeRow none (some line) ++ changeRowsBelow [] old
  | line :: new, before :: old =>
    '\n' :: changeRow (some line) (some before) ++ changeRowsBelow new old

def changes (new old : List Text) : Text :=
  match new, old with
  | [], [] => []
  | _, _ => changeRow new.head? old.head? ++ changeRowsBelow new.tail old.tail

/-- Draws a frame without a cursor mark, with the cursor at the given place or
else on the last row. -/
def drawFrame (s : Screen) (width : Nat) (frame : List Text) (place : Option (Nat × Nat)) :
    Screen × Text :=
  let whole := width ≠ s.width
  let rows := if whole then frame.length else max frame.length s.frame.length
  let (row, column) := place.getD (frame.length - 1, 0)
  let body := if whole then eraseBelow ++ wholeFrame frame else changes frame s.frame
  ({ s with
      frame := frame, width := width, cursorRow := row,
      fullRedraws := if whole then s.fullRedraws + 1 else s.fullRedraws },
    hideCursor ++ moveRows (-s.cursorRow) ++ '\r' :: body ++
      moveRows ((row : Int) - (rows - 1 : Nat)) ++ '\r' :: moveRight column)

/-- Whether a frame can be drawn on a terminal of the given size: not outside a
session, nor without a place for it. -/
def canDraw (s : Screen) (size : Size) : Bool :=
  !s.stopped && size.columns ≠ 0 && size.rows ≠ 0

/-- Draws lines on a terminal of the given size, as many as it has rows. -/
def draw (s : Screen) (size : Size) (lines : List Text) : Screen × List Text :=
  if s.canDraw size then
    let (frame, place) := takeCursor (lines.take size.rows)
    let (s, written) := s.drawFrame size.columns frame place
    (s, [written])
  else (s, [])

def start (s : Screen) : Screen × List Text := ({ s with stopped := false }, [hideCursor])

def stop (s : Screen) : Screen × List Text :=
  if s.stopped then (s, []) else ({ s with stopped := true }, [showCursor])

/-- The size changed, so the next frame is written as a whole. -/
def resized (s : Screen) : Screen := { s with width := 0 }

end Screen

end Keychart.Viewer
