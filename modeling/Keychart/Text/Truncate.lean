import Keychart.Text.Width

/-!
# Cutting texts to a width

A text that is too wide is cut between two clusters and closed by an ellipsis.
Escape sequences are kept up to the cut; if there are any, a reset follows.
-/

namespace Keychart.Text

/-- The clusters that fit in the room, and the room left over, unless one does
not fit. -/
def takeClusters : (room : Nat) → List Text → Text × Option Nat
  | room, [] => ([], some room)
  | room, cluster :: rest =>
    if room < clusterWidth cluster then ([], none)
    else
      let (taken, left) := takeClusters (room - clusterWidth cluster) rest
      (cluster ++ taken, left)

/-- The runs that fit in the room, and whether an escape sequence is among them. -/
def takePieces : (room : Nat) → List Piece → Text × Bool
  | _, [] => ([], false)
  | room, .escape code :: rest => (code ++ (takePieces room rest).1, true)
  | room, .plain text :: rest =>
    match takeClusters room (clusters text) with
    | (taken, none) => (taken, false)
    | (taken, some left) =>
      let (more, styled) := takePieces left rest
      (taken ++ more, styled)

/-- The front of a text that fits in the room, and whether it holds an escape
sequence. -/
def takeColumns (room : Nat) (text : Text) : Text × Bool := takePieces room (pieces text)

def resetCode : Text := ['\x1b', '[', '0', 'm']

def dots : Text := ['.', '.', '.']

/-- The text with spaces behind it, up to the asked number of columns. -/
def fill (width : Nat) (text : Text) : Text := text ++ spaces (width - visibleWidth text)

/-- The text cut to a width with the ellipsis behind it, given that it is wider.
If the ellipsis leaves no room, only as much of it is shown as fits. -/
def cut (width : Nat) (ellipsis : Text) (padded : Bool) (text : Text) : Text :=
  if width ≤ visibleWidth ellipsis then (takeColumns width ellipsis).1
  else
    let (taken, styled) := takeColumns (width - visibleWidth ellipsis) text
    let shown := taken ++ (if styled then resetCode else []) ++ ellipsis
    if padded then fill width shown else shown

/-- The text, cut if it is wider than asked; it can be filled up with spaces. -/
def truncate (width : Nat) (ellipsis : Text) (padded : Bool) (text : Text) : Text :=
  if width = 0 then []
  else if visibleWidth text ≤ width then (if padded then fill width text else text)
  else cut width ellipsis padded text

/-- The text cut to a width with dots. -/
def shorten (width : Nat) (text : Text) : Text := truncate width dots false text

/-- The text cut to a width with dots or filled up to it. -/
def fit (width : Nat) (text : Text) : Text := truncate width dots true text

end Keychart.Text
