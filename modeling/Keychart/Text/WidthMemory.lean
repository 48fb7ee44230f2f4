import Keychart.Text.Width

/-!
# Remembered widths

Cutting a text into clusters takes time, and the same texts are measured again and
again.  So the width of a text that had to be cut is remembered.  The memory holds a
limited number of widths; when it is full, it is emptied.
-/

namespace Keychart.Text

/-- Measured texts and their widths, the last one first. -/
structure WidthMemory where
  widths : List (Text × Nat) := []
deriving DecidableEq, Repr

namespace WidthMemory

def capacity : Nat := 512

def find? (m : WidthMemory) (text : Text) : Option Nat := m.widths.lookup text

/-- Remembers the width of a measured text, in place of what was remembered of it.  A
full memory is emptied first. -/
def remember (m : WidthMemory) (text : Text) (width : Nat) : WidthMemory :=
  if capacity ≤ m.widths.length then ⟨[(text, width)]⟩
  else ⟨(text, width) :: m.widths.filter fun entry => entry.1 ≠ text⟩

/-- The columns of a text, and the memory behind that.  Nothing is remembered of the
empty text and of printable ASCII. -/
def measure (m : WidthMemory) (text : Text) : Nat × WidthMemory :=
  if text.isEmpty then (0, m)
  else
    let text := measured text
    if isPlainAscii text then (text.length, m)
    else
      match m.find? text with
      | some width => (width, m)
      | none => (clustersWidth text, m.remember text (clustersWidth text))

def measureEach (m : WidthMemory) (texts : List Text) : WidthMemory :=
  texts.foldl (fun m text => (m.measure text).2) m

end WidthMemory

end Keychart.Text
