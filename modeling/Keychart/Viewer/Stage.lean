import Keychart.Viewer.Screen

/-!
# A stage of blocks

A stage shows blocks of lines one above the other.  Input goes to the block that
has the focus, unless it is one of those that the stage keeps for itself, and
every input is followed by a frame.
-/

namespace Keychart.Viewer

/-- Some lines that can take part in input. -/
structure Block where
  lines : List Text := []
  /-- Whether the block knows that it has the focus. -/
  focusable : Bool := false
  /-- Whether the block takes no input. -/
  deaf : Bool := false
  focused : Bool := false
  /-- What reached the block, in order. -/
  received : List Text := []
deriving DecidableEq, Repr

namespace Block

def receive (b : Block) (data : Text) : Block := { b with received := b.received ++ [data] }

def tellFocus (b : Block) (focused : Bool) : Block :=
  if b.focusable then { b with focused := focused } else b

/-- What a block receives when it is to forget what it drew. -/
def invalidation : Text := Text.ofString "<invalidate>"

end Block

/-- Blocks on one screen. -/
structure Stage where
  blocks : List Block
  size : Size
  /-- The block that input goes to. -/
  focus : Option Nat := none
  /-- The inputs that no block gets. -/
  kept : List Text := []
  screen : Screen := {}

namespace Stage

def lines (s : Stage) : List Text := s.blocks.flatMap Block.lines

def draw (s : Stage) : Stage × List Text :=
  let (screen, written) := s.screen.draw s.size s.lines
  ({ s with screen := screen }, written)

def modifyBlock (s : Stage) (place : Nat) (change : Block → Block) : Stage :=
  { s with blocks := s.blocks.modify place change }

def setLines (s : Stage) (place : Nat) (lines : List Text) : Stage :=
  s.modifyBlock place fun b => { b with lines := lines }

def setFocus (s : Stage) (focus : Option Nat) : Stage :=
  if focus = s.focus then s
  else
    let released :=
      match s.focus with
      | none => s
      | some place => s.modifyBlock place fun b => b.tellFocus false
    let focused :=
      match focus with
      | none => released
      | some place => released.modifyBlock place fun b => b.tellFocus true
    { focused with focus := focus }

/-- Hands input to the focused block, unless the stage keeps it. -/
def deliver (s : Stage) (data : Text) : Stage :=
  if s.kept.contains data then s
  else
    match s.focus with
    | none => s
    | some place => s.modifyBlock place fun b => if b.deaf then b else b.receive data

/-- One input and the frame behind it.  Outside a session it is dropped. -/
def input (s : Stage) (data : Text) : Stage × List Text :=
  if s.screen.stopped then (s, []) else (s.deliver data).draw

/-- Another size.  In a session a whole frame follows. -/
def resize (s : Stage) (size : Size) : Stage × List Text :=
  let s := { s with size := size }
  if s.screen.stopped then (s, []) else { s with screen := s.screen.resized }.draw

/-- Makes all blocks forget what they drew and draws them. -/
def invalidate (s : Stage) : Stage × List Text :=
  { s with blocks := s.blocks.map fun b : Block => b.receive Block.invalidation }.draw

def start (s : Stage) : Stage × List Text :=
  let (screen, written) := s.screen.start
  let (s, frame) := { s with screen := screen }.draw
  (s, written ++ frame)

def stop (s : Stage) : Stage × List Text :=
  let (screen, written) := s.screen.stop
  ({ s with screen := screen }, written)

end Stage

end Keychart.Viewer
