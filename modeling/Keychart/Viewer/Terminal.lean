import Keychart.Key.Reads
import Keychart.Viewer.Session.Run

/-!
# A session on a terminal

The terminal hands over what was typed in reads of any length.  The keys of one
read are handled in turn, and only then a frame is drawn.  The session takes a
screen of its own and every key as it is typed; in the end it gives back the screen,
and the terminal the mode that it had.
-/

namespace Keychart.Viewer

/-- A session and the reads that feed it. -/
structure Terminal where
  session : Session
  reads : Key.Reads := {}

namespace Terminal

inductive Mode where
  | save
  | raw
  | restore
deriving DecidableEq, Repr

def Mode.name : Mode → Text
  | save => Text.ofString "save"
  | raw => Text.ofString "raw"
  | restore => Text.ofString "restore"

/-- What a session gives on a terminal. -/
structure Output extends Session.Output where
  modes : List Mode := []
deriving DecidableEq, Repr

/-- What is written before a session: another screen, and marks around pastes. -/
def enterText : Text := Text.ofString "\x1b[?1049h\x1b[?2004h"

def leaveText : Text := Text.ofString "\x1b[?2004l\x1b[?25h\x1b[?1049l"

/-- The report that a session begins. -/
def startedRecord (size : Size) : Log.Record :=
  ⟨.debug, Text.ofString "apekey.tui.terminal",
    Text.ofString "terminal started, " ++ Text.ofNat size.columns ++ 'x' ::
      Text.ofNat size.rows⟩

def start (session : Session) (bytes : Bytes) : Terminal × Output :=
  let (started, output) := session.start bytes
  ({ session := started },
    { written := enterText :: output.written
      records := startedRecord session.size :: output.records
      modes := [.save, .raw] })

def isRunning (t : Terminal) : Bool := !t.session.screen.stopped

/-- What is done last when the session has ended. -/
def farewell (t : Terminal) : Output :=
  if t.isRunning then {} else { written := [leaveText], modes := [.restore] }

def Output.append (first second : Output) : Output where
  written := first.written ++ second.written
  records := first.records ++ second.records
  modes := first.modes ++ second.modes

/-- One read, given what the system says of the file.  Behind the end of a session
nothing is read. -/
def read (t : Terminal) (input : List UInt8) (bytes : Bytes) : Terminal × Output :=
  if t.isRunning then
    let (items, reads) := t.reads.read input
    let (session, output) := (items.foldl Session.input t.session).settle bytes
    let next : Terminal := ⟨session, reads⟩
    (next, (⟨output, []⟩ : Output).append next.farewell)
  else (t, {})

def readAll (t : Terminal) (bytes : Bytes) : List (List UInt8) → Output
  | [] => {}
  | input :: rest =>
    let (next, output) := t.read input bytes
    output.append (next.readAll bytes rest)

end Terminal

end Keychart.Viewer
