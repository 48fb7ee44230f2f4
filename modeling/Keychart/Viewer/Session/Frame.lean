import Keychart.Text.Truncate
import Keychart.Viewer.QueryLine
import Keychart.Viewer.Session.Basic

/-!
# The frame of a session

From the top: the title, the query, the pane, and the status on the last row.
Every line is filled up to the width on the background of the theme.
-/

namespace Keychart.Viewer.Session

/-- The rows above the pane: the title and the query, each with an empty one
below. -/
def headerRows : Nat := 4

/-- The rows below the pane: the line that says which rows it shows, and the
status. -/
def footerRows : Nat := 2

/-- The number of rows that the pane can show on a terminal of some height. -/
def paneRows (height : Nat) : Nat := max 1 (height - headerRows - footerRows)

def prompt : Text := ['>', ' ']

def titleLine (s : Session) (width : Nat) : Text :=
  s.theme.title.apply (Text.shorten width s.store.keymap.displayTitle)

def queryLine (s : Session) (width : Nat) : Text :=
  s.query.render prompt s.theme.prompt.apply width

def statusLine (s : Session) (width : Nat) : Text :=
  (if s.status.isError then s.theme.error else s.theme.status).apply
    (Text.shorten width s.status.text)

/-- What is shown in place of a keymap when the source marks no region. -/
def noRegionText (s : Session) : Text :=
  Text.ofString "  No annotated keymap found in " ++ s.store.path.toText

/-- The lines between the query and the status.  Drawing scrolls the pane back
into its rows. -/
def body (s : Session) (width : Nat) : Session × List Text :=
  if s.store.keymap.hasRegion then
    let (pane, lines) := s.pane.render s.theme width
    ({ s with pane := pane }, lines)
  else (s, [s.theme.noMatch.apply (Text.shorten width s.noRegionText)])

/-- Lines filled up with empty ones, or cut, to a number. -/
def fitRows (rows : Nat) (lines : List Text) : List Text :=
  lines.take rows ++ List.replicate (rows - lines.length) []

/-- The lines of the frame.  The pane gets the rows that the height leaves it. -/
def render (s : Session) (width : Nat) : Session × List Text :=
  let s := { s with pane.maxVisible := paneRows s.size.rows }
  let (s, body) := s.body width
  let header := [s.titleLine width, [], s.queryLine width, []]
  let lines := fitRows (s.size.rows - 1) (header ++ body) ++ [s.statusLine width]
  (s, lines.map fun line => s.theme.background.apply (Text.fit width line))

end Keychart.Viewer.Session
