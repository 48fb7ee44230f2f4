import Keychart.Text.Truncate
import Keychart.Theme.Style
import Keychart.Viewer.Query
import Keychart.Viewer.Screen

/-!
# The query on one line

The line shows a prompt and the part of the query around the cursor.  The
cluster under the cursor is shown in reverse; behind the end of the query it is
a space.
-/

namespace Keychart.Viewer.Query

/-- The part of the query that fits in the room, and the place of the cursor in
it.  One place is kept free for the cursor when it stands at the end. -/
def window (q : Query) (room : Nat) : Text × Nat :=
  let value := q.value
  let cursor := q.cursor
  if value.length < room then (value, cursor)
  else
    let span := if cursor = value.length then room - 1 else room
    let half := span / 2
    if cursor < half then (value.take span, cursor)
    else
      let start := if value.length - half < cursor then value.length - span else cursor - half
      ((value.drop start).take span, cursor - start)

def reversed (cluster : Text) : Text :=
  Text.ofString "\x1b[7m" ++ cluster ++ Text.ofString "\x1b[27m"

def withCursor (focused : Bool) (text : Text) (cursor : Nat) : Text :=
  let front := text.take cursor
  let rest := text.drop cursor
  let under := (Text.clusters rest).head?.getD [' ']
  front ++ (if focused then cursorMark else []) ++ reversed under ++ rest.drop under.length

def render (q : Query) (prompt : Text) (style : Text → Text) (width : Nat) : Text :=
  let room := width - Text.visibleWidth prompt
  if room = 0 then style prompt
  else
    let (text, cursor) := q.window room
    style prompt ++ Text.fill room (withCursor q.focused text cursor)

end Keychart.Viewer.Query
