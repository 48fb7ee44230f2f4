import Keychart.Key.Bindings
import Keychart.Key.Split
import Keychart.Text.Cluster
import Keychart.Text.Word
import Keychart.Unicode.Columns

/-!
# The query editor

A line of text with a cursor, edited by keys and pastes.  The text is kept in
two parts, before and behind the cursor, so the cursor always lies within it.
-/

namespace Keychart.Viewer

/-- The query, and the paste that is still open. -/
structure Query where
  before : Text := []
  after : Text := []
  /-- What has arrived of a paste whose end mark has not. -/
  paste : Option Text := none
  focused : Bool := false
deriving DecidableEq, Repr

namespace Query

def value (q : Query) : Text := q.before ++ q.after

def cursor (q : Query) : Nat := q.before.length

/-- Replaces the text.  The cursor keeps its place as far as the text reaches. -/
def setValue (q : Query) (value : Text) : Query :=
  { q with before := value.take q.cursor, after := value.drop q.cursor }

def insert (q : Query) (text : Text) : Query := { q with before := q.before ++ text }

/-- The text in front of the cursor, parted in front of its last `n` code
points. -/
def splitBack (q : Query) (n : Nat) : Text × Text :=
  (q.before.take (q.before.length - n), q.before.drop (q.before.length - n))

def deleteBack (q : Query) (n : Nat) : Query := { q with before := (q.splitBack n).1 }

def deleteAhead (q : Query) (n : Nat) : Query := { q with after := q.after.drop n }

def moveBack (q : Query) (n : Nat) : Query :=
  { q with before := (q.splitBack n).1, after := (q.splitBack n).2 ++ q.after }

def moveAhead (q : Query) (n : Nat) : Query :=
  { q with before := q.before ++ q.after.take n, after := q.after.drop n }

def clusterBack (q : Query) : Nat :=
  ((Text.clusters q.before).getLast?.getD []).length

def clusterAhead (q : Query) : Nat := ((Text.clusters q.after).head?.getD []).length

/-- The length of the word in front of the cursor, with the spaces up to it. -/
def wordBack (q : Query) : Nat := Text.firstWordLength (Text.clusters q.before).reverse

/-- The length of the word behind the cursor, with the spaces up to it. -/
def wordAhead (q : Query) : Nat := Text.firstWordLength (Text.clusters q.after)

/-- The actions that edit the query, in the order in which keys are matched. -/
def editingActions : List Action :=
  [.deleteCharBackward, .deleteCharForward, .deleteWordBackward, .deleteToLineStart,
   .deleteToLineEnd, .cursorLeft, .cursorRight, .cursorLineStart, .cursorLineEnd,
   .cursorWordLeft, .cursorWordRight]

def perform (q : Query) : Action → Query
  | .deleteCharBackward => q.deleteBack q.clusterBack
  | .deleteCharForward => q.deleteAhead q.clusterAhead
  | .deleteWordBackward => q.deleteBack q.wordBack
  | .deleteToLineStart => { q with before := [] }
  | .deleteToLineEnd => { q with after := [] }
  | .cursorLeft => q.moveBack q.clusterBack
  | .cursorRight => q.moveAhead q.clusterAhead
  | .cursorLineStart => { q with before := [], after := q.value }
  | .cursorLineEnd => { q with before := q.value, after := [] }
  | .cursorWordLeft => q.moveBack q.wordBack
  | .cursorWordRight => q.moveAhead q.wordAhead
  | _ => q

/-- One key: the first editing action that it triggers, or else its text, if
that holds no control character. -/
def pressKey (bindings : Bindings) (q : Query) (data : Text) : Query :=
  match editingActions.find? fun a => bindings.triggers data a with
  | some action => q.perform action
  | none => if data.any Unicode.isControl then q else q.insert data

mutual

/-- Reads input.  A paste runs from its start mark to the next end mark, over as
many inputs as it takes; it is inserted without its line ends.  What stands in
front of a start mark is read first, and a start mark begins a paste anew. -/
def read (bindings : Bindings) (q : Query) (data : Text) : Query :=
  match _found : Text.splitAtMark? Key.pasteStart data with
  | some (front, rest) =>
    let q := if front.isEmpty then q else read bindings q front
    readPaste bindings q [] rest
  | none =>
    match _waiting : q.paste with
    | some pasted => readPaste bindings q pasted data
    | none => q.pressKey bindings data
termination_by 2 * ((q.paste.getD []).length + data.length) + 1
decreasing_by
  · have := Text.length_of_splitAtMark? _found
    simp only [Key.length_pasteStart] at this
    omega
  · have := Text.length_of_splitAtMark? _found
    simp only [Key.length_pasteStart] at this
    simp only [List.length_nil]
    omega
  · simp only [_waiting, Option.getD_some]
    omega

/-- Reads input behind what has arrived of a paste. -/
def readPaste (bindings : Bindings) (q : Query) (pasted data : Text) : Query :=
  match _found : Text.splitAtMark? Key.pasteEnd (pasted ++ data) with
  | none => { q with paste := some (pasted ++ data) }
  | some (text, rest) =>
    let q := { q.insert (Text.lines text).flatten with paste := none }
    if rest.isEmpty then q else read bindings q rest
termination_by 2 * (pasted.length + data.length)
decreasing_by
  have := Text.length_of_splitAtMark? _found
  simp [Key.length_pasteEnd] at this ⊢
  omega

end

end Query

end Keychart.Viewer
