import Keychart.Source.Store
import Keychart.Viewer.Pane
import Keychart.Viewer.Query
import Keychart.Viewer.Screen

/-!
# Sessions

A session ties the store, the query and the pane together.  The pane shows the
keymap of the store, or the results of the query as long as that is not blank.

Input changes the query and the pane at once.  What else it asks for (a frame, a
reload, the end of the session) becomes a chore, and all chores are done behind
the input that is at hand.
-/

namespace Keychart.Viewer

/-- What is to be done behind the input at hand. -/
inductive Chore where
  | draw
  | reload
  | leave
deriving DecidableEq, Repr

/-- The line below the pane. -/
structure Status where
  text : Text := []
  isError : Bool := false
deriving DecidableEq, Repr

/-- The state of the viewer. -/
structure Session where
  store : Source.Store
  theme : Theme := .plain
  bindings : Bindings := .usual
  size : Size
  query : Query := { focused := true }
  pane : Pane := {}
  status : Status := {}
  screen : Screen := {}
  /-- The chores in the order in which they are done. -/
  chores : List Chore := []
  /-- Whether the file is being read again. -/
  loading : Bool := false

namespace Session

/-- What the pane has to show for the query: the results of a search, or nothing
but the keymap for a blank one. -/
def wantedResults (s : Session) : Option (List SearchResult) :=
  let query := Text.trim s.query.value
  if query.isEmpty then none else some (search query s.store.keybinds)

/-- Shows what the query asks for, from the first row. -/
def refresh (s : Session) : Session :=
  { s with pane := s.pane.setResults s.wantedResults }

def showKeymap (s : Session) : Session :=
  { s with pane := s.pane.setKeymap s.store.keymap }.refresh

/-- A session that shows the keymap of a store. -/
def ofStore (store : Source.Store) (theme : Theme) (bindings : Bindings) (size : Size) :
    Session :=
  showKeymap { store := store, theme := theme, bindings := bindings, size := size }

/-- Asks for a chore.  What waits already is not asked for again. -/
def request (s : Session) (chore : Chore) : Session :=
  if s.chores.contains chore then s else { s with chores := s.chores ++ [chore] }

def requestDraw (s : Session) : Session := s.request .draw

def requestReload (s : Session) : Session := if s.loading then s else s.request .reload

def quit (s : Session) : Session := s.request .leave

/-- Says something below the pane. -/
def setStatus (s : Session) (text : Text) (isError : Bool) : Session :=
  { s with status := ⟨text, isError⟩ }.requestDraw

/-- Hands input to the query.  The pane is refreshed when the text changes. -/
def edit (s : Session) (data : Text) : Session :=
  let edited := { s with query := s.query.read s.bindings data }
  if edited.query.value = s.query.value then edited else edited.refresh

/-- What input does: the keys of the session come before those of the pane, and
the query takes the rest. -/
def handle (s : Session) (data : Text) : Session :=
  if s.bindings.triggers data .quit then s.quit
  else if s.bindings.triggers data .reload then s.requestReload
  else
    match s.pane.pressKey? s.bindings data with
    | some pane => { s with pane := pane }
    | none => s.edit data

/-- One item of input and the request for the frame behind it.  A stopped
session drops it. -/
def input (s : Session) (data : Text) : Session :=
  if s.screen.stopped then s else (s.handle data).requestDraw

def resize (s : Session) (size : Size) : Session :=
  let s := { s with size := size }
  if s.screen.stopped then s else { s with screen := s.screen.resized }.requestDraw

/-- Asks for a frame as long as the session runs. -/
def invalidate (s : Session) : Session := if s.screen.stopped then s else s.requestDraw

/-- Begins to read the file again. -/
def beginReload (s : Session) : Session :=
  { s with loading := true }.setStatus
    (Text.ofString "Reloading " ++ s.store.path.toText) false

def reloadedText (keymap : Keymap) : Text :=
  Text.ofString "Reloaded: " ++ Text.ofNat keymap.keybindCount ++
    Text.ofString " keybinds in " ++ Text.ofNat keymap.sectionCount ++
    Text.ofString " sections"

def failedRecord (e : Source.SourceError) : Log.Record :=
  ⟨.error, Text.ofString "apekey.app", Text.ofString "reload failed: " ++ e.message⟩

/-- The file was read, given what the system said of it.  Without a keymap the
session goes on with the one it has. -/
def finishReload (s : Session) (bytes : Bytes) : Session × List Log.Record :=
  match s.store.load bytes with
  | (store, .ok loaded) =>
    (({ s with store := store, loading := false }.showKeymap).setStatus
      (reloadedText loaded.keymap) false, loaded.records)
  | (store, .error e) =>
    ({ s with store := store, loading := false }.setStatus e.message true, [failedRecord e])

end Session

end Keychart.Viewer
