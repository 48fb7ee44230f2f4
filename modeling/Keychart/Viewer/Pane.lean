import Keychart.Key.Bindings
import Keychart.Search.Rank
import Keychart.Text.Highlight
import Keychart.Text.Truncate
import Keychart.Theme.Style

/-!
# The pane of keybinds

The pane shows a window of rows: the keymap grouped by section, or, while there
are results, those in their order, with the matched characters highlighted and
the section behind each.
-/

namespace Keychart.Viewer

inductive Row where
  | gap
  | heading (name : Text)
  | keybind (result : SearchResult)
deriving DecidableEq, Repr

def sectionRows (s : Section) : List Row :=
  (s.name.toList.map Row.heading) ++ s.keybinds.map fun k => .keybind { keybind := k }

/-- The rows of some sections, with a gap between two.  A section that would
show nothing is left out. -/
def keymapRows (sections : List Section) : List Row :=
  (((sections.map sectionRows).filter fun rows => !rows.isEmpty).intersperse [.gap]).flatten

structure Pane where
  keymap : Keymap := {}
  /-- The results to show in place of the keymap. -/
  results : Option (List SearchResult) := none
  /-- The number of rows to show at a time.  A window that would end in front of the
  first row, as that of a negative number can, ends as far in front of the end of all
  rows. -/
  maxVisible : Int := 20
  /-- The first row that is shown. -/
  scroll : Nat := 0
deriving DecidableEq, Repr

namespace Pane

def rows (p : Pane) : List Row :=
  match p.results with
  | some results => results.map Row.keybind
  | none => keymapRows p.keymap.sections

def rowCount (p : Pane) : Nat := p.rows.length

/-- The last place to scroll to: the last row stands at the bottom. -/
def maxScroll (p : Pane) : Nat := (p.rowCount - p.maxVisible).toNat

/-- Scrolls back to the last place, if beyond it. -/
def clamp (p : Pane) : Pane := { p with scroll := min p.scroll p.maxScroll }

def scrollBy (p : Pane) (rows : Int) : Pane :=
  clamp { p with scroll := (p.scroll + rows).toNat }

/-- Shows another keymap, from the same row if there is one. -/
def setKeymap (p : Pane) (keymap : Keymap) : Pane := clamp { p with keymap := keymap }

/-- Shows results from the first, or the keymap again. -/
def setResults (p : Pane) (results : Option (List SearchResult)) : Pane :=
  { p with results := results, scroll := 0 }

/-- The rows to scroll by a page: one row stays in view. -/
def page (p : Pane) : Int := max 1 (p.maxVisible - 1)

/-- The actions that scroll, in the order in which keys are matched. -/
def scrollActions : List Action :=
  [.scrollUp, .scrollDown, .pageUp, .pageDown, .scrollTop, .scrollBottom]

def perform (p : Pane) : Action → Pane
  | .scrollUp => p.scrollBy (-1)
  | .scrollDown => p.scrollBy 1
  | .pageUp => p.scrollBy (-p.page)
  | .pageDown => p.scrollBy p.page
  | .scrollTop => { p with scroll := 0 }
  | .scrollBottom => { p with scroll := p.maxScroll }
  | _ => p

/-- One key: the pane behind the first scrolling action that it triggers, if it
triggers one. -/
def pressKey? (bindings : Bindings) (p : Pane) (data : Text) : Option Pane :=
  (scrollActions.find? fun a => bindings.triggers data a).map p.perform

def indent : Text := [' ', ' ']

def keysGap : Text := [' ', ' ']

/-- The width that long keys may always take. -/
def minKeysWidth : Nat := 8

def noMatchText : Text := Text.ofString "No matching keybinds"

def isLineEnd (c : Char) : Bool := c = '\r' || c = '\n'

def joinLines : Text → Text
  | [] => []
  | c :: text =>
    if isLineEnd c then
      if text.head?.any isLineEnd then joinLines text else ' ' :: joinLines text
    else c :: joinLines text

def onOneLine (text : Text) : Text := Text.trim (joinLines text)

def keysWidthOf : Row → Nat
  | .keybind result => Text.visibleWidth result.keybind.keys
  | _ => 0

/-- The width of the column of keys: that of the widest keys, but no more than a
third of the pane. -/
def keysWidth (p : Pane) (width : Nat) : Nat :=
  max 1 (min ((p.rows.map keysWidthOf).foldl max 0) (max minKeysWidth (width / 3)))

/-- The keys in their column.  Keys that are cut are not highlighted. -/
def renderKeys (theme : Theme) (result : SearchResult) (keysWidth : Nat) : Text :=
  let keys := Text.truncate keysWidth [] false result.keybind.keys
  let positions := if keys = result.keybind.keys then result.keyPositions.getD [] else []
  Text.highlight theme.keys.apply theme.highlight.apply positions keys ++
    Text.spaces (keysWidth - Text.visibleWidth keys)

/-- The description with its highlights, or else the action. -/
def renderLabel (theme : Theme) (result : SearchResult) : Text :=
  let label := onOneLine result.keybind.label
  if result.keybind.description.isEmpty then theme.comment.apply label
  else
    Text.highlight theme.description.apply theme.highlight.apply
      (result.descriptionPositions.getD []) label

def renderSection (theme : Theme) (result : SearchResult) : Text :=
  match result.keybind.sectionName with
  | none | some [] => []
  | some name => ' ' :: theme.comment.apply ('[' :: name ++ [']'])

/-- A row of keys and label.  The label is cut to what the keys leave. -/
def renderKeybind (theme : Theme) (ranked : Bool) (keysWidth width : Nat)
    (result : SearchResult) : Text :=
  let front := indent ++ renderKeys theme result keysWidth
  let remaining := width - indent.length - keysWidth - keysGap.length
  if remaining = 0 then front
  else
    let label :=
      renderLabel theme result ++ (if ranked then renderSection theme result else [])
    front ++ keysGap ++ Text.shorten remaining label

def renderRow (theme : Theme) (ranked : Bool) (keysWidth width : Nat) : Row → Text
  | .gap => []
  | .heading name => theme.heading.apply (Text.shorten width name)
  | .keybind result => renderKeybind theme ranked keysWidth width result

/-- The line that says which rows are shown. -/
def renderPlace (theme : Theme) (width first : Nat) (last : Int) (count : Nat) : Text :=
  theme.scrollInfo.apply
    (Text.shorten width
      (indent ++ '(' :: Text.ofNat first ++ '-' :: Text.ofInt last ++ '/' ::
        Text.ofNat count ++ [')']))

/-- The end of the window: the number of rows up to it. -/
def windowEnd (p : Pane) : Int := min (p.scroll + p.maxVisible) p.rowCount

/-- The rows in the window.  An end below nought is counted from the last row. -/
def window (p : Pane) : List Row :=
  let last := if p.windowEnd < 0 then p.windowEnd + p.rowCount else p.windowEnd
  (p.rows.take last.toNat).drop p.scroll

/-- The window of rows as lines.  When it does not hold all rows, a line behind
it says where it stands. -/
def renderRows (p : Pane) (theme : Theme) (width : Nat) : List Text :=
  let lines := p.window.map (renderRow theme p.results.isSome (p.keysWidth width) width)
  if 0 < p.scroll || p.windowEnd < p.rowCount then
    lines ++ [renderPlace theme width (p.scroll + 1) p.windowEnd p.rowCount]
  else lines

def render (p : Pane) (theme : Theme) (width : Nat) : Pane × List Text :=
  if p.rows.isEmpty then
    (p,
      if p.results.isNone then []
      else [theme.noMatch.apply (Text.shorten width (indent ++ noMatchText))])
  else
    let p := p.clamp
    (p, p.renderRows theme width)

end Pane

end Keychart.Viewer
