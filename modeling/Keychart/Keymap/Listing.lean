import Keychart.Json
import Keychart.Search.Rank

/-!
# Listings

The plain forms in which a keymap or the results of a search are printed: lines
with the keys in a column of their own, and JSON.
-/

namespace Keychart

def maxKeysColumn : Nat := 24

namespace Keymap

/-- The width of the column of keys: that of the longest keys, within the limit. -/
def keysColumn (keymap : Keymap) : Nat :=
  min ((keymap.keybinds.map fun k => k.keys.length).foldl max 0) maxKeysColumn

/-- The keys in their column and the label behind them. -/
def listingRow (width : Nat) (keybind : Keybind) : Text :=
  Text.padRight width keybind.keys ++ [' ', ' '] ++ keybind.label

/-- The lines of one section: an empty line, the name if there is one, and a
line for each keybind. -/
def sectionLines (width : Nat) (s : Section) : List Text :=
  [] :: s.name.toList ++
    s.keybinds.map fun k => Text.trimEnd ([' ', ' '] ++ listingRow width k)

def listing (keymap : Keymap) : Text :=
  Text.join ['\n']
    (keymap.displayTitle :: keymap.sections.flatMap (sectionLines keymap.keysColumn))

def keybindJson (keybind : Keybind) : Json :=
  .object
    [(Text.ofString "keys", .string keybind.keys),
     (Text.ofString "description", .string keybind.description),
     (Text.ofString "action", .string keybind.action),
     (Text.ofString "is_fake", .bool keybind.isFake)]

def toJson (keymap : Keymap) : Json :=
  .object
    [(Text.ofString "title", .string keymap.title),
     (Text.ofString "sections",
      .array (keymap.sections.map fun s =>
        .object
          [(Text.ofString "name", .ofOption s.name),
           (Text.ofString "keybinds", .array (s.keybinds.map keybindJson))]))]

end Keymap

/-- The score of a result as a JSON number; a result without one counts nought. -/
def SearchResult.scoreJson (result : SearchResult) : Json :=
  match result.score with
  | none => .number ['0']
  | some score => .number score.write

namespace Search

def resultLine (width : Nat) (result : SearchResult) : Text :=
  let row := Text.trimEnd (Keymap.listingRow width result.keybind)
  match result.keybind.sectionName with
  | none | some [] => row
  | some name => row ++ [' ', ' ', '['] ++ name ++ [']']

/-- The results as text; the column of keys is that of the whole keymap. -/
def listing (results : List SearchResult) (keymap : Keymap) : Text :=
  Text.join ['\n'] (results.map (resultLine keymap.keysColumn))

def toJson (results : List SearchResult) : Json :=
  .array (results.map fun r =>
    .object
      [(Text.ofString "keys", .string r.keybind.keys),
       (Text.ofString "description", .string r.keybind.description),
       (Text.ofString "action", .string r.keybind.action),
       (Text.ofString "section", .ofOption r.keybind.sectionName),
       (Text.ofString "score", r.scoreJson)])

end Search

end Keychart
