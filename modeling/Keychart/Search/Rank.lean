import Keychart.Keymap.Basic
import Keychart.Search.Alignment
import Keychart.Text.Trim

/-!
# Searching keybinds

A query keeps the keybinds that it matches in their keys or their description,
the best first.  A blank query keeps everything in its order.
-/

namespace Keychart

structure SearchResult where
  /-- The place of the keybind in the searched list. -/
  index : Nat := 0
  keybind : Keybind
  /-- The better of the scores of its matching fields; a blank query gives none. -/
  score : Option Score := none
  /-- The matched positions in the keys, if those match. -/
  keyPositions : Option (List Nat) := none
  /-- The matched positions in the description, if that matches. -/
  descriptionPositions : Option (List Nat) := none
deriving DecidableEq, Repr

namespace Search

def betterScore : Option Score → Option Score → Option Score
  | none, other => other
  | some score, none => some score
  | some a, some b => some (Score.max a b)

def resultFor (query : Text) (index : Nat) (keybind : Keybind) : Option SearchResult :=
  let keys := fuzzyMatch query keybind.keys
  let description := fuzzyMatch query keybind.description
  if keys.isNone && description.isNone then none
  else
    some
      { index := index
        keybind := keybind
        score := betterScore (keys.bind Match.score) (description.bind Match.score)
        keyPositions := keys.map Match.positions
        descriptionPositions := description.map Match.positions }

/-- The results for a list whose first keybind has the given place. -/
def resultsFrom (query : Text) : (index : Nat) → List Keybind → List SearchResult
  | _, [] => []
  | index, keybind :: rest =>
    match resultFor query index keybind with
    | none => resultsFrom query (index + 1) rest
    | some result => result :: resultsFrom query (index + 1) rest

def unranked : (index : Nat) → List Keybind → List SearchResult
  | _, [] => []
  | index, keybind :: rest =>
    { index := index, keybind := keybind } :: unranked (index + 1) rest

/-- The units of a result's score, by which results are ranked. -/
def rankUnits (result : SearchResult) : Int :=
  match result.score with
  | none => 0
  | some score => score.units

/-- The results in order of their scores, the greatest first; equal scores keep
their order. -/
def rank (results : List SearchResult) : List SearchResult :=
  results.mergeSort fun a b => rankUnits b ≤ rankUnits a

end Search

def search (query : Text) (keybinds : List Keybind) : List SearchResult :=
  match Text.trim query with
  | [] => Search.unranked 0 keybinds
  | trimmed => Search.rank (Search.resultsFrom trimmed 0 keybinds)

end Keychart
