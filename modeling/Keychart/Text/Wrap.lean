import Keychart.Text.Basic

/-!
# Wrapping prose

Prose is laid out in lines of a width: as many words on each as fit.  A word that is
wider than a whole line is broken, and its front fills the line at hand.
-/

namespace Keychart.Text

def wordsAndGaps : Text → List Text
  | [] => []
  | c :: text =>
    match wordsAndGaps text with
    | [] => [[c]]
    | run :: runs =>
      if (c = ' ') = (run.head? = some ' ') then (c :: run) :: runs else [c] :: run :: runs

/-- A line without the gap at its end. -/
def closeLine (line : Text) : Text := trimBack (· = ' ') line

/-- The lines that words and gaps fill behind the front of a line, by a number of
steps.  A gap at the front of a line is left out. -/
def wrapFrom (width : Nat) : (steps : Nat) → (line : Text) → List Text → List Text
  | 0, line, _ => [closeLine line]
  | _, [], [] => []
  | _, line, [] => [closeLine line]
  | steps + 1, line, run :: runs =>
    if line.isEmpty && run.head? = some ' ' then wrapFrom width steps [] runs
    else if line.length + run.length ≤ width then wrapFrom width steps (line ++ run) runs
    else if run.length ≤ width then closeLine line :: wrapFrom width steps [] (run :: runs)
    else
      let space := max 1 (width - line.length)
      closeLine (line ++ run.take space) :: wrapFrom width steps [] (run.drop space :: runs)

/-- Prose in lines of a width.  Every step takes a run, or part of one, or ends a line
that holds something. -/
def wrap (width : Nat) (text : Text) : List Text :=
  wrapFrom width (2 * text.length + 1) [] (wordsAndGaps text)

end Keychart.Text
