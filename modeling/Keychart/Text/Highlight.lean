import Keychart.Text.Basic

/-!
# Highlighting positions

The runs of a text that lie at given positions are put in a style of their own,
and the whole in a base style.
-/

namespace Keychart.Text

/-- The longest runs of characters that are all marked or all not, in order,
given the position of the first character. -/
def runs (marked : Nat → Bool) : (i : Nat) → Text → List (Bool × Text)
  | _, [] => []
  | i, c :: text =>
    match runs marked (i + 1) text with
    | (flag, run) :: rest =>
      if flag = marked i then (flag, c :: run) :: rest
      else (marked i, [c]) :: (flag, run) :: rest
    | [] => [(marked i, [c])]

/-- The text in the base style, with the runs at the positions in the highlight
style. -/
def highlight (base mark : Text → Text) (positions : List Nat) (text : Text) : Text :=
  match positions with
  | [] => base text
  | _ =>
    base ((runs (fun i => positions.contains i) 0 text).flatMap fun (flag, run) =>
      if flag then mark run else run)

end Keychart.Text
