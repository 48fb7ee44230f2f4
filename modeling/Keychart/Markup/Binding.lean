import Keychart.Text.Trim

/-!
# Bindings in code

A binding is a tuple of a quoted key and an action, such as
`, ("M-x", kill)`.  The keys are the first quoted text right behind an opening
parenthesis; the action is the rest of the line without the comma in front and
without the parenthesis that closes the tuple.
-/

namespace Keychart.Markup

/-- The quoted text at the front, and the rest of the line behind it. -/
def quotedPrefix? : Text → Option (Text × Text)
  | '"' :: rest =>
    match rest.dropWhile (· ≠ '"') with
    | [] => none
    | _ :: tail => (Text.onlyLine? tail).map fun tail => (rest.takeWhile (· ≠ '"'), tail)
  | _ => none

/-- The first quoted text behind an opening parenthesis, white space between
them left out, and the rest of the line. -/
def tupleStart? : Text → Option (Text × Text)
  | [] => none
  | c :: rest =>
    if c = '(' then
      match quotedPrefix? (Text.trimStart rest) with
      | some found => some found
      | none => tupleStart? rest
    else tupleStart? rest

/-- The action that the rest of a tuple holds: trimmed, without the commas in
front of it, and without its last parenthesis when more parentheses close in it
than open. -/
def actionOfTail (tail : Text) : Text :=
  let action := Text.trim (Text.trimFront (· = ',') (Text.trim tail))
  if action.getLast? = some ')' && action.count '(' < action.count ')' then
    Text.trimEnd action.dropLast
  else action

/-- The keys and the action of the binding in a line of code, if it holds one
and its keys are not blank. -/
def binding? (line : Text) : Option (Text × Text) :=
  match tupleStart? line with
  | none => none
  | some (quoted, tail) =>
    match Text.trim quoted with
    | [] => none
    | keys => some (keys, actionOfTail tail)

end Keychart.Markup
