import Keychart.Text.Trim

/-!
# Markup lines

Each line of an annotated source is read on its own.  Annotations stand in line
comments, and what follows the comment mark decides their kind:

* `# Title` opens the annotated region, and a bare `#` closes it;
* `## Section` heads a section, and a bare `##` closes the current one;
* `! note` hides the next binding;
* a quoted key, then a text, is an entry without a binding of its own;
* anything else describes the next binding.

The longer mark is tried first, so a heading is never read as a region mark.
-/

namespace Keychart.Markup

/-- What one line of a source means for the keymap. -/
inductive Line where
  /-- The region starts, with its title. -/
  | opening (title : Text)
  /-- A bare region mark. -/
  | closing
  /-- A section starts, or the current one ends when there is no name. -/
  | heading (name : Option Text)
  /-- The description of the next binding. -/
  | description (text : Text)
  /-- An entry that is listed without a binding of its own. -/
  | entry (keys text : Text)
  /-- The next binding is not listed. -/
  | hide (note : Text)
  /-- A line of code, which may hold a binding. -/
  | code (line : Text)
  | blank
  /-- An empty comment or the start of a block comment. -/
  | other (line : Text)
deriving DecidableEq, Repr

def commentMark : Text := ['-', '-']

/-- What follows the comment mark, without the white space around it.  A mark
with a greater sign behind it is an operator and starts no comment. -/
def commentText? (line : Text) : Option Text :=
  match Text.dropMark? commentMark (Text.trimStart line) with
  | none => none
  | some rest =>
    if rest.head? = some '>' then none
    else (Text.onlyLine? (Text.trimFront (fun c => c = ' ' || c = '\t') rest)).map Text.trimEnd

/-- The quoted keys at the front of a comment, and the text behind them.  Blank
keys do not count. -/
def quotedEntry? : Text → Option (Text × Text)
  | '"' :: rest =>
    let keys := rest.takeWhile (· ≠ '"')
    match rest.dropWhile (· ≠ '"') with
    | [] => none
    | _ :: text =>
      if Text.trim keys = [] then none else some (Text.trim keys, Text.trim text)
  | _ => none

/-- What a comment means, given its trimmed text and the line it stands in. -/
def readComment (line : Text) : Text → Line
  | '#' :: '#' :: name =>
    match Text.trim name with
    | [] => .heading none
    | trimmed => .heading (some trimmed)
  | '#' :: title =>
    match Text.trim title with
    | [] => .closing
    | trimmed => .opening trimmed
  | '!' :: note => .hide (Text.trim note)
  | [] => .other line
  | comment =>
    match quotedEntry? comment with
    | some (keys, text) => .entry keys text
    | none => .description comment

/-- What a line without a comment means. -/
def readCode (line : Text) : Line :=
  match Text.trim line with
  | [] => .blank
  | '{' :: '-' :: _ => .other line
  | _ => .code line

def readLine (line : Text) : Line :=
  match commentText? line with
  | some comment => readComment line comment
  | none => readCode line

def readLines (source : Text) : List Line := (Text.lines source).map readLine

end Keychart.Markup
