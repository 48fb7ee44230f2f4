import Keychart.Settings.Toml.Scalar
import Keychart.Settings.Toml.Table

/-!
# Reading TOML

A document is a list of statements, one on a line.  Values nest, so the readers
of values count down from the length of the text, which every step into a value
shortens.
-/

namespace Keychart.Settings.Toml

inductive Limit where
  /-- The number of digits of an integer that has too many. -/
  | digits (count : Nat)
  /-- Values nest too deep. -/
  | depth
deriving DecidableEq, Repr

/-- Why a text gives no document. -/
inductive Flaw where
  | malformed
  | beyond (limit : Limit)
deriving DecidableEq, Repr

/-- What was found, if anything. -/
def orMalformed {α : Type} : Option α → Except Flaw α
  | some found => .ok found
  | none => .error .malformed

def isBareKeyChar (c : Char) : Bool :=
  isAsciiDigit c || ('a' ≤ c && c ≤ 'z') || ('A' ≤ c && c ≤ 'Z') || c = '-' || c = '_'

def keyName? (text : Text) : Option (Text × Text) :=
  let bare := text.takeWhile isBareKeyChar
  if bare.isEmpty then shortString? text else some (bare, text.drop bare.length)

/-- A key: names joined by points.  It gives the path in front of the last name,
that name, and what follows the white space behind it. -/
def key? : (fuel : Nat) → Text → Option (List Text × Text × Text)
  | 0, _ => none
  | fuel + 1, text =>
    match keyName? text with
    | none => none
    | some (name, rest) =>
      match skipSpace rest with
      | '.' :: more =>
        (key? fuel (skipSpace more)).map fun (path, last, rest) => (name :: path, last, rest)
      | rest => some ([], name, rest)

/-- What follows a comment, if there is one in front; a control character in it
is refused. -/
def skipComment? : Text → Option Text
  | '#' :: text =>
    let body := text.takeWhile (· ≠ '\n')
    if body.any isIllegal then none else some (text.drop body.length)
  | text => some text

/-- What follows white space, line ends and comments. -/
def skipFiller? : (fuel : Nat) → Text → Option Text
  | 0, text => some text
  | fuel + 1, text =>
    match text.dropWhile isSpaceOrNewline with
    | '#' :: rest => (skipComment? ('#' :: rest)).bind (skipFiller? fuel)
    | rest => some rest

/-- A date or a time.  A date that is not in the calendar is refused. -/
def moment? (text : Text) : Option (Option Text) :=
  match date? text with
  | some (date, rest) => some (if isCalendarDate date then some (afterDate rest) else none)
  | none => (afterTime? text).map some

def maxDigits : Nat := 4300

def number (text : Text) : Except Flaw (Value × Text) :=
  match basedInteger? text with
  | some found => .ok found
  | none =>
    match decimalNumber? text with
    | some (.integer n, rest) =>
      let count := (Nat.toDigits 10 n.natAbs).length
      if maxDigits < count then .error (.beyond (.digits count)) else .ok (.integer n, rest)
    | some found => .ok found
    | none => orMalformed (namedFloat? text)

def scalar (text : Text) : Except Flaw (Value × Text) :=
  match string? text with
  | some (text, rest) => .ok (.string text, rest)
  | none =>
    match text with
    | '"' :: _ | '\'' :: _ => .error .malformed
    | 't' :: 'r' :: 'u' :: 'e' :: rest => .ok (.bool true, rest)
    | 'f' :: 'a' :: 'l' :: 's' :: 'e' :: rest => .ok (.bool false, rest)
    | text =>
      match moment? text with
      | some (some rest) => .ok (.moment, rest)
      | some none => .error .malformed
      | none => number text

mutual

/-- A value at the front of a text.  The room bounds how deep values nest: an array
takes two parts of it and a table three. -/
def value : (fuel room : Nat) → Text → Except Flaw (Value × Text)
  | 0, _, _ => .error .malformed
  | fuel + 1, room + 2, '[' :: rest =>
    (items fuel room rest).map fun (items, rest) => (.list items, rest)
  | _ + 1, _, '[' :: _ => .error (.beyond .depth)
  | fuel + 1, room + 3, '\x7b' :: rest =>
    match skipSpace rest with
    | '\x7d' :: rest => .ok (.table [], rest)
    | rest =>
      (pairs fuel room [] rest).map fun (members, rest) => (.table (membersValue members), rest)
  | _ + 1, _, '\x7b' :: _ => .error (.beyond .depth)
  | _ + 1, _, text => scalar text

/-- The items of an array up to its end.  A comma may follow the last. -/
def items : (fuel room : Nat) → Text → Except Flaw (List Value × Text)
  | 0, _, _ => .error .malformed
  | fuel + 1, room, text =>
    match skipFiller? (text.length + 1) text with
    | none => .error .malformed
    | some (']' :: rest) => .ok ([], rest)
    | some rest =>
      match value fuel room rest with
      | .error flaw => .error flaw
      | .ok (value, rest) =>
        match skipFiller? (rest.length + 1) rest with
        | some (']' :: rest) => .ok ([value], rest)
        | some (',' :: rest) =>
          (items fuel room rest).map fun (values, rest) => (value :: values, rest)
        | _ => .error .malformed

/-- The members of a table on one line, behind those already read, up to its
end. -/
def pairs : (fuel room : Nat) → Members → Text → Except Flaw (Members × Text)
  | 0, _, _, _ => .error .malformed
  | fuel + 1, room, members, text =>
    match pair fuel room text with
    | .error flaw => .error flaw
    | .ok ((path, name, value), rest) =>
      match assign path name value members with
      | none => .error .malformed
      | some members =>
        match skipSpace rest with
        | '\x7d' :: rest => .ok (members, rest)
        | ',' :: rest => pairs fuel room members (skipSpace rest)
        | _ => .error .malformed

def pair : (fuel room : Nat) → Text → Except Flaw ((List Text × Text × Value) × Text)
  | 0, _, _ => .error .malformed
  | fuel + 1, room, text =>
    match key? (text.length + 1) text with
    | some (path, name, '=' :: rest) =>
      (value fuel room (skipSpace rest)).map fun (value, rest) => ((path, name, value), rest)
    | _ => .error .malformed

end

/-! ## Documents -/

/-- The room for values that nest in a document. -/
def maxRoom : Nat := 985

def startsKey (c : Char) : Bool := isBareKeyChar c || c = '"' || c = '\''

def arrayHeader? (text : Text) : Option (Statement × Text) :=
  match key? (text.length + 1) (skipSpace text) with
  | some (path, name, ']' :: ']' :: rest) => some (.tables path name, rest)
  | _ => none

def tableHeader? (text : Text) : Option (Statement × Text) :=
  match key? (text.length + 1) (skipSpace text) with
  | some (path, name, ']' :: rest) => some (.table path name, rest)
  | _ => none

def statement : Text → Except Flaw (Statement × Text)
  | '[' :: '[' :: rest => orMalformed (arrayHeader? rest)
  | '[' :: rest => orMalformed (tableHeader? rest)
  | text =>
    (pair (text.length + 2) maxRoom text).map fun ((path, name, value), rest) =>
      (.assign path name value, rest)

/-- What follows the end of a line, behind white space and a comment. -/
def endOfLine? (text : Text) : Option Text :=
  match skipComment? (skipSpace text) with
  | some [] => some []
  | some ('\n' :: rest) => some rest
  | _ => none

def statements : (fuel : Nat) → Document → Text → Except Flaw Document
  | 0, _, _ => .error .malformed
  | fuel + 1, d, text =>
    match skipSpace text with
    | [] => .ok d
    | '\n' :: rest => statements fuel d rest
    | '#' :: rest =>
      match endOfLine? ('#' :: rest) with
      | some rest => statements fuel d rest
      | none => .error .malformed
    | c :: rest =>
      if startsKey c || c = '[' then
        match statement (c :: rest) with
        | .error flaw => .error flaw
        | .ok (statement, rest) =>
          match d.run? statement, endOfLine? rest with
          | some d, some rest => statements fuel d rest
          | _, _ => .error .malformed
      else .error .malformed

/-- A text with one line feed for each carriage return and line feed. -/
def unixNewlines : Text → Text
  | [] => []
  | '\r' :: '\n' :: text => '\n' :: unixNewlines text
  | c :: text => c :: unixNewlines text

def parse (text : Text) : Except Flaw Value :=
  let text := unixNewlines text
  (statements (text.length + 1) {} text).map fun d => .table (membersValue d.members)

end Keychart.Settings.Toml
