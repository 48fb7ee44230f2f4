import Keychart.Text.Basic

/-!
# Paths

A path is its names, behind a root or not.  Repeated slashes and the name of the
current directory do not count; the name of the parent directory does.
-/

namespace Keychart

/-- Where a path starts.  Exactly two slashes are a root of their own. -/
inductive Root where
  | relative
  | absolute
  | doubled
deriving DecidableEq, Repr

structure Path where
  root : Root := .relative
  names : List Text := []
deriving DecidableEq, Repr

namespace Path

def rootOf (text : Text) : Root :=
  match (text.takeWhile (· = '/')).length with
  | 0 => .relative
  | 2 => .doubled
  | _ => .absolute

def ofText (text : Text) : Path where
  root := rootOf text
  names := (Text.splitOnChar '/' text).filter fun name => name ≠ [] && name ≠ ['.']

def rootText : Root → Text
  | .relative => []
  | .absolute => ['/']
  | .doubled => ['/', '/']

/-- The path as a text; a path without names is the current directory. -/
def toText (p : Path) : Text :=
  match p.root, p.names with
  | .relative, [] => ['.']
  | root, names => rootText root ++ Text.join ['/'] names

def append (p : Path) (names : List Text) : Path := { p with names := p.names ++ names }

def parent (p : Path) : Path := { p with names := p.names.dropLast }

/-- One more name behind names that are given last first.  The parent directory
takes the name before it away. -/
def collapseStep (root : Root) (back : List Text) (name : Text) : List Text :=
  if name = ['.', '.'] then
    match back with
    | [] => if root = .relative then [name] else []
    | last :: rest => if last = name then name :: back else rest
  else name :: back

/-- The path without the ways up that can be told from its names. -/
def collapse (p : Path) : Path :=
  { p with names := (p.names.foldl (collapseStep p.root) []).reverse }

/-- Whether no file has such a name. -/
def isUnnameable (p : Path) : Bool := p.toText.contains '\x00'

end Path

abbrev Environment := List (Text × Text)

namespace Environment

/-- The value of a variable; the last one given counts. -/
def get? (env : Environment) (name : Text) : Option Text :=
  (env.reverse.find? fun v => v.1 = name).map Prod.snd

/-- The variables in a block of names and values, each with an equals sign between
and a null character behind. -/
def ofBlock (block : Text) : Environment :=
  (Text.splitOnChar '\x00' block).filterMap fun entry =>
    let name := entry.takeWhile (· ≠ '=')
    match entry.drop name.length with
    | [] => none
    | _ :: value => some (name, value)

/-- The value of a variable that is set to something. -/
def nonempty? (env : Environment) (name : Text) : Option Text :=
  (env.get? name).filter fun value => !value.isEmpty

end Environment

namespace Path

/-- Whether a character may stand in the name of a variable without braces. -/
def isNameChar (c : Char) : Bool := (c.isAlphanum && c.toNat < 0x80) || c = '_'

/-- The name of a variable behind a dollar sign, and the number of characters it
takes there. -/
def reference? (text : Text) : Option (Text × Nat) :=
  match text with
  | '\x7b' :: rest =>
    let name := rest.takeWhile (· ≠ '\x7d')
    if name.length < rest.length then some (name, name.length + 2) else none
  | _ =>
    let name := text.takeWhile isNameChar
    if name.isEmpty then none else some (name, name.length)

/-- The text with the values of the variables it names, where the next `skip`
characters are dealt with already.  A reference to a variable that is not set
stays as it is, and neither it nor a value is searched for variables. -/
def expandFrom (env : Environment) : (skip : Nat) → Text → Text
  | _, [] => []
  | skip + 1, _ :: text => expandFrom env skip text
  | 0, c :: text =>
    if c = '$' then
      match reference? text with
      | some (name, length) =>
        (env.get? name).getD (c :: text.take length) ++ expandFrom env length text
      | none => c :: expandFrom env 0 text
    else c :: expandFrom env 0 text

def expandVariables (env : Environment) (text : Text) : Text := expandFrom env 0 text

def homeText (env : Environment) : Text :=
  let home := Text.trimBack (· = '/') ((env.get? (Text.ofString "HOME")).getD [])
  if home.isEmpty then ['/'] else home

/-- The home directory, unless it is not known. -/
def home? (env : Environment) : Option Path :=
  match homeText env with
  | '~' :: _ => none
  | text => some (ofText text)

/-- The home directories of users by their names. -/
abbrev Homes := List (Text × Text)

/-- The home directories in a list of users, which has a line of seven parts for each. -/
def homesOf (users : Text) : Homes :=
  (Text.splitOnChar '\n' users).filterMap fun line =>
    match Text.splitOnChar ':' line with
    | [name, _, _, _, _, home, _] => some (name, home)
    | _ => none

/-- The path with a home directory in place of a tilde at its start, which may be
that of a user whose name stands behind the tilde. -/
def expandHome? (env : Environment) (homes : Homes) (p : Path) : Option Path :=
  match p.root, p.names with
  | .relative, ['~'] :: names => (home? env).map fun home => home.append names
  | .relative, ('~' :: user) :: names =>
    (homes.find? fun home => home.1 = user).map fun home => (ofText home.2).append names
  | _, _ => some p

end Path

end Keychart
