import Keychart.Settings.Value

/-!
# Tables of TOML

How the statements of a document build up its tables.  A table can be opened by
a header, or by the names in front of the last one of a key; an opened table
takes further members, but no header opens it again.  A value that stands behind
a key is closed for good.
-/

namespace Keychart.Settings.Toml

/-- A table in the making and what stands in it. -/
inductive Node where
  | leaf (value : Value)
  /-- A table, and whether a header or an earlier part of the document has
  declared it. -/
  | table (declared : Bool) (members : List (Text × Node))
  /-- An array of tables, of which only the last can still grow. -/
  | tables (finished : List Value) (last : List (Text × Node))

abbrev Members := List (Text × Node)

namespace Members

def find? (name : Text) : Members → Option Node
  | [] => none
  | (other, node) :: rest => if other = name then some node else find? name rest

def put (name : Text) (node : Node) : Members → Members
  | [] => [(name, node)]
  | (other, old) :: rest =>
    if other = name then (name, node) :: rest else (other, old) :: put name node rest

end Members

mutual

def Node.value : Node → Value
  | .leaf value => value
  | .table _ members => .table (membersValue members)
  | .tables finished last => .list (finished ++ [.table (membersValue last)])

def membersValue : List (Text × Node) → List (Text × Value)
  | [] => []
  | (name, node) :: rest => (name, node.value) :: membersValue rest

end

/-- Changes the table at the end of a path, opening those that are missing.  Of
an array of tables it is the last. -/
def within (change : Members → Option Members) : (path : List Text) → Members → Option Members
  | [], members => change members
  | name :: path, members =>
    match Members.find? name members with
    | none => (within change path []).map fun inner => members.put name (.table false inner)
    | some (.table declared inner) =>
      (within change path inner).map fun inner => members.put name (.table declared inner)
    | some (.tables finished last) =>
      (within change path last).map fun last => members.put name (.tables finished last)
    | some (.leaf _) => none

def declareTable (name : Text) (members : Members) : Option Members :=
  match Members.find? name members with
  | none => some (members.put name (.table true []))
  | some (.table false inner) => some (members.put name (.table true inner))
  | some _ => none

def appendTable (name : Text) (members : Members) : Option Members :=
  match Members.find? name members with
  | none => some (members.put name (.tables [] []))
  | some (.tables finished last) =>
    some (members.put name (.tables (finished ++ [.table (membersValue last)]) []))
  | some _ => none

def addValue (name : Text) (value : Value) (members : Members) : Option Members :=
  match Members.find? name members with
  | none => some (members.put name (.leaf value))
  | some _ => none

def assign (path : List Text) (name : Text) (value : Value) (members : Members) :
    Option Members :=
  within (addValue name value) path members

/-- Whether a header has declared the node at the end of a path. -/
def isDeclared : (path : List Text) → Members → Bool
  | [], _ => false
  | name :: path, members =>
    match Members.find? name members with
    | some (.table declared inner) => if path.isEmpty then declared else isDeclared path inner
    | some (.tables _ last) => if path.isEmpty then true else isDeclared path last
    | _ => false

def declarePath : (path : List Text) → Members → Members
  | [], members => members
  | name :: path, members =>
    match Members.find? name members with
    | some (.table declared inner) =>
      members.put name (.table (declared || path.isEmpty) (declarePath path inner))
    | some (.tables finished last) => members.put name (.tables finished (declarePath path last))
    | _ => members

/-- The tables so far. -/
structure Document where
  members : Members := []
  /-- The path of the header that the next keys stand under. -/
  header : List Text := []
  /-- The paths that keys opened since the last header. -/
  opened : List (List Text) := []

inductive Statement where
  /-- The header of a table. -/
  | table (path : List Text) (name : Text)
  /-- The header of one more table in an array. -/
  | tables (path : List Text) (name : Text)
  /-- A key and its value. -/
  | assign (path : List Text) (name : Text) (value : Value)

namespace Document

/-- The paths from the header into the tables in front of the last name of a
key. -/
def keyPaths (header path : List Text) : List (List Text) :=
  (List.range path.length).map fun i => header ++ path.take (i + 1)

/-- Ends the part under a header: what its keys opened is declared. -/
def endPart (d : Document) : Document :=
  { d with members := d.opened.foldl (fun m path => declarePath path m) d.members, opened := [] }

def run? (d : Document) : Statement → Option Document
  | .table path name =>
    let d := d.endPart
    (within (declareTable name) path d.members).map fun members =>
      { d with members := members, header := path ++ [name] }
  | .tables path name =>
    let d := d.endPart
    (within (appendTable name) path d.members).map fun members =>
      { d with members := members, header := path ++ [name] }
  | .assign path name value =>
    let paths := keyPaths d.header path
    if paths.any fun p => isDeclared p d.members then none
    else
      (Toml.assign (d.header ++ path) name value d.members).map fun members =>
        { d with members := members, opened := d.opened ++ paths }

end Document

end Keychart.Settings.Toml
