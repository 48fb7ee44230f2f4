import Keychart.Files.Read

/-!
# Files held in memory

A tree of directories and files by their names, and how a path is looked up in
it.  Paths are relative to the top of the tree, unless they start at the root, which
is a tree of its own.
-/

namespace Keychart

/-- A file or a directory. -/
inductive Tree where
  | file (bytes : List UInt8)
  | directory (entries : List (Text × Tree))

namespace Tree

def child? (name : Text) : List (Text × Tree) → Option Tree
  | [] => none
  | (other, tree) :: rest => if other = name then some tree else child? name rest

def putEntry (name : Text) (tree : Tree) : List (Text × Tree) → List (Text × Tree)
  | [] => [(name, tree)]
  | (other, old) :: rest =>
    if other = name then (name, tree) :: rest else (other, old) :: putEntry name tree rest

def maxNameLength : Nat := 255

def maxPathLength : Nat := 4095

/-- What a list of names leads to, from the directories on the way, the nearest
first.  The way up from the top leads to an empty directory. -/
def find (parents : List Tree) (here : Tree) : List Text → Except ReadFailure Tree
  | [] => .ok here
  | name :: names =>
    match here with
    | .file _ => .error .notDirectory
    | .directory entries =>
      if name = ['.', '.'] then
        match parents with
        | [] => find [] (.directory []) names
        | parent :: parents => find parents parent names
      else if maxNameLength < (Text.encode name).length then .error .nameTooLong
      else
        match child? name entries with
        | none => .error .notFound
        | some tree => find (here :: parents) tree names

/-- What a path leads to.  An absolute one starts at the root. -/
def lookup (tree : Tree) (path : Path) (root : Tree := .directory []) :
    Except ReadFailure Tree :=
  if path.isUnnameable then .error .unnameable
  else if maxPathLength < (Text.encode path.toText).length then .error .nameTooLong
  else
    match path.root with
    | .relative => find [] tree path.names
    | _ => find [] root path.names

def read (tree : Tree) (path : Path) (root : Tree := .directory []) : Bytes :=
  match tree.lookup path root with
  | .error failure => .error failure
  | .ok (.directory _) => .error .isDirectory
  | .ok (.file bytes) => .ok bytes

/-- Why a file cannot be written, if it cannot.  One that is missing is made when its
directory is there. -/
def writeFailure? (tree : Tree) (path : Path) (root : Tree := .directory []) :
    Option ReadFailure :=
  match tree.lookup path root with
  | .ok (.directory _) => some .isDirectory
  | .ok (.file _) => none
  | .error .notFound =>
    match tree.lookup path.parent root with
    | .ok (.directory _) => none
    | .ok (.file _) => some .notDirectory
    | .error failure => some failure
  | .error failure => some failure

/-- The tree with another one at the end of some names; missing directories are
made. -/
def put (tree : Tree) : List Text → Tree → Tree
  | [], new => new
  | name :: names, new =>
    let entries := match tree with
      | .directory entries => entries
      | .file _ => []
    let old := (child? name entries).getD (.directory [])
    .directory (putEntry name (old.put names new) entries)

/-- The tree without the entry at the end of some names. -/
def erase (tree : Tree) : List Text → Tree
  | [] => tree
  | [name] =>
    match tree with
    | .directory entries => .directory (entries.filter fun e => e.1 ≠ name)
    | .file _ => tree
  | name :: names =>
    match tree with
    | .directory entries =>
      match child? name entries with
      | some inner => .directory (putEntry name (inner.erase names) entries)
      | none => tree
    | .file _ => tree

end Tree

end Keychart
