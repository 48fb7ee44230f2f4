import Keychart.Key.Bindings
import Keychart.Settings.Color
import Keychart.Settings.Value

/-!
# Settings

What a settings document says, checked member by member.  Every member may be
left out, and members that nobody asks for do not count.  All faults of a
document are found, each with its place.
-/

namespace Keychart

/-- Which of the two sets of usual colours counts. -/
inductive Shade where
  | dark
  | light
deriving DecidableEq, Repr

structure Settings where
  /-- Where the annotated source is, as written. -/
  sourcePath : Text := Text.ofString "~/.xmonad/xmonad.hs"
  shade : Shade := .dark
  colors : Colors := {}
  /-- The keys given to actions, in order, by the names of the actions. -/
  keys : List (Text × KeyChoice) := []

namespace Settings

inductive Step where
  | name (name : Text)
  | item (place : Nat)
deriving DecidableEq, Repr

/-- What is wrong with a value. -/
inductive Fault where
  | notTable
  | notText
  | notShade
  | notKeyTable
  | notList
  | notParts
  | tooManyParts
  | missing
  | notNumber
  | notNumeral
  | notWhole
  | notFinite
  /-- A number of too many digits, or a float beyond 64 places. -/
  | tooLarge
  | notColor (text : Text)
deriving DecidableEq, Repr

/-- A fault and where it is. -/
structure Finding where
  place : List Step
  fault : Fault
deriving DecidableEq, Repr

/-- A value, or what is wrong with it. -/
abbrev Checked (α : Type) := Except (List Finding) α

def findings {α : Type} : Checked α → List Finding
  | .ok _ => []
  | .error found => found

def refuse {α : Type} (place : List Step) (fault : Fault) : Checked α :=
  .error [⟨place, fault⟩]

/-- All values, or all that is wrong with any of them. -/
def sequence {α : Type} : List (Checked α) → Checked (List α)
  | [] => .ok []
  | check :: rest =>
    match check, sequence rest with
    | .ok value, .ok values => .ok (value :: values)
    | check, rest => .error (findings check ++ findings rest)

/-- A part of a colour: a whole number, or what can be read as one. -/
def checkPart (place : List Step) : Value → Checked Int
  | .integer n => .ok n
  | .bool b => .ok (if b then 1 else 0)
  | .float .notANumber => refuse place .notFinite
  | .float (.infinite _) => refuse place .notFinite
  | .float d =>
    match d.toInt? with
    | some n => if n.natAbs < Number.twoPow 63 then .ok n else refuse place .tooLarge
    | none => refuse place .notWhole
  | .string text =>
    match wholeNumber text with
    | .ok n => .ok n
    | .error .malformed => refuse place .notNumeral
    | .error .tooLong => refuse place .tooLarge
  | _ => refuse place .notNumber

def checkPartAt (place : List Step) (items : List Value) (i : Nat) : Checked Int :=
  match items[i]? with
  | some value => checkPart (place ++ [.item i]) value
  | none => refuse (place ++ [.item i]) .missing

/-- A colour: none, a text that spells it, or a list of its three parts. -/
def checkColor (place : List Step) : Value → Checked ColorChoice
  | .null => .ok .none
  | .string text =>
    match Rgb.ofHex? text with
    | some color => .ok (.rgb color)
    | none => refuse place (.notColor text)
  | .list items =>
    if 3 < items.length then refuse place .tooManyParts
    else
      match sequence ([0, 1, 2].map (checkPartAt place items)) with
      | .ok [red, green, blue] => .ok (.rgb ⟨red, green, blue⟩)
      | .ok _ => refuse place .notParts
      | .error found => .error found
  | _ => refuse place .notParts

def checkColorIn (place : List Step) (members : List (Text × Value)) (name : ColorName) :
    Checked (ColorName × ColorChoice) :=
  match member? name.name members with
  | none => .ok (name, .unset)
  | some value => (checkColor (place ++ [.name name.name]) value).map fun c => (name, c)

def lookupColor (choices : List (ColorName × ColorChoice)) (name : ColorName) : ColorChoice :=
  match choices.find? fun c => c.1 = name with
  | some (_, choice) => choice
  | none => .unset

/-- The colours that a table gives. -/
def checkColors (place : List Step) : Value → Checked Colors
  | .table members =>
    (sequence (ColorName.all.map (checkColorIn place members))).map fun choices =>
      ⟨lookupColor choices⟩
  | _ => refuse place .notTable

def asText : Step := .name (Text.ofString "str")

def asList : Step := .name (Text.ofString "list[str]")

/-- The names of keys in a list, given the place of the first. -/
def checkKeyNames (place : List Step) : (i : Nat) → List Value → Checked (List Text)
  | _, [] => .ok []
  | i, value :: rest =>
    let name : Checked Text :=
      match value with
      | .string text => .ok text
      | _ => refuse (place ++ [.item i]) .notText
    match name, checkKeyNames place (i + 1) rest with
    | .ok text, .ok texts => .ok (text :: texts)
    | name, rest => .error (findings name ++ findings rest)

/-- The keys of an action: one name or a list of names.  What is neither is at
fault in both ways. -/
def checkKeys (place : List Step) : Value → Checked KeyChoice
  | .string text => .ok (.one text)
  | .list items =>
    match checkKeyNames (place ++ [asList]) 0 items with
    | .ok texts => .ok (.many texts)
    | .error found => .error (⟨place ++ [asText], .notText⟩ :: found)
  | _ => .error [⟨place ++ [asText], .notText⟩, ⟨place ++ [asList], .notList⟩]

def checkKeyTable (place : List Step) : Value → Checked (List (Text × KeyChoice))
  | .table members =>
    sequence (members.map fun (name, value) =>
      (checkKeys (place ++ [.name name]) value).map fun choice => (name, choice))
  | _ => refuse place .notKeyTable

def checkSourcePath (place : List Step) : Value → Checked Text
  | .string text => .ok text
  | _ => refuse place .notText

def checkShade (place : List Step) : Value → Checked Shade
  | .string text =>
    if text = Text.ofString "dark" then .ok .dark
    else if text = Text.ofString "light" then .ok .light
    else refuse place .notShade
  | _ => refuse place .notShade

/-- A member checked in its place, or the given value where there is none. -/
def checkMember {α : Type} (members : List (Text × Value)) (name : String) (otherwise : α)
    (check : List Step → Value → Checked α) : Checked α :=
  match member? (Text.ofString name) members with
  | none => .ok otherwise
  | some value => check [.name (Text.ofString name)] value

/-- The settings that a document gives, or all its faults in the order of the
members. -/
def ofValue : Value → Checked Settings
  | .table members =>
    let path := checkMember members "config_path" ({} : Settings).sourcePath checkSourcePath
    let shade := checkMember members "theme" Shade.dark checkShade
    let colors := checkMember members "colors" {} checkColors
    let keys := checkMember members "keybindings" [] checkKeyTable
    match path, shade, colors, keys with
    | .ok path, .ok shade, .ok colors, .ok keys => .ok ⟨path, shade, colors, keys⟩
    | path, shade, colors, keys =>
      .error (findings path ++ findings shade ++ findings colors ++ findings keys)
  | _ => refuse [] .notTable

end Settings

end Keychart
