import Keychart.Text.Basic
import Keychart.Unicode.Case

/-!
# Names of keys

A key is named by its modifiers and its base, joined by plus signs, such as
`ctrl+a` or `shift+alt+x`.  A name has one normal form: the modifiers in a fixed
order, each once, and a small letter behind them.
-/

namespace Keychart.Key

open Unicode

structure Modifiers where
  ctrl : Bool := false
  shift : Bool := false
  alt : Bool := false
deriving DecidableEq, Repr

namespace Modifiers

def none : Modifiers := {}

def ctrlName : Text := Text.ofString "ctrl"
def shiftName : Text := Text.ofString "shift"
def altName : Text := Text.ofString "alt"

def names (m : Modifiers) : List Text :=
  (if m.ctrl then [ctrlName] else []) ++ (if m.shift then [shiftName] else []) ++
    (if m.alt then [altName] else [])

/-- The modifiers among some words, capitals or not; other words are left out. -/
def ofWords (words : List Text) : Modifiers :=
  let small := words.map fun word => word.flatMap lower
  ⟨small.contains ctrlName, small.contains shiftName, small.contains altName⟩

/-- The modifiers that a control sequence gives by a number: one more than the
sum of 1 for shift, 2 for alt and 4 for ctrl.  Nought gives all of them. -/
def ofParameter (n : Nat) : Modifiers :=
  match n with
  | 0 => ⟨true, true, true⟩
  | bits + 1 => ⟨bits / 4 % 2 = 1, bits % 2 = 1, bits / 2 % 2 = 1⟩

end Modifiers

def named (m : Modifiers) (base : Text) : Text := Text.join ['+'] (m.names ++ [base])

/-- The words of a name in front of its base, and the base.  A plus sign at the
end is the base itself when it stands alone or behind another. -/
def parts (name : Text) : List Text × Text :=
  let doubled := match name.reverse with
    | '+' :: '+' :: _ => true
    | _ => false
  if name = ['+'] then ([], ['+'])
  else if doubled then (Text.splitOnChar '+' name.dropLast, ['+'])
  else
    let words := Text.splitOnChar '+' name
    (words.dropLast, words.getLast?.getD [])

/-- The normal form of a name.  A base of one character is made small when a
modifier is held. -/
def normalize (name : Text) : Text :=
  let (words, base) := parts name
  let m := Modifiers.ofWords words
  match base with
  | [c] => if m = Modifiers.none then [c] else named m (lower c)
  | _ => named m base

def withModifier (modifier key : Text) : Text := modifier ++ '+' :: key

def ctrl (key : Text) : Text := withModifier Modifiers.ctrlName key
def alt (key : Text) : Text := withModifier Modifiers.altName key
def shift (key : Text) : Text := withModifier Modifiers.shiftName key

def escape : Text := Text.ofString "escape"
def enter : Text := Text.ofString "enter"
def tab : Text := Text.ofString "tab"
def space : Text := Text.ofString "space"
def backspace : Text := Text.ofString "backspace"
def insert : Text := Text.ofString "insert"
def delete : Text := Text.ofString "delete"
def home : Text := Text.ofString "home"
def endKey : Text := Text.ofString "end"
def pageUp : Text := Text.ofString "pageUp"
def pageDown : Text := Text.ofString "pageDown"
def up : Text := Text.ofString "up"
def down : Text := Text.ofString "down"
def left : Text := Text.ofString "left"
def right : Text := Text.ofString "right"

end Keychart.Key
