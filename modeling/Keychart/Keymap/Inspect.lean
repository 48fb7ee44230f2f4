import Keychart.Keymap.Basic
import Keychart.Text.Quoted

/-!
# Inspecting keybinds

The form in which log records show a keybind: all its fields by name.
-/

namespace Keychart

def inspectBool (b : Bool) : Text := Text.ofString (if b then "True" else "False")

def inspectOption : Option Text → Text
  | some text => Text.quoted text
  | none => Text.ofString "None"

def Keybind.inspect (keybind : Keybind) : Text :=
  Text.ofString "Keybind(keys=" ++ Text.quoted keybind.keys ++
    Text.ofString ", description=" ++ Text.quoted keybind.description ++
    Text.ofString ", is_fake=" ++ inspectBool keybind.isFake ++
    Text.ofString ", is_ignored=" ++ inspectBool keybind.isIgnored ++
    Text.ofString ", action=" ++ Text.quoted keybind.action ++
    Text.ofString ", section=" ++ inspectOption keybind.sectionName ++ [')']

end Keychart
