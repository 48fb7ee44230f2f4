import Keychart.Settings.Load

/-!
# Describing faults

What is wrong with a settings file, in words and with its place.
-/

namespace Keychart.Settings

def Fault.message : Fault → Text
  | .notTable => Text.ofString "not a table"
  | .notText => Text.ofString "not a string"
  | .notShade => Text.ofString "neither 'dark' nor 'light'"
  | .notKeyTable => Text.ofString "not a table of keys"
  | .notList => Text.ofString "not a list"
  | .notParts => Text.ofString "neither a string nor a list of three numbers"
  | .tooManyParts => Text.ofString "more than three numbers"
  | .missing => Text.ofString "missing"
  | .notNumber => Text.ofString "not a whole number"
  | .notNumeral => Text.ofString "no whole number can be read from it"
  | .notWhole => Text.ofString "has a fraction"
  | .notFinite => Text.ofString "not finite"
  | .tooLarge => Text.ofString "too large"
  | .notColor text => Rgb.refusal text

def Step.text : Step → Text
  | .name member => member
  | .item place => Text.ofNat place

def Finding.message (found : Finding) : Text :=
  Text.join ['.'] (found.place.map Step.text) ++ [':', ' '] ++ found.fault.message

def Refusal.detail : Refusal → Text
  | .unreadable path failure => failure.message path
  | .notToml => Text.ofString "not a TOML document"
  | .faulty found => Text.join [';', ' '] (found.map Finding.message)

def Toml.Limit.message : Toml.Limit → Text
  | .digits count =>
    Text.ofString "a number of " ++ Text.ofNat count ++ Text.ofString " digits is too long"
  | .depth => Text.ofString "values nest too deep"

end Keychart.Settings
