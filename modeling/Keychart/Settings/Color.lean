import Keychart.Settings.Numeral

/-!
# Colours

A colour has three parts.  Settings name the colours of the viewer, and each is
not given, given as none, or given by its parts.
-/

namespace Keychart

/-- A colour by its parts.  Nothing limits them. -/
structure Rgb where
  red : Int
  green : Int
  blue : Int
deriving DecidableEq, Repr

namespace Rgb

/-- The colour that six hexadecimal places spell, behind a number sign or not.
Up to two places more may follow; they must be a numeral too and do not count. -/
def ofHex? (text : Text) : Option Rgb :=
  let digits :=
    match text with
    | '#' :: rest => rest
    | _ => text
  if digits.length < 6 || 8 < digits.length then none
  else
    let part (i : Nat) : Option Int := Settings.hexNumeral? ((digits.drop i).take 2)
    match part 0, part 2, part 4 with
    | some red, some green, some blue =>
      if 6 < digits.length && (part 6).isNone then none else some ⟨red, green, blue⟩
    | _, _, _ => none

def refusal (text : Text) : Text := Text.ofString "Failed to parse color value " ++ text

end Rgb

inductive ColorName where
  | fg
  | bg
  | title
  | heading
  | keys
  | comment
  | scrollbar
  | error
deriving DecidableEq, Repr

namespace ColorName

def all : List ColorName := [fg, bg, title, heading, keys, comment, scrollbar, error]

def name : ColorName → Text
  | fg => Text.ofString "fg"
  | bg => Text.ofString "bg"
  | title => Text.ofString "title"
  | heading => Text.ofString "section"
  | keys => Text.ofString "keybind"
  | comment => Text.ofString "comment"
  | scrollbar => Text.ofString "scrollbar"
  | error => Text.ofString "error"

/-- The colour that counts when settings give none. -/
def usual : ColorName → Option Rgb
  | fg => some ⟨0xBD, 0xAE, 0x9D⟩
  | bg => some ⟨0x2A, 0x21, 0x1C⟩
  | keys => some ⟨0xC5, 0x65, 0x6B⟩
  | scrollbar => some ⟨0x7F, 0x4A, 0x2B⟩
  | error => some ⟨0xE5, 0x39, 0x35⟩
  | title | heading | comment => none

/-- The colour that counts in its place on a light screen. -/
def usualLight : ColorName → Option Rgb
  | fg => some ⟨0x3B, 0x2F, 0x27⟩
  | bg => some ⟨0xF5, 0xEF, 0xE6⟩
  | keys => some ⟨0xA2, 0x3B, 0x43⟩
  | scrollbar => some ⟨0xB0, 0x7A, 0x4F⟩
  | error => some ⟨0xC6, 0x28, 0x28⟩
  | title | heading | comment => none

end ColorName

/-- What settings say of one colour: nothing, that there is none, or its parts. -/
inductive ColorChoice where
  | unset
  | none
  | rgb (color : Rgb)
deriving DecidableEq, Repr

/-- What settings say of each colour. -/
structure Colors where
  choice : ColorName → ColorChoice := fun _ => .unset

namespace Colors

def get (colors : Colors) (otherwise : ColorName → Option Rgb) (name : ColorName) :
    Option Rgb :=
  match colors.choice name with
  | .unset => otherwise name
  | .none => Option.none
  | .rgb color => some color

/-- The colours that settings speak of. -/
def given (colors : Colors) : List ColorName :=
  ColorName.all.filter fun name => colors.choice name ≠ .unset

end Colors

end Keychart
