import Keychart.Settings.Basic
import Keychart.Theme.Style

/-!
# Themes from colours

The styles that the colours of the settings make.  Each style ends what it
began, so that styles can stand inside one another.
-/

namespace Keychart

namespace Style

def parts (color : Rgb) : Text :=
  Text.ofInt color.red ++ ';' :: Text.ofInt color.green ++ ';' :: Text.ofInt color.blue

/-- The greatest number of digits of a number that can be written. -/
def maxDigits : Nat := 4300

def isWritable (color : Rgb) : Bool :=
  [color.red, color.green, color.blue].all fun part =>
    (Text.ofNat part.natAbs).length ≤ maxDigits

def foreground : Option Rgb → Style
  | none => plain
  | some color =>
    ⟨Text.ofString "\x1b[38;2;" ++ parts color ++ ['m'], Text.ofString "\x1b[39m"⟩

def background : Option Rgb → Style
  | none => plain
  | some color =>
    ⟨Text.ofString "\x1b[48;2;" ++ parts color ++ ['m'], Text.ofString "\x1b[49m"⟩

def bold : Style := ⟨Text.ofString "\x1b[1m", Text.ofString "\x1b[22m"⟩

def boldForeground (color : Option Rgb) : Style := (foreground color).within bold

def emphasis : Style := ⟨Text.ofString "\x1b[1;4m", Text.ofString "\x1b[22;24m"⟩

end Style

namespace Theme

/-- The colour that counts for a shade when settings give none.  A light shade falls back
on the dark one. -/
def usual : Shade → ColorName → Option Rgb
  | .dark, name => name.usual
  | .light, name => name.usualLight.or name.usual

/-- The theme that colours make.  What settings do not give is taken from the
usual colours of the shade. -/
def ofColors (colors : Colors) (shade : Shade) : Theme :=
  let color := colors.get (usual shade)
  { title := .boldForeground ((color .title).or (color .keys))
    heading := .boldForeground ((color .heading).or (color .fg))
    keys := .foreground (color .keys)
    description := .foreground (color .fg)
    comment := .foreground ((color .comment).or (color .scrollbar))
    highlight := .emphasis
    scrollInfo := .foreground (color .scrollbar)
    noMatch := .foreground ((color .comment).or (color .scrollbar))
    status := .foreground (color .scrollbar)
    error := .boldForeground (color .error)
    prompt := .boldForeground (color .keys)
    background := .background (color .bg) }

def isWritable (colors : Colors) : Bool :=
  ColorName.all.all fun name =>
    match colors.choice name with
    | .rgb color => Style.isWritable color
    | _ => true

/-- The theme that colours make, if they can be written. -/
def ofColors? (colors : Colors) (shade : Shade) : Option Theme :=
  if isWritable colors then some (ofColors colors shade) else none

def ofSettings? (settings : Settings) : Option Theme :=
  ofColors? settings.colors settings.shade

end Theme

end Keychart
