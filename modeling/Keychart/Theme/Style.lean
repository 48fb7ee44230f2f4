import Keychart.Text.Basic

/-!
# Styles

A style is what stands in front of a text and behind it.
-/

namespace Keychart

/-- What is written around a text. -/
structure Style where
  front : Text := []
  back : Text := []
deriving DecidableEq, Repr

namespace Style

def plain : Style := {}

def apply (style : Style) (text : Text) : Text := style.front ++ text ++ style.back

def within (inner outer : Style) : Style :=
  ⟨outer.front ++ inner.front, inner.back ++ outer.back⟩

end Style

/-- The styles of all parts of the viewer. -/
structure Theme where
  title : Style := .plain
  heading : Style := .plain
  keys : Style := .plain
  description : Style := .plain
  comment : Style := .plain
  highlight : Style := .plain
  scrollInfo : Style := .plain
  noMatch : Style := .plain
  status : Style := .plain
  error : Style := .plain
  prompt : Style := .plain
  background : Style := .plain
deriving DecidableEq, Repr

def Theme.plain : Theme := {}

end Keychart
