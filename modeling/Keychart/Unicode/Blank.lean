import Keychart.Unicode.Range

/-!
# White space

The characters that count as white space when texts are trimmed.
-/

namespace Keychart.Unicode

/-- The white space of ASCII: tab to carriage return, the four separators and
the space. -/
def isAsciiBlank (code : Nat) : Bool :=
  (0x09 ≤ code && code ≤ 0x0D) || (0x1C ≤ code && code ≤ 0x20)

def blankRanges : List (Nat × Nat) :=
   [(0x85, 0x85), (0xA0, 0xA0), (0x1680, 0x1680), (0x2000, 0x200A), (0x2028, 0x2029),
    (0x202F, 0x202F), (0x205F, 0x205F), (0x3000, 0x3000)]

def isBlank (c : Char) : Bool :=
  if c.toNat < 0x80 then isAsciiBlank c.toNat else inRanges blankRanges c.toNat

end Keychart.Unicode
