import Keychart.Number.Total
import Keychart.Text.Cluster
import Keychart.Text.Escape
import Keychart.Unicode.Columns
import Keychart.Unicode.Printable

/-!
# Widths

How many terminal columns a text takes.  Escape sequences take none, a tab takes
three, and a cluster takes what its characters make of it.
-/

namespace Keychart.Text

open Unicode

/-- A character that makes its cluster a picture of two columns: the picture
selector, the joiner, a skin tone or a regional letter. -/
def widensCluster (c : Char) : Bool :=
  let code := c.toNat
  code = 0xFE0F || code = 0x200D || (0x1F3FB ≤ code && code ≤ 0x1F3FF) ||
    (0x1F1E6 ≤ code && code ≤ 0x1F1FF)

def clusterWidth : Text → Nat
  | [] => 0
  | [c] => columns c
  | c :: rest =>
    if (c :: rest).any widensCluster then 2
    else if 0x1F000 ≤ c.toNat then 2
    else if isLeadingMark c then 0
    else columns c

def tabWidth : Nat := 3

def expandTabs (text : Text) : Text :=
  text.flatMap fun c => if c = '\t' then spaces tabWidth else [c]

/-- What is measured of a text: no escape sequences, and no tabs. -/
def measured (text : Text) : Text := expandTabs (stripEscapes text)

def isPlainAscii (text : Text) : Bool :=
  text.all fun c => c.toNat < 0x80 && isPrintable c

def clustersWidth (text : Text) : Nat := Number.total ((clusters text).map clusterWidth)

/-- The columns of a measured text.  Printable ASCII takes one column for each
character, so it need not be cut into clusters. -/
def measuredWidth (text : Text) : Nat :=
  if isPlainAscii text then text.length else clustersWidth text

def visibleWidth (text : Text) : Nat := measuredWidth (measured text)

end Keychart.Text
