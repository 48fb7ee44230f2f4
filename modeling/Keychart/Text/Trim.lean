import Keychart.Text.Basic
import Keychart.Unicode.Blank

/-!
# Trimming

Texts without the white space at their ends.
-/

namespace Keychart.Text

open Unicode

def trimStart (text : Text) : Text := trimFront isBlank text

def trimEnd (text : Text) : Text := trimBack isBlank text

def trim (text : Text) : Text := trimEnd (trimStart text)

end Keychart.Text
