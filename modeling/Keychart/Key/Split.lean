import Keychart.Text.Basic

/-!
# Splitting terminal input

One read from a terminal may hold several keys.  It is cut into sequences that
stand for one key each; a bracketed paste stays in one piece, with its marks.
-/

namespace Keychart.Text

/-- Cuts a text into pieces.  `next` gives the length of the piece at the front
of a text, nought counting as one; `left` is how much of the open piece is still
to come. -/
def cutFrom (next : Text → Nat) : (left : Nat) → Text → List Text
  | _, [] => []
  | left, c :: text =>
    match (if left = 0 then next (c :: text) else left) - 1 with
    | 0 => [c] :: cutFrom next 0 text
    | rest + 1 =>
      match cutFrom next (rest + 1) text with
      | [] => [[c]]
      | piece :: pieces => (c :: piece) :: pieces

/-- Cuts a text into pieces whose lengths `next` gives. -/
def cutBy (next : Text → Nat) (text : Text) : List Text := cutFrom next 0 text

end Keychart.Text

namespace Keychart.Key

def pasteStart : Text := Text.ofString "\x1b[200~"

def pasteEnd : Text := Text.ofString "\x1b[201~"

theorem length_pasteStart : pasteStart.length = 6 := by decide

theorem length_pasteEnd : pasteEnd.length = 6 := by decide

def isParameter (c : Char) : Bool := ('0' ≤ c && c ≤ '9') || c = ';' || c = '?'

/-- A character between the parameters and the end of a control sequence. -/
def isIntermediate (c : Char) : Bool := ' ' ≤ c && c ≤ '/'

def isFinal (c : Char) : Bool := '@' ≤ c && c ≤ '~'

/-- The length of a control sequence behind its bracket, if it is complete. -/
def controlLength? (text : Text) : Option Nat :=
  let parameters := text.takeWhile isParameter
  let rest := text.drop parameters.length
  let intermediates := rest.takeWhile isIntermediate
  match rest.drop intermediates.length with
  | c :: _ =>
    if isFinal c then some (parameters.length + intermediates.length + 1) else none
  | [] => none

/-- The length of a sequence that starts with an escape, given what follows it:
a complete control sequence, a single shift with its character, the character
with alt, or the escape alone. -/
def escapedLength : Text → Nat
  | [] => 1
  | '\x1b' :: _ => 1
  | '[' :: rest =>
    match controlLength? rest with
    | some n => n + 2
    | none => 2
  | 'O' :: c :: _ => if c = '\n' then 2 else 3
  | _ => 2

def itemLength : Text → Nat
  | [] => 0
  | c :: text =>
    match Text.dropMark? pasteStart (c :: text) with
    | some _ =>
      match Text.splitAtMark? pasteEnd (c :: text) with
      | some (before, _) => before.length + pasteEnd.length
      | none => text.length + 1
    | none => if c = '\x1b' then escapedLength text else 1

def splitInput (data : Text) : List Text := Text.cutBy itemLength data

end Keychart.Key
