import Keychart.Text.Basic

/-!
# Escape sequences

The sequences in a text that style it or place the cursor and take no column:
control sequences that end in one of `m`, `G`, `K`, `H` and `J`, and application
commands.
-/

namespace Keychart.Text

def escapeChar : Char := '\x1b'

/-- A character of the parameters of a control sequence. -/
def isParameter (c : Char) : Bool := ('0' ≤ c && c ≤ '9') || c = ';'

/-- A character that ends a styling or placing control sequence. -/
def isStyleFinal (c : Char) : Bool := c = 'm' || c = 'G' || c = 'K' || c = 'H' || c = 'J'

/-- The length of the escape sequence at the front of a text, or nought. -/
def escapeLength : Text → Nat
  | '\x1b' :: '[' :: rest =>
    match rest.dropWhile isParameter with
    | [] => 0
    | c :: _ => if isStyleFinal c then (rest.takeWhile isParameter).length + 3 else 0
  | '\x1b' :: '_' :: rest =>
    let body := rest.takeWhile fun c => c ≠ '\x07' && c ≠ '\x1b'
    match rest.drop body.length with
    | '\x07' :: _ => body.length + 3
    | '\x1b' :: '\\' :: _ => body.length + 4
    | _ => 0
  | _ => 0

/-- A run of a text: an escape sequence, or what stands between two. -/
inductive Piece where
  | plain (text : Text)
  | escape (code : Text)
deriving DecidableEq, Repr

/-- Puts a character in front of a plain run. -/
def consPlain (c : Char) : List Piece → List Piece
  | .plain text :: pieces => .plain (c :: text) :: pieces
  | pieces => .plain [c] :: pieces

/-- Puts a character in front of an escape sequence that has begun. -/
def consEscape (c : Char) : List Piece → List Piece
  | .escape code :: pieces => .escape (c :: code) :: pieces
  | pieces => .escape [c] :: pieces

/-- The runs of a text whose first `open` characters are the rest of an escape
sequence. -/
def piecesFrom : (inEscape : Nat) → Text → List Piece
  | _, [] => []
  | 0, c :: text =>
    match escapeLength (c :: text) with
    | 0 => consPlain c (piecesFrom 0 text)
    | 1 => .escape [c] :: piecesFrom 0 text
    | n + 2 => consEscape c (piecesFrom (n + 1) text)
  | 1, c :: text => .escape [c] :: piecesFrom 0 text
  | n + 2, c :: text => consEscape c (piecesFrom (n + 1) text)

def pieces (text : Text) : List Piece := piecesFrom 0 text

/-- The text without the next `inEscape` characters and without escape
sequences. -/
def stripFrom : (inEscape : Nat) → Text → Text
  | _, [] => []
  | 0, c :: text =>
    match escapeLength (c :: text) with
    | 0 => c :: stripFrom 0 text
    | n + 1 => stripFrom n text
  | n + 1, _ :: text => stripFrom n text

def stripEscapes (text : Text) : Text := stripFrom 0 text

end Keychart.Text
