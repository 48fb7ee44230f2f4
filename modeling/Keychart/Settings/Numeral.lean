import Keychart.Text.Trim
import Keychart.Text.Utf8
import Keychart.Unicode.Digit

/-!
# Numerals in settings

The ways in which settings may spell a number inside a text: a hexadecimal
numeral of a colour, and a whole number as people write it.
-/

namespace Keychart.Settings

open Unicode

/-- White space around a numeral: all but the four separators of ASCII. -/
def isNumeralBlank (c : Char) : Bool :=
  isBlank c && !(0x1C ≤ c.toNat && c.toNat ≤ 0x1F)

/-- A text without the white space that may stand around a numeral. -/
def trimNumeral (text : Text) : Text :=
  Text.trimBack isNumeralBlank (Text.trimFront isNumeralBlank text)

/-- The value of a hexadecimal digit: a decimal digit of any script or a letter
of ASCII. -/
def hexDigit? (c : Char) : Option Nat :=
  if 'a' ≤ c && c ≤ 'f' then some (c.toNat - 0x57)
  else if 'A' ≤ c && c ≤ 'F' then some (c.toNat - 0x37)
  else digitValue? c

def hexDigits? : (value : Nat) → Text → Option Nat
  | value, [] => some value
  | value, c :: text =>
    match hexDigit? c with
    | some digit => hexDigits? (16 * value + digit) text
    | none => none

/-- The value of at least one digit. -/
def hexNatural? : Text → Option Nat
  | [] => none
  | text => hexDigits? 0 text

/-- The value of a hexadecimal numeral, with a sign in front of it at most. -/
def hexNumeral? (text : Text) : Option Int :=
  match trimNumeral text with
  | '-' :: digits => (hexNatural? digits).map fun n => -(n : Int)
  | '+' :: digits => (hexNatural? digits).map fun n => (n : Int)
  | digits => (hexNatural? digits).map fun n => (n : Int)

def isAsciiDigit (c : Char) : Bool := '0' ≤ c && c ≤ '9'

def decimalValue (digits : Text) : Nat :=
  digits.foldl (fun n c => 10 * n + (c.toNat - 0x30)) 0

/-- Why no whole number is read from a text. -/
inductive NumeralFault where
  | malformed
  /-- It stays too long without the parts that do not count. -/
  | tooLong
deriving DecidableEq, Repr

/-- A text without a plus sign in front.  A minus sign must not follow one. -/
def dropPlus? : Text → Option Text
  | '+' :: '-' :: _ => none
  | '+' :: text => some text
  | text => some text

/-- What counts of a text behind a nought, given the character in front of it: it
starts with a digit other than nought or a minus sign.  In front of a point and at
the end, the last of the noughts and underscores counts as well. -/
def behindZeros? : (last : Char) → Text → Option Text
  | last, [] => some [last]
  | last, c :: text =>
    if c = '0' || c = '_' then behindZeros? c text
    else if c = '.' then some (last :: c :: text)
    else if isAsciiDigit c || c = '-' then some (c :: text)
    else none

/-- A text without the noughts, and the underscores among them, in front of what
counts.  A number starts with a digit or a minus sign. -/
def dropLeadingZeros? : Text → Option Text
  | [] => none
  | c :: text =>
    if c = '0' then behindZeros? c text
    else if isAsciiDigit c || c = '-' then some (c :: text)
    else none

def dropZeroFraction (text : Text) : Text :=
  let front := text.takeWhile (· ≠ '.')
  match text.drop front.length with
  | '.' :: digit :: fraction => if (digit :: fraction).all (· = '0') then front else text
  | _ => text

/-- A text without its underscores.  Each of them must stand alone between two
other characters. -/
def dropUnderscores? (text : Text) : Option Text :=
  if text.head? = some '_' || text.getLast? = some '_' ||
      (text.zip text.tail).contains ('_', '_') then none
  else some (text.filter (· ≠ '_'))

/-- What counts of a numeral. -/
def essential? (text : Text) : Option Text := do
  let text ← dropPlus? text
  let text ← dropLeadingZeros? text
  dropUnderscores? (dropZeroFraction text)

/-- The value of digits with a minus sign in front at most. -/
def decimal? : Text → Option Int
  | '-' :: digits => (natural? digits).map fun n => -(n : Int)
  | digits => (natural? digits).map fun n => (n : Int)
where
  natural? (digits : Text) : Option Nat :=
    if digits.isEmpty || !digits.all isAsciiDigit then none else some (decimalValue digits)

/-- The greatest number of bytes that may count of a numeral. -/
def maxNumeralSize : Nat := 4300

/-- A whole number as people write it: with a sign, noughts in front, underscores
between digits, or a fraction of noughts. -/
def wholeNumber (text : Text) : Except NumeralFault Int :=
  match essential? (trimNumeral text) with
  | none => .error .malformed
  | some text =>
    if maxNumeralSize < (Text.encode text).length then .error .tooLong
    else
      match decimal? text with
      | some n => .ok n
      | none => .error .malformed

end Keychart.Settings
