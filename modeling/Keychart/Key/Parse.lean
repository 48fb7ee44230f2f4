import Keychart.Key.Name
import Keychart.Unicode.Digit
import Keychart.Unicode.Printable

/-!
# Keys from terminal input

What key a sequence of characters from the terminal stands for: a control
sequence, with or without modifiers, a control character, a character behind an
escape for alt, or a printable character for itself.
-/

namespace Keychart.Key

open Unicode

/-- The keys that a control sequence names by its last letter. -/
def letterKey? (c : Char) : Option Text :=
  if c = 'A' then some up
  else if c = 'B' then some down
  else if c = 'C' then some right
  else if c = 'D' then some left
  else if c = 'H' then some home
  else if c = 'F' then some endKey
  else none

/-- The keys that a control sequence names by a digit. -/
def digitKey? (c : Char) : Option Text :=
  if c = '1' then some home
  else if c = '2' then some insert
  else if c = '3' then some delete
  else if c = '4' then some endKey
  else if c = '5' then some pageUp
  else if c = '6' then some pageDown
  else none

/-- The digits that name a key without modifiers: two more than with them. -/
def plainDigitKey? (c : Char) : Option Text :=
  if c = '7' then some home
  else if c = '8' then some endKey
  else digitKey? c

/-- The number at the front of a text, in the digits of any script, and the
rest behind it. -/
def number? (text : Text) : Option (Nat × Text) :=
  let digits := text.takeWhile isDigit
  if digits.isEmpty then none
  else
    some
      (digits.foldl (fun n c => 10 * n + (digitValue? c).getD 0) 0,
       text.drop digits.length)

/-- Whether nothing follows but one line feed at most. -/
def atEnd (text : Text) : Bool := text = [] || text = ['\n']

def modifiedKey (parameter : Nat) (base : Text) : Text :=
  named (.ofParameter parameter) base

def modifiedLetter? (text : Text) : Option Text :=
  match number? text with
  | some (parameter, c :: rest) =>
    if atEnd rest then (letterKey? c).map (modifiedKey parameter) else none
  | _ => none

/-- The key of a digit, given the modifier number and the tilde behind it. -/
def modifiedDigit? (digit : Char) (text : Text) : Option Text :=
  match number? text with
  | some (parameter, '~' :: rest) =>
    if atEnd rest then (digitKey? digit).map (modifiedKey parameter) else none
  | _ => none

def controlSequence? : Text → Option Text
  | [] => none
  | [c] => if c = 'Z' then some (shift tab) else letterKey? c
  | digit :: mark :: rest =>
    if mark = ';' then
      match (if digit = '1' then modifiedLetter? rest else none) with
      | some key => some key
      | none => modifiedDigit? digit rest
    else if mark = '~' && rest.isEmpty then plainDigitKey? digit
    else none

/-- The small letter of a control character from 1 to 26. -/
def controlLetter? (c : Char) : Option Char :=
  if 1 ≤ c.toNat && c.toNat ≤ 26 then some (Char.ofNat (c.toNat + 0x60)) else none

def isEnter (c : Char) : Bool := c = '\r' || c = '\n'

def isBackspace (c : Char) : Bool := c = '\x7f' || c = '\x08'

def character? (c : Char) : Option Text :=
  if c = '\x1b' then some escape
  else if isEnter c then some enter
  else if c = '\t' then some tab
  else if c = ' ' then some space
  else if isBackspace c then some backspace
  else if c = '\x00' then some (ctrl space)
  else if c = '\x1f' then some (ctrl ['-'])
  else
    match controlLetter? c with
    | some letter => some (ctrl [letter])
    | none => if isPrintable c then some [c] else none

def escaped? (c : Char) : Option Text :=
  if isEnter c then some (alt enter)
  else if isBackspace c then some (alt backspace)
  else
    match controlLetter? c with
    | some letter => some (ctrl (alt [letter]))
    | none =>
      if isUpper c then some (shift (alt (lower c)))
      else if isPrintable c then some (alt (lower c))
      else none

/-- The name of the key that a sequence of characters stands for, if it stands
for one. -/
def parse? : Text → Option Text
  | [] => none
  | [c] => character? c
  | ['\x1b', c] => escaped? c
  | '\x1b' :: '[' :: rest => controlSequence? rest
  | ['\x1b', 'O', c] => letterKey? c
  | _ => none

def maxDigits : Nat := 4300

/-- The number of digits that spell the modifiers of a key, if any do. -/
def modifierDigits : Text → Nat
  | '\x1b' :: '[' :: digit :: ';' :: rest =>
    if (controlSequence? (digit :: ';' :: rest)).isSome then (rest.takeWhile isDigit).length
    else 0
  | _ => 0

structure TooManyDigits where
  count : Nat
deriving DecidableEq, Repr

/-- The key as `parse?` tells it, unless the number of its modifiers is too long to be
read. -/
def parse (data : Text) : Except TooManyDigits (Option Text) :=
  if maxDigits < modifierDigits data then .error ⟨modifierDigits data⟩ else .ok (parse? data)

def isKey (data name : Text) : Bool :=
  match parse? data with
  | none => false
  | some key => normalize key = normalize name

end Keychart.Key
