import Keychart.Settings.Numeral
import Keychart.Settings.Value

/-!
# Scalars of TOML

The strings, numbers, dates and times of a TOML document.  Every reader takes
the text that is left and gives a value with the text behind it, or nothing when
the text in front of it is not of its kind.
-/

namespace Keychart.Settings.Toml

/-- A control character that may stand in no string and no comment. -/
def isIllegal (c : Char) : Bool := (c.toNat < 0x20 && c ≠ '\t') || c = '\x7f'

def isSpace (c : Char) : Bool := c = ' ' || c = '\t'

/-- White space that may end lines. -/
def isSpaceOrNewline (c : Char) : Bool := isSpace c || c = '\n'

def skipSpace (text : Text) : Text := text.dropWhile isSpace

def isHexDigit (c : Char) : Bool :=
  isAsciiDigit c || ('a' ≤ c && c ≤ 'f') || ('A' ≤ c && c ≤ 'F')

/-- The character that a number of hexadecimal digits spells.  A surrogate is
none. -/
def hexChar? (places : Nat) (text : Text) : Option (Char × Text) :=
  let digits := text.take places
  if digits.length = places && digits.all isHexDigit then
    match hexNatural? digits with
    | some code =>
      if h : code.isValidChar then some (Char.ofNatAux code h, text.drop places) else none
    | none => none
  else none

/-- The character of an escape, given what follows the backslash. -/
def escape? : Text → Option (Char × Text)
  | 'b' :: rest => some ('\x08', rest)
  | 't' :: rest => some ('\t', rest)
  | 'n' :: rest => some ('\n', rest)
  | 'f' :: rest => some ('\x0c', rest)
  | 'r' :: rest => some ('\r', rest)
  | '"' :: rest => some ('"', rest)
  | '\\' :: rest => some ('\\', rest)
  | 'u' :: rest => hexChar? 4 rest
  | 'U' :: rest => hexChar? 8 rest
  | _ => none

/-- What follows a backslash at the end of a line: the rest of the text from the
next character that shows. -/
def lineContinuation? (text : Text) : Option Text :=
  match text with
  | '\n' :: rest => some (rest.dropWhile isSpaceOrNewline)
  | c :: rest =>
    if isSpace c then
      match skipSpace rest with
      | [] => some []
      | '\n' :: rest => some (rest.dropWhile isSpaceOrNewline)
      | _ => none
    else none
  | [] => none

/-- The rest of a string in double quotes on one line. -/
def basicString? : (fuel : Nat) → Text → Option (Text × Text)
  | 0, _ => none
  | _, [] => none
  | fuel + 1, c :: rest =>
    if c = '"' then some ([], rest)
    else if c = '\\' then
      match escape? rest with
      | some (c, rest) => (basicString? fuel rest).map fun (text, rest) => (c :: text, rest)
      | none => none
    else if isIllegal c then none
    else (basicString? fuel rest).map fun (text, rest) => (c :: text, rest)

/-- The rest of a string in three double quotes. -/
def longBasicString? : (fuel : Nat) → Text → Option (Text × Text)
  | 0, _ => none
  | _, [] => none
  | _ + 1, '"' :: '"' :: '"' :: rest => some ([], rest)
  | fuel + 1, c :: rest =>
    if c = '\\' then
      match lineContinuation? rest with
      | some rest => longBasicString? fuel rest
      | none =>
        match escape? rest with
        | some (c, rest) =>
          (longBasicString? fuel rest).map fun (text, rest) => (c :: text, rest)
        | none => none
    else if isIllegal c && c ≠ '\n' then none
    else (longBasicString? fuel rest).map fun (text, rest) => (c :: text, rest)

/-- The rest of a string in apostrophes on one line. -/
def literalString? (text : Text) : Option (Text × Text) :=
  let body := text.takeWhile (· ≠ '\'')
  match text.drop body.length with
  | _ :: rest => if body.any isIllegal then none else some (body, rest)
  | [] => none

/-- The rest of a string in three apostrophes. -/
def longLiteralString? (text : Text) : Option (Text × Text) :=
  match Text.splitAtMark? ['\'', '\'', '\''] text with
  | some (body, rest) =>
    if body.any fun c => isIllegal c && c ≠ '\n' then none else some (body, rest)
  | none => none

/-- Takes up to two more quotes behind a long string into it. -/
def takeClosingQuotes (quote : Char) : Text × Text → Text × Text
  | (text, a :: b :: rest) =>
    if a = quote && b = quote then (text ++ [quote, quote], rest)
    else if a = quote then (text ++ [quote], b :: rest)
    else (text, a :: b :: rest)
  | (text, [a]) => if a = quote then (text ++ [quote], []) else (text, [a])
  | (text, []) => (text, [])

/-- A long string without the line end right behind its opening quotes. -/
def dropFirstNewline : Text → Text
  | '\n' :: text => text
  | text => text

def shortString? : Text → Option (Text × Text)
  | '"' :: rest => basicString? (rest.length + 1) rest
  | '\'' :: rest => literalString? rest
  | _ => none

def string? : Text → Option (Text × Text)
  | '"' :: '"' :: '"' :: rest =>
    let rest := dropFirstNewline rest
    (longBasicString? (rest.length + 1) rest).map (takeClosingQuotes '"')
  | '\'' :: '\'' :: '\'' :: rest =>
    (longLiteralString? (dropFirstNewline rest)).map (takeClosingQuotes '\'')
  | text => shortString? text

/-- The rest of a run of digits, which may hold single underscores between two
digits, without the underscores, and the text behind it. -/
def digitsAfter (isDigit : Char → Bool) : (begun : Bool) → Text → Text × Text
  | _, [] => ([], [])
  | begun, c :: rest =>
    if isDigit c then
      let (digits, behind) := digitsAfter isDigit true rest
      (c :: digits, behind)
    else if begun && c = '_' && rest.head?.any isDigit then digitsAfter isDigit true rest
    else ([], c :: rest)

def digitRun (isDigit : Char → Bool) (text : Text) : Text × Text :=
  digitsAfter isDigit false text

def valueIn (base : Nat) (digits : Text) : Nat :=
  digits.foldl (fun n c => base * n + (hexDigit? c).getD 0) 0

/-- The base that a letter behind a nought names, and its digits. -/
def base? (c : Char) : Option (Nat × (Char → Bool)) :=
  if c = 'x' then some (16, isHexDigit)
  else if c = 'o' then some (8, fun d => '0' ≤ d && d ≤ '7')
  else if c = 'b' then some (2, fun d => d = '0' || d = '1')
  else none

def basedInteger? : Text → Option (Value × Text)
  | '0' :: letter :: text =>
    match base? letter with
    | some (base, isDigit) =>
      match digitRun isDigit text with
      | ([], _) => none
      | (digits, rest) => some (.integer (valueIn base digits), rest)
    | none => none
  | _ => none

/-- A sign in front of a text: whether it is a minus, and what follows. -/
def takeSign : Text → Bool × Text
  | '-' :: rest => (true, rest)
  | '+' :: rest => (false, rest)
  | text => (false, text)

/-- The places behind a decimal point, if there are any. -/
def fraction? : Text → Option (Text × Text)
  | '.' :: rest =>
    match digitRun isAsciiDigit rest with
    | ([], _) => none
    | found => some found
  | _ => none

/-- A power of ten, if there is one. -/
def exponent? : Text → Option (Int × Text)
  | c :: text =>
    if c = 'e' || c = 'E' then
      let (negative, rest) := takeSign text
      match digitRun isAsciiDigit rest with
      | ([], _) => none
      | (digits, rest) =>
        let n : Int := decimalValue digits
        some (if negative then -n else n, rest)
    else none
  | [] => none

/-- The digits of a whole number, which start with a nought only when that is
all. -/
def wholeDigits : Text → Text × Text
  | '0' :: rest => (['0'], rest)
  | text => digitRun isAsciiDigit text

/-- A decimal number: an integer, unless places or a power of ten follow. -/
def decimalNumber? (text : Text) : Option (Value × Text) :=
  let (negative, rest) := takeSign text
  match wholeDigits rest with
  | ([], _) => none
  | (whole, rest) =>
    match fraction? rest, exponent? ((fraction? rest).elim rest Prod.snd) with
    | none, none =>
      let n : Int := decimalValue whole
      some (.integer (if negative then -n else n), rest)
    | fraction, power =>
      let places := (fraction.map Prod.fst).getD []
      let behind := (power.map Prod.snd).getD ((fraction.elim rest Prod.snd))
      some
        (.float (Number.Double.ofDecimal negative (decimalValue (whole ++ places))
          ((power.map Prod.fst).getD 0 - places.length)),
         behind)

def number? (text : Text) : Option (Value × Text) :=
  match basedInteger? text with
  | some found => some found
  | none => decimalNumber? text

def namedFloat? (text : Text) : Option (Value × Text) :=
  let (negative, rest) := takeSign text
  match rest with
  | 'i' :: 'n' :: 'f' :: rest => some (.float (.infinite negative), rest)
  | 'n' :: 'a' :: 'n' :: rest => some (.float .notANumber, rest)
  | _ => none

/-- The number of two digits at the front, if it is within bounds. -/
def twoDigits? (low high : Nat) : Text → Option (Nat × Text)
  | a :: b :: rest =>
    if isAsciiDigit a && isAsciiDigit b then
      let n := decimalValue [a, b]
      if low ≤ n && n ≤ high then some (n, rest) else none
    else none
  | _ => none

/-- A part of two digits behind a mark. -/
def marked? (mark : Char) (low high : Nat) : Text → Option (Nat × Text)
  | c :: rest => if c = mark then twoDigits? low high rest else none
  | [] => none

/-- What follows a time of day with seconds, and parts of seconds if there are
any. -/
def afterTime? (text : Text) : Option Text := do
  let (_, rest) ← twoDigits? 0 23 text
  let (_, rest) ← marked? ':' 0 59 rest
  let (_, rest) ← marked? ':' 0 59 rest
  match rest with
  | '.' :: d :: more => if isAsciiDigit d then some (more.dropWhile isAsciiDigit) else some rest
  | _ => some rest

/-- What follows the offset of a time from that of the meridian, if there is
one. -/
def afterOffset (text : Text) : Text :=
  match text with
  | c :: rest =>
    if c = 'Z' || c = 'z' then rest
    else if c = '+' || c = '-' then
      match twoDigits? 0 23 rest with
      | some (_, more) =>
        match marked? ':' 0 59 more with
        | some (_, rest) => rest
        | none => text
      | none => text
    else text
  | [] => text

def daysOf (year month : Nat) : Nat :=
  if month = 2 then
    if year % 4 = 0 && (year % 100 ≠ 0 || year % 400 = 0) then 29 else 28
  else if month = 4 || month = 6 || month = 9 || month = 11 then 30
  else 31

/-- The year, month and day of a date and what follows it. -/
def date? : Text → Option ((Nat × Nat × Nat) × Text)
  | a :: b :: c :: d :: text =>
    if [a, b, c, d].all isAsciiDigit then do
      let (month, rest) ← marked? '-' 1 12 text
      let (day, rest) ← marked? '-' 1 31 rest
      some ((decimalValue [a, b, c, d], month, day), rest)
    else none
  | _ => none

/-- Whether a date is in the calendar, which starts with the year one. -/
def isCalendarDate : Nat × Nat × Nat → Bool
  | (year, month, day) => 1 ≤ year && day ≤ daysOf year month

/-- What follows a date: a time behind a mark belongs to it. -/
def afterDate (text : Text) : Text :=
  match text with
  | c :: rest =>
    if c = 'T' || c = 't' || c = ' ' then
      match afterTime? rest with
      | some rest => afterOffset rest
      | none => text
    else text
  | [] => text

end Keychart.Settings.Toml
