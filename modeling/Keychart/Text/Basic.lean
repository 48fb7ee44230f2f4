/-!
# Text

A text is the list of its code points, so that every length, position and cut
counts code points.  This module holds what the rest of the library asks of a
text that needs no character table: prefixes, cuts at a mark, lines, joining,
and the decimal and hexadecimal writing of numbers.
-/

namespace Keychart

/-- A text is the list of its code points. -/
abbrev Text := List Char

namespace Text

def ofString (s : String) : Text := s.toList

def dropMark? : (mark text : Text) → Option Text
  | [], text => some text
  | _ :: _, [] => none
  | m :: mark, c :: text => if m = c then dropMark? mark text else none

def startsWith (text mark : Text) : Bool := (dropMark? mark text).isSome

/-- The text before the first occurrence of the mark and the text after it. -/
def splitAtMark? (mark : Text) : Text → Option (Text × Text)
  | [] => (dropMark? mark []).map fun rest => ([], rest)
  | c :: text =>
    match dropMark? mark (c :: text) with
    | some rest => some ([], rest)
    | none => (splitAtMark? mark text).map fun (before, rest) => (c :: before, rest)

/-- A text is as long as the mark at its front and what follows. -/
theorem length_of_dropMark? {mark text rest : Text} (h : dropMark? mark text = some rest) :
    text.length = mark.length + rest.length := by
  fun_induction dropMark? mark text with
  | case1 => simp_all
  | case2 => simp at h
  | case3 _ _ _ ih => simp [ih h]; omega
  | case4 => simp at h

/-- A text is as long as its parts at a mark and the mark. -/
theorem length_of_splitAtMark? {mark text front rest : Text}
    (h : splitAtMark? mark text = some (front, rest)) :
    text.length = front.length + mark.length + rest.length := by
  induction text generalizing front with
  | nil =>
    obtain ⟨tail, found, same⟩ := Option.map_eq_some_iff.1 h
    cases same
    simpa using length_of_dropMark? found
  | cons c text ih =>
    rw [splitAtMark?] at h
    split at h
    · next found =>
      cases h
      simpa using length_of_dropMark? found
    · obtain ⟨⟨before, tail⟩, found, same⟩ := Option.map_eq_some_iff.1 h
      cases same
      have := ih found
      simp only [List.length_cons]
      omega

/-- The pieces between the occurrences of a character: always one more than
there are occurrences. -/
def splitOnChar (mark : Char) : Text → List Text
  | [] => [[]]
  | c :: text =>
    match splitOnChar mark text with
    | [] => [[c]]
    | piece :: pieces => if c = mark then [] :: piece :: pieces else (c :: piece) :: pieces

/-- The pieces with the separator between any two neighbours. -/
def join (separator : Text) : List Text → Text
  | [] => []
  | [piece] => piece
  | piece :: pieces => piece ++ separator ++ join separator pieces

def spaces (n : Nat) : Text := List.replicate n ' '

/-- The text with spaces behind it, up to the asked number of code points. -/
def padRight (width : Nat) (text : Text) : Text := text ++ spaces (width - text.length)

def trimFront (p : Char → Bool) (text : Text) : Text := text.dropWhile p

def trimBack (p : Char → Bool) (text : Text) : Text := (text.reverse.dropWhile p).reverse

/-- The text of the only line: a line feed may stand at the very end, where it
is left out, and nowhere else. -/
def onlyLine? : Text → Option Text
  | [] => some []
  | [c] => if c = '\n' then some [] else some [c]
  | c :: text => if c = '\n' then none else (onlyLine? text).map (c :: ·)

def isLineBoundary (c : Char) : Bool :=
  c = '\n' || c = '\r' || c = '\x0b' || c = '\x0c' || c = '\x1c' || c = '\x1d' || c = '\x1e' ||
    c = '\u0085' || c = '\u2028' || c = '\u2029'

/-- The lines of a text without their boundaries.  A carriage return and the
line feed after it are one boundary, and a boundary at the very end opens no
further line. -/
def lines : Text → List Text
  | [] => []
  | '\r' :: '\n' :: text => [] :: lines text
  | c :: text =>
    if isLineBoundary c then [] :: lines text
    else
      match lines text with
      | [] => [[c]]
      | line :: rest => (c :: line) :: rest

/-- The text with every carriage return, and every carriage return with the
line feed after it, read as one line feed. -/
def universalNewlines : Text → Text
  | [] => []
  | '\r' :: '\n' :: text => '\n' :: universalNewlines text
  | c :: text => (if c = '\r' then '\n' else c) :: universalNewlines text

/-- The decimal digits of a natural number. -/
def ofNat (n : Nat) : Text := Nat.toDigits 10 n

/-- The decimal digits of an integer, behind a minus sign if it is negative. -/
def ofInt : Int → Text
  | .ofNat n => ofNat n
  | .negSucc n => '-' :: ofNat (n + 1)

/-- The hexadecimal digits of a number, small letters, filled with zeros in
front up to the asked width. -/
def hexPadded (width n : Nat) : Text :=
  let digits := Nat.toDigits 16 n
  List.replicate (width - digits.length) '0' ++ digits

end Text

end Keychart
