import Keychart.Text.Basic

/-!
# Writing JSON

Values and their two written forms, indented and on one line.  Both hold ASCII
only: any other character is written as one or two escapes of sixteen bits.
-/

namespace Keychart

/-- A JSON value.  A number is kept as it is written, and the members of an
object keep their order. -/
inductive Json where
  | null
  | bool (b : Bool)
  | number (written : Text)
  | string (text : Text)
  | array (items : List Json)
  | object (members : List (Text × Json))
deriving Inhabited

namespace Json

def ofNat (n : Nat) : Json := .number (Text.ofNat n)

def ofInt (n : Int) : Json := .number (Text.ofInt n)

def ofOption : Option Text → Json
  | none => .null
  | some text => .string text

def escapeUnit (unit : Nat) : Text := '\\' :: 'u' :: Text.hexPadded 4 unit

/-- A character inside a string. -/
def writeChar (c : Char) : Text :=
  let code := c.toNat
  if c = '"' || c = '\\' then ['\\', c]
  else if c = '\n' then ['\\', 'n']
  else if c = '\r' then ['\\', 'r']
  else if c = '\t' then ['\\', 't']
  else if code = 0x08 then ['\\', 'b']
  else if code = 0x0C then ['\\', 'f']
  else if 0x20 ≤ code && code ≤ 0x7E then [c]
  else if code < 0x10000 then escapeUnit code
  else
    escapeUnit (0xD800 + (code - 0x10000) / 0x400) ++
      escapeUnit (0xDC00 + (code - 0x10000) % 0x400)

def writeString (text : Text) : Text := '"' :: text.flatMap writeChar ++ ['"']

/-- A new line at a depth of nesting, two spaces for each level. -/
def newline (depth : Nat) : Text := '\n' :: Text.spaces (2 * depth)

mutual

def indented (depth : Nat) : Json → Text
  | null => Text.ofString "null"
  | bool b => Text.ofString (if b then "true" else "false")
  | number written => written
  | string text => writeString text
  | array [] => ['[', ']']
  | array (item :: items) =>
    '[' :: newline (depth + 1) ++ indented (depth + 1) item ++
      indentedItems (depth + 1) items ++ newline depth ++ [']']
  | object [] => ['\x7b', '\x7d']
  | object ((key, value) :: members) =>
    '\x7b' :: newline (depth + 1) ++ writeString key ++ [':', ' '] ++
      indented (depth + 1) value ++ indentedMembers (depth + 1) members ++
      newline depth ++ ['\x7d']

def indentedItems (depth : Nat) : List Json → Text
  | [] => []
  | item :: items =>
    ',' :: newline depth ++ indented depth item ++ indentedItems depth items

def indentedMembers (depth : Nat) : List (Text × Json) → Text
  | [] => []
  | (key, value) :: members =>
    ',' :: newline depth ++ writeString key ++ [':', ' '] ++ indented depth value ++
      indentedMembers depth members

end

mutual

def compact : Json → Text
  | null => Text.ofString "null"
  | bool b => Text.ofString (if b then "true" else "false")
  | number written => written
  | string text => writeString text
  | array [] => ['[', ']']
  | array (item :: items) => '[' :: compact item ++ compactItems items ++ [']']
  | object [] => ['\x7b', '\x7d']
  | object ((key, value) :: members) =>
    '\x7b' :: writeString key ++ ':' :: compact value ++ compactMembers members ++ ['\x7d']

def compactItems : List Json → Text
  | [] => []
  | item :: items => ',' :: compact item ++ compactItems items

def compactMembers : List (Text × Json) → Text
  | [] => []
  | (key, value) :: members =>
    ',' :: writeString key ++ ':' :: compact value ++ compactMembers members

end

end Json

end Keychart
