import Keychart.CommandLine.Flag
import Keychart.Files.Path
import Keychart.Settings.Numeral
import Keychart.Text.Wrap

/-!
# Output

What a run tells besides its results, and where it goes: messages and log
records on the error output, or the records in a file of their own.
-/

namespace Keychart.CommandLine

/-- A character of the parameters of a control sequence. -/
def isControlParameter (c : Char) : Bool := ('0' ≤ c && c ≤ '9') || c = ';' || c = '?'

def isAsciiLetter (c : Char) : Bool := ('a' ≤ c && c ≤ 'z') || ('A' ≤ c && c ≤ 'Z')

/-- The length of the control sequence at the front of a text, or nought. -/
def controlLength : Text → Nat
  | '\x1b' :: '[' :: rest =>
    match rest.dropWhile isControlParameter with
    | [] => 0
    | c :: _ => if isAsciiLetter c then (rest.takeWhile isControlParameter).length + 3 else 0
  | _ => 0

/-- The text without the next `inControl` characters and without control
sequences. -/
def dropControls : (inControl : Nat) → Text → Text
  | _, [] => []
  | 0, c :: text =>
    match controlLength (c :: text) with
    | 0 => c :: dropControls 0 text
    | n + 1 => dropControls n text
  | n + 1, _ :: text => dropControls n text

/-- A text as a line of output.  Control sequences reach a terminal only. -/
def echo (isTerminal : Bool) (text : Text) : Text :=
  (if isTerminal then text else dropControls 0 text) ++ ['\n']

/-- Something that a run tells. -/
inductive Note where
  | message (text : Text)
  | record (record : Log.Record)
deriving DecidableEq, Repr

namespace Note

def isMessage : Note → Bool
  | message _ => true
  | record _ => false

/-- A note as it is written.  Records below the level are left out. -/
def write (level : Log.Level) (time : Text) (isTerminal : Bool) : Note → Text
  | message text => echo isTerminal text
  | record r => if level.rank ≤ r.level.rank then r.line time ++ ['\n'] else []

end Note

/-- Where log records go, and which of them. -/
structure Logging where
  level : Log.Level := .warning
  /-- The file of the records, if not the error output. -/
  file : Option Path := none
  /-- Whether records are held back until the end of the run. -/
  deferred : Bool := false
deriving DecidableEq, Repr

namespace Logging

def write (l : Logging) (time : Text) (isTerminal : Bool) (notes : List Note) : Text :=
  notes.flatMap (Note.write l.level time isTerminal)

/-- What a run writes to the error output. -/
def errorText (l : Logging) (time : Text) (isTerminal : Bool) (notes : List Note) : Text :=
  let messages := notes.filter Note.isMessage
  let records := notes.filter fun note => !note.isMessage
  if l.file.isSome then l.write time isTerminal messages
  else if l.deferred then l.write time isTerminal (messages ++ records)
  else l.write time isTerminal notes

/-- What a run writes to the file of the records. -/
def fileText (l : Logging) (time : Text) (notes : List Note) : Text :=
  l.write time false (notes.filter fun note => !note.isMessage)

end Logging

/-- Behind a command line that cannot be used: the error, and the usage where that
helps. -/
def UsageError.write (isTerminal : Bool) (e : UsageError) : Text :=
  (if e.showsUsage then
    echo isTerminal
      (Text.ofString "Usage: main [OPTIONS] [PATH]\nTry 'main --help' for help.\n")
  else []) ++
    echo isTerminal (Text.ofString "Error: " ++ e.message)

def versionText : Text := Text.ofString "apekey, version 0.1.0"

/-- A positive number in digits of any script, which may have a plus sign in front and
underscores between them. -/
def positive? (text : Text) : Option Nat :=
  let digits :=
    match Settings.trimNumeral text with
    | '+' :: digits => digits
    | digits => digits
  match (Settings.dropUnderscores? digits).bind fun digits => digits.mapM Unicode.digitValue? with
  | some values =>
    let n := values.foldl (fun n digit => 10 * n + digit) 0
    if 0 < n then some n else none
  | none => none

/-- The columns of the terminal that the environment names, or those of the usual
one. -/
def terminalColumns (env : Environment) : Nat :=
  ((env.get? (Text.ofString "COLUMNS")).bind positive?).getD 80

def optionRows : List (Text × Text) :=
  [ ("--config FILE", "Settings file (default: $XDG_CONFIG_HOME/apekey/apekey.toml)"),
    ("--log-level [debug|info|warning|error]",
      "Logging level (also read from APEKEY_LOG)  [default: warning]"),
    ("--log-file FILE", "Write log records to this file"),
    ("--print", "Print the keymap and exit"),
    ("--query TEXT", "Print matches for QUERY and exit"),
    ("--json", "Emit JSON in print mode"),
    ("--version", "Show the version and exit."),
    ("--help", "Show this message and exit.")
  ].map fun (written, told) => (Text.ofString written, Text.ofString told)

/-- What the program is for, by paragraphs. -/
def purpose : List Text :=
  [ "Show the annotated keybindings of an xmonad config.",
    "PATH defaults to the settings' config_path, then ~/.xmonad/xmonad.hs."
  ].map Text.ofString

/-- The width of the column in which options are written, with the gap behind it.  A
longer one has a line of its own. -/
def optionWidth : Nat :=
  min ((optionRows.map fun row => row.1.length).foldl max 0) 30 + 2

def indented (places : Nat) (lines : List Text) : List Text := lines.map (Text.spaces places ++ ·)

def optionLines (width : Nat) (row : Text × Text) : List Text :=
  let told := Text.wrap (max 10 (width - optionWidth - 2)) row.2
  if row.1.length + 2 ≤ optionWidth then
    indented 2
      ((Text.padRight optionWidth row.1 ++ told.headD []) :: indented optionWidth told.tail)
  else indented 2 (row.1 :: indented optionWidth told)

/-- What the program is for and what its options do, on a terminal of some columns.
Two of them stay free, and at least fifty and at most eighty count. -/
def helpText (columns : Nat) : Text :=
  let width := max 50 (min columns 80 - 2)
  let paragraphs := purpose.map fun text => [] :: indented 2 (Text.wrap (width - 2) text)
  Text.join ['\n']
    (Text.ofString "Usage: main [OPTIONS] [PATH]" :: paragraphs.flatten ++
      [] :: Text.ofString "Options:" :: optionRows.flatMap (optionLines width))

end Keychart.CommandLine
