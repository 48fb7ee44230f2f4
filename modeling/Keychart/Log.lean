import Keychart.Text.Basic

/-!
# Log records

What the program reports besides its results.  A record keeps its level apart
from its message, so that a reader can ask for the records from some level up.
-/

namespace Keychart.Log

/-- How much a record matters. -/
inductive Level where
  | debug
  | info
  | warning
  | error
deriving DecidableEq, Repr

namespace Level

/-- All levels, from the least to the most. -/
def all : List Level := [.debug, .info, .warning, .error]

def rank : Level → Nat
  | debug => 0
  | info => 1
  | warning => 2
  | error => 3

def name : Level → Text
  | debug => Text.ofString "debug"
  | info => Text.ofString "info"
  | warning => Text.ofString "warning"
  | error => Text.ofString "error"

def label : Level → Text
  | debug => Text.ofString "DEBUG"
  | info => Text.ofString "INFO"
  | warning => Text.ofString "WARNING"
  | error => Text.ofString "ERROR"

end Level

/-- One report: its level, the part of the program it comes from, and its text. -/
structure Record where
  level : Level
  channel : Text
  message : Text
deriving DecidableEq, Repr

def atLeast (level : Level) (records : List Record) : List Record :=
  records.filter fun r => level.rank ≤ r.level.rank

def Record.line (time : Text) (r : Record) : Text :=
  time ++ Text.ofString " [" ++ r.level.label ++ Text.ofString "] " ++ r.channel ++
    Text.ofString ": " ++ r.message

end Keychart.Log
