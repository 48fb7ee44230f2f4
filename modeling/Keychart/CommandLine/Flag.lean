import Keychart.Log
import Keychart.Text.Quoted
import Keychart.Text.Resemblance

/-!
# Options of the command line

The options of the program and how an argument list spells them.  An option may
stand anywhere in front of a double dash; one that takes a value takes what
stands behind an equals sign, or else the next argument whatever it is.
-/

namespace Keychart.CommandLine

/-- An option of the command line. -/
inductive Flag where
  | config
  | logLevel
  | logFile
  | print
  | query
  | json
  | version
  | help
deriving DecidableEq, Repr

namespace Flag

def all : List Flag := [config, logLevel, logFile, print, query, json, version, help]

def name : Flag → Text
  | config => Text.ofString "--config"
  | logLevel => Text.ofString "--log-level"
  | logFile => Text.ofString "--log-file"
  | print => Text.ofString "--print"
  | query => Text.ofString "--query"
  | json => Text.ofString "--json"
  | version => Text.ofString "--version"
  | help => Text.ofString "--help"

def ofName? (written : Text) : Option Flag := all.find? fun flag => flag.name = written

def takesValue : Flag → Bool
  | config | logLevel | logFile | query => true
  | print | json | version | help => false

end Flag

/-- Why a command line cannot be used. -/
inductive UsageError where
  /-- There is no such option; these come close. -/
  | unknown (written : Text) (close : List Text)
  | needsValue (flag : Flag)
  | takesNoValue (flag : Flag)
  | unexpected (arguments : List Text)
  | notLevel (value : Text)
  | isDirectory (flag : Flag) (value : Text)
  /-- A file is named as no file can be. -/
  | unnameable
deriving DecidableEq, Repr

namespace UsageError

/-- What is said of options that come close. -/
def closeText : List Text → Text
  | [] => []
  | [one] => Text.ofString " Did you mean " ++ one ++ ['?']
  | several =>
    Text.ofString " (Possible options: " ++ Text.join [',', ' '] several ++ [')']

/-- What is said of a value that an option cannot take. -/
def invalidValue (flag : Flag) (reason : Text) : Text :=
  Text.ofString "Invalid value for " ++ Text.quoted flag.name ++ [':', ' '] ++ reason

def message : UsageError → Text
  | unknown written close => Text.ofString "No such option: " ++ written ++ closeText close
  | needsValue flag =>
    Text.ofString "Option " ++ Text.quoted flag.name ++ Text.ofString " requires an argument."
  | takesNoValue flag =>
    Text.ofString "Option " ++ Text.quoted flag.name ++ Text.ofString " does not take a value."
  | unexpected arguments =>
    Text.ofString "Got unexpected extra argument" ++
      (if arguments.length = 1 then [] else ['s']) ++ [' ', '('] ++
      Text.join [' '] arguments ++ [')']
  | notLevel value =>
    invalidValue .logLevel
      (Text.quoted value ++ Text.ofString " is not one of " ++
        Text.join [',', ' '] (Log.Level.all.map fun level => Text.quoted level.name) ++ ['.'])
  | isDirectory flag value =>
    invalidValue flag
      (Text.ofString "File " ++ Text.quoted value ++ Text.ofString " is a directory.")
  | unnameable => Text.ofString "embedded null byte"

/-- Whether the usage of the program is shown with the error.  It is not where an
option lacks its value or has one that it does not take. -/
def showsUsage : UsageError → Bool
  | needsValue _ | takesNoValue _ => false
  | _ => true

end UsageError

/-- An option that was given, with the value of one that takes it. -/
structure Given where
  flag : Flag
  value : Text := []
deriving DecidableEq, Repr

/-- An argument list by its parts, each in order. -/
structure Arguments where
  given : List Given := []
  operands : List Text := []
deriving DecidableEq, Repr

namespace Arguments

/-- With an option in front. -/
def addGiven (flag : Flag) (value : Text) (a : Arguments) : Arguments :=
  { a with given := ⟨flag, value⟩ :: a.given }

def addOperand (operand : Text) (a : Arguments) : Arguments :=
  { a with operands := operand :: a.operands }

def isOption : Text → Bool
  | '-' :: _ :: _ => true
  | _ => false

/-- An argument parted at its first equals sign. -/
def splitValue (argument : Text) : Text × Option Text :=
  let written := argument.takeWhile (· ≠ '=')
  match argument.drop written.length with
  | [] => (written, none)
  | _ :: value => (written, some value)

/-- The refusal of an option that is not known.  One behind a single dash is named
by its first letter. -/
def unknown (argument written : Text) : UsageError :=
  match argument with
  | '-' :: '-' :: _ => .unknown written (Text.closest written (Flag.all.map Flag.name))
  | _ => .unknown (argument.take 2) []

def ofList : List Text → Except UsageError Arguments
  | [] => .ok {}
  | argument :: rest =>
    if argument = ['-', '-'] then .ok { operands := rest }
    else if isOption argument then
      let (written, attached) := splitValue argument
      match Flag.ofName? written with
      | none => .error (unknown argument written)
      | some flag =>
        match flag.takesValue, attached with
        | true, some value => (ofList rest).map (addGiven flag value)
        | true, none =>
          match rest with
          | [] => .error (.needsValue flag)
          | value :: rest => (ofList rest).map (addGiven flag value)
        | false, some _ => .error (.takesNoValue flag)
        | false, none => (ofList rest).map (addGiven flag [])
    else (ofList rest).map (addOperand argument)

def has (a : Arguments) (flag : Flag) : Bool := a.given.any fun g => g.flag = flag

def value? (a : Arguments) (flag : Flag) : Option Text :=
  (a.given.reverse.find? fun g => g.flag = flag).map Given.value

end Arguments

end Keychart.CommandLine
