import Keychart.CommandLine.Flag
import Keychart.Files.Path

/-!
# Requests

What a command line asks for.  Errors in spelling count first, then the version
or the help, whichever is named first, and then the values: those of the options
that are given in their order, the source, the log level of the environment, and
operands beyond the first.
-/

namespace Keychart.CommandLine

structure Request where
  /-- The source, unless it is that of the settings. -/
  source : Option Text := none
  /-- The settings file, unless it is the usual one. -/
  config : Option Text := none
  level : Log.Level := .warning
  logFile : Option Text := none
  /-- Whether the keymap is printed even on a terminal. -/
  printOnly : Bool := false
  query : Option Text := none
  asJson : Bool := false
deriving DecidableEq, Repr

inductive Command where
  | version
  | help
  | view (request : Request)
deriving DecidableEq, Repr

/-- The letters of ASCII in lower case. -/
def lowerAscii (text : Text) : Text := text.map Char.toLower

def level? (name : Text) : Option Log.Level :=
  Log.Level.all.find? fun level => level.name = lowerAscii name

def levelName? (env : Environment) : Option Text :=
  env.nonempty? (Text.ofString "APEKEY_LOG")

/-- A value that is checked: that of an option, or the source. -/
inductive Slot where
  | option (flag : Flag)
  | source
deriving DecidableEq, Repr

/-- What is wrong with the name of a file, if anything: no file has a null character
in its name. -/
def nameFault? (name : Text) : Option UsageError :=
  if name.contains '\x00' then some .unnameable else none

/-- What is wrong with the file that an option names, if anything. -/
def fileFault? {m : Type → Type} [Monad m] (isDirectory : Text → m Bool) (flag : Flag)
    (name : Text) : m (Option UsageError) := do
  match nameFault? name with
  | some e => return some e
  | none => return if ← isDirectory name then some (.isDirectory flag name) else none

/-- What is wrong with a value, given a test for directories. -/
def fault? {m : Type → Type} [Monad m] (isDirectory : Text → m Bool) (slot : Slot)
    (value : Text) : m (Option UsageError) :=
  match slot with
  | .source => return nameFault? value
  | .option .logLevel => return if (level? value).isSome then none else some (.notLevel value)
  | .option .config => fileFault? isDirectory .config value
  | .option .logFile => fileFault? isDirectory .logFile value
  | _ => return none

namespace Arguments

/-- The name of the log level that counts: the option wins over the environment. -/
def chosenLevel? (a : Arguments) (env : Environment) : Option Text :=
  (a.value? .logLevel).or (levelName? env)

/-- The values to check, in order.  The last value of an option stands for all of
them. -/
def values (a : Arguments) (env : Environment) : List (Slot × Text) :=
  (a.given.filterMap fun g => (a.value? g.flag).map fun value => (.option g.flag, value)) ++
    (a.operands.take 1).map (fun source => (.source, source)) ++
    (a.chosenLevel? env).toList.map fun level => (.option .logLevel, level)

def request (a : Arguments) (env : Environment) : Request where
  source := a.operands.head?
  config := a.value? .config
  level := ((a.chosenLevel? env).bind level?).getD .warning
  logFile := a.value? .logFile
  printOnly := a.has .print
  query := a.value? .query
  asJson := a.has .json

def command {m : Type → Type} [Monad m] (a : Arguments) (env : Environment)
    (isDirectory : Text → m Bool) : m (Except UsageError Command) := do
  match a.given.find? fun g => g.flag = .version || g.flag = .help with
  | some g => return .ok (if g.flag = .version then .version else .help)
  | none =>
    match ← (a.values env).findSomeM? fun v => fault? isDirectory v.1 v.2 with
    | some e => return .error e
    | none =>
      match a.operands.drop 1 with
      | [] => return .ok (.view (a.request env))
      | extra => return .error (.unexpected extra)

end Arguments

def Command.ofArguments {m : Type → Type} [Monad m] (env : Environment)
    (isDirectory : Text → m Bool) (arguments : List Text) :
    m (Except UsageError Command) :=
  match Arguments.ofList arguments with
  | .error e => return .error e
  | .ok a => a.command env isDirectory

end Keychart.CommandLine
