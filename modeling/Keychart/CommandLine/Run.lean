import Keychart.CommandLine.Output
import Keychart.CommandLine.Request
import Keychart.Keymap.Listing
import Keychart.Settings.Load
import Keychart.Theme.Palette
import Keychart.Viewer.Terminal

/-!
# Running a command

What a command line leads to, given what the system says: a text to print, or a
session on the terminal.  A settings file that is refused does not end the run;
the usual settings take its place.
-/

namespace Keychart.CommandLine

/-- What the system says, and how it is asked. -/
structure Host (m : Type → Type) where
  environment : Environment
  /-- The home directories of users. -/
  homes : Path.Homes := []
  /-- The time that stands in front of log records. -/
  time : Text
  /-- What it says of the bytes of a file. -/
  read : Path → m Bytes
  /-- Why a file cannot be written, if it cannot. -/
  writeFailure? : Path → m (Option ReadFailure)
  /-- Whether something that is there, named so, is a directory. -/
  isDirectory : Text → m Bool
  inputIsTerminal : Bool := false
  outputIsTerminal : Bool := false
  size : Viewer.Size := ⟨80, 24⟩
  /-- A description of what is wrong with a settings file. -/
  detail : Settings.Refusal → Text

/-- What keeps a run from its end. -/
inductive Failure where
  | settings (e : Settings.LoadError)
  /-- The file of the log records cannot be written. -/
  | logging (path : Path) (failure : ReadFailure)
  /-- A file is named as no file can be. -/
  | unnameable
  /-- A part of a colour has more digits than can be written. -/
  | unwritable
deriving DecidableEq, Repr

/-- What a run that needs no terminal leaves. -/
structure Report where
  exitCode : Nat := 0
  /-- What it prints, if anything. -/
  printed : Option Text := none
  notes : List Note := []
  /-- What kept it from its end. -/
  failure : Option Failure := none

/-- The report of a run that was kept from its end. -/
def Report.failed (notes : List Note) (failure : Failure) : Report :=
  { exitCode := 1, notes := notes, failure := some failure }

/-- What a command line leads to. -/
inductive Outcome where
  | refused (e : UsageError)
  | told (text : Text)
  | reported (logging : Logging) (report : Report)
  | session (logging : Logging) (notes : List Note) (session : Viewer.Session)

def refusedRecord (detail : Settings.Refusal → Text) (refusal : Settings.Refusal) :
    Log.Record :=
  ⟨.warning, Text.ofString "apekey.cli",
    refusal.message detail ++ Text.ofString "; using default settings"⟩

/-- The settings that were loaded, or the usual ones if those were refused. -/
def settingsOrUsual (detail : Settings.Refusal → Text)
    (loaded : Except Settings.LoadError Settings) :
    Except Settings.LoadError (Settings × List Log.Record) :=
  match loaded with
  | .ok settings => .ok (settings, [])
  | .error (.refused refusal) => .ok ({}, [refusedRecord detail refusal])
  | .error e => .error e

/-- What is read of a file.  The file of the log records is there from the start, and
holds the records so far behind what it held before. -/
def Logging.beside (logging : Logging) (time : Text) (notes : List Note) (path : Path)
    (bytes : Bytes) : Bytes :=
  if logging.file = some path then
    let written := Text.encode (logging.fileText time notes)
    match bytes with
    | .ok bytes => .ok (bytes ++ written)
    | .error .notFound => .ok written
    | .error failure => .error failure
  else bytes

namespace Host

variable {m : Type → Type} [Monad m]

def readBeside (host : Host m) (logging : Logging) (notes : List Note) (path : Path) :
    m Bytes := do
  return logging.beside host.time notes path (← host.read path)

/-- The settings file: the one that a request names, or the usual one. -/
def settingsFile? (host : Host m) (request : Request) : Option Path :=
  match request.config with
  | some name => some (Path.ofText name)
  | none => Settings.defaultFile? host.environment

def settings (host : Host m) (logging : Logging) (request : Request) :
    m (Except Settings.LoadError (Settings × List Log.Record)) := do
  match host.settingsFile? request with
  | none => return .error .homeless
  | some path =>
    return settingsOrUsual host.detail
      (Settings.ofFile path (← host.readBeside logging [] path))

/-- The path of the source: that of the request, or else that of the settings. -/
def source? (host : Host m) (request : Request) (settings : Settings) : Option Path :=
  match request.source with
  | some name => some (Path.ofText name)
  | none => Settings.source? host.environment host.homes settings

/-- Whether the keymap is shown in a session: nothing asks for printing, and there
is a terminal on both sides. -/
def isInteractive (host : Host m) (request : Request) : Bool :=
  !request.printOnly && request.query.isNone && !request.asJson && host.inputIsTerminal &&
    host.outputIsTerminal

end Host

def readingRecord (source : Path) : Log.Record :=
  ⟨.debug, Text.ofString "apekey.cli", Text.ofString "reading keymap from " ++ source.toText⟩

/-- The results of a query as they are printed, unless there are none to list. -/
def printResults (request : Request) (query : Text) (store : Source.Store) : Report :=
  let results := search query store.keybinds
  if request.asJson then { printed := some ((Search.toJson results).indented 0) }
  else if results.isEmpty then { notes := [.message (Text.ofString "No matching keybinds")] }
  else { printed := some (Search.listing results store.keymap) }

def printKeymap (request : Request) (store : Source.Store) : Report :=
  let keymap := store.keymap
  if !keymap.hasRegion && !request.asJson then
    { notes :=
        [.message (Text.ofString "No annotated keymap found in " ++ store.path.toText)] }
  else
    match request.query with
    | some query => printResults request query store
    | none =>
      { printed :=
          some (if request.asJson then keymap.toJson.indented 0 else keymap.listing) }

def Report.behind (notes : List Note) (report : Report) : Report :=
  { report with notes := notes ++ report.notes }

def recordNotes (records : List Log.Record) : List Note := records.map .record

namespace Host

variable {m : Type → Type} [Monad m]

def viewSource (host : Host m) (logging : Logging) (request : Request)
    (settings : Settings) (notes : List Note) (source : Path) : m Outcome := do
  let notes := notes ++ [.record (readingRecord source)]
  let bytes ← host.readBeside logging notes source
  match ({ path := source } : Source.Store).load bytes with
  | (_, .error e) =>
    if e.failure = .unreadable .unnameable then
      return .reported logging (.failed notes .unnameable)
    else return .reported logging { exitCode := 1, notes := notes ++ [.message e.message] }
  | (store, .ok loaded) =>
    let notes := notes ++ recordNotes loaded.records
    if host.isInteractive request then
      let notes := notes ++ recordNotes (Bindings.warnings settings.keys)
      match Theme.ofSettings? settings with
      | none => return .reported logging (.failed notes .unwritable)
      | some theme =>
        return .session logging notes
          (Viewer.Session.ofStore store theme (Bindings.ofChoices settings.keys) host.size)
    else return .reported logging ((printKeymap request store).behind notes)

/-- Shows a keymap under settings, given what there is to say of their file. -/
def viewUnder (host : Host m) (logging : Logging) (request : Request) (settings : Settings)
    (records : List Log.Record) : m Outcome :=
  let notes := recordNotes records
  match host.source? request settings with
  | none => return .reported logging (.failed notes (.settings .homeless))
  | some source => host.viewSource logging request settings notes source

/-- Shows a keymap, given that the log records can be written. -/
def viewLogged (host : Host m) (logging : Logging) (request : Request) : m Outcome := do
  match ← host.settings logging request with
  | .error e => return .reported logging (.failed [] (.settings e))
  | .ok (settings, records) => host.viewUnder logging request settings records

def view (host : Host m) (request : Request) : m Outcome := do
  let file := request.logFile.map fun name => (Path.ofText name).collapse
  let logging : Logging := ⟨request.level, file, host.isInteractive request⟩
  match file with
  | none => host.viewLogged logging request
  | some path =>
    match ← host.writeFailure? path with
    | some failure => return .reported {} (.failed [] (.logging path failure))
    | none => host.viewLogged logging request

def run (host : Host m) (arguments : List Text) : m Outcome := do
  match ← Command.ofArguments host.environment host.isDirectory arguments with
  | .error .unnameable => return .reported {} (.failed [] .unnameable)
  | .error e => return .refused e
  | .ok .version => return .told versionText
  | .ok .help => return .told (helpText (terminalColumns host.environment))
  | .ok (.view request) => host.view request

end Host

end Keychart.CommandLine
