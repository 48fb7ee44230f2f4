import Keychart.CommandLine.Run
import Keychart.Settings.Describe

/-!
# The program

The outermost layer: it asks the system for what a run wants to know, writes what
the run says, and hands what is typed to a session, one read after the other.
-/

namespace Keychart

def toSystem (text : Text) : String := String.ofList text

def readFailure : IO.Error → ReadFailure
  | .noFileOrDirectory _ _ _ => .notFound
  | .inappropriateType _ number words => numbered number words
  | .invalidArgument _ number words => numbered number words
  | .permissionDenied _ number words => numbered number words
  | .resourceExhausted _ number words => numbered number words
  | .hardwareFault number words => numbered number words
  | e => .other 0 (Text.ofString (toString e))
where
  numbered (number : UInt32) (words : String) : ReadFailure :=
    if number = 20 then .notDirectory
    else if number = 21 then .isDirectory
    else if number = 36 then .nameTooLong
    else .other number.toNat (Text.ofString words)

def readFile (path : Path) : IO Bytes := do
  try
    return .ok (← IO.FS.readBinFile (toSystem path.toText)).toList
  catch e => return .error (readFailure e)

def isDirectory (name : Text) : IO Bool := do
  if name.isEmpty then return false
  try
    let path ← IO.FS.realPath (toSystem name)
    path.isDir
  catch _ => return false

/-- Why a file cannot be written, if it cannot.  One that is missing is made. -/
def writeFailure? (path : Path) : IO (Option ReadFailure) := do
  try
    let _ ← IO.FS.Handle.mk (toSystem path.toText) .append
    return none
  catch e => return some (readFailure e)

def homes : IO Path.Homes := do
  match readText (← readFile (Path.ofText (Text.ofString "/etc/passwd"))) with
  | .error _ => return []
  | .ok users => return Path.homesOf users

def environment : IO Environment := do
  match ← readFile (Path.ofText (Text.ofString "/proc/self/environ")) with
  | .error _ => return []
  | .ok bytes =>
    match Text.decode bytes with
    | .error _ => return []
    | .ok block => return Environment.ofBlock block

/-- The time that stands in front of log records: the seconds that the machine has
been up. -/
def timeMark : IO Text := do
  let ms ← IO.monoMsNow
  let thousandths := Text.ofNat (ms % 1000)
  return Text.ofNat (ms / 1000) ++ ',' ::
    (List.replicate (3 - thousandths.length) '0' ++ thousandths)

def systemHost : IO (CommandLine.Host IO) := do
  return {
    environment := ← environment
    homes := ← homes
    time := ← timeMark
    read := readFile
    writeFailure? := writeFailure?
    isDirectory := isDirectory
    inputIsTerminal := ← (← IO.getStdin).isTty
    outputIsTerminal := ← (← IO.getStdout).isTty
    detail := Settings.Refusal.detail
  }

def put (stream : IO.FS.Stream) (text : Text) : IO Unit := do
  stream.putStr (toSystem text)
  stream.flush

def putNotes (time : Text) (logging : CommandLine.Logging) (notes : List CommandLine.Note) :
    IO Unit := do
  let err ← IO.getStderr
  put err (logging.errorText time (← err.isTty) notes)
  match logging.file with
  | none => return
  | some path =>
    let file ← IO.FS.Handle.mk (toSystem path.toText) .append
    file.putStr (toSystem (logging.fileText time notes))

/-- Feeds a session until it ends, or until there is nothing more to read, and gives
what it reported. -/
partial def feed (terminal : Viewer.Terminal) (records : List Log.Record) :
    IO (List Log.Record) := do
  let input ← (← IO.getStdin).read (USize.ofNat Key.Reads.size)
  if input.isEmpty then return records
  let bytes ← readFile terminal.session.store.path
  let (next, output) := terminal.read input.toList bytes
  output.written.forM (put (← IO.getStdout))
  let records := records ++ output.records
  if next.isRunning then feed next records else return records

/-- Runs a session.  What it asks of the mode of the terminal is left to whoever holds
that. -/
def runSession (session : Viewer.Session) : IO (List Log.Record) := do
  let bytes ← readFile session.store.path
  let (terminal, output) := Viewer.Terminal.start session bytes
  output.written.forM (put (← IO.getStdout))
  feed terminal output.records

def loadErrorText : Settings.LoadError → Text
  | .refused refusal => refusal.message Settings.Refusal.detail
  | .undecodable e => e.message
  | .unknown path failure => failure.message path
  | .homeless => Settings.homelessMessage
  | .beyond limit => limit.message

def failureText : CommandLine.Failure → Text
  | .settings e => loadErrorText e
  | .logging path failure => failure.message path
  | .unnameable => ReadFailure.unnameable.words
  | .unwritable => Text.ofString "a part of a colour has too many digits"

end Keychart

open Keychart in
def main (arguments : List String) : IO UInt32 := do
  let host ← systemHost
  let out ← IO.getStdout
  let err ← IO.getStderr
  match ← host.run (arguments.map Text.ofString) with
  | .refused e =>
    put err (e.write (← err.isTty))
    return 2
  | .told text =>
    put out (CommandLine.echo host.outputIsTerminal text)
    return 0
  | .reported logging report =>
    report.printed.forM fun text => put out (CommandLine.echo host.outputIsTerminal text)
    putNotes host.time logging report.notes
    report.failure.forM fun e => put err (failureText e ++ ['\n'])
    return UInt32.ofNat report.exitCode
  | .session logging notes session =>
    let records ← runSession session
    putNotes host.time logging (notes ++ CommandLine.recordNotes records)
    return 0
