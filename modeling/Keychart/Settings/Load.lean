import Keychart.Files.Read
import Keychart.Settings.Basic
import Keychart.Settings.Toml.Parse

/-!
# Loading settings

The settings file is a TOML document.  A missing file gives the usual settings;
a file that cannot be read or used is refused with its cause.
-/

namespace Keychart.Settings

/-- Why a settings file gives no settings. -/
inductive Refusal where
  | unreadable (path : Path) (failure : ReadFailure)
  | notToml
  | faulty (found : List Finding)
deriving DecidableEq, Repr

/-- Why loading settings ends otherwise than with settings. -/
inductive LoadError where
  | refused (refusal : Refusal)
  /-- The file is no text. -/
  | undecodable (e : Text.Utf8Error)
  /-- The system does not even say whether the file exists. -/
  | unknown (path : Path) (failure : ReadFailure)
  /-- There is no home directory to look in. -/
  | homeless
  /-- The document goes beyond what is read. -/
  | beyond (limit : Toml.Limit)
deriving DecidableEq, Repr

def homelessMessage : Text := Text.ofString "Could not determine home directory."

namespace Refusal

def summary : Refusal → Text
  | unreadable path failure =>
    Text.ofString "Failed to read user config file " ++ path.toText ++ [':', ' '] ++
      failure.message path
  | notToml => Text.ofString "Failed to parse user config file"
  | faulty _ => Text.ofString "Invalid user config"

/-- The refusal with a detail that describes it further, unless the words say
all. -/
def message (detail : Refusal → Text) (refusal : Refusal) : Text :=
  match refusal with
  | unreadable _ _ => refusal.summary
  | _ => refusal.summary ++ [':', ' '] ++ detail refusal

end Refusal

def parse (text : Text) : Except LoadError Settings :=
  match Toml.parse text with
  | .error .malformed => .error (.refused .notToml)
  | .error (.beyond limit) => .error (.beyond limit)
  | .ok value =>
    match Settings.ofValue value with
    | .ok settings => .ok settings
    | .error found => .error (.refused (.faulty found))

def defaultFile? (env : Environment) : Option Path :=
  let names := [Text.ofString "apekey", Text.ofString "apekey.toml"]
  match env.nonempty? (Text.ofString "XDG_CONFIG_HOME") with
  | some directory => some ((Path.ofText directory).append names)
  | none =>
    (Path.home? env).map fun home =>
      (Path.ofText (home.append [Text.ofString ".config"]).toText).append names

def ofFile (path : Path) (bytes : Bytes) : Except LoadError Settings :=
  match bytes with
  | .error .notFound => .ok {}
  | .error .notDirectory => .ok {}
  | .error .isDirectory => .error (.refused (.unreadable path .isDirectory))
  | .error .unnameable => .ok {}
  | .error .nameTooLong => .error (.unknown path .nameTooLong)
  | .error (.other number words) =>
    .error (.refused (.unreadable path (.other number words)))
  | .ok bytes =>
    match readText (.ok bytes) with
    | .error (.undecodable e) => .error (.undecodable e)
    | .error (.unreadable failure) => .error (.refused (.unreadable path failure))
    | .ok text => parse text

/-- Where the annotated source is, with variables and a home directory in their
place; nothing when that home directory is not known. -/
def source? (env : Environment) (homes : Path.Homes) (settings : Settings) : Option Path :=
  Path.expandHome? env homes (Path.ofText (Path.expandVariables env settings.sourcePath))

end Keychart.Settings
