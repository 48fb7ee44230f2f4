import Keychart.CommandLine.Run
import Keychart.Proofs.Settings.Limits
import Keychart.Proofs.Text.Encoded

/-!
# Broken settings files

A settings file is used or refused, and a refused one gives way to the usual settings,
exactly if it is a text within the limits of documents.  Whatever else is wrong with it
then ends no run.
-/

namespace Keychart

namespace Settings

/-- Loading ends with settings or with a refusal. -/
def Settles (loaded : Except LoadError Settings) : Prop :=
  (∃ settings, loaded = .ok settings) ∨ ∃ refusal, loaded = .error (.refused refusal)

/-- Bytes of a text that goes beyond no limit of documents. -/
def Readable (bytes : List UInt8) : Prop :=
  ∃ text, Text.encode text = bytes ∧
    ∀ limit, Toml.parse (Text.universalNewlines text) ≠ .error (.beyond limit)

private theorem not_settles_of_error
    {e : LoadError} (notRefused : ∀ refusal, e ≠ .refused refusal) :
    ¬ Settles (.error e) := by
  rintro (⟨settings, same⟩ | ⟨refusal, same⟩)
  · cases same
  · exact notRefused refusal (Except.error.inj same)

/-- Every fault of a document is refused, be it in its form or in what it says. -/
theorem settles_parse_iff (text : Text) :
    Settles (parse text) ↔ ∀ limit, Toml.parse text ≠ .error (.beyond limit) := by
  unfold parse
  cases parsed : Toml.parse text with
  | error flaw =>
      cases flaw with
      | malformed => exact ⟨fun _ => nofun, fun _ => Or.inr ⟨_, rfl⟩⟩
      | beyond limit =>
          constructor
          · exact fun settles => absurd settles (not_settles_of_error nofun)
          · exact fun within => absurd rfl (within limit)
  | ok document =>
      refine ⟨fun _ => nofun, fun _ => ?_⟩
      cases checked : Settings.ofValue document with
      | error found => exact Or.inr ⟨.faulty found, by simp only [checked]⟩
      | ok settings => exact Or.inl ⟨settings, by simp only [checked]⟩

private theorem ofFile_of_decode
    {bytes : List UInt8} {text : Text} (decoded : Text.decode bytes = .ok text) (path : Path) :
    ofFile path (.ok bytes) = parse (Text.universalNewlines text) := by
  simp only [ofFile, readText, decoded]

private theorem ofFile_of_undecodable
    {bytes : List UInt8} {e : Text.Utf8Error} (broken : Text.decode bytes = .error e)
    (path : Path) :
    ofFile path (.ok bytes) = .error (.undecodable e) := by
  simp only [ofFile, readText, broken]

theorem settles_ofFile_iff (path : Path) (bytes : List UInt8) :
    Settles (ofFile path (.ok bytes)) ↔ Readable bytes := by
  cases decoded : Text.decode bytes with
  | error e =>
      rw [ofFile_of_undecodable decoded path]
      constructor
      · exact fun settles => absurd settles (not_settles_of_error nofun)
      · rintro ⟨text, rfl, -⟩
        rw [Text.decode_eq_ok_iff.mpr rfl] at decoded
        cases decoded
  | ok text =>
      rw [ofFile_of_decode decoded path, settles_parse_iff]
      constructor
      · exact fun within => ⟨text, Text.decode_eq_ok_iff.mp decoded, within⟩
      · rintro ⟨other, rfl, within⟩
        rw [Text.decode_eq_ok_iff.mpr rfl] at decoded
        exact Except.ok.inj decoded ▸ within

/-- Short numbers and few brackets keep a text within the limits. -/
theorem readable_encode
    {text : Text} (fits : Toml.Fits Toml.maxRoom (Text.universalNewlines text)) :
    Readable (Text.encode text) := by
  refine ⟨text, rfl, fun limit => Toml.parse_ne_beyond ?_⟩
  rw [Toml.unixNewlines_eq_self (Text.not_mem_universalNewlines text)]
  exact fits

end Settings

namespace CommandLine

/-- What a run goes on with, and what it reports, for what became of loading settings. -/
inductive Chosen (detail : Settings.Refusal → Text)
    (loaded : Except Settings.LoadError Settings) : Settings → List Log.Record → Prop
  | given {settings : Settings} (found : loaded = .ok settings) :
      Chosen detail loaded settings []
  | usual {refusal : Settings.Refusal} (refused : loaded = .error (.refused refusal)) :
      Chosen detail loaded {} [refusedRecord detail refusal]

private theorem exists_chosen
    (detail : Settings.Refusal → Text) {loaded : Except Settings.LoadError Settings}
    (settles : Settings.Settles loaded) :
    ∃ settings records, settingsOrUsual detail loaded = .ok (settings, records) ∧
      Chosen detail loaded settings records := by
  rcases settles with ⟨settings, found⟩ | ⟨refusal, refused⟩
  · exact ⟨settings, [], by rw [found, settingsOrUsual], .given found⟩
  · exact ⟨{}, [refusedRecord detail refusal], by rw [refused, settingsOrUsual], .usual refused⟩

private theorem exists_error_of_not_settles
    (detail : Settings.Refusal → Text) {loaded : Except Settings.LoadError Settings}
    (lost : ¬ Settings.Settles loaded) : ∃ e, settingsOrUsual detail loaded = .error e := by
  cases loaded with
  | ok settings => exact absurd (Or.inl ⟨settings, rfl⟩) lost
  | error e =>
      cases e with
      | refused refusal => exact absurd (Or.inr ⟨refusal, rfl⟩) lost
      | undecodable e => exact ⟨_, rfl⟩
      | unknown path failure => exact ⟨_, rfl⟩
      | homeless => exact ⟨_, rfl⟩
      | beyond limit => exact ⟨_, rfl⟩

namespace Host

variable {m : Type → Type} [Monad m] [LawfulMonad m]
variable {host : Host m} {logging : Logging} {request : Request} {path : Path}
variable {bytes : List UInt8} {asked : m Unit}

private theorem settings_eq_map
    (named : host.settingsFile? request = some path)
    (held : host.readBeside logging [] path = (fun _ => .ok bytes) <$> asked) :
    host.settings logging request =
      (fun _ => settingsOrUsual host.detail (Settings.ofFile path (.ok bytes))) <$> asked := by
  rw [settings, named]
  simp only [held, map_eq_pure_bind, bind_assoc, pure_bind]

private theorem viewLogged_of_ok
    {settings : Settings} {records : List Log.Record}
    (loaded : host.settings logging request = (fun _ => .ok (settings, records)) <$> asked) :
    host.viewLogged logging request =
      asked >>= fun _ => host.viewUnder logging request settings records := by
  rw [viewLogged, loaded]
  simp only [map_eq_pure_bind, bind_assoc, pure_bind]

private theorem viewLogged_of_error
    {e : Settings.LoadError}
    (failed : host.settings logging request = (fun _ => .error e) <$> asked) :
    host.viewLogged logging request =
      asked >>= fun _ => pure (.reported logging (.failed [] (.settings e))) := by
  rw [viewLogged, failed]
  simp only [map_eq_pure_bind, bind_assoc, pure_bind]

end Host

/-- Whatever bytes a settings file holds: loading it ends with settings or a refusal exactly
if they can be read, and then the run goes on with the settings of the file, or with the usual
ones and a report. -/
theorem settings_file_ends_no_run (path : Path) (bytes : List UInt8) :
    (Settings.Settles (Settings.ofFile path (.ok bytes)) ↔ Settings.Readable bytes) ∧
      (∀ text, Text.encode text = bytes →
        Settings.Toml.Fits Settings.Toml.maxRoom (Text.universalNewlines text) →
          Settings.Readable bytes) ∧
      ∀ {m : Type → Type} [Monad m] [LawfulMonad m] (host : Host m) (logging : Logging)
        (request : Request) (asked : m Unit),
        host.settingsFile? request = some path →
        host.readBeside logging [] path = (fun _ => .ok bytes) <$> asked →
          (Settings.Readable bytes →
            ∃ settings records,
              Chosen host.detail (Settings.ofFile path (.ok bytes)) settings records ∧
              host.settings logging request = (fun _ => .ok (settings, records)) <$> asked ∧
              host.viewLogged logging request =
                asked >>= fun _ => host.viewUnder logging request settings records) ∧
          (¬ Settings.Readable bytes →
            ∃ e, host.viewLogged logging request =
              asked >>= fun _ => pure (.reported logging (.failed [] (.settings e)))) := by
  have settles := Settings.settles_ofFile_iff path bytes
  refine ⟨settles, ?_, ?_⟩
  · rintro text rfl fits
    exact Settings.readable_encode fits
  · intro m _ _ host logging request asked named held
    have settings := Host.settings_eq_map named held
    constructor
    · intro readable
      obtain ⟨found, records, loaded, chosen⟩ :=
        exists_chosen host.detail (settles.mpr readable)
      rw [loaded] at settings
      exact ⟨found, records, chosen, settings, Host.viewLogged_of_ok settings⟩
    · intro unreadable
      obtain ⟨e, loaded⟩ :=
        exists_error_of_not_settles host.detail (mt settles.mp unreadable)
      rw [loaded] at settings
      exact ⟨e, Host.viewLogged_of_error settings⟩

/-- A shade without quotes is refused, and the run goes on with the usual settings. -/
theorem settings_file_ends_no_run_unquoted :
    let bytes := Text.encode (Text.ofString "theme = light\n")
    let host : Host Id :=
      { environment := [], time := [], read := fun _ => .ok bytes,
        writeFailure? := fun _ => none, isDirectory := fun _ => false, detail := fun _ => [] }
    let request : Request := { config := some ['s'] }
    host.viewLogged {} request =
      host.viewUnder {} request {} [refusedRecord host.detail .notToml] := by
  intro bytes host request
  obtain ⟨-, reads, runs⟩ := settings_file_ends_no_run (Path.ofText ['s']) bytes
  have readable : Settings.Readable bytes :=
    reads _ rfl ⟨by decide, Settings.Toml.shortRuns_of_countP_le (by decide)⟩
  have malformed : Settings.Toml.parse (Text.ofString "theme = light\n") = .error .malformed := by
    cbv
  have refused : Settings.ofFile (Path.ofText ['s']) (.ok bytes) = .error (.refused .notToml) := by
    rw [Settings.ofFile_of_decode (Text.decode_eq_ok_iff.mpr rfl)]
    change Settings.parse (Text.ofString "theme = light\n") = _
    rw [Settings.parse, malformed]
  obtain ⟨settings, records, chosen, -, view⟩ :=
    (runs host {} request (pure ()) rfl rfl).1 readable
  rw [refused] at chosen
  cases chosen with
  | given found => cases found
  | usual same =>
      cases same
      exact view

/-- A byte that starts no character ends the run. -/
theorem not_settles_unstarted :
    ¬ Settings.Settles (Settings.ofFile (Path.ofText ['s']) (.ok [0xFF])) := by
  rw [Settings.ofFile_of_undecodable (e := ⟨.badStart, 0xFF, 0, 1⟩) rfl]
  exact Settings.not_settles_of_error nofun

end CommandLine

end Keychart
