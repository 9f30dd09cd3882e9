import FieldValidation.Failure.Basic
import FieldValidation.Json.Reader
import FieldValidation.Log.Line
import FieldValidation.Settings.Files
import FieldValidation.Settings.Line
import FieldValidation.Value.Written

/-!
# Loading settings

Settings come from the first configuration file that can be used and then from a file of setting
lines. They only ever fill in variables that are not set, so what is set first stays. Loading ends
early at a value that is to be filled in and has no text form, and at a file of lines that is there
but cannot be read; what has been filled in before stays.

## Main definitions

* `Sources`: the files to load from
* `Environment.fill`: filling in variables
* `Loading`, `Sources.load`: what loading comes to
* `Settings`: an environment that is loaded once, when it is first asked
-/

namespace FieldValidation

/-- The files that settings are loaded from. -/
structure Sources where
  configPaths : List Text
  linesPath : Text

/-- The files that settings are loaded from unless told otherwise: those of the project before
those of the user. -/
def Sources.usual : Sources where
  configPaths :=
    ["./.config/field-rules/env.json", "~/.config/field-rules/env.json"].map Text.ofString
  linesPath := ".env"

/-- A line in the log, with its stream. -/
abbrev LogLine := LogChannel × Text

/-- What loading has come to: the environment, the lines it has logged, and the failure that ended
it, if one did. -/
structure Loading where
  environment : Environment
  lines : List LogLine
  failure : Option Failure

namespace Environment

/-- The environment with variables filled in from some entries, and how many of them were tried. A
value that has no text form ends it where it is to be filled in. -/
def fill : Environment → List (Text × Value) → Environment × Except Failure Nat
  | environment, [] => (environment, .ok 0)
  | environment, (name, value) :: rest =>
    if environment.isTaken name then environment.fill rest
    else
      match value.written? with
      | none => (environment, .error .noTextForm)
      | some text =>
        let (filled, tried) := (environment.trySet name text).fill rest
        (filled, tried.map (· + 1))

end Environment

namespace Sources

/-- The lines that an entry leaves in the log. -/
def logged (environment : Environment) (now : Text) (entry : LogEntry) : List LogLine :=
  (entry.written? environment now).toList

/-- The data of a log entry on a configuration file. -/
def pathData (path : Text) (others : List (String × Value)) : List (String × Value) :=
  ("configPath", .text path) :: others

/-- Loads the entries of a configuration file. -/
def loadEntries (now : Text) (environment : Environment) (path : Text) (entries : Entries Value) :
    Loading :=
  match environment.fill entries with
  | (filled, .error failure) => ⟨filled, [], some failure⟩
  | (filled, .ok tried) =>
    ⟨filled, logged filled now (.withData .debug "Loaded validation configuration"
      (pathData path [("variableCount", .number (.ofNat tried))])), none⟩

/-- Loads the first of some configuration files that can be used; the others before it are warned
of. -/
def loadConfig (files : Files) (now : Text) (environment : Environment) : List Text → Loading
  | [] => ⟨environment, [], none⟩
  | path :: rest =>
    let pass (message : Text) (others : List (String × Value)) : Loading :=
      let loading := loadConfig files now environment rest
      { loading with
        lines := logged environment now (.withData .warn message (pathData path others)) ++
          loading.lines }
    match files path with
    -- the files are optional, so one that is missing is no cause for a warning
    | .absent => loadConfig files now environment rest
    | .unreadable reason => pass "Unreadable validation configuration" [("error", .text reason)]
    | .content content =>
      match Json.read? content with
      | none => pass "Unreadable validation configuration" [("error", .text parseFault)]
      | some (.record entries) => loadEntries now environment path entries
      | some _ => pass "Invalid validation configuration - not an object" []

/-- The entries of setting lines. -/
def entriesOfLines (content : Text) : List (Text × Value) :=
  (Setting.ofFile content).map fun (key, value) => (key, .text value)

/-- Loads the setting lines in addition to what has been loaded. -/
def loadLines (files : Files) (path : Text) (loading : Loading) : Loading :=
  match files path with
  | .absent => loading
  | .unreadable reason => { loading with failure := some (.unreadableFile reason) }
  | .content content =>
    { loading with environment := (loading.environment.fill (entriesOfLines content)).1 }

/-- Loads the sources into an environment: the configuration and then, unless that has failed, the
setting lines. -/
def load (sources : Sources) (files : Files) (now : Text) (environment : Environment) : Loading :=
  let configured := loadConfig files now environment sources.configPaths
  match configured.failure with
  | some _ => configured
  | none => loadLines files sources.linesPath configured

end Sources

/-- An environment and whether the usual sources have been loaded into it. -/
structure Settings where
  environment : Environment
  loaded : Bool

namespace Settings

/-- Loads the usual sources unless that has been tried before; gives the settings after it, the
lines it has logged, and the failure that ended it, if one did. -/
def load (settings : Settings) (files : Files) (now : Text) :
    Settings × List LogLine × Option Failure :=
  if settings.loaded then (settings, [], none)
  else
    let loading := Sources.usual.load files now settings.environment
    (⟨loading.environment, true⟩, loading.lines, loading.failure)

/-- The value of a variable in loaded settings, or the fallback; the empty text counts as no
value. -/
def get (settings : Settings) (key : Text) (fallback : Option Text) (required : Bool) :
    Except Failure Text :=
  let value := (settings.environment.nonEmpty? (Environment.held key)).orElse fun _ => fallback
  match value.filter (· ≠ []) with
  | some text => .ok text
  | none => if required then .error (.missingSetting key) else .ok []

end Settings

end FieldValidation
