import FieldValidation.Json.Writer
import FieldValidation.Settings.Environment

/-!
# Log lines

A log entry has a level, a message and perhaps some data. It is written as a line for people, or
in production as a JSON record with the time. Debug entries are written only where debugging is
switched on.

## Main definitions

* `LogEntry`: an entry of the log
* `LogEntry.line`: the line of an entry
* `LogEntry.written?`: the line and the channel of an entry, if it is written at all
-/

namespace FieldValidation

/-- The level of a log entry. -/
inductive LogLevel where
  | debug
  | info
  | warn
  | error
  deriving DecidableEq

/-- The stream that a line goes to. -/
inductive LogChannel where
  | info
  | warn
  | error
  deriving DecidableEq

/-- The name of a level. -/
def LogLevel.label : LogLevel → Text
  | .debug => "DEBUG"
  | .info => "INFO"
  | .warn => "WARN"
  | .error => "ERROR"

/-- The stream for a level. -/
def LogLevel.channel : LogLevel → LogChannel
  | .debug | .info => .info
  | .warn => .warn
  | .error => .error

/-- What a log says of a document that is not JSON. -/
def parseFault : Text := "<parse error>"

/-- An entry of the log. -/
structure LogEntry where
  level : LogLevel
  message : Text
  data : Option (Entries Value)

namespace LogEntry

/-- An entry with data. -/
def withData (level : LogLevel) (message : Text) (data : List (String × Value)) : LogEntry :=
  ⟨level, message, some (data.map fun (key, v) => (Text.ofString key, v))⟩

/-- The line of a message at a level; with `time` it is a JSON record. -/
def lineOf (time : Option Text) (label message : Text) (data : Option (Entries Value)) : Text :=
  match time with
  | some now =>
    let head : Entries Value :=
      [("timestamp", .text now), ("level", .text label), ("message", .text message)]
    let tail : Entries Value := match data with
      | some data => [("meta", .record data)]
      | none => []
    Json.write (.record (head ++ tail))
  | none =>
    label ++ unit ' ' :: message ++
      (match data with
        | some data => unit ' ' :: Json.write (.record data)
        | none => [])

/-- The line of an entry; in production it has the time `now` in it. -/
def line (entry : LogEntry) (environment : Environment) (now : Text) : Text :=
  lineOf (if environment.isProduction then some now else none) entry.level.label entry.message
    entry.data

/-- The stream and the line of an entry, unless it is a debug entry and debugging is off. -/
def written? (entry : LogEntry) (environment : Environment) (now : Text) :
    Option (LogChannel × Text) :=
  if entry.level = .debug && !environment.isDebugging then none
  else some (entry.level.channel, entry.line environment now)

end LogEntry

end FieldValidation
