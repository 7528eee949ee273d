import SourceCensus.Config.Basic
import SourceCensus.DataFolder
import SourceCensus.Json.Reader
import SourceCensus.Json.Writer
import SourceCensus.Session

/-! # Keeping a configuration in a file

    A configuration is written as indented JSON. Reading puts the members of the file over
    the defaults, so that every known member is there; a file that is missing, unreadable, or
    holds no object leaves the defaults.
-/

namespace SourceCensus.Config

open Json (Value Members)
open Session

/-- The name of the file for the configuration. -/
def fileName : String := "config.json"

/-- The indentation of the file. -/
def fileIndent : Nat := 4

/-- The path of the file when no other is given. The folder that holds it is made. -/
def defaultPath : Work String := do
  let env := (← get).environment
  change fun fs => (DataFolder.make env .posix fs, ())
  return Path.join (DataFolder.path env .posix) fileName

/-- The given path, unless it is missing or empty. -/
def pathOr (path : Option String) : Work String :=
  match path with
  | none => defaultPath
  | some p => if p.isEmpty then defaultPath else return p

/-- Why a file holds no value. -/
inductive LoadError where
  /-- The file cannot be read. -/
  | file (e : FileError)
  /-- Its bytes are no text. -/
  | bytes (fault : Text.ByteFault)
  /-- The text is no document. -/
  | document (t : Text) (e : Json.ReadError)

/-- The message about a file that holds no value. -/
def LoadError.message : LoadError → String
  | .file e => e.message
  | .bytes fault => fault.message
  | .document t e => e.message t

/-- The value that the content of a file writes. Line endings count as line feeds. -/
def readContent (content : Text.Bytes) : Except LoadError Value :=
  match Text.decodeStrict content with
  | .error fault => .error (.bytes fault)
  | .ok t =>
    match Json.read t.normalizeNewlines with
    | .error e => .error (.document t.normalizeNewlines e)
    | .ok v => .ok v

/-- The value in a file. -/
def readFile (fs : FileStore) (path : String) : Except LoadError Value :=
  match fs.read path with
  | .ok content => readContent content
  | .error e => .error (.file e)

/-- The members in a file over the defaults. -/
def load (path : Option String) : Work Members := do
  let path ← pathOr path
  let defaults := (Config.default (← get).environment.currentFolder).toMembers
  if ← ask (·.isThere path) then
    match ← ask (readFile · path) with
    | .ok (.object ms) => return defaults.update ms
    | .ok _ =>
      note .warning "Corrupted config file. Resetting to defaults."
      return defaults
    | .error e =>
      note .error ("Failed to load config from " ++ path ++ ": " ++ e.message
        ++ ". Using defaults.")
      return defaults
  else
    note .debug ("Config file not found at " ++ path ++ ". Using defaults.")
    return defaults

/-- The text of a configuration file. -/
def fileText (ms : Members) : Text := Json.writeValue fileIndent 0 (.object ms)

/-- Writes members to a file. That the system refuses this is reported in the log. -/
def save (ms : Members) (path : Option String) : Work (Except FileError Unit) := do
  let path ← pathOr path
  match ← change (·.writeText path (fileText ms)) with
  | .ok () =>
    note .debug ("Configuration saved to " ++ path)
    return .ok ()
  | .error e =>
    if e.fromSystem then
      note .error ("Failed to save configuration: " ++ e.message)
      return .ok ()
    else return .error e

end SourceCensus.Config
