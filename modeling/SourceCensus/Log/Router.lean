import SourceCensus.Json.Integer
import SourceCensus.Log.Outlet

/-! # Routing of log records

    All records go to one router. It passes on those of at least its level to its handlers. A
    handler may be a foreign one, which is never touched; a queue, from which a listener hands
    records to outlets; or the plain console handler that is put in place when setting up
    fails.

    ## Setting up

    `configure` sets the level, takes away the handlers and the listener that it put in place
    before, and makes the outlets that the settings ask for. When there are any, a new queue
    with its listener is attached, and the router counts as configured. From then on `configure`
    does nothing unless it is forced to.

    A log file that the system refuses is reported on the console and left out. Anything else
    that goes wrong leads to the plain console handler.

    ## Without handlers

    A router without any handler still writes the message of a warning, or of anything above,
    to the console.
-/

namespace SourceCensus

open Json (Value)

/-! ## Settings -/

/-- How the log is to be set up. The members may hold any value. -/
structure LogSettings where
  /-- Name of the least level of the records that are written. -/
  level : Value := .string "INFO"
  /-- Whether records are written to the console. -/
  console : Value := .bool true
  /-- Path of a log file. -/
  logFile : Value := .null
  /-- Size that the log file may not reach. -/
  maxBytes : Value := .int (1024 * 1024)
  /-- Number of log files that are kept. -/
  backupCount : Value := .int 2
  /-- Template for the console. -/
  consoleTemplate : Value := .string "%(levelname)s | %(name)s | %(message)s"
  /-- Template for the log file. -/
  fileTemplate : Value := .string "%(asctime)s | %(levelname)s | %(name)s | %(message)s"
  /-- How the log file tells the time. -/
  timeForm : Value := .string "%Y-%m-%d %H:%M:%S"

/-! ## State -/

/-- What a router passes records on to. -/
inductive Handler where
  /-- A handler of someone else. -/
  | foreign (id : Nat)
  /-- A queue that a listener empties. -/
  | queue (id : Nat)
  /-- The plain console handler. -/
  | plain
  deriving DecidableEq, Repr

/-- The handler was put in place by `configure`. -/
def Handler.isOurs : Handler → Bool
  | .foreign _ => false
  | .queue _ => true
  | .plain => true

/-- What empties a queue. -/
structure Listener where
  /-- The queue that it empties. -/
  queue : Nat
  /-- The outlets to which it hands records, in order. -/
  outlets : List Outlet
  deriving DecidableEq, Repr

/-- All that routing depends on. -/
structure Router where
  /-- The least level of the records that are passed on. -/
  level : Int
  /-- The handlers, in order. -/
  handlers : List Handler
  /-- The running listener. -/
  listener : Option Listener
  /-- Whether the router counts as configured. -/
  configured : Bool
  /-- The number of queues made so far. -/
  queues : Nat
  /-- What lines are written to. -/
  sinks : Sinks

namespace Router

/-- A router before anything is set up. -/
def initial (files : FileStore) : Router where
  level := Level.ofSeverity .warning
  handlers := []
  listener := none
  configured := false
  queues := 0
  sinks := ⟨files, []⟩

/-- The handlers that `configure` put in place. -/
def ours (r : Router) : List Handler := r.handlers.filter (·.isOurs)

/-- The handlers of others. -/
def others (r : Router) : List Handler := r.handlers.filter (!·.isOurs)

/-- Adds a handler of someone else. -/
def addForeign (r : Router) (id : Nat) : Router :=
  { r with handlers := r.handlers ++ [.foreign id] }

/-! ## Records -/

/-- How the plain console handler writes a record. -/
def plainTemplate : Template := "FALLBACK | %(levelname)s | %(message)s".toList

/-- The outlet that the plain console handler is. -/
def plainOutlet : Outlet := ⟨.console, 0, plainTemplate, .usual⟩

/-- The name of the logger above all others, which has no name of its own. -/
def topName : String := "root"

/-- Passes a record on to one handler. -/
def handle (listener : Option Listener) (record : LogRecord) (sinks : Sinks) : Handler → Sinks
  | .foreign _ => sinks
  | .plain => plainOutlet.write record sinks
  | .queue id =>
    match listener with
    | none => sinks
    | some l => if l.queue = id then l.outlets.foldl (fun s o => o.write record s) sinks else sinks

/-- Logs a record. Levels that are not above zero are never passed on. -/
def log (r : Router) (record : LogRecord) : Router :=
  if record.level ≤ 0 || record.level < r.level then r
  else if r.handlers.isEmpty then
    if record.level < Level.ofSeverity .warning then r
    else { r with sinks := r.sinks.writeLine record.message.toList }
  else { r with sinks := r.handlers.foldl (handle r.listener record) r.sinks }

/-- Logs a message under the name of a logger. -/
def logMessage (r : Router) (occasion : Occasion) (name : String) (level : Int)
    (message : String) : Router :=
  r.log ⟨if name.isEmpty then topName else name, level, message, occasion⟩

/-! ## Outlets of the settings -/

/-- Opens a log file; the folder that holds it is made. Gives the file, or nothing when it is
    left out; `none` says that setting up has failed. -/
def openFile (sinks : Sinks) (settings : LogSettings) (path : String) :
    Sinks × Option (Option LogFile) :=
  let place := sinks.files.absolute path
  let refuse (sinks : Sinks) (e : FileError) : Sinks × Option (Option LogFile) :=
    if e.fromSystem then
      (sinks.writeLine ("WARNING: Cannot open log file '" ++ path ++ "': " ++ e.message).toList,
        some none)
    else (sinks, none)
  match sinks.files.makeFolders (Path.folder place) with
  | (files, .error e) => refuse { sinks with files } e
  | (files, .ok ()) =>
    let sinks : Sinks := { sinks with files }
    match settings.maxBytes.toInteger, settings.backupCount.toInteger with
    | .ok maxBytes, .ok backups =>
      match sinks.files.append place [] with
      | .ok files => ({ sinks with files }, some (some ⟨place, maxBytes, backups⟩))
      | .error e => refuse sinks e
    | _, _ => (sinks, none)

/-- The outlet for a log file, if one is asked for and can be opened; `none` says that setting
    up has failed. -/
def fileOutlets (sinks : Sinks) (settings : LogSettings) (level : Int) (template : Template) :
    Sinks × Option (List Outlet) :=
  if settings.logFile.truthy then
    match settings.logFile with
    | .string path =>
      match openFile sinks settings path with
      | (sinks, some file) =>
        (sinks, some (file.toList.map fun f =>
          ⟨.file f, level, template, .ofSetting settings.timeForm⟩))
      | (sinks, none) => (sinks, none)
    | _ => (sinks, none)
  else (sinks, some [])

/-- The outlets that settings ask for; `none` says that setting up has failed. -/
def makeOutlets (sinks : Sinks) (settings : LogSettings) (level : Int) :
    Sinks × Option (List Outlet) :=
  match Template.ofSetting? settings.consoleTemplate,
      Template.ofSetting? settings.fileTemplate with
  | some consoleTemplate, some fileTemplate =>
    let console : List Outlet :=
      if settings.console.truthy then [⟨.console, level, consoleTemplate, .usual⟩] else []
    match fileOutlets sinks settings level fileTemplate with
    | (sinks, some files) => (sinks, some (console ++ files))
    | (sinks, none) => (sinks, none)
  | _, _ => (sinks, none)

/-! ## Setting up -/

/-- Takes away what `configure` put in place. -/
def clear (r : Router) (level : Int) : Router :=
  { r with level, handlers := r.others, listener := none }

/-- Attaches a new queue, with a listener that hands its records to outlets. -/
def attach (r : Router) (outlets : List Outlet) : Router :=
  { r with
    handlers := r.handlers ++ [.queue r.queues]
    listener := some ⟨r.queues, outlets⟩
    configured := true
    queues := r.queues + 1 }

/-- The warning that setting up has failed. -/
def failureMessage : String :=
  "Logging setup failed. Switched to console-only output."

/-- Puts the plain console handler in place and says so. That handler tells nothing of the
    occasion. -/
def fallBack (r : Router) : Router :=
  let level := Level.ofSeverity .info
  let plain : Router := { r with level, handlers := r.others ++ [.plain] }
  plain.logMessage .unknown topName (Level.ofSeverity .warning) failureMessage

/-- Sets the log up, unless that was done before; `force` does it again. -/
def configure (r : Router) (settings : LogSettings) (force : Bool) : Router :=
  if r.configured && !force then r
  else
    let cleared := r.clear (Level.ofSetting settings.level)
    match makeOutlets cleared.sinks settings cleared.level with
    | (sinks, none) => fallBack { cleared with sinks }
    | (sinks, some []) => { cleared with sinks }
    | (sinks, some outlets) => attach { cleared with sinks } outlets

end Router

end SourceCensus
