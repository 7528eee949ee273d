import SourceCensus.FileStore
import SourceCensus.Log.Template

/-! # Outlets of a log

    An outlet writes the records of at least its level as lines made by its template: to the
    console, or to the end of a file.

    ## Files that roll over

    A log file may have a limit. Before a line that would reach it, the files that were closed
    before move up by one number, the last one is lost, and the log file itself becomes number
    one. Where no file is to be kept nothing moves, and the log file goes on growing. The size
    of the file counts in bytes and that of the line in characters.
-/

namespace SourceCensus

/-- What log lines are written to. -/
structure Sinks where
  /-- The files. -/
  files : FileStore
  /-- All that was written to the console. -/
  console : Text

namespace Sinks

/-- Writes to the console. -/
def writeConsole (s : Sinks) (t : Text) : Sinks := { s with console := s.console ++ t }

/-- Writes a line to the console. -/
def writeLine (s : Sinks) (line : Text) : Sinks := s.writeConsole (line ++ ['\n'])

/-- Writes at the end of a file, if the file can be written. -/
def append (s : Sinks) (path : String) (t : Text) : Sinks :=
  match s.files.append path (Text.encode t) with
  | .ok files => { s with files }
  | .error _ => s

end Sinks

/-- A log file with its limit. -/
structure LogFile where
  /-- Absolute path. -/
  path : String
  /-- The size that the file may not reach; there is no limit unless it is above zero. -/
  maxBytes : Int
  /-- The number of files that are kept when the log file rolls over. -/
  backups : Int
  deriving DecidableEq, Repr

namespace LogFile

/-- The path of a file that was kept. -/
def backupPath (f : LogFile) (number : Nat) : String := f.path ++ "." ++ toString number

/-- Moves a file that is there to another path, in place of any file at that path. -/
def move (fs : FileStore) (p q : String) : FileStore :=
  if fs.isThere p then
    match (fs.remove q).rename p q with
    | .ok moved => moved
    | .error _ => fs
  else fs

/-- Moves the files that were kept up by one number, the highest first. -/
def moveUp (f : LogFile) : Nat → FileStore → FileStore
  | 0, fs => fs
  | number + 1, fs =>
    moveUp f number (move fs (f.backupPath (number + 1)) (f.backupPath (number + 2)))

/-- Starts a new log file, and keeps the one before as the first of those kept. -/
def rollOver (f : LogFile) (fs : FileStore) : FileStore :=
  if 0 < f.backups then
    let cleared := (f.moveUp (f.backups.toNat - 1) fs).remove (f.backupPath 1)
    let moved := move cleared f.path (f.backupPath 1)
    match moved.append f.path [] with
    | .ok fresh => fresh
    | .error _ => moved
  else fs

/-- The number of bytes in the file. -/
def size (f : LogFile) (fs : FileStore) : Nat :=
  match fs.read f.path with
  | .ok content => content.length
  | .error _ => 0

/-- A line would reach the limit. Only a file can roll over. -/
def mustRollOver (f : LogFile) (fs : FileStore) (line : Text) : Bool :=
  if fs.isThere f.path && !fs.isFile f.path then false
  else 0 < f.maxBytes && f.maxBytes ≤ (f.size fs + (line.length + 1) : Nat)

/-- Writes a line, after starting a new file where that is due. -/
def writeLine (f : LogFile) (s : Sinks) (line : Text) : Sinks :=
  let ready : Sinks :=
    if f.mustRollOver s.files line then { s with files := f.rollOver s.files } else s
  ready.append f.path (line ++ ['\n'])

end LogFile

/-! ## Outlets -/

/-- Where lines go. -/
inductive Outlet.Target where
  | console
  | file (f : LogFile)
  deriving DecidableEq, Repr

/-- What writes records of at least a level. -/
structure Outlet where
  /-- Where its lines go. -/
  target : Outlet.Target
  /-- The least level of the records that it writes. -/
  level : Int
  /-- How it writes a record. -/
  template : Template
  /-- How it tells the time of a record. -/
  timeForm : TimeForm
  deriving DecidableEq, Repr

namespace Outlet

/-- Writes a record. A record below the level or that does not fit the template is left out. -/
def write (o : Outlet) (r : LogRecord) (s : Sinks) : Sinks :=
  if r.level < o.level then s
  else
    match o.template.fill? o.timeForm r with
    | none => s
    | some line =>
      match o.target with
      | .console => s.writeLine line
      | .file f => f.writeLine s line

end Outlet

end SourceCensus
