import SourceCensus.Log.Level
import SourceCensus.Path

/-! # Log records

    A record says something at a level under the name of a logger. It also knows the occasion on
    which it was made: when, by which line of which file, and in which thread and process. What a
    record tells is asked for by name.

    ## Time

    The time of a record is told in a form. The usual form has milliseconds; a form of one's own is
    a text that says what stands where. How such a text is filled depends on the calendar and the
    language of the place, so the occasion holds the times as they are told there.
-/

namespace SourceCensus

/-! ## Occasions -/

/-- How a time is told. -/
inductive TimeForm where
  /-- In the usual form. -/
  | usual
  /-- In a form of one's own. -/
  | own (form : String)
  /-- In no form: what is given for one is no text. -/
  | unusable
  deriving DecidableEq, Repr

/-- The form that a setting gives. -/
def TimeForm.ofSetting (v : Json.Value) : TimeForm :=
  if v.truthy then
    match v with
    | .string s => own s
    | _ => unusable
  else usual

/-- On which occasion a record was made. -/
structure Occasion where
  /-- The time as it is told in the usual form. -/
  usualTime : String
  /-- The time as it is told in a form of one's own. -/
  timeIn : String → String
  /-- The time in seconds. -/
  seconds : Float
  /-- The milliseconds in the second. -/
  milliseconds : Float
  /-- The milliseconds since logging began. -/
  elapsed : Float
  /-- Path of the file. -/
  path : String
  /-- Line in the file. -/
  line : Int
  /-- Function in the file. -/
  function : String
  /-- Number of the thread. -/
  thread : Int
  /-- Name of the thread. -/
  threadName : String
  /-- Number of the process. -/
  process : Int
  /-- Name of the process. -/
  processName : String

/-- An occasion of which nothing is known. -/
def Occasion.unknown : Occasion where
  usualTime := ""
  timeIn := fun _ => ""
  seconds := 0
  milliseconds := 0
  elapsed := 0
  path := ""
  line := 0
  function := ""
  thread := 0
  threadName := ""
  process := 0
  processName := ""

/-- The time in a form. -/
def Occasion.time? (o : Occasion) : TimeForm → Option String
  | .usual => some o.usualTime
  | .own form => some (o.timeIn form)
  | .unusable => none

/-! ## Records -/

/-- A record to be logged. -/
structure LogRecord where
  /-- Name of the logger. -/
  name : String
  /-- Level of the record. -/
  level : Int
  /-- What it says. -/
  message : String
  /-- When and where it was made. -/
  occasion : Occasion

/-- What a record tells under a name. -/
inductive Filling where
  /-- A text. -/
  | text (t : List Char)
  /-- A whole number. -/
  | whole (n : Int)
  /-- A double. -/
  | real (x : Float)
  /-- Nothing, in a place where something could be. -/
  | nothing

namespace LogRecord

/-- What a record tells under a name, with its time in a form. -/
def filling? (r : LogRecord) (form : TimeForm) (key : String) : Option Filling :=
  let o := r.occasion
  let file := Path.base o.path
  let text (s : String) : Option Filling := some (.text s.toList)
  match key with
  | "name" => text r.name
  | "msg" | "message" => text r.message
  | "levelname" => text (Level.name r.level)
  | "levelno" => some (.whole r.level)
  | "asctime" => (o.time? form).map fun s => .text s.toList
  | "created" => some (.real o.seconds)
  | "msecs" => some (.real o.milliseconds)
  | "relativeCreated" => some (.real o.elapsed)
  | "pathname" => text o.path
  | "filename" => text file
  | "module" => text (Path.withoutExtension file)
  | "lineno" => some (.whole o.line)
  | "funcName" => text o.function
  | "thread" => some (.whole o.thread)
  | "threadName" => text o.threadName
  | "process" => some (.whole o.process)
  | "processName" => text o.processName
  | "args" | "exc_info" | "exc_text" | "stack_info" => some .nothing
  | _ => none

end LogRecord

end SourceCensus
