import SourceCensus.Json.Value
import SourceCensus.Log.Entry
import SourceCensus.Number.Integer
import SourceCensus.Text.Case

/-! # Levels of a log

    A record has a level, which is a number. Five levels are severities and have their names;
    level zero has a name too, and any other level is named by its number. A setting names a
    level in any letter case and with white space around it; what names none means the level
    of an information.
-/

namespace SourceCensus.Level

/-- The severities. -/
def severities : List Severity := [.debug, .info, .warning, .error, .critical]

/-- The level of a severity. -/
def ofSeverity (s : Severity) : Int := s.number

/-- The name of a level. -/
def name (level : Int) : String :=
  match severities.find? fun s => ofSeverity s = level with
  | some s => s.name
  | none => if level = 0 then "NOTSET" else "Level " ++ Number.integerText level

/-- A text in capitals, letter by letter. -/
def capitals (s : String) : String := String.ofList (s.toList.map Text.upperChar)

/-- The severity that a word names. -/
def severityOf? (word : String) : Option Severity :=
  let key := capitals (Text.stripString word)
  if key = "WARN" then some .warning else severities.find? fun s => s.name = key

/-- The level that a setting names. -/
def ofSetting : Json.Value → Int
  | .string s => ofSeverity ((severityOf? s).getD .info)
  | _ => ofSeverity .info

end SourceCensus.Level
