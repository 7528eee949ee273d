import SourceCensus.FileStore
import SourceCensus.Glob
import SourceCensus.Json.Value
import SourceCensus.Log.Entry
import SourceCensus.Pattern.Matcher
import SourceCensus.Text.Case

/-! # Selection of files and folders

    Names are selected by rules: patterns, which a configuration lists as texts, and globs,
    which come from an ignore file. A file is taken when no exclusion holds of its name, some
    inclusion does, and its extension is one of those asked for; a folder is entered when no
    exclusion holds of its name. Only the last part of a path counts.

    A text that is no pattern is dropped with a warning. A few errors are no matter of the
    syntax and are not passed over: they stop the selection from being made.
-/

namespace SourceCensus

open Pattern (Compiled Facilities PatternError)

/-! ## Rules -/

/-- A condition on a name. -/
inductive NameRule where
  /-- The pattern matches somewhere in the name. -/
  | pattern (c : Compiled)
  /-- The glob stands for an ending of the name. -/
  | glob (g : Glob)

namespace NameRule

/-- The rule holds of a name. -/
def holds (name : String) : NameRule → Bool
  | .pattern c => c.search name
  | .glob g => g.found name.toList

/-- Some rule holds of a name. -/
def anyHolds (rules : List NameRule) (name : String) : Bool := rules.any (holds name)

/-- Some rule of a list of inclusions holds of a name. An empty list includes nothing. -/
def includes (rules : List NameRule) (name : String) : Bool :=
  if rules.isEmpty then false else rules.any (holds name)

/-- The warning about a text that is no pattern, with what is wrong with it. -/
def dropped (source reason : String) : LogEntry :=
  ⟨.warning, "Ignoring invalid pattern '" ++ source ++ "': " ++ reason⟩

section

variable (f : Facilities)

/-- The pattern that a value writes. -/
def patternOf : Json.Value → Except PatternError Compiled
  | .string s => Pattern.compile f s
  | .array items => .error (.container (Json.Value.array items).typeName)
  | .object members => .error (.container (Json.Value.object members).typeName)
  | _ => .error .notText

/-- The patterns that values write, in their order, and a warning for each text that is none. Other
    errors are not passed over. -/
def ofValues : List Json.Value → Except PatternError (List Compiled × List LogEntry)
  | [] => .ok ([], [])
  | v :: vs =>
    match patternOf f v with
    | .ok c => (ofValues vs).map fun (cs, log) => (c :: cs, log)
    | .error e =>
      if e.isMalformed then
        let source := v.string?.getD ""
        (ofValues vs).map fun (cs, log) => (cs, dropped source (e.message source) :: log)
      else .error e

/-- The rules that texts write, and a warning for each text that is no pattern. -/
def ofSources (sources : List String) : Except PatternError (List NameRule × List LogEntry) :=
  (ofValues f (sources.map .string)).map fun (cs, log) => (cs.map .pattern, log)

end

end NameRule

/-! ## Selection -/

/-- Which files and folders are looked at. -/
structure Selection where
  /-- Extensions with their dot, or whole names of files without one, in any case. -/
  extensions : List String
  /-- Rules of which one has to hold of a file's name. -/
  included : List NameRule
  /-- Rules of which none may hold of a file's or folder's name. -/
  excluded : List NameRule

namespace Selection

/-- A name has one of the extensions, or is one of them. -/
def hasExtension (s : Selection) (name : String) : Bool :=
  let allowed := s.extensions.map Text.lowerString
  allowed.contains (Text.lowerString (Path.extension name)) ||
    allowed.contains (Text.lowerString name)

/-- The file with this path is taken. -/
def takesFile (s : Selection) (path : String) : Bool :=
  let name := Path.base path
  !NameRule.anyHolds s.excluded name && NameRule.includes s.included name && s.hasExtension name

/-- The folder with this path is entered. -/
def entersFolder (s : Selection) (path : String) : Bool :=
  !NameRule.anyHolds s.excluded (Path.base path)

end Selection

/-! ## Ignore files -/

/-- The name of an ignore file. -/
def ignoreFileName : String := ".gitignore"

/-- The globs of the ignore file of a folder, with a report of how many there are. A folder
    without one has none and reports nothing. -/
def FileStore.ignoreRules (fs : FileStore) (folder : String) :
    Except FileError (List Glob × List LogEntry) :=
  let path := Path.join folder ignoreFileName
  if fs.isFile path then
    (fs.readText path).map fun t =>
      let globs := Glob.ofIgnoreFile t
      (globs, [⟨.debug, "Loaded " ++ toString globs.length ++ " patterns from " ++ path⟩])
  else .ok ([], [])

end SourceCensus
