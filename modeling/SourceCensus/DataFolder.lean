import SourceCensus.FileStore

/-! # The folder for kept data

    Configuration and logs of a user are kept in one folder: below the folder for local
    application data where the platform names one, and in the home folder otherwise. The
    folder is made when it is looked up; that it cannot be made is no failure.
-/

namespace SourceCensus

/-- The conventions of a system about where data is kept. -/
inductive Platform where
  /-- Data is kept in hidden folders of the home folder. -/
  | posix
  /-- Variables name a folder for data. -/
  | windows
  deriving DecidableEq, Repr

namespace DataFolder

/-- The folder's name where a variable names the place for data. -/
def visibleName : String := "CodeSpectrum"

/-- The folder's name in the home folder. -/
def hiddenName : String := ".codespectrum"

/-- The name of the folder for logs. -/
def logsName : String := "logs"

/-- The name of a log file when no other is given. -/
def defaultLogName : String := "codespectrum.log"

/-- The value of a variable, unless it is empty. -/
def filled? (env : Environment) (name : String) : Option String :=
  (env.get? name).filter (· ≠ "")

/-- The folder in which the platform keeps data. -/
def place? (env : Environment) : Platform → Option String
  | .posix => none
  | .windows => filled? env "LOCALAPPDATA" <|> filled? env "APPDATA"

/-- The path of the folder as it is first formed. -/
def givenPath (env : Environment) (platform : Platform) : String :=
  match place? env platform with
  | some place => Path.join place visibleName
  | none => Path.join (Path.expandHome env "~") hiddenName

/-- The absolute path of the folder. -/
def path (env : Environment) (platform : Platform) : String :=
  Path.absolute env.currentFolder (givenPath env platform)

/-- Makes the folder, if that can be done. -/
def make (env : Environment) (platform : Platform) (fs : FileStore) : FileStore :=
  (fs.makeFolders (givenPath env platform)).1

/-- The path of a log file. -/
def logPath (env : Environment) (platform : Platform) (fileName : String) : String :=
  Path.join (Path.join (path env platform) logsName) fileName

end DataFolder

end SourceCensus
