import SourceCensus.Json.Value

/-! # Configurations

    A configuration is an object with eight known members and any number of others, which
    are kept but mean nothing here. Outside it has the form of JSON members; `Settings` is
    the typed form of the known ones.
-/

namespace SourceCensus

open Json (Value Members)

/-- What an analysis is told to do. -/
structure Settings where
  /-- Folder to look at. -/
  inputPath : String
  /-- Extensions of the files that are read. -/
  extensions : List String
  /-- Patterns of which a file's name has to match one. -/
  includePatterns : List String
  /-- Patterns of which no name may match one. -/
  excludePatterns : List String
  /-- Whether the rules of the ignore file exclude names as well. -/
  respectIgnoreFile : Bool
  /-- Number of nodes that the tree may keep. -/
  maxNodeCount : Int
  /-- Number of files that may be read at the same time. -/
  maxWorkers : Int
  /-- File to which the tree is written; none when empty. -/
  outputPath : String
  deriving DecidableEq, Repr

namespace Settings

/-! ## Names of the members -/

/-- Name of the member for the folder to look at. -/
def inputPathName : String := "input_path"

/-- Name of the member for extensions. -/
def extensionsName : String := "extensions"

/-- Name of the member for inclusions. -/
def includePatternsName : String := "include_patterns"

/-- Name of the member for exclusions. -/
def excludePatternsName : String := "exclude_patterns"

/-- Name of the member for the ignore file. -/
def respectIgnoreFileName : String := "respect_gitignore"

/-- Name of the member for the number of nodes. -/
def maxNodeCountName : String := "max_node_count"

/-- Name of the member for the number of workers. -/
def maxWorkersName : String := "max_workers"

/-- Name of the member for the output. -/
def outputPathName : String := "output_path"

/-! ## Defaults -/

/-- The extensions that are read by default. -/
def defaultExtensions : List String := [".cs"]

/-- The default inclusions: everything. -/
def defaultIncludePatterns : List String := [".*"]

/-- The default exclusions: folders of built files, folders that tools keep for themselves,
    generated files, and all that is hidden. -/
def defaultExcludePatterns : List String :=
  ["^(bin|obj|packages|node_modules)$", "^(\\.git|\\.vs|\\.idea|\\.vscode)$",
   ".*\\.(g|designer|generated)\\.cs$", "^\\."]

/-- The settings that hold when nothing else is said. -/
def default (currentFolder : String) : Settings where
  inputPath := currentFolder
  extensions := defaultExtensions
  includePatterns := defaultIncludePatterns
  excludePatterns := defaultExcludePatterns
  respectIgnoreFile := false
  maxNodeCount := 256
  maxWorkers := 4
  outputPath := ""

/-! ## Members -/

/-- The settings as members, in the order in which they are written. -/
def toMembers (s : Settings) : Members :=
  [(inputPathName, .string s.inputPath),
   (extensionsName, .ofStrings s.extensions),
   (includePatternsName, .ofStrings s.includePatterns),
   (excludePatternsName, .ofStrings s.excludePatterns),
   (respectIgnoreFileName, .bool s.respectIgnoreFile),
   (maxNodeCountName, .int s.maxNodeCount),
   (maxWorkersName, .int s.maxWorkers),
   (outputPathName, .string s.outputPath)]

/-- The names of the known members. -/
def memberNames : List String :=
  [inputPathName, extensionsName, includePatternsName, excludePatternsName,
   respectIgnoreFileName, maxNodeCountName, maxWorkersName, outputPathName]

end Settings

/-- Settings, and the members that are none of them. -/
structure Config where
  /-- The known members. -/
  settings : Settings
  /-- All other members, in their order. -/
  others : Members

namespace Config

/-- The members of a configuration: the known ones first. -/
def toMembers (c : Config) : Members := c.settings.toMembers ++ c.others

/-- The configuration that holds when nothing else is said. -/
def default (currentFolder : String) : Config := ⟨.default currentFolder, []⟩

end Config

end SourceCensus
