import SourceCensus.FileStore

/-! # Surveys

    A survey lists what was selected below a folder: the files that are taken and the folders
    that are entered, each with its path, sorted by name at every level. A file is listed when
    it is taken itself and every folder above it is entered; a folder that is entered is listed
    even when nothing is left in it.
-/

namespace SourceCensus

/-- What was selected below a folder. -/
inductive Survey where
  /-- A file that is taken. -/
  | file (path : String)
  /-- A folder that is entered, with what was selected in it. -/
  | folder (path : String) (items : List Survey)

namespace Survey

/-- Decides by their paths which files are taken and which folders are entered. -/
structure Chooser where
  /-- The file with this path is taken. -/
  takesFile : String → Bool
  /-- The folder with this path is entered. -/
  entersFolder : String → Bool

/-- The items under names, in ascending order of the names. -/
def sorted (items : List (String × Survey)) : List Survey :=
  (items.mergeSort fun a b => decide (a.1 ≤ b.1)).map (·.2)

/-- What is selected of the entries of the folder at a path, with the names of the entries. -/
def ofEntries (chooser : Chooser) (path : String) : List (String × Entry) → List (String × Survey)
  | [] => []
  | (name, .file _) :: rest =>
    let inner := Path.join path name
    let others := ofEntries chooser path rest
    if chooser.takesFile inner then (name, .file inner) :: others else others
  | (name, .folder entries) :: rest =>
    let inner := Path.join path name
    let others := ofEntries chooser path rest
    if chooser.entersFolder inner then
      (name, .folder inner (sorted (ofEntries chooser inner entries))) :: others
    else others

/-- What is selected below the folder at a path. The folder itself is entered in any case. -/
def ofFolder (chooser : Chooser) (path : String) (entries : List (String × Entry)) : Survey :=
  .folder path (sorted (ofEntries chooser path entries))

mutual

/-- The paths of the files of a survey, in the order in which they are met. -/
def files : Survey → List String
  | .file path => [path]
  | .folder _ items => filesOf items

/-- The paths of the files of several surveys. -/
def filesOf : List Survey → List String
  | [] => []
  | s :: rest => files s ++ filesOf rest

end

end Survey

end SourceCensus
