import SourceCensus.Path
import SourceCensus.Text.Quoted
import SourceCensus.Text.Utf8

/-! # File stores

    A file store is a tree of folders with named entries, together with a current folder.
    A path is followed part by part from the root or from the current folder: a part that
    is empty or a single dot stays where it is, a double dot goes up, and any other part has
    to be an entry of the folder reached so far. So all parts but the last have to lead through
    folders that exist, and a path that ends in a slash names a folder.

    ## Errors

    An operation on a path may fail for one of six causes. A failed operation says which path
    it was given, and leaves the store as it was.

    ## Operations

    Reading looks a path up; writing, appending and making a folder change the entry that a
    path names, in a folder that has to exist. `makeFolders` makes the folders on the way too.
-/

namespace SourceCensus

open Text (Bytes)

/-! ## Errors -/

/-- Why an operation on a file fails. -/
inductive FileError.Cause where
  /-- The path, or a folder on the way, is not there. -/
  | missing
  /-- Something is there already. -/
  | alreadyThere
  /-- A part on the way is a file. -/
  | notFolder
  /-- The path names a folder. -/
  | isFolder
  /-- A part of the path is too long for a name. -/
  | nameTooLong
  /-- The path holds a null character, which no name can hold. -/
  | nullInPath
  deriving DecidableEq, Repr

/-- A failed operation with the path that it was given. -/
structure FileError where
  /-- Why it failed. -/
  cause : FileError.Cause
  /-- The path. -/
  path : String
  deriving DecidableEq, Repr

namespace FileError

/-- The number and the description of a cause that the system reports. -/
def Cause.report? : Cause → Option (Nat × String)
  | .missing => some (2, "No such file or directory")
  | .alreadyThere => some (17, "File exists")
  | .notFolder => some (20, "Not a directory")
  | .isFolder => some (21, "Is a directory")
  | .nameTooLong => some (36, "File name too long")
  | .nullInPath => none

/-- The system reports the failure: all but that of a path which is never handed to it. -/
def fromSystem (e : FileError) : Bool := e.cause.report?.isSome

/-- The text of a failure. -/
def message (e : FileError) : String :=
  match e.cause.report? with
  | some (number, text) =>
    "[Errno " ++ toString number ++ "] " ++ text ++ ": " ++ Text.quotedString e.path
  | none => "embedded null byte"

end FileError

/-! ## Entries -/

/-- A file, or a folder with its entries. -/
inductive Entry where
  | file (content : Bytes)
  | folder (entries : List (String × Entry))

namespace Entry

/-- A folder without entries. -/
def emptyFolder : Entry := .folder []

/-- The entry of a folder under a name. -/
def child? : Entry → String → Option Entry
  | .file _, _ => none
  | .folder entries, name => entries.lookup name

/-- The entry to which names lead. -/
def get? : Entry → List String → Option Entry
  | e, [] => some e
  | e, name :: names => (e.child? name).bind (get? · names)

/-- The entries with one of them set, in place when the name is there and at the end
    otherwise. -/
def setIn (name : String) (e : Entry) : List (String × Entry) → List (String × Entry)
  | [] => [(name, e)]
  | (n, x) :: rest => if n = name then (n, e) :: rest else (n, x) :: setIn name e rest

/-- Sets the entry to which names lead. The folders on the way are made when they are not
    there. -/
def set : Entry → List String → Entry → Entry
  | _, [], new => new
  | e, name :: names, new =>
    let entries := match e with
      | .file _ => []
      | .folder entries => entries
    let inner := (entries.lookup name).getD emptyFolder
    .folder (setIn name (set inner names new) entries)

/-- Removes the entry to which names lead. -/
def erase : Entry → List String → Entry
  | e, [] => e
  | .file content, _ => .file content
  | .folder entries, [name] => .folder (entries.filter (·.1 ≠ name))
  | .folder entries, name :: names =>
    match entries.lookup name with
    | some inner => .folder (setIn name (erase inner names) entries)
    | none => .folder entries

/-- The paths of all files with their contents, from a path put before each name. -/
def files (at_ : String) : Entry → List (String × Bytes)
  | .file content => [(at_, content)]
  | .folder entries => filesOf at_ entries
where
  /-- The files of some entries of a folder. -/
  filesOf (at_ : String) : List (String × Entry) → List (String × Bytes)
    | [] => []
    | (name, e) :: rest =>
      files (if at_.isEmpty then name else at_ ++ "/" ++ name) e ++ filesOf at_ rest

end Entry

/-! ## Following a path -/

/-- A tree of files with a current folder. -/
structure FileStore where
  /-- The root folder. -/
  root : Entry
  /-- The names that lead to the current folder. -/
  current : List String

namespace FileStore

open FileError (Cause)

/-- The greatest number of bytes in a name. -/
def longestName : Nat := 255

/-- Goes from a place along one part of a path. -/
def step (fs : FileStore) (place : List String) (part : String) : Except Cause (List String) :=
  match fs.root.get? place with
  | none => .error .missing
  | some (.file _) => .error .notFolder
  | some (.folder entries) =>
    if part = "" || part = "." then .ok place
    else if part = ".." then .ok place.dropLast
    else if longestName < part.utf8ByteSize then .error .nameTooLong
    else if (entries.lookup part).isSome then .ok (place ++ [part])
    else .error .missing

/-- Goes from a place along several parts. -/
def walk (fs : FileStore) : List String → List String → Except Cause (List String)
  | place, [] => .ok place
  | place, part :: parts =>
    match fs.step place part with
    | .ok next => walk fs next parts
    | .error cause => .error cause

/-- The path of the current folder. -/
def currentPath (fs : FileStore) : String := "/" ++ "/".intercalate fs.current

/-- A path from the root. -/
def absolute (fs : FileStore) (p : String) : String := Path.absolute fs.currentPath p

/-- Where a path starts. -/
def start (fs : FileStore) (p : String) : List String :=
  if p.startsWith "/" then [] else fs.current

/-- The place that a path names. -/
def locate (fs : FileStore) (p : String) : Except Cause (List String) :=
  if p.contains (Char.ofNat 0) then .error .nullInPath
  else if p.isEmpty then .error .missing
  else fs.walk (fs.start p) (Path.parts p)

/-- The entry that a path names. -/
def entry (fs : FileStore) (p : String) : Except Cause Entry :=
  match fs.locate p with
  | .ok place =>
    match fs.root.get? place with
    | some e => .ok e
    | none => .error .missing
  | .error cause => .error cause

/-- The path names something. -/
def isThere (fs : FileStore) (p : String) : Bool := (fs.entry p).toBool

/-- The path names a file. -/
def isFile (fs : FileStore) (p : String) : Bool :=
  match fs.entry p with
  | .ok (.file _) => true
  | _ => false

/-- The path names a folder. -/
def isFolder (fs : FileStore) (p : String) : Bool :=
  match fs.entry p with
  | .ok (.folder _) => true
  | _ => false

/-! ## Reading -/

/-- The content of a file. -/
def read (fs : FileStore) (p : String) : Except FileError Bytes :=
  match fs.entry p with
  | .ok (.file content) => .ok content
  | .ok (.folder _) => .error ⟨.isFolder, p⟩
  | .error cause => .error ⟨cause, p⟩

/-- The entries of a folder. -/
def list (fs : FileStore) (p : String) : Except FileError (List (String × Entry)) :=
  match fs.entry p with
  | .ok (.folder entries) => .ok entries
  | .ok (.file _) => .error ⟨.notFolder, p⟩
  | .error cause => .error ⟨cause, p⟩

/-! ## Writing -/

/-- The path without the slashes at its end. -/
def bare (p : String) : String := String.ofList (p.toList.reverse.dropWhile (· = '/')).reverse

/-- The place of the folder that holds what a path names, and the last part of the path.
    Slashes at the end do not count. -/
def target (fs : FileStore) (p : String) : Except Cause (List String × String) :=
  if p.contains (Char.ofNat 0) then .error .nullInPath
  else if p.isEmpty then .error .missing
  else
    let parts := Path.parts (bare p)
    match fs.walk (fs.start p) parts.dropLast with
    | .ok place => .ok (place, parts.getLast?.getD "")
    | .error cause => .error cause

/-- Sets the entry at a place. -/
def setAt (fs : FileStore) (place : List String) (e : Entry) : FileStore :=
  { fs with root := fs.root.set place e }

/-- Changes the content of the file that a path names; a file that is not there starts empty.
    A path that ends in a slash names no file. -/
def edit (fs : FileStore) (p : String) (change : Bytes → Bytes) : Except FileError FileStore :=
  match fs.target p with
  | .error cause => .error ⟨cause, p⟩
  | .ok (place, part) =>
    match fs.step place (if p.endsWith "/" then "" else part) with
    | .ok found =>
      match fs.root.get? found with
      | some (.file content) => .ok (fs.setAt found (.file (change content)))
      | _ => .error ⟨.isFolder, p⟩
    | .error .missing => .ok (fs.setAt (place ++ [part]) (.file (change [])))
    | .error cause => .error ⟨cause, p⟩

/-- Writes a file. -/
def write (fs : FileStore) (p : String) (content : Bytes) : Except FileError FileStore :=
  fs.edit p fun _ => content

/-- Writes at the end of a file. -/
def append (fs : FileStore) (p : String) (content : Bytes) : Except FileError FileStore :=
  fs.edit p fun before => before ++ content

/-- Removes a file or a folder that a path names, if it names one. -/
def remove (fs : FileStore) (p : String) : FileStore :=
  match fs.locate p with
  | .ok place => { fs with root := fs.root.erase place }
  | .error _ => fs

/-- Gives the file that a path names another path, in place of any file there. -/
def rename (fs : FileStore) (p q : String) : Except FileError FileStore :=
  match fs.read p with
  | .ok content => (fs.remove p).write q content
  | .error e => .error e

/-! ## Making folders -/

/-- Makes one folder in a folder that is there. -/
def makeFolder (fs : FileStore) (p : String) : Except FileError FileStore :=
  match fs.target p with
  | .error cause => .error ⟨cause, p⟩
  | .ok (place, part) =>
    match fs.step place part with
    | .ok _ => .error ⟨.alreadyThere, p⟩
    | .error .missing => .ok (fs.setAt (place ++ [part]) .emptyFolder)
    | .error cause => .error ⟨cause, p⟩

/-- The store after an attempt to make a folder that may be there already, with the failure if
    there is one. -/
def ensureFolder (fs : FileStore) (p : String) : FileStore × Except FileError Unit :=
  match fs.makeFolder p with
  | .ok made => (made, .ok ())
  | .error e => (fs, if e.fromSystem && fs.isFolder p then .ok () else .error e)

/-- The path before the last part, without the slash in front of it, and that part. -/
def splitLast (p : String) : String × String :=
  (Path.folder p, Path.base p)

/-- Makes a folder and, before it, the folders on the way that are not there. At most `fuel`
    folders are made. A folder that appears on the way is no failure. -/
def makeFoldersWithin : Nat → FileStore → String → FileStore × Except FileError Unit
  | 0, fs, p => fs.ensureFolder p
  | fuel + 1, fs, p =>
    let (lead, last) := match splitLast p with
      | (lead, "") => splitLast lead
      | split => split
    if lead ≠ "" && last ≠ "" && !fs.isThere lead then
      match makeFoldersWithin fuel fs lead with
      | (made, .error e) =>
        if e.cause = .alreadyThere then
          if last = "." then (made, .ok ()) else made.ensureFolder p
        else (made, .error e)
      | (made, .ok ()) => if last = "." then (made, .ok ()) else made.ensureFolder p
    else fs.ensureFolder p

/-- Makes a folder with all folders on the way. What was made stays when a later one fails. -/
def makeFolders (fs : FileStore) (p : String) : FileStore × Except FileError Unit :=
  makeFoldersWithin p.length fs p

/-! ## Texts -/

/-- The text of a source file: bytes that are not UTF-8 are replaced, line endings are kept. -/
def readText (fs : FileStore) (p : String) : Except FileError Text :=
  (fs.read p).map Text.decode

/-- Writes a text, after making the folder that holds the file. -/
def writeText (fs : FileStore) (p : String) (t : Text) : FileStore × Except FileError Unit :=
  match fs.makeFolders (Path.folder (fs.absolute p)) with
  | (made, .error e) => (made, .error e)
  | (made, .ok ()) =>
    match made.write p (Text.encode t) with
    | .ok written => (written, .ok ())
    | .error e => (made, .error e)

end FileStore

end SourceCensus
