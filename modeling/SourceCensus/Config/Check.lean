import SourceCensus.Config.Basic
import SourceCensus.Log.Entry
import SourceCensus.Number.Integer
import SourceCensus.Number.Shortest
import SourceCensus.Text.Case

/-! # Checking a configuration

    A configuration comes from outside as any JSON value. A check turns it into a `Config`:
    members that are missing or null get their default, and a member that does not have its
    type is converted where that makes sense and gets its default where not.

    ## Strict and lenient

    A lenient check goes on after a fault and leaves a remark for everything that it changed.
    A strict check converts nothing and stops at the first fault.

    ## Members

    * A text loses the white space at its ends.
    * A truth value may be given as the number 0 or 1, or as one of a few words.
    * A count is at least one; it may be given as a text of digits.
    * A list of texts loses the white space around its items and the items that are empty;
      it may be given as one text with commas.
    * An extension starts with a dot; the dot is added when it is missing.
-/

namespace SourceCensus.Config

open Json (Value Members)
open Text (stripString)

/-! ## Faults and remarks -/

/-- What is wrong with a configuration. -/
inductive Fault where
  /-- The configuration is no object. -/
  | notObject (received : String)
  /-- A member has the wrong type. -/
  | wrongType (field expected received : String)
  /-- An item of a list is no text. -/
  | wrongItem (field : String) (index : Nat)
  /-- A count is too small. -/
  | belowOne (field : String) (n : Int)
  /-- A text of digits is no number. -/
  | unreadable (text : String)
  /-- An extension does not start with a dot. -/
  | withoutDot (extension : String)
  deriving DecidableEq, Repr

/-- The text of a fault. -/
def Fault.message : Fault → String
  | .notObject received => "Invalid config type: expected dict, received " ++ received ++ "."
  | .wrongType field expected received =>
    "Invalid field '" ++ field ++ "': expected " ++ expected ++ ", received " ++ received ++ "."
  | .wrongItem field index =>
    "Invalid item in '" ++ field ++ "[" ++ toString index ++ "]': expected str."
  | .belowOne field n =>
    "Invalid field '" ++ field ++ "': must be >= 1, received " ++ Number.integerText n ++ "."
  | .unreadable text => Number.unreadableText text
  | .withoutDot extension =>
    "Invalid extension '" ++ extension ++ "': must start with '.'."

/-- What a lenient check changed. -/
inductive Remark where
  /-- The default took the place of the whole configuration. -/
  | defaults (fault : Fault)
  /-- The default took the place of a member. -/
  | fallback (fault : Fault)
  /-- An item was left out. -/
  | discarded (fault : Fault)
  /-- A number was read as a truth value. -/
  | numberAsBool (field number : String)
  /-- A word was read as a truth value. -/
  | wordAsBool (field word : String) (b : Bool)
  /-- A text of digits was read as a number. -/
  | textAsInt (field text : String)
  /-- A text with commas was read as a list. -/
  | textAsList (field : String)
  /-- A dot was added to an extension. -/
  | dotAdded (given : String) (corrected : String)
  deriving DecidableEq, Repr

/-- The text of a remark. -/
def Remark.message : Remark → String
  | .defaults fault => fault.message ++ " Using defaults."
  | .fallback fault => fault.message ++ " Using fallback."
  | .discarded fault => fault.message ++ " Item discarded."
  | .numberAsBool field number =>
    "Field '" ++ field ++ "' converted from number " ++ number ++ " to bool."
  | .wordAsBool field word b =>
    "Field '" ++ field ++ "' converted from '" ++ word ++ "' to " ++
      (if b then "True" else "False") ++ "."
  | .textAsInt field text => "Field '" ++ field ++ "' converted from '" ++ text ++ "' to int."
  | .textAsList field => "Field '" ++ field ++ "' converted from CSV string to list."
  | .dotAdded given corrected =>
    "Extension '" ++ given ++ "' corrected to '" ++ corrected ++ "'."

/-! ## Steps of a check -/

/-- A step leaves remarks in their order and may stop at a fault. -/
abbrev Checking := StateT (List Remark) (Except Fault)

/-- Leaves a remark. -/
def remark (r : Remark) : Checking Unit := modify (· ++ [r])

/-- Stops at a fault when the check is strict, and leaves a remark about it when it is not. -/
def report (strict : Bool) (fault : Fault) (r : Fault → Remark) : Checking Unit :=
  if strict then throw fault else remark (r fault)

/-- Checks a text. -/
def checkText (strict : Bool) (field fallback : String) : Value → Checking String
  | .null => return fallback
  | .string s => return stripString s
  | v => do
    report strict (.wrongType field "str" v.typeName) .fallback
    return fallback

/-- The words that stand for a truth value. -/
def boolOfWord? (s : String) : Option Bool :=
  let word := Text.lowerString (stripString s)
  if ["true", "1", "yes", "y"].contains word then some true
  else if ["false", "0", "no", "n"].contains word then some false
  else none

/-- The number 0 or 1 as a truth value, with the text of the number. -/
def boolOfNumber? : Value → Option (Bool × String)
  | .int n => if n = 0 || n = 1 then some (n = 1, Number.integerText n) else none
  | .float x =>
    if x == 0.0 || x == 1.0 then some (x == 1.0, Number.doubleText ⟨"nan", "inf"⟩ x) else none
  | _ => none

/-- Checks a truth value. -/
def checkBool (strict : Bool) (field : String) (fallback : Bool) (v : Value) : Checking Bool :=
  let fault := do
    report strict (.wrongType field "bool" v.typeName) .fallback
    return fallback
  match v with
  | .bool b => return b
  | .null => return fallback
  | .string s =>
    match boolOfWord? s with
    | some b => if strict then fault else do
      remark (.wordAsBool field s b)
      return b
    | none => fault
  | v =>
    match boolOfNumber? v with
    | some (b, number) => if strict then fault else do
      remark (.numberAsBool field number)
      return b
    | none => fault

/-- All characters are digits, and there is one at least. -/
def isDigits (s : String) : Bool := !s.isEmpty && s.toList.all Text.isDigit

/-- Checks that a count is at least one. -/
def checkPositive (strict : Bool) (field : String) (fallback n : Int) : Checking Int :=
  if n < 1 then do
    report strict (.belowOne field n) .fallback
    return fallback
  else return n

/-- Checks a count. A text of digits stops even a lenient check when some of the digits have no
    place value. -/
def checkCount (strict : Bool) (field : String) (fallback : Int) (v : Value) : Checking Int :=
  let fault := do
    report strict (.wrongType field "int" v.typeName) .fallback
    return fallback
  match v with
  | .null => return fallback
  | .int n => checkPositive strict field fallback n
  | .string s =>
    if !strict && isDigits (stripString s) then do
      remark (.textAsInt field s)
      match Number.readInteger? (stripString s).toList with
      | some n => checkPositive strict field fallback n
      | none => throw (.unreadable (stripString s))
    else fault
  | _ => fault

/-- The texts between the commas of a text. -/
def splitCommas : List Char → List (List Char)
  | [] => [[]]
  | c :: rest =>
    if c = ',' then [] :: splitCommas rest
    else match splitCommas rest with
      | [] => [[c]]
      | p :: ps => (c :: p) :: ps

/-- The items of a text with commas, without white space around them and without empty ones. -/
def commaItems (s : String) : List String :=
  ((splitCommas s.toList).map fun p => String.ofList (Text.strip p)).filter (· ≠ "")

/-- Checks the items of a list from an index on. -/
def checkItems (strict : Bool) (field : String) : Nat → List Value → Checking (List String)
  | _, [] => return []
  | index, .string s :: rest => do
    let items ← checkItems strict field (index + 1) rest
    let item := stripString s
    return if item = "" then items else item :: items
  | index, _ :: rest => do
    report strict (.wrongItem field index) .discarded
    checkItems strict field (index + 1) rest

/-- Checks a list of texts. -/
def checkTexts (strict : Bool) (field : String) (fallback : List String) (v : Value) :
    Checking (List String) :=
  let fault := do
    report strict (.wrongType field "list[str]" v.typeName) .fallback
    return fallback
  match v with
  | .null => return fallback
  | .string s =>
    if strict then fault
    else
      match commaItems s with
      | [] => return fallback
      | items => do
        remark (.textAsList field)
        return items
  | .array items => checkItems strict field 0 items
  | _ => fault

/-- Checks that extensions start with a dot. -/
def checkDots (strict : Bool) : List String → Checking (List String)
  | [] => return []
  | given :: rest => do
    let bare := stripString given
    if bare = "" then checkDots strict rest
    else if bare.startsWith "." then return bare :: (← checkDots strict rest)
    else if strict then throw (.withoutDot given)
    else
      remark (.dotAdded given ("." ++ bare))
      return ("." ++ bare) :: (← checkDots strict rest)

/-! ## The whole check -/

/-- The value of a member, or its default when it is missing. -/
def given (ms : Members) (defaults : Settings) (field : String) : Value :=
  (ms.get? field).getD ((defaults.toMembers.get? field).getD .null)

/-- Checks the members of an object. -/
def checkMembers (strict : Bool) (defaults : Settings) (ms : Members) : Checking Settings := do
  let given := given ms defaults
  let inputPath ← checkText strict Settings.inputPathName defaults.inputPath
    (given Settings.inputPathName)
  let outputPath ← checkText strict Settings.outputPathName defaults.outputPath
    (given Settings.outputPathName)
  let respectIgnoreFile ← checkBool strict Settings.respectIgnoreFileName
    defaults.respectIgnoreFile (given Settings.respectIgnoreFileName)
  let maxNodeCount ← checkCount strict Settings.maxNodeCountName defaults.maxNodeCount
    (given Settings.maxNodeCountName)
  let maxWorkers ← checkCount strict Settings.maxWorkersName defaults.maxWorkers
    (given Settings.maxWorkersName)
  let texts ← checkTexts strict Settings.extensionsName defaults.extensions
    (given Settings.extensionsName)
  let includePatterns ← checkTexts strict Settings.includePatternsName defaults.includePatterns
    (given Settings.includePatternsName)
  let excludePatterns ← checkTexts strict Settings.excludePatternsName defaults.excludePatterns
    (given Settings.excludePatternsName)
  let dotted ← checkDots strict texts
  let extensions := if dotted.isEmpty then Settings.defaultExtensions else dotted
  return ⟨inputPath, extensions, includePatterns, excludePatterns, respectIgnoreFile,
    maxNodeCount, maxWorkers, outputPath⟩

/-- A checked configuration, with what was remarked and what was logged. -/
structure Checked where
  /-- The configuration. -/
  config : Config
  /-- What a lenient check changed. -/
  remarks : List Remark
  /-- What the check put into the log. -/
  log : List LogEntry

/-- Checks a value as a configuration. -/
def check (strict : Bool) (currentFolder : String) : Value → Except Fault Checked
  | .object given =>
    let defaults := Settings.default currentFolder
    let ms := Members.ofList given
    let others := ms.filter fun m => !Settings.memberNames.contains m.1
    match (checkMembers strict defaults ms).run [] with
    | .ok (settings, remarks) => .ok ⟨⟨settings, others⟩, remarks, []⟩
    | .error fault => .error fault
  | v =>
    let fault := Fault.notObject v.typeName
    if strict then .error fault
    else .ok ⟨Config.default currentFolder, [.defaults fault], [⟨.warning, fault.message⟩]⟩

end SourceCensus.Config
