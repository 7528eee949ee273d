import SourceCensus.Environment
import SourceCensus.Text.Blank

/-! # Paths

    A path is a text whose parts stand between slashes. It is absolute when it starts with
    a slash, and otherwise it is meant from the current folder. The functions here look at
    the text alone: no file needs to exist.

    ## Parts

    `base` is the part behind the last slash and `folder` what stands before it; the
    `extension` of a name starts at its last dot.

    ## Absolute form

    `absolute` puts the current folder before a relative path and folds the result: empty
    parts and single dots vanish, and a double dot takes the part before it away. Two slashes
    at the start stay two, three and more become one.

    ## Expansion

    A path may start with a tilde for a home folder and may hold variables, as a dollar sign
    with a name or with a name in braces. What cannot be expanded stays as it is.
-/

namespace SourceCensus

namespace Path

/-! ## Parts -/

/-- The texts between the slashes of a text: one more than it has slashes. -/
def split : List Char → List (List Char)
  | [] => [[]]
  | c :: rest =>
    if c = '/' then [] :: split rest
    else match split rest with
      | [] => [[c]]
      | p :: ps => (c :: p) :: ps

/-- The parts of a path. -/
def parts (p : String) : List String := (split p.toList).map String.ofList

/-- The part behind the last slash. -/
def base (p : String) : String := (parts p).getLast?.getD ""

/-- What stands before the last slash, without the slashes at its end unless there is nothing
    else. -/
def folder (p : String) : String :=
  let lead := p.toList.reverse.dropWhile (· ≠ '/')
  let bare := lead.dropWhile (· = '/')
  String.ofList (if bare.isEmpty then lead else bare).reverse

/-- The second path as seen from the first one. -/
def join (a b : String) : String :=
  if b.startsWith "/" then b
  else if a.isEmpty || a.endsWith "/" then a ++ b
  else a ++ "/" ++ b

/-- The extension of a name: its last dot and all behind it, unless only dots stand before that
    dot. -/
def extension (name : String) : String :=
  let behind := name.toList.reverse.takeWhile (· ≠ '.')
  match name.toList.reverse.drop behind.length with
  | [] => ""
  | _ :: before =>
    if before.all (· = '.') then "" else String.ofList ('.' :: behind.reverse)

/-- A name without its extension. -/
def withoutExtension (name : String) : String :=
  String.ofList (name.toList.take (name.length - (extension name).length))

/-! ## Absolute form -/

/-- The slashes with which a folded path starts. -/
def leadingSlashes : List Char → Nat
  | '/' :: '/' :: '/' :: _ => 1
  | '/' :: '/' :: _ => 2
  | '/' :: _ => 1
  | _ => 0

/-- Adds a part to the parts folded so far, the last one first. Only a relative path can climb
    above its start. -/
def foldPart (rooted : Bool) (done : List String) (part : String) : List String :=
  if part = "" || part = "." then done
  else if part = ".." then
    match done with
    | [] => if rooted then [] else [".."]
    | last :: before => if last = ".." then ".." :: done else before
  else part :: done

/-- A path without empty parts, single dots, and double dots that have something to take away. -/
def normalize (p : String) : String :=
  let slashes := leadingSlashes p.toList
  let folded := (parts p).foldl (foldPart (0 < slashes)) []
  let text := String.ofList (List.replicate slashes '/') ++ "/".intercalate folded.reverse
  if text.isEmpty then "." else text

/-- The folded path from the root. -/
def absolute (currentFolder p : String) : String :=
  normalize (if p.startsWith "/" then p else join currentFolder p)

/-! ## Expansion -/

/-- A path without the slashes at its end. -/
def withoutEndSlashes (p : String) : String :=
  String.ofList (p.toList.reverse.dropWhile (· = '/')).reverse

/-- Puts a home folder in place of a tilde at the start and the name of a user behind it. Without a
    name it is the home folder of the user at work. -/
def expandHome (env : Environment) (p : String) : String :=
  match p.toList with
  | '~' :: rest =>
    let user := rest.takeWhile (· ≠ '/')
    match env.home? (String.ofList user) with
    | some home =>
      let full := withoutEndSlashes home ++ String.ofList (rest.drop user.length)
      if full.isEmpty then "/" else full
    | none => p
  | _ => p

/-- A character of a variable's name: a letter, a digit or an underscore of ASCII. -/
def isNameChar (c : Char) : Bool := c.isAlphanum || c = '_'

/-- The name of the variable that starts behind a dollar sign, the text of the whole reference
    behind that sign, and what follows it. -/
def splitVariable? : List Char → Option (List Char × List Char × List Char)
  | '{' :: rest =>
    let name := rest.takeWhile (· ≠ '}')
    match rest.drop name.length with
    | [] => none
    | brace :: after => some (name, '{' :: name ++ [brace], after)
  | t =>
    let name := t.takeWhile isNameChar
    if name.isEmpty then none else some (name, name, t.drop name.length)

/-- Puts values in place of variables. A value is not expanded again. At most `fuel` characters
    or references are read. -/
def expandFrom (env : Environment) : Nat → List Char → List Char
  | 0, t => t
  | _, [] => []
  | fuel + 1, c :: rest =>
    if c = '$' then
      match splitVariable? rest with
      | some (name, text, after) =>
        match env.get? (String.ofList name) with
        | some value => value.toList ++ expandFrom env fuel after
        | none => c :: text ++ expandFrom env fuel after
      | none => c :: expandFrom env fuel rest
    else c :: expandFrom env fuel rest

/-- A path with values in place of the variables that have one. -/
def expandVariables (env : Environment) (p : String) : String :=
  String.ofList (expandFrom env p.length p.toList)

/-- The absolute form of a path that a user gave, or of the fallback when that path is blank. -/
def resolve (env : Environment) (p fallback : String) : String :=
  let given := Text.stripString p
  let chosen := if given.isEmpty then fallback else given
  absolute env.currentFolder (expandVariables env (expandHome env chosen))

end Path

end SourceCensus
