import SourceCensus.Log.Field
import SourceCensus.Pattern.Matcher
import SourceCensus.Text.Line

/-! # Templates for log lines

    A template is a text with fields, in which two percent signs stand for one. It is usable when it
    has something that looks like a field. That the fields can be filled is seen only when a record
    is written: a record that does not fit is not written.
-/

namespace SourceCensus

/-- A text with fields. -/
abbrev Template := List Char

namespace Template

/-! ## Usable templates -/

/-- The pattern of a field. -/
def fieldPattern : String :=
  "(?i)%\\(\\w+\\)[#0+ -]*(\\*|\\d+)?(\\.(\\*|\\d+))?[diouxefgcrsa%]"

/-- The pattern of a field names no character and has few groups. -/
def fieldFacilities : Pattern.Facilities := ⟨fun _ => none, fieldPattern.length⟩

/-- The template has something that looks like a field. -/
def isUsable (t : Template) : Bool :=
  match Pattern.compile fieldFacilities fieldPattern with
  | .ok c => c.search (String.ofList t)
  | .error _ => false

/-- The template that is used when none is given: the message alone. -/
def messageOnly : Template := "%(message)s".toList

/-- The template that a setting gives, if it is usable. -/
def ofSetting? (v : Json.Value) : Option Template :=
  if v.truthy then
    match v with
    | .string s => if isUsable s.toList then some s.toList else none
    | _ => none
  else some messageOnly

/-! ## Filling a template -/

/-- Fills a template; at most `fuel` characters or fields are read. -/
def fillFrom? (r : LogRecord) (form : TimeForm) : Nat → Template → Option (List Char)
  | _, [] => some []
  | 0, _ => none
  | fuel + 1, '%' :: '%' :: rest => (fillFrom? r form fuel rest).map ('%' :: ·)
  | fuel + 1, '%' :: rest => do
    let (field, after) ← Field.read? rest
    let shown ← (r.filling? form field.key).bind field.fill?
    return shown ++ (← fillFrom? r form fuel after)
  | fuel + 1, c :: rest => (fillFrom? r form fuel rest).map (c :: ·)

/-- The line that a template makes of a record, with its time in a form, if the record fits. -/
def fill? (t : Template) (form : TimeForm) (r : LogRecord) : Option Text :=
  fillFrom? r form t.length t

end Template

end SourceCensus
