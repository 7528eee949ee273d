/-! # JSON values

    A value with the members of an object in the order in which their keys first appeared.
    Whole numbers are kept apart from numbers with a fraction or an exponent: the former are
    unbounded integers, the latter doubles.
-/

namespace SourceCensus.Json

/-- A JSON value. -/
inductive Value where
  | null
  | bool (b : Bool)
  | int (n : Int)
  | float (x : Float)
  | string (s : String)
  | array (items : List Value)
  | object (members : List (String × Value))
  deriving Inhabited

/-- The members of an object. -/
abbrev Members := List (String × Value)

namespace Members

/-- The value under a key. -/
def get? (ms : Members) (key : String) : Option Value := ms.lookup key

/-- Sets the value under a key: in place when the key is there, and at the end otherwise. -/
def set : Members → String → Value → Members
  | [], key, v => [(key, v)]
  | (k, w) :: rest, key, v => if k = key then (k, v) :: rest else (k, w) :: set rest key v

/-- Sets every member of the second list in the first one. -/
def update (ms others : Members) : Members := others.foldl (fun acc m => set acc m.1 m.2) ms

/-- Members with every key once: the place is that of the first and the value that of the last. -/
def ofList (ms : List (String × Value)) : Members := update [] ms

end Members

namespace Value

/-- A list of texts. -/
def ofStrings (ss : List String) : Value := .array (ss.map .string)

/-- The text that a value is, if it is one. -/
def string? : Value → Option String
  | .string s => some s
  | _ => none

/-- The name under which messages speak of the type of a value. -/
def typeName : Value → String
  | .null => "NoneType"
  | .bool _ => "bool"
  | .int _ => "int"
  | .float _ => "float"
  | .string _ => "str"
  | .array _ => "list"
  | .object _ => "dict"

/-- Whether a value counts as present: null, false, zero and everything empty do not. -/
def truthy : Value → Bool
  | .null => false
  | .bool b => b
  | .int n => n ≠ 0
  | .float x => x != 0
  | .string s => s ≠ ""
  | .array items => !items.isEmpty
  | .object members => !members.isEmpty

end Value

end SourceCensus.Json
