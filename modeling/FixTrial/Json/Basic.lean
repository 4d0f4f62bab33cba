/-! JSON values. Whole numbers have any size and are kept apart from doubles; the fields of an object
stand in the order of their first mention. -/
namespace FixTrial

inductive Json
  | null
  | bool (b : Bool)
  | int (n : Int)
  | float (x : Float)
  | text (s : String)
  | array (items : List Json)
  | object (fields : List (String × Json))
deriving Inhabited

namespace Json

/-- The value of a field; `none` also for what is not an object. -/
def get? (key : String) : Json → Option Json
  | .object fields => fields.lookup key
  | _ => none

/-- `fields` with `key` set: in its place if it is there, at the end if not. -/
def setField (fields : List (String × Json)) (key : String) (value : Json) :
    List (String × Json) :=
  match fields with
  | [] => [(key, value)]
  | (k, v) :: rest => if k = key then (k, value) :: rest else (k, v) :: setField rest key value

/-- The object in which each key has the last of its values. -/
def ofFields (fields : List (String × Json)) : Json :=
  .object (fields.foldl (fun fs (k, v) => setField fs k v) [])

def items : Json → List Json
  | .array xs => xs
  | _ => []

/-- A value as text; what is no text counts as empty. -/
def asText : Json → String
  | .text s => s
  | _ => ""

/-- A value as a whole number, truth values counting as one and zero, and all else as zero. -/
def asInt : Json → Int
  | .int n => n
  | .bool b => if b then 1 else 0
  | _ => 0

def field (j : Json) (key : String) : Json := (j.get? key).getD .null

def texts (j : Json) : List String := j.items.map asText

def pair (j : Json) : String × String :=
  match j.items with
  | [a, b] => (a.asText, b.asText)
  | _ => ("", "")

def entries : Json → List (String × Json)
  | .object fields => fields
  | _ => []

def ofPair (p : String × String) : Json := .array [.text p.1, .text p.2]

def ofTexts (ts : List String) : Json := .array (ts.map .text)

/-- Whether a value counts as present: not null, false, zero or empty. -/
def isTruthy : Json → Bool
  | .null => false
  | .bool b => b
  | .int n => n != 0
  | .float x => x != 0.0
  | .text s => !s.isEmpty
  | .array items => !items.isEmpty
  | .object fields => !fields.isEmpty

def typeName : Json → String
  | .null => "NoneType"
  | .bool _ => "bool"
  | .int _ => "int"
  | .float _ => "float"
  | .text _ => "str"
  | .array _ => "list"
  | .object _ => "dict"

end Json
end FixTrial
