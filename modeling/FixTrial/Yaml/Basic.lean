import FixTrial.Decimal.Layout
import FixTrial.Json.Shown

/-! Values of YAML documents. The keys of a mapping may be any values that have no parts. -/
namespace FixTrial

inductive Yaml
  | null
  | bool (b : Bool)
  | int (n : Int)
  | float (x : Float)
  | text (s : String)
  | bytes (bs : List UInt8)
  /-- A value of a kind that settings have no use for, such as a date, by the text it is shown as. -/
  | other (shown : String)
  | list (items : List Yaml)
  /-- Distinct items in no order. -/
  | distinct (items : List Yaml)
  | map (entries : List (Yaml × Yaml))
deriving Inhabited

namespace Yaml

/-- Whether a value counts as present: not null, false, zero or empty. -/
def isTruthy : Yaml → Bool
  | .null => false
  | .bool b => b
  | .int n => n != 0
  | .float x => x != 0.0
  | .text s => !s.isEmpty
  | .bytes bs => !bs.isEmpty
  | .other _ => true
  | .list items | .distinct items => !items.isEmpty
  | .map entries => !entries.isEmpty

def isKey : Yaml → Bool
  | .list _ | .distinct _ | .map _ => false
  | _ => true

/-- A number, truth values counting as one and zero. -/
def number? : Yaml → Option (Int ⊕ Float)
  | .bool b => some (.inl (if b then 1 else 0))
  | .int n => some (.inl n)
  | .float x => some (.inr x)
  | _ => none

/-- Whether two keys are the same. Numbers are compared by their values. -/
def sameKey : Yaml → Yaml → Bool
  | .null, .null => true
  | .text s, .text t => s = t
  | .bytes a, .bytes b => a = b
  | .other s, .other t => s = t
  | x, y =>
    match x.number?, y.number? with
    | some (.inl m), some (.inl n) => m = n
    | some (.inr a), some (.inr b) => a == b
    | some (.inl m), some (.inr b) => Float.ofInt m == b
    | some (.inr a), some (.inl n) => a == Float.ofInt n
    | _, _ => false

/-- `entries` with `key` set: in its place if it is there, at the end if not. -/
def setEntry (entries : List (Yaml × Yaml)) (key value : Yaml) : List (Yaml × Yaml) :=
  match entries with
  | [] => [(key, value)]
  | (k, v) :: rest =>
    if sameKey k key then (k, value) :: rest else (k, v) :: setEntry rest key value

/-- The mapping in which each key has the last of its values. -/
def ofEntries (entries : List (Yaml × Yaml)) : Yaml :=
  .map (entries.foldl (fun es (k, v) => setEntry es k v) [])

def find? (name : String) : List (Yaml × Yaml) → Option Yaml
  | [] => none
  | (.text s, v) :: rest => if s = name then some v else find? name rest
  | _ :: rest => find? name rest

/-- What a value is made of, unless it has no parts: the items of a list or set, the keys of a
mapping, the characters of a text, the numbers that bytes are. -/
def parts? : Yaml → Option (List Yaml)
  | .list items | .distinct items => some items
  | .map entries => some (entries.map (·.1))
  | .text s => some (s.toList.map fun c => .text (String.ofList [c]))
  | .bytes bs => some (bs.map fun b => .int b.toNat)
  | _ => none

mutual

/-- A value within a message, with text in quotes. -/
def shown : Yaml → String
  | .null => "None"
  | .bool b => Json.boolWord b
  | .int n => toString n
  | .float x => Decimal.messageLayout.text x
  | .text s => Text.quoted s
  | .bytes bs => Text.quotedBytes bs
  | .other s => s
  | .list items => "[" ++ ", ".intercalate (shownItems items) ++ "]"
  | .distinct items =>
    if items.isEmpty then "set()" else "\x7b" ++ ", ".intercalate (shownItems items) ++ "\x7d"
  | .map entries => "\x7b" ++ ", ".intercalate (shownEntries entries) ++ "\x7d"

def shownItems : List Yaml → List String
  | [] => []
  | x :: rest => shown x :: shownItems rest

def shownEntries : List (Yaml × Yaml) → List String
  | [] => []
  | (k, v) :: rest => (shown k ++ ": " ++ shown v) :: shownEntries rest

end

/-- A value as a text of its own: text stands as it is. -/
def plain : Yaml → String
  | .text s => s
  | y => y.shown

mutual

def ofJson : Json → Yaml
  | .null => .null
  | .bool b => .bool b
  | .int n => .int n
  | .float x => .float x
  | .text s => .text s
  | .array items => .list (itemsOfJson items)
  | .object fields => .map (entriesOfJson fields)

def itemsOfJson : List Json → List Yaml
  | [] => []
  | x :: rest => ofJson x :: itemsOfJson rest

def entriesOfJson : List (String × Json) → List (Yaml × Yaml)
  | [] => []
  | (k, v) :: rest => (.text k, ofJson v) :: entriesOfJson rest

end

mutual

/-- A value as JSON: what JSON lacks becomes text. -/
def toJson : Yaml → Json
  | .null => .null
  | .bool b => .bool b
  | .int n => .int n
  | .float x => .float x
  | .text s => .text s
  | .list items => .array (itemsToJson items)
  | .map entries => .object (entriesToJson entries)
  | .bytes bs => .text (Text.quotedBytes bs)
  | .other s => .text s
  | .distinct items => .text (shown (.distinct items))

def itemsToJson : List Yaml → List Json
  | [] => []
  | x :: rest => toJson x :: itemsToJson rest

def entriesToJson : List (Yaml × Yaml) → List (String × Json)
  | [] => []
  | (k, v) :: rest => (k.plain, toJson v) :: entriesToJson rest

end

end Yaml
end FixTrial
