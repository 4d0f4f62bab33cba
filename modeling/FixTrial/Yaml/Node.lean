import FixTrial.Text.Base64
import FixTrial.Yaml.Basic
import FixTrial.Yaml.Tag

/-! Nodes of a YAML document, and the values they stand for. -/
namespace FixTrial.Yaml

inductive Node
  | scalar (tag : Tag) (text : String)
  | list (tag : Tag) (items : List Node)
  | map (tag : Tag) (entries : List (Node × Node))

namespace Node

def empty : Node := .scalar .null ""

def isMerge : Node → Bool
  | .scalar .merge _ => true
  | _ => false

/-- A key as such: the sign for the mapping as a whole is a mere text there. -/
def asKey : Node → Node
  | .scalar .default s => .scalar .text s
  | node => node

/-- The entries that a merge brings in. Of several mappings the first one counts most. -/
def merged : Node → Except Error (List (Node × Node))
  | .map _ entries => .ok entries
  | .list _ items => do
    let parts ← items.mapM fun
      | .map _ entries => .ok entries
      | _ => .error .malformed
    return parts.reverse.flatten
  | .scalar .. => .error .malformed

/-- The mapping with these entries. Those of its merges come first, so that its own ones count
more. -/
def ofEntries (tag : Tag) (entries : List (Node × Node)) : Except Error Node := do
  let merges ← (entries.filter (·.1.isMerge)).mapM fun (_, node) => node.merged
  let own := entries.filter fun (k, _) => !k.isMerge
  return .map tag (merges.flatten ++ own.map fun (k, v) => (k.asKey, v))

def ofTagged (tag : Tag) (s : String) : Except Error Yaml :=
  match tag with
  | .null => .ok .null
  | .bool =>
    match Tag.truthWords.lookup (Text.lower s) with
    | some b => .ok (.bool b)
    | none => .error (.truthValue (Text.lower s))
  | .int => Yaml.int <$> wholeOf s
  | .float => Yaml.float <$> floatOf s
  | .moment => Yaml.other <$> momentOf s
  | .text => .ok (.text s)
  | .bytes =>
    match Text.fromPaddedBase64? s with
    | some bs =>
      if s.toList.all (·.toNat < 128) then .ok (.bytes bs) else .error .malformed
    | none => .error .malformed
  | _ => .error .malformed

mutual

def toValue : Node → Except Error Yaml
  | .scalar tag s => ofTagged tag s
  | .list tag items =>
    match tag with
    | .list => Yaml.list <$> listValues items
    | .pairs => Yaml.list <$> pairValues items
    | _ => .error .malformed
  | .map tag entries =>
    match tag with
    | .map => Yaml.ofEntries <$> entryValues entries
    | .set => do
      match Yaml.ofEntries (← entryValues entries) with
      | .map entries => return .distinct (entries.map (·.1))
      | y => return y
    | _ => .error .malformed

def listValues : List Node → Except Error (List Yaml)
  | [] => .ok []
  | x :: rest => do return (← toValue x) :: (← listValues rest)

def pairValues : List Node → Except Error (List Yaml)
  | [] => .ok []
  | .map _ [(k, v)] :: rest => do
    let pair := [← toValue k, ← toValue v]
    return .list pair :: (← pairValues rest)
  | _ => .error .malformed

def entryValues : List (Node × Node) → Except Error (List (Yaml × Yaml))
  | [] => .ok []
  | (k, v) :: rest => do
    let key ← toValue k
    if !key.isKey then throw .malformed
    return (key, ← toValue v) :: (← entryValues rest)

end

end Node
end FixTrial.Yaml
