import FixTrial.Yaml.Moment
import FixTrial.Yaml.Number

/-! Tags: what kind of value a node stands for. -/
namespace FixTrial.Yaml

inductive Tag
  | null | bool | int | float | moment | bytes | text
  | list | map | set
  /-- A list of mappings of one entry each. -/
  | pairs
  /-- A key whose value holds further entries of the mapping. -/
  | merge
  /-- A key that stands for the mapping as a whole. -/
  | default
  | unknown
deriving DecidableEq

namespace Tag

/-- What the double exclamation mark stands for. -/
def standard : String := "tag:yaml.org,2002:"

def names : List (String × Tag) :=
  [("null", .null), ("bool", .bool), ("int", .int), ("float", .float), ("timestamp", .moment),
    ("binary", .bytes), ("str", .text), ("seq", .list), ("map", .map), ("set", .set),
    ("omap", .pairs), ("pairs", .pairs), ("merge", .merge), ("value", .default)]

def ofUri (s : String) : Tag :=
  ((names.find? fun (name, _) => s = standard ++ name).map (·.2)).getD .unknown

def truthWords : List (String × Bool) :=
  [("yes", true), ("no", false), ("true", true), ("false", false), ("on", true), ("off", false)]

/-- Whether a word is written in small letters, in capitals, or with one capital at its start. -/
def isCased (s : String) : Bool :=
  let small := Text.lower s
  s = small || s = small.map Char.toUpper || s = small.capitalize

def ofPlain (s : String) : Tag :=
  let cs := s.toList
  if isCased s && (truthWords.lookup (Text.lower s)).isSome then .bool
  else if isFloat cs then .float
  else if isWhole cs then .int
  else if s = "<<" then .merge
  else if s = "" || s = "~" || (isCased s && Text.lower s = "null") then .null
  else if isMoment cs then .moment
  else if s = "=" then .default
  else .text

end Tag
end FixTrial.Yaml
