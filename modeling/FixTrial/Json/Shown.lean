import FixTrial.Decimal.Layout
import FixTrial.Json.Basic
import FixTrial.Text.Quoted

/-! JSON values as messages show them. -/
namespace FixTrial.Json

def boolWord (b : Bool) : String := if b then "True" else "False"

mutual

/-- A value within a message, with text in quotes. -/
def shown : Json → String
  | .null => "None"
  | .bool b => boolWord b
  | .int n => toString n
  | .float x => Decimal.messageLayout.text x
  | .text s => Text.quoted s
  | .array items => "[" ++ ", ".intercalate (shownItems items) ++ "]"
  | .object fields => "\x7b" ++ ", ".intercalate (shownFields fields) ++ "\x7d"

def shownItems : List Json → List String
  | [] => []
  | x :: rest => shown x :: shownItems rest

def shownFields : List (String × Json) → List String
  | [] => []
  | (k, v) :: rest => (Text.quoted k ++ ": " ++ shown v) :: shownFields rest

end

/-- A value as a text of its own: text stands as it is. -/
def plain : Json → String
  | .text s => s
  | j => j.shown

end FixTrial.Json
