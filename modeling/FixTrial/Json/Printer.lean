import FixTrial.Decimal.Layout
import FixTrial.Json.Basic
import FixTrial.Text.Hex

/-! JSON values as text, in ASCII: on one line, or indented with the fields of each object sorted. -/
namespace FixTrial.Json

/-- The 16-bit units of a character. -/
def units (n : Nat) : List Nat :=
  if n < 0x10000 then [n]
  else [0xd800 + (n - 0x10000) / 1024, 0xdc00 + (n - 0x10000) % 1024]

def escapedChar (c : Char) : List Char :=
  if c = '"' || c = '\\' then ['\\', c]
  else if c = '\n' then ['\\', 'n']
  else if c = '\r' then ['\\', 'r']
  else if c = '\t' then ['\\', 't']
  else if c = '\x08' then ['\\', 'b']
  else if c = '\x0c' then ['\\', 'f']
  else if ' ' ≤ c && c ≤ '~' then [c]
  else (units c.toNat).flatMap fun n => ['\\', 'u'] ++ Text.hex 4 n

def stringLiteral (s : String) : String :=
  String.ofList ('"' :: s.toList.flatMap escapedChar ++ ['"'])

def numberLayout : Decimal.Layout :=
  { Decimal.messageLayout with infinity := "Infinity", notANumber := "NaN" }

def scalar : Json → String
  | .null => "null"
  | .bool b => if b then "true" else "false"
  | .int n => toString n
  | .float x => numberLayout.text x
  | .text s => stringLiteral s
  | .array _ => "[]"
  | .object _ => "\x7b\x7d"

mutual

/-- On one line, without blanks. -/
def compact : Json → String
  | .array items => "[" ++ ",".intercalate (compactItems items) ++ "]"
  | .object fields => "\x7b" ++ ",".intercalate (compactFields fields) ++ "\x7d"
  | j => j.scalar

def compactItems : List Json → List String
  | [] => []
  | x :: rest => compact x :: compactItems rest

def compactFields : List (String × Json) → List String
  | [] => []
  | (k, v) :: rest => (stringLiteral k ++ ":" ++ compact v) :: compactFields rest

end

def indentation (level : Nat) : String := "\n" ++ String.ofList (List.replicate (2 * level) ' ')

/-- The parts of an array or object, each on a line of its own. -/
def block (opening closing : String) (level : Nat) (parts : List String) : String :=
  if parts.isEmpty then opening ++ closing
  else
    opening ++ indentation (level + 1) ++ ("," ++ indentation (level + 1)).intercalate parts
      ++ indentation level ++ closing

def sortFields (fields : List (String × α)) : List (String × α) :=
  fields.mergeSort fun a b => decide (a.1 ≤ b.1)

mutual

/-- Over several lines, two blanks a level. -/
def indented (level : Nat) : Json → String
  | .array items => block "[" "]" level (indentedItems (level + 1) items)
  | .object fields =>
    let parts := sortFields (indentedFields (level + 1) fields)
    block "\x7b" "\x7d" level (parts.map fun (k, part) => stringLiteral k ++ ": " ++ part)
  | j => j.scalar

def indentedItems (level : Nat) : List Json → List String
  | [] => []
  | x :: rest => indented level x :: indentedItems level rest

def indentedFields (level : Nat) : List (String × Json) → List (String × String)
  | [] => []
  | (k, v) :: rest => (k, indented level v) :: indentedFields level rest

end

def pretty (j : Json) : String := j.indented 0

end FixTrial.Json
