import FixTrial.Text.Hex
import FixTrial.Yaml.Place

/-! Texts in quotes. -/
namespace FixTrial.Yaml.Reading

def escapes : List (Char × Char) :=
  [('0', '\x00'), ('a', '\x07'), ('b', '\x08'), ('t', '\t'), ('\t', '\t'), ('n', '\n'),
    ('v', '\x0b'), ('f', '\x0c'), ('r', '\r'), ('e', '\x1b'), (' ', ' '), ('"', '"'), ('\\', '\\'),
    ('/', '/'), ('N', '\x85'), ('_', '\xa0'), ('L', '\u2028'), ('P', '\u2029')]

/-- How many digits of a code point follow a letter. -/
def codeWidths : List (Char × Nat) := [('x', 2), ('u', 4), ('U', 8)]

def codePoint (width : Nat) : Reading Char := do
  let digits := (← get).rest.take width
  require (digits.length = width)
  match digits.mapM Text.hexValue? with
  | none => throw .malformed
  | some ds =>
    let n := ds.foldl (fun n d => 16 * n + d) 0
    if 0x110000 ≤ n then throw .codePoint
    skip width
    return if n.isValidChar then Char.ofNat n else '\ufffd'

/-- The breaks of the lines that hold no text. A line that separates documents may not come. -/
def emptyLines : Nat → Reading (List Char)
  | 0 => throw .malformed
  | fuel + 1 => do
    require !(← get).isSeparator
    let _ ← span isGap
    match ← lineBreak? with
    | some c => return c :: (← emptyLines fuel)
    | none => return []

/-- The spaces that come next, or the line break after them. -/
def gap (fuel : Nat) : Reading (List Char) := do
  let spaces ← span isGap
  match ← lineBreak? with
  | some c => return folded c (← emptyLines fuel)
  | none => return spaces

/-- What a backslash stands for; one at the end of a line takes the break away. -/
def escape (fuel : Nat) : Reading (List Char) := do
  skip 1
  match ← next with
  | none => throw .malformed
  | some c =>
    if isBreak c then
      skip 1
      emptyLines fuel
    else
      skip 1
      match escapes.lookup c, codeWidths.lookup c with
      | some d, _ => return [d]
      | none, some width => return [← codePoint width]
      | none, none => throw .malformed

/-- The text up to the quote `q` that closes it. Within single quotes, two of them stand for one. -/
def quotedFrom (q : Char) : Nat → Reading (List Char)
  | 0 => throw .malformed
  | fuel + 1 => do
    match (← get).rest with
    | [] => throw .malformed
    | c :: rest =>
      if c = q then
        skip 1
        if q = '\'' && rest.head? = some q then
          skip 1
          return q :: (← quotedFrom q fuel)
        else return []
      else if isGap c || isBreak c then return (← gap fuel) ++ (← quotedFrom q fuel)
      else if c = '\\' && q = '"' then return (← escape fuel) ++ (← quotedFrom q fuel)
      else
        skip 1
        return c :: (← quotedFrom q fuel)

def quoted (q : Char) : Reading String := do
  skip 1
  return String.ofList (← quotedFrom q ((← get).rest.length + 1))

end FixTrial.Yaml.Reading
