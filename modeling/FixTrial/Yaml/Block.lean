import FixTrial.Yaml.Place

/-! Texts given by their indentation. -/
namespace FixTrial.Yaml.Reading

/-- What becomes of the line breaks at the end of a text. -/
inductive Chomp
  | strip
  | clip
  | keep
deriving DecidableEq

def chomp? : Reading (Option Chomp) := do
  match ← take? fun c => c = '+' || c = '-' with
  | some c => return some (if c = '+' then .keep else .strip)
  | none => return none

/-- How much further the text is indented than what encloses it. -/
def increment? : Reading (Option Nat) := do
  match ← take? Char.isDigit with
  | some c =>
    require (c ≠ '0')
    return some (c.toNat - '0'.toNat)
  | none => return none

/-- The signs after the mark, in either order. -/
def blockHeader : Reading (Chomp × Option Nat) := do
  let early ← chomp?
  let increment ← increment?
  let late ← if early.isNone && increment.isSome then chomp? else pure none
  let p ← get
  require (p.rest.head?.all fun c => c = ' ' || isBreak c)
  restOfLine
  return ((early <|> late).getD .clip, increment)

/-- The breaks of the lines before the text, and the deepest column that spaces reach in them. -/
def leadingLines (deepest : Nat) : Nat → Reading (List Char × Nat)
  | 0 => throw .malformed
  | fuel + 1 => do
    let spaces ← span (· = ' ')
    let p ← get
    let deepest := if spaces.isEmpty then deepest else max deepest p.column
    match ← lineBreak? with
    | none => return ([], deepest)
    | some c =>
      let (cs, deepest) ← leadingLines deepest fuel
      return (c :: cs, deepest)

def indentTo (indent : Nat) : Reading Unit := do
  let p ← get
  skip ((p.rest.takeWhile (· = ' ')).length.min (indent - p.column))

/-- The breaks of empty lines, up to a line with text or one that is indented less. -/
def blockBreaks (indent : Nat) : Nat → Reading (List Char)
  | 0 => throw .malformed
  | fuel + 1 => do
    indentTo indent
    match ← lineBreak? with
    | none => return []
    | some c => return c :: (← blockBreaks indent fuel)

def startsWithGap (cs : List Char) : Bool := cs.head?.any isGap

/-- The lines of a text after the breaks `before`: all but the end of the last one, that end, and
the breaks of the empty lines behind it. With `fold`, a single break between two lines that do not
start with a gap becomes a space. -/
def blockLines (fold : Bool) (indent : Nat) (before : List Char) :
    Nat → Reading (List Char × List Char × List Char)
  | 0 => throw .malformed
  | fuel + 1 => do
    let p ← get
    if p.column ≠ indent || p.rest.isEmpty then return ([], [], before)
    let line ← span fun c => !isBreak c
    let ended ← lineBreak?
    let after ← blockBreaks indent fuel
    let p ← get
    if p.column ≠ indent || p.rest.isEmpty then return (before ++ line, ended.toList, after)
    let folds := fold && ended = some '\n' && !startsWithGap line && !startsWithGap p.rest
    let joint := if folds then (if after.isEmpty then [' '] else []) else ended.toList
    let (more, last, tail) ← blockLines fold indent after fuel
    return (before ++ line ++ joint ++ more, last, tail)

/-- A text within what is indented to the column `parent`. -/
def block (fold : Bool) (parent : Option Nat) : Reading String := do
  skip 1
  let (chomp, increment) ← blockHeader
  let fuel := (← get).rest.length + 1
  let least := max 1 ((parent.map (· + 1)).getD 0)
  let (before, indent) ← match increment with
    | none => do
      let (cs, deepest) ← leadingLines 0 fuel
      pure (cs, max least deepest)
    | some n => do
      let indent := least + n - 1
      pure (← blockBreaks indent fuel, indent)
  let (cs, last, tail) ← blockLines fold indent before fuel
  let kept := match chomp with
    | .strip => []
    | .clip => last
    | .keep => last ++ tail
  return String.ofList (cs ++ kept)

end FixTrial.Yaml.Reading
