import FixTrial.Yaml.Place

/-! Texts without quotes. -/
namespace FixTrial.Yaml.Reading

def flowMarks : List Char := ",?[]\x7b\x7d".toList

/-- The characters up to the next gap or mark; `flow` tells whether brackets enclose the text. -/
def plainRun (flow : Bool) : List Char → List Char
  | [] => []
  | c :: rest =>
    let colonEnds (next : Option Char) : Bool :=
      endsWord next || (flow && next.any ",[]\x7b\x7d".toList.contains)
    if isGap c || isBreak c || (c = ':' && colonEnds rest.head?) || (flow && flowMarks.contains c)
    then []
    else c :: plainRun flow rest

/-- The breaks of the empty lines that come next, unless a line that separates documents comes. -/
def plainBreaks : Nat → Reading (Option (List Char))
  | 0 => throw .malformed
  | fuel + 1 => do
    let _ ← span (· = ' ')
    match ← lineBreak? with
    | none => return some []
    | some c =>
      if (← get).isSeparator then return none
      return (← plainBreaks fuel).map (c :: ·)

/-- The gap between two runs, empty where the text ends, and whether a line ends in it. -/
def plainGap (fuel : Nat) : Reading (List Char × Bool) := do
  let spaces ← span (· = ' ')
  match ← lineBreak? with
  | none => return (spaces, false)
  | some c =>
    if (← get).isSeparator then return ([], true)
    match ← plainBreaks fuel with
    | none => return ([], true)
    | some cs => return (folded c cs, true)

/-- The text after `text`, which `gap` follows, and whether a line ends behind it. Outside of
brackets each line has to be indented by `indent`. -/
def plainFrom (flow : Bool) (indent : Nat) (text gap : List Char) (lineEnds : Bool) :
    Nat → Reading (List Char × Bool)
  | 0 => throw .malformed
  | fuel + 1 => do
    let run := plainRun flow (← get).rest
    if run.isEmpty then return (text, lineEnds)
    skip run.length
    let text := text ++ gap ++ run
    let (gap, lineEnds) ← plainGap fuel
    let p ← get
    if gap.isEmpty || p.rest.head? = some '#' || (!flow && p.column < indent) then
      return (text, lineEnds)
    else plainFrom flow indent text gap lineEnds fuel

def plain (flow : Bool) (indent : Nat) : Reading (String × Bool) := do
  let (cs, lineEnds) ← plainFrom flow indent [] [] false ((← get).rest.length + 1)
  return (String.ofList cs, lineEnds)

end FixTrial.Yaml.Reading
