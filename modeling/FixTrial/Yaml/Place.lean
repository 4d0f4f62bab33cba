import FixTrial.Yaml.Error

/-! Places in a YAML text, and readers that move along it. Line ends of more than one form have been
read as line feeds before. -/
namespace FixTrial.Yaml

def isBreak (c : Char) : Bool := c = '\n' || c = '\u2028' || c = '\u2029'

def isGap (c : Char) : Bool := c = ' ' || c = '\t'

/-- Whether a word may end before what comes next. -/
def endsWord (next : Option Char) : Bool := next.all fun c => isGap c || isBreak c

/-- What is left to read, and where that starts; `index` counts all characters before it. -/
structure Place where
  rest : List Char
  column : Nat
  line : Nat
  index : Nat

namespace Place

def skip (p : Place) : Nat → Place
  | 0 => p
  | n + 1 =>
    match p.rest with
    | [] => p
    | c :: rest =>
      if isBreak c then skip ⟨rest, 0, p.line + 1, p.index + 1⟩ n
      else skip ⟨rest, p.column + (if c = '\ufeff' then 0 else 1), p.line, p.index + 1⟩ n

/-- Whether a line that separates documents starts here. -/
def isSeparator (p : Place) : Bool :=
  (["---", "..."].any fun s => s.toList.isPrefixOf p.rest) && endsWord p.rest[3]?

end Place

abbrev Reading := StateT Place (Except Error)

namespace Reading

def next : Reading (Option Char) := return (← get).rest.head?

def skip (n : Nat) : Reading Unit := modify (·.skip n)

def span (f : Char → Bool) : Reading (List Char) := do
  let cs := (← get).rest.takeWhile f
  skip cs.length
  return cs

def take? (f : Char → Bool) : Reading (Option Char) := do
  match ← next with
  | some c => if f c then skip 1; return some c else return none
  | none => return none

def lineBreak? : Reading (Option Char) := take? isBreak

def require (ok : Bool) : Reading Unit := if ok then pure () else throw .malformed

/-- Takes the rest of a line that holds nothing more than a comment. -/
def restOfLine : Reading Unit := do
  let _ ← span (· = ' ')
  if (← next) = some '#' then
    let _ ← span fun c => !isBreak c
  require ((← next).all isBreak)
  let _ ← lineBreak?

/-- A line break between two lines of a text, and those of the empty lines after it: a single one
joins the lines by a space. -/
def folded (first : Char) (others : List Char) : List Char :=
  if first ≠ '\n' then first :: others else if others.isEmpty then [' '] else others

end Reading
end FixTrial.Yaml
