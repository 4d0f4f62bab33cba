import FixTrial.Yaml.Block
import FixTrial.Yaml.Mark
import FixTrial.Yaml.Plain
import FixTrial.Yaml.Quoted

/-!
YAML text cut into tokens. Whether a node is a key shows only at the colon after it: the place of the
last node that may be one is remembered, and the token that announces a key is inserted there.
-/
namespace FixTrial.Yaml

/-- A node that may turn out to be a key: how many tokens came before it, whether it has to be one,
and where it starts. -/
structure Candidate where
  token : Nat
  required : Bool
  index : Nat
  line : Nat
  column : Nat

/-- How many characters a key may have before its colon. -/
def keyLimit : Nat := 1024

/-- The tokens read so far and the place after them. `blocks` holds the columns of the collections
that are open by indentation, innermost first, and `depth` counts the open brackets. -/
structure Lexer where
  place : Place
  tokens : Array Token
  blocks : List Nat
  depth : Nat
  /-- Whether a key may start here. -/
  keyAllowed : Bool
  /-- The candidates, with the depth of each. -/
  candidates : List (Nat × Candidate)

abbrev Lexing := StateT Lexer (Except Error)

namespace Lexing

def reading {α : Type} (r : Reading α) : Lexing α := do
  let s ← get
  match r s.place with
  | .ok (a, place) =>
    set { s with place }
    return a
  | .error e => throw e

def emit (t : Token) : Lexing Unit := modify fun s => { s with tokens := s.tokens.push t }

def allowKey (allowed : Bool) : Lexing Unit := modify fun s => { s with keyAllowed := allowed }

/-- Ends the collections whose columns lie behind `column`, or all; brackets keep them open. -/
def closeBlocks (column : Option Nat) : Lexing Unit := modify fun s =>
  if s.depth = 0 then
    let isClosed (b : Nat) : Bool := column.all fun c => c < b
    let ends := (s.blocks.takeWhile isClosed).map fun _ => Token.blockEnd
    { s with tokens := s.tokens ++ ends.toArray, blocks := s.blocks.dropWhile isClosed }
  else s

/-- Opens a collection at a column, if none is open there, and says whether it did. -/
def openBlock (column : Nat) : Lexing Bool := do
  let s ← get
  if s.blocks.head?.all (· < column) then
    set { s with blocks := column :: s.blocks }
    return true
  else return false

/-- Forgets the candidate at this depth. One that had to be a key is an error. -/
def dropCandidate : Lexing Unit := do
  let s ← get
  if (s.candidates.lookup s.depth).any (·.required) then throw .malformed
  set { s with candidates := s.candidates.filter (·.1 ≠ s.depth) }

/-- Forgets the candidates that are too far away for a colon to follow. -/
def dropStale : Lexing Unit := do
  let s ← get
  let isStale (k : Candidate) : Bool :=
    k.line ≠ s.place.line || keyLimit < s.place.index - k.index
  if s.candidates.any fun (_, k) => isStale k && k.required then throw .malformed
  set { s with candidates := s.candidates.filter fun (_, k) => !isStale k }

/-- Remembers that a node starts here. -/
def addCandidate : Lexing Unit := do
  if (← get).keyAllowed then
    dropCandidate
    modify fun s =>
      let p := s.place
      let required := s.depth = 0 && s.blocks.head? = some p.column
      { s with
        candidates := (s.depth, ⟨s.tokens.size, required, p.index, p.line, p.column⟩)
          :: s.candidates }

/-- Skips spaces, comments and line ends; whether a line ended. -/
def gapFrom (ended : Bool) : Nat → Reading Bool
  | 0 => throw .malformed
  | fuel + 1 => do
    let _ ← Reading.span (· = ' ')
    if (← Reading.next) = some '#' then
      let _ ← Reading.span fun c => !isBreak c
    match ← Reading.lineBreak? with
    | some _ => gapFrom true fuel
    | none => return ended

def mark (length : Nat) (t : Token) : Lexing Unit := do
  reading (Reading.skip length)
  emit t

/-- A node without parts, which may turn out to be a key. -/
def leaf (r : Reading Token) : Lexing Unit := do
  addCandidate
  allowKey false
  emit (← reading r)

def separator (t : Token) : Lexing Unit := do
  closeBlocks none
  dropCandidate
  allowKey false
  mark 3 t

def openBracket (t : Token) : Lexing Unit := do
  addCandidate
  modify fun s => { s with depth := s.depth + 1 }
  allowKey true
  mark 1 t

def closeBracket (t : Token) : Lexing Unit := do
  dropCandidate
  if (← get).depth = 0 then throw .malformed
  modify fun s => { s with depth := s.depth - 1 }
  allowKey false
  mark 1 t

def comma : Lexing Unit := do
  allowKey true
  dropCandidate
  mark 1 .comma

/-- The mark of an item, a key or a value, which opens a collection if it is the first there. -/
def blockMark (opening t : Token) : Lexing Unit := do
  let s ← get
  if s.depth = 0 then
    if !s.keyAllowed then throw .malformed
    if ← openBlock s.place.column then emit opening
  dropCandidate
  mark 1 t

def item : Lexing Unit := do
  blockMark .blockList .item
  allowKey true

def key : Lexing Unit := do
  blockMark .blockMap .key
  allowKey ((← get).depth = 0)

/-- The colon after a key: the candidate at this depth if there is one, or an empty one. -/
def value : Lexing Unit := do
  let s ← get
  match s.candidates.lookup s.depth with
  | some k =>
    let opens ← if s.depth = 0 then openBlock k.column else pure false
    let marks := if opens then [Token.blockMap, .key] else [.key]
    modify fun s =>
      { s with
        tokens := s.tokens.extract 0 k.token ++ marks.toArray ++ s.tokens.extract k.token
        candidates := s.candidates.filter (·.1 ≠ s.depth)
        keyAllowed := false }
    mark 1 .value
  | none =>
    blockMark .blockMap .value
    allowKey (s.depth = 0)

def plainScalar : Lexing Unit := do
  addCandidate
  let s ← get
  let indent := (s.blocks.head?.map (· + 1)).getD 0
  let (read, lineEnds) ← reading (Reading.plain (s.depth ≠ 0) indent)
  allowKey lineEnds
  emit (.scalar read true)

def blockScalar (fold : Bool) : Lexing Unit := do
  allowKey true
  dropCandidate
  emit (.scalar (← reading (Reading.block fold (← get).blocks.head?)) false)

/-- Whether a text without quotes may start with `c` before `next`. -/
def startsPlain (flow : Bool) (c : Char) (next : Option Char) : Bool :=
  if "-?:,[]\x7b\x7d#&*!|>'\"%@`\t".toList.contains c then
    !endsWord next && (c = '-' || (!flow && (c = '?' || c = ':')))
  else true

/-- The next token, and those that its place brings with it. Whether there was one. -/
def step : Lexing Bool := do
  let ended ← reading (gapFrom false ((← get).place.rest.length + 1))
  if ended && (← get).depth = 0 then allowKey true
  dropStale
  closeBlocks (some (← get).place.column)
  let s ← get
  let flow := s.depth ≠ 0
  match s.place.rest with
  | [] =>
    closeBlocks none
    dropCandidate
    return false
  | c :: rest =>
    let ends := endsWord rest.head?
    if c = '%' && s.place.column = 0 then
      closeBlocks none
      dropCandidate
      allowKey false
      emit (.directive (← reading Reading.directive))
    else if s.place.column = 0 && s.place.isSeparator then
      separator (if c = '-' then .documentStart else .documentEnd)
    else if c = '[' then openBracket .listOpen
    else if c = '\x7b' then openBracket .mapOpen
    else if c = ']' then closeBracket .listClose
    else if c = '\x7d' then closeBracket .mapClose
    else if c = ',' then comma
    else if c = '-' && ends then item
    else if c = '?' && (flow || ends) then key
    else if c = ':' && (flow || ends) then value
    else if c = '*' then leaf (Token.alias <$> Reading.anchorName)
    else if c = '&' then leaf (Token.anchor <$> Reading.anchorName)
    else if c = '!' then leaf Reading.tag
    else if c = '|' && !flow then blockScalar false
    else if c = '>' && !flow then blockScalar true
    else if c = '\'' || c = '"' then leaf ((Token.scalar · false) <$> Reading.quoted c)
    else if startsPlain flow c rest.head? then plainScalar
    else throw .malformed
    return true

def steps : Nat → Lexing Unit
  | 0 => throw .malformed
  | fuel + 1 => do if ← step then steps fuel

end Lexing

def isAllowed (c : Char) : Bool :=
  let n := c.toNat
  c = '\t' || c = '\n' || c = '\r' || n = 0x85 || (0x20 ≤ n && n ≤ 0x7e) || (0xa0 ≤ n && n ≤ 0xfffd)
    || 0x10000 ≤ n

def tokens (cs : List Char) : Except Error (List Token) := do
  if !cs.all isAllowed then throw .malformed
  let cs := if cs.head? = some '\ufeff' then cs.drop 1 else cs
  let start : Lexer := ⟨⟨cs, 0, 0, 0⟩, #[], [], 0, true, []⟩
  let ((), s) ← Lexing.steps (cs.length + 2) start
  return s.tokens.toList

end FixTrial.Yaml
