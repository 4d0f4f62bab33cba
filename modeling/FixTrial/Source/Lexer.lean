import FixTrial.Source.Token
import FixTrial.Text.Composition
import FixTrial.Text.Identifier

/-!
Python source cut into tokens. Line ends and indentation count outside brackets only, and a blank or
comment line counts nowhere.
-/
namespace FixTrial.Source

/-- How far a line is indented, with tabs to every eighth column and with tabs of one column. Lines
have to agree in both. -/
structure Indentation where
  wide : Nat
  narrow : Nat
deriving DecidableEq

/-- How deep blocks may be nested, the outermost one included. -/
def indentLimit : Nat := 100

def bracketLimit : Nat := 200

/-- What encloses a place: the blocks by their indentation and the closing brackets to come, both
innermost first. -/
structure Enclosure where
  blocks : List Indentation
  brackets : List Char

/-- The indentation of a line and what follows it. A line that is continued in its indentation has
that of its first part, unless there is none. -/
def indentationOf (first : Option Indentation) (here : Indentation) :
    List Char → Option (Indentation × List Char)
  | ' ' :: rest => indentationOf first ⟨here.wide + 1, here.narrow + 1⟩ rest
  | '\t' :: rest => indentationOf first ⟨(here.wide / 8 + 1) * 8, here.narrow + 1⟩ rest
  | '\x0c' :: rest => indentationOf first ⟨0, 0⟩ rest
  | ['\\'] | ['\\', _] => none
  | '\\' :: c :: rest =>
    if c = '\n' then
      let first := if first.isSome || here.wide = 0 then first else some ⟨here.wide, here.wide⟩
      indentationOf first here rest
    else none
  | cs => some (first.getD here, cs)

/-- The blocks that are closed by a line of lesser indentation: those that remain, and how many. -/
def closeBlocks (wide : Nat) : List Indentation → List Indentation × Nat
  | [] => ([], 0)
  | b :: rest =>
    if wide < b.wide then
      let (blocks, n) := closeBlocks wide rest
      (blocks, n + 1)
    else (b :: rest, 0)

/-- The tokens that a line's indentation gives, and the blocks it stands in. -/
def shiftBlocks (blocks : List Indentation) (i : Indentation) :
    Option (List Token × List Indentation) :=
  let current := blocks.headD ⟨0, 0⟩
  if i.wide = current.wide then if i.narrow = current.narrow then some ([], blocks) else none
  else if current.wide < i.wide then
    if blocks.length + 1 < indentLimit && current.narrow < i.narrow then
      some ([.indent], i :: blocks)
    else none
  else
    let (rest, n) := closeBlocks i.wide blocks
    if rest.headD ⟨0, 0⟩ = i then some (List.replicate n .dedent, rest) else none

def isSpace (c : Char) : Bool := c = ' ' || c = '\t' || c = '\x0c'

def afterLine (cs : List Char) : List Char := (cs.dropWhile (· ≠ '\n')).drop 1

/-- A word, unless it holds characters that have no place in an identifier. Only a word in plain
letters may be a keyword; of any other, the normal form counts. -/
def word? (cs : List Char) : Option Token :=
  match cs with
  | [] => none
  | c :: rest =>
    if cs.all (·.toNat < 128) then some (.ofWord (String.ofList cs))
    else if (c = '_' || Text.identifierStart.contains c) && rest.all Text.identifierContinue.contains
    then some (.name (String.ofList (Text.normalForm cs)))
    else none

def literal? (marks : List Char) (cs : List Char) : Option (Token × List Char) := do
  let (raw, bytes, formatted) ← literalPrefix? marks
  let (body, rest) ← quotedBody cs
  return (.literal ⟨raw, bytes, formatted, body⟩, rest)

def isQuote (c : Char) : Bool := c = '\'' || c = '"'

def wordOrLiteral? (cs : List Char) : Option (Token × List Char) :=
  let letters := cs.takeWhile isWordChar
  let rest := cs.dropWhile isWordChar
  if rest.head?.any isQuote && (literalPrefix? letters).isSome then literal? letters rest
  else (word? letters).map fun t => (t, rest)

/-- A bracket, with the brackets that are then open. -/
def bracket? (brackets : List Char) (c : Char) : Option (List Char) :=
  match closing? c with
  | some d => if brackets.length < bracketLimit then some (d :: brackets) else none
  | none =>
    match brackets with
    | d :: rest => if c = d then some rest else none
    | [] => none

/-- The token at the start of `cs`, which is neither blank nor the end of a line. -/
def token? (brackets : List Char) (cs : List Char) :
    Option (Token × List Char × List Char) :=
  match cs with
  | [] => none
  | c :: rest =>
    if c.isDigit || (c = '.' && rest.head?.any Char.isDigit) then
      let read := if c = '.' then fractionPart rest else number cs
      read.map fun (kind, rest) => (.number kind, brackets, rest)
    else if isWordChar c then (wordOrLiteral? cs).map fun (t, rest) => (t, brackets, rest)
    else if isQuote c then (literal? [] cs).map fun (t, rest) => (t, brackets, rest)
    else if (closing? c).isSome || isClosing c then
      (bracket? brackets c).map fun bs => (.mark (String.ofList [c]), bs, rest)
    else (operator? cs).map fun (o, rest) => (.mark o, brackets, rest)

/-- The tokens of `cs`, `fuel` bounding the steps. -/
def tokensFrom (fuel : Nat) (lineStart : Bool) (e : Enclosure) (cs : List Char) :
    Option (List Token) :=
  match fuel with
  | 0 => none
  | fuel + 1 =>
    if lineStart then
      match indentationOf none ⟨0, 0⟩ cs with
      | none => none
      | some (i, rest) =>
        if rest.head? = some '#' || rest.head? = some '\n' then
          tokensFrom fuel true e (afterLine rest)
        else if !e.brackets.isEmpty then tokensFrom fuel false e rest
        else
          match shiftBlocks e.blocks i with
          | none => none
          | some (shifts, blocks) =>
            (tokensFrom fuel false { e with blocks } rest).map (shifts ++ ·)
    else
      match cs.dropWhile isSpace with
      | [] => if e.brackets.isEmpty then some [] else none
      | '#' :: rest => tokensFrom fuel false e (rest.dropWhile (· ≠ '\n'))
      | '\n' :: rest =>
        if e.brackets.isEmpty then (tokensFrom fuel true e rest).map (.newline :: ·)
        else tokensFrom fuel true e rest
      | '\\' :: '\n' :: rest => if rest.isEmpty then none else tokensFrom fuel false e rest
      | c :: rest =>
        match token? e.brackets (c :: rest) with
        | none => none
        | some (t, brackets, rest) =>
          (tokensFrom fuel false { e with brackets } rest).map (t :: ·)

/-- The tokens of a source text, unless it has some that are malformed. -/
def tokens (cs : List Char) : Option (List Token) :=
  let ended := if cs.getLast? = some '\n' then cs else cs ++ ['\n']
  if cs.contains '\x00' then none else tokensFrom (2 * ended.length + 2) true ⟨[], []⟩ ended

end FixTrial.Source
