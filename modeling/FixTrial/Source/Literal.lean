import FixTrial.Source.Number
import FixTrial.Text.Hex

/-! String literals of Python source: prefixes, quotes and escapes. -/
namespace FixTrial.Source

/-- A string literal: what its prefix says, and the text between the quotes. -/
structure Literal where
  raw : Bool
  bytes : Bool
  formatted : Bool
  body : List Char
deriving DecidableEq

/-- What a prefix says: raw, bytes, formatted. -/
def literalPrefix? (cs : List Char) : Option (Bool × Bool × Bool) :=
  match cs.map Char.toLower with
  | [] => some (false, false, false)
  | ['u'] => some (false, false, false)
  | ['r'] => some (true, false, false)
  | ['b'] => some (false, true, false)
  | ['f'] => some (false, false, true)
  | ['b', 'r'] | ['r', 'b'] => some (true, true, false)
  | ['f', 'r'] | ['r', 'f'] => some (true, false, true)
  | _ => none

/-- The body of a literal within single quotation marks, last character first, and what follows the
closing one. -/
def shortBody (q : Char) (body : List Char) : List Char → Option (List Char × List Char)
  | [] => none
  | '\\' :: c :: rest => shortBody q (c :: '\\' :: body) rest
  | c :: rest =>
    if c = q then some (body, rest)
    else if c = '\n' then none
    else shortBody q (c :: body) rest

/-- The same within threefold quotation marks. -/
def longBody (q : Char) (body : List Char) : List Char → Option (List Char × List Char)
  | '\\' :: c :: rest => longBody q (c :: '\\' :: body) rest
  | a :: b :: c :: rest =>
    if a = q && b = q && c = q then some (body, rest) else longBody q (a :: body) (b :: c :: rest)
  | _ => none

/-- The text between the quotation marks that `cs` opens with, and what follows them. -/
def quotedBody (cs : List Char) : Option (List Char × List Char) := do
  let (body, rest) ← match cs with
    | a :: b :: c :: rest =>
      if a = b && b = c then longBody a [] rest else shortBody a [] (b :: c :: rest)
    | a :: rest => shortBody a [] rest
    | [] => none
  return (body.reverse, rest)

def hexNumber (digits : List Char) : Option Nat :=
  digits.foldlM (fun n c => (Text.hexValue? c).map fun d => 16 * n + d) 0

def startsWithHex (count bound : Nat) (cs : List Char) : Bool :=
  let digits := cs.take count
  digits.length = count && (hexNumber digits).any (· ≤ bound)

def startsWithName (cs : List Char) : Bool :=
  match cs with
  | '\x7b' :: rest =>
    let name := rest.takeWhile (· ≠ '\x7d')
    !name.isEmpty && name.length < rest.length
      && name.all fun c => c.isAlphanum || c = ' ' || c = '-'
  | _ => false

/-- Whether an escape may open with `c`, before `rest`. An escape that is not known stands for
itself. -/
def isEscape (bytes : Bool) (c : Char) (rest : List Char) : Bool :=
  if c = 'x' then startsWithHex 2 0xff rest
  else if bytes then true
  else if c = 'u' then startsWithHex 4 0xffff rest
  else if c = 'U' then startsWithHex 8 0x10ffff rest
  else if c = 'N' then startsWithName rest
  else true

def escapesComplete (bytes : Bool) : List Char → Bool
  | '\\' :: c :: rest => isEscape bytes c rest && escapesComplete bytes rest
  | _ :: rest => escapesComplete bytes rest
  | [] => true

/-- Whether a literal without expressions stands for a value. Bytes are written in ASCII. -/
def Literal.isWellFormed (l : Literal) : Bool :=
  (!l.bytes || l.body.all fun c => c.toNat < 128) && (l.raw || escapesComplete l.bytes l.body)

end FixTrial.Source
