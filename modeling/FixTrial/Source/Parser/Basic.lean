import FixTrial.Source.Token
import FixTrial.Source.Tree

/-!
Parsers over tokens. A parser that fails takes nothing, so that alternatives start where it did. The
rules that call each other are tied together by a `Self`, which gives the parser of each.
-/
namespace FixTrial.Source

abbrev Parser (α : Type) := StateT (List Token) Option α

inductive Rule
  | expression
  | factor
  | primary
  | pattern
  | block

/-- What a rule reads. A pattern gives the expressions in it. -/
def Rule.Out : Rule → Type
  | .expression | .factor | .primary => Expression
  | .pattern => List Expression
  | .block => List Statement

abbrev Self := (r : Rule) → Parser r.Out

namespace Parser

def look : Parser (Option Token) := return (← get).head?

def take (t : Token) : Parser Unit := fun
  | u :: rest => if u = t then some ((), rest) else none
  | [] => none

/-- Takes a token if it comes next, and says whether it did. -/
def takes (t : Token) : Parser Bool := fun
  | u :: rest => if u = t then some (true, rest) else some (false, u :: rest)
  | [] => some (false, [])

def sees (t : Token) : Parser Bool := return (← look) = some t

def mark (s : String) : Parser Unit := take (.mark s)
def keyword (s : String) : Parser Unit := take (.keyword s)

def name : Parser String := fun
  | .name s :: rest => some (s, rest)
  | _ => none

def oneMark (marks : List String) : Parser Unit := fun
  | .mark s :: rest => if marks.contains s then some ((), rest) else none
  | _ => none

def manyFrom (p : Parser α) : Nat → Parser (List α)
  | 0 => pure []
  | n + 1 => fun ts =>
    match p ts with
    | none => some ([], ts)
    | some (a, rest) => (manyFrom p n rest).map fun (as, rest) => (a :: as, rest)

/-- `p` as often as it succeeds; it takes at least one token each time. -/
def many (p : Parser α) : Parser (List α) := fun ts => manyFrom p ts.length ts

/-- `p` once or more often, with a comma between. -/
def separated (p : Parser α) : Parser (List α) := do
  return (← p) :: (← many (mark "," *> p))

/-- The same, with a comma at the end or not. -/
def closedList (p : Parser α) : Parser (List α) := do
  let items ← separated p
  let _ ← takes (.mark ",")
  return items

def perhaps (p : Parser α) : Parser (List α) := (do return [← p]) <|> pure []

/-- `p` if the token comes next, after that token. -/
def after (t : Token) (p : Parser α) : Parser (List α) := do
  if ← takes t then return [← p] else return []

end Parser
end FixTrial.Source
