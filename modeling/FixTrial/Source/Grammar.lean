import FixTrial.Source.Parser.Statement

/-! Python source read as statements. -/
namespace FixTrial.Source

namespace Parser

def step (self : Self) : (r : Rule) → Parser r.Out
  | .expression => anyExpression self
  | .factor => factor self
  | .primary => primary self
  | .pattern => anyPattern self
  | .block => anyBlock self

/-- The rules, called at most `depth` deep. -/
def rules : (depth : Nat) → Self
  | 0, _ => failure
  | n + 1, r => step (rules n) r

def program (self : Self) : Parser (List Statement) := do
  let statements ← many (statement self)
  require (← look).isNone
  return statements.flatten

end Parser

/-- The statements of a source text, unless it is malformed. No rule calls another more than four
deep without taking a token. -/
def read? (source : String) : Option (List Statement) := do
  let cs := source.toList
  let ts ← tokens cs
  let (statements, _) ← Parser.program (Parser.rules (4 * cs.length + 16)) ts
  return statements

end FixTrial.Source
