import FixTrial.Source.Parser.Primary

/-! The grammar of parameters, of functions and of lambda expressions. -/
namespace FixTrial.Source.Parser
variable (self : Self)

inductive ParameterItem
  /-- A parameter with a name of its own, and whether it has a default. -/
  | named (name : String) (hasDefault : Bool) (parts : List Expression)
  | slash
  | star
  /-- The parameter for further positional arguments. -/
  | rest (parts : List Expression)
  /-- The parameter for further keyword arguments. -/
  | keywords (parts : List Expression)

/-- The place in a parameter list, as far as it restricts what may follow. -/
inductive ParameterPhase
  | start
  /-- After positional parameters; `defaults` once one has a default, `closed` after the slash. -/
  | positional (defaults closed : Bool)
  /-- Right after a star, where a named parameter has to follow. -/
  | star
  | keyword
  | finished

def ParameterPhase.allows : ParameterPhase → List ParameterItem → Bool
  | .star, [] => false
  | _, [] => true
  | .start, .named _ d _ :: items => allows (.positional d false) items
  | .positional defaults closed, .named _ d _ :: items =>
    (d || !defaults) && allows (.positional d closed) items
  | .star, .named .. :: items => allows .keyword items
  | .keyword, .named .. :: items => allows .keyword items
  | .positional defaults false, .slash :: items => allows (.positional defaults true) items
  | .start, .star :: items => allows .star items
  | .positional .., .star :: items => allows .star items
  | .start, .rest _ :: items => allows .keyword items
  | .positional .., .rest _ :: items => allows .keyword items
  | .start, .keywords _ :: items => allows .finished items
  | .positional .., .keywords _ :: items => allows .finished items
  | .keyword, .keywords _ :: items => allows .finished items
  | _, _ => false

namespace ParameterItem

def name? : ParameterItem → Option String
  | .named n _ _ => some n
  | _ => none

def parts : ParameterItem → List Expression
  | .named _ _ ps | .rest ps | .keywords ps => ps
  | .slash | .star => []

end ParameterItem

/-- An annotation, where there may be one. -/
def hint? (annotated : Bool) (value : Parser Expression) : Parser (List Expression) :=
  if annotated then after (.mark ":") value else pure []

def parameterItem (annotated : Bool) : Parser ParameterItem := do
  if ← takes (.mark "/") then return .slash
  else if ← takes (.mark "**") then
    let _ ← name
    return .keywords (← hint? annotated (expression self))
  else if ← takes (.mark "*") then
    match ← look with
    | some (.name n) =>
      take (.name n)
      return .rest (← hint? annotated (starExpression self))
    | _ => return .star
  else
    let n ← name
    let hint ← hint? annotated (expression self)
    let default ← after (.mark "=") (expression self)
    return .named n (!default.isEmpty) (hint ++ default)

/-- A parameter list, which may be empty. A star may not stand at its end. -/
def signature (annotated : Bool) : Parser Signature := do
  let items := (← perhaps (closedList (parameterItem self annotated))).flatten
  require (ParameterPhase.start.allows items)
  return ⟨items.filterMap ParameterItem.name?, items.flatMap ParameterItem.parts⟩

def lambda : Parser Expression := do
  keyword "lambda"
  let s ← signature self false
  mark ":"
  return .compound (s.parts ++ [← expression self])

/-- A lambda expression, or a choice between two by a condition. -/
def anyExpression : Parser Expression := do
  if ← sees (.keyword "lambda") then lambda self
  else
    let value ← disjunction self
    if ← takes (.keyword "if") then
      let condition ← disjunction self
      keyword "else"
      return .compound [value, condition, ← expression self]
    else return value

end FixTrial.Source.Parser
