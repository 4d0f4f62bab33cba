import FixTrial.Source.Formatted
import FixTrial.Source.Lexer
import FixTrial.Source.Parser.Basic

/-! The grammar of expressions. -/
namespace FixTrial.Source
namespace Expression

def stored? : Expression → Option Expression
  | .name n => some (.name n)
  | .attribute value member _ => some (.attribute value member .write)
  | .subscript value parts => some (.subscript value parts)
  | .starred value => value.stored?.map .starred
  | .tuple items => (storedItems? items).map .tuple
  | .list items => (storedItems? items).map .list
  | _ => none
where
  storedItems? : List Expression → Option (List Expression)
    | [] => some []
    | e :: rest => do return (← e.stored?) :: (← storedItems? rest)

/-- Whether the expression is a single target: a name, an attribute or a subscript. -/
def isSingleTarget : Expression → Bool
  | .name _ | .attribute .. | .subscript .. => true
  | _ => false

def isStarred : Expression → Bool
  | .starred _ => true
  | _ => false

def combined (first : Expression) : List Expression → Expression
  | [] => first
  | rest => .compound (first :: rest)

end Expression

namespace Parser
open Expression

def stored (e : Expression) : Parser Expression := fun ts => e.stored?.map fun e => (e, ts)

def require (b : Bool) : Parser Unit := if b then pure () else failure

variable (self : Self)

/-- Operands with operators between, taken together. -/
def chain (operator : Parser Unit) (operand : Parser Expression) : Parser Expression := do
  return combined (← operand) (← many (operator *> operand))

def expression : Parser Expression := self .expression

def seesNameAnd (s : String) : Parser Bool := fun ts =>
  match ts with
  | .name _ :: .mark t :: _ => some (t = s, ts)
  | _ => some (false, ts)

/-- A name bound to a value within an expression, or any expression. -/
def namedExpression : Parser Expression := do
  if ← seesNameAnd ":=" then
    let n ← name
    mark ":="
    return .compound [.name n, ← expression self]
  else
    let e ← expression self
    require (!(← sees (.mark ":=")))
    return e

def embedded (star : Parser Expression) (text : List Char) : Option Expression := do
  let ts ← tokens ('(' :: text ++ [')'])
  let (e, _) ← star ts
  return e

/-- The expressions in a string literal, unless it is malformed. -/
def literalParts (star : Parser Expression) (l : Literal) : Option (List Expression) :=
  if l.formatted then do (← expressionTexts l.raw l.body).mapM (embedded star)
  else if l.isWellFormed then some []
  else none

def literal : Parser Literal := fun
  | .literal l :: rest => some (l, rest)
  | _ => none

def strings (star : Parser Expression) : Parser Expression := do
  let first ← literal
  let ls := first :: (← many literal)
  require (ls.all fun l => l.bytes = first.bytes)
  let parts ← StateT.lift (ls.mapM (literalParts star))
  return .compound parts.flatten

inductive Argument
  | positional (e : Expression)
  | unpacked (e : Expression)
  | keyword (e : Expression)
  | unpackedKeywords (e : Expression)

namespace Argument

def expression : Argument → Expression
  | .positional e | .unpacked e | .keyword e | .unpackedKeywords e => e

def isKeyword : Argument → Bool
  | .keyword _ | .unpackedKeywords _ => true
  | _ => false

/-- How late in a list of arguments an argument of its kind makes others follow: after keywords no
plain one, and after unpacked keywords no unpacked one. -/
def areOrdered (keywords unpackedKeywords : Bool) : List Argument → Bool
  | [] => true
  | .positional _ :: rest =>
    !keywords && !unpackedKeywords && areOrdered keywords unpackedKeywords rest
  | .unpacked _ :: rest => !unpackedKeywords && areOrdered keywords unpackedKeywords rest
  | .keyword _ :: rest => areOrdered true unpackedKeywords rest
  | .unpackedKeywords _ :: rest => areOrdered keywords true rest

end Argument

def argument : Parser Argument := do
  if ← takes (.mark "*") then return .unpacked (.starred (← expression self))
  else if ← takes (.mark "**") then return .unpackedKeywords (← expression self)
  else if ← seesNameAnd "=" then
    let _ ← name
    mark "="
    return .keyword (← expression self)
  else return .positional (← namedExpression self)

def arguments : Parser (List Argument) := do
  let args ← closedList (argument self)
  require (Argument.areOrdered false false args)
  return args

def comparisonOperator : Parser Unit :=
  oneMark ["==", "!=", "<=", "<", ">=", ">"] <|> keyword "in"
    <|> (keyword "not" *> keyword "in") <|> (do
      keyword "is"
      let _ ← takes (.keyword "not"))

def term : Parser Expression := chain (oneMark ["*", "/", "//", "%", "@"]) (self .factor)
def sum : Parser Expression := chain (oneMark ["+", "-"]) (term self)
def shift : Parser Expression := chain (oneMark ["<<", ">>"]) (sum self)
def bitwiseAnd : Parser Expression := chain (oneMark ["&"]) (shift self)
def bitwiseXor : Parser Expression := chain (oneMark ["^"]) (bitwiseAnd self)
def bitwiseOr : Parser Expression := chain (oneMark ["|"]) (bitwiseXor self)
def comparison : Parser Expression := chain comparisonOperator (bitwiseOr self)

def inversion : Parser Expression := do
  let denials ← many (keyword "not")
  let e ← comparison self
  if denials.isEmpty then return e else return .compound [e]

def conjunction : Parser Expression := chain (keyword "and") (inversion self)
def disjunction : Parser Expression := chain (keyword "or") (conjunction self)

/-- An expression that a star may precede, where a list of them may stand. -/
def starExpression : Parser Expression := do
  if ← takes (.mark "*") then return .starred (← bitwiseOr self) else expression self

/-- One expression, or several as a tuple. -/
def starExpressions : Parser Expression := do
  let first ← starExpression self
  let rest ← many (mark "," *> starExpression self)
  let closed ← takes (.mark ",")
  if rest.isEmpty && !closed then return first else return .tuple (first :: rest)

def starNamedExpression : Parser Expression := do
  if ← takes (.mark "*") then return .starred (← bitwiseOr self) else namedExpression self

def yieldExpression : Parser Expression := do
  keyword "yield"
  if ← takes (.keyword "from") then return .compound [← expression self]
  else return .compound (← perhaps (starExpressions self))

def assignable : Parser Expression := yieldExpression self <|> starExpressions self

def slice : Parser Expression := do
  let bounded (e : List Expression) : Parser Expression := do
    mark ":"
    let upper ← perhaps (expression self)
    let step ← after (.mark ":") (perhaps (expression self))
    return .compound (e ++ upper ++ step.flatten)
  if ← takes (.mark "*") then return .starred (← expression self)
  else if ← sees (.mark ":") then bounded []
  else
    let bound ← seesNameAnd ":="
    let e ← namedExpression self
    if ← sees (.mark ":") then
      require (!bound)
      bounded [e]
    else return e

end Parser
end FixTrial.Source
