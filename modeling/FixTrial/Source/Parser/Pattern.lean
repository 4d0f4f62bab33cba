import FixTrial.Source.Parser.Expression

/-! The grammar of patterns. Of a pattern the values and the classes in it are kept. -/
namespace FixTrial.Source.Parser
variable (self : Self)

/-- A name that a pattern binds, or the one that stands for anything. -/
def patternName : Parser Unit := do
  let _ ← name
  require !((← sees (.mark ".")) || (← sees (.mark "(")) || (← sees (.mark "=")))

def captureName : Parser Unit := do
  require !(← sees (.name "_"))
  patternName

def numberOf (kind : NumberKind) : Parser Unit := take (.number kind)

/-- A number with a sign, which may be a sum of a real and an imaginary one. -/
def numberPattern : Parser Unit := do
  let _ ← takes (.mark "-")
  if ← takes (.number .imaginary) then
    require !((← sees (.mark "+")) || (← sees (.mark "-")))
  else
    numberOf .real
    if (← sees (.mark "+")) || (← sees (.mark "-")) then
      oneMark ["+", "-"]
      numberOf .imaginary

def constant : Parser Unit := keyword "None" <|> keyword "True" <|> keyword "False"

/-- A literal value; a formatted one may hold expressions. -/
def literalPattern : Parser (List Expression) := do
  match ← look with
  | some (.literal _) => return [← strings (starExpressions self)]
  | _ =>
    numberPattern <|> constant
    return []

def dottedName : Parser Expression := do
  let first ← name
  let members ← many (mark "." *> name)
  return members.foldl (fun e m => .attribute e m .read) (.name first)

/-- A name with at least one attribute, which stands for a value. -/
def valuePattern : Parser (List Expression) := do
  let e ← dottedName
  match e with
  | .attribute .. => return [e]
  | _ => failure

def pattern : Parser (List Expression) := self .pattern

/-- A pattern, or a starred name for the rest of a sequence. -/
def starPattern : Parser (List Expression) := do
  if ← takes (.mark "*") then
    patternName
    return []
  else pattern self

def sequenceItems : Parser (List Expression) :=
  return (← perhaps (closedList (starPattern self))).flatten.flatten

/-- After an opening parenthesis: a sequence, or a pattern on its own. -/
def parenthesizedPattern : Parser (List Expression) := do
  if ← takes (.mark ")") then return []
  else
    let starred ← sees (.mark "*")
    let first ← starPattern self
    if ← takes (.mark ",") then
      let rest ← sequenceItems self
      mark ")"
      return first ++ rest
    else
      require !starred
      mark ")"
      return first

def mappingEntry : Parser (List Expression) := do
  let key ← valuePattern <|> literalPattern self
  mark ":"
  return key ++ (← pattern self)

/-- After an opening brace: the entries of a mapping, and a name for the rest of it. -/
def mappingPattern : Parser (List Expression) := do
  let remainder : Parser Unit := mark "**" *> captureName
  let entries ← perhaps (separated (mappingEntry self))
  if entries.isEmpty then
    let _ ← perhaps (remainder *> takes (.mark ","))
  else
    let _ ← perhaps (mark "," *> remainder)
    let _ ← takes (.mark ",")
  mark "\x7d"
  return entries.flatten.flatten

/-- An argument of a class pattern, and whether it has a keyword. -/
def classArgument : Parser (Bool × List Expression) := do
  if ← seesNameAnd "=" then
    let _ ← name
    mark "="
    return (true, ← pattern self)
  else return (false, ← pattern self)

/-- A class with patterns for its attributes, those with a keyword last. -/
def classPattern : Parser (List Expression) := do
  let classExpression ← dottedName
  mark "("
  let args := (← perhaps (closedList (classArgument self))).flatten
  mark ")"
  require ((args.dropWhile fun a => !a.1).all (·.1))
  return classExpression :: args.flatMap (·.2)

def closedPattern : Parser (List Expression) := do
  match ← look with
  | some (.name _) => classPattern self <|> valuePattern <|> (patternName *> pure [])
  | some (.mark "(") => mark "(" *> parenthesizedPattern self
  | some (.mark "[") => do
    mark "["
    let items ← sequenceItems self
    mark "]"
    return items
  | some (.mark m) => if m = "\x7b" then mark m *> mappingPattern self else literalPattern self
  | _ => literalPattern self

/-- Alternatives, which may be bound to a name together. -/
def anyPattern : Parser (List Expression) := do
  let first ← closedPattern self
  let rest ← many (mark "|" *> closedPattern self)
  let _ ← after (.keyword "as") captureName
  return first ++ rest.flatten

/-- The patterns of a case: one, or several as a sequence. -/
def casePatterns : Parser (List Expression) := do
  let starred ← sees (.mark "*")
  let first ← starPattern self
  if ← takes (.mark ",") then return first ++ (← sequenceItems self)
  else
    require !starred
    return first

end FixTrial.Source.Parser
