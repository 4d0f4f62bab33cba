import FixTrial.Source.Parser.Pattern
import FixTrial.Source.Parser.Signature

/-! The grammar of statements. -/
namespace FixTrial.Source.Parser
open Expression
variable (self : Self)

def dottedImport : Parser Unit := do
  let _ ← name
  let _ ← many (mark "." *> name)

def alias? : Parser Unit := do
  let _ ← after (.keyword "as") name

def importStatement : Parser Unit := do
  keyword "import"
  let _ ← separated (dottedImport *> alias?)

def importFrom : Parser Unit := do
  keyword "from"
  let dots ← many (oneMark [".", "..."])
  if dots.isEmpty then dottedImport else
    let _ ← perhaps dottedImport
  keyword "import"
  let item : Parser Unit := name *> alias?
  if ← takes (.mark "(") then
    let _ ← closedList item
    mark ")"
  else if ← takes (.mark "*") then pure ()
  else
    let _ ← separated item

/-- What `del` takes away: single targets, and tuples and lists of them. -/
def isDeletable : Expression → Bool
  | .name _ | .attribute .. | .subscript .. => true
  | .tuple items | .list items => areDeletable items
  | _ => false
where
  areDeletable : List Expression → Bool
    | [] => true
    | e :: rest => isDeletable e && areDeletable rest

def deletion : Parser Statement := do
  keyword "del"
  let es ← closedList (primary self)
  require (es.all isDeletable)
  return .compound es []

def augmentedMarks : List String :=
  ["+=", "-=", "*=", "@=", "/=", "%=", "&=", "|=", "^=", "<<=", ">>=", "**=", "//="]

def seesAugmented : Parser Bool := do
  match ← look with
  | some (.mark m) => return augmentedMarks.contains m
  | _ => return false

/-- The values of a chain of assignments: all but the last are targets. -/
def assignment (first : Expression) (rest : List Expression) : Option Statement :=
  match (first :: rest).reverse with
  | value :: targets => do return .assign (← targets.reverse.mapM Expression.stored?) value
  | [] => none

/-- A statement that starts with expressions: these alone, or an assignment. -/
def expressionStatement : Parser Statement := do
  let first ← starExpressions self
  if ← takes (.mark ":") then
    require first.isSingleTarget
    let hint ← expression self
    let value ← after (.mark "=") (assignable self)
    return .annotated (← stored first) (hint :: value)
  else if ← seesAugmented then
    require first.isSingleTarget
    oneMark augmentedMarks
    return .compound [← stored first, ← assignable self] []
  else
    let rest ← many (mark "=" *> assignable self)
    if rest.isEmpty then return .compound [first] []
    else StateT.lift (assignment first rest)

def simpleStatement : Parser Statement := do
  match ← look with
  | some (.keyword k) =>
    if k = "return" then
      keyword k
      return .compound (← perhaps (starExpressions self)) []
    else if k = "import" then importStatement *> pure (.compound [] [])
    else if k = "from" then importFrom *> pure (.compound [] [])
    else if k = "raise" then
      keyword k
      let raised ← perhaps do
        let e ← expression self
        return e :: (← after (.keyword "from") (expression self))
      return .compound raised.flatten []
    else if k = "pass" || k = "break" || k = "continue" then
      keyword k
      return .compound [] []
    else if k = "del" then deletion self
    else if k = "yield" then return .compound [← yieldExpression self] []
    else if k = "assert" then
      keyword k
      let e ← expression self
      return .compound (e :: (← after (.mark ",") (expression self))) []
    else if k = "global" || k = "nonlocal" then
      keyword k
      let _ ← separated name
      return .compound [] []
    else expressionStatement self
  | _ => expressionStatement self

def simpleStatements : Parser (List Statement) := do
  let first ← simpleStatement self
  let rest ← many (mark ";" *> simpleStatement self)
  let _ ← takes (.mark ";")
  take .newline
  return first :: rest

def block : Parser (List Statement) := self .block

def body : Parser (List Statement) := mark ":" *> block self

def elseBody : Parser (List Statement) := return (← after (.keyword "else") (body self)).flatten

def conditional (k : String) : Parser (Expression × List Statement) := do
  keyword k
  let condition ← namedExpression self
  return (condition, ← body self)

def ifStatement : Parser Statement := do
  let first ← conditional self "if"
  let rest ← many (conditional self "elif")
  let last ← elseBody self
  let parts := first :: rest
  return .compound (parts.map (·.1)) (parts.flatMap (·.2) ++ last)

def whileStatement : Parser Statement := do
  let (condition, loop) ← conditional self "while"
  return .compound [condition] (loop ++ (← elseBody self))

def forStatement : Parser Statement := do
  keyword "for"
  let item ← targets self
  keyword "in"
  let items ← starExpressions self
  let loop ← body self
  return .compound [item, items] (loop ++ (← elseBody self))

/-- A handler: its expressions, its block, and whether it is for groups of errors. -/
def handler : Parser (Bool × List Expression × List Statement) := do
  keyword "except"
  let grouped ← takes (.mark "*")
  let caught : Parser Expression := do
    let e ← expression self
    let _ ← after (.keyword "as") name
    return e
  let errors ← perhaps caught
  require (!grouped || !errors.isEmpty)
  return (grouped, errors, ← body self)

def tryStatement : Parser Statement := do
  keyword "try"
  let tried ← body self
  let handlers ← many (handler self)
  let otherwise ← if handlers.isEmpty then pure [] else elseBody self
  let last ← after (.keyword "finally") (body self)
  require (!handlers.isEmpty || !last.isEmpty)
  require (handlers.all fun h => some h.1 = handlers.head?.map (·.1))
  return .compound (handlers.flatMap fun h => h.2.1)
    (tried ++ handlers.flatMap (fun h => h.2.2) ++ otherwise ++ last.flatten)

def withItem : Parser (List Expression) := do
  let e ← expression self
  let bound : Parser Expression := do
    keyword "as"
    let t ← target self
    require ((← sees (.mark ",")) || (← sees (.mark ")")) || (← sees (.mark ":")))
    return t
  return e :: (← perhaps bound)

def withStatement : Parser Statement := do
  keyword "with"
  let enclosed : Parser (List (List Expression)) := do
    mark "("
    let items ← closedList (withItem self)
    mark ")"
    require (← sees (.mark ":"))
    return items
  let items ← enclosed <|> separated (withItem self)
  return .compound items.flatten (← body self)

/-- A function, with the expressions of its decorators. -/
def functionStatement (decorators : List Expression) : Parser Statement := do
  keyword "def"
  let n ← name
  mark "("
  let s ← signature self true
  mark ")"
  let result ← after (.mark "->") (expression self)
  return .function n s.names (decorators ++ s.parts ++ result) (← body self)

/-- A class, with the expressions of its decorators. -/
def classStatement (decorators : List Expression) : Parser Statement := do
  keyword "class"
  let n ← name
  let args ← after (.mark "(") do
    let args ← perhaps (arguments self)
    mark ")"
    return args.flatten
  let (keywords, bases) := args.flatten.partition Argument.isKeyword
  return .classDef n (bases.map Argument.expression)
    (decorators ++ keywords.map Argument.expression) (← body self)

def asyncFunction (decorators : List Expression) : Parser Statement :=
  keyword "async" *> functionStatement self decorators

/-- A function or class after its decorators. -/
def decorated : Parser Statement := do
  let decorators ← many do
    mark "@"
    let e ← namedExpression self
    take .newline
    return e
  functionStatement self decorators <|> classStatement self decorators
    <|> asyncFunction self decorators

def caseBlock : Parser (List Expression × List Statement) := do
  take (.name "case")
  let ps ← casePatterns self
  let guard ← after (.keyword "if") (namedExpression self)
  return (ps ++ guard, ← body self)

def subject : Parser Expression := do
  let starred ← sees (.mark "*")
  let first ← starNamedExpression self
  if ← takes (.mark ",") then
    let rest ← perhaps (closedList (starNamedExpression self))
    return .tuple (first :: rest.flatten)
  else
    require !starred
    return first

def matchStatement : Parser Statement := do
  take (.name "match")
  let e ← subject self
  mark ":"
  take .newline
  take .indent
  let first ← caseBlock self
  let rest ← many (caseBlock self)
  take .dedent
  let cases := first :: rest
  return .compound (e :: cases.flatMap (·.1)) (cases.flatMap (·.2))

def asyncStatement : Parser Statement :=
  asyncFunction self [] <|> (keyword "async" *> (forStatement self <|> withStatement self))

def statement : Parser (List Statement) := do
  let one (p : Parser Statement) : Parser (List Statement) := return [← p]
  match ← look with
  | some (.mark "@") => one (decorated self)
  | some (.name "match") => one (matchStatement self) <|> simpleStatements self
  | some (.keyword k) =>
    if k = "if" then one (ifStatement self)
    else if k = "while" then one (whileStatement self)
    else if k = "for" then one (forStatement self)
    else if k = "try" then one (tryStatement self)
    else if k = "with" then one (withStatement self)
    else if k = "def" then one (functionStatement self [])
    else if k = "class" then one (classStatement self [])
    else if k = "async" then one (asyncStatement self)
    else simpleStatements self
  | _ => simpleStatements self

/-- The statements of an indented block, or of the rest of a line. -/
def anyBlock : Parser (List Statement) := do
  if ← takes .newline then
    take .indent
    let first ← statement self
    let rest ← many (statement self)
    take .dedent
    return first ++ rest.flatten
  else simpleStatements self

end FixTrial.Source.Parser
