import FixTrial.Source.Parser.Expression

/-! The grammar of primaries: atoms, displays, comprehensions, calls, subscripts and attributes. -/
namespace FixTrial.Source.Parser
open Expression
variable (self : Self)

/-- One target of several. Only one star may precede it. -/
def target : Parser Expression := do
  if ← takes (.mark "*") then return .starred (← stored (← self .primary))
  else stored (← self .primary)

def targets : Parser Expression := do
  let first ← target self
  let rest ← many (mark "," *> target self)
  let closed ← takes (.mark ",")
  if rest.isEmpty && !closed then return first else return .tuple (first :: rest)

/-- One `for` of a comprehension with its conditions. -/
def comprehensionClause : Parser (List Expression) := do
  let _ ← takes (.keyword "async")
  keyword "for"
  let item ← targets self
  keyword "in"
  let items ← disjunction self
  let conditions ← many (keyword "if" *> disjunction self)
  return item :: items :: conditions

def seesFor : Parser Bool := return (← sees (.keyword "for")) || (← sees (.keyword "async"))

def comprehension (parts : List Expression) : Parser Expression := do
  let first ← comprehensionClause self
  let rest ← many (comprehensionClause self)
  return .compound (parts ++ first ++ rest.flatten)

/-- The rest of a display after its first item, up to the closing bracket. -/
def displayRest (item : Parser α) (closing : String) : Parser (List α) := do
  let items ← many (mark "," *> item)
  let _ ← takes (.mark ",")
  mark closing
  return items

/-- After an opening parenthesis: a tuple, a generator, or an expression on its own. -/
def parenthesized : Parser Expression := do
  if ← takes (.mark ")") then return .tuple []
  else if ← sees (.keyword "yield") then
    let e ← yieldExpression self
    mark ")"
    return e
  else
    let first ← starNamedExpression self
    if ← seesFor then
      require (!first.isStarred)
      let e ← comprehension self [first]
      mark ")"
      return e
    else if ← sees (.mark ",") then
      return .tuple (first :: (← displayRest (starNamedExpression self) ")"))
    else
      require (!first.isStarred)
      mark ")"
      return first

/-- After an opening square bracket: a list, or a comprehension. -/
def bracketed : Parser Expression := do
  if ← takes (.mark "]") then return .list []
  else
    let first ← starNamedExpression self
    if ← seesFor then
      require (!first.isStarred)
      let e ← comprehension self [first]
      mark "]"
      return e
    else return .list (first :: (← displayRest (starNamedExpression self) "]"))

def entry : Parser Expression := do
  if ← takes (.mark "**") then return .compound [← bitwiseOr self]
  else
    let key ← expression self
    mark ":"
    return .compound [key, ← expression self]

/-- After an opening brace: a dictionary, a set, or a comprehension of either. -/
def braced : Parser Expression := do
  if ← takes (.mark "\x7d") then return leaf
  else if ← sees (.mark "**") then
    return .compound ((← entry self) :: (← displayRest (entry self) "\x7d"))
  else
    let bound ← seesNameAnd ":="
    let first ← starNamedExpression self
    let isEntry ← takes (.mark ":")
    if isEntry then require (!bound && !first.isStarred)
    let value ← if isEntry then (fun e => [e]) <$> expression self else pure []
    let first := combined first value
    if ← seesFor then
      require (!first.isStarred)
      let e ← comprehension self [first]
      mark "\x7d"
      return e
    else
      let item := if isEntry then entry self else starNamedExpression self
      return .compound (first :: (← displayRest item "\x7d"))

def atom : Parser Expression := do
  match ← look with
  | some (.name n) => take (.name n) *> pure (.name n)
  | some (.number kind) => take (.number kind) *> pure leaf
  | some (.literal _) => strings (starExpressions self)
  | some (.keyword k) =>
    require (k = "None" || k = "True" || k = "False")
    keyword k
    return leaf
  | some (.mark m) =>
    mark m
    if m = "(" then parenthesized self
    else if m = "[" then bracketed self
    else if m = "\x7b" then braced self
    else if m = "..." then return leaf
    else failure
  | _ => failure

/-- The arguments of a call after the opening parenthesis; a generator may stand alone. -/
def callArguments : Parser (List Expression) := do
  if ← takes (.mark ")") then return []
  else
    let first ← argument self
    let plain := match first with
      | .positional _ => true
      | _ => false
    if ← seesFor then
      require plain
      let e ← comprehension self [first.expression]
      mark ")"
      return [e]
    else
      let args := first :: (← displayRest (argument self) ")")
      require (Argument.areOrdered false false args)
      return args.map Argument.expression

/-- An attribute, a call or a subscript, of what precedes it. -/
def trailer : Parser (Expression → Expression) := do
  if ← takes (.mark ".") then
    let member ← name
    return fun value => .attribute value member .read
  else if ← takes (.mark "(") then
    let args ← callArguments self
    return fun function => .call function args
  else
    mark "["
    let parts ← closedList (slice self)
    mark "]"
    return fun value => .subscript value parts

def primary : Parser Expression := do
  let first ← atom self
  let trailers ← many (trailer self)
  return trailers.foldl (fun e f => f e) first

/-- A primary, which `await` may precede. -/
def awaitedPrimary : Parser Expression := do
  if ← takes (.keyword "await") then return .compound [← primary self] else primary self

/-- A primary with signs before it and an exponent after it. -/
def factor : Parser Expression := do
  let signs ← many (oneMark ["+", "-", "~"])
  let base ← awaitedPrimary self
  let exponent ← after (.mark "**") (self .factor)
  if signs.isEmpty then return combined base exponent else return .compound (base :: exponent)

end FixTrial.Source.Parser
