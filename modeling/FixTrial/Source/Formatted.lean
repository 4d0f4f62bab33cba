import FixTrial.Source.Token

/-!
Formatted string literals: text with expressions in braces. An expression may be followed by an equals
sign, by a conversion and by a format, which may hold expressions in turn, one level deep.
-/
namespace FixTrial.Source

inductive ScanState
  | code
  | short (mark : Char)
  | long (mark : Char)
  /-- In the rest of a threefold opening mark. -/
  | opening (mark : Char) (left : Nat)
  /-- In the rest of a mark or an operator, before code. -/
  | skipping (left : Nat)

/-- The marks that end an expression outside of brackets, unless an equals sign makes a comparison of
them. -/
def isExpressionEnd (c : Char) : Bool := c = '!' || c = ':' || c = '\x7d' || c = '='

def isThreefold (c : Char) (rest : List Char) : Bool := [c, c].isPrefixOf rest

/-- The text of an expression, last character first, up to a mark that ends it. Neither a backslash nor
a number sign may occur. -/
def scanExpression (state : ScanState) (brackets text : List Char) :
    List Char → Option (List Char × List Char)
  | [] => none
  | c :: rest =>
    let go (state : ScanState) (brackets : List Char) := scanExpression state brackets (c :: text) rest
    if c = '\\' then none
    else
      match state with
      | .short q => go (if c = q then .code else state) brackets
      | .long q => go (if c = q && isThreefold q rest then .skipping 2 else state) brackets
      | .opening q n => go (if n ≤ 1 then .long q else .opening q (n - 1)) brackets
      | .skipping n => go (if n ≤ 1 then .code else .skipping (n - 1)) brackets
      | .code =>
        if c = '\'' || c = '"' then
          go (if isThreefold c rest then .opening c 2 else .short c) brackets
        else if c = '#' then none
        else if let some d := closing? c then go .code (d :: brackets)
        else if brackets.isEmpty && (isExpressionEnd c || c = '<' || c = '>') then
          if c ≠ ':' && c ≠ '\x7d' && rest.head? = some '=' then go (.skipping 1) brackets
          else if isExpressionEnd c then some (text, c :: rest)
          else go .code brackets
        else if isClosing c then
          if brackets.head? = some c then go .code (brackets.drop 1) else none
        else go .code brackets

def afterEquals (cs : List Char) : List Char :=
  match cs with
  | '=' :: rest => rest.dropWhile fun c => c = ' ' || ('\t' ≤ c && c ≤ '\r')
  | _ => cs

def afterConversion (cs : List Char) : Option (List Char) :=
  match cs with
  | '!' :: c :: rest => if c = 's' || c = 'r' || c = 'a' then some rest else none
  | ['!'] => none
  | _ => some cs

/-- How a piece of text ends: behind a doubled brace, or before a brace or the end. -/
inductive TextEnd
  | doubled (rest : List Char)
  | brace (rest : List Char)

/-- Where a scan of text stands in an escape: after the backslash, after the letter that a name in
braces follows, or in that name. -/
inductive EscapeState
  | none
  | escape
  | letter
  | name

def isBrace (c : Char) : Bool := c = '\x7b' || c = '\x7d'

/-- A piece of text, last character first, up to a brace or the end. At the outermost level a doubled
brace stands for itself, and a closing brace may not stand alone. -/
def scanText (raw outermost : Bool) (state : EscapeState) (text : List Char) :
    List Char → Option (List Char × TextEnd)
  | [] => some (text, .brace [])
  | c :: rest =>
    let ending : Option (List Char × TextEnd) :=
      if !outermost then some (text, .brace (c :: rest))
      else if rest.head? = some c then some (c :: text, .doubled (rest.drop 1))
      else if c = '\x7d' then .none
      else some (text, .brace (c :: rest))
    match state with
    | .name => scanText raw outermost (if c = '\x7d' then .none else .name) (c :: text) rest
    | .letter => scanText raw outermost (if c = '\x7b' then .name else .none) (c :: text) rest
    | .escape =>
      if isBrace c then ending
      else scanText raw outermost (if c = 'N' then .letter else .none) (c :: text) rest
    | .none =>
      if isBrace c then ending
      else scanText raw outermost (if c = '\\' && !raw then .escape else .none) (c :: text) rest

def formatLimit : Nat := 2

def isExpressionBlank (c : Char) : Bool := c = ' ' || c = '\t' || c = '\n' || c = '\x0c'

/-- The texts of the expressions from here to the end of the literal or of the format that is `level`
levels deep, and what follows it; `fuel` bounds the steps. -/
def expressionTextsFrom (fuel : Nat) (raw : Bool) (level : Nat) (cs : List Char) :
    Option (List (List Char) × List Char) :=
  match fuel with
  | 0 => none
  | fuel + 1 => do
    let (text, stop) ← scanText raw (level = 0) .none [] cs
    if !raw && !escapesComplete false text.reverse then none
    match stop with
    | .doubled rest => expressionTextsFrom fuel raw level rest
    | .brace [] => some ([], [])
    | .brace (c :: rest) =>
      if c = '\x7d' then some ([], c :: rest)
      else
        if formatLimit ≤ level then none
        let (e, rest) ← scanExpression .code [] [] rest
        if e.all isExpressionBlank then none
        let rest ← afterConversion (afterEquals rest)
        let (inner, rest) ← match rest with
          | [':'] => none
          | ':' :: format => expressionTextsFrom fuel raw (level + 1) format
          | _ => some ([], rest)
        match rest with
        | '\x7d' :: rest => do
          let (more, rest) ← expressionTextsFrom fuel raw level rest
          some (e.reverse :: inner ++ more, rest)
        | _ => none

/-- The texts of the expressions in a formatted literal, unless it is malformed. -/
def expressionTexts (raw : Bool) (body : List Char) : Option (List (List Char)) :=
  (expressionTextsFrom (body.length + 1) raw 0 body).map (·.1)

end FixTrial.Source
