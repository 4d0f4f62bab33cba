import FixTrial.Source.Literal

/-! Tokens of Python source. -/
namespace FixTrial.Source

inductive Token
  | name (s : String)
  | keyword (s : String)
  | number (kind : NumberKind)
  | literal (l : Literal)
  /-- An operator or a bracket. -/
  | mark (s : String)
  | newline
  /-- The start of an indented block. -/
  | indent
  /-- The end of an indented block. -/
  | dedent
deriving DecidableEq

def keywords : List String :=
  ["False", "None", "True", "and", "as", "assert", "async", "await", "break", "class", "continue",
    "def", "del", "elif", "else", "except", "finally", "for", "from", "global", "if", "import", "in",
    "is", "lambda", "nonlocal", "not", "or", "pass", "raise", "return", "try", "while", "with",
    "yield"]

def Token.ofWord (s : String) : Token := if keywords.contains s then .keyword s else .name s

/-- The operators, longer ones first where one starts another. -/
def operators : List String :=
  ["**=", "//=", ">>=", "<<=", "...", "==", "!=", "<=", ">=", "<<", ">>", "+=", "-=", "*=", "/=",
    "%=", "&=", "|=", "^=", "@=", "->", ":=", "**", "//", "+", "-", "*", "/", "%", "@", "&", "|",
    "^", "~", "<", ">", "=", ",", ":", ".", ";"]

/-- The operator at the start of a text, and what follows it. -/
def operator? (cs : List Char) : Option (String × List Char) :=
  (operators.find? fun o => o.toList.isPrefixOf cs).map fun o => (o, cs.drop o.length)

def closing? (c : Char) : Option Char :=
  if c = '(' then some ')'
  else if c = '[' then some ']'
  else if c = '\x7b' then some '\x7d'
  else none

def isClosing (c : Char) : Bool := c = ')' || c = ']' || c = '\x7d'

end FixTrial.Source
