/-!
Syntax trees of Python source, as far as an index needs them: names, attributes, calls and
declarations are kept apart, and of everything else only the parts are.
-/
namespace FixTrial.Source

inductive Use
  | read
  | write
deriving DecidableEq

inductive Expression
  | name (name : String)
  | attribute (value : Expression) (member : String) (use : Use)
  | subscript (value : Expression) (parts : List Expression)
  | call (function : Expression) (arguments : List Expression)
  | starred (value : Expression)
  | tuple (items : List Expression)
  | list (items : List Expression)
  /-- Any other expression, by its parts. -/
  | compound (parts : List Expression)
deriving Inhabited

/-- The parameters of a function: the names of those that are bound one by one, in order, and the
annotations and defaults of all. -/
structure Signature where
  names : List String
  parts : List Expression

inductive Statement
  /-- A function; `parts` holds its decorators, annotations and defaults. -/
  | function (name : String) (parameters : List String) (parts : List Expression)
      (body : List Statement)
  /-- A class; `parts` holds its decorators and keyword arguments. -/
  | classDef (name : String) (bases parts : List Expression) (body : List Statement)
  | assign (targets : List Expression) (value : Expression)
  /-- An assignment to one target with an annotation. -/
  | annotated (target : Expression) (parts : List Expression)
  /-- Any other statement, by its expressions and the statements in it. -/
  | compound (parts : List Expression) (body : List Statement)

namespace Expression

/-- A part of the tree without parts of its own. -/
def leaf : Expression := .compound []

/-- The name that an expression goes by: a plain name, or that of an attribute. -/
def simpleName? : Expression → Option String
  | .name n => some n
  | .attribute _ member _ => some member
  | _ => none

end Expression
end FixTrial.Source
