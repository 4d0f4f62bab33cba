import FixTrial.Program.Index
import FixTrial.Source.Tree

/-!
Surveys: what the statements of a module tell about the program. Everything in a function belongs to
the region of the outermost one, and classes declared in functions are passed over.
-/
namespace FixTrial

inductive Fact
  | method (m : Member) (parameters : List String)
  | type (name : String) (bases : List String)
  | field (m : Member)
  | call (name : String) (r : Region)
  | read (name : String) (r : Region)
  | write (name : String) (r : Region)

/-- Where a place is: in which module, in which classes, and in which outermost function. -/
structure Scope where
  module : String
  classes : List String
  function : Option String

namespace Scope

def ofModule (module : String) : Scope := ⟨module, [], none⟩

/-- The type that the place belongs to; the module where there is none. -/
def typeName (s : Scope) : String := ".".intercalate (s.module :: s.classes)

def region (s : Scope) : Region := ⟨s.typeName, s.function.getD ""⟩

def inClass (s : Scope) (name : String) : Scope := { s with classes := s.classes ++ [name] }

def inFunction (s : Scope) (name : String) : Scope :=
  { s with function := s.function <|> some name }

/-- The parameters of a function without the receiver of a method. -/
def parameters (s : Scope) (names : List String) : List String :=
  match names with
  | first :: rest =>
    if !s.classes.isEmpty && (first = "self" || first = "cls") then rest else names
  | [] => []

end Scope

open Source

/-- What the use of an attribute tells: assigned to `self` in a class, it is a field. -/
def Scope.attributeFacts (s : Scope) (value : Expression) (member : String) : Use → List Fact
  | .read => [.read member s.region]
  | .write =>
    let declared : List Fact :=
      match value with
      | .name "self" => if s.classes.isEmpty then [] else [.field ⟨s.typeName, member⟩]
      | _ => []
    .write member s.region :: declared

def Scope.callFacts (s : Scope) (function : Expression) : List Fact :=
  (function.simpleName?.map fun n => .call n s.region).toList

mutual

def Scope.expressionFacts (s : Scope) : Expression → List Fact
  | .name _ => []
  | .attribute value member use => s.attributeFacts value member use ++ s.expressionFacts value
  | .subscript value parts => s.expressionFacts value ++ s.expressionsFacts parts
  | .call function arguments =>
    s.callFacts function ++ s.expressionFacts function ++ s.expressionsFacts arguments
  | .starred value => s.expressionFacts value
  | .tuple items => s.expressionsFacts items
  | .list items => s.expressionsFacts items
  | .compound parts => s.expressionsFacts parts

def Scope.expressionsFacts (s : Scope) : List Expression → List Fact
  | [] => []
  | e :: rest => s.expressionFacts e ++ s.expressionsFacts rest

end

/-- The names that a statement in the body of a class declares as fields. -/
def Source.Statement.fieldNames : Statement → List String
  | .assign targets _ => targets.filterMap fun
    | .name n => some n
    | _ => none
  | .annotated (.name n) _ => [n]
  | _ => []

mutual

def Scope.statementFacts (s : Scope) : Statement → List Fact
  | .function name parameters parts body =>
    let declared : List Fact :=
      if s.function.isNone then [.method ⟨s.typeName, name⟩ (s.parameters parameters)] else []
    let inner := s.inFunction name
    declared ++ inner.expressionsFacts parts ++ inner.statementsFacts body
  | .classDef name bases parts body =>
    if s.function.isSome then []
    else
      let inner := s.inClass name
      .type inner.typeName (bases.filterMap Expression.simpleName?)
        :: (body.flatMap Statement.fieldNames).map (fun n => .field ⟨inner.typeName, n⟩)
        ++ inner.expressionsFacts bases ++ inner.expressionsFacts parts
        ++ inner.statementsFacts body
  | .assign targets value => s.expressionsFacts targets ++ s.expressionFacts value
  | .annotated target parts => s.expressionFacts target ++ s.expressionsFacts parts
  | .compound parts body => s.expressionsFacts parts ++ s.statementsFacts body

def Scope.statementsFacts (s : Scope) : List Statement → List Fact
  | [] => []
  | st :: rest => s.statementFacts st ++ s.statementsFacts rest

end

namespace ProgramIndex

/-- The index with a fact of a file. A class belongs to the file that declares it last, anything else
to the one that declares a part of it first. -/
def record (path : String) (x : ProgramIndex) : Fact → ProgramIndex
  | .method m ps =>
    { x with
      methods := setEntry x.methods m ps
      paths := if (x.paths.lookup m.typeName).isSome then x.paths
        else setEntry x.paths m.typeName path }
  | .type t bs => { x with bases := setEntry x.bases t bs, paths := setEntry x.paths t path }
  | .field m => { x with fields := Keyed.insert id x.fields m }
  | .call n r => { x with calls := x.calls.add n r }
  | .read n r => { x with reads := x.reads.add n r }
  | .write n r => { x with writes := x.writes.add n r }

def survey (path module : String) (x : ProgramIndex) (statements : List Statement) :
    ProgramIndex :=
  ((Scope.ofModule module).statementsFacts statements).foldl (record path) x

end ProgramIndex
end FixTrial
