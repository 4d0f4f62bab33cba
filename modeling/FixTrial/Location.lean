import FixTrial.Region

/-! Locations: the program elements that can carry an annotation. -/
namespace FixTrial

inductive ElementKind
  | field
  | method
  | parameter
deriving DecidableEq

namespace ElementKind

def name : ElementKind → String
  | .field => "field"
  | .method => "method"
  | .parameter => "parameter"

def ofName? : String → Option ElementKind
  | "method" => some .method
  | "parameter" => some .parameter
  | "field" => some .field
  | _ => none

end ElementKind

/-- What tells one program element from another. Only a parameter has a position of its own. -/
structure Place where
  kind : ElementKind
  typeName : String
  member : String
  index : Int
deriving DecidableEq

/-- A place, and the file that it was found in, which is no part of its identity. -/
structure Location extends Place where
  path : String
deriving DecidableEq

namespace Place

/-- The region that the element is declared in. -/
def region (p : Place) : Region :=
  match p.kind with
  | .field => .ofType p.typeName
  | _ => ⟨p.typeName, p.member⟩

def callableName (p : Place) : String := String.ofList (p.member.toList.takeWhile (· != '('))

def lastPart (typeName : String) : String :=
  String.ofList (typeName.toList.reverse.takeWhile (· != '.')).reverse

def simpleTypeName (p : Place) : String := lastPart p.typeName

def label (p : Place) : String :=
  let position := if p.kind = .parameter then s!"[{p.index}]" else ""
  p.kind.name ++ ":" ++ p.typeName ++ "#" ++ p.member ++ position

def cmp : Place → Place → Ordering :=
  compareLex (compareOn (·.kind.name)) <| compareLex (compareOn (·.typeName)) <|
    compareLex (compareOn (·.member)) (compareOn (·.index))

def le (a b : Place) : Bool := (cmp a b).isLE

end Place

def Location.sort (ls : List Location) : List Location :=
  ls.mergeSort fun a b => Place.le a.toPlace b.toPlace

end FixTrial
