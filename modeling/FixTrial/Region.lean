/-! Regions: the part of a program that a diagnostic is reported in. -/
namespace FixTrial

/-- A type and one of its members. An empty member stands for the type itself: its field
initialisers and its body. -/
structure Region where
  typeName : String
  member : String
deriving DecidableEq

namespace Region

def ofType (typeName : String) : Region := ⟨typeName, ""⟩

def label (r : Region) : String :=
  if r.member.isEmpty then r.typeName else r.typeName ++ "#" ++ r.member

def cmp : Region → Region → Ordering :=
  compareLex (compareOn (·.typeName)) (compareOn (·.member))

def le (a b : Region) : Bool := (cmp a b).isLE

def sort (rs : List Region) : List Region := rs.mergeSort le

end Region
end FixTrial
