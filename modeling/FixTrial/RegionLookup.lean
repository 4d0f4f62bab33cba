import FixTrial.Encoding.Table
import FixTrial.Graph
import FixTrial.Program.Family

/-!
Impacted-region lookup: what an annotation at a place may change. Sources are asked one by one and
their answers united; generated code may then add the callers of the members it makes.
-/
namespace FixTrial
namespace RegionSource

def own : RegionSource := fun l => some [l.region]

/-- A region table, which lists the impacted regions place by place. -/
def ofTable (table : RegionTable) : RegionSource := fun l => table.lookup l.toPlace

/-- The users of a field; the callers of a method, and the regions of its override family. -/
def ofIndex (x : ProgramIndex) : RegionSource := fun l =>
  if !x.declares l.toPlace then none
  else if l.kind = .field then some (x.fieldUsers l.member)
  else
    some (Keyed.union id (x.callers l.callableName) ((x.family l).map fun m => m.region))

end RegionSource

/-- Members that generated code provides, each with the name it is called by. -/
abbrev Accessors := List (Region × String)

namespace Accessors

/-- Every method of an indexed type that takes no argument. -/
def ofIndex (x : ProgramIndex) : Accessors :=
  (x.methods.filter fun (m, ps) => x.isType m.typeName && ps.isEmpty).map fun (m, _) =>
    (⟨m.typeName, m.name⟩, m.name)

def extend (a : Accessors) (x : ProgramIndex) (regions : List Region) : List Region :=
  regions.foldl (fun found r =>
    match a.lookup r with
    | some name => if name.isEmpty then found else Keyed.union id found (x.callers name)
    | none => found) []

end Accessors

/-- Sources asked in turn, and extensions of what they answer together. -/
structure RegionLookup where
  sources : List RegionSource
  extensions : List (List Region → List Region)

namespace RegionLookup

def regions (u : RegionLookup) (l : Location) : List Region :=
  let found := u.sources.foldl (fun rs source => Keyed.union id rs ((source l).getD [])) []
  u.extensions.foldl (fun rs extend => Keyed.union id rs (extend rs)) found

def source (u : RegionLookup) : RegionSource := fun l => some (u.regions l)

structure UnknownDetector where
  name : String

def UnknownDetector.message (e : UnknownDetector) : String :=
  s!"Unknown generated code detector: {e.name}. Can only be ['accessors']."

/-- The extension that a detector of generated code stands for. -/
def detector (x : ProgramIndex) (name : String) :
    Except UnknownDetector (List Region → List Region) :=
  if name = "accessors" then .ok ((Accessors.ofIndex x).extend x) else .error ⟨name⟩

/-- The lookup for a program: each place's own region, the table if there is one, and the index. -/
def build (x : ProgramIndex) (table : Option RegionTable)
    (detectors : List String) : Except UnknownDetector RegionLookup := do
  let listed := table.toList.map RegionSource.ofTable
  let extensions ← detectors.mapM (detector x)
  return ⟨[.own] ++ listed ++ [.ofIndex x], extensions⟩

end RegionLookup
end FixTrial
