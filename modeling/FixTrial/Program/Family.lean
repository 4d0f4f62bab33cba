import FixTrial.Program.Hierarchy

/-!
Override families: one member in the types below and above its own. Annotating a parameter calls for
the same annotation in every overriding method.
-/
namespace FixTrial.ProgramIndex
variable (x : ProgramIndex)

/-- The member at `l` as `typeName` would declare it. -/
def counterpart (l : Location) (typeName : String) : Location :=
  { l with typeName, path := x.pathOf typeName }

/-- The declared counterparts of a member; a field has none. -/
def counterparts (l : Location) (types : List String) : List Location :=
  if l.kind = .field then []
  else (types.map (x.counterpart l)).filter fun m => x.declares m.toPlace

def overriding (l : Location) : List Location := x.counterparts l (x.subtypes l.typeName)

/-- The counterparts of the member at `l` below and above it. -/
def family (l : Location) : List Location :=
  x.counterparts l (Keyed.union id (x.subtypes l.typeName) (x.supertypes l.typeName))

/-- The fixes that have to go in together with `f`: those of the same parameter in overriding
methods. Where suggestions are given, only these are linked, as they carry the patches. -/
def linked (suggested : Option (List Fix)) (f : Fix) : List Fix :=
  if f.location.kind ≠ .parameter then [f]
  else
    let members := (x.overriding f.location).map f.relocate
    let available := match suggested with
      | none => members
      | some fixes => members.filterMap fun m => Keyed.find? Fix.key m.key fixes.reverse
    Keyed.union Fix.key [f] available

/-- Whether some fix of a tree leaves its family annotated in part. -/
def isDestructive (tree : List Fix) : Bool :=
  tree.any fun f => (x.family f.location).any fun l =>
    !Keyed.has Fix.key (f.relocate l).key tree

end FixTrial.ProgramIndex
