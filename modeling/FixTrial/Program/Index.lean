import FixTrial.Fix

/-!
Program indices: what the files of a program declare, where each name is called, read and written,
and which types extend which.
-/
namespace FixTrial

structure Member where
  typeName : String
  name : String
deriving DecidableEq

/-- For every name, the regions that mention it. -/
abbrev Mentions := List (String × List Region)

namespace Mentions

def of (ms : Mentions) (name : String) : List Region := (ms.lookup name).getD []

/-- With `r` among the regions that mention `name`. -/
def add (ms : Mentions) (name : String) (r : Region) : Mentions :=
  match ms with
  | [] => [(name, [r])]
  | (n, rs) :: rest =>
    if n = name then (n, Keyed.insert id rs r) :: rest else (n, rs) :: add rest name r

end Mentions

/-- What is known of a program. A type is indexed if `bases` lists it, along with the simple names of
the types it extends; `methods` gives the parameters of each method, without the receiver. -/
structure ProgramIndex where
  methods : List (Member × List String)
  fields : List Member
  bases : List (String × List String)
  paths : List (String × String)
  calls : Mentions
  reads : Mentions
  writes : Mentions

/-- `entries` with `key` set: in its place if it is there, at the end if not. -/
def setEntry [DecidableEq κ] (entries : List (κ × α)) (key : κ) (value : α) : List (κ × α) :=
  match entries with
  | [] => [(key, value)]
  | (k, v) :: rest => if k = key then (k, value) :: rest else (k, v) :: setEntry rest key value

namespace ProgramIndex

def empty : ProgramIndex := ⟨[], [], [], [], [], [], []⟩

def types (x : ProgramIndex) : List String := x.bases.map (·.1)

def isType (x : ProgramIndex) (typeName : String) : Bool := x.types.contains typeName

def parameters? (x : ProgramIndex) (m : Member) : Option (List String) := x.methods.lookup m

def pathOf (x : ProgramIndex) (typeName : String) : String := (x.paths.lookup typeName).getD ""

/-- Whether a place is declared in the program. A signature does not matter, and a parameter has to
be one of its method's. -/
def declares (x : ProgramIndex) (p : Place) : Bool :=
  match p.kind with
  | .field => x.fields.contains ⟨p.typeName, p.member⟩
  | .method => (x.parameters? ⟨p.typeName, p.callableName⟩).isSome
  | .parameter =>
    match x.parameters? ⟨p.typeName, p.callableName⟩ with
    | some ps => 0 ≤ p.index && p.index < ps.length
    | none => false

def callers (x : ProgramIndex) (name : String) : List Region := x.calls.of name

def fieldUsers (x : ProgramIndex) (name : String) : List Region :=
  Keyed.union id (x.reads.of name) (x.writes.of name)

end ProgramIndex
end FixTrial
