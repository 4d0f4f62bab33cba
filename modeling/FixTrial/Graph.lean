import FixTrial.Report

/-!
Candidate graphs: the root fixes of one pass, which of them conflict, and their partition into
groups that are built together. Two candidates conflict when a region is impacted by both.
-/
namespace FixTrial

/-- The regions whose diagnostics may change with an annotation; `none` where nothing is known. -/
abbrev RegionSource := Location → Option (List Region)

def RegionSource.ofFixes (source : RegionSource) (fixes : List Fix) : List Region :=
  fixes.foldl (fun rs f => Keyed.union id rs ((source f.location).getD [])) []

/-- A root fix and the fixes that are tried with it, numbered by its place in the graph. -/
structure Node where
  index : Nat
  root : Fix
  fixes : List Fix
  regions : List Region
  effect : Option Int
  status : Status
  failed : Bool
  newDiagnostics : List Diagnostic
  triggered : List Fix
  conflicts : List Nat

namespace Node

def start (index : Nat) (root : Fix) (fixes : List Fix) : Node :=
  { index, root, fixes := Keyed.union Fix.key [root] fixes, regions := [], effect := none
    status := .pending, failed := false, newDiagnostics := [], triggered := [], conflicts := [] }

def markFailed (n : Node) : Node :=
  { n with failed := true, effect := none, newDiagnostics := [], triggered := [] }

def addFixes (n : Node) (fixes : List Fix) : Node :=
  { n with fixes := Keyed.union Fix.key n.fixes fixes }

def isPending (n : Node) : Bool := n.status = .pending

def sharesRegion (a b : Node) : Bool := a.regions.any fun r => b.regions.contains r

end Node

/-- The regions that nodes impact, each with the numbers of these nodes. -/
abbrev Owners := List (Region × List Nat)

namespace Owners

/-- `index` put behind the numbers of a region. -/
def add (owners : Owners) (index : Nat) (r : Region) : Owners :=
  match owners with
  | [] => [(r, [index])]
  | (s, indices) :: rest =>
    if s = r then (s, indices ++ [index]) :: rest else (s, indices) :: add rest index r

def addNode (owners : Owners) (n : Node) : Owners :=
  n.regions.foldl (fun owners r => owners.add n.index r) owners

def ofNodes (nodes : List Node) : Owners := nodes.foldl addNode []

/-- The other numbers of the regions that have `index` among theirs. -/
def beside (owners : Owners) (index : Nat) : List Nat :=
  owners.foldl (fun found entry => Keyed.union id found
    (if entry.2.contains index then entry.2.filter (· ≠ index) else [])) []

end Owners

structure Graph where
  nodes : List Node
  groups : List (List Nat)

/-- Two nodes of one group that are impacted by one region. -/
structure Conflict where
  first : Fix
  second : Fix
  region : Region

def Conflict.message (c : Conflict) : String :=
  s!"{c.first.label} and {c.second.label} share region {c.region.label} in one batch"

namespace Graph

def empty : Graph := ⟨[], []⟩

def size (g : Graph) : Nat := g.nodes.length

/-- The node of a root. The nodes are searched: there is no map of the roots beside them, as no two
nodes have one root. -/
def find? (g : Graph) (root : Fix) : Option Node := g.nodes.find? fun n => n.root.key = root.key

def modify (g : Graph) (index : Nat) (f : Node → Node) : Graph :=
  { g with nodes := g.nodes.modify index f }

/-- The node of a root, new or with `fixes` added to it, and its index. -/
def insert (g : Graph) (root : Fix) (fixes : List Fix) : Graph × Nat :=
  match g.find? root with
  | some n => (g.modify n.index (·.addFixes fixes), n.index)
  | none => ({ g with nodes := g.nodes ++ [.start g.size root fixes] }, g.size)

def pending (g : Graph) : List Node := g.nodes.filter Node.isPending

def members (g : Graph) (group : List Nat) : List Node := group.filterMap (g.nodes[·]?)

/-- The impacted regions of every node, looked up anew. -/
def lookUp (source : RegionSource) (nodes : List Node) : List Node :=
  nodes.map fun n => { n with regions := source.ofFixes n.fixes }

/-- Every node with its impacted regions and conflicts, whatever they were before. -/
def updateRegions (g : Graph) (source : RegionSource) : Graph :=
  let nodes := lookUp source g.nodes
  let owners := Owners.ofNodes nodes
  { g with nodes := nodes.map fun n => { n with conflicts := owners.beside n.index } }

/-- A node put into the first group that holds none of its conflicts, or else into one of its own. -/
def place (groups : List (List Nat)) (n : Node) : List (List Nat) :=
  match groups with
  | [] => [[n.index]]
  | group :: rest =>
    if group.any n.conflicts.contains then group :: place rest n
    else (group ++ [n.index]) :: rest

/-- The pending nodes in groups without conflicts, filled in the order of the nodes. -/
def partition (g : Graph) : List (List Nat) := g.pending.foldl place []

def findGroups (g : Graph) : Graph := { g with groups := g.partition }

/-- The regions of a node set beside those seen in earlier nodes: a conflict if one of these
belongs to another node. -/
def claim (n : Node) (seen : List (Region × Node)) : List Region →
    Except Conflict (List (Region × Node))
  | [] => .ok seen
  | r :: rest =>
    match seen.lookup r with
    | none => claim n ((r, n) :: seen) rest
    | some other =>
      if other.index = n.index then claim n seen rest else .error ⟨other.root, n.root, r⟩

/-- Refuses nodes of which two share a region. -/
def checkNodes (nodes : List Node) : Except Conflict Unit := do
  let _ ← nodes.foldlM (fun seen n => claim n seen n.regions) []

def checkGroup (g : Graph) (group : List Nat) : Except Conflict Unit := checkNodes (g.members group)

end Graph
end FixTrial
