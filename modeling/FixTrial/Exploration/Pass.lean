import FixTrial.Exploration.Trial

/-!
Passes: every group of a candidate graph is built once, its nodes are measured against the baseline,
and the nodes of a group that failed may be built one by one.
-/
namespace FixTrial

namespace Node

/-- The node with its effect on the regions it impacts: the change in number there, the diagnostics
that were added, and the declared fixes that came up for them. -/
def measure (bank : Bank) (declared : Location → Bool) (n : Node) : Node :=
  let triggered := n.regions.foldl (fun fs r => Keyed.union Fix.key fs (bank.newFixesIn r)) []
  { n with
    effect := some (n.regions.foldl (fun sum r => sum + (bank.compareIn r).effect) 0)
    newDiagnostics := bank.newDiagnosticsIn n.regions
    triggered := triggered.filter fun f =>
      !Keyed.has Fix.key f.key n.fixes && declared f.location }

end Node

namespace Graph

def modifyGroup (g : Graph) (group : List Nat) (f : Node → Node) : Graph :=
  group.foldl (fun g i => g.modify i f) g

/-- The measurement of a group from one build, unless two of its nodes share a region. -/
def measureGroup (g : Graph) (group : List Nat) (declared : Location → Bool) (bank : Bank)
    (ds : List Diagnostic) : Option (Graph × Bank) × Except Fault Unit :=
  match g.checkGroup group with
  | .error c => (none, .error (.conflict c))
  | .ok () =>
    let bank := bank.save false ds
    (some (g.modifyGroup group (Node.measure bank declared), bank), .ok ())

end Graph

namespace Exploration
variable (ctx : Context ω)

def recordFailure (g : Graph) (group : List Nat) (depth number : Nat) (logs : List String) :
    Act (Trial ω) Graph := do
  let roots := (g.members group).map (·.root.label)
  modify fun t => { t with
    failedGroups := t.failedGroups + 1
    failures := t.failures ++ [⟨depth, number, roots, logs⟩] }
  Trial.log (.batchFailed depth number group.length ("; ".intercalate logs))
  return g.modifyGroup group Node.markFailed

/-- One build of a group: the graph with the outcome, and whether it succeeded. -/
def buildGroup (g : Graph) (group : List Nat) (depth number : Nat) :
    Act (Trial ω) (Graph × Bool) := do
  let fixes := (g.members group).flatMap (·.fixes)
  Trial.log (.batchStarted depth number group.length fixes.length)
  modify fun t => { t with builds := t.builds + 1 }
  let bank := (← get).bank
  let run ← Trial.batch ctx.workspace ctx.workspace.verify fixes fun ds _ =>
    g.measureGroup group ctx.declared bank ds
  let (g, bank) := (run.measured.join).getD (g, bank)
  modify fun t => { t with bank }
  match run.outcome with
  | .error e => throw e
  | .ok result =>
    if result.ok then
      let effects := (g.members group).map fun n => (n.root.label, n.effect)
      Trial.log (.batchMeasured depth number effects)
      return (g, true)
    else return (← recordFailure g group depth number result.logs, false)

def retryEach (depth number : Nat) (g : Graph) (group : List Nat) : Act (Trial ω) Graph :=
  group.foldlM (fun g i => do
    let cleared := g.modify i fun n => { n with failed := false }
    return (← buildGroup ctx cleared [i] depth number).1) g

def runGroup (g : Graph) (group : List Nat) (depth number : Nat) : Act (Trial ω) Graph := do
  let (g, ok) ← buildGroup ctx g group depth number
  if !ok && ctx.retry && 1 < group.length then
    Trial.log (.batchRetried depth number group.length)
    retryEach ctx depth number g group
  else return g

def runGroups (depth number : Nat) (g : Graph) : List (List Nat) → Act (Trial ω) Graph
  | [] => return g
  | group :: rest => do
    let g ← runGroup ctx g group depth number
    runGroups depth (number + 1) g rest

def groupsJson (g : Graph) : Json :=
  .array (g.groups.map fun group => .array ((g.members group).map fun n => .text n.root.label))

/-- One pass over a graph: its groups are formed, recorded and run. -/
def pass (g : Graph) (depth : Nat) : Act (Trial ω) Graph := do
  let g := (g.updateRegions ctx.regions).findGroups
  Trial.log (.grouped depth g.size g.groups.length)
  Trial.log (.recorded s!"groups-{depth}" (groupsJson g))
  runGroups ctx depth 0 g g.groups

end Exploration
end FixTrial
