import FixTrial.Bounds
import FixTrial.Exploration.Trial

/-! Estimates of what fixes do to the modules that depend on the target. -/
namespace FixTrial

/-- A root fix and the fixes that go in with it. -/
structure Candidate where
  root : Fix
  linked : List Fix

namespace Estimate

abbrev Table := List (Fix × Bounds)

def Table.add (t : Table) (root : Fix) (b : Bounds) : Table :=
  t.map fun (f, c) => if f.key = root.key then (f, c.add b) else (f, c)

def start (groups : List (List Candidate)) : Table :=
  (Keyed.distinct Fix.key (groups.flatten.map (·.root))).map fun f => (f, .zero)

/-- What the new diagnostics of a build of `group` add to each of its roots. -/
def contribution (baseline : Snapshot) (group : List Candidate) (ds : List Diagnostic) :
    List (Fix × Bounds) :=
  let added := (baseline.compare ⟨ds⟩).addedCounts.map fun (d, n) => (d, (n : Int))
  group.map fun c => (c.root, Bounds.count added c.linked)

variable (w : Workspace ω)

/-- The modules that build without any fix, each with what it then reports. -/
def baselines : List (DependentModule ω) →
    Act (Trial ω) (List (DependentModule ω × Snapshot))
  | [] => return []
  | m :: rest => do
    let built ← tryCatch (some <$> Trial.onSite (Site.holding m.verify)) fun
      | .workspace e => do
        Trial.log (.moduleUnbuildable m.name e.message)
        return none
      | e => throw e
    let others ← baselines rest
    return match built with
      | some ds => (m, ⟨ds⟩) :: others
      | none => others

/-- One module built with one group in the target. -/
def replay (number : Nat) (group : List Candidate) (table : Table)
    (m : DependentModule ω × Snapshot) : Act (Trial ω) Table := do
  let run ← Trial.batch w m.1.verify (group.flatMap (·.linked)) fun ds _ =>
    (contribution m.2 group ds, .ok ())
  let table := (run.measured.getD []).foldl (fun t (root, b) => t.add root b) table
  match run.outcome with
  | .error e => throw e
  | .ok result =>
    if result.ok then Trial.log (.moduleMeasured m.1.name number group.length)
    else Trial.log (.moduleFailed m.1.name number ("; ".intercalate result.logs))
    return table

def replayGroups (active : List (DependentModule ω × Snapshot)) (number : Nat) (table : Table) :
    List (List Candidate) → Act (Trial ω) Table
  | [] => return table
  | group :: rest => do
    let table ← active.foldlM (replay w number group) table
    replayGroups active (number + 1) table rest

/-- The bounds of every root over all the modules. -/
def run (modules : List (DependentModule ω)) (groups : List (List Candidate)) :
    Act (Trial ω) Table := do
  if modules.isEmpty then return start groups
  Trial.log (.estimateStarted modules.length groups.length)
  let active ← baselines modules
  replayGroups w active 0 (start groups) groups

end Estimate
end FixTrial
