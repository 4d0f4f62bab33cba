import FixTrial.Exploration.Estimate
import FixTrial.Exploration.Pass

/-!
Deep exploration: root fixes are tried, and as long as one is undecided and brings up others, it is
tried again with these, level by level.
-/
namespace FixTrial

structure ExplorationResult where
  reports : List Report
  builds : Nat
  failedGroups : Nat
  depthReached : Nat
  depthExceeded : Bool

/-- The reports of an exploration, one per root, in the order of the roots. -/
abbrev Reports := List Report

namespace Reports

/-- The fixes in the trees of the decided reports. -/
def settled (rs : Reports) : List Fix :=
  Keyed.distinct Fix.key ((rs.filter Report.isFinished).flatMap (·.tree))

/-- What a report still has to follow up. -/
def unfollowed (settled : List Fix) (r : Report) : List Fix := Keyed.without Fix.key r.followups settled

/-- What a measured node says about its report. After a failure at the first level the report has
failed; after a later one it keeps its last measurement, and is followed no further. -/
def absorb (depth : Nat) (n : Node) (r : Report) : Report :=
  if n.failed then { r with failed := r.failed || depth = 0, triggered := [] }
  else
    { r with
      tree := n.fixes
      localEffect := n.effect.getD 0
      depth := depth
      triggered := n.triggered
      newDiagnostics := n.newDiagnostics }

def fold (rs : Reports) (g : Graph) (depth : Nat) : Reports :=
  rs.map fun r =>
    match g.find? r.root with
    | some n => absorb depth n r
    | none => r

end Reports

namespace Exploration
variable (ctx : Context ω)

/-- The candidates: those given, or the fixes of the baseline's fixable diagnostics. -/
def roots (baseline : Snapshot) : Option (List Fix) → List Fix
  | some fixes => Fix.dedupe fixes
  | none =>
    Fix.dedupe ((baseline.diagnostics.filter fun d => d.isFixable ctx.declared).flatMap fun d =>
      Fix.sort d.fixes)

/-- A report's tag, if it is settled now: at the end, when it is to be applied, or when there is
nothing left to follow up. -/
def verdict? (final : Bool) (settled : List Fix) (r : Report) : Option Status :=
  if r.isFinished then none
  else
    let tag := Policy.decide ctx.mode ctx.destructive r
    if final || tag = .apply || (Reports.unfollowed settled r).isEmpty then some tag else none

def decideEach (final : Bool) (settled : List Fix) : Reports → Act (Trial ω) Reports
  | [] => return []
  | r :: rest => do
    match verdict? ctx final settled r with
    | none => return r :: (← decideEach final settled rest)
    | some tag =>
      Trial.log (.tagged r.root.label r.localEffect tag)
      return { r with tag } :: (← decideEach final settled rest)

def decideReports (final : Bool) (rs : Reports) : Act (Trial ω) Reports :=
  decideEach ctx final rs.settled rs

/-- The roots with what goes in with each, and their reports. -/
def firstLevel (baseline : Snapshot) (rs : List Fix) : Graph × Reports :=
  let g := rs.foldl (fun g root => (g.insert root (ctx.link baseline root)).1) Graph.empty
  (g, g.nodes.map fun n => Report.start n.root n.fixes)

/-- The undecided reports that have something to follow up, each with that and its tree. -/
def nextLevel (baseline : Snapshot) (rs : Reports) : Graph :=
  let settled := rs.settled
  rs.foldl (fun g r =>
    let followups := Reports.unfollowed settled r
    if r.isFinished || followups.isEmpty then g
    else
      let linked := followups.flatMap (ctx.link baseline)
      (g.insert r.root (Keyed.union Fix.key r.tree linked)).1) Graph.empty

/-- The nodes of a graph that did not fail, as candidates for the dependent modules. -/
def candidates (g : Graph) : List (List Candidate) :=
  (g.groups.map fun group =>
    ((g.members group).filter (!·.failed)).map fun n => ⟨n.root, n.fixes⟩).filter (!·.isEmpty)

def estimate (g : Graph) (rs : Reports) : Act (Trial ω) Reports := do
  let table ← Estimate.run ctx.workspace ctx.modules (candidates g)
  return rs.map fun r =>
    match table.find? fun e => e.1.key = r.root.key with
    | some (_, b) => { r with lowerBound := b.lower, upperBound := b.upper }
    | none => r

def level (g : Graph) (depth : Nat) (rs : Reports) : Act (Trial ω) (Graph × Reports) := do
  let g ← pass ctx g depth
  return (g, rs.fold g depth)

/-- At most `budget` levels of follow-ups, the next of them at `depth`: the reports and the last
level that was run. -/
def descend (depth : Nat) (rs : Reports) : Nat → Act (Trial ω) (Reports × Nat)
  | 0 => return (rs, depth - 1)
  | budget + 1 => do
    let g := nextLevel ctx (← get).bank.before rs
    if g.size = 0 then return (rs, depth - 1)
    Trial.log (.level depth g.size)
    let (_, rs) ← level ctx g depth rs
    let rs ← decideReports ctx false rs
    descend (depth + 1) rs budget

def reportsJson (rs : Reports) : Json := .array (rs.map Report.toJson)

def conclude (rs : Reports) (depthReached : Nat) (depthExceeded : Bool) :
    Act (Trial ω) ExplorationResult := do
  let t ← get
  Trial.log (.recorded "reports" (reportsJson rs))
  if !t.failures.isEmpty then
    Trial.log (.recorded "failures" (.array (t.failures.map GroupFailure.toJson)))
  let applied := rs.countP fun r => r.tag = .apply
  Trial.log (.finished rs.length applied t.builds depthReached)
  return ⟨rs, t.builds, t.failedGroups, depthReached, depthExceeded⟩

/-- Tags what is still undecided after the last level, and says whether anything was left to follow
up. -/
def finish (rs : Reports) (depthReached : Nat) : Act (Trial ω) ExplorationResult := do
  let settled := rs.settled
  let leftover := rs.filter fun r => !r.isFinished && !(Reports.unfollowed settled r).isEmpty
  let exceeded := !leftover.isEmpty && ctx.depth.isPositive
  if exceeded then
    let followups := (leftover.flatMap (Reports.unfollowed settled)).length
    Trial.log (.depthExceeded ctx.depth leftover.length followups)
  let rs ← decideReports ctx true rs
  conclude rs depthReached exceeded

def follow (rs : Reports) : Act (Trial ω) ExplorationResult := do
  match ctx.depth.levels? with
  | none => throw .wrongType
  | some budget =>
    let (rs, reached) ← descend ctx 1 rs budget
    finish ctx rs reached

/-- The exploration of a workspace whose baseline has been built. -/
def exploreFrom (baseline : Snapshot) (fixes : Option (List Fix)) :
    Act (Trial ω) ExplorationResult := do
  let (g, rs) := firstLevel ctx baseline (roots ctx baseline fixes)
  Trial.log (.level 0 g.size)
  if g.size = 0 then conclude rs 0 false
  else
    let (g, rs) ← level ctx g 0 rs
    let rs ← if ctx.modules.isEmpty then pure rs else estimate ctx g rs
    let rs ← decideReports ctx ctx.depth.isZero rs
    follow ctx rs

def hopeless (root : Fix) : Report := { Report.start root [] with failed := true, tag := .discard }

def buildBaseline : Act (Trial ω) (Except WorkspaceError (List Diagnostic)) := do
  modify fun t => { t with builds := t.builds + 1 }
  tryCatch (.ok <$> Trial.onSite ctx.workspace.baseline) fun
    | .workspace e => return .error e
    | e => throw e

/-- Explores the given fixes, or every candidate of the baseline. -/
def explore (fixes : Option (List Fix)) : Act (Trial ω) ExplorationResult := do
  Trial.log (.started ctx.depth ctx.mode)
  match ← buildBaseline ctx with
  | .error e =>
    Trial.log (.baselineFailed e.message)
    conclude ((Fix.dedupe (fixes.getD [])).map hopeless) 0 false
  | .ok ds =>
    modify fun t => { t with bank := .baseline ds }
    Trial.log (.baselineBuilt ds.length)
    exploreFrom ctx ⟨ds⟩ fixes

end Exploration
end FixTrial
