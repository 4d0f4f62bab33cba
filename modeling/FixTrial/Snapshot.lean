import FixTrial.Diagnostic

/-! Snapshots: the diagnostics of one build, and what changed between two of them. -/
namespace FixTrial

structure Snapshot where
  diagnostics : List Diagnostic

/-- What changed between two snapshots: the change in number, the diagnostics that occur more often
and those that occur less often, and how many times more the former do. -/
structure Difference where
  effect : Int
  added : List Diagnostic
  removed : List Diagnostic
  addedCounts : List (Diagnostic × Nat)

namespace Diagnostic

def distinct (ds : List Diagnostic) : List Diagnostic := Keyed.distinct key ds

def occurrences (k : DiagnosticKey) (ds : List Diagnostic) : Nat := ds.countP fun d => d.key = k

/-- How many times more a diagnostic occurs in `ds` than in `others`. -/
def surplus (others ds : List Diagnostic) (d : Diagnostic) : Nat :=
  occurrences d.key ds - occurrences d.key others

/-- The diagnostics that occur more often in `ds` than in `others`. -/
def surplusOver (others ds : List Diagnostic) : List Diagnostic :=
  (distinct ds).filter fun d => 0 < surplus others ds d

end Diagnostic

namespace Difference

def between (before after : List Diagnostic) : Difference :=
  let added := Diagnostic.surplusOver before after
  { effect := (after.length : Int) - before.length
    added
    removed := Diagnostic.surplusOver after before
    addedCounts := added.map fun d => (d, Diagnostic.surplus before after d) }

def changed (r : Difference) : List Diagnostic := Keyed.union Diagnostic.key r.added r.removed

end Difference

namespace Snapshot

def empty : Snapshot := ⟨[]⟩

def inRegion (s : Snapshot) (r : Region) : List Diagnostic :=
  s.diagnostics.filter fun d => d.region = r

/-- The regions that hold diagnostics, in the order of their first one. -/
def regions (s : Snapshot) : List Region := Keyed.distinct id (s.diagnostics.map (·.region))

def fixes (s : Snapshot) : List Fix := Diagnostic.fixesOf s.diagnostics

def fixesIn (s : Snapshot) (r : Region) : List Fix := Diagnostic.fixesOf (s.inRegion r)

def compare (before after : Snapshot) : Difference :=
  .between before.diagnostics after.diagnostics

def compareIn (before after : Snapshot) (r : Region) : Difference :=
  .between (before.inRegion r) (after.inRegion r)

/-- The fixes that resolve something in a region after, and nothing there before. -/
def newFixesIn (before after : Snapshot) (r : Region) : List Fix :=
  Keyed.without Fix.key (after.fixesIn r) (before.fixesIn r)

end Snapshot

/-- The two snapshots that every comparison is made between. -/
structure Bank where
  before : Snapshot
  after : Snapshot

namespace Bank

def empty : Bank := ⟨.empty, .empty⟩

/-- A new snapshot after. The one it replaces becomes the snapshot before if `rebase` says so;
otherwise the one before stays, so that every build of a pass is measured against one baseline. -/
def save (b : Bank) (rebase : Bool) (ds : List Diagnostic) : Bank :=
  ⟨if rebase then b.after else b.before, ⟨ds⟩⟩

def baseline (ds : List Diagnostic) : Bank := ⟨⟨ds⟩, ⟨ds⟩⟩

def compare (b : Bank) : Difference := b.before.compare b.after

def compareIn (b : Bank) (r : Region) : Difference := b.before.compareIn b.after r

def newFixesIn (b : Bank) (r : Region) : List Fix := b.before.newFixesIn b.after r

/-- The diagnostics that occur more often after than before. -/
def newDiagnostics (b : Bank) : List Diagnostic := b.compare.added

/-- Those of them that lie in one of `regions`. -/
def newDiagnosticsIn (b : Bank) (regions : List Region) : List Diagnostic :=
  regions.foldl (fun found r => Keyed.union Diagnostic.key found (b.compareIn r).added) []

def newCounts (b : Bank) : List (Diagnostic × Nat) := b.compare.addedCounts

end Bank
end FixTrial
