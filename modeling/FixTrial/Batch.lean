import FixTrial.Workspace.Basic

/-!
Batches: fixes put in together, built, measured and taken out again, under the workspace's lock.
-/
namespace FixTrial

structure BatchResult where
  ok : Bool
  fixes : List Fix
  logs : List String

/-- How a batch ended, and what was measured if the build came that far. -/
structure BatchRun (β : Type) where
  outcome : Except Fault BatchResult
  measured : Option β

namespace Batch

/-- Takes the batch out and gives up the lock: the log of a failed revert, or the fault that ends
the run. -/
def close (w : Workspace ω) (batch : List Fix) (world : ω) : Except Fault (Option String) × Site ω :=
  match w.revert batch world with
  | .ok () world => (.ok none, ⟨world, false⟩)
  | .error (.workspace e) world => (.ok (some s!"revert failed: {e.message}"), ⟨world, false⟩)
  | .error e world => (.error e, ⟨world, false⟩)

/-- The end of a batch that could not be put in or built. -/
def abandon (w : Workspace ω) (batch : List Fix) (e : WorkspaceError) (world : ω) :
    BatchRun β × Site ω :=
  let (closed, site) := close w batch world
  let outcome := closed.map fun log =>
    ⟨false, batch, s!"verification failed: {e.message}" :: log.toList⟩
  (⟨outcome, none⟩, site)

def build (w : Workspace ω) (verify : Act ω (List Diagnostic)) (batch : List Fix) :
    Act ω (List Diagnostic) := do
  w.inject batch
  verify

/-- Runs one batch. `measure` looks at the diagnostics and at the site, with the batch in it, and
may end in a fault of its own, which is passed on after the revert. An unexpected fault of the build
is passed on at once. -/
def run (w : Workspace ω) (verify : Act ω (List Diagnostic)) (fixes : List Fix)
    (measure : List Diagnostic → Site ω → β × Except Fault Unit) (site : Site ω) :
    BatchRun β × Site ω :=
  let batch := Fix.dedupe fixes
  match build w verify batch site.world with
  | .error (.workspace e) world => abandon w batch e world
  | .error e world => (⟨.error e, none⟩, ⟨world, false⟩)
  | .ok diagnostics world =>
    let (measured, ended) := measure diagnostics ⟨world, true⟩
    let (closed, site) := close w batch world
    let outcome := do
      let log ← closed
      ended
      return ⟨log.isNone, batch, log.toList⟩
    (⟨outcome, some measured⟩, site)

end Batch
end FixTrial
