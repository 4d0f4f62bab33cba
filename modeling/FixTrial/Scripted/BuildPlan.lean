import FixTrial.Workspace.Process

/-! Planned builds: the outcomes of the commands to come, in the order in which they are used up. -/
namespace FixTrial

inductive PlannedBuild
  | timedOut
  | cannotStart (reason : String)
  /-- It may write its output, and finishes. -/
  | finished (output : Option Content) (code : Int) (out errors : String)

abbrev BuildPlan := List PlannedBuild

namespace PlannedBuild

def run (path : Path) : PlannedBuild → Files → Outcome × Files
  | .timedOut, fs => (.timedOut, fs)
  | .cannotStart reason, fs => (.cannotStart reason, fs)
  | .finished output code out errors, fs =>
    (.finished code out errors, match output with
      | some content => fs.write path content
      | none => fs)

end PlannedBuild

namespace BuildPlan

/-- Runs each command as the next planned build, which writes its output at `path`. -/
def runner (path : Path) : Runner BuildPlan := fun _ host =>
  match host.rest with
  | [] => (.cannotStart "no build is planned", host)
  | build :: ahead =>
    let (outcome, files) := build.run path host.files
    (outcome, ⟨files, ahead⟩)

end BuildPlan
end FixTrial
