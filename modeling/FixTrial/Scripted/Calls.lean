import FixTrial.Workspace.Process

/-! Runners that keep a record of the commands they run. -/
namespace FixTrial

/-- A world, and the commands that were run in it. -/
structure Called (σ : Type) where
  world : σ
  calls : List Command

namespace Called

def start (world : σ) : Called σ := ⟨world, []⟩

def clear (c : Called σ) : Called σ := { c with calls := [] }

def recording (runner : Runner σ) : Runner (Called σ) := fun command host =>
  let (outcome, after) := runner command ⟨host.files, host.rest.world⟩
  (outcome, ⟨after.files, ⟨after.rest, host.rest.calls ++ [command]⟩⟩)

end Called
end FixTrial
