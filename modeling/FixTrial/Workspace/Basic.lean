import FixTrial.Workspace.Fault

/-! Workspaces: a program that fixes are put into and taken out of, and that can be built. -/
namespace FixTrial

structure Workspace (ω : Type) where
  inject : List Fix → Act ω Unit
  revert : List Fix → Act ω Unit
  verify : Act ω (List Diagnostic)

/-- A module built against the workspace's program. It is never edited. -/
structure DependentModule (ω : Type) where
  name : Json
  verify : Act ω (List Diagnostic)

/-- A workspace and its lock, which only one build may hold at a time. -/
structure Site (ω : Type) where
  world : ω
  locked : Bool

namespace Site

/-- An action on the world, done under the lock. -/
def holding (act : Act ω α) : Act (Site ω) α := fun s =>
  match act s.world with
  | .ok a world => .ok a { world, locked := false }
  | .error e world => .error e { world, locked := false }

end Site

def Workspace.baseline (w : Workspace ω) : Act (Site ω) (List Diagnostic) := Site.holding w.verify

end FixTrial
