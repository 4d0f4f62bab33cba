import FixTrial.Workspace.Basic

/-!
Tracked injection. A backend that makes and undoes single edits becomes a workspace that knows which
fixes are in it: what is in is not put in again, and what is not in is not taken out.
-/
namespace FixTrial

structure Backend (ω : Type) where
  apply : Fix → Act ω Unit
  remove : Fix → Act ω Unit

/-- A world, and the fixes that were put into it. -/
structure Tracked (ω : Type) where
  world : ω
  injected : List Fix

namespace Tracked

def start (world : ω) : Tracked ω := ⟨world, []⟩

def holds (t : Tracked ω) (f : Fix) : Bool := Keyed.has Fix.key f.key t.injected

def inside (act : Act ω α) : Act (Tracked ω) α := fun t =>
  match act t.world with
  | .ok a world => .ok a { t with world }
  | .error e world => .error e { t with world }

def add (f : Fix) (t : Tracked ω) : Tracked ω :=
  { t with injected := Keyed.insert Fix.key t.injected f }

def drop (f : Fix) (t : Tracked ω) : Tracked ω :=
  { t with injected := t.injected.filter fun g => g.key ≠ f.key }

end Tracked

namespace Backend

/-- Puts in what is not in yet, up to the first fault. -/
def injectEach (b : Backend ω) : List Fix → Act (Tracked ω) Unit
  | [] => pure ()
  | f :: rest => fun t =>
    if t.holds f then b.injectEach rest t
    else
      match b.apply f t.world with
      | .ok () world => b.injectEach rest (Tracked.add f { t with world })
      | .error e world => .error e { t with world }

/-- Takes out what is in, past workspace errors, which are gathered. -/
def revertEach (b : Backend ω) : List Fix → Act (Tracked ω) (List WorkspaceError)
  | [] => pure []
  | f :: rest => fun t =>
    if !t.holds f then b.revertEach rest t
    else
      match b.remove f t.world with
      | .ok () world => b.revertEach rest (Tracked.drop f { t with world })
      | .error (.workspace e) world =>
        match b.revertEach rest { t with world } with
        | .ok errors t => .ok (e :: errors) t
        | .error e t => .error e t
      | .error e world => .error e { t with world }

def inject (b : Backend ω) (fixes : List Fix) : Act (Tracked ω) Unit :=
  b.injectEach (Fix.dedupe fixes)

def revert (b : Backend ω) (fixes : List Fix) : Act (Tracked ω) Unit := do
  let errors ← b.revertEach (Fix.dedupe fixes)
  if !errors.isEmpty then throw (.workspace (.several errors))

def workspace (b : Backend ω) (verify : Act ω (List Diagnostic)) : Workspace (Tracked ω) :=
  ⟨b.inject, b.revert, Tracked.inside verify⟩

end Backend
end FixTrial
