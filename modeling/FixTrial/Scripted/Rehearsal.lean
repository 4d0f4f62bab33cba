import FixTrial.Workspace.Tracked

/-!
Rehearsals: workspaces that exist on paper only. A script says which diagnostics each fix removes and
adds, and what fails; the world is the set of fixes that are in, and a history of the builds.
-/
namespace FixTrial

structure ScriptedEffect where
  fix : FixKey
  removes : List Diagnostic
  adds : List Diagnostic

/-- How the builds of one module go. Builds are counted from one. -/
structure Script where
  baseline : List Diagnostic
  effects : List ScriptedEffect
  failing : List FixKey
  crashes : List Int

/-- The fixes that are in, and for each module the fixes that were in at each of its builds. -/
structure Rehearsal where
  injected : List Fix
  histories : List (List (List String))

namespace Script

/-- The last effect listed for a fix. -/
def effectOf? (s : Script) (f : Fix) : Option ScriptedEffect :=
  s.effects.reverse.find? fun e => e.fix = f.key

/-- The diagnostics with some fixes in: the baseline and what the fixes add, without what they
remove. -/
def diagnostics (s : Script) (injected : List Fix) : List Diagnostic :=
  let effects := (Fix.sort injected).filterMap s.effectOf?
  let removed := (effects.flatMap (·.removes)).map Diagnostic.key
  (s.baseline ++ effects.flatMap (·.adds)).filter fun d => !removed.contains d.key

def crashed (s : Script) (run : Int) (injected : List Fix) : Bool :=
  s.crashes.contains run || injected.any fun f => s.failing.contains f.key

end Script

namespace Rehearsal

def start (modules : Nat) : Rehearsal := ⟨[], List.replicate modules []⟩

def labels (fixes : List Fix) : List String := (Fix.sort fixes).map Fix.label

def refuse (what : String) (fixes : List Fix) : Fault :=
  .workspace (.refused (what ++ " " ++ ", ".intercalate (labels fixes)))

def build (number : Nat) (s : Script) : Act Rehearsal (List Diagnostic) := fun r =>
  let run := (r.histories.getD number []).length + 1
  let histories := r.histories.modify number (· ++ [labels r.injected])
  let r := { r with histories }
  if s.crashed run r.injected then .error (.workspace (.refused "build crashed")) r
  else .ok (s.diagnostics r.injected) r

def amongst (keys : List FixKey) (fixes : List Fix) : List Fix :=
  (Keyed.distinct Fix.key fixes).filter fun f => keys.contains f.key

/-- Puts all fixes in, or none if one of them is refused. -/
def inject (refused : List FixKey) (fixes : List Fix) : Act Rehearsal Unit := fun r =>
  match amongst refused fixes with
  | [] => .ok () { r with injected := Keyed.union Fix.key r.injected fixes }
  | bad => .error (refuse "cannot inject" bad) r

/-- Takes out all fixes but those that are stuck. -/
def revert (stuck : List FixKey) (fixes : List Fix) : Act Rehearsal Unit := fun r =>
  let bad := amongst stuck fixes
  let out := Keyed.without Fix.key fixes bad
  let r := { r with injected := Keyed.without Fix.key r.injected out }
  match bad with
  | [] => .ok () r
  | bad => .error (refuse "cannot revert" bad) r

def workspace (s : Script) (refused stuck : List FixKey) : Workspace Rehearsal :=
  ⟨inject refused, revert stuck, build 0 s⟩

/-- The same edits, one fix at a time. -/
def backend (refused stuck : List FixKey) : Backend Rehearsal :=
  ⟨fun f => inject refused [f], fun f => revert stuck [f]⟩

end Rehearsal
end FixTrial
