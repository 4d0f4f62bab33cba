import FixTrial.Patch
import FixTrial.Text.Blank
import FixTrial.Workspace.Process
import FixTrial.Workspace.Tracked

/-! Working trees under version control, edited by applying and reversing patches. -/
namespace FixTrial

structure Repository where
  directory : String

namespace Repository
variable (runner : Runner σ)

def call (r : Repository) (args : List String) (input : Option String) :
    Act (Host σ) (Int × String × String) := do
  let (outcome, host) := runner ⟨"git" :: args, r.directory, input, .null⟩ (← get)
  set host
  match outcome with
  | .finished code output errors => return (code, output, errors)
  | _ => throw .system

/-- The output of a call that has to succeed. -/
def checked (r : Repository) (args : List String) (input : Option String) :
    Act (Host σ) String := do
  let (code, output, errors) ← call runner r args input
  if code = 0 then return output
  else throw (.versionControl (if errors.isEmpty then output else errors))

def normalized (patch : String) : Act ω String :=
  match Patch.normalize patch with
  | .ok s => pure s
  | .error .truncated => throw .truncatedHeader

def applyPatch (r : Repository) (patch : String) : Act (Host σ) Unit := do
  let input ← normalized patch
  let _ ← checked runner r ["apply", "-"] (some input)

def reversePatch (r : Repository) (patch : String) : Act (Host σ) Unit := do
  let input ← normalized patch
  let _ ← checked runner r ["apply", "-R", "-"] (some input)

/-- Whether a patch could be taken back, and so is in the tree. -/
def isApplied (r : Repository) (patch : String) : Act (Host σ) Bool := do
  let input ← normalized patch
  let (code, _, _) ← call runner r ["apply", "-R", "--check", "-"] (some input)
  return code = 0

def head (r : Repository) : Act (Host σ) String := do
  return Text.trim (← checked runner r ["rev-parse", "HEAD"] none)

def diff (r : Repository) : Act (Host σ) String := checked runner r ["diff", "HEAD"] none

def patchOf (f : Fix) : Act ω String :=
  match f.patch with
  | some (.text s) => if s.isEmpty then throw (.workspace (.noPatch f.label)) else pure s
  | some j => throw (if j.isTruthy then .notText else .workspace (.noPatch f.label))
  | none => throw (.workspace (.noPatch f.label))

/-- `act`, with a refusal of the version control system told as a workspace error. -/
def refusedAs (error : String → WorkspaceError) (act : Act ω Unit) : Act ω Unit :=
  tryCatch act fun
    | .versionControl output => throw (.workspace (error output))
    | e => throw e

def applyFix (r : Repository) (f : Fix) : Act (Host σ) Unit := do
  let patch ← patchOf f
  if !(← isApplied runner r patch) then
    refusedAs (.cannotInject f.label) (applyPatch runner r patch)

def removeFix (r : Repository) (f : Fix) : Act (Host σ) Unit := do
  let patch ← patchOf f
  if ← isApplied runner r patch then
    refusedAs (.cannotRevert f.label) (reversePatch runner r patch)

/-- A working tree as a backend: each fix is its patch. -/
def backend (r : Repository) : Backend (Host σ) := ⟨r.applyFix runner, r.removeFix runner⟩

end Repository
end FixTrial
