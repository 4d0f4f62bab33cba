import FixTrial.Text.Blank
import FixTrial.Text.ShellWords
import FixTrial.Workspace.Basic
import FixTrial.Workspace.Process

/-!
Builds by command. The command is run in the workspace and has to leave its diagnostics in a file,
which is removed beforehand, so that nothing left by an earlier build is read.
-/
namespace FixTrial

structure BuildCommand where
  command : String
  workspace : String
  diagnosticsPath : String
  limit : Json
  accepted : List Int

namespace BuildCommand

def outputPath (b : BuildCommand) : Path :=
  (Path.ofString b.workspace).join (Path.ofString b.diagnosticsPath)

def shellFault : Text.ShellError → Fault
  | .openQuotation => .openQuotation
  | .openEscape => .openEscape

/-- Why diagnostics cannot be used, if the fault is one of their form. -/
def unusable? : Fault → Option String
  | .decode (.notJson .tooDeep) => none
  | .decode e => some e.message
  | .undecodable e => some e.message
  | _ => none

def loadFile (fs : Files) (p : Path) : Except Fault (List Diagnostic) :=
  match fs.get? p with
  | none => .error .system
  | some content =>
    match content.read with
    | .error e => .error (.undecodable e)
    | .ok s => (Diagnostic.parse s).mapError .decode

def collect (b : BuildCommand) (code : Int) (output errors : String) (fs : Files) :
    Except Fault (List Diagnostic) :=
  let path := b.outputPath
  if !b.accepted.contains code then
    .error (.workspace (.exited code (Text.trim (output ++ errors))))
  else if !fs.contains path then .error (.workspace (.noDiagnostics path.text))
  else
    match loadFile fs path with
    | .ok ds => .ok ds
    | .error fault =>
      match unusable? fault with
      | some reason => .error (.workspace (.unusableDiagnostics path.text reason))
      | none => .error fault

/-- The files without what an earlier build left. -/
def clear (b : BuildCommand) (fs : Files) : Except Fault Files :=
  if (fs.get? b.outputPath).isSome then .ok (fs.erase b.outputPath)
  else if fs.isFolderAt b.outputPath then .error .system
  else .ok fs

def resultOf : Except Fault α → Act ω α
  | .ok a => pure a
  | .error e => throw e

def run (b : BuildCommand) (runner : Runner σ) : Act (Host σ) (List Diagnostic) := do
  if b.command.isEmpty then throw (.workspace .noCommand)
  let files ← resultOf (b.clear (← get).files)
  modify fun h => { h with files }
  let words ← resultOf ((Text.shellWords b.command).mapError shellFault)
  let (outcome, host) := runner ⟨words, b.workspace, none, b.limit⟩ (← get)
  set host
  match outcome with
  | .timedOut => throw (.workspace (.timedOut b.limit.plain))
  | .cannotStart reason => throw (.workspace (.cannotStart reason))
  | .finished code output errors => resultOf (b.collect code output errors host.files)

end BuildCommand
end FixTrial
