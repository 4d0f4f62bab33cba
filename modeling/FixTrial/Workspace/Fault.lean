import FixTrial.Encoding.Decode
import FixTrial.Graph
import FixTrial.Text.Utf8

/-! What can go wrong in a workspace, and what ends an exploration. -/
namespace FixTrial

/-- Why a workspace could not be edited or built, or what it built was of no use. -/
inductive WorkspaceError
  | noCommand
  | timedOut (limit : String)
  | cannotStart (reason : String)
  | exited (code : Int) (output : String)
  | noDiagnostics (path : String)
  | unusableDiagnostics (path reason : String)
  | noPatch (fix : String)
  | cannotInject (fix reason : String)
  | cannotRevert (fix reason : String)
  | refused (reason : String)
  | several (errors : List WorkspaceError)

mutual

def WorkspaceError.message : WorkspaceError → String
  | .noCommand => "no build command configured"
  | .timedOut limit => s!"build timed out after {limit}s"
  | .cannotStart reason => s!"build could not start: {reason}"
  | .exited code output => s!"build exited with {code}: {output}"
  | .noDiagnostics path => s!"build produced no diagnostics file at {path}"
  | .unusableDiagnostics path reason => s!"unusable diagnostics in {path}: {reason}"
  | .noPatch fix => s!"{fix} carries no patch to apply"
  | .cannotInject fix reason => s!"could not inject {fix}: {reason}"
  | .cannotRevert fix reason => s!"could not revert {fix}: {reason}"
  | .refused reason => reason
  | .several errors => "; ".intercalate (WorkspaceError.messages errors)

def WorkspaceError.messages : List WorkspaceError → List String
  | [] => []
  | e :: rest => e.message :: WorkspaceError.messages rest

end

/-- What ends an operation. Only a workspace error is expected, and is recorded; anything else ends
the exploration. -/
inductive Fault
  | workspace (e : WorkspaceError)
  | conflict (c : Conflict)
  | decode (e : DecodeError)
  | undecodable (e : Text.Utf8Error)
  /-- The version control system refused, with this output. -/
  | versionControl (output : String)
  /-- The header line of a section of a patch names fewer than two files. -/
  | truncatedHeader
  /-- A value that is no text stands where text is needed. -/
  | notText
  /-- A value of a type that an operation does not take. -/
  | wrongType
  | openQuotation
  | openEscape
  /-- A file or folder is missing, or is not what it should be. -/
  | system
  | measurement (reason : String)

/-- An action that changes a state and may end in a fault; what it changed before that stays. -/
abbrev Act (ω α : Type) := EStateM Fault ω α

end FixTrial
