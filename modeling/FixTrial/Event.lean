import FixTrial.Encoding.Encode
import FixTrial.Policy

/-! The events of an exploration. -/
namespace FixTrial

/-- How many levels of follow-ups an exploration goes down, as it was asked for. -/
inductive Depth
  | whole (n : Int)
  /-- Truth values count as one and zero. -/
  | flag (b : Bool)
  /-- A fraction has no levels to count. -/
  | fraction (x : Float)

inductive Event
  | started (depth : Depth) (mode : Mode)
  | baselineBuilt (diagnostics : Nat)
  | baselineFailed (error : String)
  | level (depth size : Nat)
  | grouped (depth nodes groups : Nat)
  /-- A record of the run was written under a name. -/
  | recorded (name : String) (content : Json)
  | batchStarted (depth group size fixes : Nat)
  | batchMeasured (depth group : Nat) (effects : List (String × Option Int))
  | batchFailed (depth group size : Nat) (error : String)
  | batchRetried (depth group size : Nat)
  | tagged (root : String) (effect : Int) (tag : Status)
  | depthExceeded (depth : Depth) (reports followups : Nat)
  | finished (reports applied builds depth : Nat)
  | estimateStarted (modules groups : Nat)
  | moduleUnbuildable (name : Json) (error : String)
  | moduleFailed (name : Json) (group : Nat) (error : String)
  | moduleMeasured (name : Json) (group size : Nat)
  | checkpoint (head : String)
  /-- The working tree is not as it was: some edit was not taken back. -/
  | dirty (head : String)

namespace Depth

def toJson : Depth → Json
  | .whole n => .int n
  | .flag b => .bool b
  | .fraction x => .float x

/-- The number of levels below the first one; a fraction has none to give. -/
def levels? : Depth → Option Nat
  | .whole n => some n.toNat
  | .flag b => some (if b then 1 else 0)
  | .fraction _ => none

def isZero : Depth → Bool
  | .whole n => n = 0
  | .flag b => !b
  | .fraction x => x == 0.0

def isPositive : Depth → Bool
  | .whole n => 0 < n
  | .flag b => b
  | .fraction x => 0.0 < x

end Depth

namespace Event

def kind : Event → String
  | .started .. => "explorer.start"
  | .baselineBuilt .. => "explorer.baseline"
  | .baselineFailed .. => "explorer.baseline"
  | .level .. => "explorer.level"
  | .grouped .. => "graph.groups"
  | .recorded .. => "file.write"
  | .batchStarted .. => "batch.start"
  | .batchMeasured .. => "batch.result"
  | .batchFailed .. => "batch.failed"
  | .batchRetried .. => "batch.retry"
  | .tagged .. => "analysis.tag"
  | .depthExceeded .. => "explorer.depth_exceeded"
  | .finished .. => "explorer.finish"
  | .estimateStarted .. => "downstream.start"
  | .moduleUnbuildable .. => "downstream.failed"
  | .moduleFailed .. => "downstream.failed"
  | .moduleMeasured .. => "downstream.module"
  | .checkpoint .. => "vcs.checkpoint"
  | .dirty .. => "vcs.dirty"

def natural (n : Nat) : Json := .int n

def effectsJson (effects : List (String × Option Int)) : Json :=
  .ofFields (effects.map fun (root, effect?) =>
    (root, match effect? with
      | some e => .int e
      | none => .null))

/-- What an event says, name by name. A written record says where by its own means. -/
def data : Event → List (String × Json)
  | .started depth mode => [("depth", depth.toJson), ("mode", .text mode.name)]
  | .baselineBuilt n => [("ok", .bool true), ("diagnostics", natural n)]
  | .baselineFailed error => [("ok", .bool false), ("error", .text error)]
  | .level depth size => [("depth", natural depth), ("size", natural size)]
  | .grouped depth nodes groups =>
    [("depth", natural depth), ("nodes", natural nodes), ("size", natural groups)]
  | .recorded name _ => [("name", .text name)]
  | .batchStarted depth group size fixes =>
    [("depth", natural depth), ("group", natural group), ("size", natural size),
      ("fixes", natural fixes)]
  | .batchMeasured depth group effects =>
    [("depth", natural depth), ("group", natural group), ("effects", effectsJson effects)]
  | .batchFailed depth group size error =>
    [("depth", natural depth), ("group", natural group), ("size", natural size),
      ("error", .text error)]
  | .batchRetried depth group size =>
    [("depth", natural depth), ("group", natural group), ("size", natural size)]
  | .tagged root effect tag =>
    [("root", .text root), ("effect", .int effect), ("tag", .text tag.name)]
  | .depthExceeded depth reports followups =>
    [("depth", depth.toJson), ("reports", natural reports), ("followups", natural followups)]
  | .finished reports applied builds depth =>
    [("reports", natural reports), ("applied", natural applied), ("builds", natural builds),
      ("depth", natural depth)]
  | .estimateStarted modules groups =>
    [("modules", natural modules), ("groups", natural groups)]
  | .moduleUnbuildable name error =>
    [("module", name), ("error", .text error), ("stage", .text "baseline")]
  | .moduleFailed name group error =>
    [("module", name), ("group", natural group), ("error", .text error)]
  | .moduleMeasured name group size =>
    [("module", name), ("group", natural group), ("size", natural size)]
  | .checkpoint head => [("head", .text head)]
  | .dirty head => [("head", .text head)]

end Event
end FixTrial
