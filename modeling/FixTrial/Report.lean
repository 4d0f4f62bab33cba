import FixTrial.Diagnostic

/-! Reports: what is known of one root fix over a whole exploration. -/
namespace FixTrial

/-- Where a root fix stands. A decided one is to be applied or discarded. -/
inductive Status
  | pending
  | apply
  | discard
deriving DecidableEq

namespace Status

def name : Status → String
  | .pending => "pending"
  | .apply => "apply"
  | .discard => "discard"

def ofName? : String → Option Status
  | "pending" => some .pending
  | "apply" => some .apply
  | "discard" => some .discard
  | _ => none

end Status

/-- The record of one root: the fixes tried together with it, their measured effect, and the fixes
that the last trial brought up. -/
structure Report where
  root : Fix
  tree : List Fix
  localEffect : Int
  lowerBound : Int
  upperBound : Int
  tag : Status
  depth : Int
  failed : Bool
  triggered : List Fix
  newDiagnostics : List Diagnostic

namespace Report

/-- An undecided report; the root is always in its tree. -/
def start (root : Fix) (tree : List Fix) : Report :=
  { root, tree := Keyed.insert Fix.key tree root, localEffect := 0, lowerBound := 0, upperBound := 0
    tag := .pending, depth := 0, failed := false, triggered := [], newDiagnostics := [] }

def isFinished (r : Report) : Bool := r.tag ≠ .pending

/-- The triggered fixes that are not in the tree yet. -/
def followups (r : Report) : List Fix := Keyed.without Fix.key r.triggered r.tree

end Report
end FixTrial
