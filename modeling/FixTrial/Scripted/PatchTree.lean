import FixTrial.Workspace.Process

/-!
Working trees on paper: the collection of the patches that are applied, and rules for those that are
refused.
-/
namespace FixTrial

/-- A rule for the patches that contain its marker. -/
structure PatchRule where
  marker : String
  output : String
  errors : String

/-- The patches applied to a tree, its current commit, and the rules for patches that do not apply,
do not come off, or seem to come off and do not. -/
structure PatchTree where
  head : Option String
  conflicts : List PatchRule
  stuck : List PatchRule
  leaky : List PatchRule
  applied : List String

namespace PatchTree

def isInfix (needle hay : List Char) : Bool :=
  match hay with
  | [] => needle.isEmpty
  | _ :: rest => needle.isPrefixOf hay || isInfix needle rest

def fits (r : PatchRule) (patch : String) : Bool := isInfix r.marker.toList patch.toList

def rule? (rules : List PatchRule) (patch : String) : Option PatchRule :=
  rules.find? fun r => fits r patch

def sorted (texts : List String) : List String := texts.mergeSort fun a b => decide (a ≤ b)

def apply (t : PatchTree) (patch : String) : Outcome × PatchTree :=
  match rule? t.conflicts patch with
  | some r => (.finished 1 r.output r.errors, t)
  | none => (.finished 0 "" "", { t with applied := t.applied ++ [patch] })

def reverse (t : PatchTree) (patch : String) : Outcome × PatchTree :=
  match rule? t.stuck patch with
  | some r => (.finished 1 r.output r.errors, t)
  | none =>
    if !t.applied.contains patch then (.finished 1 "" "error: not applied\n", t)
    else if (rule? t.leaky patch).isSome then (.finished 0 "" "", t)
    else (.finished 0 "" "", { t with applied := t.applied.erase patch })

def check (t : PatchTree) (patch : String) : Outcome :=
  if t.applied.contains patch then .finished 0 "" ""
  else .finished 1 "" "error: patch does not apply\n"

def answer (t : PatchTree) (args : List String) (input : String) : Outcome × PatchTree :=
  match args with
  | ["apply", "-R", "--check", "-"] => (t.check input, t)
  | ["apply", "-"] => t.apply input
  | ["apply", "-R", "-"] => t.reverse input
  | ["rev-parse", "HEAD"] =>
    match t.head with
    | some h => (.finished 0 h "", t)
    | none => (.finished 1 "" "fatal: ambiguous argument 'HEAD'\n", t)
  | ["diff", "HEAD"] => (.finished 0 (String.join (sorted t.applied)) "", t)
  | _ => (.cannotStart "unknown command", t)

def runner : Runner PatchTree := fun command host =>
  let (outcome, tree) := host.rest.answer (command.words.drop 1) (command.input.getD "")
  (outcome, { host with rest := tree })

end PatchTree
end FixTrial
