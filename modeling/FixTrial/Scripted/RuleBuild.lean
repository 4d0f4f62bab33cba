import FixTrial.Json.Printer
import FixTrial.Scripted.PatchTree

/-!
Builds by rules: what a build finds depends on which patches are applied to the tree.
-/
namespace FixTrial

/-- A rule that is active while a patch with its marker is applied: it takes the diagnostics with
some messages away, and adds others. -/
structure BuildRule where
  marker : String
  removes : List String
  adds : List Json

/-- The build of one folder: what it finds in the untouched tree, the rules that change this, the
markers that make it crash, how it ends otherwise, and the file with its findings. -/
structure RuleBuild where
  baseline : List Json
  rules : List BuildRule
  crashOn : List String
  code : Int
  output : String
  errors : String
  file : String

/-- A tree, and the builds of the folders that have one. -/
structure Yard where
  tree : PatchTree
  builds : List (String × RuleBuild)

/-- A build in a folder, with the markers of the rules that were active. -/
structure BuildRecord where
  command : Command
  active : List String

namespace PatchTree

def bears (t : PatchTree) (marker : String) : Bool :=
  t.applied.any fun patch => isInfix marker.toList patch.toList

end PatchTree

namespace RuleBuild

def idle : RuleBuild := ⟨[], [], [], 0, "", "", "diagnostics.json"⟩

def active (b : RuleBuild) (t : PatchTree) : List BuildRule := b.rules.filter fun r => t.bears r.marker

def findings (b : RuleBuild) (t : PatchTree) : List Json :=
  let rules := b.active t
  let removed := rules.flatMap (·.removes)
  (b.baseline ++ rules.flatMap (·.adds)).filter fun d =>
    match d.field "message" with
    | .text m => !removed.contains m
    | _ => true

def run (b : RuleBuild) (t : PatchTree) (folder : String) (fs : Files) : Outcome × Files :=
  if b.crashOn.any t.bears then (.finished 2 "" "build crashed\n", fs)
  else
    let path := (Path.ofString folder).join (Path.ofString b.file)
    let content := (Json.array (b.findings t)).compact
    (.finished b.code b.output b.errors, fs.write path (.text content))

end RuleBuild

namespace Yard

def buildIn (y : Yard) (folder : String) : RuleBuild := (y.builds.lookup folder).getD .idle

/-- Answers the calls of the version control system, and builds for any other command. -/
def runner : Runner Yard := fun command host =>
  if command.words.head? = some "git" then
    let (outcome, tree) := host.rest.tree.answer (command.words.drop 1) (command.input.getD "")
    (outcome, { host with rest := { host.rest with tree } })
  else
    let build := host.rest.buildIn command.directory
    let (outcome, files) := build.run host.rest.tree command.directory host.files
    (outcome, { host with files })

/-- The same, with a record of the builds. -/
def recording : Runner (Yard × List BuildRecord) := fun command host =>
  let (yard, records) := host.rest
  let (outcome, after) := runner command ⟨host.files, yard⟩
  let active := (yard.buildIn command.directory).active yard.tree
  let built := if command.words.head? = some "git" then []
    else [⟨command, active.map (·.marker)⟩]
  (outcome, ⟨after.files, (after.rest, records ++ built)⟩)

end Yard
end FixTrial
