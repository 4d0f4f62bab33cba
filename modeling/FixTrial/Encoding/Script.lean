import FixTrial.Encoding.Decode
import FixTrial.Scripted.BuildPlan
import FixTrial.Scripted.PatchTree
import FixTrial.Scripted.Rehearsal
import FixTrial.Scripted.RuleBuild
import FixTrial.Text.Base64

/-! Scripts of rehearsals, patch trees and builds read from JSON. -/
namespace FixTrial

def Fix.keysOfJson (j : Json) : Decoded (List FixKey) :=
  return (← j.items.mapM Fix.ofJson).map Fix.key

def ScriptedEffect.ofJson (j : Json) : Decoded ScriptedEffect := do
  let fix ← Fix.ofJson (j.field "fix")
  let removes ← (j.field "removes").items.mapM Diagnostic.ofJson
  let adds ← (j.field "adds").items.mapM Diagnostic.ofJson
  return ⟨fix.key, removes, adds⟩

def Script.ofJson (j : Json) : Decoded Script := do
  let baseline ← (j.field "baseline").items.mapM Diagnostic.ofJson
  let effects ← (j.field "effects").items.mapM ScriptedEffect.ofJson
  let failing ← Fix.keysOfJson (j.field "failing")
  return ⟨baseline, effects, failing, (j.field "crash_runs").items.map Json.asInt⟩

def PatchRule.ofJson (j : Json) : PatchRule :=
  ⟨(j.field "marker").asText, (j.field "stdout").asText, (j.field "stderr").asText⟩

def PatchTree.ofJson (j : Json) : PatchTree :=
  { head := match j.field "head" with
      | .text h => some h
      | _ => none
    conflicts := (j.field "conflicts").items.map PatchRule.ofJson
    stuck := (j.field "stuck").items.map PatchRule.ofJson
    leaky := (j.field "leaky").items.map PatchRule.ofJson
    applied := [] }

/-- What a file holds: text, or bytes in base 64. -/
def Content.ofJson (j : Json) : Content :=
  match j.get? "base64" with
  | some b => .bytes (Text.fromBase64 b.asText)
  | none => .text j.asText

def Content.ofJson? : Json → Option Content
  | .null => none
  | j => some (.ofJson j)

def PlannedBuild.ofJson (j : Json) : PlannedBuild :=
  match (j.field "raise").asText with
  | "timeout" => .timedOut
  | "oserror" => .cannotStart (j.field "text").asText
  | _ =>
    .finished (Content.ofJson? (j.field "output")) (j.field "rc").asInt (j.field "stdout").asText
      (j.field "stderr").asText

def BuildRule.ofJson (j : Json) : BuildRule :=
  ⟨(j.field "marker").asText, (j.field "removes").texts, (j.field "adds").items⟩

def RuleBuild.ofJson (j : Json) : RuleBuild :=
  { baseline := (j.field "baseline").items
    rules := (j.field "rules").items.map BuildRule.ofJson
    crashOn := (j.field "crash_on").texts
    code := (j.field "rc").asInt
    output := (j.field "stdout").asText
    errors := (j.field "stderr").asText
    file := ((j.get? "output").map Json.asText).getD RuleBuild.idle.file }

def Yard.ofJson (tree builds : Json) : Yard :=
  ⟨.ofJson tree, builds.entries.map fun (folder, b) => (folder, .ofJson b)⟩

end FixTrial
