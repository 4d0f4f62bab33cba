import FixTrial.Encoding.Decode
import FixTrial.Encoding.Encode
import FixTrial.Graph

/-! Reports and graph nodes as JSON, along with what they leave open. -/
namespace FixTrial

def Fix.toJsonWithPatch (f : Fix) : Json :=
  .object (f.toJson.entries ++ [("patch", f.patch.getD .null)])

def Fix.patchedListToJson (fixes : List Fix) : Json :=
  .array ((Fix.sort fixes).map Fix.toJsonWithPatch)

namespace Diagnostic

def listToJson (ds : List Diagnostic) : Json := .array (ds.map toJson)

def sortedToJson (ds : List Diagnostic) : Json := listToJson (sort ds)

end Diagnostic

def Region.listToJson (rs : List Region) : Json :=
  .array ((Region.sort rs).map Region.toJson)

def Location.listToJson (ls : List Location) : Json :=
  .array ((Location.sort ls).map Location.toJson)

def Json.ofNat (n : Nat) : Json := .int n

def Json.ofSortedNats (ns : List Nat) : Json :=
  .array ((ns.mergeSort fun a b => decide (a ≤ b)).map Json.ofNat)

namespace Report

/-- A report with what it has triggered and not followed up. -/
def toOpenJson (r : Report) : Json :=
  .object (r.toJson.entries ++ [("finished", .bool r.isFinished),
    ("triggered", Fix.patchedListToJson r.triggered),
    ("pending_followups", Fix.patchedListToJson r.followups),
    ("new_diagnostics", Diagnostic.sortedToJson r.newDiagnostics)])

def ofJson (j : Json) : Decoded Report := do
  let root ← Fix.ofJson (← j.required "root")
  let tree ← (j.field "tree").items.mapM Fix.ofJson
  let triggered ← (j.field "triggered").items.mapM Fix.ofJson
  let tag ← Status.ofJson ((j.get? "tag").getD (.text "pending"))
  return { start root (Keyed.distinct Fix.key tree) with
    localEffect := (j.field "local_effect").asInt
    lowerBound := (j.field "lower_bound_downstream_effect").asInt
    upperBound := (j.field "upper_bound_downstream_effect").asInt
    tag, depth := (j.field "depth").asInt, failed := (j.field "failed").isTruthy
    triggered := Keyed.distinct Fix.key triggered }

end Report

def Node.toJson (n : Node) : Json :=
  .object [("index", .ofNat n.index), ("root", .text n.root.label),
    ("fixes", Fix.patchedListToJson n.fixes), ("regions", Region.listToJson n.regions),
    ("effect", match n.effect with
      | some e => .int e
      | none => .null),
    ("status", .text n.status.name), ("failed", .bool n.failed),
    ("new_diagnostics", Diagnostic.sortedToJson n.newDiagnostics),
    ("triggered", Fix.patchedListToJson n.triggered),
    ("conflicts", .ofSortedNats n.conflicts)]

def Graph.groupsToJson (groups : List (List Nat)) : Json :=
  .array (groups.map fun g => .array (g.map Json.ofNat))

end FixTrial
