import FixTrial.Encoding.Encode
import FixTrial.Program.Index

/-! Program indices as JSON. -/
namespace FixTrial
def Member.le (a b : Member) : Bool :=
  ((compare a.typeName b.typeName).then (compare a.name b.name)).isLE

namespace Mentions

def ofJson (j : Json) : Mentions :=
  j.entries.map fun (name, rs) =>
    (name, Keyed.distinct id (rs.items.map fun r => ⟨r.pair.1, r.pair.2⟩))

def toJson (ms : Mentions) : Json :=
  .object (ms.map fun (name, rs) =>
    (name, .array ((Region.sort rs).map fun r => Json.ofPair (r.typeName, r.member))))

end Mentions

namespace ProgramIndex

def methodsOfJson (j : Json) : List (Member × List String) :=
  j.items.foldl (fun ms m =>
    setEntry ms ⟨(m.field "type").asText, (m.field "name").asText⟩ (m.field "params").texts) []

def ofJson (j : Json) : ProgramIndex :=
  { methods := methodsOfJson (j.field "methods")
    fields := Keyed.distinct id ((j.field "fields").items.map fun f => ⟨f.pair.1, f.pair.2⟩)
    bases := (j.field "bases").entries.map fun (t, bs) => (t, bs.texts)
    paths := (j.field "paths").entries.map fun (t, p) => (t, p.asText)
    calls := .ofJson (j.field "calls")
    reads := .ofJson (j.field "reads")
    writes := .ofJson (j.field "writes") }

def toJson (x : ProgramIndex) : Json :=
  let methods := x.methods.mergeSort fun a b => Member.le a.1 b.1
  .object [
    ("methods", .array (methods.map fun (m, ps) =>
      .array [.text m.typeName, .text m.name, Json.ofTexts ps])),
    ("fields", .array ((x.fields.mergeSort Member.le).map fun m =>
      Json.ofPair (m.typeName, m.name))),
    ("bases", .object (x.bases.map fun (t, bs) => (t, Json.ofTexts bs))),
    ("paths", .object (x.paths.map fun (t, p) => (t, .text p))),
    ("calls", x.calls.toJson), ("reads", x.reads.toJson), ("writes", x.writes.toJson)]

end ProgramIndex
end FixTrial
