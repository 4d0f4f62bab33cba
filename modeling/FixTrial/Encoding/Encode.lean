import FixTrial.Report

/-! Regions, locations, fixes, diagnostics and reports written as JSON. -/
namespace FixTrial

def Region.toJson (r : Region) : Json :=
  .object [("type", .text r.typeName), ("member", .text r.member)]

/-- A location; only a parameter's position is written. -/
def Location.toJson (l : Location) : Json :=
  .object <|
    [("kind", .text l.kind.name), ("type", .text l.typeName), ("member", .text l.member),
      ("path", .text l.path)]
    ++ if l.kind = .parameter then [("index", .int l.index)] else []

def textsToJson (texts : List String) : Json :=
  .array ((texts.mergeSort fun a b => decide (a ≤ b)).map .text)

/-- A fix without its patch. -/
def Fix.toJson (f : Fix) : Json :=
  .object [("location", f.location.toJson), ("annotation", .text f.mark),
    ("reasons", textsToJson f.reasons), ("origin", .text f.origin.name)]

def Fix.listToJson (fixes : List Fix) : Json := .array ((Fix.sort fixes).map Fix.toJson)

def Diagnostic.toJson (d : Diagnostic) : Json :=
  .object [("kind", .text d.kind), ("message", .text d.message), ("region", d.region.toJson),
    ("fixes", Fix.listToJson d.fixes)]

def Report.toJson (r : Report) : Json :=
  .object [("root", r.root.toJson), ("tree", Fix.listToJson r.tree),
    ("local_effect", .int r.localEffect),
    ("lower_bound_downstream_effect", .int r.lowerBound),
    ("upper_bound_downstream_effect", .int r.upperBound),
    ("tag", .text r.tag.name), ("depth", .int r.depth), ("failed", .bool r.failed)]

end FixTrial
