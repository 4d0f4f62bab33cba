import FixTrial.Batch
import FixTrial.Event
import FixTrial.Snapshot

/-! What an exploration is given, and what it changes as it goes. -/
namespace FixTrial

/-- All that an exploration needs. `declared` says what lies in the target, `link` which fixes have
to go in together with one, given the baseline, and `destructive` which trees of fixes break an
override family. -/
structure Context (ω : Type) where
  workspace : Workspace ω
  regions : RegionSource
  mode : Mode
  depth : Depth
  retry : Bool
  declared : Location → Bool
  link : Snapshot → Fix → List Fix
  destructive : List Fix → Bool
  modules : List (DependentModule ω)

structure GroupFailure where
  depth : Nat
  group : Nat
  roots : List String
  logs : List String

def GroupFailure.toJson (f : GroupFailure) : Json :=
  .object [("depth", Event.natural f.depth), ("group", Event.natural f.group),
    ("roots", .array (f.roots.map .text)), ("logs", .array (f.logs.map .text))]

/-- The state of an exploration. Builds and failures are counted over all the runs made with it. -/
structure Trial (ω : Type) where
  site : Site ω
  bank : Bank
  journal : List Event
  builds : Nat
  failedGroups : Nat
  failures : List GroupFailure

namespace Trial

def start (world : ω) : Trial ω :=
  { site := ⟨world, false⟩, bank := .empty, journal := [], builds := 0, failedGroups := 0
    failures := [] }

def log (e : Event) : Act (Trial ω) Unit := modify fun t => { t with journal := t.journal ++ [e] }

def onSite (act : Act (Site ω) α) : Act (Trial ω) α := fun t =>
  match act t.site with
  | .ok a site => .ok a { t with site }
  | .error e site => .error e { t with site }

def batch (w : Workspace ω) (verify : Act ω (List Diagnostic)) (fixes : List Fix)
    (measure : List Diagnostic → Site ω → β × Except Fault Unit) : Act (Trial ω) (BatchRun β) :=
  fun t =>
    let (r, site) := Batch.run w verify fixes measure t.site
    .ok r { t with site }

end Trial
end FixTrial
