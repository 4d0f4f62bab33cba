import FixTrial.Fix

/-! Diagnostics: issues that a checker reports, each with the fixes that would resolve it. -/
namespace FixTrial

/-- A diagnostic; no two of its fixes have one key. -/
structure Diagnostic where
  kind : String
  message : String
  region : Region
  fixes : List Fix

/-- What tells one diagnostic from another, its fixes in order. -/
structure DiagnosticKey where
  kind : String
  message : String
  region : Region
  fixes : List FixKey
deriving DecidableEq

/-- A diagnostic that has no fix, or several, where one was to be named. -/
structure AttributionError where
  kind : String
  region : Region
  count : Nat

def AttributionError.message (e : AttributionError) : String :=
  s!"{e.kind} in {e.region.label} has {e.count} resolving fixes, expected exactly one"

namespace Diagnostic

def key (d : Diagnostic) : DiagnosticKey :=
  ⟨d.kind, d.message, d.region, (d.fixes.map Fix.key).mergeSort FixKey.le⟩

def label (d : Diagnostic) : String := s!"{d.kind} in {d.region.label}: {d.message}"

def hasSingleFix (d : Diagnostic) : Bool := d.fixes.length = 1

def resolvingFix (d : Diagnostic) : Except AttributionError Fix :=
  match d.fixes with
  | [f] => .ok f
  | fixes => .error ⟨d.kind, d.region, fixes.length⟩

/-- Whether there is a fix, and all of them lie where `declared` holds. -/
def isFixable (declared : Location → Bool) (d : Diagnostic) : Bool :=
  !d.fixes.isEmpty && d.fixes.all fun f => declared f.location

def fixesOf (ds : List Diagnostic) : List Fix := Keyed.distinct Fix.key (ds.flatMap (·.fixes))

end Diagnostic

/-- By region, kind, message, and fixes. -/
def DiagnosticKey.cmp : DiagnosticKey → DiagnosticKey → Ordering :=
  compareLex (fun a b => Region.cmp a.region b.region) <| compareLex (compareOn (·.kind)) <|
    compareLex (compareOn (·.message)) fun a b => List.compareLex FixKey.cmp a.fixes b.fixes

def Diagnostic.sort (ds : List Diagnostic) : List Diagnostic :=
  ds.mergeSort fun a b => (DiagnosticKey.cmp a.key b.key).isLE

end FixTrial
