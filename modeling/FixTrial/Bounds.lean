import FixTrial.Diagnostic

/-! Bounds on how many new diagnostics of a dependent module a set of fixes answers for. -/
namespace FixTrial

structure Bounds where
  lower : Int
  upper : Int
deriving DecidableEq

namespace Bounds

def zero : Bounds := ⟨0, 0⟩

def add (a b : Bounds) : Bounds := ⟨a.lower + b.lower, a.upper + b.upper⟩

/-- What `count` occurrences of `d` add: to the upper bound if one of `fixes` could resolve it, and
to the lower bound if nothing else could. -/
def ofDiagnostic (fixes : List Fix) (d : Diagnostic) (count : Int) : Bounds :=
  if Keyed.meets Fix.key d.fixes fixes then ⟨if d.hasSingleFix then count else 0, count⟩ else zero

def count (news : List (Diagnostic × Int)) (fixes : List Fix) : Bounds :=
  news.foldl (fun b (d, n) => b.add (ofDiagnostic fixes d n)) zero

end Bounds
end FixTrial
