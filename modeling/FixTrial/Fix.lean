import FixTrial.Json.Basic
import FixTrial.Keyed
import FixTrial.Location

/-!
Fixes: an annotation suggested at a location. A fix is known by its place and its mark, which is the
annotation's name; the reasons for it, the module that asked for it and the patch that makes it are
carried along.
-/
namespace FixTrial

/-- The module whose diagnostic suggested a fix. -/
inductive Origin
  | target
  | downstream
deriving DecidableEq

namespace Origin

def name : Origin → String
  | .target => "target"
  | .downstream => "downstream"

def ofName? : String → Option Origin
  | "target" => some .target
  | "downstream" => some .downstream
  | _ => none

end Origin

/-- What tells one fix from another. -/
structure FixKey where
  place : Place
  mark : String
deriving DecidableEq

structure Fix where
  location : Location
  mark : String
  reasons : List String
  origin : Origin
  patch : Option Json

namespace FixKey

def label (k : FixKey) : String := "@" ++ k.mark ++ " on " ++ k.place.label

def cmp : FixKey → FixKey → Ordering := compareLex (fun a b => Place.cmp a.place b.place)
  (compareOn (·.mark))

def le (a b : FixKey) : Bool := (cmp a b).isLE

end FixKey

namespace Fix

def key (f : Fix) : FixKey := ⟨f.location.toPlace, f.mark⟩

def label (f : Fix) : String := f.key.label

def inTarget (f : Fix) : Bool := f.origin = .target

/-- Whether the fix annotates a constructor, under either of the names that one goes by. -/
def onConstructor (f : Fix) : Bool :=
  let p := f.location.toPlace
  p.kind ≠ .field && (p.callableName = "__init__" || p.callableName = p.simpleTypeName)

/-- The same annotation somewhere else, where the patch no longer fits. -/
def relocate (f : Fix) (location : Location) : Fix := { f with location, patch := none }

/-- Two suggestions of one fix as one: `f` with the reasons of both, asked for by the target if one
of them is, and the first patch there is. -/
def absorb (f other : Fix) : Fix :=
  { f with
    reasons := Keyed.union id f.reasons other.reasons
    origin := if f.origin = .target || other.origin = .target then .target else .downstream
    patch := f.patch <|> other.patch }

structure MergeError where
  kept : FixKey
  other : FixKey

def MergeError.message (e : MergeError) : String :=
  s!"cannot merge {e.other.label} into {e.kept.label}"

/-- `absorb`, for suggestions of one fix only. -/
def merge (f other : Fix) : Except MergeError Fix :=
  if f.key = other.key then .ok (f.absorb other) else .error ⟨f.key, other.key⟩

/-- `f` absorbed by the fix of `fixes` that it repeats, or set at the end. -/
def collect (fixes : List Fix) (f : Fix) : List Fix :=
  match fixes with
  | [] => [f]
  | g :: rest => if g.key = f.key then g.absorb f :: rest else g :: collect rest f

/-- Every fix once, where it is first mentioned. -/
def dedupe (fixes : List Fix) : List Fix := fixes.foldl collect []

def sort (fixes : List Fix) : List Fix := fixes.mergeSort fun a b => FixKey.le a.key b.key

end Fix
end FixTrial
