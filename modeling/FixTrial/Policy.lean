import FixTrial.Report
import FixTrial.Text.Blank

/-! Policies: how measured effects decide a report. -/
namespace FixTrial

/-- Which effects count. `targetOnly` takes the target's own; the two bounds add an estimate of the
effect on the modules that depend on it; `strict` takes every fix that one of these asks for, unless
it breaks an override family. -/
inductive Mode
  | targetOnly
  | strict
  | upperBound
  | lowerBound
deriving DecidableEq

namespace Mode

def name : Mode → String
  | .targetOnly => "local"
  | .strict => "strict"
  | .upperBound => "upper_bound"
  | .lowerBound => "lower_bound"

def all : List Mode := [.targetOnly, .strict, .upperBound, .lowerBound]

def ofName? (s : String) : Option Mode := all.find? (·.name = s)

structure Unrecognized where
  request : String

def Unrecognized.message (e : Unrecognized) : String :=
  s!"Unrecognized mode request: {e.request}. Can only be [default|local|upper_bound|lower_bound|strict]."

/-- The mode that a text asks for. Case and surrounding blanks do not matter. -/
def ofRequest (request : String) : Except Unrecognized Mode :=
  let word := Text.lower (Text.trim request)
  if word = "default" then .ok .lowerBound
  else
    match ofName? word with
    | some mode => .ok mode
    | none => .error ⟨request⟩

/-- The mode in force: without downstream modules only the target counts; with them an absent or
empty request stands for the lower bound. -/
def resolve (downstream : Bool) (request : Option String) : Except Unrecognized Mode :=
  if !downstream then .ok .targetOnly
  else
    match request with
    | none => .ok .lowerBound
    | some r => if r.isEmpty then .ok .lowerBound else ofRequest r

end Mode

namespace Policy

/-- An effect below one is accepted: no change counts as harmless. -/
def ofEffect (effect : Int) : Status := if effect < 1 then .apply else .discard

/-- The verdict of a mode on a report. A failed report is always discarded. -/
def decide (mode : Mode) (destructive : List Fix → Bool) (r : Report) : Status :=
  if r.failed then .discard
  else
    match mode with
    | .targetOnly => ofEffect r.localEffect
    | .strict =>
      if r.root.inTarget then ofEffect r.localEffect
      else if destructive r.tree then .discard else .apply
    | .upperBound => ofEffect (r.localEffect + r.upperBound)
    | .lowerBound => ofEffect (r.localEffect + r.lowerBound)

end Policy
end FixTrial
