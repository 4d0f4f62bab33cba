import FixTrial.Exploration.Trial
import FixTrial.RegionLookup

/-! Explorations of an indexed program. -/
namespace FixTrial

/-- The context with what a program's index knows: what is declared, which regions are impacted,
which trees are destructive, and, if `linking` says so, which of the baseline's suggestions have to go
in together. -/
def Context.indexed (ctx : Context ω) (x : ProgramIndex) (lookup : RegionLookup) (linking : Bool) :
    Context ω :=
  { ctx with
    regions := lookup.source
    declared := fun l => x.declares l.toPlace
    destructive := x.isDestructive
    link := fun baseline f => if linking then x.linked (some baseline.fixes) f else [f] }

end FixTrial
