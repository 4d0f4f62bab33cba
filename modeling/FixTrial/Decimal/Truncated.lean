import FixTrial.Decimal.Shortest

/-! The whole part of a double. -/
namespace FixTrial.Decimal

def Dyadic.wholePart (d : Dyadic) : Nat :=
  if 0 ≤ d.power then d.units * twoTo d.power.toNat else d.units / twoTo (-d.power).toNat

def truncated? (x : Float) : Option Int :=
  match Reading.ofBits x.toBits with
  | .zero _ => some 0
  | .finite negative size => some (if negative then -(size.wholePart : Int) else size.wholePart)
  | .infinite _ | .notANumber => none

end FixTrial.Decimal
