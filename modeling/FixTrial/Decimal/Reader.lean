/-! Doubles read from decimals. -/
namespace FixTrial.Decimal

/-- The double nearest to `digits · 10^exponent`. A power of ten beyond the range of doubles is not
computed: the answer is then zero or infinite. -/
def toFloat (digits : Nat) (exponent : Int) : Float :=
  if digits = 0 then 0.0
  else
    let point := exponent + (Nat.toDigits 10 digits).length
    if 400 < point then 1.0 / 0.0
    else if point < -400 then 0.0
    else if exponent < 0 then Float.ofScientific digits true exponent.natAbs
    else Float.ofScientific digits false exponent.natAbs

end FixTrial.Decimal
