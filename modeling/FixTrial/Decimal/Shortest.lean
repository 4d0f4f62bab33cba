/-! The shortest decimal that reads back as a given double.

A double is a whole number times a power of two. The reals that round to it form an interval around
it, whose ends belong to it when the whole number is even. Of the decimals with 1, 2, … digits the
first grid with a point in that interval gives the answer, the nearer point if there are two. -/
namespace FixTrial.Decimal

/-- A positive number `units · 2^power`; `narrow` says that the gap below is half the gap above. -/
structure Dyadic where
  units : Nat
  power : Int
  narrow : Bool
deriving DecidableEq

/-- The digits of a decimal, without trailing zeros, and the place of its point: the number is
`0.digits · 10^point`. -/
structure Digits where
  digits : List Nat
  point : Int
deriving DecidableEq

def twoTo (n : Nat) : Nat := Nat.pow 2 n
def tenTo (n : Nat) : Nat := Nat.pow 10 n

inductive Reading
  | zero (negative : Bool)
  | finite (negative : Bool) (size : Dyadic)
  | infinite (negative : Bool)
  | notANumber

def Reading.ofBits (bits : UInt64) : Reading :=
  let n := bits.toNat
  let negative : Bool := n / twoTo 63 = 1
  let exponent : Nat := n / twoTo 52 % twoTo 11
  let fraction : Nat := n % twoTo 52
  if exponent = 2047 then if fraction = 0 then .infinite negative else .notANumber
  else if exponent = 0 then
    if fraction = 0 then .zero negative else .finite negative ⟨fraction, -1074, false⟩
  else
    .finite negative ⟨twoTo 52 + fraction, Int.ofNat exponent - 1075, fraction = 0 && 1 < exponent⟩

/-- The rounding interval of a number over one denominator. -/
structure Interval where
  low : Nat
  value : Nat
  high : Nat
  denominator : Nat
  closed : Bool

def Dyadic.interval (d : Dyadic) : Interval :=
  let scale := twoTo d.power.toNat
  let value := 4 * d.units * scale
  { low := value - (if d.narrow then 1 else 2) * scale
    value
    high := value + 2 * scale
    denominator := 4 * twoTo (-d.power).toNat
    closed := d.units % 2 = 0 }

def Interval.holds (i : Interval) (digits : Nat) (power : Int) : Bool :=
  let x := digits * tenTo power.toNat * i.denominator
  let shift := tenTo (-power).toNat
  if i.closed then i.low * shift ≤ x && x ≤ i.high * shift
  else i.low * shift < x && x < i.high * shift

/-- How far `digits · 10^power` is from the value, over the denominator of the power's grid. -/
def Interval.distance (i : Interval) (digits : Nat) (power : Int) : Nat :=
  let x := digits * tenTo power.toNat * i.denominator
  let v := i.value * tenTo (-power).toNat
  (x - v) + (v - x)

/-- The best point of the grid of step `10^power`, if one reads back. -/
def Interval.onGrid? (i : Interval) (power : Int) : Option Nat :=
  let below := i.value * tenTo (-power).toNat / (i.denominator * tenTo power.toNat)
  let above := below + 1
  match 0 < below && i.holds below power, i.holds above power with
  | true, true =>
    let b := i.distance below power
    let a := i.distance above power
    some (if b < a || (b = a && below % 2 = 0) then below else above)
  | true, false => some below
  | false, true => some above
  | false, false => none

/-- The place of the point: how many digits the number has before it, or minus the number of zeros
that follow it. -/
def Interval.point (i : Interval) : Int :=
  if i.denominator ≤ i.value then (Nat.toDigits 10 (i.value / i.denominator)).length
  else 1 - (Nat.toDigits 10 ((i.denominator - 1) / i.value)).length

def digitsOf (n : Nat) : List Nat := (Nat.toDigits 10 n).map fun c => c.toNat - '0'.toNat

/-- The first grid with a point in the interval, of those with `places`, `places + 1`, … digits. -/
def Interval.firstGrid (i : Interval) (places : Nat) : Nat → Digits
  | 0 => ⟨[], 0⟩
  | grids + 1 =>
    let power := i.point - places
    match i.onGrid? power with
    | some n =>
      let ds := digitsOf n
      ⟨(ds.reverse.dropWhile (· == 0)).reverse, power + ds.length⟩
    | none => i.firstGrid (places + 1) grids

/-- Seventeen digits always suffice. -/
def Dyadic.shortest (d : Dyadic) : Digits := d.interval.firstGrid 1 17

end FixTrial.Decimal
