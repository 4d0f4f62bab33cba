import FixTrial.Decimal.Shortest

/-! How a decimal is laid out as text. -/
namespace FixTrial.Decimal

/-- The decisions of a number format. A number is written positionally while its point lies within
`firstPoint` and `lastPoint`, with `.0` where it is whole, and otherwise with one digit before the
point and a signed exponent of at least `exponentDigits` digits. -/
structure Layout where
  firstPoint : Int
  lastPoint : Int
  exponentDigits : Nat
  infinity : String
  notANumber : String

def digitText (ds : List Nat) : String := String.ofList (ds.map fun d => Char.ofNat ('0'.toNat + d))

/-- `ds` written positionally, with the point after its first `point` digits. -/
def positional (ds : List Nat) (point : Int) : String :=
  if point ≤ 0 then "0." ++ digitText (List.replicate (-point).toNat 0 ++ ds)
  else
    let whole := ds.take point.toNat
    let fraction := ds.drop point.toNat
    let padded := whole ++ List.replicate (point.toNat - whole.length) 0
    digitText padded ++ "." ++ (if fraction.isEmpty then "0" else digitText fraction)

def exponential (exponentDigits : Nat) (ds : List Nat) (point : Int) : String :=
  let e := point - 1
  let size := toString e.natAbs
  let padding := String.ofList (List.replicate (exponentDigits - size.length) '0')
  let tail := ds.drop 1
  digitText (ds.take 1) ++ (if tail.isEmpty then "" else "." ++ digitText tail)
    ++ "e" ++ (if e < 0 then "-" else "+") ++ padding ++ size

def Layout.digits (l : Layout) (d : Digits) : String :=
  if l.firstPoint ≤ d.point && d.point ≤ l.lastPoint then positional d.digits d.point
  else exponential l.exponentDigits d.digits d.point

def Layout.signed (negative : Bool) (s : String) : String := if negative then "-" ++ s else s

def Layout.text (l : Layout) (x : Float) : String :=
  match Reading.ofBits x.toBits with
  | .zero negative => Layout.signed negative "0.0"
  | .finite negative size => Layout.signed negative (l.digits size.shortest)
  | .infinite negative => Layout.signed negative l.infinity
  | .notANumber => l.notANumber

/-- Numbers in messages: the fewest digits that read back, positional from 10^-4 to below 10^16. -/
def messageLayout : Layout := ⟨-3, 16, 2, "inf", "nan"⟩

end FixTrial.Decimal
