/-! Bytes written in base 64. -/
namespace FixTrial.Text

def base64Digit? (c : Char) : Option Nat :=
  if 'A' ≤ c && c ≤ 'Z' then some (c.toNat - 'A'.toNat)
  else if 'a' ≤ c && c ≤ 'z' then some (c.toNat - 'a'.toNat + 26)
  else if '0' ≤ c && c ≤ '9' then some (c.toNat - '0'.toNat + 52)
  else if c = '+' then some 62
  else if c = '/' then some 63
  else none

/-- The bytes of four digits, or of the last two or three. -/
def base64Bytes : List Nat → List UInt8
  | a :: b :: c :: d :: rest =>
    let n := ((a * 64 + b) * 64 + c) * 64 + d
    UInt8.ofNat (n / 65536) :: UInt8.ofNat (n / 256) :: UInt8.ofNat n :: base64Bytes rest
  | [a, b, c] =>
    let n := (a * 64 + b) * 64 + c
    [UInt8.ofNat (n / 1024), UInt8.ofNat (n / 4)]
  | [a, b] => [UInt8.ofNat ((a * 64 + b) / 16)]
  | _ => []

def fromBase64 (s : String) : List UInt8 := base64Bytes (s.toList.filterMap base64Digit?)

/-- The digits of a text whose last group is filled up to four by equals signs; what is neither counts
for nothing. `digits` holds those read so far, last first, and `fill` counts the signs after them. -/
def paddedDigits (digits : List Nat) (fill : Nat) : List Char → Option (List Nat)
  | [] => if digits.length % 4 = 0 then some digits.reverse else none
  | c :: rest =>
    if c = '=' then
      let held := digits.length % 4
      if 2 ≤ held && 3 ≤ held + fill then some digits.reverse
      else paddedDigits digits (fill + 1) rest
    else
      match base64Digit? c with
      | some d => paddedDigits (d :: digits) 0 rest
      | none => paddedDigits digits fill rest

def fromPaddedBase64? (s : String) : Option (List UInt8) :=
  (paddedDigits [] 0 s.toList).map base64Bytes

end FixTrial.Text
