/-! Hexadecimal digits and numbers. -/
namespace FixTrial.Text

def hexDigit (n : Nat) : Char :=
  if n < 10 then Char.ofNat ('0'.toNat + n) else Char.ofNat ('a'.toNat + (n - 10))

def hex (width n : Nat) : List Char :=
  match width with
  | 0 => []
  | w + 1 => hex w (n / 16) ++ [hexDigit (n % 16)]

def hexValue? (c : Char) : Option Nat :=
  let n := c.toNat
  if '0' ≤ c && c ≤ '9' then some (n - '0'.toNat)
  else if 'a' ≤ c && c ≤ 'f' then some (n - 'a'.toNat + 10)
  else if 'A' ≤ c && c ≤ 'F' then some (n - 'A'.toNat + 10)
  else none

def hexNumber (s : String) : Nat :=
  s.toList.foldl (fun n c => 16 * n + (hexValue? c).getD 0) 0

/-- The entries of a table: blanks stand between entries, and points between the numbers of one. -/
def hexEntries (rows : List String) : List (List Nat) :=
  rows.flatMap fun row => (row.splitOn " ").map fun entry => (entry.splitOn ".").map hexNumber

end FixTrial.Text
