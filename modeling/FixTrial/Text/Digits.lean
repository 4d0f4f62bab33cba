import FixTrial.Text.Blank

/-! Whole numbers read from text. -/
namespace FixTrial.Text

/-- The zeros of the Unicode 14 decimal digits; the nine digits above each follow it. -/
def decimalZeros : List Nat :=
  [
    0x30, 0x660, 0x6f0, 0x7c0, 0x966, 0x9e6, 0xa66, 0xae6, 0xb66, 0xbe6, 0xc66, 0xce6, 0xd66,
    0xde6, 0xe50, 0xed0, 0xf20, 0x1040, 0x1090, 0x17e0, 0x1810, 0x1946, 0x19d0, 0x1a80, 0x1a90,
    0x1b50, 0x1bb0, 0x1c40, 0x1c50, 0xa620, 0xa8d0, 0xa900, 0xa9d0, 0xa9f0, 0xaa50, 0xabf0,
    0xff10, 0x104a0, 0x10d30, 0x11066, 0x110f0, 0x11136, 0x111d0, 0x112f0, 0x11450, 0x114d0,
    0x11650, 0x116c0, 0x11730, 0x118e0, 0x11950, 0x11c50, 0x11d50, 0x11da0, 0x16a60, 0x16ac0,
    0x16b50, 0x1d7ce, 0x1d7d8, 0x1d7e2, 0x1d7ec, 0x1d7f6, 0x1e140, 0x1e2f0, 0x1e950, 0x1fbf0]

def digitValue? (c : Char) : Option Nat :=
  (decimalZeros.find? fun z => z ≤ c.toNat && c.toNat ≤ z + 9).map fun z => c.toNat - z

/-- The value of a run of digits, in which a single underscore may stand between two of them. -/
def digitsFrom? (value : Nat) : List Char → Option Nat
  | [] => some value
  | '_' :: c :: rest => do digitsFrom? (10 * value + (← digitValue? c)) rest
  | c :: rest => do digitsFrom? (10 * value + (← digitValue? c)) rest

def natural? : List Char → Option Nat
  | [] => none
  | c :: rest => do digitsFrom? (← digitValue? c) rest

/-- The blanks that may surround a number: all but the separators among the ASCII controls. -/
def isNumberBlank (c : Char) : Bool := isBlank c && !('\x1c' ≤ c && c ≤ '\x1f')

/-- A whole number in decimal digits, with an optional sign and blanks around it. -/
def integer? (s : String) : Option Int :=
  match trimChars isNumberBlank s.toList with
  | '-' :: rest => (natural? rest).map fun n => -(n : Int)
  | '+' :: rest => (natural? rest).map Int.ofNat
  | rest => (natural? rest).map Int.ofNat

def digitLimit : Nat := 4300

def tooLongMessage (digits : Nat) : String :=
  s!"Exceeds the limit ({digitLimit} digits) for integer string conversion: value has {digits} digits; use sys.set_int_max_str_digits() to increase the limit"

/-- The digits that a whole number begins with, and the underscores between and behind them. -/
def digitRun (cs : List Char) : List Char :=
  let unsigned := match cs.dropWhile isNumberBlank with
    | '-' :: rest | '+' :: rest => rest
    | rest => rest
  unsigned.takeWhile fun c => c = '_' || (digitValue? c).isSome

def digitCount (cs : List Char) : Nat := cs.countP fun c => (digitValue? c).isSome

end FixTrial.Text
