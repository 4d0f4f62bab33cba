import FixTrial.Text.Hex

/-! UTF-8 decoding that says where and why it fails. -/
namespace FixTrial.Text

inductive Utf8Cause
  | invalidStart | invalidContinuation | unexpectedEnd
deriving DecidableEq

/-- The bytes at fault: the first of them, where it stands, and how many they are. -/
structure Utf8Error where
  cause : Utf8Cause
  first : UInt8
  position : Nat
  count : Nat
deriving DecidableEq

def Utf8Cause.message : Utf8Cause → String
  | .invalidStart => "invalid start byte"
  | .invalidContinuation => "invalid continuation byte"
  | .unexpectedEnd => "unexpected end of data"

def Utf8Error.message (e : Utf8Error) : String :=
  let place :=
    if e.count = 1 then
      s!"byte 0x{String.ofList (hex 2 e.first.toNat)} in position {e.position}"
    else s!"bytes in position {e.position}-{e.position + e.count - 1}"
  s!"'utf-8' codec can't decode {place}: {e.cause.message}"

/-- How many bytes follow the first byte of a character, and the range of the first of these. -/
def utf8Tail? (b : UInt8) : Option (Nat × UInt8 × UInt8) :=
  if b < 0x80 then some (0, 0, 0)
  else if b < 0xc2 then none
  else if b < 0xe0 then some (1, 0x80, 0xbf)
  else if b = 0xe0 then some (2, 0xa0, 0xbf)
  else if b = 0xed then some (2, 0x80, 0x9f)
  else if b < 0xf0 then some (2, 0x80, 0xbf)
  else if b = 0xf0 then some (3, 0x90, 0xbf)
  else if b < 0xf4 then some (3, 0x80, 0xbf)
  else if b = 0xf4 then some (3, 0x80, 0x8f)
  else none

/-- The state between two bytes: the value read so far of a character with `owed` bytes to come,
the range of the next one, and the character's first byte and position. -/
structure Utf8State where
  owed : Nat
  low : UInt8
  high : UInt8
  value : Nat
  first : UInt8
  start : Nat

def decodeUtf8From (position : Nat) (open? : Option Utf8State) :
    List UInt8 → Except Utf8Error (List Char)
  | [] =>
    match open? with
    | none => .ok []
    | some s => .error ⟨.unexpectedEnd, s.first, s.start, position - s.start⟩
  | b :: rest =>
    match open? with
    | none =>
      match utf8Tail? b with
      | none => .error ⟨.invalidStart, b, position, 1⟩
      | some (0, _, _) => (decodeUtf8From (position + 1) none rest).map (Char.ofNat b.toNat :: ·)
      | some (n, low, high) =>
        let value := b.toNat % 2 ^ (6 - n)
        decodeUtf8From (position + 1) (some ⟨n, low, high, value, b, position⟩) rest
    | some s =>
      if s.low ≤ b && b ≤ s.high then
        let value := 64 * s.value + b.toNat % 64
        if s.owed = 1 then
          (decodeUtf8From (position + 1) none rest).map (Char.ofNat value :: ·)
        else
          decodeUtf8From (position + 1)
            (some { s with owed := s.owed - 1, low := 0x80, high := 0xbf, value }) rest
      else .error ⟨.invalidContinuation, s.first, s.start, position - s.start⟩

def decodeUtf8 (bytes : List UInt8) : Except Utf8Error String :=
  (decodeUtf8From 0 none bytes).map String.ofList

end FixTrial.Text
