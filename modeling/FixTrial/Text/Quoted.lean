import FixTrial.Text.Hex
import FixTrial.Text.Printable

/-! Text in quotes, as messages show it: single quotes, unless the text holds a single quote and no
double one. -/
namespace FixTrial.Text

def quoteFor (cs : List Char) : Char :=
  if cs.contains '\'' && !cs.contains '"' then '"' else '\''

/-- One character between the quotes `q`. What is not printable is written by its code point, in
the shortest of three widths that holds it. -/
def quotedChar (q c : Char) : List Char :=
  let n := c.toNat
  if c = q || c = '\\' then ['\\', c]
  else if c = '\t' then ['\\', 't']
  else if c = '\n' then ['\\', 'n']
  else if c = '\r' then ['\\', 'r']
  else if printable.contains c then [c]
  else if n ≤ 0xff then ['\\', 'x'] ++ hex 2 n
  else if n ≤ 0xffff then ['\\', 'u'] ++ hex 4 n
  else ['\\', 'U'] ++ hex 8 n

def quoted (s : String) : String :=
  let cs := s.toList
  let q := quoteFor cs
  String.ofList (q :: cs.flatMap (quotedChar q) ++ [q])

/-- Bytes in quotes: the ASCII ones as characters, the others by their values. -/
def quotedBytes (bytes : List UInt8) : String :=
  let cs := bytes.map fun b => Char.ofNat b.toNat
  let q := quoteFor cs
  let one (c : Char) : List Char :=
    if 0x7f ≤ c.toNat then ['\\', 'x'] ++ hex 2 c.toNat else quotedChar q c
  "b" ++ String.ofList (q :: cs.flatMap one ++ [q])

end FixTrial.Text
