/-! Lines of text. -/
namespace FixTrial.Text

/-- The characters that end a line: line feed, vertical tab, form feed, carriage return, the file,
group and record separators, next line, and the line and paragraph separators. -/
def isLineBreak (c : Char) : Bool :=
  let n := c.toNat
  (0x0a ≤ n && n ≤ 0x0d) || (0x1c ≤ n && n ≤ 0x1e) || n == 0x85 || n == 0x2028 || n == 0x2029

/-- Cut at every line break, a carriage return and the line feed after it counting as one; `line`
holds the line being read, last character first. Nothing follows the last break. -/
def linesFrom (line : List Char) : List Char → List (List Char)
  | [] => if line.isEmpty then [] else [line.reverse]
  | '\r' :: '\n' :: rest => line.reverse :: linesFrom [] rest
  | c :: rest =>
    if isLineBreak c then line.reverse :: linesFrom [] rest else linesFrom (c :: line) rest

def lines (cs : List Char) : List (List Char) := linesFrom [] cs

/-- A carriage return, with or without a line feed after it, read as a line feed. -/
def unifyNewlines : List Char → List Char
  | [] => []
  | '\r' :: '\n' :: rest => '\n' :: unifyNewlines rest
  | c :: rest => (if c = '\r' then '\n' else c) :: unifyNewlines rest

/-- Cut at line feeds only; `line` holds the piece being read, last character first. -/
def feedLinesFrom (line : List Char) : List Char → List (List Char)
  | [] => [line.reverse]
  | c :: rest =>
    if c = '\n' then line.reverse :: feedLinesFrom [] rest else feedLinesFrom (c :: line) rest

def feedLines (cs : List Char) : List (List Char) := feedLinesFrom [] cs

end FixTrial.Text
