import FixTrial.Decimal.Reader
import FixTrial.Json.Basic
import FixTrial.Text.Digits
import FixTrial.Text.Hex

/-!
Reading JSON text. Beyond the standard the reader takes `NaN` and the two infinities; every refusal
says what was expected and at which character.
-/
namespace FixTrial.Json

inductive Cause
  | byteOrderMark
  | value
  | name
  | colon
  | comma
  | unterminated
  | badEscape
  | badCodeEscape
  | control
  | extra
deriving DecidableEq

def Cause.message : Cause → String
  | .byteOrderMark => "Unexpected UTF-8 BOM (decode using utf-8-sig)"
  | .value => "Expecting value"
  | .name => "Expecting property name enclosed in double quotes"
  | .colon => "Expecting ':' delimiter"
  | .comma => "Expecting ',' delimiter"
  | .unterminated => "Unterminated string starting at"
  | .badEscape => "Invalid \\escape"
  | .badCodeEscape => "Invalid \\uXXXX escape"
  | .control => "Invalid control character at"
  | .extra => "Extra data"

inductive ReadError
  /-- The text is not JSON, from the character at `position` on; `line` counts from one, and `column`
  from one within it. -/
  | malformed (cause : Cause) (line column position : Nat)
  | tooLong (digits : Nat)
  | tooDeep
deriving DecidableEq

def ReadError.message : ReadError → String
  | .malformed cause line column position =>
    s!"{cause.message}: line {line} column {column} (char {position})"
  | .tooLong digits => Text.tooLongMessage digits
  | .tooDeep => "maximum recursion depth exceeded"

/-- What is left to read, and how many characters came before it. -/
structure Cursor where
  rest : List Char
  position : Nat

/-- A refusal before its line is counted. -/
inductive Refusal
  | at (cause : Cause) (position : Nat)
  | tooLong (digits : Nat)
  | tooDeep

def isSpace (c : Char) : Bool := c = ' ' || c = '\t' || c = '\n' || c = '\r'

def skipSpaceFrom (position : Nat) : List Char → Cursor
  | [] => ⟨[], position⟩
  | c :: rest => if isSpace c then skipSpaceFrom (position + 1) rest else ⟨c :: rest, position⟩

def Cursor.skipSpace (c : Cursor) : Cursor := skipSpaceFrom c.position c.rest

def code? : List Char → Option (Nat × List Char)
  | a :: b :: c :: d :: rest => do
    let high := 16 * (← Text.hexValue? a) + (← Text.hexValue? b)
    let low := 16 * (← Text.hexValue? c) + (← Text.hexValue? d)
    return (256 * high + low, rest)
  | _ => none

def isHighSurrogate (n : Nat) : Bool := 0xd800 ≤ n && n < 0xdc00
def isLowSurrogate (n : Nat) : Bool := 0xdc00 ≤ n && n < 0xe000

/-- The character of a code; a surrogate without its partner is replaced. -/
def charOf (n : Nat) : Char :=
  if isHighSurrogate n || isLowSurrogate n then '\ufffd' else Char.ofNat n

/-- A second code escape that completes the surrogate pair opened by `high`: refused if it is no
escape at all, `none` if it completes nothing. A pair at the very end of the text is left open. -/
def pair? (high : Nat) : List Char → Option (Option (Nat × List Char))
  | '\\' :: 'u' :: rest =>
    if isHighSurrogate high && !(rest.drop 4).isEmpty then
      match code? rest with
      | none => none
      | some (low, rest) =>
        if isLowSurrogate low then
          some (some (0x10000 + 1024 * (high - 0xd800) + (low - 0xdc00), rest))
        else some none
    else some none
  | _ => some none

def simpleEscape? : Char → Option Char
  | '"' => some '"'
  | '\\' => some '\\'
  | '/' => some '/'
  | 'b' => some '\x08'
  | 'f' => some '\x0c'
  | 'n' => some '\n'
  | 'r' => some '\r'
  | 't' => some '\t'
  | _ => none

/-- The rest of a string that opened at `start`; `acc` holds what was read of it, last first. -/
def stringFrom (start : Nat) :
    Nat → List Char → Cursor → Except Refusal (String × Cursor)
  | 0, _, _ => .error (.at .unterminated start)
  | fuel + 1, acc, ⟨cs, p⟩ =>
    match cs with
    | [] => .error (.at .unterminated start)
    | '"' :: rest => .ok (String.ofList acc.reverse, ⟨rest, p + 1⟩)
    | '\\' :: [] => .error (.at .unterminated start)
    | '\\' :: 'u' :: rest =>
      if (rest.drop 4).isEmpty then .error (.at .badCodeEscape (p + 1))
      else
        match code? rest with
        | none => .error (.at .badCodeEscape (p + 1))
        | some (n, rest) =>
          match pair? n rest with
          | none => .error (.at .badCodeEscape (p + 7))
          | some (some (n, rest)) => stringFrom start fuel (charOf n :: acc) ⟨rest, p + 12⟩
          | some none => stringFrom start fuel (charOf n :: acc) ⟨rest, p + 6⟩
    | '\\' :: c :: rest =>
      match simpleEscape? c with
      | none => .error (.at .badEscape p)
      | some c => stringFrom start fuel (c :: acc) ⟨rest, p + 2⟩
    | c :: rest =>
      if c.toNat < 0x20 then .error (.at .control p)
      else stringFrom start fuel (c :: acc) ⟨rest, p + 1⟩

/-- The string whose opening quote stands just before the cursor. -/
def stringAt (c : Cursor) : Except Refusal (String × Cursor) :=
  stringFrom (c.position - 1) (c.rest.length + 1) [] c

def isDigit (c : Char) : Bool := '0' ≤ c && c ≤ '9'

def digitRun (cs : List Char) : List Char × List Char := (cs.takeWhile isDigit, cs.dropWhile isDigit)

def natOf (ds : List Char) : Nat := ds.foldl (fun n c => 10 * n + (c.toNat - '0'.toNat)) 0

/-- The digits after a point, if there are any. -/
def fraction? : List Char → Option (List Char × List Char)
  | '.' :: rest =>
    match digitRun rest with
    | ([], _) => none
    | (ds, rest) => some (ds, rest)
  | _ => none

/-- A power of ten, with the number of characters that it takes. -/
def exponent? : List Char → Option (Int × Nat × List Char)
  | e :: rest =>
    if e = 'e' || e = 'E' then
      let (negative, signLength, rest) :=
        match rest with
        | '-' :: r => (true, 1, r)
        | '+' :: r => (false, 1, r)
        | r => (false, 0, r)
      match digitRun rest with
      | ([], _) => none
      | (ds, rest) =>
        let n : Int := natOf ds
        some (if negative then -n else n, 1 + signLength + ds.length, rest)
    else none
  | [] => none

/-- The digits before the point: a zero alone, or a run that starts with no zero. -/
def wholePart? : List Char → Option (List Char × List Char)
  | '0' :: rest => some (['0'], rest)
  | cs =>
    match digitRun cs with
    | ([], _) => none
    | (ds, rest) => some (ds, rest)

/-- The number at the cursor, its sign already read. -/
def numberAt (start : Nat) (negative : Bool) (c : Cursor) : Except Refusal (Json × Cursor) :=
  match wholePart? c.rest with
  | none => .error (.at .value start)
  | some (whole, rest) =>
    let p := c.position + whole.length
    let (decimals, rest, p) :=
      match fraction? rest with
      | some (ds, r) => (ds, r, p + 1 + ds.length)
      | none => ([], rest, p)
    let (power, rest, p, isPower) :=
      match exponent? rest with
      | some (e, n, r) => (e, r, p + n, true)
      | none => (0, rest, p, false)
    if decimals.isEmpty && !isPower then
      if Text.digitLimit < whole.length then .error (.tooLong whole.length)
      else
        let n : Int := natOf whole
        .ok (.int (if negative then -n else n), ⟨rest, p⟩)
    else
      let x := Decimal.toFloat (natOf (whole ++ decimals)) (power - decimals.length)
      .ok (.float (if negative then -x else x), ⟨rest, p⟩)

def word? : List Char → Option (Json × Nat × List Char)
  | 'n' :: 'u' :: 'l' :: 'l' :: rest => some (.null, 4, rest)
  | 't' :: 'r' :: 'u' :: 'e' :: rest => some (.bool true, 4, rest)
  | 'f' :: 'a' :: 'l' :: 's' :: 'e' :: rest => some (.bool false, 5, rest)
  | 'N' :: 'a' :: 'N' :: rest => some (.float (0.0 / 0.0), 3, rest)
  | 'I' :: 'n' :: 'f' :: 'i' :: 'n' :: 'i' :: 't' :: 'y' :: rest =>
    some (.float (1.0 / 0.0), 8, rest)
  | '-' :: 'I' :: 'n' :: 'f' :: 'i' :: 'n' :: 'i' :: 't' :: 'y' :: rest =>
    some (.float (-1.0 / 0.0), 9, rest)
  | _ => none

def depthLimit : Nat := 990

mutual

def valueAt : Nat → Nat → Cursor → Except Refusal (Json × Cursor)
  | 0, _, c => .error (.at .value c.position)
  | fuel + 1, depth, c =>
    match c.rest with
    | [] => .error (.at .value c.position)
    | '"' :: rest => do
      let (s, c) ← stringAt ⟨rest, c.position + 1⟩
      return (.text s, c)
    | '\x7b' :: rest =>
      if depth = 0 then .error .tooDeep
      else
        let c := Cursor.skipSpace ⟨rest, c.position + 1⟩
        match c.rest with
        | '\x7d' :: rest => .ok (.object [], ⟨rest, c.position + 1⟩)
        | _ => fieldsAt fuel (depth - 1) [] c
    | '[' :: rest =>
      if depth = 0 then .error .tooDeep
      else
        let c := Cursor.skipSpace ⟨rest, c.position + 1⟩
        match c.rest with
        | ']' :: rest => .ok (.array [], ⟨rest, c.position + 1⟩)
        | _ => itemsAt fuel (depth - 1) [] c
    | cs =>
      match word? cs with
      | some (j, n, rest) => .ok (j, ⟨rest, c.position + n⟩)
      | none =>
        match cs with
        | '-' :: rest => numberAt c.position true ⟨rest, c.position + 1⟩
        | _ => numberAt c.position false c

/-- The items of an array from the cursor on, after those in `acc`, last first. -/
def itemsAt : Nat → Nat → List Json → Cursor → Except Refusal (Json × Cursor)
  | 0, _, _, c => .error (.at .value c.position)
  | fuel + 1, depth, acc, c => do
    let (j, c) ← valueAt fuel depth c
    let c := c.skipSpace
    match c.rest with
    | ']' :: rest => return (.array (j :: acc).reverse, ⟨rest, c.position + 1⟩)
    | ',' :: rest => itemsAt fuel depth (j :: acc) (Cursor.skipSpace ⟨rest, c.position + 1⟩)
    | _ => .error (.at .comma c.position)

/-- The fields of an object from the cursor on, after those in `acc`, last first. -/
def fieldsAt : Nat → Nat → List (String × Json) → Cursor → Except Refusal (Json × Cursor)
  | 0, _, _, c => .error (.at .name c.position)
  | fuel + 1, depth, acc, c =>
    match c.rest with
    | '"' :: rest => do
      let (k, c) ← stringAt ⟨rest, c.position + 1⟩
      let c := c.skipSpace
      match c.rest with
      | ':' :: rest =>
        let (j, c) ← valueAt fuel depth (Cursor.skipSpace ⟨rest, c.position + 1⟩)
        let c := c.skipSpace
        match c.rest with
        | '\x7d' :: rest => return (.ofFields ((k, j) :: acc).reverse, ⟨rest, c.position + 1⟩)
        | ',' :: rest =>
          fieldsAt fuel depth ((k, j) :: acc) (Cursor.skipSpace ⟨rest, c.position + 1⟩)
        | _ => .error (.at .comma c.position)
      | _ => .error (.at .colon c.position)
    | _ => .error (.at .name c.position)

end

def lineOf (before : List Char) : Nat := before.count '\n' + 1

def columnOf (before : List Char) : Nat := (before.reverse.takeWhile (· != '\n')).length + 1

def locate (cs : List Char) : Refusal → ReadError
  | .at cause position =>
    let before := cs.take position
    .malformed cause (lineOf before) (columnOf before) position
  | .tooLong digits => .tooLong digits
  | .tooDeep => .tooDeep

def readChars (cs : List Char) : Except Refusal Json :=
  if cs.head? = some '\ufeff' then .error (.at .byteOrderMark 0)
  else do
    let (j, c) ← valueAt (2 * cs.length + 2) depthLimit (Cursor.skipSpace ⟨cs, 0⟩)
    let c := c.skipSpace
    if c.rest.isEmpty then return j else .error (.at .extra c.position)

def read (s : String) : Except ReadError Json :=
  (readChars s.toList).mapError (locate s.toList)

end FixTrial.Json
