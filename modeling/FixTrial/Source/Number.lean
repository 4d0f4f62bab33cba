import FixTrial.Text.Digits

/-! Number literals of Python source. -/
namespace FixTrial.Source

inductive NumberKind
  | real
  | imaginary
deriving DecidableEq

/-- Whether a character may stand in an identifier, as far as ASCII tells. -/
def isWordChar (c : Char) : Bool := c.isAlphanum || c = '_' || 128 ≤ c.toNat

def isHexDigit (c : Char) : Bool := c.isDigit || ('a' ≤ c && c ≤ 'f') || ('A' ≤ c && c ≤ 'F')
def isOctalDigit (c : Char) : Bool := '0' ≤ c && c ≤ '7'
def isBinaryDigit (c : Char) : Bool := c = '0' || c = '1'

/-- What follows the rest of a run of digits, in which one underscore may precede a digit. -/
def afterDigits (isDigit : Char → Bool) : List Char → Option (List Char)
  | [] => some []
  | ['_'] => none
  | '_' :: c :: rest => if isDigit c then afterDigits isDigit rest else none
  | c :: rest => if isDigit c then afterDigits isDigit rest else some (c :: rest)

/-- The keywords that may follow a number with no blank between. -/
def numberFollowers : List String := ["and", "else", "for", "or", "not"]

def mayEndNumber (cs : List Char) : Bool :=
  match cs with
  | [] => true
  | 'i' :: c :: _ => c = 'f' || c = 'n' || c = 's'
  | c :: _ =>
    !isWordChar c || numberFollowers.any fun w =>
      w.toList.isPrefixOf cs && !((cs.drop w.length).head?.any isWordChar)

/-- The end of a number, which an imaginary unit may close. -/
def endNumber (kind : NumberKind) (cs : List Char) : Option (NumberKind × List Char) :=
  if mayEndNumber cs then some (kind, cs) else none

def isUnit (c : Char) : Bool := c = 'j' || c = 'J'

def exponentPart (cs : List Char) : Option (NumberKind × List Char) :=
  let close (cs : List Char) : Option (NumberKind × List Char) :=
    match cs with
    | c :: rest => if isUnit c then endNumber .imaginary rest else endNumber .real cs
    | [] => some (.real, [])
  match cs with
  | e :: sign :: c :: rest =>
    if e = 'e' || e = 'E' then
      if sign.isDigit then (afterDigits Char.isDigit (c :: rest)).bind close
      else if sign = '+' || sign = '-' then
        if c.isDigit then (afterDigits Char.isDigit rest).bind close else none
      else endNumber .real cs
    else close cs
  | _ => close cs

def fractionPart (cs : List Char) : Option (NumberKind × List Char) :=
  match cs with
  | c :: rest =>
    if c.isDigit then (afterDigits Char.isDigit rest).bind exponentPart else exponentPart cs
  | [] => some (.real, [])

/-- Digits to a base other than ten, each run of which an underscore may precede. -/
def basedNumber (isDigit : Char → Bool) (cs : List Char) : Option (NumberKind × List Char) :=
  let digits := match cs with
    | '_' :: rest => rest
    | _ => cs
  match digits with
  | c :: rest =>
    if isDigit c then do
      let rest ← afterDigits isDigit rest
      if rest.head?.any Char.isDigit then none else endNumber .real rest
    else none
  | [] => none

/-- Whether the digits of a whole number are all zero, or the first is not. -/
def noLeadingZero (digits : List Char) : Bool :=
  digits.head? ≠ some '0' || digits.all fun c => c = '0' || c = '_'

/-- A number in decimal digits. One that is written with leading zeros has to have a point, an
exponent or a unit. -/
def decimalNumber (cs : List Char) : Option (NumberKind × List Char) := do
  let rest ← afterDigits Char.isDigit cs
  let digits := cs.take (cs.length - rest.length)
  match rest with
  | '.' :: fraction => fractionPart fraction
  | c :: _ =>
    if c = 'e' || c = 'E' || isUnit c then
      let result ← exponentPart rest
      if result.2.length < rest.length || noLeadingZero digits then some result else none
    else wholeNumber digits rest
  | [] => wholeNumber digits rest
where
  wholeNumber (digits rest : List Char) : Option (NumberKind × List Char) :=
    if noLeadingZero digits && Text.digitCount digits ≤ Text.digitLimit then endNumber .real rest
    else none

/-- The number at the start of a text that begins with a digit, and what follows it. -/
def number (cs : List Char) : Option (NumberKind × List Char) :=
  match cs with
  | '0' :: base :: rest =>
    if base = 'x' || base = 'X' then basedNumber isHexDigit rest
    else if base = 'o' || base = 'O' then basedNumber isOctalDigit rest
    else if base = 'b' || base = 'B' then basedNumber isBinaryDigit rest
    else decimalNumber cs
  | _ => decimalNumber cs

end FixTrial.Source
