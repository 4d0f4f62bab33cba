import FixTrial.Decimal.Reader
import FixTrial.Text.Hex
import FixTrial.Yaml.Error

/-! Numbers of YAML: whole ones in four bases or in parts of sixty, and doubles. -/
namespace FixTrial.Yaml

def isSign (c : Char) : Bool := c = '-' || c = '+'

def dropSign (cs : List Char) : List Char := if cs.head?.any isSign then cs.drop 1 else cs

def isDigitOrGap (c : Char) : Bool := c.isDigit || c = '_'

/-- Whether `cs` is not empty and all of it satisfies `f`. -/
def isRun (f : Char → Bool) (cs : List Char) : Bool := !cs.isEmpty && cs.all f

/-- Whether a text is one or more parts of a sixty, each after a colon. -/
def isSixtieths : List Char → Bool
  | [':', a] => a.isDigit
  | ':' :: a :: ':' :: rest => a.isDigit && isSixtieths (':' :: rest)
  | [':', a, b] => '0' ≤ a && a ≤ '5' && b.isDigit
  | ':' :: a :: b :: ':' :: rest =>
    '0' ≤ a && a ≤ '5' && b.isDigit && isSixtieths (':' :: rest)
  | _ => false

def isWhole (cs : List Char) : Bool :=
  let cs := dropSign cs
  let hexOrGap (c : Char) : Bool := (Text.hexValue? c).isSome || c = '_'
  match cs with
  | '0' :: 'b' :: rest => isRun (fun c => c = '0' || c = '1' || c = '_') rest
  | '0' :: 'x' :: rest => isRun hexOrGap rest
  | '0' :: rest => rest.all fun c => ('0' ≤ c && c ≤ '7') || c = '_'
  | c :: rest =>
    c.isDigit && (rest.all isDigitOrGap || isSixtieths (rest.dropWhile isDigitOrGap))
  | [] => false

/-- Whether a text is empty or a power of ten, whose sign is needed. -/
def isPower : List Char → Bool
  | [] => true
  | e :: sign :: rest => (e = 'e' || e = 'E') && isSign sign && isRun Char.isDigit rest
  | _ => false

/-- Whether a text without quotes is a double. It needs a point. -/
def isFloat (cs : List Char) : Bool :=
  let unsigned := dropSign cs
  let afterGap (cs : List Char) : List Char := cs.dropWhile isDigitOrGap
  match unsigned with
  | '.' :: c :: rest =>
    (c.isDigit && cs.head? = some '.' && isPower (afterGap rest)) ||
      ["inf", "Inf", "INF"].contains (String.ofList (c :: rest)) ||
      (cs.head? = some '.' && ["nan", "NaN", "NAN"].contains (String.ofList (c :: rest)))
  | c :: rest =>
    c.isDigit &&
      match afterGap rest with
      | '.' :: rest => isPower (afterGap rest)
      | rest =>
        isSixtieths (rest.takeWhile (· ≠ '.')) &&
          match rest.dropWhile (· ≠ '.') with
          | '.' :: rest => rest.all isDigitOrGap
          | _ => false
  | [] => false

/-- The value of a run of digits in a base up to sixteen. -/
def inBase? (base : Nat) (cs : List Char) : Option Nat :=
  if cs.isEmpty then none
  else
    cs.foldlM (fun n c =>
      match Text.hexValue? c with
      | some d => if d < base then some (base * n + d) else none
      | none => none) 0

/-- A whole number in decimal digits, which an error shows as `quoted`. Its digits are counted up to
what is none, so that there may be too many of them also where something else follows. -/
def decimalShown (quoted : String) (cs : List Char) : Except Error Int :=
  let run := Text.digitRun cs
  let digits := Text.digitCount run
  if (Text.natural? run).isSome && Text.digitLimit < digits then .error (.tooLong digits)
  else
    match Text.integer? (String.ofList cs) with
    | none => .error (.wholeNumber 10 quoted)
    | some n => .ok n

def decimal (cs : List Char) : Except Error Int :=
  decimalShown (Text.quoted (String.ofList cs)) cs

/-- A whole number in the ASCII digits that bytes stand for. -/
def decimalOfBytes (bs : List UInt8) : Except Error Int :=
  decimalShown (Text.quotedBytes bs)
    (bs.map fun b => if b < 128 then Char.ofNat b.toNat else '?')

def radix (base : Nat) (shown cs : List Char) : Except Error Int :=
  match inBase? base cs with
  | some n => .ok n
  | none => .error (.wholeNumber base (Text.quoted (String.ofList shown)))

def colonParts (cs : List Char) : List (List Char) := cs.splitOn ':'

def wholeOf (s : String) : Except Error Int := do
  let cs := s.toList.filter (· ≠ '_')
  if cs.isEmpty then throw .noNumber
  let sign : Int := if cs.head? = some '-' then -1 else 1
  let n ← match dropSign cs with
    | [] => throw .noNumber
    | ['0'] => pure 0
    | '0' :: 'b' :: rest => radix 2 rest rest
    | '0' :: 'x' :: rest => radix 16 rest rest
    | '0' :: rest => radix 8 ('0' :: rest) (if rest.head? = some 'o' then rest.drop 1 else rest)
    | rest =>
      if rest.contains ':' then do
        let parts ← (colonParts rest).mapM decimal
        pure (parts.foldl (fun n part => 60 * n + part) 0)
      else decimal rest
  return sign * n

/-- A double in decimal digits, with a power of ten or not. -/
def unsignedFloat? (cs : List Char) : Option Float :=
  let digits := cs.takeWhile Char.isDigit
  let rest := cs.dropWhile Char.isDigit
  let (fraction, rest) := match rest with
    | '.' :: rest => (rest.takeWhile Char.isDigit, rest.dropWhile Char.isDigit)
    | _ => ([], rest)
  let power := match rest with
    | [] => some 0
    | 'e' :: rest =>
      if isRun Char.isDigit (dropSign rest) then Text.integer? (String.ofList rest) else none
    | _ => none
  if digits.isEmpty && fraction.isEmpty then none
  else do
    let mantissa ← inBase? 10 (digits ++ fraction)
    return Decimal.toFloat mantissa ((← power) - fraction.length)

/-- A double, with a sign or not, or the name of one that is not finite. -/
def float? (cs : List Char) : Option Float :=
  let sign : Float := if cs.head? = some '-' then -1.0 else 1.0
  let rest := dropSign cs
  let word := String.ofList rest
  if word = "inf" || word = "infinity" then some (sign * (1.0 / 0.0))
  else if word = "nan" then some (0.0 / 0.0)
  else (unsignedFloat? rest).map (sign * ·)

def decimalFloat (cs : List Char) : Except Error Float :=
  match float? (Text.trimChars Text.isBlank cs) with
  | some x => .ok x
  | none => .error (.number (String.ofList cs))

def floatOf (s : String) : Except Error Float := do
  let cs := (s.toList.filter (· ≠ '_')).map Char.toLower
  if cs.isEmpty then throw .noNumber
  let sign : Float := if cs.head? = some '-' then -1.0 else 1.0
  let rest := dropSign cs
  if rest = ".inf".toList then return sign * (1.0 / 0.0)
  if rest = ".nan".toList then return 0.0 / 0.0
  if rest.contains ':' then
    let parts ← (colonParts rest).mapM decimalFloat
    let sum := parts.reverse.foldl (fun (x, base) part => (x + part * base, base * 60.0)) (0.0, 1.0)
    return sign * sum.1
  return sign * (← decimalFloat rest)

end FixTrial.Yaml
