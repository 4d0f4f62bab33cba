import FixTrial.Text.Hex
import FixTrial.Text.Utf8
import FixTrial.Yaml.Place
import FixTrial.Yaml.Token

/-! Anchors, tags and directives. -/
namespace FixTrial.Yaml.Reading

def isNameChar (c : Char) : Bool := c.isAlphanum || c = '-' || c = '_'

/-- The name of an anchor, after the mark before it. -/
def anchorName : Reading String := do
  skip 1
  let name ← span isNameChar
  require (!name.isEmpty)
  let after ← next
  require (endsWord after || after.any "?:,]\x7d%@`".toList.contains)
  return String.ofList name

def isUriChar (c : Char) : Bool :=
  c.isAlphanum || "-;/?:@&=+$,_.!~*'()[]%".toList.contains c

/-- The bytes of a run of percent signs with two digits each, and what follows it. -/
def percentBytes : List Char → Option (List UInt8 × List Char)
  | ['%'] | ['%', _] => none
  | '%' :: a :: b :: rest => do
    let byte := 16 * (← Text.hexValue? a) + (← Text.hexValue? b)
    let (bs, rest) ← percentBytes rest
    return (UInt8.ofNat byte :: bs, rest)
  | cs => some ([], cs)

def tagTextFrom : Nat → List Char → Option (List Char)
  | 0, _ => none
  | _, [] => some []
  | fuel + 1, c :: rest =>
    if c = '%' then do
      let (bs, rest) ← percentBytes (c :: rest)
      let s ← (Text.decodeUtf8 bs).toOption
      return s.toList ++ (← tagTextFrom fuel rest)
    else (tagTextFrom fuel rest).map (c :: ·)

/-- The text of a tag, in which percent signs stand for bytes. -/
def tagText : Reading String := do
  let cs ← span isUriChar
  require (!cs.isEmpty)
  match tagTextFrom (cs.length + 1) cs with
  | some read => return String.ofList read
  | none => throw .malformed

/-- The short form of a tag: an exclamation mark, or a name between two of them. -/
def tagHandle : Reading String := do
  require ((← take? (· = '!')).isSome)
  if (← next) = some ' ' then return "!"
  let name ← span isNameChar
  require ((← take? (· = '!')).isSome)
  return "!" ++ String.ofList name ++ "!"

def tag : Reading Token := do
  let after := (← get).rest.drop 1
  let t ← if after.head? = some '<' then do
      skip 2
      let text ← tagText
      require ((← take? (· = '>')).isSome)
      pure (.tag none text)
    else if endsWord after.head? then do
      skip 1
      pure (.tag none "!")
    else do
      let word := after.takeWhile fun c => c ≠ ' ' && !isBreak c
      let short ← if word.contains '!' then tagHandle else do
        skip 1
        pure "!"
      pure (.tag (some short) (← tagText))
  require ((← next).all fun c => c = ' ' || isBreak c)
  return t

def versionPart : Reading Nat := do
  let digits ← span Char.isDigit
  require (!digits.isEmpty)
  return digits.foldl (fun n c => 10 * n + (c.toNat - '0'.toNat)) 0

def directive : Reading Directive := do
  skip 1
  let name ← span isNameChar
  require (!name.isEmpty)
  let ends : Reading Unit := do require ((← next).all fun c => c = ' ' || isBreak c)
  ends
  let d ← if name = "YAML".toList then do
      let _ ← span (· = ' ')
      let major ← versionPart
      require ((← take? (· = '.')).isSome)
      let _ ← versionPart
      ends
      pure (.version major)
    else if name = "TAG".toList then do
      let _ ← span (· = ' ')
      let short ← tagHandle
      require ((← next) = some ' ')
      let _ ← span (· = ' ')
      let full ← tagText
      ends
      pure (.handle short full)
    else do
      let _ ← span fun c => !isBreak c
      pure .unknown
  restOfLine
  return d

end FixTrial.Yaml.Reading
