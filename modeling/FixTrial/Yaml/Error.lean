import FixTrial.Text.Digits
import FixTrial.Text.Quoted

/-! What can be wrong with a YAML document. -/
namespace FixTrial.Yaml

/-- A time that no calendar has. -/
inductive TimeError
  | year (n : Nat)
  | month
  | day
  | hour
  | minute
  | second
  /-- A distance from universal time of a day or more, in minutes. -/
  | offset (minutes : Int)
deriving DecidableEq

/-- How far a length of time is shown: its days, and its seconds if it has some. -/
def shownMinutes (minutes : Int) : String :=
  let days := minutes.fdiv 1440
  let seconds := minutes.fmod 1440 * 60
  let parts := (if days = 0 then [] else [s!"days={days}"]) ++
    (if seconds = 0 then [] else [s!"seconds={seconds}"])
  if parts.isEmpty then "datetime.timedelta(0)"
  else "datetime.timedelta(" ++ ", ".intercalate parts ++ ")"

def TimeError.message : TimeError → String
  | .year n => s!"year {n} is out of range"
  | .month => "month must be in 1..12"
  | .day => "day is out of range for month"
  | .hour => "hour must be in 0..23"
  | .minute => "minute must be in 0..59"
  | .second => "second must be in 0..59"
  | .offset minutes =>
    "offset must be a timedelta strictly between -timedelta(hours=24) and timedelta(hours=24), " ++
      s!"not {shownMinutes minutes}."

inductive Error
  /-- Not a YAML document, or one with tags that are not known. -/
  | malformed
  /-- An escape names a code point beyond the last one. -/
  | codePoint
  /-- A whole number in a base was announced, but something else follows, shown in quotes. -/
  | wholeNumber (base : Nat) (quoted : String)
  | tooLong (digits : Nat)
  /-- A number was announced, but something else follows. -/
  | number (text : String)
  /-- A number was announced, but nothing follows. -/
  | noNumber
  /-- A truth value was announced, but the word is none. -/
  | truthValue (word : String)
  | time (e : TimeError)
  /-- A time was announced, but something else follows. -/
  | noTime
deriving DecidableEq

/-- How much of a text that is no whole number is shown. -/
def shownLength : Nat := 200

/-- What is said of an error; nothing of those that go by their kind alone. -/
def Error.message : Error → String
  | .malformed | .noNumber | .noTime => ""
  | .codePoint => "chr() arg not in range(0x110000)"
  | .wholeNumber base quoted =>
    s!"invalid literal for int() with base {base}: " ++
      String.ofList (quoted.toList.take shownLength)
  | .tooLong digits => Text.tooLongMessage digits
  | .number s => s!"could not convert string to float: {Text.quoted s}"
  | .truthValue word => Text.quoted word
  | .time e => e.message

end FixTrial.Yaml
