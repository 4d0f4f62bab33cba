import FixTrial.Yaml.Error

/-! Dates, and times of day on them. -/
namespace FixTrial.Yaml

/-- A time of day: the fraction of the second in millionths, and the distance from universal time in
minutes if it is given. -/
structure Clock where
  hour : Nat
  minute : Nat
  second : Nat
  micro : Nat
  offset : Option Int

/-- A date with a time of day or without; `short` tells whether the month or the day has a single
digit. -/
structure Moment where
  year : Nat
  month : Nat
  day : Nat
  short : Bool
  clock : Option Clock

/-- A run of digits, of which there have to be from `low` to `high`: its value, their number, and
what follows. -/
def digitRun? (low high : Nat) (cs : List Char) : Option (Nat × Nat × List Char) :=
  let digits := (cs.take high).takeWhile Char.isDigit
  if digits.length < low then none
  else
    let n := digits.foldl (fun n c => 10 * n + (c.toNat - '0'.toNat)) 0
    some (n, digits.length, cs.drop digits.length)

def after? (mark : Char) : List Char → Option (List Char)
  | c :: rest => if c = mark then some rest else none
  | [] => none

def isMomentGap (c : Char) : Bool := c = ' ' || c = '\t'

/-- The distance from universal time; what is left has to be nothing. -/
def offset? (cs : List Char) : Option (Option Int) := do
  match cs.dropWhile isMomentGap with
  | [] => if cs.isEmpty then some none else none
  | ['Z'] => return some 0
  | sign :: rest =>
    if sign ≠ '-' && sign ≠ '+' then none
    else
      let (hours, _, rest) ← digitRun? 1 2 rest
      let (minutes, rest) ← match rest with
        | ':' :: rest => do
          let (minutes, _, rest) ← digitRun? 2 2 rest
          pure (minutes, rest)
        | rest => pure (0, rest)
      let total : Int := 60 * hours + minutes
      if rest.isEmpty then return some (if sign = '-' then -total else total) else none

/-- The millionths that a run of digits after the point stands for. -/
def millionths (digits : List Char) : Nat :=
  ((digits ++ List.replicate 6 '0').take 6).foldl (fun n c => 10 * n + (c.toNat - '0'.toNat)) 0

def clock? (cs : List Char) : Option Clock := do
  let (hour, _, rest) ← digitRun? 1 2 cs
  let (minute, _, rest) ← digitRun? 2 2 (← after? ':' rest)
  let (second, _, rest) ← digitRun? 2 2 (← after? ':' rest)
  let (micro, rest) := match rest with
    | '.' :: rest => (millionths (rest.takeWhile Char.isDigit), rest.dropWhile Char.isDigit)
    | rest => (0, rest)
  return ⟨hour, minute, second, micro, ← offset? rest⟩

def moment? (cs : List Char) : Option Moment := do
  let (year, _, rest) ← digitRun? 4 4 cs
  let (month, m, rest) ← digitRun? 1 2 (← after? '-' rest)
  let (day, d, rest) ← digitRun? 1 2 (← after? '-' rest)
  let date (clock : Option Clock) : Moment := ⟨year, month, day, m = 1 || d = 1, clock⟩
  match rest with
  | [] => return date none
  | c :: rest =>
    if c = 'T' || c = 't' then return date (some (← clock? rest))
    else if isMomentGap c then return date (some (← clock? (rest.dropWhile isMomentGap)))
    else none

/-- Whether a text without quotes is a moment: a date alone needs two digits for month and day. -/
def isMoment (cs : List Char) : Bool := (moment? cs).any fun m => m.clock.isSome || !m.short

def isLeap (year : Nat) : Bool := year % 4 = 0 && (year % 100 ≠ 0 || year % 400 = 0)

def daysIn (year month : Nat) : Nat :=
  if month = 2 then if isLeap year then 29 else 28
  else if [4, 6, 9, 11].contains month then 30
  else 31

def padded (width n : Nat) : String :=
  let s := toString n
  String.ofList (List.replicate (width - s.length) '0') ++ s

/-- What no calendar has about a moment. -/
def Moment.fault? (m : Moment) : Option TimeError :=
  let offset := (m.clock.bind (·.offset)).getD 0
  if 1440 ≤ offset || offset ≤ -1440 then some (.offset offset)
  else if m.year = 0 then some (.year m.year)
  else if m.month = 0 || 12 < m.month then some .month
  else if m.day = 0 || daysIn m.year m.month < m.day then some .day
  else
    m.clock.bind fun c =>
      if 23 < c.hour then some .hour
      else if 59 < c.minute then some .minute
      else if 59 < c.second then some .second
      else none

def shownOffset (minutes : Int) : String :=
  let n := minutes.natAbs
  (if minutes < 0 then "-" else "+") ++ padded 2 (n / 60) ++ ":" ++ padded 2 (n % 60)

def Clock.shown (c : Clock) : String :=
  " " ++ padded 2 c.hour ++ ":" ++ padded 2 c.minute ++ ":" ++ padded 2 c.second ++
    (if c.micro = 0 then "" else "." ++ padded 6 c.micro) ++
    (c.offset.map shownOffset).getD ""

def Moment.shown (m : Moment) : String :=
  padded 4 m.year ++ "-" ++ padded 2 m.month ++ "-" ++ padded 2 m.day ++
    (m.clock.map Clock.shown).getD ""

/-- A moment, from any text, as it is shown. -/
def momentOf (s : String) : Except Error String :=
  match moment? s.toList with
  | none => .error .noTime
  | some m =>
    match m.fault? with
    | some e => .error (.time e)
    | none => .ok m.shown

end FixTrial.Yaml
