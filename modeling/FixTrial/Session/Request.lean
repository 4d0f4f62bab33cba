import FixTrial.Text.Digits

/-!
What the command line asks for. Options may be shortened as long as only one fits, and a value may
follow its option or an equals sign.
-/
namespace FixTrial

/-- A session that is asked for: where its reports go, the file with its configuration, what
overrides that, and the name of its run. -/
structure Request where
  out : String
  config : Option String
  depth : Option Int
  mode : Option String
  runName : Option String

namespace Request

inductive UsageError
  | help
  | malformed
deriving DecidableEq

def UsageError.exitCode : UsageError → Nat
  | .help => 0
  | .malformed => 2

inductive Flag
  | help | out | config | depth | mode | runName
deriving DecidableEq

def flags : List (String × Flag) :=
  [("-h", .help), ("--help", .help), ("--out", .out), ("--config", .config), ("--depth", .depth),
    ("--mode", .mode), ("--run-id", .runName)]

inductive Argument
  | flag (f : Flag) (value : Option String)
  | word (s : String)
  /-- What looks like an option and is none. -/
  | unknown
  /-- The sign that only words follow. -/
  | divider

/-- A text before its first equals sign, and what follows that. -/
def cutAtEquals (s : String) : String × Option String :=
  let cs := s.toList
  let name := String.ofList (cs.takeWhile (· ≠ '='))
  (name, (cs.dropWhile (· ≠ '=')).tail?.map String.ofList)

/-- Whether a text is a minus sign and a number in decimal digits, with a point or not. -/
def isNegativeNumber (cs : List Char) : Bool :=
  let isDigits (cs : List Char) : Bool :=
    !cs.isEmpty && cs.all fun c => (Text.digitValue? c).isSome
  match cs with
  | '-' :: rest =>
    match rest.dropWhile fun c => (Text.digitValue? c).isSome with
    | [] => isDigits rest
    | '.' :: fraction => isDigits fraction
    | _ => false
  | _ => false

/-- The options that a text with two dashes may be short for. -/
def candidates (name : String) : List Flag :=
  (flags.filter fun (full, _) => name.toList.isPrefixOf full.toList).map (·.2)

/-- A single dash and letters: those after the letter for help do not count. -/
def ofShort (s : String) (letter : Char) : Argument :=
  if letter = 'h' then .flag .help none
  else if isNegativeNumber s.toList || s.toList.contains ' ' then .word s
  else .unknown

def argument (s : String) : Except UsageError Argument :=
  match s.toList with
  | '-' :: c :: _ =>
    let (name, value) := cutAtEquals s
    match flags.lookup s, flags.lookup name with
    | some f, _ => .ok (.flag f none)
    | none, some f => .ok (.flag f value)
    | none, none =>
      if c = '-' then
        match candidates name with
        | [] => .ok (if s.toList.contains ' ' then .word s else .unknown)
        | [f] => .ok (.flag f value)
        | _ => .error .malformed
      else .ok (ofShort s c)
  | _ => .ok (.word s)

def arguments : List String → Except UsageError (List Argument)
  | [] => .ok []
  | s :: rest =>
    if s = "--" then .ok (.divider :: rest.map .word)
    else do return (← argument s) :: (← arguments rest)

/-- What has been asked for so far, and whether anything was said that has no meaning. -/
structure Partial where
  out : Option String
  config : Option String
  depth : Option Int
  mode : Option String
  runName : Option String
  stray : Bool

def Partial.set (p : Partial) (f : Flag) (value : String) : Except UsageError Partial :=
  match f with
  | .help => .error .malformed
  | .out => .ok { p with out := some value }
  | .config => .ok { p with config := some value }
  | .mode => .ok { p with mode := some value }
  | .runName => .ok { p with runName := some value }
  | .depth =>
    match Text.integer? value with
    | some n =>
      if Text.digitLimit < Text.digitCount value.toList then .error .malformed
      else .ok { p with depth := some n }
    | none => .error .malformed

def gather (p : Partial) : List Argument → Except UsageError Partial
  | [] => .ok p
  | .flag f (some value) :: rest => do gather (← p.set f value) rest
  | .flag .help none :: _ => .error .help
  | .flag f none :: .word value :: rest => do gather (← p.set f value) rest
  | .flag _ none :: _ => .error .malformed
  | _ :: rest => gather { p with stray := true } rest

/-- The request of a command line. Only where the reports go has to be said. -/
def ofArguments (args : List String) : Except UsageError Request := do
  let p ← gather ⟨none, none, none, none, none, false⟩ (← arguments args)
  match p.out with
  | some out =>
    if p.stray then throw .malformed else return ⟨out, p.config, p.depth, p.mode, p.runName⟩
  | none => throw .malformed

end Request
end FixTrial
