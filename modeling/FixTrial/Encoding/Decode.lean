import FixTrial.Json.Reader
import FixTrial.Json.Shown
import FixTrial.Report

/-! Regions, locations, fixes and diagnostics read from JSON. -/
namespace FixTrial

/-- What a JSON value lacks to be one of ours; offending values are given as messages show them. -/
inductive DecodeError
  | regionShape
  | locationShape
  | locationKind (shown : String)
  | locationIndex (shown : String)
  | fixShape
  | origin (shown : String)
  | status (shown : String)
  | notIterable (typeName : String)
  | diagnosticShape
  | diagnosticFixes
  | missing (field : String)
  | outputShape
  | notJson (cause : Json.ReadError)
deriving DecidableEq

def DecodeError.message : DecodeError → String
  | .regionShape => "Region must be a JSON object with a 'type' field."
  | .locationShape => "Location must be a JSON object."
  | .locationKind shown =>
    s!"Location kind must be one of ['method', 'parameter', 'field'], got {shown}."
  | .locationIndex shown => s!"Location index must be an integer, got {shown}."
  | .fixShape => "Fix must be a JSON object."
  | .origin shown => s!"{shown} is not a valid Origin"
  | .status shown => s!"{shown} is not a valid Status"
  | .notIterable typeName => s!"'{typeName}' object is not iterable"
  | .diagnosticShape => "Each diagnostic must be a JSON object."
  | .diagnosticFixes => "Diagnostic 'fixes' must be a list."
  | .missing field => Text.quoted field
  | .outputShape => "Checker output must be a JSON array of diagnostics."
  | .notJson (.malformed cause line column position) =>
    "Checker returned non-JSON output: "
      ++ (Json.ReadError.malformed cause line column position).message
  | .notJson cause => cause.message

abbrev Decoded (α : Type) := Except DecodeError α

namespace Json

def fields? : Json → Option (List (String × Json))
  | .object fields => some fields
  | _ => none

def required (key : String) (j : Json) : Decoded Json :=
  match j.get? key with
  | some v => .ok v
  | none => .error (.missing key)

/-- A field as text, `default` if it is absent. -/
def plainField (key default : String) (j : Json) : String :=
  match j.get? key with
  | some v => v.plain
  | none => default

/-- What a value holds, item by item: the items of an array, the characters of a text, the names of
an object's fields. -/
def itemTexts : Json → Decoded (List String)
  | .array items => .ok (items.map plain)
  | .text s => .ok (s.toList.map fun c => String.ofList [c])
  | .object fields => .ok (fields.map (·.1))
  | j => .error (.notIterable j.typeName)

end Json

/-- A region; a member that is absent, null, false, zero or empty stands for the type itself. -/
def Region.ofJson (j : Json) : Decoded Region :=
  match j.get? "type" with
  | none => .error .regionShape
  | some type =>
    let member :=
      match j.get? "member" with
      | some m => if m.isTruthy then m.plain else ""
      | none => ""
    .ok ⟨type.plain, member⟩

def ElementKind.ofJson (j : Json) : Decoded ElementKind :=
  let named? := match j with
    | .text s => ElementKind.ofName? s
    | _ => none
  match named? with
  | some kind => .ok kind
  | none => .error (.locationKind j.shown)

def Location.ofJson (j : Json) : Decoded Location := do
  if j.fields?.isNone then throw .locationShape
  let kind ← ElementKind.ofJson ((j.get? "kind").getD .null)
  let index ← match j.get? "index" with
    | none => pure (-1)
    | some (.int n) => pure n
    | some v => throw (.locationIndex v.shown)
  let type ← j.required "type"
  return { kind, typeName := type.plain, member := j.plainField "member" "", index
           path := j.plainField "path" "" }

def Origin.ofJson (j : Json) : Decoded Origin :=
  let named? := match j with
    | .text s => Origin.ofName? s
    | _ => none
  match named? with
  | some origin => .ok origin
  | none => .error (.origin j.shown)

def Status.ofJson (j : Json) : Decoded Status :=
  let named? := match j with
    | .text s => Status.ofName? s
    | _ => none
  match named? with
  | some status => .ok status
  | none => .error (.status j.shown)

/-- The reasons given for a fix: a collection, or in its absence a single one. -/
def reasonsOf (j : Json) : Json :=
  match (j.get? "reasons").getD .null with
  | .null =>
    match j.get? "reason" with
    | some reason => .array (if reason.isTruthy then [reason] else [])
    | none => .array []
  | reasons => reasons

def Json.nonNull? : Json → Option Json
  | .null => none
  | j => some j

def Fix.ofJson (j : Json) : Decoded Fix := do
  if j.fields?.isNone then throw .fixShape
  let origin ← Origin.ofJson ((j.get? "origin").getD (.text "target"))
  let location ← Location.ofJson (← j.required "location")
  let mark ← j.required "annotation"
  let reasons ← (reasonsOf j).itemTexts
  return { location, mark := mark.plain, reasons := Keyed.distinct id reasons, origin
           patch := (j.get? "patch").bind Json.nonNull? }

def Diagnostic.ofJson (j : Json) : Decoded Diagnostic := do
  if j.fields?.isNone then throw .diagnosticShape
  match (j.get? "fixes").getD (.array []) with
  | .array fixes =>
    let region ← Region.ofJson (← j.required "region")
    return { kind := j.plainField "kind" "", message := j.plainField "message" "", region
             fixes := Fix.dedupe (← fixes.mapM Fix.ofJson) }
  | _ => throw .diagnosticFixes

namespace Diagnostic

/-- The diagnostics of a checker's output: an array of them, or an object that holds one under
`diagnostics`. -/
def listOfJson (j : Json) : Decoded (List Diagnostic) :=
  let listed :=
    match j with
    | .object _ => (j.get? "diagnostics").getD (.array [])
    | _ => j
  match listed with
  | .array ds => ds.mapM ofJson
  | _ => .error .outputShape

/-- The diagnostics that a checker wrote; no output at all means none. -/
def parse (text : String) : Decoded (List Diagnostic) :=
  if text.isEmpty then .ok []
  else
    match Json.read text with
    | .ok j => listOfJson j
    | .error e => .error (.notJson e)

end Diagnostic
end FixTrial
