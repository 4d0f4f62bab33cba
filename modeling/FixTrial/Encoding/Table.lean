import FixTrial.Encoding.Decode

/-! Region tables read from JSON: an array of places, each with its impacted regions. -/
namespace FixTrial

inductive TableError
  | notJson (e : Json.ReadError)
  | shape
  | entryType
  | entry (e : DecodeError)

def TableError.message : TableError → String
  | .notJson e => e.message
  | .shape => "Region table must be a JSON array."
  | .entryType => "an entry is not an object with a list of regions"
  | .entry e => e.message

abbrev RegionTable := List (Place × List Region)

namespace RegionTable

/-- The entry of a place, its regions united with those that the place has already. -/
def add (table : RegionTable) (p : Place) (regions : List Region) : RegionTable :=
  match table with
  | [] => [(p, Keyed.distinct id regions)]
  | (q, rs) :: rest =>
    if q = p then (q, Keyed.union id rs regions) :: rest else (q, rs) :: add rest p regions

/-- The parts of a collection: the items of an array, the names of an object's fields, the
characters of a text. -/
def partsOf : Json → Except TableError (List Json)
  | .array items => .ok items
  | .object fields => .ok (fields.map fun f => .text f.1)
  | .text s => .ok (s.toList.map fun c => .text (String.ofList [c]))
  | _ => .error .entryType

def addEntry (table : RegionTable) (j : Json) : Except TableError RegionTable := do
  if j.fields?.isNone then throw .entryType
  let place ← (j.required "location").mapError .entry
  let location ← (Location.ofJson place).mapError .entry
  let parts ← partsOf ((j.get? "regions").getD (.array []))
  let regions ← (parts.mapM Region.ofJson).mapError .entry
  return table.add location.toPlace regions

def ofJson : Json → Except TableError RegionTable
  | .array entries => entries.foldlM addEntry []
  | _ => .error .shape

def parse (text : String) : Except TableError RegionTable :=
  match Json.read text with
  | .ok j => ofJson j
  | .error e => .error (.notJson e)

end RegionTable
end FixTrial
