import FixTrial.Event
import FixTrial.Files
import FixTrial.Json.Printer
import FixTrial.Json.Shown
import FixTrial.Text.Blank
import FixTrial.Text.Lines

/-!
Journals: the entries of a run in their order. Each is a line of JSON in the run's folder, and an
echo of its main data where one is asked for; records of the run are files in the same folder.
-/
namespace FixTrial

structure Entry where
  kind : String
  data : List (String × Json)

structure Run where
  name : String
  folder : Path

namespace Run

def below (folder name : String) : Run := ⟨name, (Path.ofString folder).join (Path.ofString name)⟩

def recordPath (r : Run) (name extension : String) : Path :=
  r.folder.join (Path.ofString (name ++ "." ++ extension))

end Run

namespace Entry

def ofRecord (name : String) (path : Path) : Entry :=
  ⟨"file.write", [("name", .text name), ("path", .text path.text)]⟩

def ofEvent (r : Run) : Event → Entry
  | .recorded name _ => ofRecord name (r.recordPath name "json")
  | e => ⟨e.kind, e.data⟩

def line (run : String) (e : Entry) : String :=
  (Json.object [("run", .text run), ("kind", .text e.kind), ("data", .object e.data)]).compact

/-- The data that an echo shows, in this order. -/
def echoed : List String :=
  ["depth", "group", "size", "effect", "tag", "module", "mode", "builds", "applied", "error"]

def echoParts (e : Entry) : List String :=
  echoed.filterMap fun key => (e.data.lookup key).map fun v => key ++ "=" ++ v.plain ++ " "

/-- The lines of an echo, which a time stamp opens. -/
def echo (stamp : String) (e : Entry) : List String :=
  let text := Text.trim ("[" ++ stamp ++ "] " ++ e.kind ++ " " ++ String.join e.echoParts)
  (Text.lines (text ++ "\n").toList).map String.ofList

end Entry

namespace Journal

def counts (entries : List Entry) : List (String × Nat) :=
  (Keyed.distinct id (entries.map (·.kind))).map fun kind =>
    (kind, entries.countP fun e => e.kind = kind)

/-- Whether a setting of the environment asks for echoes. -/
def isEnabled (setting : String) : Bool :=
  ["1", "true", "yes", "on", "enable", "enabled"].contains (Text.lower (Text.trim setting))

/-- The last record that events wrote under a name. -/
def record? (events : List Event) (name : String) : Option Json :=
  events.reverse.findSome? fun
    | .recorded n content => if n = name then some content else none
    | _ => none

end Journal
end FixTrial
