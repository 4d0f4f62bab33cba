import FixTrial.Encoding.Script
import FixTrial.Session.Dialogue

/-! The lines that a session exchanges with the place where its commands are run. -/
namespace FixTrial

def Files.ofJson (j : Json) : Files :=
  let made := (j.field "dirs").texts.foldl (fun fs d => fs.makeFolder (.ofString d)) Files.empty
  (j.field "files").entries.foldl (fun fs (name, c) => fs.write (.ofString name) (.ofJson c)) made

def Reply.ofJson (j : Json) : Reply :=
  let outcome : Outcome := match PlannedBuild.ofJson j with
    | .timedOut => .timedOut
    | .cannotStart reason => .cannotStart reason
    | .finished _ code output errors => .finished code output errors
  ⟨outcome, (j.field "files").entries.map fun (name, c) => (name, .ofJson c)⟩

def Command.toJson (c : Command) : Json :=
  .object [("args", .ofTexts c.words), ("cwd", .text c.directory),
    ("input", (c.input.map Json.text).getD .null), ("timeout", c.limit)]

def Content.toJson : Content → Json
  | .text s => .text s
  | .bytes bs => .array (bs.map fun b => .int b.toNat)

namespace Turn

/-- The records that a session wrote into the folder of its run, and its journal. -/
def runFiles (s : Session Dialogue) : List (String × Json) :=
  match s.opened with
  | none => []
  | some run =>
    let records := s.journal.filterMap fun
      | .recorded name content =>
        some ((run.recordPath name "json").text, Json.text content.pretty)
      | _ => none
    let lines := s.entries.map fun e => e.line run.name ++ "\n"
    ((run.recordPath "events" "ndjson").text, .text (String.join lines)) :: records

/-- A command to run, or how the session ended: its exit code, what it has to say, the files that it
wrote, and the lines that it echoes. -/
def toJson : Turn → Json
  | .ask command removed => .object [("run", command.toJson), ("removed", .ofTexts removed)]
  | .over result s =>
    let (code, said) := match result with
      | .ok () => (0, Json.null)
      | .error e => (e.exitCode, .text e.message)
    let written := s.host.files.files.map fun (parts, c) => ("/".intercalate parts, c.toJson)
    .object [("exit", .int code), ("message", said), ("files", .object (written ++ runFiles s)),
      ("echo", .ofTexts (s.echo ""))]

end Turn
end FixTrial
