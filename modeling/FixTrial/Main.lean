import FixTrial.Encoding.Dialogue
import FixTrial.Json.Reader

/-!
The command line. A session touches nothing outside itself: it reads its working directory as a line
of JSON from standard input, writes each command it needs as a line, reads what became of it as
another, and at the end writes how it ended and the files it leaves.
-/
namespace FixTrial.Main

def readJson (input : IO.FS.Stream) : IO Json := do
  match Json.read (← input.getLine) with
  | .ok j => return j
  | .error e => throw (IO.userError e.message)

partial def converse (input output : IO.FS.Stream) (args : List String) (runName : String)
    (files : Files) (replies : List Reply) : IO UInt32 := do
  let turn := Dialogue.turn args runName files replies
  output.putStrLn turn.toJson.compact
  output.flush
  match turn with
  | .ask .. =>
    let reply := Reply.ofJson (← readJson input)
    converse input output args runName files (replies ++ [reply])
  | .over (.ok ()) _ => return 0
  | .over (.error e) _ => return e.exitCode.toUInt32

end FixTrial.Main

def main (args : List String) : IO UInt32 := do
  let input ← IO.getStdin
  let place ← FixTrial.Main.readJson input
  let runName := (place.field "run").asText
  FixTrial.Main.converse input (← IO.getStdout) args runName (.ofJson place) []
