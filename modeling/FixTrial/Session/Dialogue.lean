import FixTrial.Session.Basic

/-!
Sessions whose commands are run elsewhere. What is known of the commands so far is a list of replies;
a session that needs one more asks for it, and is run again from the start once the reply is there.
-/
namespace FixTrial

/-- What became of a command, and the files that it wrote. -/
structure Reply where
  outcome : Outcome
  written : List (String × Content)

def Reply.leave (r : Reply) (fs : Files) : Files :=
  r.written.foldl (fun fs (name, c) => fs.write (.ofString name) c) fs

/-- The replies still to be used, and the command that none was left for, with the files before
it. -/
structure Dialogue where
  replies : List Reply
  pending : Option (Command × Files)

inductive Turn
  /-- A command has to be run, in a place without some of the files that were there. -/
  | ask (command : Command) (removed : List String)
  | over (result : Except SessionError Unit) (s : Session Dialogue)

namespace Dialogue

/-- Answers each command by the next reply. After the last one nothing more is run. -/
def runner : Runner Dialogue := fun command host =>
  match host.rest.pending, host.rest.replies with
  | some _, _ => (.cannotStart "", host)
  | none, [] =>
    (.cannotStart "", { host with rest := ⟨[], some (command, host.files)⟩ })
  | none, r :: rest =>
    (r.outcome, ⟨r.leave host.files, ⟨rest, none⟩⟩)

/-- The files of `before` that are gone, by their paths. -/
def removed (before after : Files) : List String :=
  (before.files.filter fun f => (after.files.lookup f.1).isNone).map fun f => "/".intercalate f.1

/-- Runs the session of a command line as far as the replies go. -/
def turn (args : List String) (runName : String) (files : Files) (replies : List Reply) : Turn :=
  let start := Session.start ⟨files, ⟨replies, none⟩⟩
  let (result, s) : Except SessionError Unit × Session Dialogue :=
    match Session.run runner args runName start with
    | .ok () s => (.ok (), s)
    | .error e s => (.error e, s)
  match s.host.rest.pending with
  | some (command, here) =>
    .ask command (removed (replies.foldl (fun fs r => r.leave fs) files) here)
  | none => .over result s

end Dialogue

def Fault.message : Fault → String
  | .workspace e => e.message
  | .conflict c => c.message
  | .decode e => e.message
  | .undecodable e => e.message
  | .versionControl output => output
  | .truncatedHeader => "a patch names fewer than two files"
  | .notText => "a setting or patch is no text"
  | .wrongType => "a setting has the wrong type"
  | .openQuotation => Text.ShellError.openQuotation.message
  | .openEscape => Text.ShellError.openEscape.message
  | .system => "a file or folder is missing"
  | .measurement reason => reason

namespace SessionError

def message : SessionError → String
  | .usage _ => "usage: --out OUT [--config CONFIG] [--depth DEPTH] [--mode MODE] [--run-id RUN_ID]"
  | .config e => e.message
  | .mode (.unrecognized e) => e.message
  | .mode .notText => Fault.notText.message
  | .table e => e.message
  | .detector e => e.message
  | .fault f => f.message

def exitCode : SessionError → Nat
  | .usage e => e.exitCode
  | _ => 1

end SessionError
end FixTrial
