import FixTrial.Config.Reader
import FixTrial.Encoding.Table
import FixTrial.Exploration.Deep
import FixTrial.Exploration.Indexed
import FixTrial.Journal
import FixTrial.Program.Scan
import FixTrial.Session.Request
import FixTrial.Workspace.Build
import FixTrial.Workspace.Repository

/-!
Sessions: a request is read, its configuration is loaded, the workspace it names is explored, and the
reports are written. The working tree is compared before and after, since all edits should have been
taken back.
-/
namespace FixTrial

inductive SessionError
  | usage (e : Request.UsageError)
  | config (e : Config.LoadError)
  | mode (e : Config.ModeError)
  | table (e : TableError)
  | detector (e : RegionLookup.UnknownDetector)
  | fault (f : Fault)

/-- The state of a session: where its commands run, the run once it is opened, whether entries are
echoed, and the events so far. -/
structure Session (σ : Type) where
  host : Host σ
  opened : Option Run
  echoes : Bool
  journal : List Event

namespace BuildSettings

/-- A build as configured. Settings of the wrong type come to light when it is run. -/
def verify (b : BuildSettings) (runner : Runner σ) : Act (Host σ) (List Diagnostic) := do
  if !b.command.isTruthy then throw (.workspace .noCommand)
  match b.workspace, b.diagnosticsPath, b.command with
  | .text workspace, .text path, .text command =>
    BuildCommand.run ⟨command, workspace, path, b.limit.toJson, b.accepted⟩ runner
  | .text _, .text _, _ => throw .notText
  | _, _, _ => throw .wrongType

end BuildSettings

namespace Config

/-- The build of a dependent module. It shares the limit and the exit codes of the target's. -/
def moduleBuild (c : Config) (m : ModuleSettings) : BuildSettings :=
  { c.build with
    command := m.command, workspace := m.workspace, diagnosticsPath := m.diagnosticsPath }

def modules (c : Config) (runner : Runner σ) : List (DependentModule (Tracked (Host σ))) :=
  if c.downstream.enabled then
    c.downstream.modules.map fun m =>
      ⟨m.name.toJson, Tracked.inside ((c.moduleBuild m).verify runner)⟩
  else []

end Config

namespace Session

abbrev Step (σ : Type) := EStateM SessionError (Session σ)

def start (host : Host σ) : Session σ := ⟨host, none, false, []⟩

def ofExcept (error : ε → SessionError) : Except ε α → Step σ α
  | .ok a => pure a
  | .error e => throw (error e)

def openRun (log : LogSettings) (name : String) : Step σ Unit := do
  let folder ← match log.folder with
    | .text s => pure s
    | _ => throw (.fault .wrongType)
  let run := Run.below folder name
  let s ← get
  match s.host.files.makeFolders run.folder with
  | none => throw (.fault .system)
  | some files =>
    set { s with host := { s.host with files }, opened := some run, echoes := log.echo.isTruthy }

/-- The region table at a path, if one is configured. -/
def loadTable (fs : Files) (path : Yaml) : Except SessionError (Option RegionTable) :=
  match path with
  | .text s =>
    if s.isEmpty then return none
    else
      match fs.get? (.ofString s) with
      | none => .error (.fault .system)
      | some content => do
        let text ← content.read.mapError fun e => .fault (.undecodable e)
        return some (← (RegionTable.parse text).mapError .table)
  | v => if v.isTruthy then .error (.fault .wrongType) else return none

/-- What an exploration of the configured workspace is given. -/
def contextOf (runner : Runner σ) (c : Config) (workspace : String) (fs : Files) :
    Except SessionError (Context (Tracked (Host σ))) := do
  let x ← (ProgramIndex.ofFolder fs (.ofString workspace)).mapError fun e => .fault (.undecodable e)
  let table ← loadTable fs c.regions.table
  let lookup ← (RegionLookup.build x table (c.regions.detectors.map Yaml.plain)).mapError .detector
  let mode ← c.mode.mapError .mode
  let backend := Repository.backend runner ⟨workspace⟩
  let plain : Context (Tracked (Host σ)) :=
    { workspace := backend.workspace (c.build.verify runner)
      regions := .own
      mode := mode
      depth := c.exploration.depth
      retry := c.exploration.retry.isTruthy
      declared := fun _ => true
      link := fun _ f => [f]
      destructive := fun _ => false
      modules := c.modules runner }
  return plain.indexed x lookup c.exploration.linking.isTruthy

def onHost (act : Act (Host σ) α) : Act (Trial (Tracked (Host σ))) α :=
  Trial.onSite fun s =>
    match Tracked.inside act s.world with
    | .ok a world => .ok a { s with world }
    | .error e world => .error e { s with world }

/-- An exploration between two looks at the working tree. -/
def watched (runner : Runner σ) (ctx : Context (Tracked (Host σ))) (repository : Repository) :
    Act (Trial (Tracked (Host σ))) (List Report) := do
  let head ← onHost (repository.head runner)
  let before ← onHost (repository.diff runner)
  Trial.log (.checkpoint head)
  let result ← Exploration.explore ctx none
  let after ← onHost (repository.diff runner)
  if after ≠ before then Trial.log (.dirty head)
  return result.reports

/-- A trial on the host of a session, which gets what it leaves. -/
def trial (act : Act (Trial (Tracked (Host σ))) α) : Step σ α := fun s =>
  match act (Trial.start (Tracked.start s.host)) with
  | .ok a t => .ok a { s with host := t.site.world.world, journal := t.journal }
  | .error e t =>
    .error (.fault e) { s with host := t.site.world.world, journal := t.journal }

def writeReports (out : String) (reports : List Report) : Step σ Unit := do
  let text := (Exploration.reportsJson reports).pretty
  let s ← get
  match s.host.files.create (.ofString out) (.text text) with
  | none => throw (.fault .system)
  | some files => set { s with host := { s.host with files } }

def runWith (runner : Runner σ) (c : Config) (r : Request) (runName : String) : Step σ Unit := do
  openRun c.log (r.runName.getD runName)
  match c.build.workspace with
  | .text workspace =>
    let ctx ← ofExcept id (contextOf runner c workspace (← get).host.files)
    let reports ← trial (watched runner ctx ⟨workspace⟩)
    writeReports r.out reports
  | _ => throw (.fault .wrongType)

/-- The session that a command line asks for; `runName` is the name of its run if it gives none. -/
def run (runner : Runner σ) (args : List String) (runName : String) : Step σ Unit := do
  let r ← ofExcept .usage (Request.ofArguments args)
  let c ← ofExcept .config (Config.load (← get).host.files r.config)
  runWith runner (c.override r.depth r.mode) r runName

def entries (s : Session σ) : List Entry :=
  match s.opened with
  | some run => s.journal.map (Entry.ofEvent run)
  | none => []

def echo (s : Session σ) (stamp : String) : List String :=
  if s.echoes then s.entries.flatMap (Entry.echo stamp) else []

end Session
end FixTrial
