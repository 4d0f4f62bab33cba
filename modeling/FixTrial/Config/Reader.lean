import FixTrial.Config.Basic
import FixTrial.Decimal.Truncated
import FixTrial.Files
import FixTrial.Yaml.Reader

/-!
Configurations read from data and from files. Sections and settings that are not known are left out,
and a section that is absent or empty has its defaults.
-/
namespace FixTrial

/-- What an error is about: a value, the type of a value, what is asked of a value that does not
have it, or the size of a number. -/
inductive FailureKind
  | value
  | type
  | attribute
  | overflow
deriving DecidableEq

inductive ConfigError
  | notMapping
  | sectionNotMapping (name : String)
  /-- The depth has no order to zero. -/
  | depthNotNumber
  | negativeDepth
  /-- The accepted exit codes are not given one by one. -/
  | codesNotListed
  | codeNotNumber
  | codeMalformed (e : Yaml.Error)
  | codeNotANumber
  | codeInfinite
  | modulesNotListed
  | moduleNotMapping
  /-- A module lacks its name, its workspace or its command. -/
  | moduleIncomplete
  | detectorsNotListed

def ConfigError.kind : ConfigError → FailureKind
  | .sectionNotMapping _ | .negativeDepth | .codeMalformed _ | .codeNotANumber => .value
  | .depthNotNumber | .codesNotListed | .codeNotNumber | .modulesNotListed | .moduleIncomplete
  | .detectorsNotListed => .type
  | .notMapping | .moduleNotMapping => .attribute
  | .codeInfinite => .overflow

/-- What is said of an error; nothing of those that go by their kind alone. -/
def ConfigError.message : ConfigError → String
  | .sectionNotMapping name => s!"Config section '{name}' must be a mapping."
  | .negativeDepth => "explorer.depth must be >= 0."
  | .codeMalformed e => e.message
  | .codeNotANumber => "cannot convert float NaN to integer"
  | .codeInfinite => "cannot convert float infinity to integer"
  | _ => ""

def Depth.ofYaml? : Yaml → Option Depth
  | .int n => some (.whole n)
  | .bool b => some (.flag b)
  | .float x => some (.fraction x)
  | _ => none

def Depth.isNegative : Depth → Bool
  | .whole n => n < 0
  | .flag _ => false
  | .fraction x => x < 0.0

namespace Config

abbrev Entries := List (Yaml × Yaml)

/-- A section; one without content has no entries. -/
def section? (data : Entries) (name : String) : Except ConfigError Entries :=
  match (Yaml.find? name data).getD .null with
  | .map entries => .ok entries
  | v => if v.isTruthy then .error (.sectionNotMapping name) else .ok []

/-- A setting, or what stands for it where it is missing. -/
def setting (entries : Entries) (name : String) (missing : Yaml) : Yaml :=
  (Yaml.find? name entries).getD missing

def explorationOf (es : Entries) : Except ConfigError ExplorationSettings := do
  let base := default.exploration
  let depth ← match Yaml.find? "depth" es with
    | none => pure base.depth
    | some v =>
      match Depth.ofYaml? v with
      | some d => pure d
      | none => throw .depthNotNumber
  if depth.isNegative then throw .negativeDepth
  return ⟨depth, setting es "mode" base.mode,
    setting es "retry_failed_as_singletons" base.retry, setting es "link_overrides" base.linking⟩

/-- An exit code: a number without its fraction, or a text of digits, also in bytes. -/
def codeOf : Yaml → Except ConfigError Int
  | .int n => .ok n
  | .bool b => .ok (if b then 1 else 0)
  | .float x =>
    match Decimal.truncated? x with
    | some n => .ok n
    | none => .error (if x.isNaN then .codeNotANumber else .codeInfinite)
  | .text s => (Yaml.decimal s.toList).mapError .codeMalformed
  | .bytes bs => (Yaml.decimalOfBytes bs).mapError .codeMalformed
  | _ => .error .codeNotNumber

def codesOf (v : Yaml) : Except ConfigError (List Int) :=
  match v.parts? with
  | some parts => parts.mapM codeOf
  | none => .error .codesNotListed

def buildOf (es : Entries) : Except ConfigError BuildSettings := do
  let base := default.build
  let accepted ← match Yaml.find? "ok_returncodes" es with
    | none => pure base.accepted
    | some v => codesOf v
  return ⟨setting es "build_cmd" base.command, setting es "workspace" base.workspace,
    setting es "diagnostics_path" base.diagnosticsPath, setting es "timeout_sec" base.limit, accepted⟩

def moduleOf : Yaml → Except ConfigError ModuleSettings
  | .map es =>
    match Yaml.find? "name" es, Yaml.find? "workspace" es, Yaml.find? "build_cmd" es with
    | some name, some workspace, some command =>
      .ok ⟨name, workspace, command, setting es "diagnostics_path" defaultDiagnosticsPath⟩
    | _, _, _ => .error .moduleIncomplete
  | _ => .error .moduleNotMapping

/-- The parts of a setting, of which an empty one has none. -/
def partsOf (v : Yaml) (otherwise : ConfigError) : Except ConfigError (List Yaml) :=
  if !v.isTruthy then .ok []
  else
    match v.parts? with
    | some parts => .ok parts
    | none => .error otherwise

def downstreamOf (es : Entries) : Except ConfigError DownstreamSettings := do
  let parts ← partsOf (setting es "modules" .null) .modulesNotListed
  let modules ← parts.mapM moduleOf
  return ⟨(setting es "enabled" .null).isTruthy, modules⟩

def regionsOf (es : Entries) : Except ConfigError RegionSettings := do
  let detectors ← partsOf (setting es "generated_code" .null) .detectorsNotListed
  return ⟨setting es "table" .null, detectors⟩

def logOf (es : Entries) : LogSettings :=
  let base := default.log
  ⟨setting es "dir" base.folder, setting es "stream" base.echo⟩

def ofEntries (data : Entries) : Except ConfigError Config := do
  let exploration ← explorationOf (← section? data "explorer")
  let build ← buildOf (← section? data "verifier")
  let downstream ← downstreamOf (← section? data "downstream")
  let regions ← regionsOf (← section? data "regions")
  return ⟨exploration, build, downstream, regions, logOf (← section? data "logging")⟩

def ofYaml : Yaml → Except ConfigError Config
  | .map data => ofEntries data
  | _ => .error .notMapping

inductive LoadError
  | folder
  | undecodable (e : Text.Utf8Error)
  | yaml (e : Yaml.Error)
  /-- The document is neither empty nor a mapping. -/
  | notMapping
  | config (e : ConfigError)

def LoadError.message : LoadError → String
  | .notMapping => "Config file must contain a mapping at the top level."
  | .yaml e => e.message
  | .config e => e.message
  | .undecodable e => e.message
  | .folder => ""

def ofText (s : String) : Except LoadError Config := do
  match ← (Yaml.read s).mapError .yaml with
  | .map data => (ofEntries data).mapError .config
  | v => if v.isTruthy then throw .notMapping else return default

/-- Where a configuration is looked for if no path is given. -/
def defaultPath : String := "explorer.yaml"

/-- The configuration at a path, or the default one if nothing is there. -/
def load (fs : Files) (path : Option String) : Except LoadError Config := do
  let p := Path.ofString (path.getD defaultPath)
  match fs.get? p with
  | some content => ofText (← content.read.mapError .undecodable)
  | none => if fs.isFolderAt p then throw .folder else return default

end Config
end FixTrial
