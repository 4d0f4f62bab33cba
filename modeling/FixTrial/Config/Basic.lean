import FixTrial.Event
import FixTrial.Yaml.Basic

/-! Configurations. Settings whose values matter only where they are used keep whatever was given. -/
namespace FixTrial

structure ExplorationSettings where
  depth : Depth
  mode : Yaml
  retry : Yaml
  linking : Yaml

structure BuildSettings where
  command : Yaml
  workspace : Yaml
  diagnosticsPath : Yaml
  limit : Yaml
  accepted : List Int

structure ModuleSettings where
  name : Yaml
  workspace : Yaml
  command : Yaml
  diagnosticsPath : Yaml

structure DownstreamSettings where
  enabled : Bool
  modules : List ModuleSettings

structure RegionSettings where
  table : Yaml
  detectors : List Yaml

structure LogSettings where
  folder : Yaml
  echo : Yaml

structure Config where
  exploration : ExplorationSettings
  build : BuildSettings
  downstream : DownstreamSettings
  regions : RegionSettings
  log : LogSettings

namespace Config

def defaultDepth : Depth := .whole 5

def defaultDiagnosticsPath : Yaml := .text "diagnostics.json"

def default : Config :=
  { exploration := ⟨defaultDepth, .null, .bool true, .bool true⟩
    build := ⟨.text "", .text ".", defaultDiagnosticsPath, .null, [0]⟩
    downstream := ⟨false, []⟩
    regions := ⟨.null, []⟩
    log := ⟨.text ".explorer_runs", .bool false⟩ }

inductive ModeError
  | unrecognized (e : Mode.Unrecognized)
  | notText

def mode (c : Config) : Except ModeError Mode :=
  match c.exploration.mode with
  | .text s => (Mode.resolve c.downstream.enabled (some s)).mapError .unrecognized
  | .bytes bs =>
    -- no mode goes by a name in bytes
    if c.downstream.enabled && !bs.isEmpty then .error (.unrecognized ⟨Text.quotedBytes bs⟩)
    else (Mode.resolve c.downstream.enabled none).mapError .unrecognized
  | request =>
    if c.downstream.enabled && request.isTruthy then .error .notText
    else (Mode.resolve c.downstream.enabled none).mapError .unrecognized

/-- The configuration with a depth and a mode of the command line in place of its own. -/
def override (c : Config) (depth : Option Int) (mode : Option String) : Config :=
  { c with
    exploration :=
      { c.exploration with
        depth := (depth.map Depth.whole).getD c.exploration.depth
        mode := (mode.map Yaml.text).getD c.exploration.mode } }

end Config
end FixTrial
