import FixTrial.Config.Basic
import FixTrial.Encoding.Encode

/-! Configurations as JSON. -/
namespace FixTrial

def ExplorationSettings.toJson (s : ExplorationSettings) : Json :=
  .object [("depth", s.depth.toJson), ("mode", s.mode.toJson),
    ("retry_failed_as_singletons", s.retry.toJson), ("link_overrides", s.linking.toJson)]

def BuildSettings.toJson (s : BuildSettings) : Json :=
  .object [("build_cmd", s.command.toJson), ("workspace", s.workspace.toJson),
    ("diagnostics_path", s.diagnosticsPath.toJson), ("timeout_sec", s.limit.toJson),
    ("ok_returncodes", .array (s.accepted.map .int))]

def ModuleSettings.toJson (s : ModuleSettings) : Json :=
  .object [("name", s.name.toJson), ("workspace", s.workspace.toJson),
    ("build_cmd", s.command.toJson), ("diagnostics_path", s.diagnosticsPath.toJson)]

def DownstreamSettings.toJson (s : DownstreamSettings) : Json :=
  .object [("enabled", .bool s.enabled), ("modules", .array (s.modules.map ModuleSettings.toJson))]

def RegionSettings.toJson (s : RegionSettings) : Json :=
  .object [("table", s.table.toJson), ("generated_code", .array (s.detectors.map Yaml.toJson))]

def LogSettings.toJson (s : LogSettings) : Json :=
  .object [("dir", s.folder.toJson), ("stream", s.echo.toJson)]

def Config.toJson (c : Config) : Json :=
  .object [("explorer", c.exploration.toJson), ("verifier", c.build.toJson),
    ("downstream", c.downstream.toJson), ("regions", c.regions.toJson),
    ("logging", c.log.toJson)]

end FixTrial
