import FixTrial.Batch
import FixTrial.Bounds
import FixTrial.Config.Basic
import FixTrial.Config.Reader
import FixTrial.Decimal.Layout
import FixTrial.Decimal.Reader
import FixTrial.Decimal.Shortest
import FixTrial.Decimal.Truncated
import FixTrial.Diagnostic
import FixTrial.Encoding.Decode
import FixTrial.Encoding.Dialogue
import FixTrial.Encoding.Encode
import FixTrial.Encoding.Index
import FixTrial.Encoding.Outcome
import FixTrial.Encoding.Script
import FixTrial.Encoding.Settings
import FixTrial.Encoding.Table
import FixTrial.Event
import FixTrial.Exploration.Deep
import FixTrial.Exploration.Estimate
import FixTrial.Exploration.Indexed
import FixTrial.Exploration.Pass
import FixTrial.Exploration.Trial
import FixTrial.Files
import FixTrial.Fix
import FixTrial.Graph
import FixTrial.Journal
import FixTrial.Json.Basic
import FixTrial.Json.Printer
import FixTrial.Json.Reader
import FixTrial.Json.Shown
import FixTrial.Keyed
import FixTrial.Location
import FixTrial.Main
import FixTrial.Patch
import FixTrial.Policy
import FixTrial.Program.Family
import FixTrial.Program.Hierarchy
import FixTrial.Program.Index
import FixTrial.Program.Scan
import FixTrial.Program.Survey
import FixTrial.Region
import FixTrial.RegionLookup
import FixTrial.Report
import FixTrial.Scripted.BuildPlan
import FixTrial.Scripted.Calls
import FixTrial.Scripted.PatchTree
import FixTrial.Scripted.Rehearsal
import FixTrial.Scripted.RuleBuild
import FixTrial.Session.Basic
import FixTrial.Session.Dialogue
import FixTrial.Session.Request
import FixTrial.Snapshot
import FixTrial.Source.Formatted
import FixTrial.Source.Grammar
import FixTrial.Source.Lexer
import FixTrial.Source.Literal
import FixTrial.Source.Number
import FixTrial.Source.Parser.Basic
import FixTrial.Source.Parser.Expression
import FixTrial.Source.Parser.Pattern
import FixTrial.Source.Parser.Primary
import FixTrial.Source.Parser.Signature
import FixTrial.Source.Parser.Statement
import FixTrial.Source.Token
import FixTrial.Source.Tree
import FixTrial.Text.Base64
import FixTrial.Text.Blank
import FixTrial.Text.CharSet
import FixTrial.Text.Digits
import FixTrial.Text.Hex
import FixTrial.Text.Identifier
import FixTrial.Text.Lines
import FixTrial.Text.Printable
import FixTrial.Text.Quoted
import FixTrial.Text.ShellWords
import FixTrial.Text.Utf8
import FixTrial.Workspace.Basic
import FixTrial.Workspace.Build
import FixTrial.Workspace.Fault
import FixTrial.Workspace.Process
import FixTrial.Workspace.Repository
import FixTrial.Workspace.Tracked
import FixTrial.Yaml.Basic
import FixTrial.Yaml.Block
import FixTrial.Yaml.Composition
import FixTrial.Yaml.Error
import FixTrial.Yaml.Lexer
import FixTrial.Yaml.Mark
import FixTrial.Yaml.Moment
import FixTrial.Yaml.Node
import FixTrial.Yaml.Number
import FixTrial.Yaml.Place
import FixTrial.Yaml.Plain
import FixTrial.Yaml.Quoted
import FixTrial.Yaml.Reader
import FixTrial.Yaml.Tag
import FixTrial.Yaml.Token
import FixTrial.Proofs.Graph.Arena
import FixTrial.Proofs.Graph.Groups
import FixTrial.Proofs.Act
import FixTrial.Proofs.Graph.Bare
import FixTrial.Proofs.Exploration.Twins
import FixTrial.Proofs.Exploration.Levels
import FixTrial.Proofs.Exploration.Faults
import FixTrial.Proofs.Workspace.Watched
import FixTrial.Proofs.Exploration.Leftovers
import FixTrial.Proofs.Exploration.Course
import FixTrial.Proofs.Exploration.Reports
import FixTrial.Proofs.Exploration.Verdicts
import FixTrial.Proofs.Workspace.InMemory
import FixTrial.Proofs.Snapshot
import FixTrial.Proofs.Workspace.Repeatable
import FixTrial.Proofs.Exploration.Tried
import FixTrial.Proofs.Exploration.Regional
import FixTrial.Proofs.Exploration.Alone
import FixTrial.Proofs.Batch
import FixTrial.Proofs.Workspace.Tracked
import FixTrial.Proofs.Exploration.Builds
import FixTrial.Proofs.Exploration.Trail
import FixTrial.Proofs.Exploration.Ledger
import FixTrial.Proofs.Exploration.Measured
import FixTrial.Proofs.Workspace.Predictable
import FixTrial.Proofs.Exploration.Attempts
import FixTrial.Proofs.Workspace.Sticky
import FixTrial.Proofs.Exploration.Stuck
import FixTrial.Proofs.Patch
import FixTrial.Proofs.Workspace.Patched
import FixTrial.Proofs.Workspace.Restored
import FixTrial.Proofs.Exploration.Budget
import FixTrial.Proofs.Exploration.Growth
import FixTrial.Proofs.Exploration.Deeper
import FixTrial.Proofs.Exploration.ByKey
import FixTrial.Proofs.Exploration.Permuted
import FixTrial.Proofs.Exploration.Replays
import FixTrial.Proofs.Exploration.Estimated
import FixTrial.Proofs.Exploration.FirstTree
import FixTrial.Proofs.Exploration.Provenance
import FixTrial.Proofs.Workspace.Noted
import FixTrial.Proofs.Exploration.Handed
import FixTrial.Proofs.Exploration.Declared
import FixTrial.Proofs.Exploration.Decomposed
import FixTrial.Proofs.Exploration.Replayed
import FixTrial.Proofs.Suggestions
import FixTrial.Proofs.Encoding
import FixTrial.Proofs.Workspace.Commanded
import FixTrial.Proofs.Exploration.Chronicle
import FixTrial.Proofs.Program.Hierarchy
import FixTrial.Proofs.Program.Families
import FixTrial.Proofs.Program.Linked
import FixTrial.Proofs.Program.Destructive
import FixTrial.Proofs.Encoding.OwnRegion
import FixTrial.Proofs.RegionLookup
import FixTrial.Proofs.Graph.Unrelated
import FixTrial.Proofs.Workspace.Contract
import FixTrial.Proofs.Workspace.Mirrored
import FixTrial.Proofs.Program.Occurrences
import FixTrial.Proofs.Program.Mentioned
import FixTrial.Proofs.Graph.FirstFit
import FixTrial.Proofs.Workspace.Recorded
import FixTrial.Proofs.Text.Lines
import FixTrial.Proofs.Patch.Lines
import FixTrial.Proofs.Patch.Sections
import FixTrial.Proofs.Exploration.Attributed
import FixTrial.Proofs.Exploration.Additive
import FixTrial.Proofs.Spelling
import FixTrial.Proofs.Program.WellFormed
import FixTrial.Proofs.Exploration.Roots
import FixTrial.Proofs.Text.Digits
import FixTrial.Proofs.Session.Options
import FixTrial.Proofs.Session.Overriding
import FixTrial.Proofs.Config
import FixTrial.Proofs.Graph.History
