import FixTrial.Files
import FixTrial.Json.Basic

/-! Processes: commands that are run in a folder and may change the files there. -/
namespace FixTrial

structure Command where
  words : List String
  directory : String
  input : Option String
  /-- How many seconds it may take, as it was configured; null sets no limit. -/
  limit : Json

inductive Outcome
  | finished (code : Int) (output errors : String)
  | timedOut
  | cannotStart (reason : String)

/-- Where commands run: the files there, and all else that they may change. -/
structure Host (σ : Type) where
  files : Files
  rest : σ

abbrev Runner (σ : Type) := Command → Host σ → Outcome × Host σ

end FixTrial
