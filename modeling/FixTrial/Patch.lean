import FixTrial.Text.Blank
import FixTrial.Text.Lines

/-!
Patches: unified diffs, of which each section opens with a line that names the two files. The lines
`---` and `+++` that must come next are added where they are missing.
-/
namespace FixTrial.Patch

inductive HeaderError
  | truncated
deriving DecidableEq

def startsWith (mark : String) (line : List Char) : Bool := mark.toList.isPrefixOf line

def isSectionHeader (line : List Char) : Bool := startsWith "diff --git" line

def filesOf (header : List Char) : Except HeaderError (List Char × List Char) :=
  match Text.words header with
  | _ :: _ :: old :: new :: _ => .ok (old, new)
  | _ => .error .truncated

/-- The line that has to come next, by its mark: the one that does, or one made for a file. -/
def headerLine (mark : String) (file : List Char) (lines : List (List Char)) :
    List Char × List (List Char) :=
  match lines with
  | line :: rest => if startsWith mark line then (line, rest) else (mark.toList ++ file, lines)
  | [] => (mark.toList ++ file, [])

theorem length_headerLine_le (mark : String) (file : List Char) (lines : List (List Char)) :
    (headerLine mark file lines).2.length ≤ lines.length := by
  cases lines with
  | nil => simp [headerLine]
  | cons line rest => by_cases h : startsWith mark line <;> simp [headerLine, h]

def completeLines : List (List Char) → Except HeaderError (List (List Char))
  | [] => .ok []
  | line :: rest =>
    if isSectionHeader line then
      match filesOf line with
      | .error e => .error e
      | .ok (old, new) =>
        let first := headerLine "--- " old rest
        let second := headerLine "+++ " new first.2
        (completeLines second.2).map fun lines => line :: first.1 :: second.1 :: lines
    else (completeLines rest).map (line :: ·)
termination_by lines => lines.length
decreasing_by
  · have h₁ := length_headerLine_le "--- " old rest
    have h₂ := length_headerLine_le "+++ " new (headerLine "--- " old rest).2
    simp only [List.length_cons]
    omega
  · simp

/-- The lines joined by line feeds, with one at the end. -/
def joinLines (lines : List (List Char)) : List Char :=
  let text := ['\n'].intercalate lines
  if text.getLast? = some '\n' then text else text ++ ['\n']

def normalizeChars (cs : List Char) : Except HeaderError (List Char) :=
  (completeLines (Text.lines cs)).map joinLines

/-- A patch with complete headers, in lines that end in line feeds. -/
def normalize (s : String) : Except HeaderError String :=
  (normalizeChars s.toList).map String.ofList

end FixTrial.Patch
