import FixTrial.Files
import FixTrial.Program.Survey
import FixTrial.Source.Grammar

/-! The index of a program, from the Python files below a folder. -/
namespace FixTrial

/-- A source file, by its path from the folder of the program. -/
structure SourceFile where
  parts : List String
  content : Content

namespace SourceFile

def extension : String := ".py"

def isSource (parts : List String) : Bool :=
  match parts.getLast? with
  | some name => name.endsWith extension
  | none => false

/-- The source files below a folder, in the order of their paths. -/
def below (fs : Files) (folder : Path) : List SourceFile :=
  let found := ((fs.resolve? folder).map fs.below).getD []
  let sources := (found.filter fun f => isSource f.1).map fun f => ⟨f.1, f.2⟩
  sources.mergeSort fun a b => !(List.lex b.parts a.parts fun p q => decide (p < q))

/-- A file name without its extension, which nothing but the extension has none of. -/
def stem (name : String) : String :=
  if name = extension then name else (name.dropEnd extension.length).toString

/-- The name of the module in a file: the path with dots, where `__init__` stands for the folder. -/
def moduleName (f : SourceFile) : String :=
  let folders := f.parts.dropLast
  let name := stem (f.parts.getLastD "")
  let parts := if name = "__init__" then folders else folders ++ [name]
  if parts.isEmpty then name else ".".intercalate parts

def path (f : SourceFile) : String := "/".intercalate f.parts

end SourceFile

namespace ProgramIndex

/-- The index with a source file, unless that does not parse. -/
def addFile (x : ProgramIndex) (f : SourceFile) : Except Text.Utf8Error ProgramIndex :=
  match f.content.read with
  | .error e => .error e
  | .ok source =>
    match Source.read? source with
    | some statements => .ok (x.survey f.path f.moduleName statements)
    | none => .ok x

def ofFolder (fs : Files) (folder : Path) : Except Text.Utf8Error ProgramIndex :=
  (SourceFile.below fs folder).foldlM addFile empty

end ProgramIndex
end FixTrial
