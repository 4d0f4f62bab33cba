import FixTrial.Text.Lines
import FixTrial.Text.Utf8

/-! Paths, and stores of files found by path. -/
namespace FixTrial

/-- A path: its parts, without empty ones and single dots. -/
structure Path where
  absolute : Bool
  parts : List String
deriving DecidableEq

namespace Path

/-- `cs` cut at every `sep`; `part` holds the part being read, last character first. -/
def splitFrom (sep : Char) (part : List Char) : List Char → List (List Char)
  | [] => [part.reverse]
  | c :: rest =>
    if c = sep then part.reverse :: splitFrom sep [] rest else splitFrom sep (c :: part) rest

def ofString (s : String) : Path :=
  let parts := (splitFrom '/' [] s.toList).map String.ofList
  ⟨s.toList.head? = some '/', parts.filter fun p => p ≠ "" && p ≠ "."⟩

/-- `q` below `p`, unless it is absolute. -/
def join (p q : Path) : Path := if q.absolute then q else ⟨p.absolute, p.parts ++ q.parts⟩

def text (p : Path) : String :=
  let joined := "/".intercalate p.parts
  if p.absolute then "/" ++ joined else if p.parts.isEmpty then "." else joined

end Path

inductive Content
  | text (s : String)
  | bytes (bs : List UInt8)

/-- The text of a file, with every line end read as a line feed. -/
def Content.read : Content → Except Text.Utf8Error String
  | .text s => .ok (String.ofList (Text.unifyNewlines s.toList))
  | .bytes bs =>
    (Text.decodeUtf8 bs).map fun s => String.ofList (Text.unifyNewlines s.toList)

/-- Files and folders below one working directory, by the parts of their paths. -/
structure Files where
  files : List (List String × Content)
  folders : List (List String)

namespace Files

def empty : Files := ⟨[], []⟩

def properPrefix (short long : List String) : Bool :=
  short.length < long.length && long.take short.length = short

def isFolder (fs : Files) (parts : List String) : Bool :=
  parts.isEmpty || fs.folders.any (fun d => d = parts || properPrefix parts d)
    || fs.files.any (fun f => properPrefix parts f.1)

/-- Where a path leads: two dots step back out of a folder that is there. -/
def resolveFrom? (fs : Files) (done : List String) : List String → Option (List String)
  | [] => some done
  | ".." :: rest =>
    if done.isEmpty || !fs.isFolder done then none else fs.resolveFrom? done.dropLast rest
  | p :: rest => fs.resolveFrom? (done ++ [p]) rest

/-- Where a path from the working directory leads. What lies outside is not modelled: an absolute path
leads nowhere. -/
def resolve? (fs : Files) (p : Path) : Option (List String) :=
  if p.absolute then none else fs.resolveFrom? [] p.parts

def get? (fs : Files) (p : Path) : Option Content := (fs.resolve? p).bind (fs.files.lookup ·)

def isFolderAt (fs : Files) (p : Path) : Bool :=
  match fs.resolve? p with
  | some parts => fs.isFolder parts
  | none => false

def contains (fs : Files) (p : Path) : Bool := (fs.get? p).isSome || fs.isFolderAt p

def erase (fs : Files) (p : Path) : Files :=
  match fs.resolve? p with
  | some parts => { fs with files := fs.files.filter fun f => f.1 ≠ parts }
  | none => fs

def makeFolder (fs : Files) (p : Path) : Files :=
  match fs.resolve? p with
  | some parts => { fs with folders := fs.folders ++ [parts] }
  | none => fs

/-- A folder and all that lead to it, unless a file is in the way. -/
def makeFolders (fs : Files) (p : Path) : Option Files :=
  if p.absolute then none
  else
    (List.range p.parts.length).foldlM (fun fs i =>
      let q : Path := ⟨false, p.parts.take (i + 1)⟩
      if (fs.get? q).isSome then none else some (fs.makeFolder q)) fs

/-- A file written anew, along with the folders that lead to it. -/
def write (fs : Files) (p : Path) (c : Content) : Files :=
  match fs.resolve? p with
  | some parts => { fs with files := fs.files.filter (fun f => f.1 ≠ parts) ++ [(parts, c)] }
  | none => fs

/-- A file written in a folder that is there. -/
def create (fs : Files) (p : Path) (c : Content) : Option Files := do
  let parts ← fs.resolve? p
  if parts.isEmpty || !fs.isFolder parts.dropLast || fs.isFolder parts then none
  else some (fs.write p c)

/-- The files below a folder, by their paths from there. -/
def below (fs : Files) (folder : List String) : List (List String × Content) :=
  fs.files.filterMap fun (parts, c) =>
    if properPrefix folder parts then some (parts.drop folder.length, c) else none

end Files
end FixTrial
