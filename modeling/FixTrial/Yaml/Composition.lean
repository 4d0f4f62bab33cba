import FixTrial.Yaml.Node
import FixTrial.Yaml.Token

/-! Nodes composed of tokens. -/
namespace FixTrial.Yaml

/-- The tokens to come, and the nodes that have got a name. -/
structure Composition where
  tokens : List Token
  anchors : List (String × Node)

abbrev Composing := StateT Composition (Except Error)

/-- The short forms of tags, and what they stand for. -/
abbrev Handles := List (String × String)

namespace Composing

def next : Composing (Option Token) := return (← get).tokens.head?

def drop : Composing Unit := modify fun s => { s with tokens := s.tokens.tail }

/-- Takes a token if it comes next, and says whether it did. -/
def takes (t : Token) : Composing Bool := do
  if (← next) = some t then
    drop
    return true
  else return false

def take (t : Token) : Composing Unit := do
  if !(← takes t) then throw .malformed

def sees (ts : List Token) : Composing Bool := return (← next).any ts.contains

def anchor? : Composing (Option String) := do
  match ← next with
  | some (.anchor name) =>
    drop
    return some name
  | _ => return none

def tag? (handles : Handles) : Composing (Option String) := do
  match ← next with
  | some (.tag none suffix) =>
    drop
    return some suffix
  | some (.tag (some short) suffix) =>
    drop
    match handles.lookup short with
    | some full => return some (full ++ suffix)
    | none => throw .malformed
  | _ => return none

/-- The anchor and the tag before a node, in either order. -/
def properties (handles : Handles) : Composing (Option String × Option String) := do
  match ← anchor? with
  | some name => return (some name, ← tag? handles)
  | none =>
    match ← tag? handles with
    | some tag => return (← anchor?, some tag)
    | none => return (none, none)

def name (anchor : Option String) (node : Node) : Composing Unit :=
  modify fun s => { s with anchors := (anchor.map fun a => (a, node)).toList ++ s.anchors }

/-- Where a node stands: whether it may be in block form, and whether a list may be there without
being indented further. -/
structure Position where
  block : Bool
  sameIndent : Bool

def inFlow : Position := ⟨false, false⟩
def inBlock : Position := ⟨true, false⟩
def inEntry : Position := ⟨true, true⟩

/-- The tag of a collection, `usual` if it has none of its own. -/
def collectionTag (usual : Tag) (tag : Option String) : Tag :=
  match tag with
  | none | some "!" => usual
  | some uri => .ofUri uri

def scalarTag (s : String) (isPlain : Bool) (tag : Option String) : Tag :=
  match tag with
  | none => if isPlain then .ofPlain s else .text
  | some "!" => .ofPlain s
  | some uri => .ofUri uri

/-- A node without content, which needs an anchor or a tag. -/
def absent (anchor tag : Option String) : Composing Node := do
  if anchor.isNone && tag.isNone then throw .malformed
  let n := Node.scalar (scalarTag "" true tag) ""
  name anchor n
  return n

/-- Registers a collection under its name while its parts are read, so that one within itself is
read as an empty list. -/
def collection (anchor : Option String) (parts : Composing Node) : Composing Node := do
  name anchor (.list .list [])
  let node ← parts
  name anchor node
  return node

/-- A node, or an empty one if a token comes that ends it. -/
def orEmpty (ends : List Token) (node : Composing Node) : Composing Node := do
  if ← sees ends then return .empty else node

/-- The value of a key, which is empty if no sign of it comes. -/
def valueOf (ends : List Token) (node : Composing Node) : Composing Node := do
  if ← takes .value then orEmpty ends node else return .empty

mutual

def node (handles : Handles) (position : Position) : Nat → Composing Node
  | 0 => throw .malformed
  | fuel + 1 => do
    if let some (.alias a) ← next then
      drop
      match (← get).anchors.lookup a with
      | some n => return n
      | none => throw .malformed
    let (anchor, tag) ← properties handles
    let known := (← get).anchors
    if anchor.any fun a => (known.lookup a).isSome then throw .malformed
    let listTag := collectionTag .list tag
    let mapTag := collectionTag .map tag
    match ← next with
    | some (.scalar s isPlain) =>
      drop
      let n := Node.scalar (scalarTag s isPlain tag) s
      name anchor n
      return n
    | some .listOpen =>
      drop
      collection anchor do return .list listTag (← flowItems handles true fuel)
    | some .mapOpen =>
      drop
      collection anchor do Node.ofEntries mapTag (← flowEntries handles true fuel)
    | some .item =>
      if position.sameIndent then
        collection anchor do return .list listTag (← sameIndentItems handles fuel)
      else absent anchor tag
    | some .blockList =>
      if position.block then
        drop
        collection anchor do return .list listTag (← blockItems handles fuel)
      else absent anchor tag
    | some .blockMap =>
      if position.block then
        drop
        collection anchor do Node.ofEntries mapTag (← blockEntries handles fuel)
      else absent anchor tag
    | _ => absent anchor tag

def blockItems (handles : Handles) : Nat → Composing (List Node)
  | 0 => throw .malformed
  | fuel + 1 => do
    if ← takes .item then
      let n ← orEmpty [.item, .blockEnd] (node handles inBlock fuel)
      return n :: (← blockItems handles fuel)
    else
      take .blockEnd
      return []

/-- The items of a list that is not indented further than the mapping it stands in. -/
def sameIndentItems (handles : Handles) : Nat → Composing (List Node)
  | 0 => throw .malformed
  | fuel + 1 => do
    if ← takes .item then
      let n ← orEmpty [.item, .key, .value, .blockEnd] (node handles inBlock fuel)
      return n :: (← sameIndentItems handles fuel)
    else return []

def blockEntries (handles : Handles) : Nat → Composing (List (Node × Node))
  | 0 => throw .malformed
  | fuel + 1 => do
    if ← takes .key then
      let ends : List Token := [.key, .value, .blockEnd]
      let k ← orEmpty ends (node handles inEntry fuel)
      let v ← valueOf ends (node handles inEntry fuel)
      return (k, v) :: (← blockEntries handles fuel)
    else
      take .blockEnd
      return []

/-- The items of a list in brackets. One with a key is a mapping of one entry. -/
def flowItems (handles : Handles) (first : Bool) : Nat → Composing (List Node)
  | 0 => throw .malformed
  | fuel + 1 => do
    if ← takes .listClose then return []
    if !first then take .comma
    if ← takes .key then
      let k ← orEmpty [.value, .comma, .listClose] (node handles inFlow fuel)
      let v ← valueOf [.comma, .listClose] (node handles inFlow fuel)
      return (← Node.ofEntries .map [(k, v)]) :: (← flowItems handles false fuel)
    else if ← takes .listClose then return []
    else return (← node handles inFlow fuel) :: (← flowItems handles false fuel)

/-- The entries of a mapping in braces. One without a key is a key by itself. -/
def flowEntries (handles : Handles) (first : Bool) : Nat → Composing (List (Node × Node))
  | 0 => throw .malformed
  | fuel + 1 => do
    if ← takes .mapClose then return []
    if !first then take .comma
    if ← takes .key then
      let k ← orEmpty [.value, .comma, .mapClose] (node handles inFlow fuel)
      let v ← valueOf [.comma, .mapClose] (node handles inFlow fuel)
      return (k, v) :: (← flowEntries handles false fuel)
    else if ← takes .mapClose then return []
    else
      let k ← node handles inFlow fuel
      return (k, .empty) :: (← flowEntries handles false fuel)

end

/-- The directives before a document: the short forms of tags they give. -/
def directives (version : Bool) (handles : Handles) : List Token → Except Error (Handles × List Token)
  | .directive (.version major) :: rest =>
    if version || major ≠ 1 then .error .malformed else directives true handles rest
  | .directive (.handle short full) :: rest =>
    if (handles.lookup short).isSome then .error .malformed
    else directives version ((short, full) :: handles) rest
  | .directive .unknown :: rest => directives version handles rest
  | ts => .ok (handles, ts)

def standardHandles : Handles := [("!", "!"), ("!!", Tag.standard)]

/-- The node of the only document, if there is one. -/
def document (ts : List Token) : Except Error (Option Node) := do
  let root (handles : Handles) (ts : List Token) : Except Error (Option Node) := do
    let (n, s) ← (node (handles ++ standardHandles) inBlock (2 * ts.length + 2)).run ⟨ts, []⟩
    if s.tokens.all (· = .documentEnd) then return some n else throw .malformed
  match ts with
  | [] => return none
  | .directive _ :: _ | .documentStart :: _ =>
    match ← directives false [] ts with
    | (handles, .documentStart :: rest) =>
      if rest.all (· = .documentEnd) then return some .empty else root handles rest
    | _ => throw .malformed
  | ts => root [] ts

end Composing
end FixTrial.Yaml
