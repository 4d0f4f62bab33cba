/-! Tokens of a YAML document. -/
namespace FixTrial.Yaml

/-- What a document announces before it starts. -/
inductive Directive
  | version (major : Nat)
  /-- What a short form of tags stands for. -/
  | handle (short full : String)
  | unknown
deriving DecidableEq

inductive Token
  | directive (d : Directive)
  | documentStart
  | documentEnd
  | blockList
  | blockMap
  | blockEnd
  | listOpen
  | listClose
  | mapOpen
  | mapClose
  | comma
  /-- An item of a list in block form comes next. -/
  | item
  | key
  | value
  | anchor (name : String)
  | alias (name : String)
  /-- A tag, whose short form is none if it is written in full. -/
  | tag (short : Option String) (suffix : String)
  | scalar (text : String) (plain : Bool)
deriving DecidableEq, Inhabited

end FixTrial.Yaml
