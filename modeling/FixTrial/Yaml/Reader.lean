import FixTrial.Text.Lines
import FixTrial.Yaml.Composition
import FixTrial.Yaml.Lexer

/-! YAML documents read from text. -/
namespace FixTrial.Yaml

/-- The value of the document in a text, null if there is none. Only a single document may be
there. -/
def read (s : String) : Except Error Yaml := do
  let unify (c : Char) : Char := if c = '\x85' then '\n' else c
  let ts ← tokens ((Text.unifyNewlines s.toList).map unify)
  match ← Composing.document ts with
  | some n => n.toValue
  | none => return .null

end FixTrial.Yaml
