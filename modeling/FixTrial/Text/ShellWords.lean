/-! Commands cut into words, with the quoting rules of the shell. -/
namespace FixTrial.Text

inductive ShellError
  | openQuotation
  | openEscape
deriving DecidableEq

def ShellError.message : ShellError → String
  | .openQuotation => "No closing quotation"
  | .openEscape => "No escaped character"

def isShellBlank (c : Char) : Bool := c = ' ' || c = '\t' || c = '\r' || c = '\n'

/-- Where the reader stands: between words, in a word, or in a quotation within a word, which may be
of the kind that knows escapes. -/
inductive ShellState
  | between
  | word
  | quotation (quote : Char)
deriving DecidableEq

/-- The words from here on; `word` holds the one being read, last character first. Between words
nothing is held. -/
def shellWordsFrom (state : ShellState) (word : List Char) :
    List Char → Except ShellError (List (List Char))
  | [] =>
    match state with
    | .between => .ok []
    | .word => .ok [word.reverse]
    | .quotation _ => .error .openQuotation
  | '\\' :: rest =>
    match state, rest with
    | .quotation '"', [] => .error .openEscape
    | .quotation '"', c :: rest =>
      if c = '"' || c = '\\' then shellWordsFrom state (c :: word) rest
      else shellWordsFrom state (c :: '\\' :: word) rest
    | .quotation _, rest => shellWordsFrom state ('\\' :: word) rest
    | _, [] => .error .openEscape
    | _, c :: rest => shellWordsFrom .word (c :: word) rest
  | c :: rest =>
    match state with
    | .quotation q =>
      if c = q then shellWordsFrom .word word rest else shellWordsFrom state (c :: word) rest
    | _ =>
      if c = '\'' || c = '"' then shellWordsFrom (.quotation c) word rest
      else if isShellBlank c then
        match state with
        | .word => (shellWordsFrom .between [] rest).map (word.reverse :: ·)
        | _ => shellWordsFrom .between [] rest
      else shellWordsFrom .word (c :: word) rest

def shellWords (s : String) : Except ShellError (List String) :=
  (shellWordsFrom .between [] s.toList).map fun ws => ws.map String.ofList

end FixTrial.Text
