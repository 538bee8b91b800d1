import TreeDump.Text.Basic

/-!
# Comments

A scanner that drops `//` line comments and `/* */` block comments from source text in any
language. It knows two kinds of literals, opened and closed by the same quote and copied as they
are; a backslash in a literal means nothing. The line end after a line comment stays.

The scanner is a machine with five states that sees one character ahead. `scan` lists its moves,
and what is kept, where it ends and which states it meets are read off that list.
-/

namespace TreeDump.Comment

/-- Where in the source text the scanner stands. -/
inductive State
  | code
  | doubleQuoted
  | singleQuoted
  | lineComment
  | blockComment
  deriving DecidableEq, Repr

/-- Is the scanner inside a comment? -/
def State.isComment : State → Bool
  | .lineComment | .blockComment => true
  | .code | .doubleQuoted | .singleQuoted => false

/-- What the scanner does at a character. -/
inductive Move
  /-- copy the character -/
  | keep (next : State)
  /-- pass over the character -/
  | skip (next : State)
  /-- pass over the character and the one after it -/
  | skipTwo (next : State)
  deriving DecidableEq, Repr

/-- The state after a move. -/
def Move.next : Move → State
  | .keep s | .skip s | .skipTwo s => s

/-- The state after a character that is copied as code. -/
def stateAfterCode (c : Char) : State :=
  if c = '\x22' then .doubleQuoted
  else if c = '\x27' then .singleQuoted
  else .code

/-- The move in state `s` at the character `c` when `ahead` comes after it. -/
def move (s : State) (c : Char) (ahead : Option Char) : Move :=
  match s with
  | .code =>
    if c = '/' ∧ ahead = some '*' then .skipTwo .blockComment
    else if c = '/' ∧ ahead = some '/' then .skipTwo .lineComment
    else .keep (stateAfterCode c)
  | .doubleQuoted => .keep (if c = '\x22' then .code else .doubleQuoted)
  | .singleQuoted => .keep (if c = '\x27' then .code else .singleQuoted)
  | .lineComment => if c = '\r' ∨ c = '\n' then .keep .code else .skip .lineComment
  | .blockComment =>
    if c = '*' ∧ ahead = some '/' then .skipTwo .code else .skip .blockComment

/-- One move, with the state and the character at which it is made. -/
structure Step where
  state : State
  char : Char
  move : Move
  deriving DecidableEq, Repr

/-- The moves over a text, from state `s`. -/
def scan (s : State) : Text → List Step
  | [] => []
  | c :: r =>
    let m := move s c r.head?
    ⟨s, c, m⟩ ::
      match m with
      | .keep next | .skip next => scan next r
      | .skipTwo next =>
        match r with
        | [] => []
        | _ :: r' => scan next r'

/-- The character of a step that copies it, with the state in which it was met. -/
def Step.kept? (step : Step) : Option (State × Char) :=
  match step.move with
  | .keep _ => some (step.state, step.char)
  | .skip _ | .skipTwo _ => none

/-- The characters that are kept, each with the state in which it was met. -/
def kept (s : State) (t : Text) : List (State × Char) :=
  (scan s t).filterMap Step.kept?

/-- The text that is kept of `t`, scanned from state `s`. -/
def stripFrom (s : State) (t : Text) : Text :=
  (kept s t).map Prod.snd

/-- The state in which a scan of `t` from state `s` ends. -/
def stateAfter (s : State) (t : Text) : State :=
  (scan s t).foldl (fun _ step => step.move.next) s

/-- The states that a scan of `t` from state `s` enters, one for each move. -/
def statesEntered (s : State) (t : Text) : List State :=
  (scan s t).map fun step => step.move.next

/-- The text without its comments. -/
def strip (t : Text) : Text :=
  stripFrom .code t

end TreeDump.Comment
