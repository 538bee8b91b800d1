import TreeDump.Options.Usage
import TreeDump.Text.Printable

/-!
# Reading the command line

First each word is classified: a flag, the separator `--`, an operand, or something that looks like
a flag and is none. Then the words are taken in order. A long flag may be shortened as long as one
flag only fits, short flags may be joined, and the value of a flag may follow an equals sign or be
the next operand. The first operand is the directory. A separator that is joined to a flag as its
value is taken out, so that the flag is given nothing.
-/

namespace TreeDump

open Usage (Complaint)

/-- A word of the command line. -/
inductive Word
  | operand (text : Text)
  /-- the word `--`, after which all words are operands -/
  | separator
  /-- a flag, as it is spelled in full, with the value that is joined to it -/
  | flag (flag : Flag) (spelling : Text) (value : Option Text)
  /-- a word that looks like a flag -/
  | unknown (text : Text)
  deriving DecidableEq, Repr

/-- Why a command line gives no options. -/
inductive Refusal
  | help
  | complaint (complaint : Complaint)
  deriving DecidableEq, Repr

namespace Word

/-! ### Classifying words -/

/-- The separator. -/
def separatorText : Text := ['-', '-']

/-- Is the text a negative number, with or without a point? A line feed may follow it. -/
def isNegativeNumber (t : Text) : Bool :=
  match t with
  | '-' :: r =>
    let number := if r.getLast? = some '\n' then r.dropLast else r
    let tail := number.dropWhile isDecimalDigit
    match tail with
    | [] => number != []
    | '.' :: fraction => fraction != [] && fraction.all isDecimalDigit
    | _ => false
  | _ => false

/-- The flags that a word may be short for, each with its full spelling and the value joined to
it. -/
def candidates (word : Text) : List (Flag × Text × Option Text) :=
  if separatorText.isPrefixOf word then
    let (start, value) :=
      match Text.cutAt? '=' word with
      | some (start, value) => (start, some value)
      | none => (word, none)
    (Flag.spellings.filter fun entry => start.isPrefixOf entry.1).map fun entry =>
      (entry.2, entry.1, value)
  else
    (Flag.spellings.filter fun entry => entry.1 = word.take 2).map fun entry =>
      (entry.2, entry.1, some (word.drop 2))

/-- The flag that is spelled in full before an equals sign. -/
def flagWithValue? (word : Text) : Option Word := do
  let (spelling, value) ← Text.cutAt? '=' word
  let found ← Flag.ofSpelling? spelling
  return .flag found spelling (some value)

/-- Classify a word that starts with a hyphen and has more characters, and that is no full
spelling of a flag. -/
def ofShort (word : Text) : Except Complaint Word :=
  match flagWithValue? word with
  | some found => .ok found
  | none =>
    match candidates word with
    | [] =>
      if isNegativeNumber word || word.contains ' ' then .ok (.operand word)
      else .ok (.unknown word)
    | [(found, spelling, value)] => .ok (.flag found spelling value)
    | several => .error (.ambiguous word (several.map fun candidate => candidate.2.1))

/-- Classify a word. -/
def ofText (word : Text) : Except Complaint Word :=
  match word with
  | '-' :: rest =>
    match Flag.ofSpelling? word with
    | some found => .ok (.flag found word none)
    | none => if rest = [] then .ok (.operand word) else ofShort word
  | _ => .ok (.operand word)

/-- Classify the words of a command line. -/
def ofTexts : List Text → Except Complaint (List Word)
  | [] => .ok []
  | word :: words =>
    if word = separatorText then .ok (.separator :: words.map .operand)
    else do
      let first ← ofText word
      let rest ← ofTexts words
      return first :: rest

end Word

namespace Options

/-! ### Taking words -/

/-- The switches of a short flag and of the flags joined to it. -/
def joinedSwitches (switch : Switch) : Text → Except Complaint (List Switch)
  | [] => .ok [switch]
  | c :: rest =>
    match Flag.ofSpelling? ['-', c] with
    | some (.switch next) => (switch :: ·) <$> joinedSwitches next rest
    | _ => .error (.unwantedValue (.switch switch) (c :: rest))

/-- The switches of a flag that stands alone, with what is joined to it. Only short flags can be
joined, with or without an equals sign; an equals sign with nothing after it is refused. -/
def switchesOf (switch : Switch) (spelling : Text) (value : Option Text) :
    Except Complaint (List Switch) :=
  match value with
  | none => .ok [switch]
  | some value =>
    if Word.separatorText.isPrefixOf spelling || value = [] then
      .error (.unwantedValue (.switch switch) value)
    else joinedSwitches switch value

/-- Turn switches on in order, up to one that asks for help. -/
def turnOnAll (options : Options) : List Switch → Except Refusal Options
  | [] => .ok options
  | switch :: switches =>
    if switch = .help then .error .help else turnOnAll (options.turnOn switch) switches

/-- The value that is joined to a setting. -/
def joinedValue (text : Text) : SettingValue :=
  if text = Word.separatorText then .nothing else .text text

/-- What has been taken from the command line so far. -/
structure Taking where
  options : Options := {}
  /-- has the place of the directory been filled? -/
  placed : Bool := false
  /-- the words for which there is no use -/
  extras : List Text := []
  deriving DecidableEq, Repr

/-- Fill the place of the directory. -/
def Taking.place (taking : Taking) (directory : Option Text) : Taking :=
  { taking with options := { taking.options with directory := directory }, placed := true }

/-- Note a word for which there is no use. -/
def Taking.pass (taking : Taking) (word : Text) : Taking :=
  { taking with extras := taking.extras ++ [word] }

/-- Take the words of a command line in order. The separator goes with the operand that fills the
place of the directory, before or after it. -/
def take (taking : Taking) : List Word → Except Refusal Taking
  | [] => .ok taking
  | .operand text :: words =>
    if taking.placed then take (taking.pass text) words
    else
      match words with
      | .separator :: words => take (taking.place (some text)) words
      | words => take (taking.place (some text)) words
  | .separator :: words =>
    if taking.placed then take (taking.pass Word.separatorText) words
    else
      match words with
      | .operand text :: words => take (taking.place (some text)) words
      | words => take (taking.place none) words
  | .unknown text :: words => take (taking.pass text) words
  | .flag (.setting setting) _ (some value) :: words =>
    take { taking with options := taking.options.give (joinedValue value) setting } words
  | .flag (.setting setting) _ none :: words =>
    match words with
    | .operand value :: words =>
      take { taking with options := taking.options.give (.text value) setting } words
    | _ => .error (.complaint (.missingValue (.setting setting)))
  | .flag (.switch switch) spelling value :: words => do
    let switches ← (switchesOf switch spelling value).mapError .complaint
    let options ← turnOnAll taking.options switches
    take { taking with options := options } words

/-- The options of a command line. -/
def parse (arguments : List Text) : Except Refusal Options := do
  let words ← (Word.ofTexts arguments).mapError .complaint
  let taking ← take {} words
  if taking.extras = [] then return taking.options
  else .error (.complaint (.unrecognized taking.extras))

end Options

end TreeDump
