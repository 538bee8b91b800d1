import TreeDump.Json.Basic
import TreeDump.Text.Integer

/-!
# Reading JSON

A reader for one JSON value. Besides the standard it takes the words `NaN`, `Infinity` and
`-Infinity`. It refuses integers of more than 4300 digits, and it gives up at the bracket where
lists and objects are nested too deeply. Any other error names the place where the reader stopped.
-/

namespace TreeDump.Json

/-! ### Errors -/

/-- What a JSON text lacks. -/
inductive Fault
  | value
  | propertyName
  | colon
  | comma
  | endOfText
  | endOfString
  | controlCharacter
  | escape
  | unicodeEscape
  | noByteOrderMark
  deriving DecidableEq, Repr

/-- The wording of a fault. -/
def Fault.message : Fault → Text
  | .value => "Expecting value".toList
  | .propertyName => "Expecting property name enclosed in double quotes".toList
  | .colon => "Expecting ':' delimiter".toList
  | .comma => "Expecting ',' delimiter".toList
  | .endOfText => "Extra data".toList
  | .endOfString => "Unterminated string starting at".toList
  | .controlCharacter => "Invalid control character at".toList
  | .escape => "Invalid \\escape".toList
  | .unicodeEscape => "Invalid \\uXXXX escape".toList
  | .noByteOrderMark => "Unexpected UTF-8 BOM (decode using utf-8-sig)".toList

/-- The values that have values in them. -/
inductive Container
  | array
  | object
  deriving DecidableEq, Repr

/-- The name of a kind of container. -/
def Container.name : Container → Text
  | .array => "array".toList
  | .object => "object".toList

/-- Why a text is not read. -/
inductive ReadError
  /-- a fault, and the text before the place where it shows -/
  | fault (kind : Fault) (before : Text)
  /-- an integer with too many digits -/
  | tooManyDigits (count : Nat)
  /-- a container inside as many others as there may be -/
  | tooDeep (container : Container)
  deriving DecidableEq, Repr

/-- How many containers may be open at a time. -/
def nestingLimit : Nat := 986

/-- The place after a text: line and column counted from one, and offset counted from zero. -/
def placeAfter (before : Text) : Text :=
  let column := (before.reverse.takeWhile (· != '\n')).length + 1
  "line ".toList ++ Text.ofNat (before.count '\n' + 1) ++ " column ".toList ++ Text.ofNat column
    ++ " (char ".toList ++ Text.ofNat before.length ++ ")".toList

/-- The wording of an error. -/
def ReadError.message : ReadError → Text
  | .fault kind before => kind.message ++ ": ".toList ++ placeAfter before
  | .tooManyDigits count =>
    "Exceeds the limit (".toList ++ Text.ofNat Text.maxDigits
      ++ " digits) for integer string conversion: value has ".toList ++ Text.ofNat count
      ++ " digits; use sys.set_int_max_str_digits() to increase the limit".toList
  | .tooDeep container =>
    "maximum recursion depth exceeded while decoding a JSON ".toList ++ container.name
      ++ " from a unicode string".toList

/-- Why the reader stopped, with the text from that place on. -/
inductive Stop
  | fault (kind : Fault) (rest : Text)
  | tooManyDigits (count : Nat)
  | tooDeep (container : Container)

/-- The error of a stop inside a whole text. -/
def Stop.error (whole : Text) : Stop → ReadError
  | .fault kind rest => .fault kind (whole.take (whole.length - rest.length))
  | .tooManyDigits count => .tooManyDigits count
  | .tooDeep container => .tooDeep container

/-! ### Words and blanks -/

/-- The four blanks of JSON. -/
def isJsonBlank (c : Char) : Bool :=
  c == ' ' || c == '\t' || c == '\n' || c == '\r'

/-- Pass over blanks. -/
def skipBlanks (t : Text) : Text :=
  t.dropWhile isJsonBlank

/-- The text after `word`, if it starts with it. -/
def afterWord? (word t : Text) : Option Text :=
  if word.isPrefixOf t then some (t.drop word.length) else none

/-! ### Strings -/

/-- The value of a hexadecimal digit. -/
def hexDigit? (c : Char) : Option Nat :=
  if '0' ≤ c ∧ c ≤ '9' then some (c.toNat - 0x30)
  else if 'a' ≤ c ∧ c ≤ 'f' then some (c.toNat - 0x61 + 10)
  else if 'A' ≤ c ∧ c ≤ 'F' then some (c.toNat - 0x41 + 10)
  else none

/-- The value of four hexadecimal digits. -/
def hexUnit? (a b c d : Char) : Option Nat := do
  let a ← hexDigit? a
  let b ← hexDigit? b
  let c ← hexDigit? c
  let d ← hexDigit? d
  return ((a * 16 + b) * 16 + c) * 16 + d

/-- The character that a backslash and `c` stand for. -/
def escaped? (c : Char) : Option Char :=
  if c = '\x22' || c = '\\' || c = '/' then some c
  else if c = 'b' then some '\x08'
  else if c = 'f' then some '\x0c'
  else if c = 'n' then some '\n'
  else if c = 'r' then some '\r'
  else if c = 't' then some '\t'
  else none

/-- The unit of the escape that a text starts with, once `\u` is passed, and the text after it. An
escape is complete only when another character comes after it. -/
def readUnit (t : Text) : Except Stop (Nat × Text) :=
  match t with
  | a :: b :: c :: d :: e :: r =>
    match hexUnit? a b c d with
    | some unit => .ok (unit, e :: r)
    | none => .error (.fault .unicodeEscape ('u' :: t))
  | _ => .error (.fault .unicodeEscape ('u' :: t))

/-- The character of a unit, which may be a surrogate on its own. -/
def unitChar (unit : Nat) : RawChar :=
  if h : 0xd800 ≤ unit ∧ unit < 0xe000 then .surrogate unit h else .char (Char.ofNat unit)

/-- The low surrogate of an escape that a text starts with, and the text after it. -/
def readLowSurrogate? (t : Text) : Except Stop (Option (Nat × Text)) :=
  match t with
  | '\\' :: 'u' :: r =>
    if r.length < 5 then .ok none
    else
      match readUnit r with
      | .error stop => .error stop
      | .ok (unit, r') =>
        if 0xdc00 ≤ unit && unit < 0xe000 then .ok (some (unit, r')) else .ok none
  | _ => .ok none

/-- The character of an escape, once `\u` is passed, and the text after it. -/
def readUnicodeEscape (t : Text) : Except Stop (RawChar × Text) :=
  match readUnit t with
  | .error stop => .error stop
  | .ok (unit, r) =>
    if 0xd800 ≤ unit && unit < 0xdc00 then
      match readLowSurrogate? r with
      | .error stop => .error stop
      | .ok (some (low, r')) =>
        .ok (.char (Char.ofNat (0x10000 + (unit - 0xd800) * 0x400 + (low - 0xdc00))), r')
      | .ok none => .ok (unitChar unit, r)
    else .ok (unitChar unit, r)

/-- The characters of a string up to its closing quote, and the text after it. `start` is the text
from the opening quote on. -/
def readString (start : Text) : Nat → Text → Except Stop (JsonString × Text)
  | 0, _ => .error (.fault .endOfString start)
  | _ + 1, [] => .error (.fault .endOfString start)
  | n + 1, c :: r =>
    if c = '\x22' then .ok ([], r)
    else if c = '\\' then
      match r with
      | [] => .error (.fault .endOfString start)
      | e :: r' =>
        if e = 'u' then
          match readUnicodeEscape r' with
          | .error stop => .error stop
          | .ok (d, r'') => do
            let (chars, rest) ← readString start n r''
            return (d :: chars, rest)
        else
          match escaped? e with
          | some d => do
            let (chars, rest) ← readString start n r'
            return (.char d :: chars, rest)
          | none => .error (.fault .escape (c :: r))
    else if c.toNat < 0x20 then .error (.fault .controlCharacter (c :: r))
    else do
      let (chars, rest) ← readString start n r
      return (.char c :: chars, rest)

/-! ### Numbers -/

/-- The number that decimal digits spell. -/
def digitsValue (digits : Text) : Nat :=
  digits.foldl (fun n c => n * 10 + (c.toNat - 0x30)) 0

/-- The digits of the whole part of a number, and the text after them: a zero, or digits that do
not start with one. -/
def wholeDigits? : Text → Option (Text × Text)
  | '0' :: r => some (['0'], r)
  | c :: r =>
    if c.isDigit then some (c :: r.takeWhile Char.isDigit, r.dropWhile Char.isDigit) else none
  | [] => none

/-- The digits after a point, and the text after them; none when no digit follows a point. -/
def fractionDigits : Text → Text × Text
  | '.' :: r =>
    match r.takeWhile Char.isDigit with
    | [] => ([], '.' :: r)
    | digits => (digits, r.dropWhile Char.isDigit)
  | t => ([], t)

/-- The sign of an exponent, and the text after it. -/
def exponentSign : Text → Bool × Text
  | '-' :: r => (true, r)
  | '+' :: r => (false, r)
  | t => (false, t)

/-- The exponent of a number, and the text after it; none when no digit follows the mark. -/
def exponent? : Text → Option (Int × Text)
  | [] => none
  | c :: r =>
    if c = 'e' ∨ c = 'E' then
      let (negative, r') := exponentSign r
      match r'.takeWhile Char.isDigit with
      | [] => none
      | digits =>
        let n : Int := digitsValue digits
        some (if negative then -n else n, r'.dropWhile Char.isDigit)
    else none

/-- A number without its sign, and the text after it. -/
def readMagnitude (negative : Bool) (t : Text) : Option (Except Stop (Json × Text)) := do
  let (whole, r) ← wholeDigits? t
  let (fraction, r') := fractionDigits r
  match fraction, exponent? r' with
  | [], none =>
    if Text.maxDigits < whole.length then return .error (.tooManyDigits whole.length)
    else
      let n : Int := digitsValue whole
      return .ok (.integer (if negative then -n else n), r')
  | fraction, exponent =>
    let (power, rest) := exponent.getD (0, r')
    return .ok (.float (.ofDecimal negative (digitsValue (whole ++ fraction))
      (power - fraction.length)), rest)

/-- A number, and the text after it. -/
def readNumber (t : Text) : Except Stop (Json × Text) :=
  let number? :=
    match t with
    | '-' :: r => readMagnitude true r
    | _ => readMagnitude false t
  number?.getD (.error (.fault .value t))

/-! ### Values -/

/-- The values that are words. -/
def words : List (Text × Json) :=
  [("null".toList, .null), ("true".toList, .bool true), ("false".toList, .bool false),
   ("NaN".toList, .float .notANumber), ("Infinity".toList, .float (.infinite false)),
   ("-Infinity".toList, .float (.infinite true))]

/-- A word or a number, and the text after it. -/
def readScalar (t : Text) : Except Stop (Json × Text) :=
  match words.findSome? fun (word, value) => (afterWord? word t).map fun r => (value, r) with
  | some found => .ok found
  | none => readNumber t

/-- A string, once its opening quote is passed. -/
def readQuoted (r : Text) : Except Stop (JsonString × Text) :=
  readString ('\x22' :: r) (r.length + 1) r

mutual

/-- A value at the start of a text, and the text after it. `room` containers may be opened yet, and
the first number bounds the steps. -/
def readValue : Nat → Nat → Text → Except Stop (Json × Text)
  | 0, _, t => .error (.fault .value t)
  | n + 1, room, t =>
    match t, room with
    | '\x22' :: r, _ => do
      let (chars, rest) ← readQuoted r
      return (.text chars, rest)
    | '[' :: _, 0 => .error (.tooDeep .array)
    | '[' :: r, room + 1 =>
      match skipBlanks r with
      | ']' :: rest => .ok (.array [], rest)
      | r' => do
        let (items, rest) ← readItems n room r'
        return (.array items, rest)
    | '\x7b' :: _, 0 => .error (.tooDeep .object)
    | '\x7b' :: r, room + 1 =>
      match skipBlanks r with
      | '\x7d' :: rest => .ok (.object [], rest)
      | r' => do
        let (fields, rest) ← readFields n room r'
        return (.object (collectFields fields), rest)
    | _, _ => readScalar t

/-- The values of a list up to its closing bracket, and the text after it. -/
def readItems : Nat → Nat → Text → Except Stop (List Json × Text)
  | 0, _, t => .error (.fault .value t)
  | n + 1, room, t => do
    let (item, r) ← readValue n room t
    match skipBlanks r with
    | ']' :: rest => return ([item], rest)
    | ',' :: r' =>
      let (items, rest) ← readItems n room (skipBlanks r')
      return (item :: items, rest)
    | r' => .error (.fault .comma r')

/-- The fields of an object up to its closing brace, and the text after it. -/
def readFields : Nat → Nat → Text → Except Stop (List (JsonString × Json) × Text)
  | 0, _, t => .error (.fault .value t)
  | n + 1, room, t => do
    match t with
    | '\x22' :: r =>
      let (key, r) ← readQuoted r
      match skipBlanks r with
      | ':' :: r =>
        let (value, r) ← readValue n room (skipBlanks r)
        match skipBlanks r with
        | '\x7d' :: rest => return ([(key, value)], rest)
        | ',' :: r =>
          let (fields, rest) ← readFields n room (skipBlanks r)
          return ((key, value) :: fields, rest)
        | r => .error (.fault .comma r)
      | r => .error (.fault .colon r)
    | _ => .error (.fault .propertyName t)

end

/-- The one value of a text between blanks. -/
def readWhole (t : Text) : Except Stop Json := do
  if t.head? = some '\ufeff' then throw (.fault .noByteOrderMark t)
  let (value, rest) ← readValue (2 * t.length + 2) nestingLimit (skipBlanks t)
  match skipBlanks rest with
  | [] => return value
  | r => .error (.fault .endOfText r)

/-- Read a JSON text. -/
def ofText (t : Text) : Except ReadError Json :=
  (readWhole t).mapError (Stop.error t)

end TreeDump.Json
