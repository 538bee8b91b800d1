import TreeDump.Json.Basic

/-!
# Writing JSON

Strings, and lists and objects of them, written in ASCII with one item a line.
-/

namespace TreeDump.Json

/-- The escape of a unit of UTF-16. -/
def unitEscape (unit : Nat) : Text :=
  '\\' :: 'u' :: Text.ofHex 4 unit

/-- A character inside a string. -/
def escapeChar (c : Char) : Text :=
  if c = '\x22' ∨ c = '\\' then ['\\', c]
  else if c = '\n' then ['\\', 'n']
  else if c = '\r' then ['\\', 'r']
  else if c = '\t' then ['\\', 't']
  else if c = '\x08' then ['\\', 'b']
  else if c = '\x0c' then ['\\', 'f']
  else if 0x20 ≤ c.toNat ∧ c.toNat < 0x7f then [c]
  else if c.toNat < 0x10000 then unitEscape c.toNat
  else
    let rest := c.toNat - 0x10000
    unitEscape (0xd800 + rest / 0x400) ++ unitEscape (0xdc00 + rest % 0x400)

/-- A string. -/
def printString (t : Text) : Text :=
  '\x22' :: t.flatMap escapeChar ++ ['\x22']

/-- A new line, indented by two spaces for each level. -/
def newLine (level : Nat) : Text :=
  '\n' :: List.replicate (2 * level) ' '

/-- Items between brackets, each on a line of its own one level deeper than the brackets. -/
def printBlock (level : Nat) (opening closing : Char) (items : List Text) : Text :=
  match items with
  | [] => [opening, closing]
  | items =>
    opening :: newLine (level + 1)
      ++ (',' :: newLine (level + 1)).intercalate items ++ newLine level ++ [closing]

/-- A list of strings. -/
def printStrings (level : Nat) (ts : List Text) : Text :=
  printBlock level '[' ']' (ts.map printString)

/-- An object whose fields are lists of strings. -/
def printLists (fields : List (Text × List Text)) : Text :=
  printBlock 0 '\x7b' '\x7d' (fields.map fun (key, items) =>
    printString key ++ ": ".toList ++ printStrings 1 items)

end TreeDump.Json
