import TreeDump.Text.Printable

/-!
# Quoted texts

A text between quotes, as error messages show paths. Single quotes are preferred, double ones are
taken when the text holds a single quote and no double one; the quote in use, the backslash and
every unprintable character are escaped.
-/

namespace TreeDump.Text

/-- The apostrophe. -/
def singleQuote : Char := '\x27'

/-- The double quote. -/
def doubleQuote : Char := '\x22'

/-- The quote that encloses a text. -/
def quoteFor (t : Text) : Char :=
  if t.contains singleQuote && !t.contains doubleQuote then doubleQuote else singleQuote

/-- A character inside quotes. -/
def escape (quote c : Char) : Text :=
  if c = quote || c = '\\' then ['\\', c]
  else if c = '\t' then ['\\', 't']
  else if c = '\n' then ['\\', 'n']
  else if c = '\r' then ['\\', 'r']
  else if isPrintable c then [c]
  else if c.toNat < 0x100 then '\\' :: 'x' :: ofHex 2 c.toNat
  else if c.toNat < 0x10000 then '\\' :: 'u' :: ofHex 4 c.toNat
  else '\\' :: 'U' :: ofHex 8 c.toNat

/-- The text between quotes. -/
def quoted (t : Text) : Text :=
  let quote := quoteFor t
  quote :: t.flatMap (escape quote) ++ [quote]

end TreeDump.Text
