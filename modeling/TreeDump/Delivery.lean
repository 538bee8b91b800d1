import TreeDump.Log

/-!
# Delivery

What is told of an artifact, the number of its tokens, and the two places where it can go: the
console, which may lack some characters, and the clipboard, which may be out of order.
-/

namespace TreeDump

/-! ### Tokens -/

/-- An encoder: the number of tokens that a text has for a language model, or a complaint. -/
abbrev Encoder := Text → Except Text Nat

/-- Count the tokens of a text. Without an encoder the number is estimated from the length, four
characters to a token. -/
def countTokens (encode : Encoder) (text : Text) : Nat × List Log.Entry :=
  match encode text with
  | .ok count => (count, [])
  | .error cause => (text.length / 4, [.tokensEstimated cause])

/-! ### The console -/

/-- The text with a question mark for every character beyond ASCII. -/
def asciiOnly (text : Text) : Text :=
  text.map fun c => if c.toNat < 0x80 then c else '?'

/-- Print a text on a console of the given encoding: what is written, and what is reported. A text
that the encoding cannot express is written in ASCII. -/
def printTo (encoding : Encoding) (text : Text) : Text × List Log.Entry :=
  if text.all fun c => (encoding.encodeChar? c).isSome then (text ++ ['\n'], [])
  else (asciiOnly text ++ ['\n'], [.asciiFallback])

/-! ### The clipboard -/

/-- A clipboard: in order, or out of order with a complaint. -/
abbrev Clipboard := Option Text

/-- What comes of a delivery: what the clipboard takes, what is printed, and what is reported. -/
structure Delivery where
  copied : Option Text
  output : Text
  log : List Log.Entry

/-- The notice that is printed when the clipboard is out of order. -/
def clipboardNotice : Text := "Clipboard unavailable, writing to console instead:\n\n".toList

/-- Deliver a text to the console. -/
def Delivery.toConsole (encoding : Encoding) (text : Text) : Delivery :=
  let (output, log) := printTo encoding text
  ⟨none, output, log⟩

/-- Deliver a text to the clipboard, or to the console when the clipboard is out of order. -/
def Delivery.toClipboard (clipboard : Clipboard) (encoding : Encoding) (text : Text) : Delivery :=
  match clipboard with
  | none => ⟨some text, [], []⟩
  | some complaint =>
    let (output, log) := printTo encoding text
    ⟨none, clipboardNotice ++ output, .clipboardFailed complaint :: log⟩

end TreeDump
