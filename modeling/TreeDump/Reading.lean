import TreeDump.Configuration.Basic
import TreeDump.FileSystem.Access
import TreeDump.Log

/-!
# Reading source files

The content of a source file as text. Notebooks are rendered by a renderer that is given; any other
file is decoded from its bytes, whatever they are.
-/

namespace TreeDump

/-- A renderer of notebooks: the Markdown of a notebook's text, or a complaint. -/
abbrev NotebookRenderer := Text → Except Text Text

/-- The outcome of reading a file, with what is reported on the way. -/
structure Reading where
  content : Except Failure Text
  log : List Log.Entry

/-- The extension of notebooks. -/
def notebookExtension : Text := "ipynb".toList

/-- What is reported before the file at a path is opened. -/
def Reading.announcement (path : Text) : List Log.Entry :=
  if extensionOf (Path.baseName path) = notebookExtension then [.notebookConverted path] else []

/-- What is reported about a decoded file. -/
def Decoded.log (decoded : Decoded) (path : Text) : List Log.Entry :=
  let fallen :=
    match decoded.notUtf16 with
    | some cause => [.notUtf16 path cause]
    | none => []
  let eightBit :=
    match decoded.encoding with
    | .cp1252 => [.readAsCp1252 path]
    | .latin1 => [.readAsLatin1 path]
    | _ => []
  fallen ++ eightBit

/-- The reading of a file with the given bytes. -/
def Reading.ofBytes (path : Text) (bytes : Bytes) : Reading :=
  let decoded := Decoded.ofBytes bytes
  ⟨.ok decoded.text, decoded.log path⟩

namespace FileSystem

/-- The Markdown of the notebook at a path. -/
def renderNotebook (fs : FileSystem) (render : NotebookRenderer) (path : Text) :
    Except Failure Text := do
  let bytes ← (fs.readAllowed path).mapError .file
  let text ← (Utf8.decode bytes).mapError .decoding
  (render text).mapError .notebook

/-- The content of the source file at a path. -/
def readContent (fs : FileSystem) (render : NotebookRenderer) (path : Text) : Reading :=
  if extensionOf (Path.baseName path) = notebookExtension then
    ⟨fs.renderNotebook render path, [.notebookConverted path]⟩
  else
    match fs.readAllowed path with
    | .ok bytes => .ofBytes path bytes
    | .error e => ⟨.error (.file e), []⟩

end FileSystem

end TreeDump
