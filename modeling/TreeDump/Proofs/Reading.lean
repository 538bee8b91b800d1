import Mathlib.Tactic.Common
import TreeDump.Reading
import TreeDump.Proofs.Encoding.Choice

/-!
# Files as text

A file that is no notebook is read whatever bytes it holds, and no byte of it is lost. If the bytes
are a form of Unicode that shows its encoding, the text is the one that was written, and nothing is
reported.
-/

namespace TreeDump

variable {path : Text} {bytes : Bytes}

/-! ### Reports -/

/-- The warning about a file that is read in an encoding of one byte a character. -/
def Encoding.warning? (path : Text) : Encoding → Option Log.Entry
  | .cp1252 => some (.readAsCp1252 path)
  | .latin1 => some (.readAsLatin1 path)
  | _ => none

/-- What is reported about a file with the given bytes when it is read in an encoding: nothing if
there is no warning about the encoding, and otherwise this warning, after another one if a mark
promised UTF-16. -/
inductive Encoding.Reports (path : Text) (bytes : Bytes) (e : Encoding) : List Log.Entry → Prop
  | nothing (h : e.warning? path = none) : e.Reports path bytes []
  | warning {entry : Log.Entry} (h : e.warning? path = some entry)
      (unmarked : ∀ order, ¬Utf16.mark order <+: bytes) : e.Reports path bytes [entry]
  | broken {entry : Log.Entry} {order : ByteOrder} {rest : Bytes} {cause : DecodeError}
      (h : e.warning? path = some entry) (marked : bytes = Utf16.mark order ++ rest)
      (malformed : Utf16.decodeFrom order 2 rest = .error cause) :
      e.Reports path bytes [.notUtf16 path cause, entry]

namespace Decoded

lemma log_eq (decoded : Decoded) (path : Text) :
    decoded.log path
      = (decoded.notUtf16.map (Log.Entry.notUtf16 path)).toList
        ++ (decoded.encoding.warning? path).toList := by
  obtain ⟨text, encoding, cause⟩ := decoded
  cases cause <;> cases encoding <;> rfl

lemma IsReading.reports {decoded : Decoded} (h : IsReading bytes decoded) :
    decoded.encoding.Reports path bytes (decoded.log path) := by
  rw [log_eq]
  cases h with
  | utf16 => exact .nothing rfl
  | @utf8 text cause notUtf16 read =>
    cases notUtf16 with
    | unmarked => exact .nothing rfl
    | @malformed order rest _ marked =>
      exact absurd ⟨rest, marked.symm⟩ (unmarked_of_utf8 read order)
  | cp1252 notUtf16 | latin1 notUtf16 =>
    cases notUtf16 with
    | unmarked unmarked => exact .warning rfl unmarked
    | malformed marked malformed => exact .broken rfl marked malformed

end Decoded

lemma Encoding.Reports.level_eq {e : Encoding} {log : List Log.Entry}
    (h : e.Reports path bytes log) : ∀ entry ∈ log, entry.level = .warning := by
  have eightBit : ∀ entry, e.warning? path = some entry → entry.level = .warning := by
    intro entry h
    cases e <;> cases h <;> rfl
  cases h with
  | nothing => simp
  | warning h => simpa using eightBit _ h
  | broken h => simpa [Log.Entry.level] using eightBit _ h

namespace FileSystem

variable {fs : FileSystem} {render : NotebookRenderer}

lemma readContent_of_plain (plain : extensionOf (Path.baseName path) ≠ notebookExtension)
    (opened : fs.readAllowed path = .ok bytes) :
    fs.readContent render path = .ofBytes path bytes := by
  rw [readContent, if_neg plain, opened]

/-- Reading a file reports the rendering of a notebook, or warnings. -/
lemma log_readContent {entry : Log.Entry} (mem : entry ∈ (fs.readContent render path).log) :
    entry = .notebookConverted path ∨ entry.level = .warning := by
  rw [readContent] at mem
  split at mem
  · exact .inl (List.mem_singleton.mp mem)
  · split at mem
    next bytes _ =>
      exact .inr ((Decoded.isReading_ofBytes bytes).reports.level_eq entry mem)
    next => cases mem

/-- A file that is no notebook is read in the one encoding that is chosen for its bytes, and its
text is written in this encoding with the same bytes, once the mark is put back. There are warnings
about an encoding of one byte a character only, and about a mark of UTF-16 that came before it. -/
theorem readContent_lossless
    (plain : extensionOf (Path.baseName path) ≠ notebookExtension)
    (opened : fs.readAllowed path = .ok bytes) :
    ∃ text log encoding written,
      fs.readContent render path = ⟨.ok text, log⟩ ∧
      (∀ e : Encoding, e.IsChosenFor bytes ↔ e = encoding) ∧
      encoding.encode? text = some written ∧ encoding.markIn bytes ++ written = bytes ∧
      encoding.Reports path bytes log ∧ ∀ entry ∈ log, entry.level = .warning := by
  have reading := Decoded.isReading_ofBytes bytes
  obtain ⟨written, encoded, whole⟩ := reading.encode?_text
  refine ⟨_, _, _, written, readContent_of_plain plain opened, ?_, encoded, whole,
    reading.reports, reading.reports.level_eq⟩
  intro e
  constructor
  · intro h
    exact h.unique reading.isChosenFor
  · rintro rfl
    exact reading.isChosenFor

/-- A text that starts with the character of the mark, with line ends of three kinds and a
character beyond the first 2^16. -/
def markedText : Text := "\ufeffclef 𝄞\r\nkey\rtime\n".toList

/-- A directory with a text in UTF-16 and a file that breaks off in the middle of a unit. -/
def markedFiles : FileSystem where
  nodes := [("text", Node.file (Utf16.mark .little ++ Utf16.encode .little markedText)),
    ("broken", Node.file [0xff, 0xfe, 0x41])].foldl
      (fun nodes (path, node) => nodes.insert (Path.components path.toList) node) .empty
  workingDirectory := []
  denied := []

theorem readContent_lossless_broken :
    ∃ text log encoding written,
      markedFiles.readContent .ok "/broken".toList = ⟨.ok text, log⟩ ∧
      (∀ e : Encoding, e.IsChosenFor [0xff, 0xfe, 0x41] ↔ e = encoding) ∧
      encoding.encode? text = some written ∧
      encoding.markIn [0xff, 0xfe, 0x41] ++ written = [0xff, 0xfe, 0x41] ∧
      encoding.Reports "/broken".toList [0xff, 0xfe, 0x41] log ∧
      ∀ entry ∈ log, entry.level = .warning :=
  readContent_lossless (by decide) rfl

/-- What was written in a form that shows its encoding is read as it was, down to its line ends,
and nothing is reported. -/
theorem readContent_of_isFormOf {text : Text}
    (plain : extensionOf (Path.baseName path) ≠ notebookExtension)
    (opened : fs.readAllowed path = .ok bytes)
    (form : Decoded.IsFormOf text bytes) :
    fs.readContent render path = ⟨.ok text, []⟩ := by
  rw [readContent_of_plain plain opened, Reading.ofBytes]
  rcases Decoded.ofBytes_of_isFormOf form with ⟨order, h⟩ | h
  · rw [h]
    rfl
  · rw [h]
    rfl

theorem readContent_of_isFormOf_markedFiles :
    markedFiles.readContent .ok "/text".toList = ⟨.ok markedText, []⟩ :=
  readContent_of_isFormOf (by decide) rfl (.utf16 .little)

end FileSystem

end TreeDump
