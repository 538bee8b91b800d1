import Mathlib.Tactic.Common
import TreeDump.Encoding.Basic
import TreeDump.Proofs.Encoding.SingleByte
import TreeDump.Proofs.Encoding.Utf16
import TreeDump.Proofs.Encoding.Utf8

/-!
# The choice of an encoding

Each byte string has one encoding by the rule that a mark of UTF-16 decides if the rest bears it
out, and that UTF-8, code page 1252 and Latin-1 are tried in this order otherwise. Bytes are read in
this encoding, and the text is written in it with the bytes that were read.
-/

namespace TreeDump

namespace Encoding

/-! ### Writing -/

lemma encode?_cons {e : Encoding} {c : Char} {t : Text} {sequence bytes : Bytes}
    (first : e.encodeChar? c = some sequence) (others : e.encode? t = some bytes) :
    e.encode? (c :: t) = some (sequence ++ bytes) := by
  obtain ⟨sequences, h, rfl⟩ := Option.map_eq_some_iff.mp others
  simp [encode?, List.mapM_cons, first, h]

lemma encode?_utf8 (t : Text) : encode? .utf8 t = some (Utf8.encode t) := by
  induction t with
  | nil => rfl
  | cons c t ih => exact encode?_cons rfl ih

lemma encode?_utf16 (order : ByteOrder) (t : Text) :
    encode? (.utf16 order) t = some (Utf16.encode order t) := by
  induction t with
  | nil => rfl
  | cons c t ih => exact encode?_cons rfl ih

lemma encode?_cp1252 {bytes : Bytes} {t : Text} (h : Cp1252.decode? bytes = some t) :
    encode? .cp1252 t = some bytes := by
  induction bytes generalizing t with
  | nil =>
    cases h
    rfl
  | cons b bytes ih =>
    rw [Cp1252.decode?_cons, Option.bind_eq_some_iff] at h
    obtain ⟨c, hc, h⟩ := h
    obtain ⟨others, hothers, rfl⟩ := Option.map_eq_some_iff.mp h
    have first : encodeChar? .cp1252 c = some [b] := by
      rw [encodeChar?, Cp1252.encodeChar?_of_decodeByte? hc, Option.map_some]
    exact encode?_cons first (ih hothers)

lemma encode?_latin1 (bytes : Bytes) : encode? .latin1 (Latin1.decode bytes) = some bytes := by
  induction bytes with
  | nil => rfl
  | cons b bytes ih =>
    have first : encodeChar? .latin1 (Latin1.decodeByte b) = some [b] := by
      rw [encodeChar?, Latin1.encodeChar?_decodeByte, Option.map_some]
    exact encode?_cons first ih

/-- The mark that comes before some bytes in the encoding and does not count as text. -/
def markIn (bytes : Bytes) : Encoding → Bytes
  | .utf16 order => Utf16.mark order
  | .utf8 => Utf8.markIn bytes
  | _ => []

/-! ### The rule -/

/-- The bytes are a mark of UTF-16 in the given order and well-formed UTF-16 after it. -/
def IsMarkedUtf16 (order : ByteOrder) (bytes : Bytes) : Prop :=
  ∃ rest, bytes = Utf16.mark order ++ rest ∧ Utf16.IsWellFormed order rest

/-- The encoding in which the bytes are to be read. -/
def IsChosenFor (bytes : Bytes) : Encoding → Prop
  | .utf16 order => IsMarkedUtf16 order bytes
  | .utf8 => (∀ order, ¬IsMarkedUtf16 order bytes) ∧ Utf8.IsWellFormed bytes
  | .cp1252 => (∀ order, ¬IsMarkedUtf16 order bytes) ∧ ¬Utf8.IsWellFormed bytes ∧
      ∀ b ∈ bytes, b ∉ Cp1252.unassigned
  | .latin1 => (∀ order, ¬IsMarkedUtf16 order bytes) ∧ ¬Utf8.IsWellFormed bytes ∧
      ∃ b ∈ bytes, b ∈ Cp1252.unassigned
  | .ascii => False

lemma IsMarkedUtf16.order_unique {order order' : ByteOrder} {bytes : Bytes}
    (h : IsMarkedUtf16 order bytes) (h' : IsMarkedUtf16 order' bytes) : order = order' := by
  obtain ⟨rest, rfl, -⟩ := h
  obtain ⟨rest', same, -⟩ := h'
  exact (Utf16.mark_append_inj same).1

/-- No two encodings are chosen. -/
lemma IsChosenFor.unique {bytes : Bytes} {e e' : Encoding} (h : e.IsChosenFor bytes)
    (h' : e'.IsChosenFor bytes) : e = e' := by
  cases e <;> cases e' <;> grind [IsChosenFor, IsMarkedUtf16.order_unique]

end Encoding

/-! ### Reading -/

namespace Decoded

/-- Why bytes are not read as UTF-16: they have no mark of it, or what follows is not well
formed. -/
inductive NotUtf16 (bytes : Bytes) : Option DecodeError → Prop
  | unmarked (h : ∀ order, ¬Utf16.mark order <+: bytes) : NotUtf16 bytes none
  | malformed {order : ByteOrder} {rest : Bytes} {e : DecodeError}
      (marked : bytes = Utf16.mark order ++ rest)
      (h : Utf16.decodeFrom order 2 rest = .error e) : NotUtf16 bytes (some e)

/-- The ways in which bytes are read. -/
inductive IsReading (bytes : Bytes) : Decoded → Prop
  | utf16 {order : ByteOrder} {text : Text}
      (h : bytes = Utf16.mark order ++ Utf16.encode order text) :
      IsReading bytes ⟨text, .utf16 order, none⟩
  | utf8 {text : Text} {cause : Option DecodeError} (notUtf16 : NotUtf16 bytes cause)
      (h : Utf8.dropMark bytes = Utf8.encode text) : IsReading bytes ⟨text, .utf8, cause⟩
  | cp1252 {text : Text} {cause : Option DecodeError} (notUtf16 : NotUtf16 bytes cause)
      (notUtf8 : ¬Utf8.IsWellFormed bytes) (h : Cp1252.decode? bytes = some text) :
      IsReading bytes ⟨text, .cp1252, cause⟩
  | latin1 {cause : Option DecodeError} (notUtf16 : NotUtf16 bytes cause)
      (notUtf8 : ¬Utf8.IsWellFormed bytes) (notCp1252 : Cp1252.decode? bytes = none) :
      IsReading bytes ⟨Latin1.decode bytes, .latin1, cause⟩

lemma isReading_ofBytesOtherThanUtf16 {bytes : Bytes} {cause : Option DecodeError}
    (notUtf16 : NotUtf16 bytes cause) : IsReading bytes (ofBytesOtherThanUtf16 bytes cause) := by
  unfold ofBytesOtherThanUtf16
  split
  next text read => exact .utf8 notUtf16 (Utf8.decode_eq_ok.mp read).symm
  next e refused =>
    have notUtf8 : ¬Utf8.IsWellFormed bytes := by
      rw [← Utf8.exists_decode_dropMark, refused]
      rintro ⟨t, h⟩
      cases h
    split
    next text read => exact .cp1252 notUtf16 notUtf8 read
    next notCp1252 => exact .latin1 notUtf16 notUtf8 notCp1252

lemma isReading_ofBytes (bytes : Bytes) : IsReading bytes (ofBytes bytes) := by
  unfold ofBytes
  split
  next order rest marked =>
    rw [Utf16.cutMark?_eq_some] at marked
    split
    next text read =>
      rw [← Utf16.decodeFrom_eq_ok.mp read] at marked
      exact .utf16 marked
    next e refused => exact isReading_ofBytesOtherThanUtf16 (.malformed marked refused)
  next unmarked =>
    exact isReading_ofBytesOtherThanUtf16 (.unmarked (Utf16.cutMark?_eq_none.mp unmarked))

variable {bytes : Bytes} {decoded : Decoded}

lemma NotUtf16.not_marked {cause : Option DecodeError} (h : NotUtf16 bytes cause)
    (order : ByteOrder) : ¬Encoding.IsMarkedUtf16 order bytes := by
  rintro ⟨rest, marked, t, rfl⟩
  cases h with
  | unmarked h => exact h order ⟨_, marked.symm⟩
  | malformed marked' refused =>
    obtain ⟨rfl, rfl⟩ := Utf16.mark_append_inj (marked'.symm.trans marked)
    rw [Utf16.decodeFrom_eq_ok.mpr rfl] at refused
    cases refused

/-- Bytes are read in the encoding that is chosen for them. -/
lemma IsReading.isChosenFor (h : IsReading bytes decoded) :
    decoded.encoding.IsChosenFor bytes := by
  cases h with
  | @utf16 order text h => exact ⟨_, h, text, rfl⟩
  | @utf8 text _ notUtf16 h =>
    refine ⟨notUtf16.not_marked, ?_⟩
    rw [← Utf8.exists_decode_dropMark]
    exact ⟨text, Utf8.decode_eq_ok.mpr h.symm⟩
  | cp1252 notUtf16 notUtf8 h =>
    refine ⟨notUtf16.not_marked, notUtf8, ?_⟩
    intro b mem unassigned
    rw [Cp1252.decode?_eq_none_iff.mpr ⟨b, mem, unassigned⟩] at h
    cases h
  | latin1 notUtf16 notUtf8 notCp1252 =>
    exact ⟨notUtf16.not_marked, notUtf8, Cp1252.decode?_eq_none_iff.mp notCp1252⟩

/-- The text is written with the bytes that were read, once the mark is put back. -/
lemma IsReading.encode?_text (h : IsReading bytes decoded) :
    ∃ written, decoded.encoding.encode? decoded.text = some written ∧
      decoded.encoding.markIn bytes ++ written = bytes := by
  cases h with
  | @utf16 order text h => exact ⟨_, Encoding.encode?_utf16 order text, h.symm⟩
  | @utf8 text _ notUtf16 h =>
    refine ⟨_, Encoding.encode?_utf8 text, ?_⟩
    rw [← h]
    exact Utf8.markIn_append_dropMark bytes
  | cp1252 notUtf16 notUtf8 h => exact ⟨_, Encoding.encode?_cp1252 h, rfl⟩
  | latin1 => exact ⟨_, Encoding.encode?_latin1 bytes, rfl⟩

/-! ### Bytes of texts -/

/-- A text in UTF-8 does not start with a mark of UTF-16. -/
lemma unmarked_of_utf8 {text : Text} (h : Utf8.dropMark bytes = Utf8.encode text)
    (order : ByteOrder) : ¬Utf16.mark order <+: bytes := by
  have wellFormed : Utf8.IsWellFormed bytes :=
    Utf8.exists_decode_dropMark.mp ⟨text, Utf8.decode_eq_ok.mpr h.symm⟩
  rintro ⟨rest, rfl⟩
  cases order
  · exact Utf8.not_isWellFormed_of_lead (by decide) _ wellFormed
  · exact Utf8.not_isWellFormed_of_lead (by decide) _ wellFormed

lemma ofBytes_utf16 (order : ByteOrder) (text : Text) :
    ofBytes (Utf16.mark order ++ Utf16.encode order text) = ⟨text, .utf16 order, none⟩ := by
  have marked := Utf16.cutMark?_eq_some.mpr (rfl : Utf16.mark order ++ Utf16.encode order text = _)
  have read : Utf16.decodeFrom order 2 (Utf16.encode order text) = .ok text :=
    Utf16.decodeFrom_eq_ok.mpr rfl
  simp [ofBytes, marked, read]

lemma ofBytes_utf8 {text : Text} (h : Utf8.dropMark bytes = Utf8.encode text) :
    ofBytes bytes = ⟨text, .utf8, none⟩ := by
  have unmarked : Utf16.cutMark? bytes = none := Utf16.cutMark?_eq_none.mpr (unmarked_of_utf8 h)
  have read : Utf8.decode (Utf8.dropMark bytes) = .ok text := Utf8.decode_eq_ok.mpr h.symm
  simp [ofBytes, ofBytesOtherThanUtf16, unmarked, read]

/-- The bytes are a form of the text that shows its encoding: UTF-16 and UTF-8 with a mark, and
UTF-8 without one if the text does not start with the character of the mark. -/
inductive IsFormOf (text : Text) : Bytes → Prop
  | utf16 (order : ByteOrder) : IsFormOf text (Utf16.mark order ++ Utf16.encode order text)
  | markedUtf8 : IsFormOf text (Utf8.mark ++ Utf8.encode text)
  | plainUtf8 (unmarked : text.head? ≠ some '\ufeff') : IsFormOf text (Utf8.encode text)

lemma ofBytes_of_isFormOf {text : Text} (h : IsFormOf text bytes) :
    (∃ order, ofBytes bytes = ⟨text, .utf16 order, none⟩) ∨
      ofBytes bytes = ⟨text, .utf8, none⟩ := by
  cases h with
  | utf16 order => exact .inl ⟨order, ofBytes_utf16 order text⟩
  | markedUtf8 => exact .inr (ofBytes_utf8 rfl)
  | plainUtf8 unmarked => exact .inr (ofBytes_utf8 (Utf8.dropMark_encode unmarked))

end Decoded

end TreeDump
