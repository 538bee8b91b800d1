import Mathlib.Tactic.Common
import TreeDump.Encoding.Utf8
import TreeDump.Proofs.Encoding.Sequences

/-!
# UTF-8 in both directions

Every character has one sequence of bytes: the shortest of those whose value bits are its scalar
value. The encoder writes these sequences and the decoder takes no others, so that the decoder
accepts exactly the bytes of texts, and gives the text whose bytes they are.
-/

namespace TreeDump.Utf8

/-! ### Bytes -/

lemma isContinuation_iff {b : UInt8} :
    isContinuation b = true ↔ 0x80 ≤ b.toNat ∧ b.toNat < 0xc0 := by
  simp [isContinuation, UInt8.le_iff_toNat_le, UInt8.lt_iff_toNat_lt]

/-- A second byte is a continuation byte, with a narrower range after four of the lead bytes. -/
lemma isSecond_iff {a b : UInt8} :
    isSecond a b = true ↔ (0x80 ≤ b.toNat ∧ b.toNat < 0xc0) ∧
      (a.toNat = 0xe0 → 0xa0 ≤ b.toNat) ∧ (a.toNat = 0xed → b.toNat < 0xa0) ∧
      (a.toNat = 0xf0 → 0x90 ≤ b.toNat) ∧ (a.toNat = 0xf4 → b.toNat < 0x90) := by
  simp only [isSecond, isContinuation, ← UInt8.toNat_inj]
  split_ifs <;> simp [UInt8.le_iff_toNat_le, UInt8.lt_iff_toNat_lt] at * <;> omega

/-! ### Sequences -/

/-- The bytes have the value bits of the character, and fewer bytes would not do. -/
inductive IsSequence (char : Char) : Bytes → Prop
  | one {a : UInt8} (lead : a.toNat < 0x80) (value : char.toNat = a.toNat) : IsSequence char [a]
  | two {a b : UInt8} (lead : 0xc0 ≤ a.toNat ∧ a.toNat < 0xe0)
      (second : 0x80 ≤ b.toNat ∧ b.toNat < 0xc0)
      (value : char.toNat = a.toNat % 0x20 * 0x40 + b.toNat % 0x40)
      (shortest : 0x80 ≤ char.toNat) : IsSequence char [a, b]
  | three {a b c : UInt8} (lead : 0xe0 ≤ a.toNat ∧ a.toNat < 0xf0)
      (second : 0x80 ≤ b.toNat ∧ b.toNat < 0xc0) (third : 0x80 ≤ c.toNat ∧ c.toNat < 0xc0)
      (value : char.toNat = (a.toNat % 0x10 * 0x40 + b.toNat % 0x40) * 0x40 + c.toNat % 0x40)
      (shortest : 0x800 ≤ char.toNat) : IsSequence char [a, b, c]
  | four {a b c d : UInt8} (lead : 0xf0 ≤ a.toNat ∧ a.toNat < 0xf8)
      (second : 0x80 ≤ b.toNat ∧ b.toNat < 0xc0) (third : 0x80 ≤ c.toNat ∧ c.toNat < 0xc0)
      (fourth : 0x80 ≤ d.toNat ∧ d.toNat < 0xc0)
      (value : char.toNat
        = ((a.toNat % 0x08 * 0x40 + b.toNat % 0x40) * 0x40 + c.toNat % 0x40) * 0x40
          + d.toNat % 0x40)
      (shortest : 0x10000 ≤ char.toNat) : IsSequence char [a, b, c, d]

/-- The encoder writes a sequence for each character. -/
lemma isSequence_encodeChar (char : Char) : IsSequence char (String.utf8EncodeChar char) := by
  have valid : char.toNat < 0xd800 ∨ 0xdfff < char.toNat ∧ char.toNat < 0x110000 := char.valid
  fun_cases String.utf8EncodeChar char with
  | case1 v | case2 v | case3 v | case4 v =>
    have value : char.toNat = v := rfl
    clear_value v
    constructor <;> simp only [UInt8.toNat_ofNat', value] <;> omega

/-- A sequence is what the encoder writes for its character. -/
lemma IsSequence.encodeChar_eq {char : Char} {sequence : Bytes} (h : IsSequence char sequence) :
    String.utf8EncodeChar char = sequence := by
  have valid : char.toNat < 0xd800 ∨ 0xdfff < char.toNat ∧ char.toNat < 0x110000 := char.valid
  simp only [String.utf8EncodeChar, Char.toNat_val]
  cases h with
  | one lead value =>
    rw [if_pos (by omega)]
    simp only [List.cons.injEq, ← UInt8.toNat_inj, UInt8.toNat_ofNat', and_true]
    omega
  | two lead second value shortest =>
    rw [if_neg (by omega), if_pos (by omega)]
    simp only [List.cons.injEq, ← UInt8.toNat_inj, UInt8.toNat_ofNat', and_true]
    omega
  | three lead second third value shortest =>
    rw [if_neg (by omega), if_neg (by omega), if_pos (by omega)]
    simp only [List.cons.injEq, ← UInt8.toNat_inj, UInt8.toNat_ofNat', and_true]
    omega
  | four lead second third fourth value shortest =>
    rw [if_neg (by omega), if_neg (by omega), if_neg (by omega)]
    simp only [List.cons.injEq, ← UInt8.toNat_inj, UInt8.toNat_ofNat', and_true]
    omega

/-! ### Decoding -/

/-- The decoder takes a sequence from the front of some bytes. -/
lemma decodeFrom_sequence {char : Char} {sequence : Bytes} (h : IsSequence char sequence)
    (position : Nat) (rest : Bytes) :
    decodeFrom position (sequence ++ rest)
      = (char :: ·) <$> decodeFrom (position + sequence.length) rest := by
  have valid : char.toNat < 0xd800 ∨ 0xdfff < char.toNat ∧ char.toNat < 0x110000 := char.valid
  rw [decodeFrom.eq_def]
  cases h with
  | @one a lead value =>
    have ascii : a < 0x80 := lead
    simp [ascii, ← value]
  | @two a b lead second value shortest =>
    have notAscii : ¬a < 0x80 := by show ¬a.toNat < 0x80; omega
    have atLeast : ¬a < 0xc2 := by show ¬a.toNat < 0xc2; omega
    have below : a < 0xe0 := lead.2
    simp [notAscii, atLeast, below, isContinuation_iff.mpr second, char₂, low, ← value]
  | @three a b c lead second third value shortest =>
    have notAscii : ¬a < 0x80 := by show ¬a.toNat < 0x80; omega
    have notTail : ¬a < 0xc2 := by show ¬a.toNat < 0xc2; omega
    have atLeast : ¬a < 0xe0 := by show ¬a.toNat < 0xe0; omega
    have below : a < 0xf0 := lead.2
    have second : isSecond a b = true := isSecond_iff.mpr (by omega)
    simp [notAscii, notTail, atLeast, below, second, isContinuation_iff.mpr third, char₃, low,
      ← value]
  | @four a b c d lead second third fourth value shortest =>
    have notAscii : ¬a < 0x80 := by show ¬a.toNat < 0x80; omega
    have notTail : ¬a < 0xc2 := by show ¬a.toNat < 0xc2; omega
    have notTwo : ¬a < 0xe0 := by show ¬a.toNat < 0xe0; omega
    have atLeast : ¬a < 0xf0 := by show ¬a.toNat < 0xf0; omega
    have below : a < 0xf5 := by show a.toNat < 0xf5; omega
    have second : isSecond a b = true := isSecond_iff.mpr (by omega)
    simp [notAscii, notTail, notTwo, atLeast, below, second, isContinuation_iff.mpr third,
      isContinuation_iff.mpr fourth, char₄, low, ← value]

/-- If a sequence is read and what follows is written with its own bytes, so is the whole. -/
lemma encode_of_sequence {char : Char} {sequence rest : Bytes} {result : Except DecodeError Text}
    (h : IsSequence char sequence) (following : ∀ {t}, result = .ok t → encode t = rest) {t : Text}
    (read : (char :: ·) <$> result = .ok t) : encode t = sequence ++ rest := by
  rw [encode, flatMap_of_map_cons following read, h.encodeChar_eq]

/-- What is read is written with the bytes that were read. -/
lemma encode_of_decodeFrom {position : Nat} {bytes : Bytes} {t : Text}
    (h : decodeFrom position bytes = .ok t) : encode t = bytes := by
  fun_induction decodeFrom position bytes generalizing t with
  | case1 =>
    cases h
    rfl
  | case2 position a r lead ih =>
    have lead : a.toNat < 0x80 := lead
    exact encode_of_sequence (.one lead (toNat_ofNat_of_isValidChar (by omega))) ih h
  | case5 position a _ least lead b r second ih =>
    have least : 0xc2 ≤ a.toNat := UInt8.not_lt.mp least
    have lead : a.toNat < 0xe0 := lead
    rw [isContinuation_iff] at second
    have value : (char₂ a b).toNat = a.toNat % 0x20 * 0x40 + b.toNat % 0x40 :=
      toNat_ofNat_of_isValidChar (by rw [low]; omega)
    exact encode_of_sequence (.two (by omega) second value (by omega)) ih h
  | case9 position a _ _ least lead b second c r third ih =>
    have least : 0xe0 ≤ a.toNat := UInt8.not_lt.mp least
    have lead : a.toNat < 0xf0 := lead
    rw [isSecond_iff] at second
    rw [isContinuation_iff] at third
    have value : (char₃ a b c).toNat
        = (a.toNat % 0x10 * 0x40 + b.toNat % 0x40) * 0x40 + c.toNat % 0x40 :=
      toNat_ofNat_of_isValidChar (by rw [low, low]; omega)
    exact encode_of_sequence (.three (by omega) second.1 third value (by omega)) ih h
  | case15 position a _ _ _ least lead b second c third d r fourth ih =>
    have least : 0xf0 ≤ a.toNat := UInt8.not_lt.mp least
    have lead : a.toNat < 0xf5 := lead
    rw [isSecond_iff] at second
    rw [isContinuation_iff] at third fourth
    have value : (char₄ a b c d).toNat
        = ((a.toNat % 0x08 * 0x40 + b.toNat % 0x40) * 0x40 + c.toNat % 0x40) * 0x40
          + d.toNat % 0x40 :=
      toNat_ofNat_of_isValidChar (by rw [low, low, low]; omega)
    exact encode_of_sequence (.four (by omega) second.1 third fourth value (by omega)) ih h
  | _ =>
    -- everything else is refused
    cases h

/-- A text is read from its own bytes and no others, wherever they stand. -/
theorem decodeFrom_eq_ok {position : Nat} {bytes : Bytes} {t : Text} :
    decodeFrom position bytes = .ok t ↔ encode t = bytes := by
  constructor
  · exact encode_of_decodeFrom
  · rintro rfl
    refine decodeFrom_flatMap (fun _ => rfl) ?_ position t
    intro position char rest
    exact decodeFrom_sequence (isSequence_encodeChar char) position rest

theorem decode_eq_ok {bytes : Bytes} {t : Text} : decode bytes = .ok t ↔ encode t = bytes :=
  decodeFrom_eq_ok

lemma encode_append (s t : Text) : encode (s ++ t) = encode s ++ encode t :=
  List.flatMap_append

lemma encode_injective : Function.Injective encode := by
  intro s t same
  have decoded := decode_eq_ok.mpr same
  rw [decode_eq_ok.mpr rfl] at decoded
  cases decoded
  rfl

lemma IsSequence.lt_of_ascii {char : Char} {sequence : Bytes} (h : IsSequence char sequence)
    (ascii : char.toNat < 0x80) : ∀ byte ∈ sequence, byte < 0x80 := by
  cases h with
  | one lead value => simpa [UInt8.lt_iff_toNat_lt] using lead
  | _ => omega

/-- A text in ASCII is written in ASCII. -/
lemma lt_of_mem_encode {t : Text} (ascii : ∀ c ∈ t, c.toNat < 0x80) :
    ∀ byte ∈ encode t, byte < 0x80 := by
  intro byte mem
  obtain ⟨c, inText, mem⟩ := List.mem_flatMap.mp mem
  exact (isSequence_encodeChar c).lt_of_ascii (ascii c inText) byte mem

/-! ### The mark -/

lemma decodeFrom_mark (position : Nat) (rest : Bytes) :
    decodeFrom position (mark ++ rest) = ('\ufeff' :: ·) <$> decodeFrom (position + 3) rest :=
  decodeFrom_sequence (isSequence_encodeChar '\ufeff') position rest

/-- The mark stands for a character of its own. -/
lemma encode_eq_mark_append {t : Text} {rest : Bytes} :
    encode t = mark ++ rest ↔ ∃ others, encode others = rest ∧ t = '\ufeff' :: others := by
  rw [← decode_eq_ok, decode, decodeFrom_mark, map_cons_eq_ok]
  simp only [decodeFrom_eq_ok]

lemma dropMark_eq_self {bytes : Bytes} (h : ¬mark <+: bytes) : dropMark bytes = bytes := by
  fun_cases dropMark bytes with
  | case1 rest => exact absurd ⟨rest, rfl⟩ h
  | case2 => rfl

/-- The mark that comes before some bytes, if it does. -/
def markIn (bytes : Bytes) : Bytes :=
  if mark <+: bytes then mark else []

lemma markIn_append_dropMark (bytes : Bytes) : markIn bytes ++ dropMark bytes = bytes := by
  by_cases h : mark <+: bytes
  · obtain ⟨rest, rfl⟩ := h
    rw [markIn, if_pos (List.prefix_append mark rest)]
    rfl
  · rw [markIn, if_neg h, dropMark_eq_self h, List.nil_append]

/-- The bytes are those of a text. -/
def IsWellFormed (bytes : Bytes) : Prop :=
  ∃ t, encode t = bytes

/-- No text starts with a byte that leads no sequence. -/
lemma not_isWellFormed_of_lead {a : UInt8} (h : 0xf5 ≤ a) (rest : Bytes) :
    ¬IsWellFormed (a :: rest) := by
  have above : ∀ bound : UInt8, bound ≤ 0xf5 → ¬a < bound := by
    intro bound hbound
    exact UInt8.not_lt.mpr (UInt8.le_trans hbound h)
  rintro ⟨t, encoded⟩
  rw [← decode_eq_ok, decode, decodeFrom.eq_def] at encoded
  simp [above, error] at encoded

/-- A mark in front makes no difference to whether bytes are well formed. -/
lemma exists_decode_dropMark {bytes : Bytes} :
    (∃ t, decode (dropMark bytes) = .ok t) ↔ IsWellFormed bytes := by
  simp only [decode_eq_ok, IsWellFormed]
  by_cases h : mark <+: bytes
  · obtain ⟨rest, rfl⟩ := h
    simp only [encode_eq_mark_append]
    constructor
    · rintro ⟨t, rfl⟩
      exact ⟨_, t, rfl, rfl⟩
    · rintro ⟨_, t, rfl, rfl⟩
      exact ⟨t, rfl⟩
  · rw [dropMark_eq_self h]

/-- A text that does not start with the character of the mark does not start with the mark. -/
lemma dropMark_encode {t : Text} (h : t.head? ≠ some '\ufeff') :
    dropMark (encode t) = encode t := by
  apply dropMark_eq_self
  rintro ⟨rest, marked⟩
  obtain ⟨others, -, rfl⟩ := encode_eq_mark_append.mp marked.symm
  exact h rfl

end TreeDump.Utf8
