import Mathlib.Tactic.Common
import TreeDump.Encoding.Utf16
import TreeDump.Proofs.Encoding.Sequences

/-!
# UTF-16 in both directions

Every character is one unit or a pair of surrogates, and every unit is two bytes in the given order.
The decoder accepts exactly the bytes of texts, and gives the text whose bytes they are.
-/

namespace TreeDump.Utf16

variable {order : ByteOrder}

/-! ### Units -/

lemma unit_lt (order : ByteOrder) (a b : UInt8) : unit order a b < 0x10000 := by
  have ha : a.toNat < 0x100 := a.toNat_lt
  have hb : b.toNat < 0x100 := b.toNat_lt
  cases order <;> simp only [unit] <;> omega

/-- The bytes of a unit are known from the unit. -/
lemma unitBytes_unit (a b : UInt8) : unitBytes order (unit order a b) = [a, b] := by
  have ha : a.toNat < 0x100 := a.toNat_lt
  have hb : b.toNat < 0x100 := b.toNat_lt
  cases order <;>
    simp only [unitBytes, unit, List.cons.injEq, ← UInt8.toNat_inj, UInt8.toNat_ofNat',
      and_true] <;>
    omega

lemma exists_unitBytes (order : ByteOrder) {n : Nat} (h : n < 0x10000) :
    ∃ a b, unitBytes order n = [a, b] ∧ unit order a b = n := by
  cases order
  · refine ⟨_, _, rfl, ?_⟩
    simp only [unit, UInt8.toNat_ofNat']
    omega
  · refine ⟨_, _, rfl, ?_⟩
    simp only [unit, UInt8.toNat_ofNat']
    omega

lemma isHighSurrogate_iff {n : Nat} : isHighSurrogate n = true ↔ 0xd800 ≤ n ∧ n < 0xdc00 := by
  simp [isHighSurrogate]

lemma isLowSurrogate_iff {n : Nat} : isLowSurrogate n = true ↔ 0xdc00 ≤ n ∧ n < 0xe000 := by
  simp [isLowSurrogate]

/-! ### Sequences -/

/-- The bytes are the unit of the character, or its pair of surrogates. -/
inductive IsSequence (order : ByteOrder) (char : Char) : Bytes → Prop
  | single {a b : UInt8} (value : char.toNat = unit order a b) : IsSequence order char [a, b]
  | pair {a b c d : UInt8} (high : 0xd800 ≤ unit order a b ∧ unit order a b < 0xdc00)
      (low : 0xdc00 ≤ unit order c d ∧ unit order c d < 0xe000)
      (value : char.toNat
        = 0x10000 + (unit order a b - 0xd800) * 0x400 + (unit order c d - 0xdc00)) :
      IsSequence order char [a, b, c, d]

lemma isSequence_encodeChar (order : ByteOrder) (char : Char) :
    IsSequence order char (encodeChar order char) := by
  have valid : char.toNat < 0xd800 ∨ 0xdfff < char.toNat ∧ char.toNat < 0x110000 := char.valid
  rw [encodeChar]
  split
  next short =>
    obtain ⟨a, b, bytes, value⟩ := exists_unitBytes order short
    rw [bytes]
    exact .single value.symm
  next long =>
    obtain ⟨a, b, first, high⟩ := exists_unitBytes order
      (n := 0xd800 + (char.toNat - 0x10000) / 0x400) (by omega)
    obtain ⟨c, d, second, low⟩ := exists_unitBytes order
      (n := 0xdc00 + (char.toNat - 0x10000) % 0x400) (by omega)
    dsimp only
    rw [first, second]
    exact .pair (by omega) (by omega) (by omega)

lemma IsSequence.encodeChar_eq {char : Char} {sequence : Bytes}
    (h : IsSequence order char sequence) : encodeChar order char = sequence := by
  cases h with
  | @single a b value =>
    have short := unit_lt order a b
    rw [encodeChar, if_pos (by omega), value, unitBytes_unit]
  | @pair a b c d high low value =>
    have first : 0xd800 + (char.toNat - 0x10000) / 0x400 = unit order a b := by omega
    have second : 0xdc00 + (char.toNat - 0x10000) % 0x400 = unit order c d := by omega
    rw [encodeChar, if_neg (by omega)]
    dsimp only
    rw [first, second, unitBytes_unit, unitBytes_unit]
    rfl

/-! ### Decoding -/

lemma decodeFrom_sequence {char : Char} {sequence : Bytes} (h : IsSequence order char sequence)
    (position : Nat) (rest : Bytes) :
    decodeFrom order position (sequence ++ rest)
      = (char :: ·) <$> decodeFrom order (position + sequence.length) rest := by
  have valid : char.toNat < 0xd800 ∨ 0xdfff < char.toNat ∧ char.toNat < 0x110000 := char.valid
  rw [decodeFrom.eq_def]
  cases h with
  | @single a b value =>
    have notHigh : isHighSurrogate (unit order a b) = false := by
      rw [Bool.eq_false_iff, ne_eq, isHighSurrogate_iff]
      omega
    have notLow : isLowSurrogate (unit order a b) = false := by
      rw [Bool.eq_false_iff, ne_eq, isLowSurrogate_iff]
      omega
    have char : Char.ofNat (unit order a b) = char := by rw [← value, Char.ofNat_toNat]
    simp [notHigh, notLow, char]
  | @pair a b c d high low value =>
    simp [isHighSurrogate_iff.mpr high, isLowSurrogate_iff.mpr low, pairChar, ← value]

lemma encode_of_sequence {char : Char} {sequence rest : Bytes} {result : Except DecodeError Text}
    (h : IsSequence order char sequence)
    (following : ∀ {t}, result = .ok t → encode order t = rest) {t : Text}
    (read : (char :: ·) <$> result = .ok t) : encode order t = sequence ++ rest := by
  rw [encode, flatMap_of_map_cons following read, h.encodeChar_eq]

lemma encode_of_decodeFrom {position : Nat} {bytes : Bytes} {t : Text}
    (h : decodeFrom order position bytes = .ok t) : encode order t = bytes := by
  fun_induction decodeFrom order position bytes generalizing t with
  | case1 =>
    cases h
    rfl
  | case5 position a b high c d r low ih =>
    rw [isHighSurrogate_iff] at high
    rw [isLowSurrogate_iff] at low
    exact encode_of_sequence (.pair high low (toNat_ofNat_of_isValidChar (by omega))) ih h
  | case8 position a b r notHigh notLow ih =>
    rw [isHighSurrogate_iff] at notHigh
    rw [isLowSurrogate_iff] at notLow
    have short := unit_lt order a b
    exact encode_of_sequence (.single (toNat_ofNat_of_isValidChar (by omega))) ih h
  | _ =>
    -- everything else is refused
    cases h

/-- A text is read from its own bytes and no others, wherever they stand. -/
theorem decodeFrom_eq_ok {position : Nat} {bytes : Bytes} {t : Text} :
    decodeFrom order position bytes = .ok t ↔ encode order t = bytes := by
  constructor
  · exact encode_of_decodeFrom
  · rintro rfl
    refine decodeFrom_flatMap (fun _ => by rw [decodeFrom]) ?_ position t
    intro position char rest
    exact decodeFrom_sequence (isSequence_encodeChar order char) position rest

/-- The bytes are those of a text. -/
def IsWellFormed (order : ByteOrder) (bytes : Bytes) : Prop :=
  ∃ t, encode order t = bytes

/-! ### The mark -/

lemma cutMark?_eq_some {bytes rest : Bytes} :
    cutMark? bytes = some (order, rest) ↔ bytes = mark order ++ rest := by
  constructor
  · intro h
    unfold cutMark? at h
    split at h
    · cases h
      rfl
    · cases h
      rfl
    · cases h
  · rintro rfl
    cases order <;> rfl

lemma cutMark?_eq_none {bytes : Bytes} :
    cutMark? bytes = none ↔ ∀ order, ¬mark order <+: bytes := by
  rw [Option.eq_none_iff_forall_ne_some]
  constructor
  · rintro h order ⟨rest, marked⟩
    exact h (order, rest) (cutMark?_eq_some.mpr marked.symm)
  · rintro h ⟨order, rest⟩ marked
    exact h order ⟨rest, (cutMark?_eq_some.mp marked).symm⟩

/-- A mark shows one byte order. -/
lemma mark_append_inj {order order' : ByteOrder} {rest rest' : Bytes}
    (h : mark order ++ rest = mark order' ++ rest') : order = order' ∧ rest = rest' := by
  have first : cutMark? (mark order ++ rest) = some (order, rest) := cutMark?_eq_some.mpr rfl
  rw [cutMark?_eq_some.mpr h] at first
  cases first
  exact ⟨rfl, rfl⟩

end TreeDump.Utf16
