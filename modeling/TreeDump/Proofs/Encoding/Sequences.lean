import Mathlib.Tactic.Common
import TreeDump.Encoding.DecodeError

/-!
# One sequence for each character

UTF-8 and UTF-16 write a text character by character, each as a sequence of bytes that is not the
start of another. A decoder that takes one sequence from the front of some bytes and goes on behind
it reads back every text, and what it reads is written with the bytes that it has read.
-/

namespace TreeDump

/-! ### Scalar values -/

/-- No character is a surrogate. -/
lemma toNat_valid (c : Char) : c.toNat < 0xd800 ∨ 0xdfff < c.toNat ∧ c.toNat < 0x110000 :=
  c.valid

/-- A character has the scalar value of which it is made. -/
lemma toNat_ofNat_of_isValidChar {n : Nat} (h : n.isValidChar) : (Char.ofNat n).toNat = n := by
  rw [Char.ofNat, dif_pos h]
  rfl

/-! ### Sequences -/

/-- The texts that can be read from some bytes, when `decodeFrom` reads them from a position on. -/
abbrev Decoder := Nat → Bytes → Except DecodeError Text

variable {encodeChar : Char → Bytes} {decodeFrom : Decoder}

/-- A text is read back from its sequences if each sequence is read back. -/
lemma decodeFrom_flatMap (nil : ∀ position, decodeFrom position [] = .ok [])
    (sequence : ∀ position c rest, decodeFrom position (encodeChar c ++ rest)
      = (c :: ·) <$> decodeFrom (position + (encodeChar c).length) rest)
    (position : Nat) (t : Text) : decodeFrom position (t.flatMap encodeChar) = .ok t := by
  induction t generalizing position with
  | nil => exact nil position
  | cons c t ih =>
    rw [List.flatMap_cons, sequence, ih]
    rfl

lemma map_cons_eq_ok {c : Char} {result : Except DecodeError Text} {t : Text} :
    (c :: ·) <$> result = .ok t ↔ ∃ others, result = .ok others ∧ t = c :: others := by
  cases result with
  | error e => simp
  | ok others => simp [eq_comm]

/-- The step of a decoder: if what follows a sequence is written with its own bytes, so is the
whole. -/
lemma flatMap_of_map_cons {c : Char} {rest : Bytes} {result : Except DecodeError Text}
    (following : ∀ {t}, result = .ok t → t.flatMap encodeChar = rest) {t : Text}
    (h : (c :: ·) <$> result = .ok t) : t.flatMap encodeChar = encodeChar c ++ rest := by
  obtain ⟨others, read, rfl⟩ := map_cons_eq_ok.mp h
  rw [List.flatMap_cons, following read]

end TreeDump
