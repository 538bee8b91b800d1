import Mathlib.Tactic.Common
import TreeDump.Json.Printer
import TreeDump.Json.Reader
import TreeDump.Proofs.Encoding.Sequences

/-!
# Strings that are read back

A text that is written as a JSON string is read back as the same text, whatever its characters:
those that stand for themselves, those with a short escape, and those that are written as one unit
of UTF-16 or two.
-/

namespace TreeDump.Json

/-! ### Hexadecimal digits -/

lemma ofHex_succ {width : Nat} (positive : 0 < width) (n : Nat) :
    Text.ofHex (width + 1) n = Text.ofHex width (n / 16) ++ [Nat.digitChar (n % 16)] := by
  simp only [Text.ofHex]
  by_cases small : n < 16
  · have quotient : n / 16 = 0 := by omega
    have remainder : n % 16 = n := by omega
    obtain ⟨w, rfl⟩ := Nat.exists_eq_add_of_lt positive
    rw [quotient, remainder, Nat.toDigits_of_lt_base small, Nat.toDigits_zero]
    simp [List.replicate_succ']
  · rw [Nat.toDigits_of_base_le (by decide) (Nat.le_of_not_lt small)]
    simp

/-- Four digits spell a unit. -/
lemma ofHex_four {n : Nat} (h : n < 0x10000) :
    Text.ofHex 4 n = [Nat.digitChar (n / 4096), Nat.digitChar (n / 256 % 16),
      Nat.digitChar (n / 16 % 16), Nat.digitChar (n % 16)] := by
  have first : Text.ofHex 1 (n / 16 / 16 / 16) = [Nat.digitChar (n / 4096)] := by
    have small : n / 4096 < 16 := by omega
    have same : n / 16 / 16 / 16 = n / 4096 := by omega
    simp [Text.ofHex, same, Nat.toDigits_of_lt_base small]
  have second : n / 16 / 16 % 16 = n / 256 % 16 := by omega
  rw [ofHex_succ (by decide), ofHex_succ (by decide), ofHex_succ (by decide), first, second]
  rfl

lemma hexDigit?_digitChar {d : Nat} (h : d < 16) : hexDigit? (Nat.digitChar d) = some d := by
  have all : ∀ d : Fin 16, hexDigit? (Nat.digitChar d) = some d.val := by decide
  exact all ⟨d, h⟩

lemma hexUnit?_digits {n : Nat} (h : n < 0x10000) :
    hexUnit? (Nat.digitChar (n / 4096)) (Nat.digitChar (n / 256 % 16))
      (Nat.digitChar (n / 16 % 16)) (Nat.digitChar (n % 16)) = some n := by
  have value : ((n / 4096 * 16 + n / 256 % 16) * 16 + n / 16 % 16) * 16 + n % 16 = n := by omega
  rw [hexUnit?, hexDigit?_digitChar (by omega), hexDigit?_digitChar (by omega),
    hexDigit?_digitChar (by omega), hexDigit?_digitChar (by omega)]
  exact congrArg some value

/-! ### Escapes -/

lemma readUnit_ofHex {n : Nat} (h : n < 0x10000) {rest : Text} (more : rest ≠ []) :
    readUnit (Text.ofHex 4 n ++ rest) = .ok (n, rest) := by
  obtain ⟨e, r, rfl⟩ := List.exists_cons_of_ne_nil more
  rw [ofHex_four h]
  simp only [List.cons_append, List.nil_append, readUnit, hexUnit?_digits h]

/-- A unit that is a character is read as that character. -/
lemma readUnicodeEscape_unit {c : Char} (h : c.toNat < 0x10000) {rest : Text} (more : rest ≠ []) :
    readUnicodeEscape (Text.ofHex 4 c.toNat ++ rest) = .ok (.char c, rest) := by
  have valid := toNat_valid c
  have notHigh : (0xd800 ≤ c.toNat && c.toNat < 0xdc00) = false := by
    rw [Bool.eq_false_iff, ne_eq, Bool.and_eq_true, decide_eq_true_eq, decide_eq_true_eq]
    omega
  have notSurrogate : ¬(0xd800 ≤ c.toNat ∧ c.toNat < 0xe000) := by omega
  simp [readUnicodeEscape, readUnit_ofHex h more, notHigh, unitChar, notSurrogate]

lemma unitEscape_append_ne_nil (unit : Nat) (rest : Text) : unitEscape unit ++ rest ≠ [] := by
  simp [unitEscape]

lemma readUnicodeEscape_of_high {t r rest : Text} {high low : Nat}
    (first : readUnit t = .ok (high, r)) (isHigh : (0xd800 ≤ high && high < 0xdc00) = true)
    (second : readLowSurrogate? r = .ok (some (low, rest))) :
    readUnicodeEscape t
      = .ok (.char (Char.ofNat (0x10000 + (high - 0xd800) * 0x400 + (low - 0xdc00))), rest) := by
  rw [readUnicodeEscape, first]
  dsimp only
  rw [if_pos isHigh, second]

/-- Two units are read as the character that they make up. -/
lemma readUnicodeEscape_pair {c : Char} (h : 0x10000 ≤ c.toNat) {rest : Text} (more : rest ≠ []) :
    readUnicodeEscape (Text.ofHex 4 (0xd800 + (c.toNat - 0x10000) / 0x400)
        ++ (unitEscape (0xdc00 + (c.toNat - 0x10000) % 0x400) ++ rest))
      = .ok (.char c, rest) := by
  have valid := toNat_valid c
  generalize hhigh : 0xd800 + (c.toNat - 0x10000) / 0x400 = high
  generalize hlow : 0xdc00 + (c.toNat - 0x10000) % 0x400 = low
  have isHigh : (0xd800 ≤ high && high < 0xdc00) = true := by
    rw [Bool.and_eq_true, decide_eq_true_eq, decide_eq_true_eq]
    omega
  have isLow : (0xdc00 ≤ low && low < 0xe000) = true := by
    rw [Bool.and_eq_true, decide_eq_true_eq, decide_eq_true_eq]
    omega
  have together : 0x10000 + (high - 0xd800) * 0x400 + (low - 0xdc00) = c.toNat := by omega
  have long : ¬(Text.ofHex 4 low ++ rest).length < 5 := by
    have : 0 < rest.length := List.length_pos_iff.mpr more
    rw [ofHex_four (by omega), List.length_append]
    simp only [List.length_cons, List.length_nil]
    omega
  have readLow : readLowSurrogate? (unitEscape low ++ rest) = .ok (some (low, rest)) := by
    rw [unitEscape, List.cons_append, List.cons_append, readLowSurrogate?, if_neg long,
      readUnit_ofHex (by omega) more]
    simp only [isLow, if_true]
  rw [readUnicodeEscape_of_high (readUnit_ofHex (by omega)
    (unitEscape_append_ne_nil low rest)) isHigh readLow, together, Char.ofNat_toNat]

/-! ### Characters -/

lemma readString_quoted (start : Text) (n : Nat) {e d : Char} (rest : Text) (notUnit : e ≠ 'u')
    (escape : escaped? e = some d) :
    readString start (n + 1) ('\\' :: e :: rest) =
      (readString start n rest).map fun (chars, r) => (.char d :: chars, r) := by
  rw [readString, if_neg (by decide), if_pos rfl]
  dsimp only
  rw [if_neg notUnit, escape]
  rfl

lemma readString_unicode (start : Text) (n : Nat) {c : Char} {t rest : Text}
    (escape : readUnicodeEscape t = .ok (.char c, rest)) :
    readString start (n + 1) ('\\' :: 'u' :: t) =
      (readString start n rest).map fun (chars, r) => (.char c :: chars, r) := by
  rw [readString, if_neg (by decide), if_pos rfl]
  dsimp only
  rw [if_pos rfl, escape]
  rfl

lemma readString_plain (start : Text) (n : Nat) {c : Char} (rest : Text) (notQuote : c ≠ '\x22')
    (notBackslash : c ≠ '\\') (visible : ¬c.toNat < 0x20) :
    readString start (n + 1) (c :: rest) =
      (readString start n rest).map fun (chars, r) => (.char c :: chars, r) := by
  rw [readString.eq_def]
  dsimp only
  rw [if_neg notQuote, if_neg notBackslash, if_neg visible]
  rfl

/-- A character is read back from the way in which it is written. -/
lemma readString_escapeChar (start : Text) (n : Nat) (c : Char) {rest : Text} (more : rest ≠ []) :
    readString start (n + 1) (escapeChar c ++ rest) =
      (readString start n rest).map fun (chars, r) => (.char c :: chars, r) := by
  rw [escapeChar]
  split
  next quoted =>
    have notUnit : c ≠ 'u' := by
      rcases quoted with rfl | rfl <;> decide
    have escape : escaped? c = some c := by
      rcases quoted with rfl | rfl <;> rfl
    exact readString_quoted start n rest notUnit escape
  next notQuoted =>
  obtain ⟨notQuote, notBackslash⟩ := not_or.mp notQuoted
  split
  next h => exact h ▸ readString_quoted start n rest (by decide) rfl
  split
  next h => exact h ▸ readString_quoted start n rest (by decide) rfl
  split
  next h => exact h ▸ readString_quoted start n rest (by decide) rfl
  split
  next h => exact h ▸ readString_quoted start n rest (by decide) rfl
  split
  next h => exact h ▸ readString_quoted start n rest (by decide) rfl
  split
  next visible =>
    exact readString_plain start n rest notQuote notBackslash (Nat.not_lt.mpr visible.1)
  split
  next unit => exact readString_unicode start n (readUnicodeEscape_unit unit more)
  next pair =>
    rw [List.append_assoc, unitEscape, List.cons_append, List.cons_append]
    exact readString_unicode start n (readUnicodeEscape_pair (Nat.le_of_not_lt pair) more)

/-! ### Strings -/

lemma readString_text (start : Text) {n : Nat} (t rest : Text) (enough : t.length < n) :
    readString start n (t.flatMap escapeChar ++ '\x22' :: rest)
      = .ok (RawText.ofText t, rest) := by
  induction t generalizing n with
  | nil =>
    obtain ⟨n, rfl⟩ := Nat.exists_eq_add_of_lt enough
    rfl
  | cons c t ih =>
    obtain ⟨n, rfl⟩ := Nat.exists_eq_succ_of_ne_zero (Nat.ne_zero_of_lt enough)
    rw [List.flatMap_cons, List.append_assoc, readString_escapeChar start n c (by simp),
      ih (Nat.lt_of_succ_lt_succ enough)]
    rfl

lemma escapeChar_ne_nil (c : Char) : escapeChar c ≠ [] := by
  rw [escapeChar]
  split_ifs
  · simp
  · simp
  · simp
  · simp
  · simp
  · simp
  · simp
  · exact List.cons_ne_nil _ _
  · exact unitEscape_append_ne_nil _ _

lemma length_le_flatMap_escapeChar (t : Text) : t.length ≤ (t.flatMap escapeChar).length := by
  induction t with
  | nil => simp
  | cons c t ih =>
    have nonempty := List.length_pos_iff.mpr (escapeChar_ne_nil c)
    rw [List.flatMap_cons, List.length_append, List.length_cons]
    omega

/-- A text is read back from the string that is written for it. -/
theorem readQuoted_printString (t rest : Text) :
    readQuoted (t.flatMap escapeChar ++ '\x22' :: rest) = .ok (RawText.ofText t, rest) := by
  have longer := length_le_flatMap_escapeChar t
  apply readString_text
  rw [List.length_append]
  omega

end TreeDump.Json
