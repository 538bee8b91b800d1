import TreeDump.Proofs.Json.Strings

/-!
# Lists that are read back

An object whose fields are lists of texts is read back from the lines that are written for it. The
reader's steps are bounded by the length of its text, and it takes one for each item and each field.
-/

namespace TreeDump.Json

variable {n room level : Nat} {rest : Text}

/-! ### Blanks -/

lemma skipBlanks_of_visible {c : Char} (visible : isJsonBlank c = false) (t : Text) :
    skipBlanks (c :: t) = c :: t := by
  simp [skipBlanks, visible]

lemma skipBlanks_of_quote {t : Text} (quote : t.head? = some '\x22') : skipBlanks t = t := by
  obtain ⟨r, rfl⟩ := List.head?_eq_some_iff.mp quote
  exact skipBlanks_of_visible rfl r

@[simp] lemma skipBlanks_newLine (level : Nat) (t : Text) :
    skipBlanks (newLine level ++ t) = skipBlanks t := by
  have spaces : ∀ count, skipBlanks (List.replicate count ' ' ++ t) = skipBlanks t := by
    intro count
    induction count with
    | zero => rfl
    | succ count ih => exact ih
  exact spaces (2 * level)

/-! ### Blocks -/

/-- The parts of a block that is not empty, and the new line before its closing bracket. -/
def blockLines (level : Nat) (parts : List Text) : Text :=
  (',' :: newLine (level + 1)).intercalate parts ++ newLine level

lemma blockLines_singleton (part rest : Text) :
    blockLines level [part] ++ rest = part ++ (newLine level ++ rest) := by
  simp [blockLines]

lemma blockLines_cons_cons (part next : Text) (parts : List Text) (rest : Text) :
    blockLines level (part :: next :: parts) ++ rest
      = part ++ (',' :: newLine (level + 1) ++ (blockLines level (next :: parts) ++ rest)) := by
  simp [blockLines, List.intercalate_cons_cons]

lemma printBlock_cons (opening closing : Char) (part : Text) (parts : List Text) (rest : Text) :
    printBlock level opening closing (part :: parts) ++ rest
      = opening :: (newLine (level + 1)
          ++ (blockLines level (part :: parts) ++ closing :: rest)) := by
  simp [printBlock, blockLines]

lemma head_blockLines (level : Nat) {part : Text} (parts : List Text)
    (quote : part.head? = some '\x22') (rest : Text) :
    (blockLines level (part :: parts) ++ rest).head? = some '\x22' := by
  obtain ⟨r, rfl⟩ := List.head?_eq_some_iff.mp quote
  cases parts with
  | nil => rw [blockLines_singleton]; rfl
  | cons next parts => rw [blockLines_cons_cons]; rfl

/-! ### Items -/

lemma printString_append (t rest : Text) :
    printString t ++ rest = '\x22' :: (t.flatMap escapeChar ++ '\x22' :: rest) := by
  simp [printString]

lemma readValue_printString (n room : Nat) (t rest : Text) :
    readValue (n + 1) room (printString t ++ rest) = .ok (.text (.ofText t), rest) := by
  rw [printString_append, readValue, readQuoted_printString]
  rfl

/-- The items of a list of texts. -/
def textItems (ts : List Text) : List Json :=
  ts.map fun t => .text (.ofText t)

lemma readItems_last (n : Nat) (t : Text) :
    readItems (n + 2) room (printString t ++ (newLine level ++ ']' :: rest))
      = .ok (textItems [t], rest) := by
  have closing : skipBlanks (newLine level ++ ']' :: rest) = ']' :: rest := by
    rw [skipBlanks_newLine, skipBlanks_of_visible rfl]
  rw [readItems, readValue_printString]
  simp only [bind, Except.bind, closing]
  rfl

lemma readItems_next (n : Nat) (t : Text) {more : Text} (next : skipBlanks more = more) :
    readItems (n + 2) room (printString t ++ (',' :: newLine level ++ more)) =
      (readItems (n + 1) room more).map fun (items, r) => (.text (.ofText t) :: items, r) := by
  have comma : skipBlanks (',' :: newLine level ++ more) = ',' :: (newLine level ++ more) :=
    skipBlanks_of_visible rfl _
  rw [readItems, readValue_printString]
  simp only [bind, Except.bind, comma, skipBlanks_newLine, next]
  cases readItems (n + 1) room more <;> rfl

lemma readItems_blockLines {ts : List Text} (nonempty : ts ≠ []) (enough : ts.length < n) :
    readItems n room (blockLines level (ts.map printString) ++ ']' :: rest)
      = .ok (textItems ts, rest) := by
  induction ts generalizing n with
  | nil => exact absurd rfl nonempty
  | cons t ts ih =>
    obtain ⟨n, rfl⟩ : ∃ m, n = m + 2 := ⟨n - 2, by rw [List.length_cons] at enough; omega⟩
    cases ts with
    | nil => exact (congrArg _ (blockLines_singleton _ _)).trans (readItems_last n t)
    | cons next ts =>
      have more := head_blockLines level (ts.map printString)
        (rfl : (printString next).head? = _) (']' :: rest)
      rw [List.map_cons, List.map_cons, blockLines_cons_cons,
        readItems_next n t (skipBlanks_of_quote more), ← List.map_cons,
        ih (by simp) (Nat.lt_of_succ_lt_succ enough)]
      rfl

/-- A list of texts is read back. -/
lemma readValue_printStrings {ts : List Text} (enough : ts.length < n) :
    readValue (n + 1) (room + 1) (printStrings level ts ++ rest)
      = .ok (.array (textItems ts), rest) := by
  cases ts with
  | nil => rfl
  | cons t ts =>
    have items : readItems n room (blockLines level ((t :: ts).map printString) ++ ']' :: rest)
        = _ := readItems_blockLines (List.cons_ne_nil t ts) enough
    have quote := head_blockLines level (ts.map printString)
      (rfl : (printString t).head? = _) (']' :: rest)
    rw [printStrings, List.map_cons, printBlock_cons, readValue, skipBlanks_newLine,
      skipBlanks_of_quote quote]
    split
    next closed =>
      rw [closed] at quote
      simp at quote
    next =>
      rw [← List.map_cons, items]
      rfl

/-! ### Fields -/

/-- The line of a field, and the lines of its items. -/
def fieldLines (field : Text × List Text) : Text :=
  printString field.1 ++ ": ".toList ++ printStrings 1 field.2

/-- A field as a value. -/
def textField (field : Text × List Text) : JsonString × Json :=
  (.ofText field.1, .array (textItems field.2))

lemma readFields_fieldLines (n : Nat) {field : Text × List Text} {more : Text}
    (enough : field.2.length < n) :
    readFields (n + 2) (room + 1) (fieldLines field ++ more) =
      match skipBlanks more with
      | '\x7d' :: rest => .ok ([textField field], rest)
      | ',' :: r => do
        let (fields, rest) ← readFields (n + 1) (room + 1) (skipBlanks r)
        return (textField field :: fields, rest)
      | r => .error (.fault .comma r) := by
  have colon : ∀ t, skipBlanks (": ".toList ++ t) = ':' :: ' ' :: t := fun t => rfl
  have list : ∀ t, skipBlanks (' ' :: (printStrings 1 field.2 ++ t))
      = printStrings 1 field.2 ++ t := by
    intro t
    cases field.2 <;> rfl
  rw [fieldLines, List.append_assoc, List.append_assoc, printString_append, readFields]
  dsimp only
  rw [readQuoted_printString]
  simp only [bind, Except.bind, colon, list, readValue_printStrings enough]
  rfl

lemma readFields_last (n : Nat) {field : Text × List Text} (enough : field.2.length < n) :
    readFields (n + 2) (room + 1) (fieldLines field ++ (newLine level ++ '\x7d' :: rest))
      = .ok ([textField field], rest) := by
  have closing : skipBlanks (newLine level ++ '\x7d' :: rest) = '\x7d' :: rest := by
    rw [skipBlanks_newLine, skipBlanks_of_visible rfl]
  rw [readFields_fieldLines n enough, closing]
  rfl

lemma readFields_next (n : Nat) {field : Text × List Text} {more : Text}
    (enough : field.2.length < n) (next : skipBlanks more = more) :
    readFields (n + 2) (room + 1) (fieldLines field ++ (',' :: newLine level ++ more)) =
      (readFields (n + 1) (room + 1) more).map fun (fields, r) =>
        (textField field :: fields, r) := by
  have comma : skipBlanks (',' :: newLine level ++ more) = ',' :: (newLine level ++ more) :=
    skipBlanks_of_visible rfl _
  rw [readFields_fieldLines n enough, comma]
  change (readFields (n + 1) (room + 1) (skipBlanks (newLine level ++ more)) >>= fun found =>
    pure (textField field :: found.1, found.2)) = _
  rw [skipBlanks_newLine, next]
  cases readFields (n + 1) (room + 1) more <;> rfl

lemma readFields_blockLines {fields : List (Text × List Text)} (nonempty : fields ≠ [])
    (enough : ∀ field ∈ fields, fields.length + field.2.length + 1 < n) :
    readFields n (room + 1) (blockLines level (fields.map fieldLines) ++ '\x7d' :: rest)
      = .ok (fields.map textField, rest) := by
  induction fields generalizing n with
  | nil => exact absurd rfl nonempty
  | cons field fields ih =>
    have first := enough field List.mem_cons_self
    rw [List.length_cons] at first
    obtain ⟨n, rfl⟩ : ∃ m, n = m + 2 := ⟨n - 2, by omega⟩
    cases fields with
    | nil =>
      have fits : field.2.length < n := by
        rw [List.length_nil] at first
        omega
      exact (congrArg _ (blockLines_singleton _ _)).trans (readFields_last n fits)
    | cons next fields =>
      rw [List.length_cons] at first
      have more := head_blockLines level (fields.map fieldLines)
        (rfl : (fieldLines next).head? = _) ('\x7d' :: rest)
      rw [List.map_cons, List.map_cons, blockLines_cons_cons,
        readFields_next n (by omega) (skipBlanks_of_quote more), ← List.map_cons, ih (by simp)]
      · rfl
      · intro other mem
        have := enough other (List.mem_cons_of_mem _ mem)
        rw [List.length_cons] at this
        omega

/-- An object of lists of texts is read back. -/
lemma readValue_printLists {fields : List (Text × List Text)}
    (enough : ∀ field ∈ fields, fields.length + field.2.length + 1 < n) :
    readValue (n + 1) (room + 2) (printLists fields ++ rest)
      = .ok (.object (collectFields (fields.map textField)), rest) := by
  cases fields with
  | nil => rfl
  | cons field fields =>
    have found : readFields n (room + 1)
        (blockLines 0 ((field :: fields).map fieldLines) ++ '\x7d' :: rest) = _ :=
      readFields_blockLines (List.cons_ne_nil field fields) enough
    have quote := head_blockLines 0 (fields.map fieldLines)
      (rfl : (fieldLines field).head? = _) ('\x7d' :: rest)
    have print : printLists (field :: fields)
        = printBlock 0 '\x7b' '\x7d' (fieldLines field :: fields.map fieldLines) := rfl
    rw [print, printBlock_cons, readValue, skipBlanks_newLine, skipBlanks_of_quote quote]
    split
    next closed =>
      rw [closed] at quote
      simp at quote
    next =>
      rw [← List.map_cons, found]
      rfl

/-! ### Whole texts -/

/-- Joined parts keep their characters. -/
lemma flatten_sublist_intercalate (separator : Text) (parts : List Text) :
    parts.flatten.Sublist (separator.intercalate parts) := by
  induction parts with
  | nil => simp
  | cons first parts ih =>
    cases parts with
    | nil => simp
    | cons second parts =>
      rw [List.intercalate_cons_cons, List.flatten_cons, List.append_assoc]
      exact (List.Sublist.refl first).append (ih.trans (List.sublist_append_right _ _))

lemma length_le_flatten {parts : List Text} (nonempty : ∀ part ∈ parts, part ≠ []) :
    parts.length ≤ parts.flatten.length := by
  induction parts with
  | nil => simp
  | cons first parts ih =>
    obtain ⟨some, others⟩ := List.forall_mem_cons.mp nonempty
    have := List.length_pos_iff.mpr some
    have := ih others
    rw [List.flatten_cons, List.length_append, List.length_cons]
    omega

/-- A block is longer than its parts together. -/
lemma length_printBlock (level : Nat) (opening closing : Char) (parts : List Text) :
    parts.flatten.length < (printBlock level opening closing parts).length := by
  cases parts with
  | nil => simp [printBlock]
  | cons part parts =>
    have kept :=
      (flatten_sublist_intercalate (',' :: newLine (level + 1)) (part :: parts)).length_le
    simp only [printBlock, List.length_append, List.length_cons]
    omega

lemma length_lt_printStrings (level : Nat) (ts : List Text) :
    ts.length < (printStrings level ts).length := by
  have block := length_printBlock level '[' ']' (ts.map printString)
  have parts : (ts.map printString).length ≤ (ts.map printString).flatten.length :=
    length_le_flatten (by simp [printString])
  rw [List.length_map] at parts
  exact Nat.lt_of_le_of_lt parts block

lemma length_lt_printLists {fields : List (Text × List Text)} {field : Text × List Text}
    (mem : field ∈ fields) :
    fields.length < (printLists fields).length ∧
      field.2.length < (printLists fields).length := by
  have block : (fields.map fieldLines).flatten.length < (printLists fields).length :=
    length_printBlock 0 _ _ _
  have parts : (fields.map fieldLines).length ≤ (fields.map fieldLines).flatten.length :=
    length_le_flatten (by
      rintro part h
      obtain ⟨field, -, rfl⟩ := List.mem_map.mp h
      simp [fieldLines, printString])
  have part : (fieldLines field).length ≤ (fields.map fieldLines).flatten.length :=
    (List.sublist_flatten_of_mem (List.mem_map_of_mem mem)).length_le
  have lines : (printStrings 1 field.2).length ≤ (fieldLines field).length := by
    simp only [fieldLines, List.length_append]
    omega
  have items := length_lt_printStrings 1 field.2
  rw [List.length_map] at parts
  omega

/-- The document of some lists of texts is read back. -/
theorem ofText_printLists (fields : List (Text × List Text)) :
    Json.ofText (printLists fields ++ ['\n'])
      = .ok (.object (collectFields (fields.map textField))) := by
  have enough : ∀ field ∈ fields,
      fields.length + field.2.length + 1 < 2 * (printLists fields ++ ['\n']).length + 1 := by
    intro field mem
    have := length_lt_printLists mem
    rw [List.length_append]
    omega
  have value : readValue (2 * (printLists fields ++ ['\n']).length + 2) nestingLimit
      (printLists fields ++ ['\n']) = .ok (_, ['\n']) := readValue_printLists enough
  have start : ∃ r, printLists fields ++ ['\n'] = '\x7b' :: r := by
    cases fields <;> exact ⟨_, rfl⟩
  have noMark : ¬(printLists fields ++ ['\n']).head? = some '\ufeff' := by
    obtain ⟨r, hr⟩ := start
    simp [hr]
  have noBlank : skipBlanks (printLists fields ++ ['\n']) = printLists fields ++ ['\n'] := by
    obtain ⟨r, hr⟩ := start
    rw [hr]
    exact skipBlanks_of_visible rfl r
  have whole : readWhole (printLists fields ++ ['\n'])
      = .ok (.object (collectFields (fields.map textField))) := by
    rw [readWhole, if_neg noMark, noBlank, value]
    rfl
  rw [Json.ofText, whole]
  rfl

end TreeDump.Json
