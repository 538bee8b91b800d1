import Mathlib.Data.List.Basic
import Mathlib.Tactic.Common
import TreeDump.Text.Basic

/-!
# Lines

A text is cut at its line feeds, and texts are joined with a separator part by part. The newlines
of a text are unified part by part, unless a part ends between the two characters of one newline.
-/

namespace TreeDump.Text

lemma lines_append (s t : Text) : lines (s ++ '\n' :: t) = s.lines ++ t.lines :=
  List.splitOn_append_cons_self s t

lemma lines_eq_singleton {t : Text} (h : '\n' ∉ t) : lines t = [t] :=
  List.splitOn_eq_singleton h

lemma intercalate_lines (t : Text) : ['\n'].intercalate t.lines = t :=
  List.intercalate_splitOn '\n'

/-! ### Joined texts -/

lemma intercalate_append {separator : Text} {ws vs : List Text} (nonempty : ws ≠ [])
    (nonempty' : vs ≠ []) :
    separator.intercalate (ws ++ vs)
      = separator.intercalate ws ++ separator ++ separator.intercalate vs := by
  induction ws with
  | nil => exact absurd rfl nonempty
  | cons w ws ih =>
    by_cases single : ws = []
    · rw [single, List.singleton_append, List.intercalate_cons_of_ne_nil nonempty',
        List.intercalate_singleton]
    · rw [List.cons_append, List.intercalate_cons_of_ne_nil (by simp [single]), ih single,
        List.intercalate_cons_of_ne_nil single]
      simp only [List.append_assoc]

/-- Texts that are not empty leave something when they are joined. -/
lemma intercalate_ne_nil {separator : Text} {ws : List Text} (nonempty : ws ≠ [])
    (parts : ∀ w ∈ ws, w ≠ []) : separator.intercalate ws ≠ [] := by
  obtain ⟨w, ws, rfl⟩ := List.exists_cons_of_ne_nil nonempty
  obtain ⟨first, -⟩ := List.forall_mem_cons.mp parts
  cases ws with
  | nil => simpa using first
  | cons v ws => simp [List.intercalate_cons_cons, first]

lemma mem_intercalate_of_mem {separator part : Text} {parts : List Text} {c : Char}
    (h : part ∈ parts) (mem : c ∈ part) : c ∈ separator.intercalate parts := by
  induction parts with
  | nil => simp at h
  | cons first parts ih =>
    cases parts with
    | nil => simpa [← List.mem_singleton.mp h] using mem
    | cons second parts =>
      rw [List.intercalate_cons_cons, List.mem_append, List.mem_append]
      rcases List.mem_cons.mp h with rfl | h
      · exact .inl (.inl mem)
      · exact .inr (ih h)

lemma mem_of_mem_intercalate {separator : Text} {parts : List Text} {c : Char}
    (h : c ∈ separator.intercalate parts) : c ∈ separator ∨ ∃ part ∈ parts, c ∈ part := by
  induction parts with
  | nil => simp at h
  | cons first parts ih =>
    cases parts with
    | nil => exact .inr ⟨first, List.mem_cons_self, by simpa using h⟩
    | cons second parts =>
      rw [List.intercalate_cons_cons, List.mem_append, List.mem_append] at h
      rcases h with (mem | mem) | mem
      · exact .inr ⟨first, List.mem_cons_self, mem⟩
      · exact .inl mem
      · refine (ih mem).imp_right ?_
        rintro ⟨part, hpart, mem⟩
        exact ⟨part, List.mem_cons_of_mem _ hpart, mem⟩

/-! ### Newlines -/

lemma unifyNewlines_of_no_return {t : Text} (h : '\r' ∉ t) : t.unifyNewlines = t := by
  fun_induction unifyNewlines t with
  | case1 => rfl
  | case2 r ih => exact absurd List.mem_cons_self h
  | case3 r _ ih => exact absurd List.mem_cons_self h
  | case4 c r _ _ ih => rw [ih fun mem => h (List.mem_cons_of_mem _ mem)]

lemma unifyNewlines_append {s t : Text} (apart : s.getLast? = some '\r' → t.head? ≠ some '\n') :
    (s ++ t).unifyNewlines = s.unifyNewlines ++ t.unifyNewlines := by
  fun_induction unifyNewlines s with
  | case1 => rfl
  | case2 r ih =>
    rw [List.cons_append, List.cons_append, unifyNewlines, ih, List.cons_append]
    intro last
    exact apart (by simp [List.getLast?_cons, last])
  | case3 r alone ih =>
    rw [List.cons_append, unifyNewlines, ih, List.cons_append]
    · intro last
      exact apart (by simp [List.getLast?_cons, last])
    · intro after start
      cases r with
      | nil =>
        rw [List.nil_append] at start
        exact apart rfl (by rw [start, List.head?_cons])
      | cons c r =>
        obtain ⟨rfl, -⟩ := List.cons_eq_cons.mp start
        exact alone r rfl
  | case4 c r notBoth notReturn ih =>
    rw [List.cons_append, unifyNewlines, ih, List.cons_append]
    · intro last
      exact apart (by simp [List.getLast?_cons, last])
    · exact fun _ isReturn _ => notReturn isReturn
    · exact notReturn

lemma getLast?_unifyNewlines {t : Text} (h : t.getLast? = some '\r') :
    t.unifyNewlines.getLast? = some '\n' := by
  obtain ⟨s, rfl⟩ := List.getLast?_eq_some_iff.mp h
  rw [unifyNewlines_append (by simp)]
  exact List.getLast?_concat

/-! ### Searching -/

lemma includes_iff {part t : Text} : includes part t = true ↔ part <:+: t := by
  induction t with
  | nil => simp [includes]
  | cons c t ih => simp [includes, ih, List.infix_cons_iff]

lemma cutAt?_append {mark : Char} {before : Text} (first : mark ∉ before) (after : Text) :
    cutAt? mark (before ++ mark :: after) = some (before, after) := by
  induction before with
  | nil => simp [cutAt?]
  | cons c before ih =>
    rw [List.mem_cons, not_or] at first
    simp [cutAt?, Ne.symm first.1, ih first.2]

end TreeDump.Text
