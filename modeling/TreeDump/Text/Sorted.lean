import TreeDump.Text.Basic

/-!
# Sorted texts

The order of texts by code points is total. Sorting by it keeps the members of a list and gives an
ascending list; without repetitions the list is strictly ascending, so that a finite set of texts
has exactly one such list.
-/

namespace TreeDump

namespace Text

/-! ### The order -/

@[simp] theorem inOrder_nil (t : Text) : inOrder [] t = true := rfl

@[simp] theorem inOrder_cons_nil (c : Char) (s : Text) : inOrder (c :: s) [] = false := rfl

@[simp] theorem inOrder_cons_cons (c d : Char) (s t : Text) :
    inOrder (c :: s) (d :: t) = (c.toNat < d.toNat || (c = d && inOrder s t)) := rfl

theorem inOrder_refl (a : Text) : inOrder a a = true := by
  induction a with
  | nil => rfl
  | cons c s ih => simp [ih]

theorem inOrder_total (a b : Text) : (inOrder a b || inOrder b a) = true := by
  induction a generalizing b with
  | nil => simp
  | cons c s ih =>
    cases b with
    | nil => simp
    | cons d t =>
      by_cases h : c = d
      · have := ih t
        simp_all
      · have hn : c.toNat ≠ d.toNat := fun e => h (Char.toNat_inj.1 e)
        rcases Nat.lt_or_gt_of_ne hn with hlt | hgt
        · simp [hlt]
        · simp [hgt]

theorem inOrder_trans (a b c : Text) (hab : inOrder a b = true) (hbc : inOrder b c = true) :
    inOrder a c = true := by
  induction a generalizing b c with
  | nil => simp
  | cons x a ih =>
    cases b with
    | nil => simp at hab
    | cons y b =>
      cases c with
      | nil => simp at hbc
      | cons z c =>
        simp only [inOrder_cons_cons, Bool.or_eq_true, Bool.and_eq_true, decide_eq_true_eq] at *
        rcases hab with hxy | ⟨rfl, hab⟩
        · rcases hbc with hyz | ⟨rfl, -⟩
          · exact Or.inl (Nat.lt_trans hxy hyz)
          · exact Or.inl hxy
        · rcases hbc with hyz | ⟨rfl, hbc⟩
          · exact Or.inl hyz
          · exact Or.inr ⟨rfl, ih b c hab hbc⟩

theorem inOrder_antisymm {a b : Text} (hab : inOrder a b = true) (hba : inOrder b a = true) :
    a = b := by
  induction a generalizing b with
  | nil =>
    cases b with
    | nil => rfl
    | cons => simp at hba
  | cons c s ih =>
    cases b with
    | nil => simp at hab
    | cons d t =>
      simp only [inOrder_cons_cons, Bool.or_eq_true, Bool.and_eq_true, decide_eq_true_eq] at *
      rcases hab with hcd | ⟨rfl, hst⟩
      · rcases hba with hdc | ⟨rfl, -⟩
        · exact absurd hdc (Nat.lt_asymm hcd)
        · exact absurd hcd (Nat.lt_irrefl _)
      · rcases hba with hcc | ⟨-, hts⟩
        · exact absurd hcc (Nat.lt_irrefl _)
        · rw [ih hst hts]

/-- Does `a` come before `b`, and differ from it? -/
def Before (a b : Text) : Prop :=
  inOrder a b = true ∧ a ≠ b

/-! ### Sorting -/

theorem mem_sort {t : Text} {ts : List Text} : t ∈ sort ts ↔ t ∈ ts :=
  List.mem_mergeSort

theorem pairwise_sort (ts : List Text) : (sort ts).Pairwise fun a b => inOrder a b = true :=
  List.pairwise_mergeSort inOrder_trans inOrder_total ts

/-- Texts without repetition are strictly ascending once they are sorted. -/
theorem pairwise_before_sort {ts : List Text} (h : ts.Nodup) : (sort ts).Pairwise Before := by
  have nodup : (sort ts).Nodup := (List.mergeSort_perm ts inOrder).nodup_iff.2 h
  exact (pairwise_sort ts).imp₂ (fun _ _ hab hne => ⟨hab, hne⟩) nodup

/-! ### Dropping repetitions -/

theorem mem_dropRepeats {t : Text} {ts : List Text} : t ∈ dropRepeats ts ↔ t ∈ ts := by
  fun_induction dropRepeats ts with
  | case1 b r ih => simp [ih]
  | case2 a b r hab ih => simp [ih]
  | case3 ts _ => rfl

theorem pairwise_dropRepeats {ts : List Text} (h : ts.Pairwise fun a b => inOrder a b = true) :
    (dropRepeats ts).Pairwise Before := by
  fun_induction dropRepeats ts with
  | case1 b r ih => exact ih (List.pairwise_cons.1 h).2
  | case2 a b r hab ih =>
    have ⟨least, rest⟩ := List.pairwise_cons.1 h
    refine List.pairwise_cons.2 ⟨fun c hc => ?_, ih rest⟩
    have hac : inOrder a c = true := least c (mem_dropRepeats.1 hc)
    refine ⟨hac, ?_⟩
    rintro rfl
    have hba : inOrder b a = true := by
      rcases List.mem_cons.1 (mem_dropRepeats.1 hc) with rfl | ha
      · exact inOrder_refl _
      · exact (List.pairwise_cons.1 rest).1 a ha
    exact hab (inOrder_antisymm (least b List.mem_cons_self) hba)
  | case3 ts hts =>
    match ts, hts with
    | [], _ => exact List.Pairwise.nil
    | [a], _ => exact List.pairwise_singleton _ _
    | a :: b :: r, hts => exact absurd rfl (hts a b r)

theorem mem_sortDistinct {t : Text} {ts : List Text} : t ∈ sortDistinct ts ↔ t ∈ ts :=
  mem_dropRepeats.trans mem_sort

theorem pairwise_sortDistinct (ts : List Text) : (sortDistinct ts).Pairwise Before :=
  pairwise_dropRepeats (pairwise_sort ts)

end Text

/-- A finite set of texts: its members in ascending order. -/
structure TextSet where
  toList : List Text
  ascending : toList.Pairwise Text.Before

namespace TextSet

/-- The set of the texts in a list. -/
def ofList (ts : List Text) : TextSet :=
  ⟨Text.sortDistinct ts, Text.pairwise_sortDistinct ts⟩

instance : Membership Text TextSet where
  mem set t := t ∈ set.toList

/-- Is the text a member? -/
def contains (set : TextSet) (t : Text) : Bool :=
  set.toList.contains t

theorem contains_iff {set : TextSet} {t : Text} : set.contains t = true ↔ t ∈ set :=
  List.contains_iff_mem

instance (t : Text) (set : TextSet) : Decidable (t ∈ set) :=
  decidable_of_iff (set.contains t = true) contains_iff

@[simp] theorem mem_ofList {t : Text} {ts : List Text} : t ∈ ofList ts ↔ t ∈ ts :=
  Text.mem_sortDistinct

end TextSet

end TreeDump
