import Mathlib.Data.List.Sort
import Mathlib.Tactic.Common
import TreeDump.Text.Sorted

/-!
# Ascending texts

Two strictly ascending lists with the same members are the same, so that a list of texts is known
once its members are. Sorting by a key gives such a list when the keys are different.
-/

namespace TreeDump.Text

instance : Std.Irrefl Before := ⟨fun _ h => h.2 rfl⟩

instance : Std.Antisymm Before := ⟨fun _ _ hab hba => inOrder_antisymm hab.1 hba.1⟩

/-- A strictly ascending list is determined by its members. -/
lemma eq_of_pairwise_before {ts us : List Text} (ht : ts.Pairwise Before) (hu : us.Pairwise Before)
    (same : ∀ t, t ∈ ts ↔ t ∈ us) : ts = us :=
  ht.eq_of_mem_iff hu same

lemma sort_eq_self {ts : List Text} (h : ts.Pairwise Before) : sort ts = ts :=
  List.mergeSort_of_pairwise (h.imp And.left)

/-- Sorting depends on the texts and on how often each of them comes only. -/
lemma sort_eq_of_perm {ts us : List Text} (h : ts.Perm us) : sort ts = sort us :=
  List.Perm.eq_of_pairwise (fun _ _ _ _ => inOrder_antisymm) (pairwise_sort ts) (pairwise_sort us)
    ((List.mergeSort_perm ts inOrder).trans (h.trans (List.mergeSort_perm us inOrder).symm))

/-- A set is made of the list of its members. -/
lemma ofList_toList (set : TextSet) : TextSet.ofList set.toList = set := by
  have same : sortDistinct set.toList = set.toList :=
    eq_of_pairwise_before (pairwise_sortDistinct _) set.ascending fun _ => mem_sortDistinct
  cases set
  simp only [TextSet.ofList, same]

/-! ### Sorting by a key -/

/-- Sort by the texts that a key gives. -/
def sortBy {α : Type} (key : α → Text) (items : List α) : List α :=
  items.mergeSort fun a b => inOrder (key a) (key b)

variable {α : Type} {key : α → Text} {items : List α}

lemma mem_sortBy {a : α} : a ∈ sortBy key items ↔ a ∈ items :=
  List.mem_mergeSort

lemma pairwise_sortBy (different : (items.map key).Nodup) :
    (sortBy key items).Pairwise fun a b => Before (key a) (key b) := by
  have ordered : (sortBy key items).Pairwise fun a b => inOrder (key a) (key b) = true :=
    List.pairwise_mergeSort (fun a b c => inOrder_trans (key a) (key b) (key c))
      (fun a b => inOrder_total (key a) (key b)) items
  have different : (sortBy key items).Pairwise fun a b => key a ≠ key b :=
    List.pairwise_map.mp (((List.mergeSort_perm items _).map key).nodup_iff.mpr different)
  exact ordered.imp₂ (fun _ _ h ne => ⟨h, ne⟩) different

end TreeDump.Text
