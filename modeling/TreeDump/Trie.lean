import TreeDump.Text.Basic

/-!
# Tries

A finite map from paths of names to values, which branches name by name, so that looking a path up
takes one step for each of its names. Putting in and taking out are pinned down by what `get?` gives
afterwards.
-/

namespace TreeDump

/-- A finite map from paths of names to values. -/
inductive Trie (α : Type)
  | node (value : Option α) (branches : List (Text × Trie α))

namespace Trie

variable {α : Type}

/-! ### Looking up -/

/-- The map without values. -/
def empty : Trie α := .node none []

/-- The value at the path without names. -/
def value : Trie α → Option α
  | .node value _ => value

/-- What lies under each first name. -/
def branches : Trie α → List (Text × Trie α)
  | .node _ branches => branches

/-- What some branches have under a name. -/
def under (name : Text) : List (Text × Trie α) → Trie α
  | [] => empty
  | first :: rest => if first.1 = name then first.2 else under name rest

/-- What lies under a first name. -/
def branch (trie : Trie α) (name : Text) : Trie α :=
  under name trie.branches

/-- What lies under a path. -/
def sub (trie : Trie α) : List Text → Trie α
  | [] => trie
  | name :: names => (trie.branch name).sub names

/-- The value at a path. -/
def get? (trie : Trie α) (names : List Text) : Option α :=
  (trie.sub names).value

/-! ### Changing -/

/-- Put a branch into a list of branches, in place of the one under the same name. -/
def putBranch (name : Text) (trie : Trie α) : List (Text × Trie α) → List (Text × Trie α)
  | [] => [(name, trie)]
  | first :: rest =>
    if first.1 = name then (name, trie) :: rest else first :: putBranch name trie rest

/-- Change what lies under a path. -/
def update (change : Trie α → Trie α) : List Text → Trie α → Trie α
  | [], trie => change trie
  | name :: names, trie =>
    .node trie.value (putBranch name (update change names (trie.branch name)) trie.branches)

/-- Put a value at a path. -/
def insert (trie : Trie α) (names : List Text) (value : α) : Trie α :=
  update (fun below => .node (some value) below.branches) names trie

/-- Take out the values at a path and below it. -/
def erase (trie : Trie α) (names : List Text) : Trie α :=
  update (fun _ => empty) names trie

theorem under_putBranch (name other : Text) (trie : Trie α) (branches : List (Text × Trie α)) :
    under other (putBranch name trie branches)
      = if other = name then trie else under other branches := by
  induction branches with
  | nil => by_cases h : name = other <;> simp [putBranch, under, h, eq_comm]
  | cons first rest ih =>
    by_cases hk : first.1 = name
    · by_cases h : name = other <;> simp [putBranch, under, hk, h, eq_comm]
    · by_cases h : first.1 = other
      · have : ¬other = name := fun e => hk (h.trans e)
        simp [putBranch, under, h, this]
      · simp [putBranch, under, hk, h, ih]

theorem sub_update_cons (change : Trie α → Trie α) (name other : Text)
    (names others : List Text) (trie : Trie α) :
    (update change (name :: names) trie).sub (other :: others)
      = if other = name then (update change names (trie.branch name)).sub others
        else trie.sub (other :: others) := by
  simp only [update, sub, branch, branches, under_putBranch]
  split <;> rfl

@[simp] theorem sub_empty (names : List Text) : (empty : Trie α).sub names = empty := by
  induction names with
  | nil => rfl
  | cons name names ih => exact ih

theorem get?_insert (trie : Trie α) (names others : List Text) (value : α) :
    (trie.insert names value).get? others
      = if others = names then some value else trie.get? others := by
  induction names generalizing trie others with
  | nil =>
    cases others with
    | nil => rfl
    | cons other others => rfl
  | cons name names ih =>
    cases others with
    | nil => rfl
    | cons other others =>
      simp only [insert, get?, sub_update_cons] at ih ⊢
      by_cases h : other = name
      · subst h
        simpa [sub] using ih (trie.branch other) others
      · simp [h]

theorem get?_erase (trie : Trie α) (names others : List Text) :
    (trie.erase names).get? others = if names <+: others then none else trie.get? others := by
  induction names generalizing trie others with
  | nil =>
    simp only [erase, update, get?, sub_empty, List.nil_prefix, if_true]
    rfl
  | cons name names ih =>
    cases others with
    | nil => simp [erase, update, get?, sub, value]
    | cons other others =>
      simp only [erase, get?, sub_update_cons] at ih ⊢
      by_cases h : other = name
      · subst h
        simpa [sub] using ih (trie.branch other) others
      · have h' : ¬name = other := fun e => h e.symm
        simp [h, h']

theorem putBranch_putBranch (name : Text) (trie other : Trie α) (branches : List (Text × Trie α)) :
    putBranch name trie (putBranch name other branches) = putBranch name trie branches := by
  induction branches with
  | nil => simp [putBranch]
  | cons first rest ih => by_cases h : first.1 = name <;> simp [putBranch, h, ih]

/-- A value that is put in twice has been put in once. -/
theorem insert_insert (trie : Trie α) (names : List Text) (value : α) :
    (trie.insert names value).insert names value = trie.insert names value := by
  induction names generalizing trie with
  | nil => rfl
  | cons name names ih =>
    have below : ((trie.insert (name :: names) value).branch name)
        = (trie.branch name).insert names value := by
      simp [insert, update, branch, branches, under_putBranch]
    have again := ih (trie.branch name)
    simp only [insert] at below again ⊢
    rw [update, below, again]
    simp [update, Trie.value, branches, putBranch_putBranch]

/-! ### All values -/

mutual

/-- The values of a trie with their paths. A value comes before those below it. -/
def toList : Trie α → List (List Text × α)
  | .node value branches => (value.toList.map fun v => ([], v)) ++ branchesToList branches

/-- The values under some branches with their paths. -/
def branchesToList : List (Text × Trie α) → List (List Text × α)
  | [] => []
  | (name, trie) :: rest =>
    (trie.toList.map fun entry => (name :: entry.1, entry.2)) ++ branchesToList rest

end

end Trie

end TreeDump
