import TreeDump.Path.Basic

/-!
# Plain paths

The form in which paths of configuration files and profiles are kept: no empty component, no `.`
and no slash at the end. A `..` stays, since the name before it may be a link.
-/

namespace TreeDump

/-- Does the name stand in plain paths? -/
def Path.isPlain (name : Text) : Bool :=
  name != [] && name != here && !name.contains '/'

/-- A path in plain form. -/
structure PlainPath where
  /-- the leading slashes -/
  lead : Text
  names : List Text
  lead_mem : lead ∈ [[], ['/'], ['/', '/']]
  isPlain_of_mem : ∀ name ∈ names, Path.isPlain name = true
  deriving DecidableEq, Repr

namespace PlainPath

/-- The plain form of a path. -/
def ofText (path : Text) : PlainPath where
  lead := Path.lead path
  names := (Path.components path).filter fun name => name != [] && name != Path.here
  lead_mem := by
    unfold Path.lead
    split <;> simp
  isPlain_of_mem name h := by
    obtain ⟨component, proper⟩ := List.mem_filter.1 h
    have noSlash := Path.slash_not_mem_of_mem_components component
    simpa [Path.isPlain, noSlash] using proper

/-- The spelling of the path; nothing at all is spelled `.`. -/
def text (path : PlainPath) : Text :=
  Path.orHere (path.lead ++ ['/'].intercalate path.names)

/-- The directory that holds the path. The root and `.` hold themselves. -/
def parent (path : PlainPath) : PlainPath :=
  { path with
    names := path.names.dropLast
    isPlain_of_mem := fun name h => path.isPlain_of_mem name (List.dropLast_subset _ h) }

/-- The path of `name` in a directory. -/
def child (path : PlainPath) (name : Text) (plain : Path.isPlain name = true := by decide) :
    PlainPath :=
  { path with
    names := path.names ++ [name]
    isPlain_of_mem := fun other h => by
      rcases List.mem_append.1 h with h | h
      · exact path.isPlain_of_mem other h
      · rwa [List.mem_singleton.1 h] }

end PlainPath

end TreeDump
