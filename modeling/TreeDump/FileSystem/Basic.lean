import TreeDump.Text.Quoted
import TreeDump.Trie

/-!
# File systems

A file system is a finite map from paths of names to nodes, seen from the root, together with what
the running program brings to it: the directory it works in and what it is denied. No node is a part
of another; that a file's directory is there is kept by the operations.
-/

namespace TreeDump

/-! ### Errors -/

/-- Why the system refuses an operation on a path. -/
inductive SystemError
  | notFound
  | noDevice
  | denied
  | alreadyExists
  | notDirectory
  | isDirectory
  | nameTooLong
  | tooManyLinks
  deriving DecidableEq, Repr

/-- The number of an error. -/
def SystemError.number : SystemError → Nat
  | .notFound => 2
  | .noDevice => 6
  | .denied => 13
  | .alreadyExists => 17
  | .notDirectory => 20
  | .isDirectory => 21
  | .nameTooLong => 36
  | .tooManyLinks => 40

/-- The wording of an error. -/
def SystemError.reason : SystemError → Text
  | .notFound => "No such file or directory".toList
  | .noDevice => "No such device or address".toList
  | .denied => "Permission denied".toList
  | .alreadyExists => "File exists".toList
  | .notDirectory => "Not a directory".toList
  | .isDirectory => "Is a directory".toList
  | .nameTooLong => "File name too long".toList
  | .tooManyLinks => "Too many levels of symbolic links".toList

/-- Why an operation on a path fails. -/
inductive FileError
  /-- the system refuses it -/
  | system (error : SystemError) (path : Text)
  /-- the path holds a null character and is never tried -/
  | nullByte
  /-- too many directories on the path are missing -/
  | tooDeep
  deriving DecidableEq, Repr

/-- The wording of a failure. -/
def FileError.message : FileError → Text
  | .system error path =>
    "[Errno ".toList ++ Text.ofNat error.number ++ "] ".toList ++ error.reason ++ ": ".toList
      ++ path.quoted
  | .nullByte => "embedded null byte".toList
  | .tooDeep => "maximum recursion depth exceeded while calling a Python object".toList

/-! ### Nodes -/

/-- What stands under a path. Devices whose content does not end, or is not the same every time, are
left out. -/
inductive Node
  | file (content : Bytes)
  | directory
  | link (target : Text)
  /-- a named pipe; the program at its other end writes nothing, and reads whatever is written -/
  | pipe
  /-- the device that is always empty and keeps nothing of what is written -/
  | nullDevice
  /-- a socket, which cannot be opened -/
  | socket
  deriving DecidableEq, Repr

/-- Can the node be opened for writing, but keeps nothing? -/
def Node.swallows : Node → Bool
  | .pipe | .nullDevice => true
  | .file _ | .directory | .link _ | .socket => false

/-- What the program may be denied at a path. A file that may be read but not written over is left
out. -/
inductive Denial
  /-- to open it in any way -/
  | opening
  /-- to read it or to list it; it may still be written -/
  | reading
  /-- to write at its end; it may still be read -/
  | appending
  deriving DecidableEq, Repr

/-- A file system as a running program meets it. -/
structure FileSystem where
  nodes : Trie Node
  /-- the directory from which relative paths start -/
  workingDirectory : List Text
  /-- what the program is denied, at paths that are absolute and in normal form -/
  denied : List (Denial × Text)

namespace FileSystem

/-- The node at a path of names. The root is always there. -/
def node? (fs : FileSystem) (names : List Text) : Option Node :=
  if names = [] then some .directory else fs.nodes.get? names

/-- The file system with `node` at a path of names. -/
def set (fs : FileSystem) (names : List Text) (node : Node) : FileSystem :=
  { fs with nodes := fs.nodes.insert names node }

/-- The file system without the node at a path of names and all below it. -/
def erase (fs : FileSystem) (names : List Text) : FileSystem :=
  { fs with nodes := fs.nodes.erase names }

theorem node?_set (fs : FileSystem) {names : List Text} (h : names ≠ []) (node : Node)
    (others : List Text) :
    (fs.set names node).node? others = if others = names then some node else fs.node? others := by
  unfold node?
  split
  next ho =>
    subst ho
    simp [Ne.symm h]
  next => exact fs.nodes.get?_insert names others node

theorem set_set (fs : FileSystem) (names : List Text) (node : Node) :
    (fs.set names node).set names node = fs.set names node := by
  rw [set, set, Trie.insert_insert]

/-! ### Directories -/

/-- Can a directory hold an entry of this name? -/
def isName (t : Text) : Bool :=
  t != [] && !t.contains '/'

theorem isName_iff {t : Text} : isName t = true ↔ t ≠ [] ∧ '/' ∉ t := by
  simp [isName]

/-- The first entry under each name, without the names seen already. -/
def keepFirst (seen : List Text) : List (Text × Node) → List (Text × Node)
  | [] => []
  | entry :: entries =>
    if entry.1 ∈ seen then keepFirst seen entries
    else entry :: keepFirst (entry.1 :: seen) entries

/-- The names and nodes directly in a directory. -/
def children (fs : FileSystem) (directory : List Text) : List (Text × Node) :=
  keepFirst [] ((fs.nodes.sub directory).branches.filterMap fun (name, below) =>
    if isName name then below.value.map fun node => (name, node) else none)

theorem mem_of_mem_keepFirst {seen : List Text} {entries : List (Text × Node)}
    {entry : Text × Node} (h : entry ∈ keepFirst seen entries) :
    entry ∈ entries ∧ entry.1 ∉ seen := by
  induction entries generalizing seen with
  | nil => simp [keepFirst] at h
  | cons first entries ih =>
    simp only [keepFirst] at h
    split at h
    next => exact ⟨List.mem_cons_of_mem _ (ih h).1, (ih h).2⟩
    next hseen =>
      rcases List.mem_cons.1 h with rfl | h
      · exact ⟨List.mem_cons_self, hseen⟩
      · have ⟨there, fresh⟩ := ih h
        exact ⟨List.mem_cons_of_mem _ there, fun hs => fresh (List.mem_cons_of_mem _ hs)⟩

theorem nodup_keepFirst (seen : List Text) (entries : List (Text × Node)) :
    ((keepFirst seen entries).map Prod.fst).Nodup := by
  induction entries generalizing seen with
  | nil => exact List.nodup_nil
  | cons first entries ih =>
    simp only [keepFirst]
    split
    next => exact ih seen
    next =>
      refine List.nodup_cons.2 ⟨fun h => ?_, ih _⟩
      obtain ⟨entry, there, same⟩ := List.mem_map.1 h
      exact (mem_of_mem_keepFirst there).2 (same ▸ List.mem_cons_self)

theorem isName_of_mem_children {fs : FileSystem} {directory : List Text} {entry : Text × Node}
    (h : entry ∈ fs.children directory) : isName entry.1 = true := by
  obtain ⟨⟨name, below⟩, -, h'⟩ := List.mem_filterMap.1 (mem_of_mem_keepFirst h).1
  dsimp only at h'
  split at h'
  next hname =>
    obtain ⟨node, -, rfl⟩ := Option.map_eq_some_iff.1 h'
    exact hname
  next => exact absurd h' (by simp)

theorem nodup_children (fs : FileSystem) (directory : List Text) :
    ((fs.children directory).map Prod.fst).Nodup :=
  nodup_keepFirst [] _

/-- The absolute path of names from the root. -/
def absoluteText (names : List Text) : Text :=
  '/' :: ['/'].intercalate names

end FileSystem

end TreeDump
