import TreeDump.FileSystem.Resolve
import TreeDump.Path.Plain

/-!
# Reading and writing

Listing directories, reading and writing files, and making directories. An operation whose name ends
in `Allowed` first asks what the program is denied; the others are those of a program that has been
let in. Making a directory opens nothing and is never denied.
-/

namespace TreeDump

/-- What an entry of a directory counts as once links are followed. -/
inductive EntryKind
  | file
  | directory
  | other
  deriving DecidableEq, Repr

/-- An entry of a directory. Its kind can be out of reach when it is a link. -/
structure DirectoryEntry where
  name : Text
  kind : Except FileError EntryKind

namespace FileSystem

/-! ### Looking -/

/-- Does the path lead to a directory? -/
def isDirectory (fs : FileSystem) (path : Text) : Bool :=
  match fs.resolve .look path with
  | .ok (_, some .directory) => true
  | _ => false

/-- Does the path lead anywhere? A path that is too long for the system is an error. -/
def exists? (fs : FileSystem) (path : Text) : Except FileError Bool :=
  match fs.resolve .look path with
  | .ok (_, node?) => .ok node?.isSome
  | .error (.system .nameTooLong p) => .error (.system .nameTooLong p)
  | .error _ => .ok false

/-- The kind of a node that is reached without a link. -/
def kindOf : Node → EntryKind
  | .file _ => .file
  | .directory => .directory
  | .link _ | .pipe | .nullDevice | .socket => .other

/-- The kind of the node `node` at `path`. A link that leads nowhere is neither file nor
directory. -/
def entryKind (fs : FileSystem) (path : Text) (node : Node) : Except FileError EntryKind :=
  match node with
  | .link _ =>
    match fs.resolve .look path with
    | .ok (_, some node) => .ok (kindOf node)
    | .ok (_, none) => .ok .other
    | .error (.system .notFound _) => .ok .other
    | .error e => .error e
  | node => .ok (kindOf node)

/-- The entries of a directory, in no special order. -/
def list (fs : FileSystem) (path : Text) : Except FileError (List DirectoryEntry) :=
  match fs.resolve .look path with
  | .ok (place, some .directory) =>
    .ok ((fs.children place).map fun (name, node) =>
      ⟨name, fs.entryKind (Path.join path name) node⟩)
  | .ok (_, some _) => .error (.system .notDirectory path)
  | .ok (_, none) => .error (.system .notFound path)
  | .error e => .error e

/-! ### Files -/

/-- The content of a file. -/
def read (fs : FileSystem) (path : Text) : Except FileError Bytes :=
  match fs.resolve .look path with
  | .ok (_, some (.file content)) => .ok content
  | .ok (_, some .directory) => .error (.system .isDirectory path)
  | .ok (_, some .socket) => .error (.system .noDevice path)
  | .ok (_, some _) => .ok []
  | .ok (_, none) => .error (.system .notFound path)
  | .error e => .error e

/-- Give the file at a path the content that `change` makes of the old one. A new file starts
empty. -/
def modify (fs : FileSystem) (path : Text) (change : Bytes → Bytes) :
    Except FileError FileSystem :=
  match fs.resolve .write path with
  | .ok (place, some (.file content)) => .ok (fs.set place (.file (change content)))
  | .ok (place, none) => .ok (fs.set place (.file (change [])))
  | .ok (_, some .directory) => .error (.system .isDirectory path)
  | .ok (_, some .socket) => .error (.system .noDevice path)
  | .ok (_, some _) => .ok fs
  | .error e => .error e

/-- Write a file. -/
def write (fs : FileSystem) (path : Text) (content : Bytes) : Except FileError FileSystem :=
  fs.modify path fun _ => content

/-- Write at the end of a file. -/
def append (fs : FileSystem) (path : Text) (content : Bytes) : Except FileError FileSystem :=
  fs.modify path (· ++ content)

/-! ### What the program may open -/

/-- List a directory that the program may open. -/
def listAllowed (fs : FileSystem) (path : Text) : Except FileError (List DirectoryEntry) :=
  fs.unlessDenied .reading path (fs.list path)

/-- The content of a file that the program may read. -/
def readAllowed (fs : FileSystem) (path : Text) : Except FileError Bytes :=
  fs.unlessDenied .reading path (fs.read path)

/-- Write a file that the program may open. -/
def writeAllowed (fs : FileSystem) (path : Text) (content : Bytes) : Except FileError FileSystem :=
  fs.unlessDenied .opening path (fs.write path content)

/-- Write at the end of a file where the program may do so. -/
def appendAllowed (fs : FileSystem) (path : Text) (content : Bytes) :
    Except FileError FileSystem :=
  fs.unlessDenied .appending path (fs.append path content)

/-! ### Directories -/

/-- Make one directory. -/
def makeDirectory (fs : FileSystem) (path : Text) : Except FileError FileSystem :=
  match fs.resolve .lookAtName path with
  | .ok (place, none) => .ok (fs.set place .directory)
  | .ok (_, some _) => .error (.system .alreadyExists path)
  | .error e => .error e

/-- A directory that cannot be made is no failure when it is there. -/
def unlessDirectory (fs : FileSystem) (path : Text) (e : FileError) :
    FileSystem × Except FileError Unit :=
  (fs, if fs.isDirectory path then .ok () else .error e)

/-- Make a directory whose parent is there. -/
def makeLast (fs : FileSystem) (path : PlainPath) : FileSystem × Except FileError Unit :=
  match fs.makeDirectory path.text with
  | .ok fs' => (fs', .ok ())
  | .error e => fs.unlessDirectory path.text e

/-- The most directories that are made for one path. -/
def parentLimit : Nat := 985

/-- Make a directory with its missing parents, at most `room` of them all. When there would be more,
none is made; when a later step fails, what has been made stays. -/
def makeParents (fs : FileSystem) : Nat → PlainPath → FileSystem × Except FileError Unit
  | 0, _ => (fs, .error .tooDeep)
  | room + 1, path =>
    match fs.makeDirectory path.text with
    | .ok fs' => (fs', .ok ())
    | .error (.system .notFound p) =>
      if path.names = [] then (fs, .error (.system .notFound p))
      else
        match fs.makeParents room path.parent with
        | (fs', .ok ()) => fs'.makeLast path
        | (fs', .error e) => (fs', .error e)
    | .error e => fs.unlessDirectory path.text e

/-- Make a directory with all its missing parents, unless it is there. -/
def makeDirectories (fs : FileSystem) (path : PlainPath) : FileSystem × Except FileError Unit :=
  fs.makeParents parentLimit path

/-! ### Building a file system -/

/-- Put a node at a path, in place of what is there, and make its missing parents. A directory
that is there stays as it is. -/
def put (fs : FileSystem) (path : Text) (node : Node) : FileSystem :=
  let path := PlainPath.ofText path
  if node = .directory then (fs.makeDirectories path).1
  else
    let fs := (fs.makeDirectories path.parent).1
    match fs.resolve .lookAtName path.text with
    | .ok (place, _) => (fs.erase place).set place node
    | .error _ => fs

/-- Take away what stands at a path, with all below it. -/
def remove (fs : FileSystem) (path : Text) : FileSystem :=
  match fs.resolve .lookAtName path with
  | .ok (place, _) => fs.erase place
  | .error _ => fs

/-- Work in the directory at a path, if there is one. -/
def enter (fs : FileSystem) (path : Text) : FileSystem :=
  match fs.resolve .look path with
  | .ok (place, _) => { fs with workingDirectory := place }
  | .error _ => fs

/-- Let the program open a path in every way. -/
def allow (fs : FileSystem) (path : Text) : FileSystem :=
  { fs with denied := fs.denied.filter fun entry => entry.2 != fs.absolute path }

/-- Deny the program to open a path in any way. -/
def deny (fs : FileSystem) (path : Text) : FileSystem :=
  { fs with denied := (.opening, fs.absolute path) :: fs.denied }

end FileSystem

end TreeDump
