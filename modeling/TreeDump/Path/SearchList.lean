import TreeDump.Encoding.Raw
import TreeDump.Path.Windows

/-!
# Search lists

The value of a PATH variable: directories between separators. Empty entries mean nothing, and two
spellings name the same directory when their keys agree.
-/

namespace TreeDump

/-- How directories are listed: the separator, and the key that decides which spellings agree. -/
structure SearchList where
  separator : Char
  key : Text → Text

namespace SearchList

/-- Lists of POSIX paths, between colons. -/
def posix : SearchList := ⟨':', Path.normalize⟩

/-- Lists of Windows paths, between semicolons. -/
def windows : SearchList := ⟨';', WindowsPath.key⟩

/-- The entries of a list that are not empty. -/
def entries (kind : SearchList) (value : Text) : List Text :=
  (value.splitOn kind.separator).filter (· != [])

/-- Does a list hold a directory? -/
def holds (kind : SearchList) (value directory : Text) : Bool :=
  (kind.entries value).any fun entry => kind.key entry == kind.key directory

/-- Does a list hold a directory, where neither of them need be text? -/
def holdsRaw (kind : SearchList) (value directory : RawText) : Bool :=
  kind.holds value.spelled directory.spelled

end SearchList

end TreeDump
