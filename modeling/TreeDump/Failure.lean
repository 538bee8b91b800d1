import TreeDump.Configuration.Document
import TreeDump.Encoding.Raw
import TreeDump.FileSystem.Basic

/-!
# Failures

All the reasons for which something cannot be read or written.
-/

namespace TreeDump

/-- Why something fails. -/
inductive Failure
  | file (error : FileError)
  | decoding (error : DecodeError)
  | encoding (error : EncodeError)
  | json (error : Json.ReadError)
  | shape (error : Configuration.ShapeError)
  /-- a notebook that cannot be rendered, with the renderer's complaint -/
  | notebook (complaint : Text)
  /-- a home directory that is not stated as a path -/
  | noHome
  deriving DecidableEq, Repr

/-- The wording of a failure. -/
def Failure.message : Failure → Text
  | .file error => error.message
  | .decoding error => error.message
  | .encoding error => error.message
  | .json error => error.message
  | .shape error => error.message
  | .notebook complaint => complaint
  | .noHome => "Could not determine home directory.".toList

end TreeDump
