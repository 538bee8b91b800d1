import TreeDump.Configuration.Basic
import TreeDump.Json.Reader
import TreeDump.Json.Printer

/-!
# Configuration documents

A configuration as a JSON object with two lists of texts. Items of other kinds are taken as the
texts that show them.
-/

namespace TreeDump.Configuration

/-- The field of the extensions. -/
def extensionsKey : Text := "AllowedExtensions".toList

/-- The field of the directories to pass over. -/
def ignoredKey : Text := "IgnoredDirectories".toList

/-- Why a JSON value is no configuration. -/
inductive ShapeError
  | missing (key : Text)
  /-- a list, which has no named fields -/
  | list
  /-- a text, which has no named fields -/
  | text
  /-- a value without parts, with the name of its kind -/
  | scalar (kind : Text)
  /-- a field that is no list -/
  | notLists
  deriving DecidableEq, Repr

/-- The wording of an error. -/
def ShapeError.message : ShapeError → Text
  | .missing key => key.quoted
  | .list => "list indices must be integers or slices, not str".toList
  | .text => "string indices must be integers, not 'str'".toList
  | .scalar kind => "'".toList ++ kind ++ "' object is not subscriptable".toList
  | .notLists => "AllowedExtensions and IgnoredDirectories must be lists".toList

/-- A field of a value. -/
def field (key : Text) : Json → Except ShapeError Json
  | .object fields =>
    match fields.lookup (.ofText key) with
    | some value => .ok value
    | none => .error (.missing key)
  | .array _ => .error .list
  | .text _ => .error .text
  | .integer _ => .error (.scalar "int".toList)
  | .float _ => .error (.scalar "float".toList)
  | .bool _ => .error (.scalar "bool".toList)
  | .null => .error (.scalar "NoneType".toList)

/-- The configuration of a value. -/
def ofJson (document : Json) : Except ShapeError Configuration := do
  let extensions ← field extensionsKey document
  let ignored ← field ignoredKey document
  match extensions, ignored with
  | .array extensions, .array ignored =>
    return ofLists (extensions.map Json.asText) (ignored.map Json.asText)
  | _, _ => .error .notLists

/-- The document of a configuration, with a line feed at its end. -/
def print (config : Configuration) : Text :=
  Json.printLists
    [(extensionsKey, config.extensions.toList), (ignoredKey, config.ignored.toList)] ++ ['\n']

end TreeDump.Configuration
