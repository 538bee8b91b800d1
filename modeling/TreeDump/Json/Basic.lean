import TreeDump.Decimal.Shortest
import TreeDump.Encoding.Raw
import TreeDump.Text.Quoted

/-!
# JSON values

The values of a JSON text, and how one is shown inside a message or taken as a plain text. The
strings of JSON are more than texts: an escape can put half of a surrogate pair into them.
-/

namespace TreeDump

/-! ### Strings -/

/-- A JSON string. -/
abbrev JsonString := RawText

namespace JsonString

/-- The string as a text. The replacement character stands for a surrogate. -/
def toText (s : JsonString) : Text :=
  s.map fun
    | .char c => c
    | .surrogate _ _ => '\ufffd'

/-- The string between quotes, as a text is quoted; surrogates are escaped. -/
def quoted (s : JsonString) : Text :=
  let quote := Text.quoteFor (toText s)
  let escape : RawChar → Text
    | .char c => Text.escape quote c
    | .surrogate unit _ => '\\' :: 'u' :: Text.ofHex 4 unit
  quote :: s.flatMap escape ++ [quote]

@[simp] theorem toText_ofText (t : Text) : toText (.ofText t) = t := by
  simp [toText, RawText.ofText, Function.comp_def]

end JsonString

/-! ### Values -/

/-- A JSON value. The fields of an object keep their order. -/
inductive Json
  | null
  | bool (value : Bool)
  | integer (value : Int)
  | float (value : Binary64)
  | text (value : JsonString)
  | array (items : List Json)
  | object (fields : List (JsonString × Json))

namespace Json

/-- Set a field of an object. A field that is there keeps its place. -/
def putField (key : JsonString) (value : Json) :
    List (JsonString × Json) → List (JsonString × Json)
  | [] => [(key, value)]
  | field :: fields =>
    if field.1 = key then (key, value) :: fields else field :: putField key value fields

/-- The fields of an object in which a later field replaces an earlier one of the same name. -/
def collectFields (fields : List (JsonString × Json)) : List (JsonString × Json) :=
  fields.foldl (fun done field => putField field.1 field.2 done) []

/-- The layout of numbers with a fractional part: a point in place from `0.0001` to `10 ^ 16`,
and an exponent of two digits at least beyond. -/
def floatLayout : DecimalLayout := ⟨4, 16, 2⟩

/-! ### Values as texts -/

mutual

/-- A value as it is shown inside a list. -/
def shown : Json → Text
  | .null => "None".toList
  | .bool true => "True".toList
  | .bool false => "False".toList
  | .integer n => Text.ofInt n
  | .float x => floatLayout.renderBinary64 x
  | .text s => s.quoted
  | .array items => '[' :: ", ".toList.intercalate (shownItems items) ++ [']']
  | .object fields => '\x7b' :: ", ".toList.intercalate (shownFields fields) ++ ['\x7d']

/-- The values of a list as they are shown. -/
def shownItems : List Json → List Text
  | [] => []
  | item :: items => item.shown :: shownItems items

/-- The fields of an object as they are shown. -/
def shownFields : List (JsonString × Json) → List Text
  | [] => []
  | (key, value) :: fields => (key.quoted ++ ": ".toList ++ value.shown) :: shownFields fields

end

/-- A value taken as a text: a text is itself, any other value is shown. -/
def asText : Json → Text
  | .text s => s.toText
  | value => value.shown

end Json

end TreeDump
