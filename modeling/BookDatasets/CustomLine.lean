/-
  Custom lines: `{name1="v1",name2="v2"}`.

  Values stand VERBATIM between their quotes.  The line is unambiguous only for values that
  `Field.normalize` made, which hold no bare quote, no line feed and no dangling backslash.
-/
import BookDatasets.Text.Utf8

namespace BookDatasets

namespace CustomLine

/-- The text of one field. -/
def fieldText (field : Text × Text) : Text := field.1 ++ ['=', '"'] ++ field.2 ++ ['"']

/-- The text of a line, without its line feed. -/
def text (fields : List (Text × Text)) : Text :=
  ['{'] ++ Text.joined [','] (fields.map fieldText) ++ ['}']

/-- The writes of one field: name, opening quote, value, closing quote. -/
def fieldChunks (field : Text × Text) : List Bytes :=
  [Utf8.encode field.1, [0x3D, 0x22], Utf8.encode field.2, [0x22]]

/-- The writes of the fields, with a comma in front of each but the first. -/
def fieldsChunks : List (Text × Text) → List Bytes
  | [] => []
  | [field] => fieldChunks field
  | field :: rest => fieldChunks field ++ [0x2C] :: fieldsChunks rest

/-- The writes of a line, in order.  The closing brace and the line feed are one write. -/
def chunks (fields : List (Text × Text)) : List Bytes :=
  [0x7B] :: fieldsChunks fields ++ [[0x7D, 0x0A]]

/-- The octets of a line. -/
def line (fields : List (Text × Text)) : Bytes := (chunks fields).flatten

example : line [("a".toList, "1".toList), ("b".toList, [])]
    = Utf8.encode (text [("a".toList, "1".toList), ("b".toList, [])] ++ ['\n']) := by decide

end CustomLine

end BookDatasets
