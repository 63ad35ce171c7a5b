/-
  Cells and what they say as text.

  Whatever a cell holds, a conversion reads it AS TEXT.  A null stays a null; a text is itself; an
  integer is its decimal form; a real has fifteen digits (`BookDatasets.Table.Binary64`); the
  octets of a blob are read as UTF-8.  Only a blob can fail to be a text.
-/
import BookDatasets.Table.Binary64
import BookDatasets.Text.Utf8

namespace BookDatasets

namespace Table

/-- One cell of a row. -/
inductive Cell where
  | null
  | text (value : Text)
  | integer (value : Int)
  /-- A real, kept as it is spelled. -/
  | real (spelling : Text)
  | blob (octets : Bytes)
  deriving DecidableEq, Repr

namespace Cell

/-- The cell as text, null if it has none. -/
def asText : Cell → Except Utf8.Fault (Option Text)
  | .null => .ok none
  | .text value => .ok (some value)
  | .integer value => .ok (some (signed value))
  | .real spelling => .ok (Binary64.ofSpelling spelling).text
  | .blob octets => (Utf8.decode octets).map some

/-- A text, or null where there is none. -/
def ofText? : Option Text → Cell
  | none => .null
  | some value => .text value

/-- The cell as a column of texts stores it: numbers become their text, blobs stay blobs. -/
def stored : Cell → Cell
  | .integer value => .text (signed value)
  | .real spelling => ofText? (Binary64.ofSpelling spelling).text
  | cell => cell

/-- Reading a stored text gives it back. -/
theorem asText_ofText? (value : Option Text) : (ofText? value).asText = .ok value := by
  cases value <;> rfl

/-- Storing a cell in a column of texts does not change what it says. -/
theorem asText_stored (cell : Cell) : cell.stored.asText = cell.asText := by
  cases cell with
  | real spelling => exact asText_ofText? _
  | _ => rfl

end Cell

end Table

end BookDatasets
