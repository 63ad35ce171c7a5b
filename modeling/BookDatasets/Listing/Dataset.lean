/-
  The listing dataset: one JSON line per row of the listing.

  A row must have seven fields.  Four of them are shown, each octet read as the character with its
  number; nothing is trimmed, and fields past the seventh are ignored.  The first row with fewer
  fields stops the conversion; the lines before it stay.
-/
import BookDatasets.Label
import BookDatasets.Listing.Reader
import BookDatasets.Sink

namespace BookDatasets

namespace Listing

/-! ## Labels of a row -/

/-- Each label with the position of the field it shows. -/
def columns : List (Text × Nat) :=
  [("title".toList, 3), ("author".toList, 4), ("category_id".toList, 5), ("category".toList, 6)]

/-- How many fields a row must have. -/
def minFields : Nat := 7

/-- The labels of a row, or the complaint that it is too short. -/
def Row.labels (row : Row) : Except ConvertError LabelRecord :=
  if row.fields.length < minFields then
    .error (.shortRow row.line row.fields.length minFields)
  else
    .ok ⟨labelPairKey, columns.map fun column =>
      ⟨column.1, some (Latin1.decode (row.fields.getD column.2 []))⟩⟩

/-! ## Writing -/

/-- Writes the lines of the rows, when `count` lines are already written. -/
def writeRows (count : Nat) (s : Sink) : List Row → Sink × Except ConvertError Nat
  | [] => (s, .ok count)
  | row :: rows =>
    match row.labels with
    | .error e => (s, .error e)
    | .ok record =>
      match s.writeJson record.toJson with
      | (s, .error e) => (s, .error e)
      | (s, .ok ()) => writeRows (count + 1) s rows

/-- Writes the dataset of a listing and says how many lines it has. -/
def writeDataset (input : Bytes) (s : Sink) : Sink × Except ConvertError Nat :=
  writeRows 0 s (rows input)

end Listing

end BookDatasets
