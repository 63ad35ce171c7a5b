/-
  The library dataset: one JSON line per row of the book table.

  A line shows the nine cells of its row verbatim, a null as null; nothing is trimmed and nothing
  is escaped beyond what JSON asks for.  A row with a cell that is no text stops the conversion
  BEFORE any octet of its line is written.
-/
import BookDatasets.Label
import BookDatasets.Log
import BookDatasets.Sink
import BookDatasets.Table.Query

namespace BookDatasets

namespace Library

/-! ## Labels of a row -/

/-- The keys of a record, in the order of the book table's columns. -/
def columnNames : List Text :=
  ["author_family_name".toList, "author_first_name".toList, "author_surname".toList,
   "language".toList, "year".toList, "extension".toList, "title".toList, "publisher".toList,
   "edition".toList]

/-- The labels of a row. -/
def labels (values : List (Option Text)) : LabelRecord :=
  LabelRecord.zipped labelPairKey columnNames values

/-! ## Writing -/

/-- What writing a dataset leaves behind. -/
structure Writing where
  sink : Sink
  events : List Log.Event
  /-- How many lines were written. -/
  result : Except ConvertError Nat

/-- The same writing with events in front. -/
def Writing.after (events : List Log.Event) (w : Writing) : Writing :=
  { w with events := events ++ w.events }

/-- Says how many lines are written. -/
def progress (count : Nat) : Log.Event :=
  Log.info .progress ("Current: ".toList ++ decimal count ++ " lines (".toList ++ Log.elapsedMark
    ++ " seconds, ~".toList ++ Log.rateMark ++ " lines/sec)".toList)

/-- Writes the lines of the rows, when `count` lines are already written. -/
def writeRows (interval count : Nat) (s : Sink) : List Table.Fetched → Writing
  | [] => ⟨s, [], .ok count⟩
  | .error e :: _ => ⟨s, [], .error (.database (.sql e))⟩
  | .ok values :: rows =>
    match s.writeJson (labels values).toJson with
    | (s, .error e) => ⟨s, [], .error e⟩
    | (s, .ok ()) =>
      (writeRows interval (count + 1) s rows).after
        (Log.whenDue (count + 1) interval (progress (count + 1)))

/-- Writes the dataset of rows, or of the error that kept them from being read. -/
def writeFrom (rows : Except SqlError (List Table.Fetched)) (s : Sink) (interval : Nat) :
    Writing :=
  match rows with
  | .error e => ⟨s, [], .error (.database (.sql e))⟩
  | .ok rows => writeRows interval 0 s rows

/-- Writes the dataset of a database's book table. -/
def writeDataset (db : Database) (s : Sink) (interval : Nat) : Writing :=
  writeFrom (db.select Table.bookName Table.bookColumns) s interval

end Library

end BookDatasets
