/-
  The fiction datasets: two lines per author of every row of a table.

  1. **Two outputs in step** — a record's custom line is written before its JSON line, and both
     before anything of the next record.  So when an output runs full, the other one is at most
     one line ahead.
  2. **The query** — the author column is selected TWICE, once for family names and once for given
     names.  The table's name may be any text; it stands in the query as one quoted identifier.
  3. **Failure** — a row with a cell that is no text stops the conversion before any of its
     authors is written.
-/
import BookDatasets.Fiction.Record
import BookDatasets.Log
import BookDatasets.Sink
import BookDatasets.Table.Query

namespace BookDatasets

namespace Fiction

/-! ## The query -/

/-- The columns that are selected, in order. -/
def selection : List Text :=
  ["Author".toList, "Author".toList, "Language".toList, "Year".toList, "Extension".toList,
   "Title".toList, "Publisher".toList, "Edition".toList]

/-- The text of the query up to the table's name. -/
def queryHead : Text :=
  ("SELECT CAST(Author AS TEXT), CAST(Author AS TEXT), CAST(Language AS TEXT),\n".toList
    ++ "            CAST(Year AS TEXT), CAST(Extension AS TEXT), CAST(Title AS TEXT),\n".toList
    ++ "            CAST(Publisher AS TEXT), CAST(Edition AS TEXT)\n".toList
    ++ "         FROM ".toList)

/-- The text of the query on a table. -/
def queryText (table : Text) : Text := queryHead ++ Table.Identifier.quoted table

/-! ## Writing -/

/-- How much was converted. -/
structure Counts where
  /-- Records written to each output. -/
  records : Nat
  /-- Rows used up. -/
  rows : Nat
  deriving DecidableEq, Repr

/-- The two outputs. -/
structure Sinks where
  json : Sink
  custom : Sink
  deriving DecidableEq, Repr

/-- What writing the datasets leaves behind. -/
structure Writing where
  sinks : Sinks
  events : List Log.Event
  result : Except ConvertError Counts

/-- The same writing with events in front. -/
def Writing.after (events : List Log.Event) (w : Writing) : Writing :=
  { w with events := events ++ w.events }

/-- Writes the two lines of a record, the custom line first. -/
def Sinks.writeRecord (s : Sinks) (record : Record) : Sinks × Except ConvertError Unit :=
  match s.custom.writeCustom record.fields with
  | (custom, .error e) => ({ s with custom := custom }, .error e)
  | (custom, .ok ()) =>
    match s.json.writeJson record.labels.toJson with
    | (json, result) => (⟨json, custom⟩, result)

/-- Writes the lines of the records in order. -/
def Sinks.writeRecords (s : Sinks) : List Record → Sinks × Except ConvertError Unit
  | [] => (s, .ok ())
  | record :: records =>
    match s.writeRecord record with
    | (s, .error e) => (s, .error e)
    | (s, .ok ()) => s.writeRecords records

/-- Says how much is converted. -/
def progress (counts : Counts) : Log.Event :=
  Log.info .fiction ("Current: total=".toList ++ decimal counts.records ++ " orginal=".toList
    ++ decimal counts.rows)

/-- Writes the lines of the rows, when `counts` is already converted. -/
def writeRows (interval : Nat) (counts : Counts) (s : Sinks) : List Table.Fetched → Writing
  | [] => ⟨s, [], .ok counts⟩
  | .error e :: _ => ⟨s, [], .error (.database (.sql e))⟩
  | .ok values :: rows =>
    let records := (Row.ofColumns values).explode
    match s.writeRecords records with
    | (s, .error e) => ⟨s, [], .error e⟩
    | (s, .ok ()) =>
      let counts : Counts := ⟨counts.records + records.length, counts.rows + 1⟩
      (writeRows interval counts s rows).after
        (Log.whenDue counts.rows interval (progress counts))

/-- Writes the datasets of rows, or of the error that kept them from being read. -/
def writeFrom (rows : Except SqlError (List Table.Fetched)) (s : Sinks) (interval : Nat) :
    Writing :=
  match rows with
  | .error e => ⟨s, [], .error (.database (.sql e))⟩
  | .ok rows => writeRows interval ⟨0, 0⟩ s rows

/-- Writes the datasets of a database's table. -/
def writeDatasets (db : Database) (table : Text) (s : Sinks) (interval : Nat) : Writing :=
  writeFrom (db.select table selection) s interval

end Fiction

end BookDatasets
