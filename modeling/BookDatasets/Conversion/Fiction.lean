/-
  The fiction conversion: one table, two outputs.

  1. **Order** — the database is opened first; only then both outputs are opened and emptied, and
     the table is read last.
  2. **One file for both outputs** — both writers then work on the same file
     (`BookDatasets.SharedFile`).  After a success the JSON writer ends first; after a failure the
     custom writer does.
-/
import BookDatasets.Config
import BookDatasets.Conversion.Database
import BookDatasets.Conversion.Output
import BookDatasets.Conversion.SharedFile
import BookDatasets.Fiction.Dataset

namespace BookDatasets

namespace Conversion

/-- What a fiction conversion did. -/
structure FictionReport where
  counts : Fiction.Counts
  jsonOutput : Text
  customOutput : Text
  deriving DecidableEq, Repr

/-! ## One file for both outputs -/

/-- The records of the rows before the first bad one. -/
def goodRecords : List Table.Fetched → List Fiction.Record
  | .ok values :: rows => (Fiction.Row.ofColumns values).explode ++ goodRecords rows
  | _ => []

/-- The shared file after the lines of a record. -/
def shareRecord (s : SharedFile) (record : Fiction.Record) : SharedFile :=
  (s.writeSecond (CustomLine.chunks record.fields)).writeFirst
    (record.labels.toJson.chunks ++ [[0x0A]])

/-- What the file holds that both outputs share. -/
def shared (rows : Except SqlError (List Table.Fetched)) (succeeded : Bool) : Bytes :=
  let s := (goodRecords (rows.toOption.getD [])).foldl shareRecord .empty
  if succeeded then s.endFirst else s.endSecond

/-! ## Writing -/

/-- Writes the datasets of a table behind a connection to two places. -/
def writeFiction (engine : Engine) (source : Connection) (table : Text) (json custom : Location)
    (interval : Nat) : Procedure Fiction.Counts := fun files =>
  let (files, rows) := files.query engine .querying source table Fiction.selection
  let writing := Fiction.writeFrom rows ⟨.unlimited, .unlimited⟩ interval
  let files :=
    if json = custom then written files json (shared rows writing.result.isOk)
    else
      written (written files json writing.sinks.json.taken) custom writing.sinks.custom.taken
  match writing.result with
  | .ok counts => ⟨files, writing.events, [], .ok counts⟩
  | .error error => ⟨files, writing.events, [], .error (.of (.convert error))⟩

/-- Opens the database and writes the two datasets of its table. -/
def convertFiction (engine : Engine) (config : FictionConfig) : Procedure FictionReport := do
  let source ← (connect engine config.database).within (.openingDatabase config.database)
  Procedure.report (Log.info .fiction
    ("Generating the dataset files from table ".toList ++ config.table))
  let json ← createOutput config.jsonOutput
  let custom ← createOutput config.customOutput
  let counts ← (writeFiction engine source config.table json custom config.interval).within
    (.convertingTable config.table)
  Procedure.report (Log.info .fiction ("Finished::: Generated ".toList ++ decimal counts.records
    ++ " lines from ".toList ++ decimal counts.rows ++ " rows".toList))
  return ⟨counts, config.jsonOutput, config.customOutput⟩

end Conversion

end BookDatasets
