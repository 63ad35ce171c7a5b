/-
  Seeding: copying a dump's rows into the book table, batch by batch.

  1. **State** — `copyRows` holds a BATCH, the rows read since the last commit, latest first, and
     the number of rows committed so far.  A full batch is inserted as one transaction; what is
     left at the end is a last, smaller batch.
  2. **Failure** — the first row with a cell that is no text stops the copy.  The batch it would
     have joined is dropped WHOLE, so that the table always holds a whole number of batches.
  3. **Order of checks** — the book table is made first, then the dump is queried, and what the
     table takes is checked by each insertion.
-/
import BookDatasets.Log
import BookDatasets.Table.Query

namespace BookDatasets

namespace Library

/-! ## The dump -/

/-- The table of a dump. -/
def dumpName : Text := "main".toList

/-- The columns of a dump, in the order of the book table's columns. -/
def dumpColumns : List Text :=
  ["AuthorFamily1".toList, "AuthorName1".toList, "AuthorSurname1".toList, "Language".toList,
   "Year".toList, "Extension".toList, "Title".toList, "Publisher".toList, "Edition".toList]

/-! ## Copying -/

/-- What a copy leaves behind. -/
structure Seeding where
  /-- The database after the last commit. -/
  database : Database
  events : List Log.Event
  /-- How many rows were copied. -/
  result : Except SqlError Nat

/-- The same seeding with an event in front. -/
def Seeding.after (event : Log.Event) (s : Seeding) : Seeding :=
  { s with events := event :: s.events }

/-- Says how many rows are committed. -/
def committed (total : Nat) : Log.Event :=
  Log.info .seed ("Current: ".toList ++ decimal total ++ " lines".toList)

/-- Says how many rows were copied in all. -/
def ingested (total : Nat) : Log.Event :=
  Log.info .seed ("Finished::: Ingested ".toList ++ decimal total ++ " lines".toList)

/-- Inserts a batch, given latest row first, as one transaction. -/
def insertBatch (db : Database) (batch : List (List Table.Cell)) : Except SqlError Database :=
  db.insert Table.bookName dumpColumns.length batch.reverse

/-- Copies the rows that are left, with `total` rows committed and `batch` read since. -/
def copyRows (size : Nat) (db : Database) (total : Nat) (batch : List (List Table.Cell)) :
    List Table.Fetched → Seeding
  | [] =>
    if batch.isEmpty then ⟨db, [ingested total], .ok total⟩
    else match insertBatch db batch with
      | .error e => ⟨db, [], .error e⟩
      | .ok db =>
        let total := total + batch.length
        ⟨db, [committed total, ingested total], .ok total⟩
  | .error e :: _ => ⟨db, [], .error e⟩
  | .ok values :: rows =>
    let batch := values.map Table.Cell.ofText? :: batch
    if batch.length = size then
      match insertBatch db batch with
      | .error e => ⟨db, [], .error e⟩
      | .ok db =>
        let total := total + batch.length
        (copyRows size db total [] rows).after (committed total)
    else copyRows size db total batch rows

/-- Copies the rows of a dump, if they can be read, into a database with a book table.  A batch holds at
least one row. -/
def copyAll (dump : Except SqlError (List Table.Fetched)) (db : Database) (batchSize : Nat) :
    Seeding :=
  match dump with
  | .error e => ⟨db, [], .error e⟩
  | .ok rows => copyRows (max batchSize 1) db 0 [] rows

/-- Seeds a database from a dump, which is not read before there is a book table. -/
def seed (dump db : Database) (batchSize : Nat) : Seeding :=
  match db.make Table.book with
  | .error e => ⟨db, [], .error e⟩
  | .ok db => copyAll (dump.select dumpName dumpColumns) db batchSize

end Library

end BookDatasets
