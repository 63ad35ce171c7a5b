/-
  The library conversion: seed a new database, then convert its book table.

  1. **Seeding happens once** — a database is seeded by the run that makes it.  If there is no dump,
     or the seeding fails, that run REMOVES the database again, so that no later run takes it for a
     seeded one.
  2. **The output comes last** — it is opened, and emptied, only when the database is open and
     seeded.  Its rows are read after that.
-/
import BookDatasets.Config
import BookDatasets.Conversion.Database
import BookDatasets.Conversion.Output
import BookDatasets.Library.Dataset
import BookDatasets.Library.Seeding

namespace BookDatasets

namespace Conversion

/-- What a library conversion did. -/
structure LibraryReport where
  /-- How many rows were copied from the dump, if the database was seeded. -/
  seeded : Option Nat
  records : Nat
  output : Text
  deriving DecidableEq, Repr

/-! ## Seeding -/

section

variable (engine : Engine)

/-- Makes the book table of a database.  The connection goes with its database. -/
def makeBooks (target : Connection) (files : Files) : Files × Except SqlError (Connection × Database) :=
  match files.database engine .changing target with
  | (files, .error error) => (files, .error error)
  | (files, .ok db) =>
    match db.make Table.book with
    | .error error => (files, .error error)
    | .ok db =>
      let (files, target) := files.store target db
      (files, .ok (target, db))

/-- Copies the rows of a dump.  The book table is in its file before the dump is read. -/
def copyDump (dump target : Connection) (batchSize : Nat) : Procedure (Connection × Nat) :=
  fun files =>
    match makeBooks engine target files with
    | (files, .error error) => ⟨files, [], [], .error (.of (.database (.sql error)))⟩
    | (files, .ok (target, db)) =>
      let (files, rows) := files.query engine .reading dump Library.dumpName Library.dumpColumns
      let seeding := Library.copyAll rows db batchSize
      let (files, target) := files.store target seeding.database
      match seeding.result with
      | .ok count => ⟨files, seeding.events, [], .ok (target, count)⟩
      | .error error => ⟨files, seeding.events, [], .error (.of (.database (.sql error)))⟩

/-- Seeds a new database from the dump of a path. -/
def seedFrom (dump : Text) (target : Connection) (batchSize : Nat) :
    Procedure (Connection × Nat) := do
  let source ← (connect engine dump).within (.openingDump dump)
  (copyDump engine source target batchSize).within .seeding

/-- Removes a database whose seeding has failed. -/
def discardDatabase (path : Text) : Procedure Unit := fun files =>
  match removeDatabase path files with
  | (files, .ok ()) => ⟨files, [], [], .ok ()⟩
  | (files, .error error) =>
    ⟨files, [Log.warn .library ("Failed to remove unseeded database ".toList ++ path
      ++ ": ".toList ++ error.message)], [], .ok ()⟩

/-- Seeds the new database of a path, which is removed if that fails. -/
def seedNew (path dump : Text) (target : Connection) (batchSize : Nat) :
    Procedure (Connection × Nat) := do
  Procedure.report (Log.info .library ("Seeding book table from ".toList ++ dump))
  match ← (seedFrom engine dump target batchSize).attempt with
  | .ok seeded => return seeded
  | .error failure =>
    discardDatabase path
    Procedure.fail failure

/-- Gives a new database up that no dump can fill. -/
def abandon (path : Text) : Procedure (Connection × Option Nat) := do
  (Procedure.operate (removeDatabase path) Cause.io).within (.removingEmpty path)
  Procedure.fail (.of (.other ("Database ".toList ++ path
    ++ " does not exist and no seed database was given".toList)))

/-- Sees to it that the database is seeded. -/
def seedIfNew (config : LibraryConfig) (target : Connection) (created : Bool) :
    Procedure (Connection × Option Nat) :=
  match config.dump, created with
  | some dump, true => do
    let (target, count) ← seedNew engine config.database dump target config.batchSize
    return (target, some count)
  | some _, false => do
    Procedure.report (Log.info .library "Database already exists, skipping seed".toList)
    return (target, none)
  | none, true => abandon config.database
  | none, false => return (target, none)

end

/-! ## Writing -/

/-- Writes the dataset of the book table behind a connection to a place. -/
def writeBooks (engine : Engine) (source : Connection) (output : Location) (interval : Nat) :
    Procedure Nat := fun files =>
  let (files, rows) := files.query engine .querying source Table.bookName Table.bookColumns
  let writing := Library.writeFrom rows .unlimited interval
  let files := written files output writing.sink.taken
  match writing.result with
  | .ok count => ⟨files, writing.events, [], .ok count⟩
  | .error error => ⟨files, writing.events, [], .error (.of (.convert error))⟩

/-- Opens the database, seeds it if it is new and a dump is given, and writes its dataset. -/
def convertLibrary (engine : Engine) (config : LibraryConfig) : Procedure LibraryReport := do
  let (target, created) ← (openLocal engine config.database).within .openingLocal
  let (source, seeded) ← seedIfNew engine config target created
  Procedure.report (Log.info .library "Generating the dataset file from sqlite".toList)
  let output ← createOutput config.output
  let records ← (writeBooks engine source output config.interval).within .convertingBooks
  Procedure.report (generated .library records)
  return ⟨seeded, records, config.output⟩

end Conversion

end BookDatasets
