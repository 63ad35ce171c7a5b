/-
  Databases of conversions: opening, making and removing them.

  1. **Made or found** — `openLocal` makes the file of a database if there is none, and says whether
     it did.  Only a database that the run itself made is ever seeded, and only such a one is ever
     removed.
  2. **Removal** — the files that may stand beside a database go first, and the database goes last.
     A file beside it that cannot be removed keeps the database in place.
-/
import BookDatasets.Files.Connection
import BookDatasets.Files.Operations
import BookDatasets.Procedure

namespace BookDatasets

namespace Conversion

/-! ## Opening -/

/-- Says that there is no connection. -/
def unconnected (error : SqlError) : Log.Event :=
  Log.error .pool ("Failed to connect to database: ".toList ++ error.headline)

/-- Connects to the database of a name. -/
def connect (engine : Engine) (name : Text) : Procedure Connection :=
  Procedure.operate (fun files => (files, files.connect engine name))
    (fun error => .database (.sql error)) (fun error => [unconnected error])

/-- The failure to make a database's file. -/
def creationCause (error : IoError) : Cause := .database (.fileCreation error.message)

/-- Makes the directories above a database. -/
def makeDatabaseParent (path : Text) : Procedure Unit :=
  Procedure.operate (fun files => files.createDirectories (Path.parent path)) creationCause
    fun error =>
      [Log.error .pool ("Failed to create database directory: ".toList ++ error.message)]

/-- Makes the file of a database and says whether it is new. -/
def makeDatabaseFile (path : Text) : Procedure Bool := do
  let created ← Procedure.operate (fun files =>
    match files.createNew path with
    | .ok (files, _) => (files, .ok true)
    | .error .fileExists => (files, .ok false)
    | .error error => (files, .error error)) creationCause
    fun error => [Log.error .pool ("Failed to create database file: ".toList ++ error.message)]
  if created then Procedure.report (Log.info .pool ("Database file created: ".toList ++ path))
  else Procedure.report (Log.info .pool ("Database file already exists: ".toList ++ path))
  return created

/-- Opens the database of a path, makes it if it is missing, and says whether it is new. -/
def openLocal (engine : Engine) (path : Text) : Procedure (Connection × Bool) := do
  makeDatabaseParent path
  let created ← makeDatabaseFile path
  let connection ← connect engine path
  return (connection, created)

/-! ## Removing -/

/-- What the names of the files beside a database end in. -/
def sidecarEndings : List Text := ["-wal".toList, "-shm".toList, "-journal".toList]

/-- Removes the files beside a database, as far as there are any, and then the database. -/
def removeBeside (path : Text) : List Text → Files → Files × Except IoError Unit
  | [], files =>
    match files.unlink path with
    | .ok files => (files, .ok ())
    | .error error => (files, .error error)
  | ending :: endings, files =>
    match files.unlink (path ++ ending) with
    | .ok files => removeBeside path endings files
    | .error .notFound => removeBeside path endings files
    | .error error => (files, .error error)

/-- Removes a database with the files beside it. -/
def removeDatabase (path : Text) (files : Files) : Files × Except IoError Unit :=
  removeBeside path sidecarEndings files

end Conversion

end BookDatasets
