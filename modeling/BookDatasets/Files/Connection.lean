/-
  Connections to databases in files.

  1. **Names** — the path that a database's name stands for is followed by rules of its OWN, more
     lenient than those of files: a directory that does not exist may be entered as long as `..`
     leaves it again, and a slash at the end means nothing.  Links are followed as ever.
  2. **Private databases** — a name may stand for no file.  Each connection to such a database is one
     of its own that begins empty.
  3. **Late reading** — to connect only asks whether a file is there.  What it holds is looked at
     by the first query, so the tables are read from the tree as it is THEN.
-/
import BookDatasets.Files.Engine
import BookDatasets.Table.Query

namespace BookDatasets

/-- An open database. -/
inductive Connection where
  /-- A private database. -/
  | detached (database : Database)
  /-- The database of a file. -/
  | stored (place : Location)
  deriving DecidableEq, Repr

namespace Files

/-! ## Names of databases -/

/-- Walks from a place that need not exist, up to the end or the first link. -/
def looseSteps (files : Files) (place : Location) : List Text → Stop
  | [] => .arrived place
  | segment :: rest =>
    if segment = Path.here then looseSteps files place rest
    else if segment = Path.above then looseSteps files place.tail rest
    else if (files.content? place).isSome then .refused .notADirectory
    else if ¬Path.fits segment then .refused .nameTooLong
    else
      match files.find? (segment :: place) with
      | some (.link target) => .link place target rest
      | _ => looseSteps files (segment :: place) rest

/-- Walks to the place that a database's path leads to, behind at most `links` links. -/
def looseWalk (files : Files) : (links : Nat) → Location → List Text → Option Location
  | links, place, segments =>
    match looseSteps files place segments with
    | .arrived place => some place
    | .link directory target rest =>
      match links with
      | 0 => none
      | links + 1 =>
        looseWalk files links (base directory target) (Path.segments target ++ rest)
    | _ => none

/-- What a path names: links are followed, and a directory may be missing. -/
def names (files : Files) (path : Text) : Option Location :=
  files.looseWalk maxLinks [] (Path.segments path)

variable (engine : Engine)

/-- Connects to the database of a name. -/
def connect (files : Files) (name : Text) : Except SqlError Connection :=
  match engine.resolve name with
  | .error error => .error error
  | .ok none => .ok (.detached .empty)
  | .ok (some path) =>
    match files.names path with
    | none => .error .cannotOpen
    | some place => if (files.content? place).isSome then .ok (.stored place) else .error .cannotOpen

/-! ## Tables -/

/-- The database behind a connection, tended for a use. -/
def database (access : Access) (files : Files) :
    Connection → Files × Except SqlError Database
  | .detached db => (files, .ok db)
  | .stored place => engine.tend access files place

/-- Selects columns of a table behind a connection.  A query with a quote that never closes is refused
before the database is looked at. -/
def query (access : Access) (files : Files) (connection : Connection) (table : Text)
    (columns : List Text) : Files × Except SqlError (List Table.Fetched) :=
  if '\x00' ∈ table then (files, .error (Database.unclosed table))
  else
    match files.database engine access connection with
    | (files, .error error) => (files, .error error)
    | (files, .ok db) => (files, db.select table columns)

/-- The tree and the connection after the database behind it has changed. -/
def store (files : Files) (connection : Connection) (db : Database) : Files × Connection :=
  match connection with
  | .detached _ => (files, .detached db)
  | .stored place => (files.put place (.file (.ofDatabase db)), .stored place)

end Files

end BookDatasets
