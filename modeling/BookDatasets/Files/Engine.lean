/-
  What a database engine does to files.

  1. **A parameter** — the engine is a library of its own.  Whatever works on databases is given one, an
     `Engine`, and knows no more of it than these two functions.
  2. **Names** — the engine says what the name of a database stands for: a path, or a database that
     lives in memory.
  3. **Tending** — a database keeps a journal, a log and the log's index beside its file, under its name
     with an ending.  When a database is used the engine TENDS it: it finishes or undoes what was left
     there, may make or remove such files, and may refuse.
-/
import BookDatasets.Files.Walk

namespace BookDatasets

/-- What a database is used for. -/
inductive Access where
  /-- To be read, through a connection that cannot change it. -/
  | reading
  /-- To be read, through a connection that can change it. -/
  | querying
  /-- To be changed. -/
  | changing
  deriving DecidableEq, Repr

/-- A database engine, as far as files are concerned. -/
structure Engine where
  /-- The path that the name of a database stands for; none if the database lives in memory. -/
  resolve : Text → Except SqlError (Option Text)
  /-- The tree after the file at a place has been tended for a use, and the database found there. -/
  tend : Access → Files → Location → Files × Except SqlError Database

namespace Files

/-! ## Beside a database -/

/-- What the name of a journal ends in. -/
def journalEnding : Text := "-journal".toList

/-- What the name of a log ends in. -/
def logEnding : Text := "-wal".toList

/-- What the name of a log's index ends in. -/
def indexEnding : Text := "-shm".toList

/-- The place beside a file, under its name with an ending. -/
def beside (ending : Text) : Location → Location
  | [] => []
  | name :: dir => (name ++ ending) :: dir

/-- The places where a database keeps what it keeps beside its file. -/
def sidecars (place : Location) : List Location :=
  [beside logEnding place, beside indexEnding place, beside journalEnding place]

end Files

end BookDatasets
