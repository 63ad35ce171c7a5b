/-
  Tables and databases.

  1. **Tables** — a table has a name, columns and rows.  The rows have the order in which a query delivers
     them: that of insertion, as long as no index holds all the columns that are asked for.
  2. **Insertion** — a row gives a value to each column that is not computed.  The table is asked
     before it is changed: the first row that it refuses keeps all rows out.
  3. **Databases** — a database holds tables, and knows the names of their indexes, which no new table
     may have.  Names are compared without regard to ASCII case, so a database has no two tables whose
     names differ in case only.
  4. **The book table** — the one table that this library makes by itself: nine columns of texts.
-/
import BookDatasets.Error
import BookDatasets.Table.Column

namespace BookDatasets

/-- A table with its rows in the order in which a query delivers them. -/
structure Table where
  name : Text
  columns : List Table.Column
  rows : List (List Table.Cell)
  deriving DecidableEq, Repr

namespace Table

/-- A table whose columns take any cell as it is. -/
def plain (name : Text) (columns : List Text) (rows : List (List Cell)) : Table :=
  ⟨name, columns.map Column.plain, rows⟩

/-- The position of a column. -/
def position? (t : Table) (column : Text) : Option Nat :=
  t.columns.findIdx? fun found => sameName column found.name

/-! ## Rows -/

/-- How many values a row gives: one for each column that is not computed. -/
def width (t : Table) : Nat := (t.columns.filter fun column => column.computed.isNone).length

/-- The cells that columns store of a row, nulls where it gives none. -/
def fill : List Column → List Cell → List Cell
  | [], _ => []
  | column :: columns, cells =>
    match column.computed with
    | some value => value :: fill columns cells
    | none => (cells.headD .null).storedAs column.affinity :: fill columns cells.tail

/-- A row as a table stores it. -/
def row (t : Table) (cells : List Cell) : List Cell := fill t.columns cells

/-- The table with rows added at its end. -/
def append (t : Table) (rows : List (List Cell)) : Table :=
  { t with rows := t.rows ++ rows.map t.row }

/-- The first column that takes no null and is given one. -/
def bare? (t : Table) (row : List Cell) : Option Column :=
  ((t.columns.zip row).find? fun entry => entry.1.required && entry.2 == .null).map (·.1)

/-- The first column that takes no value twice and is given one that is in a stored row. -/
def repeated? (t : Table) (stored : List (List Cell)) (row : List Cell) : Option Column :=
  (t.columns.zipIdx.find? fun entry => entry.1.unique
    && stored.any fun other => (other.getD entry.2 .null).clashes (row.getD entry.2 .null)).map (·.1)

/-- Why a table refuses rows behind the stored ones; none if it takes them. -/
def refusal? (t : Table) (stored : List (List Cell)) : List (List Cell) → Option SqlError
  | [] => none
  | cells :: rows =>
    let row := t.row cells
    match t.bare? row, t.repeated? stored row with
    | some column, _ => some (.notNull t.name column.name)
    | none, some column => some (.notUnique t.name column.name)
    | none, none => t.refusal? (row :: stored) rows

/-! ## The book table -/

/-- The columns of the book table. -/
def bookColumns : List Text :=
  ["AuthorFamilyName".toList, "AuthorName".toList, "AuthorSurname".toList, "Language".toList,
   "Year".toList, "Extension".toList, "Title".toList, "Publisher".toList, "Edition".toList]

/-- The name of the book table. -/
def bookName : Text := "book".toList

/-- The book table without rows. -/
def book : Table := ⟨bookName, bookColumns.map Column.textual, []⟩

end Table

/-- A database: its tables in the order in which they were made, and the names of their indexes. -/
structure Database where
  tables : List Table
  indexes : List Text
  deriving DecidableEq, Repr

namespace Database

/-- The database without tables. -/
def empty : Database := ⟨[], []⟩

/-- The table of a name. -/
def find? (db : Database) (name : Text) : Option Table :=
  db.tables.find? fun table => sameName name table.name

/-- The database with a table added, unless it has one of that name. -/
def create (db : Database) (table : Table) : Database :=
  if (db.find? table.name).isSome then db else { db with tables := db.tables ++ [table] }

/-- Makes a table, unless there is one of its name.  An index of its name is in the way. -/
def make (db : Database) (table : Table) : Except SqlError Database :=
  if db.indexes.any (sameName table.name) then .error (.indexNamed table.name)
  else .ok (db.create table)

/-- The database with the table of a name changed. -/
def update (db : Database) (name : Text) (change : Table → Table) : Database :=
  { db with tables := db.tables.map fun table =>
      if sameName name table.name then change table else table }

/-- The database with rows added to the table of a name. -/
def append (db : Database) (name : Text) (rows : List (List Table.Cell)) : Database :=
  db.update name fun table => table.append rows

/-- The database with the rows of a table added, which is made if there is none of its name. -/
def add (db : Database) (table : Table) : Database :=
  (db.create { table with rows := [] }).append table.name table.rows

/-- Inserts rows that give `supplied` values each.  The table must take that many, and every row. -/
def insert (db : Database) (name : Text) (supplied : Nat) (rows : List (List Table.Cell)) :
    Except SqlError Database :=
  match db.find? name with
  | none => .error (.noSuchTable name)
  | some table =>
    if table.width = supplied then
      match table.refusal? table.rows rows with
      | some error => .error error
      | none => .ok (db.append name rows)
    else .error (.valueCount name table.width supplied)

end Database

end BookDatasets
