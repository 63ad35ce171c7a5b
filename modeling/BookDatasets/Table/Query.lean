/-
  Queries: some columns of one table, read as text.

  1. **What can go wrong at once** — the table is looked up first, then the columns in the order in
     which they are selected; the first one missing is the one reported.
  2. **What can go wrong later** — a cell that is no text.  It is found only when its row is
     reached, so the answer to a query is a list of rows each of which is a value or an error, and
     the rows before a bad one are as good as ever.
  3. **Which cell** — of several bad cells in a row the first one selected is reported, by its
     position in the selection.
-/
import BookDatasets.Table.Basic
import BookDatasets.Table.Identifier

namespace BookDatasets

namespace Table

/-- What is read of a row: the selected cells as text, or the error in one of them. -/
abbrev Fetched := Except SqlError (List (Option Text))

/-- Reads cells as text, when the first of them has the position `index` in the selection. -/
def fetchFrom (index : Nat) : List Cell → Fetched
  | [] => .ok []
  | cell :: cells =>
    match cell.asText with
    | .error fault => .error (.undecodable index fault)
    | .ok text => (fetchFrom (index + 1) cells).map (text :: ·)

/-- The cells of a row at given positions; null where the row has none. -/
def pick (positions : List Nat) (row : List Cell) : List Cell :=
  positions.map fun position => row.getD position .null

/-- The positions of the selected columns, or the first one that is missing. -/
def positions (t : Table) : List Text → Except SqlError (List Nat)
  | [] => .ok []
  | column :: columns =>
    match t.position? column with
    | none => .error (.noSuchColumn column)
    | some position => (t.positions columns).map (position :: ·)

/-- Every row of a table, read as text through a selection of columns. -/
def select (t : Table) (columns : List Text) : Except SqlError (List Fetched) :=
  (t.positions columns).map fun found => t.rows.map fun row => fetchFrom 0 (pick found row)

/-- The names of the tables that describe a database itself. -/
def schemaNames : List Text :=
  ["sqlite_master".toList, "sqlite_schema".toList, "sqlite_temp_master".toList,
   "sqlite_temp_schema".toList]

/-- The columns of the tables that describe a database itself. -/
def schemaColumns : List Text :=
  ["type".toList, "name".toList, "tbl_name".toList, "rootpage".toList, "sql".toList]

end Table

namespace Database

/-- The table that a query names, the tables that describe the database included. -/
def source? (db : Database) (name : Text) : Option Table :=
  if Table.schemaNames.any (sameName name) then some (.plain name Table.schemaColumns [])
  else db.find? name

/-- The character U+0000 ends the text of a query, so that a table name with one is a quote that
never closes. -/
def unclosed (name : Text) : SqlError :=
  .openQuote (['"'] ++ Table.Identifier.doubled (name.takeWhile (· ≠ '\x00')))

/-- Selects columns of a table. -/
def select (db : Database) (name : Text) (columns : List Text) :
    Except SqlError (List Table.Fetched) :=
  if '\x00' ∈ name then .error (unclosed name)
  else
    match db.source? name with
    | none => .error (.noSuchTable name)
    | some table => table.select columns

end Database

end BookDatasets
