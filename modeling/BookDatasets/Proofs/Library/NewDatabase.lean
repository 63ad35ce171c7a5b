/-
  Seeding a new database.

  1. **All or an error** — a database without tables gets a book table (`make_empty`).  Into this a dump
     is copied as a whole (`copyAll_reads`); a dump with a row that cannot be read, or without rows to
     read at all, ends in an error (`copyAll_fails`).
  2. **Back again** — the book table has its columns in the order of the selection, and its cells are
     texts and nulls: so a query on it answers with the rows that were copied (`filled_select`).
-/
import BookDatasets.Proofs.Answers
import BookDatasets.Proofs.Library.FailedSeeding

namespace BookDatasets

namespace Library

/-- The database that has the rows in its book table, and nothing else. -/
def filled (rows : List (List (Option Text))) : Database :=
  ⟨[{ Table.book with rows := cellRows rows }], []⟩

section

variable {dump : Database} {rows : List (List (Option Text))}

/-! ## All or an error -/

/-- A query on a dump delivers what its table says. -/
theorem selectDump_eq_ok_iff : dump.select dumpName dumpColumns = .ok (rows.map .ok)
    ↔ dump.Reads dumpName dumpColumns rows :=
  Database.select_eq_ok_iff (by decide) (by decide)

theorem ready_empty : Ready .empty := ⟨rfl, fun _ heq => nomatch heq⟩

/-- A dump gives a value for each column of the book table. -/
theorem length_dumpColumns : dumpColumns.length = Table.bookColumns.length :=
  calc dumpColumns.length = 9 := rfl
    _ = Table.bookColumns.length := rfl

/-- Rows with a value for each column fill a new database. -/
theorem append_empty (hwidth : ∀ values ∈ rows, values.length = dumpColumns.length) :
    (Database.empty.create Table.book).append Table.bookName (cellRows rows) = filled rows := by
  have hstored : (cellRows rows).map Table.book.row = cellRows rows := by
    rw [cellRows, List.map_map]
    apply List.map_congr_left
    intro values hvalues
    exact Table.row_map_ofText? (by decide) ((hwidth values hvalues).trans length_dumpColumns)
  show (⟨[{ Table.book with rows := [] ++ (cellRows rows).map Table.book.row }], []⟩ : Database) = _
  rw [hstored, List.nil_append, filled]

/-- A new database gets a book table without rows. -/
theorem make_empty : Database.empty.make Table.book = .ok (filled []) := rfl

/-- **A dump that is read** fills a new database. -/
theorem copyAll_reads (batchSize : Nat) (hdump : dump.Reads dumpName dumpColumns rows) :
    (copyAll (dump.select dumpName dumpColumns) (filled []) batchSize).database = filled rows
      ∧ (copyAll (dump.select dumpName dumpColumns) (filled []) batchSize).result
        = .ok rows.length := by
  have hselect := selectDump_eq_ok_iff.2 hdump
  have hrun := copyRows_ok rows ready_empty.accepts (Nat.le_max_right batchSize 1)
  obtain ⟨source, -, hreads⟩ := hdump
  rw [append_empty hreads.length_row] at hrun
  rw [hselect, copyAll, show filled [] = Database.empty.create Table.book from rfl, hrun]
  exact ⟨rfl, rfl⟩

/-- **A dump that is not read** as a whole ends in an error. -/
theorem copyAll_fails (fetched : Except SqlError (List Table.Fetched)) (batchSize : Nat)
    (h : ∀ rows : List (List (Option Text)), fetched ≠ .ok (rows.map .ok)) :
    ∃ e, (copyAll fetched (filled []) batchSize).result = .error e := by
  rcases fetched with e | fetched
  · exact ⟨e, rfl⟩
  rcases Answers.values_or_error fetched with ⟨rows, rfl⟩ | ⟨rows, e, later, rfl⟩
  · exact absurd rfl (h rows)
  · refine ⟨e, ?_⟩
    rw [copyAll, show filled [] = Database.empty.create Table.book from rfl,
      copyRows_bad rows e later ready_empty.accepts (Nat.le_max_right batchSize 1)]

/-! ## Back again -/

/-- A row is picked as it is by the positions of its cells. -/
theorem pick_range (row : List Table.Cell) : Table.pick (List.range row.length) row = row := by
  apply List.ext_getElem
  · rw [Table.pick, List.length_map, List.length_range]
  · intro i hi hrow
    simp [Table.pick, hrow]

theorem fetchFrom_map_ofText? (index : Nat) (values : List (Option Text)) :
    Table.fetchFrom index (values.map Table.Cell.ofText?) = .ok values := by
  induction values generalizing index with
  | nil => rfl
  | cons value values ih =>
    rw [List.map_cons, Table.fetchFrom, Table.Cell.asText_ofText?]
    dsimp only
    rw [ih (index + 1)]
    rfl

/-- **A query on a filled database** answers with its rows. -/
theorem filled_select (hwidth : ∀ values ∈ rows, values.length = Table.bookColumns.length) :
    (filled rows).select Table.bookName Table.bookColumns = .ok (rows.map .ok) := by
  have hpositions : ({ Table.book with rows := cellRows rows } : Table).positions Table.bookColumns
      = .ok (List.range 9) := rfl
  have hselect : (filled rows).select Table.bookName Table.bookColumns
      = ({ Table.book with rows := cellRows rows } : Table).select Table.bookColumns := rfl
  rw [hselect, Table.select, hpositions]
  show Except.ok ((cellRows rows).map fun row =>
    Table.fetchFrom 0 (Table.pick (List.range 9) row)) = _
  rw [cellRows, List.map_map]
  congr 1
  apply List.map_congr_left
  intro values hvalues
  have hlength : (values.map Table.Cell.ofText?).length = 9 := by
    rw [List.length_map]
    exact hwidth values hvalues
  rw [Function.comp_apply, ← hlength, pick_range, fetchFrom_map_ofText?]

end

end Library

end BookDatasets
