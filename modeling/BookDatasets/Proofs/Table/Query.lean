/-
  What a query delivers.

  A query that goes through picks its cells BY COLUMN: the positions are those of the columns,
  whatever else is selected.  So a row without a bad cell is the selection with each column
  replaced by what the row says there, and a column that is selected twice says the same thing
  twice (`select_row`).
-/
import BookDatasets.Table.Query
import Mathlib.Data.List.Basic

namespace BookDatasets

/-- A mapped answer that is a value comes from one. -/
theorem exists_of_map_ok {ε α β : Type} {f : α → β} {x : Except ε α} {b : β}
    (h : x.map f = .ok b) : ∃ a, x = .ok a ∧ f a = b := by
  cases x with
  | error e => exact nomatch h
  | ok a => exact ⟨a, rfl, Except.ok.inj h⟩

/-- The error as a conversion reports it. -/
def SqlError.toConvert (e : SqlError) : ConvertError := .database (.sql e)

namespace Table

/-- What a cell says as text, null also where it is no text. -/
def Cell.said (cell : Cell) : Option Text :=
  match cell.asText with
  | .error _ => none
  | .ok said => said

theorem positions_eq {t : Table} {columns : List Text} {found : List Nat}
    (h : t.positions columns = .ok found) :
    found = columns.map fun column => (t.position? column).getD 0 := by
  induction columns generalizing found with
  | nil => exact (Except.ok.inj h).symm
  | cons column columns ih =>
    rw [positions] at h
    rcases hposition : t.position? column with _ | position
    · -- A missing column would be the answer to the query.
      rw [hposition] at h
      exact nomatch h
    · rw [hposition] at h
      obtain ⟨rest, hrest, rfl⟩ := exists_of_map_ok h
      rw [ih hrest, List.map_cons, hposition]
      rfl

/-- A row without a bad cell is what its cells say. -/
theorem fetchFrom_eq {index : Nat} {cells : List Cell} {values : List (Option Text)}
    (h : fetchFrom index cells = .ok values) : values = cells.map Cell.said := by
  induction cells generalizing index values with
  | nil => exact (Except.ok.inj h).symm
  | cons cell cells ih =>
    rw [fetchFrom] at h
    rcases htext : cell.asText with _ | text
    · rw [htext] at h
      exact nomatch h
    · rw [htext] at h
      obtain ⟨rest, hrest, rfl⟩ := exists_of_map_ok h
      rw [ih hrest, List.map_cons, Cell.said, htext]

theorem select_row {t : Table} {columns : List Text} {rows : List Fetched}
    {values : List (Option Text)} (h : t.select columns = .ok rows)
    (hrow : Except.ok values ∈ rows) : ∃ f : Text → Option Text, values = columns.map f := by
  obtain ⟨found, hfound, rfl⟩ := exists_of_map_ok h
  obtain ⟨row, -, hfetch⟩ := List.mem_map.1 hrow
  refine ⟨fun column => (row.getD ((t.position? column).getD 0) .null).said, ?_⟩
  rw [fetchFrom_eq hfetch, positions_eq hfound, pick, List.map_map, List.map_map]
  rfl

end Table

namespace Database

/-- **A row without a bad cell says one thing for each column**, however often it is selected. -/
theorem select_row {db : Database} {name : Text} {columns : List Text}
    {rows : List Table.Fetched} {values : List (Option Text)}
    (h : db.select name columns = .ok rows) (hrow : Except.ok values ∈ rows) :
    ∃ f : Text → Option Text, values = columns.map f := by
  rw [select] at h
  split_ifs at h with hzero
  rcases hsource : db.source? name with _ | table
  · rw [hsource] at h
    exact nomatch h
  · rw [hsource] at h
    exact Table.select_row h hrow

end Database

end BookDatasets
