/-
  What a table says, column by column.

  1. **Cells** — `Says` is about ONE cell: the column is found by its name, wherever it stands, and
     the row's cell there, taken as text, is the value.  Nothing in it speaks of a selection.
  2. **Tables** — `Reads t columns rows` says the same of all rows at once: the columns are there,
     and no cell in them is without a text.
  3. **Queries** — a selection answers with rows that are all values exactly when these rows are what
     the table says (`select_eq_ok_iff`).
-/
import BookDatasets.Proofs.Table.Query
import Mathlib.Data.List.Forall2

namespace BookDatasets

namespace Table

/-! ## Cells -/

/-- The row says `value` in the column, a null as nothing. -/
def Says (t : Table) (row : List Cell) (column : Text) (value : Option Text) : Prop :=
  ∃ position, t.position? column = some position ∧ (row.getD position .null).asText = .ok value

/-! ## Tables -/

/-- The table has the columns, and its rows say `rows` in them. -/
structure Reads (t : Table) (columns : List Text) (rows : List (List (Option Text))) : Prop where
  present : ∀ column ∈ columns, ∃ position, t.position? column = some position
  content : List.Forall₂ (fun row values => List.Forall₂ (t.Says row) columns values) t.rows rows

/-- A row that is read has one value for each column. -/
theorem Reads.length_row {t : Table} {columns : List Text} {rows : List (List (Option Text))}
    (h : t.Reads columns rows) : ∀ values ∈ rows, values.length = columns.length := by
  have hlength : ∀ {stored : List (List Cell)} {rows : List (List (Option Text))},
      List.Forall₂ (fun row values => List.Forall₂ (t.Says row) columns values) stored rows →
      ∀ values ∈ rows, values.length = columns.length := by
    intro stored rows hsays
    induction hsays with
    | nil =>
      intro values hvalues
      exact absurd hvalues List.not_mem_nil
    | cons hrow _ ih =>
      intro values hvalues
      rcases List.mem_cons.1 hvalues with rfl | hrest
      · exact hrow.length_eq.symm
      · exact ih values hrest
  exact hlength h.content

/-! ## Queries -/

theorem positions_ok {t : Table} {columns : List Text}
    (h : ∀ column ∈ columns, ∃ position, t.position? column = some position) :
    t.positions columns = .ok (columns.map fun column => (t.position? column).getD 0) := by
  induction columns with
  | nil => rfl
  | cons column columns ih =>
    obtain ⟨hcolumn, hcolumns⟩ := List.forall_mem_cons.1 h
    obtain ⟨position, hposition⟩ := hcolumn
    rw [positions, ih hcolumns, List.map_cons, hposition]
    rfl

/-- Columns whose positions are found are there. -/
theorem present_of_positions {t : Table} {columns : List Text} {found : List Nat}
    (h : t.positions columns = .ok found) :
    ∀ column ∈ columns, ∃ position, t.position? column = some position := by
  induction columns generalizing found with
  | nil =>
    intro column hcolumn
    exact absurd hcolumn List.not_mem_nil
  | cons column columns ih =>
    rw [positions] at h
    rcases hposition : t.position? column with _ | position
    · rw [hposition] at h
      cases h
    · rw [hposition] at h
      obtain ⟨rest, hrest, -⟩ := exists_of_map_ok h
      exact List.forall_mem_cons.2 ⟨⟨position, hposition⟩, ih hrest⟩

/-- **A row is fetched** exactly as what it says in the columns. -/
theorem fetchFrom_eq_ok_iff {t : Table} {row : List Cell} {columns : List Text}
    {values : List (Option Text)} (index : Nat)
    (h : ∀ column ∈ columns, ∃ position, t.position? column = some position) :
    fetchFrom index (pick (columns.map fun column => (t.position? column).getD 0) row) = .ok values
      ↔ List.Forall₂ (t.Says row) columns values := by
  induction columns generalizing index values with
  | nil =>
    rw [List.forall₂_nil_left_iff]
    constructor
    · intro hfetch
      exact (Except.ok.inj hfetch).symm
    · rintro rfl
      rfl
  | cons column columns ih =>
    obtain ⟨⟨position, hposition⟩, hcolumns⟩ := List.forall_mem_cons.1 h
    have hcell : row.getD ((t.position? column).getD 0) .null = row.getD position .null := by
      rw [hposition]
      rfl
    have hrest : ∀ values,
        fetchFrom (index + 1) (pick (columns.map fun column => (t.position? column).getD 0) row)
            = .ok values
          ↔ List.Forall₂ (t.Says row) columns values := by
      intro values
      exact ih (index + 1) hcolumns
    rw [pick] at hrest ⊢
    rw [List.map_cons, List.map_cons, fetchFrom, hcell, List.forall₂_cons_left_iff]
    rcases htext : (row.getD position .null).asText with fault | text
    · -- The row says nothing in a column whose cell has no text.
      constructor
      · intro hfetch
        cases hfetch
      · rintro ⟨value, rest, ⟨other, hother, hvalue⟩, -, -⟩
        obtain rfl : position = other := Option.some.inj (hposition.symm.trans hother)
        cases htext.symm.trans hvalue
    · constructor
      · intro hfetch
        obtain ⟨rest, hfetched, rfl⟩ := exists_of_map_ok hfetch
        exact ⟨text, rest, ⟨position, hposition, htext⟩, (hrest rest).1 hfetched, rfl⟩
      · rintro ⟨value, rest, ⟨other, hother, hvalue⟩, hsays, rfl⟩
        obtain rfl : position = other := Option.some.inj (hposition.symm.trans hother)
        obtain rfl : text = value := Except.ok.inj (htext.symm.trans hvalue)
        dsimp only
        rw [(hrest rest).2 hsays]
        rfl

/-- **A selection answers with values** exactly when these are what the table says. -/
theorem select_eq_ok_iff {t : Table} {columns : List Text} {rows : List (List (Option Text))} :
    t.select columns = .ok (rows.map .ok) ↔ t.Reads columns rows := by
  have hrows : (∀ column ∈ columns, ∃ position, t.position? column = some position) →
      ((t.rows.map fun row =>
          fetchFrom 0 (pick (columns.map fun column => (t.position? column).getD 0) row))
          = rows.map .ok
        ↔ List.Forall₂ (fun row values => List.Forall₂ (t.Says row) columns values) t.rows rows) := by
    intro hpresent
    rw [← List.forall₂_eq_eq_eq, List.forall₂_map_left_iff, List.forall₂_map_right_iff]
    simp only [fetchFrom_eq_ok_iff 0 hpresent]
  constructor
  · intro h
    obtain ⟨found, hfound, hselected⟩ := exists_of_map_ok h
    have hpresent := present_of_positions hfound
    rw [positions_eq hfound] at hselected
    exact ⟨hpresent, (hrows hpresent).1 hselected⟩
  · intro h
    rw [select, positions_ok h.present]
    exact congrArg Except.ok ((hrows h.present).2 h.content)

end Table

namespace Database

/-- The database has a table of that name with the columns, whose rows say `rows` in them. -/
def Reads (db : Database) (name : Text) (columns : List Text) (rows : List (List (Option Text))) :
    Prop :=
  ∃ t, db.find? name = some t ∧ t.Reads columns rows

/-- **A query delivers what its table says**, when the name is one that tables can have. -/
theorem select_eq_ok_iff {db : Database} {name : Text} {columns : List Text}
    {rows : List (List (Option Text))} (hzero : '\x00' ∉ name)
    (hplain : Table.schemaNames.any (sameName name) = false) :
    db.select name columns = .ok (rows.map .ok) ↔ db.Reads name columns rows := by
  have hsource : db.source? name = db.find? name := by
    rw [source?, hplain]
    rfl
  rw [select, if_neg hzero, hsource, Reads]
  rcases hfind : db.find? name with _ | t
  · constructor
    · intro h
      cases h
    · rintro ⟨t, ht, -⟩
      cases ht
  · rw [Table.select_eq_ok_iff]
    constructor
    · intro h
      exact ⟨t, rfl, h⟩
    · rintro ⟨other, hother, h⟩
      obtain rfl : t = other := Option.some.inj hother
      exact h

end Database

end BookDatasets
