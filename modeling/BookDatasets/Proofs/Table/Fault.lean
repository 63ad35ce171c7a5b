/-
  Rows with a cell that is no text.

  1. **A row** — `FailsAt` names the FIRST of the selected columns in which the row has no text: the
     row says something in each column in front of it.  So there is one such column at most, and a
     row that is read fails there and not later.
  2. **A table** — `FailsAfter` puts such a row behind rows that say what they say.  A query delivers
     the rows in front as values, and the error in the place of the row.
-/
import BookDatasets.Proofs.Table.Reading

namespace BookDatasets

namespace Table

/-! ## A row -/

/-- The row has no text in the column at an index, and in no column in front of it. -/
inductive FailsAt (t : Table) (row : List Cell) : List Text → Nat → Utf8.Fault → Prop where
  | here {column : Text} {columns : List Text} {position : Nat} {fault : Utf8.Fault}
      (hposition : t.position? column = some position)
      (hcell : (row.getD position .null).asText = .error fault) :
      FailsAt t row (column :: columns) 0 fault
  | later {column : Text} {columns : List Text} {index : Nat} {fault : Utf8.Fault}
      {value : Option Text} (hsaid : t.Says row column value)
      (hrest : FailsAt t row columns index fault) :
      FailsAt t row (column :: columns) (index + 1) fault

/-- **A row is fetched** up to the first column in which it has no text. -/
theorem fetchFrom_of_failsAt {t : Table} {row : List Cell} {columns : List Text} {index : Nat}
    {fault : Utf8.Fault} (h : t.FailsAt row columns index fault) (start : Nat) :
    fetchFrom start (pick (columns.map fun column => (t.position? column).getD 0) row)
      = .error (.undecodable (start + index) fault) := by
  induction h generalizing start with
  | here hposition hcell =>
    rw [List.map_cons, hposition, pick, List.map_cons, fetchFrom, Option.getD_some, hcell]
    rfl
  | later hsaid _ ih =>
    obtain ⟨position, hposition, hvalue⟩ := hsaid
    have hnext := ih (start + 1)
    rw [pick] at hnext
    rw [List.map_cons, hposition, pick, List.map_cons, fetchFrom, Option.getD_some, hvalue]
    dsimp only
    rw [hnext, Nat.add_assoc, Nat.add_comm 1]
    rfl

/-! ## A table -/

/-- The table has the columns.  Its first rows say `rows` in them, and the row behind these has no
text in the column at an index, the first such column. -/
structure FailsAfter (t : Table) (columns : List Text) (rows : List (List (Option Text)))
    (index : Nat) (fault : Utf8.Fault) : Prop where
  present : ∀ column ∈ columns, ∃ position, t.position? column = some position
  content : ∃ front bad later, t.rows = front ++ bad :: later
    ∧ List.Forall₂ (fun row values => List.Forall₂ (t.Says row) columns values) front rows
    ∧ t.FailsAt bad columns index fault

/-- The rows in front of the bad one make a table that is read. -/
theorem FailsAfter.exists_reads {t : Table} {columns : List Text} {rows : List (List (Option Text))}
    {index : Nat} {fault : Utf8.Fault} (h : t.FailsAfter columns rows index fault) :
    ∃ front bad later, t.rows = front ++ bad :: later
      ∧ Reads { t with rows := front } columns rows ∧ t.FailsAt bad columns index fault := by
  obtain ⟨front, bad, later, hrows, hfront, hbad⟩ := h.content
  exact ⟨front, bad, later, hrows, ⟨h.present, hfront⟩, hbad⟩

/-- When no column is missing, every row is fetched by itself. -/
theorem select_of_present {t : Table} {columns : List Text}
    (h : ∀ column ∈ columns, ∃ position, t.position? column = some position) :
    t.select columns = .ok (t.rows.map fun row =>
      fetchFrom 0 (pick (columns.map fun column => (t.position? column).getD 0) row)) := by
  rw [select, positions_ok h]
  rfl

/-- **A selection delivers the rows in front** of the bad one, and then its error. -/
theorem select_of_failsAfter {t : Table} {columns : List Text} {rows : List (List (Option Text))}
    {index : Nat} {fault : Utf8.Fault} (h : t.FailsAfter columns rows index fault) :
    ∃ later, t.select columns = .ok (rows.map .ok ++ .error (.undecodable index fault) :: later) := by
  obtain ⟨front, bad, later, hrows, hreads, hbad⟩ := h.exists_reads
  have hfront := Except.ok.inj ((select_of_present hreads.present).symm.trans
    (select_eq_ok_iff.2 hreads))
  have hbadRow := fetchFrom_of_failsAt hbad 0
  rw [Nat.zero_add] at hbadRow
  rw [select_of_present h.present, hrows, List.map_append, List.map_cons, hbadRow]
  exact ⟨_, congrArg (fun values => Except.ok (values ++ _)) hfront⟩

/-! ## A table without a column -/

end Table

namespace Database

/-- A query of a table that a database has is a selection from it, when the name is one that tables
can have. -/
theorem select_of_find? {db : Database} {name : Text} {t : Table} (columns : List Text)
    (hzero : '\x00' ∉ name) (hplain : Table.schemaNames.any (sameName name) = false)
    (hfind : db.find? name = some t) : db.select name columns = t.select columns := by
  rw [select, if_neg hzero, source?, hplain, if_neg Bool.false_ne_true, hfind]

end Database

end BookDatasets
