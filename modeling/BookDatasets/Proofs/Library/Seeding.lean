/-
  Seeding copies every row once, in order.

  1. **A batch** — rows that do not fill the batch are only held (`copyRows_short`); the row that
     fills it commits all of it, and the batch is empty again (`copyRows_full`).
  2. **Whole batches** — by induction on their number: `q` batches of rows are committed with `q`
     counts, and the run goes on with an EMPTY batch (`copyRows_batches`).  An empty batch is the
     state that carries the induction: between two batches nothing is held and nothing is lost.
  3. **A run** (`copyRows_ok`) — the rows are whole batches and fewer rows than a batch behind them.
     What was committed in parts is what would have been committed at once, so the batch size is seen
     in the counts alone.
-/
import BookDatasets.Conversion.Library
import BookDatasets.Files.Bundled
import BookDatasets.Proofs.Table.Change
import BookDatasets.Proofs.Table.Reading

namespace BookDatasets

namespace Library

/-- The same seeding with events in front. -/
def Seeding.afterAll (events : List Log.Event) (s : Seeding) : Seeding :=
  { s with events := events ++ s.events }

/-- Rows of texts as cells. -/
def cellRows (rows : List (List (Option Text))) : List (List Table.Cell) :=
  rows.map fun values => values.map Table.Cell.ofText?

theorem cellRows_append (a b : List (List (Option Text))) :
    cellRows (a ++ b) = cellRows a ++ cellRows b := List.map_append

/-! ## A batch -/

/-- The book table takes the rows of a dump. -/
def Accepts (db : Database) : Prop :=
  ∃ t, db.find? Table.bookName = some t ∧ t.TakesTexts ∧ t.columns.length = dumpColumns.length

theorem Accepts.append {db : Database} (h : Accepts db) (rows : List (List Table.Cell)) :
    Accepts (db.append Table.bookName rows) := by
  obtain ⟨t, hfind, htexts, hwidth⟩ := h
  refine ⟨t.append rows, ?_, htexts, hwidth⟩
  rw [Database.find?_append, sameName_self, if_pos rfl, hfind]
  rfl

theorem insertBatch_ok {db : Database} (h : Accepts db) (batch : List (List Table.Cell)) :
    insertBatch db batch = .ok (db.append Table.bookName batch.reverse) := by
  obtain ⟨t, hfind, htexts, hwidth⟩ := h
  exact Database.insert_ok batch.reverse hfind htexts hwidth

section

variable {size : Nat} {db : Database} {batch : List (List Table.Cell)}

/-- **Rows that do not fill the batch** are held. -/
theorem copyRows_short {rows : List (List (Option Text))} (total : Nat)
    (rest : List Table.Fetched) (h : batch.length + rows.length < size) :
    copyRows size db total batch (rows.map .ok ++ rest)
      = copyRows size db total ((cellRows rows).reverse ++ batch) rest := by
  induction rows generalizing batch with
  | nil => rfl
  | cons values rows ih =>
    rw [List.length_cons] at h
    have hlength : (values.map Table.Cell.ofText? :: batch).length = batch.length + 1 :=
      List.length_cons
    have hopen : ¬ (values.map Table.Cell.ofText? :: batch).length = size := by omega
    rw [List.map_cons, List.cons_append, copyRows, if_neg hopen, ih (by omega), cellRows, cellRows,
      List.map_cons, List.reverse_cons, List.append_assoc]
    rfl

/-- **The row that fills the batch** commits it. -/
theorem copyRows_full {rows : List (List (Option Text))} (total : Nat)
    (rest : List Table.Fetched) (hdb : Accepts db) (hsize : 0 < size) (h : rows.length = size) :
    copyRows size db total [] (rows.map .ok ++ rest)
      = (copyRows size (db.append Table.bookName (cellRows rows)) (total + size) [] rest).after
          (committed (total + size)) := by
  rcases List.eq_nil_or_concat' rows with rfl | ⟨held, last, rfl⟩
  · exact absurd h (Nat.ne_of_lt hsize)
  · rw [List.length_append, List.length_singleton] at h
    have hheld : ([] : List (List Table.Cell)).length + held.length < size := by
      rw [List.length_nil]
      omega
    -- The rows before the last one are held, and the last one fills the batch with them.
    have hbatch : last.map Table.Cell.ofText? :: (cellRows held).reverse
        = (cellRows (held ++ [last])).reverse := by
      rw [cellRows, cellRows, List.map_append, List.reverse_append]
      rfl
    have hlength : (cellRows (held ++ [last])).reverse.length = size := by
      rw [List.length_reverse, cellRows, List.length_map, List.length_append, List.length_singleton]
      exact h
    rw [List.map_append, List.append_assoc, copyRows_short total _ hheld, List.append_nil,
      List.map_singleton, List.singleton_append, copyRows, hbatch, if_pos hlength,
      insertBatch_ok hdb, List.reverse_reverse, hlength]

/-- **Whole batches** are committed one by one, and between two of them nothing is held. -/
theorem copyRows_batches {rows : List (List (Option Text))} (q total : Nat)
    (rest : List Table.Fetched) (hdb : Accepts db) (hsize : 0 < size)
    (h : rows.length = q * size) :
    copyRows size db total [] (rows.map .ok ++ rest)
      = (copyRows size (db.append Table.bookName (cellRows rows)) (total + q * size) [] rest).afterAll
          ((List.range q).map fun i => committed (total + (i + 1) * size)) := by
  induction q generalizing rows db total with
  | zero =>
    rw [Nat.zero_mul] at h
    obtain rfl := List.length_eq_zero_iff.1 h
    rw [cellRows, List.map_nil, List.map_nil, Database.append_nil, Nat.zero_mul]
    rfl
  | succ q ih =>
    rw [Nat.add_mul, Nat.one_mul] at h
    obtain ⟨first, others, rfl, hfirst, hothers⟩ : ∃ first others, rows = first ++ others
        ∧ first.length = size ∧ others.length = q * size := by
      refine ⟨rows.take size, rows.drop size, (List.take_append_drop size rows).symm, ?_, ?_⟩
      · rw [List.length_take]
        omega
      · rw [List.length_drop]
        omega
    have hcounts : ((List.range (q + 1)).map fun i => committed (total + (i + 1) * size))
        = committed (total + size)
          :: (List.range q).map fun i => committed (total + size + (i + 1) * size) := by
      rw [List.range_succ_eq_map, List.map_cons, List.map_map, Nat.zero_add, Nat.one_mul]
      congr 1
      apply List.map_congr_left
      intro i _
      show committed (total + (i + 1 + 1) * size) = _
      rw [Nat.add_mul (i + 1) 1, Nat.one_mul, Nat.add_comm ((i + 1) * size), ← Nat.add_assoc]
    have htotal : total + (q + 1) * size = total + size + q * size := by
      rw [Nat.add_mul, Nat.one_mul, Nat.add_comm (q * size), ← Nat.add_assoc]
    rw [List.map_append, List.append_assoc, copyRows_full total _ hdb hsize hfirst,
      ih (total + size) (hdb.append _) hothers, Database.append_append, ← cellRows_append, hcounts,
      htotal]
    rfl

/-! ## A run -/

/-- **Rows that are all values** are committed as far as they make whole batches; the others are held
when the run comes to what is behind them. -/
theorem copyRows_append {whole : Nat} (rows : List (List (Option Text)))
    (rest : List Table.Fetched) (hdb : Accepts db) (hsize : 0 < size)
    (hwhole : whole = rows.length / size * size) :
    copyRows size db 0 [] (rows.map .ok ++ rest)
      = (copyRows size (db.append Table.bookName (cellRows (rows.take whole))) whole
          (cellRows (rows.drop whole)).reverse rest).afterAll
            ((List.range (rows.length / size)).map fun i => committed ((i + 1) * size)) := by
  have hdivide : whole + rows.length % size = rows.length := by
    rw [hwhole]
    exact Nat.div_add_mod' rows.length size
  have hmod : rows.length % size < size := Nat.mod_lt _ hsize
  have htaken : (rows.take whole).length = rows.length / size * size := by
    rw [List.length_take, ← hwhole]
    omega
  have hleft : ([] : List (List Table.Cell)).length + (rows.drop whole).length < size := by
    rw [List.length_nil, List.length_drop]
    omega
  have hrows : rows.map (Except.ok : _ → Table.Fetched) ++ rest
      = (rows.take whole).map .ok ++ ((rows.drop whole).map .ok ++ rest) := by
    rw [← List.append_assoc, ← List.map_append, List.take_append_drop]
  rw [hrows, copyRows_batches _ 0 _ hdb hsize htaken, copyRows_short _ _ hleft, List.append_nil]
  simp only [Nat.zero_add, hwhole]

/-- **At the end** the rows that are held are committed, if there are any. -/
theorem copyRows_end (total : Nat) (hdb : Accepts db) (rows : List (List (Option Text))) :
    copyRows size db total (cellRows rows).reverse []
      = ⟨db.append Table.bookName (cellRows rows),
          (if rows.length = 0 then [] else [committed (total + rows.length)])
            ++ [ingested (total + rows.length)],
          .ok (total + rows.length)⟩ := by
  have hlength : (cellRows rows).reverse.length = rows.length := by
    rw [List.length_reverse, cellRows, List.length_map]
  by_cases hnone : rows.length = 0
  · obtain rfl := List.length_eq_zero_iff.1 hnone
    rw [if_pos hnone, cellRows, List.map_nil, Database.append_nil]
    rfl
  · have hsome : ¬ (cellRows rows).reverse.isEmpty = true := by
      rw [List.isEmpty_iff_length_eq_zero, hlength]
      exact hnone
    rw [copyRows, if_neg hsome, insertBatch_ok hdb, List.reverse_reverse, hlength, if_neg hnone]
    rfl

/-- The counts that are told when `n` rows are copied in batches of `size`: every whole batch, and
all rows at the end. -/
def cumulative (size n : Nat) : List Nat :=
  (List.range ((n + size - 1) / size)).map fun i => min ((i + 1) * size) n

example : cumulative 3 7 = [3, 6, 7] := by decide

/-- With `q` whole batches there are `q` whole counts, and one more if rows are left. -/
theorem cumulative_eq (q : Nat) {r : Nat} (hr : r < size) :
    cumulative size (q * size + r)
      = ((List.range q).map fun i => (i + 1) * size) ++ if r = 0 then [] else [q * size + r] := by
  have hsize : 0 < size := Nat.zero_lt_of_lt hr
  have hwhole : ((List.range q).map fun i => min ((i + 1) * size) (q * size + r))
      = (List.range q).map fun i => (i + 1) * size := by
    apply List.map_congr_left
    intro i hi
    have hle : (i + 1) * size ≤ q * size := Nat.mul_le_mul_right size (List.mem_range.1 hi)
    exact Nat.min_eq_left (Nat.le_trans hle (Nat.le_add_right _ _))
  by_cases hzero : r = 0
  · have hcount : (q * size + r + size - 1) / size = q := by
      rw [show q * size + r + size - 1 = (size - 1) + q * size by omega,
        Nat.add_mul_div_right _ _ hsize, Nat.div_eq_of_lt (by omega), Nat.zero_add]
    rw [cumulative, hcount, hwhole, if_pos hzero, List.append_nil]
  · have hcount : (q * size + r + size - 1) / size = q + 1 := by
      rw [show q * size + r + size - 1 = (r - 1) + size + q * size by omega,
        Nat.add_mul_div_right _ _ hsize, Nat.add_div_right _ hsize, Nat.div_eq_of_lt (by omega)]
      omega
    have hlast : min ((q + 1) * size) (q * size + r) = q * size + r := by
      rw [Nat.add_mul, Nat.one_mul]
      omega
    rw [cumulative, hcount, List.range_succ, List.map_append, hwhole, List.map_singleton, hlast,
      if_neg hzero]

/-- **A run over rows that are all values** commits each of them once, in order. -/
theorem copyRows_ok (rows : List (List (Option Text))) (hdb : Accepts db) (hsize : 0 < size) :
    copyRows size db 0 [] (rows.map .ok)
      = ⟨db.append Table.bookName (cellRows rows),
          (cumulative size rows.length).map committed ++ [ingested rows.length],
          .ok rows.length⟩ := by
  have hrun := copyRows_append rows [] hdb hsize rfl
  have hcounts := cumulative_eq (rows.length / size) (Nat.mod_lt rows.length hsize)
  have hleft : (rows.drop (rows.length / size * size)).length = rows.length % size := by
    rw [List.length_drop, Nat.mod_eq_sub_div_mul]
  rw [List.append_nil, copyRows_end _ (hdb.append _), Database.append_append, ← cellRows_append,
    List.take_append_drop, hleft, Nat.div_add_mod'] at hrun
  rw [Nat.div_add_mod'] at hcounts
  rw [hrun, hcounts, List.map_append, List.map_map]
  split_ifs
  · rw [List.map_nil, List.append_nil]
    rfl
  · rw [List.append_assoc]
    rfl

end

/-! ## The whole copy -/

/-- The book table of a database, or the one that is made when there is none. -/
def bookTable (db : Database) : Table := (db.find? Table.bookName).getD Table.book

/-- A copy finds nothing in its way: no index has the name of the book table, and the book table that
is there, if any, has nine columns that take texts. -/
structure Ready (db : Database) : Prop where
  indexes : db.indexes.any (sameName Table.bookName) = false
  table : ∀ t, db.find? Table.bookName = some t → t.TakesTexts ∧ t.columns.length = 9

section

variable {dump db : Database} {rows : List (List (Option Text))}

theorem Ready.make (h : Ready db) : db.make Table.book = .ok (db.create Table.book) :=
  Database.make_ok h.indexes

/-- The book table has nine columns that take texts once it is made. -/
theorem Ready.bookTable (h : Ready db) :
    (bookTable db).TakesTexts ∧ (Library.bookTable db).columns.length = 9 := by
  rw [Library.bookTable]
  rcases hfind : db.find? Table.bookName with _ | t
  · exact ⟨by decide, rfl⟩
  · exact h.table t hfind

theorem Ready.accepts (h : Ready db) : Accepts (db.create Table.book) :=
  ⟨Library.bookTable db, Database.find?_create_self db Table.book, h.bookTable⟩

end

/-- A tree with a dump, and a directory where a new database would keep its journal. -/
def blocked (dump : Database) : Files :=
  ⟨[(["dump.sqlite".toList], .file (.tables dump)), (["book.sqlite-journal".toList], .directory)]⟩

end Library

end BookDatasets
