/-
  A row with a cell that is no text is all or nothing.

  1. **The first such row** — `SpoiledAt columns k index fault` says that the rows in front of row `k`
     have a text in every selected column, and that row `k` has none in the column at `index`, the
     first such one.  A spoiled table has exactly one such place.
  2. **The shorter table** — `cut name k` keeps the first `k` rows of a table, and all of its columns.
     A query on it delivers what the query on the whole table delivers in front of the error.
  3. **Two runs** — what is written and what is reported in front of an error does not depend on it
     (`writeRows_stops`): ALL cells of a row are read before an octet of its lines is written.  So the
     failing run leaves what the run on the shorter table leaves, and only its answer is another one.
-/
import BookDatasets.Proofs.Fiction.Lockstep
import BookDatasets.Proofs.Library.Dataset
import BookDatasets.Proofs.Table.Change
import BookDatasets.Proofs.Table.Fault

namespace BookDatasets

namespace Table

variable {t : Table} {columns : List Text} {row : List Cell}

/-! ## The first such row -/

/-- The row has no text in one of the columns. -/
def Spoils (t : Table) (columns : List Text) (row : List Cell) : Prop :=
  ∃ column ∈ columns, ∃ position fault,
    t.position? column = some position ∧ (row.getD position .null).asText = .error fault

/-- The table has the columns, and one of its rows has no text in one of them. -/
structure Spoiled (t : Table) (columns : List Text) : Prop where
  present : ∀ column ∈ columns, ∃ position, t.position? column = some position
  row : ∃ row ∈ t.rows, t.Spoils columns row

/-- Row `k` is the first one without a text in one of the columns, and `index` is the first column
in which it has none. -/
structure SpoiledAt (t : Table) (columns : List Text) (k index : Nat) (fault : Utf8.Fault) :
    Prop where
  front : ∀ row ∈ t.rows.take k, ¬ t.Spoils columns row
  bad : ∃ row, t.rows[k]? = some row ∧ t.FailsAt row columns index fault

/-- A row says something in each of the columns, or it fails at one of them and not both. -/
theorem forall₂_says_or_failsAt (row : List Cell)
    (h : ∀ column ∈ columns, ∃ position, t.position? column = some position) :
    (¬ t.Spoils columns row ∧ ∃ values, List.Forall₂ (t.Says row) columns values)
      ∨ (t.Spoils columns row ∧ ∃ index fault, t.FailsAt row columns index fault) := by
  induction columns with
  | nil =>
    left
    constructor
    · rintro ⟨column, hcolumn, -⟩
      exact List.not_mem_nil hcolumn
    · exact ⟨[], .nil⟩
  | cons column columns ih =>
    obtain ⟨⟨position, hposition⟩, hcolumns⟩ := List.forall_mem_cons.1 h
    rcases hcell : (row.getD position .null).asText with fault | value
    · right
      exact ⟨⟨column, List.mem_cons_self, position, fault, hposition, hcell⟩, 0, fault,
        .here hposition hcell⟩
    · have hsays : t.Says row column value := ⟨position, hposition, hcell⟩
      rcases ih hcolumns with ⟨hgood, values, hvalues⟩ | ⟨⟨other, hother, hbad⟩, index, fault, hfails⟩
      · left
        constructor
        · rintro ⟨other, hother, found, fault, hfound, herror⟩
          rcases List.mem_cons.1 hother with rfl | hlater
          · obtain rfl : position = found := Option.some.inj (hposition.symm.trans hfound)
            exact nomatch hcell.symm.trans herror
          · exact hgood ⟨other, hlater, found, fault, hfound, herror⟩
        · exact ⟨value :: values, .cons hsays hvalues⟩
      · right
        exact ⟨⟨other, List.mem_cons_of_mem _ hother, hbad⟩, index + 1, fault, .later hsays hfails⟩

/-- A row that has no text in the first column fails there. -/
theorem FailsAt.eq_zero {column : Text} {index : Nat} {fault : Utf8.Fault}
    (h : t.FailsAt row (column :: columns) index fault) (hspoils : t.Spoils [column] row) :
    index = 0 := by
  obtain ⟨other, hother, position, fault', hposition, herror⟩ := hspoils
  obtain rfl : other = column := List.mem_singleton.1 hother
  cases h with
  | here => rfl
  | later hsaid _ =>
    obtain ⟨found, hfound, hvalue⟩ := hsaid
    obtain rfl : position = found := Option.some.inj (hposition.symm.trans hfound)
    exact nomatch herror.symm.trans hvalue

/-- A list with a member of a kind has a first one. -/
theorem exists_first {α : Type} {p : α → Prop} {l : List α} (h : ∃ a ∈ l, p a) :
    ∃ k a, l[k]? = some a ∧ p a ∧ ∀ b ∈ l.take k, ¬ p b := by
  induction l with
  | nil =>
    obtain ⟨a, ha, -⟩ := h
    exact absurd ha List.not_mem_nil
  | cons b l ih =>
    by_cases hb : p b
    · exact ⟨0, b, rfl, hb, fun _ hnone => absurd hnone List.not_mem_nil⟩
    · have hlater : ∃ a ∈ l, p a := by
        obtain ⟨a, ha, hpa⟩ := h
        rcases List.mem_cons.1 ha with rfl | ha
        · exact absurd hpa hb
        · exact ⟨a, ha, hpa⟩
      obtain ⟨k, a, hk, hpa, hfront⟩ := ih hlater
      refine ⟨k + 1, a, hk, hpa, ?_⟩
      rw [List.take_succ_cons]
      exact List.forall_mem_cons.2 ⟨hb, hfront⟩

/-- **A spoiled table is spoiled at one place first.** -/
theorem Spoiled.exists_at (h : t.Spoiled columns) :
    ∃ k index fault, t.SpoiledAt columns k index fault := by
  obtain ⟨k, row, hrow, hspoils, hfront⟩ := exists_first h.row
  rcases forall₂_says_or_failsAt row h.present with ⟨hgood, -⟩ | ⟨-, index, fault, hfails⟩
  · exact absurd hspoils hgood
  · exact ⟨k, index, fault, hfront, row, hrow, hfails⟩

/-! ## The shorter table -/

/-- The table with its first `k` rows only. -/
def cut (t : Table) (k : Nat) : Table := { t with rows := t.rows.take k }

/-- Rows that are not spoiled say something in each of the columns. -/
theorem exists_forall₂_says {rows : List (List Cell)}
    (hpresent : ∀ column ∈ columns, ∃ position, t.position? column = some position)
    (h : ∀ row ∈ rows, ¬ t.Spoils columns row) :
    ∃ values, List.Forall₂ (fun row values => List.Forall₂ (t.Says row) columns values) rows
      values := by
  induction rows with
  | nil => exact ⟨[], .nil⟩
  | cons row rows ih =>
    obtain ⟨hrow, hrows⟩ := List.forall_mem_cons.1 h
    obtain ⟨values, hvalues⟩ := ih hrows
    rcases forall₂_says_or_failsAt row hpresent with ⟨-, value, hvalue⟩ | ⟨hbad, -⟩
    · exact ⟨value :: values, .cons hvalue hvalues⟩
    · exact absurd hbad hrow

/-- **A selection from a spoiled table** is the one from the shorter table, and then the error. -/
theorem select_of_spoiledAt {k index : Nat} {fault : Utf8.Fault}
    (hpresent : ∀ column ∈ columns, ∃ position, t.position? column = some position)
    (h : t.SpoiledAt columns k index fault) :
    ∃ (values : List (List (Option Text))) (later : List Fetched), values.length = k
      ∧ (t.cut k).select columns = .ok (values.map .ok)
      ∧ t.select columns = .ok (values.map .ok ++ .error (.undecodable index fault) :: later) := by
  obtain ⟨row, hrow, hfails⟩ := h.bad
  obtain ⟨hk, hget⟩ := List.getElem?_eq_some_iff.1 hrow
  obtain ⟨values, hvalues⟩ := exists_forall₂_says hpresent h.front
  have hrows : t.rows = t.rows.take k ++ row :: t.rows.drop (k + 1) := by
    rw [← hget, ← List.drop_eq_getElem_cons hk, List.take_append_drop]
  have hafter : t.FailsAfter columns values index fault :=
    ⟨hpresent, t.rows.take k, row, t.rows.drop (k + 1), hrows, hvalues, hfails⟩
  have hreads : (t.cut k).Reads columns values := ⟨hpresent, hvalues⟩
  have hlength : values.length = k := by
    rw [← hvalues.length_eq, List.length_take, Nat.min_eq_left hk.le]
  obtain ⟨later, hselect⟩ := select_of_failsAfter hafter
  exact ⟨values, later, hlength, select_eq_ok_iff.2 hreads, hselect⟩

end Table

namespace Database

/-- The database with the first `k` rows only of the table of a name. -/
def cut (db : Database) (name : Text) (k : Nat) : Database := db.update name fun t => t.cut k

/-- **A query on a spoiled table** delivers what the query on the shorter one does, and then the
error. -/
theorem select_of_spoiledAt {db : Database} {name : Text} {t : Table} {columns : List Text}
    {k index : Nat} {fault : Utf8.Fault} (hzero : '\x00' ∉ name)
    (hsource : db.source? name = some t) (hspoiled : t.Spoiled columns)
    (h : t.SpoiledAt columns k index fault) :
    ∃ (values : List (List (Option Text))) (later : List Table.Fetched), values.length = k
      ∧ (db.cut name k).select name columns = .ok (values.map .ok)
      ∧ db.select name columns
        = .ok (values.map .ok ++ .error (.undecodable index fault) :: later) := by
  rcases hplain : Table.schemaNames.any (sameName name) with _ | _
  · have hfind : db.find? name = some t := by
      rw [source?, hplain] at hsource
      exact hsource
    have hcut : (db.cut name k).find? name = some (t.cut k) := by
      rw [cut, find?_update db name name (fun t => t.cut k) fun _ => rfl, sameName_self, hfind]
      rfl
    rw [select_of_find? columns hzero hplain hfind, select_of_find? columns hzero hplain hcut]
    exact Table.select_of_spoiledAt hspoiled.present h
  · -- The tables that describe a database have no row to be spoiled.
    rw [source?, hplain, if_pos rfl] at hsource
    obtain rfl := Option.some.inj hsource
    obtain ⟨row, hrow, -⟩ := hspoiled.row
    exact absurd hrow List.not_mem_nil

end Database

/-! ## Two runs -/

/-- **An error behind rows changes nothing but the answer**: octets and events are those of the rows
in front. -/
theorem Library.writeRows_stops {interval count n : Nat} {s : Sink}
    {rows : List (List (Option Text))} (e : SqlError) (later : List Table.Fetched)
    (h : (writeRows interval count s (rows.map .ok)).result = .ok n) :
    writeRows interval count s (rows.map .ok ++ .error e :: later)
      = { writeRows interval count s (rows.map .ok) with result := .error e.toConvert } := by
  induction rows generalizing count s with
  | nil => rfl
  | cons row rows ih =>
    rw [List.map_cons] at h ⊢
    rw [List.cons_append, writeRows, writeRows]
    rw [writeRows] at h
    rcases hline : s.writeJson (labels row).toJson with ⟨s', e' | ⟨⟩⟩
    · rw [hline] at h
      cases h
    · rw [hline] at h
      dsimp only
      rw [ih h]
      rfl

theorem Fiction.writeRows_stops {interval : Nat} {counts done : Counts} {s : Sinks}
    {rows : List (List (Option Text))} (e : SqlError) (later : List Table.Fetched)
    (h : (writeRows interval counts s (rows.map .ok)).result = .ok done) :
    writeRows interval counts s (rows.map .ok ++ .error e :: later)
      = { writeRows interval counts s (rows.map .ok) with result := .error e.toConvert } := by
  induction rows generalizing counts s with
  | nil => rfl
  | cons row rows ih =>
    rw [List.map_cons] at h ⊢
    rcases hrecords : s.writeRecords (Row.ofColumns row).explode with ⟨s', e' | ⟨⟩⟩
    · rw [writeRows, hrecords] at h
      cases h
    · rw [writeRows_cons _ _ _ hrecords] at h
      rw [List.cons_append, writeRows_cons _ _ _ hrecords, writeRows_cons _ _ _ hrecords]
      dsimp only
      rw [ih h]
      rfl

/-- **A spoiled row is all or nothing.**  Without limits, the library dataset of a database with a
spoiled book table and the fiction datasets of a database with a spoiled table fail with the first
bad column of the first spoiled row; the octets and the events are those of the table that ends in
front of this row, whose datasets are complete. -/
theorem spoiled_row_all_or_nothing (db : Database) (interval : Nat) :
    (∀ t, db.find? "book".toList = some t → t.Spoiled Table.bookColumns →
      ∃ k index fault, t.SpoiledAt Table.bookColumns k index fault
        ∧ let run := Library.writeDataset db .unlimited interval
          let short := Library.writeDataset (db.cut "book".toList k) .unlimited interval
          run.result = .error (.database (.sql (.undecodable index fault)))
            ∧ short.result = .ok k
            ∧ run.sink.taken = short.sink.taken
            ∧ run.events = short.events)
    ∧ ∀ name t, '\x00' ∉ name → db.source? name = some t → t.Spoiled Fiction.selection →
      ∃ k index fault, t.SpoiledAt Fiction.selection k index fault
        ∧ (∀ row, t.rows[k]? = some row → t.Spoils ["Author".toList] row → index = 0)
        ∧ let run := Fiction.writeDatasets db name ⟨.unlimited, .unlimited⟩ interval
          let short := Fiction.writeDatasets (db.cut name k) name ⟨.unlimited, .unlimited⟩ interval
          run.result = .error (.database (.sql (.undecodable index fault)))
            ∧ (∃ records, short.result = .ok ⟨records, k⟩)
            ∧ run.sinks.json.taken = short.sinks.json.taken
            ∧ run.sinks.custom.taken = short.sinks.custom.taken
            ∧ run.events = short.events := by
  constructor
  · intro t hfind hspoiled
    obtain ⟨k, index, fault, hat⟩ := hspoiled.exists_at
    have hsource : db.source? Table.bookName = some t := hfind
    obtain ⟨values, later, hlength, hshort, hrun⟩ :=
      Database.select_of_spoiledAt (by decide) hsource hspoiled hat
    obtain ⟨hresult, -⟩ := Library.writeRows_unlimited interval values
    refine ⟨k, index, fault, hat, ?_⟩
    have hshort' : Library.writeDataset (db.cut "book".toList k) .unlimited interval
        = Library.writeRows interval 0 .unlimited (values.map .ok) := by
      rw [Library.writeDataset, show "book".toList = Table.bookName from rfl, hshort]
      rfl
    rw [hshort', Library.writeDataset, hrun]
    dsimp only
    rw [Library.writeFrom, Library.writeRows_stops _ later hresult]
    exact ⟨rfl, hlength ▸ hresult, rfl, rfl⟩
  · intro name t hzero hsource hspoiled
    obtain ⟨k, index, fault, hat⟩ := hspoiled.exists_at
    obtain ⟨values, later, hlength, hshort, hrun⟩ :=
      Database.select_of_spoiledAt hzero hsource hspoiled hat
    obtain ⟨done, hresult⟩ := Fiction.writeRows_unlimited
      (s := ⟨.unlimited, .unlimited⟩) interval ⟨0, 0⟩ ⟨rfl, rfl⟩ values
    refine ⟨k, index, fault, hat, ?_, ?_⟩
    · intro row hrow hauthor
      obtain ⟨bad, hbad, hfails⟩ := hat.bad
      obtain rfl : row = bad := Option.some.inj (hrow.symm.trans hbad)
      exact hfails.eq_zero hauthor
    · rw [Fiction.writeDatasets, Fiction.writeDatasets, hshort, hrun]
      dsimp only
      rw [Fiction.writeFrom, Fiction.writeFrom, Fiction.writeRows_stops _ later hresult]
      refine ⟨rfl, ?_, rfl, rfl, rfl⟩
      obtain ⟨written, hwritten, rfl, -⟩ := Fiction.writeRows_ok hresult
      have hrows : written.length = k := by
        rw [← hlength, ← List.length_map (f := Except.ok), ← hwritten, List.length_map]
      rw [hrows, Nat.zero_add, Nat.zero_add] at hresult
      exact ⟨_, hresult⟩

/-- A book table whose second and third row have a title and a year that are no texts. -/
def stainedBook : Table :=
  { Table.book with rows :=
      [[.text "Lem".toList, .null, .null, .null, .integer 1961],
       [.null, .null, .null, .null, .integer 1962, .null, .blob [0x53, 0xC3]],
       [.null, .null, .null, .null, .blob [0xFF]]] }

/-- A fiction table with a row of two authors, and behind it one whose authors are no text. -/
def stainedShelf : Table :=
  .plain "Fiction".toList
    ["Author".toList, "Language".toList, "Year".toList, "Extension".toList, "Title".toList,
      "Publisher".toList, "Edition".toList]
    [[.text "Lem, Stan;Doe".toList, .null, .integer 1961],
     [.blob [0x4C, 0x65, 0x6D, 0x3B, 0xFF], .blob [0xFF]]]

theorem stainedBook_spoiled : stainedBook.Spoiled Table.bookColumns :=
  ⟨Table.present_of_positions
      (show stainedBook.positions Table.bookColumns = .ok [0, 1, 2, 3, 4, 5, 6, 7, 8] from rfl),
    _, List.mem_cons_of_mem _ List.mem_cons_self, "Title".toList, by decide, 6, .incomplete 1, rfl,
    rfl⟩

theorem stainedShelf_spoiled : stainedShelf.Spoiled Fiction.selection :=
  ⟨Table.present_of_positions
      (show stainedShelf.positions Fiction.selection = .ok [0, 0, 1, 2, 3, 4, 5, 6] from rfl),
    _, List.mem_cons_of_mem _ List.mem_cons_self, "Author".toList, by decide, 0, .invalid 1 4, rfl,
    rfl⟩

theorem stained_rows_are_left_out :
    (∃ k index fault, stainedBook.SpoiledAt Table.bookColumns k index fault
      ∧ (Library.writeDataset ⟨[stainedBook, stainedShelf], []⟩ .unlimited 1).sink.taken
        = (Library.writeDataset (Database.cut ⟨[stainedBook, stainedShelf], []⟩ "book".toList k)
            .unlimited 1).sink.taken)
    ∧ ∃ k index fault, stainedShelf.SpoiledAt Fiction.selection k index fault
      ∧ (∀ row, stainedShelf.rows[k]? = some row → stainedShelf.Spoils ["Author".toList] row →
        index = 0) := by
  obtain ⟨hbook, hshelf⟩ := spoiled_row_all_or_nothing ⟨[stainedBook, stainedShelf], []⟩ 1
  obtain ⟨k, index, fault, hat, -, -, hoctets, -⟩ := hbook stainedBook rfl stainedBook_spoiled
  obtain ⟨k', index', fault', hat', hauthor, -⟩ :=
    hshelf "Fiction".toList stainedShelf (by decide) rfl stainedShelf_spoiled
  exact ⟨⟨k, index, fault, hat, hoctets⟩, k', index', fault', hat', hauthor⟩

end BookDatasets
