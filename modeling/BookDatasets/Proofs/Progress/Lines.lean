/-
  Progress lines of the two table conversions.

  1. **Two loops** — writing the rows of a book table and writing those of a fiction table are loops
     over rows (`RowLoop`), which differ in their outputs, their counts and their messages.
  2. **Multiples** — a conversion that has got through `n` rows has reported the multiples of the
     interval up to `n`, each with the counts that hold there.  The fiction conversion counts two
     things that grow at different rates: rows by one, and records by the authors of a row.  Only
     rows decide when a line is due.
  3. **The moment of a line** — `BehindLine` is the state right behind the `k`-th progress line: a
     conversion goes from its start to this state, and from this state to its end.  Here the outputs
     hold the lines that are reported, complete, and nothing of the next row.
-/
import BookDatasets.Proofs.Fiction.Lockstep
import BookDatasets.Proofs.Library.Dataset
import BookDatasets.Proofs.Progress.RowLoop

namespace BookDatasets

/-! ## The library conversion -/

namespace Library

/-- Writing the rows of a book table, as a loop. -/
def loop (interval : Nat) : RowLoop Sink Nat where
  write s values := s.writeJson (labels values).toJson
  count lines _ := lines + 1
  say lines := Log.whenDue lines interval (progress lines)

/-- What a conversion leaves behind, as what a loop leaves. -/
def Writing.left (w : Writing) : RowLoop.Left Sink Nat := ⟨w.sink, w.events, w.result⟩

theorem Writing.left_injective : Function.Injective Writing.left := by
  rintro ⟨s, events, result⟩ ⟨s', events', result'⟩ h
  obtain ⟨rfl, rfl, rfl⟩ := RowLoop.Left.mk.inj h
  rfl

theorem left_writeRows (interval count : Nat) (s : Sink) (rows : List Table.Fetched) :
    (writeRows interval count s rows).left = (loop interval).run count s rows := by
  induction rows generalizing count s with
  | nil => rfl
  | cons row rows ih =>
    cases row with
    | error e => rfl
    | ok values =>
      have hwrite : (loop interval).write s values = s.writeJson (labels values).toJson := rfl
      have hcount : (loop interval).count count values = count + 1 := rfl
      rw [writeRows, RowLoop.run, hwrite, hcount]
      rcases s.writeJson (labels values).toJson with ⟨s', e | ⟨⟩⟩
      · rfl
      · dsimp only
        rw [← ih]
        rfl

theorem writeDataset_eq (db : Database) (s : Sink) (interval : Nat) :
    writeDataset db s interval
      = writeRows interval 0 s (Table.rowsOf (db.select Table.bookName Table.bookColumns)) := by
  rw [writeDataset]
  cases db.select Table.bookName Table.bookColumns with
  | error e => rfl
  | ok rows => rfl

/-- **Rows that are taken** are all values; they are counted, and the output has grown by their
lines. -/
theorem writeRows_ok {interval count done : Nat} {s : Sink} {rows : List Table.Fetched}
    (h : (writeRows interval count s rows).result = .ok done) :
    ∃ books : List (List (Option Text)), rows = books.map .ok ∧ done = count + books.length
      ∧ (writeRows interval count s rows).sink.taken
        = s.taken ++ Bytes.ofLines (LabelRecord.lines (books.map labels)) := by
  induction rows generalizing count s with
  | nil =>
    obtain rfl : count = done := Except.ok.inj h
    exact ⟨[], rfl, rfl, (List.append_nil _).symm⟩
  | cons row rows ih =>
    cases row with
    | error e => cases h
    | ok book =>
      rw [writeRows] at h ⊢
      rcases hline : s.writeJson (labels book).toJson with ⟨s', e | ⟨⟩⟩
      · rw [hline] at h
        cases h
      · rw [hline] at h
        obtain ⟨books, rfl, rfl, htaken⟩ := ih h
        refine ⟨book :: books, rfl, ?_, ?_⟩
        · rw [List.length_cons]
          omega
        · show (writeRows interval (count + 1) s' _).sink.taken = _
          rw [htaken, Sink.taken_writeJson hline, List.map_cons, LabelRecord.ofLines_lines_cons,
            List.append_assoc]

/-- The state of a conversion right behind its `k`-th progress line, when `k * interval` rows are
written: the first `k` lines have been reported; the output holds one complete line for each of the
rows and nothing else; and the conversion goes on from there. -/
structure BehindLine (interval k : Nat) (s : Sink) (rows : List Table.Fetched) : Prop where
  reported : (writeRows interval 0 s (rows.take (k * interval))).events
    = (List.range k).map fun i => progress ((i + 1) * interval)
  output : ∃ books : List (List (Option Text)), rows.take (k * interval) = books.map .ok
    ∧ books.length = k * interval
    ∧ (writeRows interval 0 s (rows.take (k * interval))).sink.taken.splitOn 0x0A
      = LabelRecord.lines (books.map labels) ++ [[]]
  goesOn : writeRows interval 0 s rows
    = (writeRows interval (k * interval)
        (writeRows interval 0 s (rows.take (k * interval))).sink (rows.drop (k * interval))).after
      (writeRows interval 0 s (rows.take (k * interval))).events

section

variable {interval : Nat} {s : Sink} {rows : List Table.Fetched}

theorem result_run (interval count : Nat) (s : Sink) (rows : List Table.Fetched) :
    ((loop interval).run count s rows).result = (writeRows interval count s rows).result := by
  rw [← left_writeRows]
  rfl

theorem events_run (interval count : Nat) (s : Sink) (rows : List Table.Fetched) :
    ((loop interval).run count s rows).events = (writeRows interval count s rows).events := by
  rw [← left_writeRows]
  rfl

/-- Behind `n` rows the count is `n`. -/
theorem count_take {n done : Nat} (hn : n ≤ rows.length)
    (h : (writeRows interval 0 s (rows.take n)).result = .ok done) : done = n := by
  obtain ⟨books, hbooks, rfl, -⟩ := writeRows_ok h
  have hlength := congrArg List.length hbooks
  rw [List.length_take, List.length_map, Nat.min_eq_left hn] at hlength
  rw [← hlength, Nat.zero_add]

/-- **What is reported behind `m` rows**: the multiples up to `m`. -/
theorem events_take {n : Nat}
    (h : Completes (fun rows => (writeRows interval 0 s rows).result) rows n) {m : Nat}
    (hm : m ≤ n) :
    (writeRows interval 0 s (rows.take m)).events = Log.ticks interval progress m := by
  have hrows : m ≤ rows.length := Nat.le_trans hm h.le
  obtain ⟨done, hdone⟩ := h.front
  obtain ⟨earlier, hfront⟩ := RowLoop.exists_take_ok hm ((result_run interval 0 s _).trans hdone)
  rw [← events_run]
  refine RowLoop.events_take hrows ?_ hfront
  intro j hj count hcount
  rw [result_run] at hcount
  rw [count_take (Nat.le_trans hj hrows) hcount]
  rfl

theorem behindLine {n : Nat} (hs : s.taken = [])
    (h : Completes (fun rows => (writeRows interval 0 s rows).result) rows n) {k : Nat}
    (hk : k ≤ n / interval) : BehindLine interval k s rows := by
  have hle : k * interval ≤ n := Nat.le_trans (Nat.mul_le_mul_right _ hk) (Nat.div_mul_le_self _ _)
  have hrows : k * interval ≤ rows.length := Nat.le_trans hle h.le
  obtain ⟨done, hdone⟩ := h.front
  obtain ⟨earlier, hfront⟩ :=
    RowLoop.exists_take_ok hle ((result_run interval 0 s _).trans hdone)
  have hgoes := RowLoop.run_of_take hfront
  rw [result_run] at hfront
  obtain rfl := count_take hrows hfront
  constructor
  · rw [events_take h hle, Log.ticks_mul _ hk]
  · obtain ⟨books, hbooks, hlength, htaken⟩ := writeRows_ok hfront
    rw [Nat.zero_add] at hlength
    refine ⟨books, hbooks, hlength.symm, ?_⟩
    rw [htaken, hs, List.nil_append, LabelRecord.splitOn_lines]
  · apply Writing.left_injective
    rw [left_writeRows, hgoes, ← left_writeRows, ← left_writeRows]
    rfl

end

/-- What the library conversion of a database reports.  It gets through `n` rows, and reports the
multiples of the interval up to `n`, each of them as soon as it gets there and none before; at the
interval zero it reports nothing, and does what it does at any other; and behind each progress line
the output is as the line says. -/
structure ReportsProgress (db : Database) (limit : Option Nat) (interval n : Nat) : Prop where
  completes : Completes (fun rows => (writeRows interval 0 (.ofLimit limit) rows).result)
    (Table.rowsOf (db.select Table.bookName Table.bookColumns)) n
  lines : (writeDataset db (.ofLimit limit) interval).events
    = (List.range (n / interval)).map fun i => progress ((i + 1) * interval)
  soFar : ∀ m ≤ n, (writeRows interval 0 (.ofLimit limit)
      ((Table.rowsOf (db.select Table.bookName Table.bookColumns)).take m)).events
    = (List.range (m / interval)).map fun i => progress ((i + 1) * interval)
  zero : interval = 0 → (writeDataset db (.ofLimit limit) interval).events = []
  unmoved : ∀ other, (writeDataset db (.ofLimit limit) other).outcome
    = (writeDataset db (.ofLimit limit) interval).outcome
  behind : ∀ k ≤ n / interval, BehindLine interval k (.ofLimit limit)
    (Table.rowsOf (db.select Table.bookName Table.bookColumns))

/-- **The library conversion reports the multiples** of its interval. -/
theorem exists_reportsProgress (db : Database) (limit : Option Nat) (interval : Nat) :
    ∃ n, ReportsProgress db limit interval n := by
  obtain ⟨n, hrun⟩ := RowLoop.exists_completes (loop interval) 0 (.ofLimit limit)
    (Table.rowsOf (db.select Table.bookName Table.bookColumns))
  have hevents := RowLoop.events_of_completes hrun
  simp only [result_run] at hrun
  rw [events_run, events_run] at hevents
  have hlines : (writeDataset db (.ofLimit limit) interval).events
      = Log.ticks interval progress n := by
    rw [writeDataset_eq, hevents, events_take hrun (Nat.le_refl n)]
  refine ⟨n, hrun, hlines, fun m hm => events_take hrun hm, ?_, ?_,
    fun k hk => behindLine rfl hrun hk⟩
  · rintro rfl
    rw [hlines, Log.ticks, Nat.div_zero]
    rfl
  · intro other
    rw [writeDataset_eq, writeDataset_eq, writeRows_eq, writeRows_eq]

end Library

/-! ## The fiction conversion -/

namespace Fiction

/-- Writing the rows of a fiction table, as a loop. -/
def loop (interval : Nat) : RowLoop Sinks Counts where
  write s values := s.writeRecords (Row.ofColumns values).explode
  count counts values := ⟨counts.records + (Row.ofColumns values).explode.length, counts.rows + 1⟩
  say counts := Log.whenDue counts.rows interval (progress counts)

/-- What a conversion leaves behind, as what a loop leaves. -/
def Writing.left (w : Writing) : RowLoop.Left Sinks Counts := ⟨w.sinks, w.events, w.result⟩

theorem Writing.left_injective : Function.Injective Writing.left := by
  rintro ⟨s, events, result⟩ ⟨s', events', result'⟩ h
  obtain ⟨rfl, rfl, rfl⟩ := RowLoop.Left.mk.inj h
  rfl

theorem left_writeRows (interval : Nat) (counts : Counts) (s : Sinks)
    (rows : List Table.Fetched) :
    (writeRows interval counts s rows).left = (loop interval).run counts s rows := by
  induction rows generalizing counts s with
  | nil => rfl
  | cons row rows ih =>
    cases row with
    | error e => rfl
    | ok values =>
      have hwrite : (loop interval).write s values
          = s.writeRecords (Row.ofColumns values).explode := rfl
      rw [RowLoop.run, hwrite]
      rcases hrecords : s.writeRecords (Row.ofColumns values).explode with ⟨s', e | ⟨⟩⟩
      · rw [writeRows, hrecords]
        rfl
      · dsimp only
        rw [← ih, writeRows_cons interval counts rows hrecords]
        rfl

theorem writeDatasets_eq (db : Database) (table : Text) (s : Sinks) (interval : Nat) :
    writeDatasets db table s interval
      = writeRows interval ⟨0, 0⟩ s (Table.rowsOf (db.select table selection)) := by
  rw [writeDatasets]
  cases db.select table selection with
  | error e => rfl
  | ok rows => rfl

/-- How many records the entries have: one for each author, and of these there is one more than
there are semicolons. -/
def recordCount (entries : List Entry) : Nat :=
  (entries.map fun e => 1 + (e.author.getD []).count ';').sum

/-- The state of a conversion right behind its `k`-th progress line, when `k * interval` rows are
written, which are the first of the entries: the first `k` lines have been reported; each output
holds one complete line for each record of these rows and nothing else; and the conversion goes on
from there. -/
structure BehindLine (interval k : Nat) (s : Sinks) (rows : List Table.Fetched)
    (entries : List Entry) : Prop where
  reported : (writeRows interval ⟨0, 0⟩ s (rows.take (k * interval))).events
    = (List.range k).map fun i =>
      progress ⟨recordCount (entries.take ((i + 1) * interval)), (i + 1) * interval⟩
  json : (writeRows interval ⟨0, 0⟩ s (rows.take (k * interval))).sinks.json.taken.splitOn 0x0A
    = jsonLines ((entries.take (k * interval)).flatMap Entry.records) ++ [[]]
  custom : (writeRows interval ⟨0, 0⟩ s (rows.take (k * interval))).sinks.custom.taken.splitOn 0x0A
    = customLines ((entries.take (k * interval)).flatMap Entry.records) ++ [[]]
  counted : ((entries.take (k * interval)).flatMap Entry.records).length
    = recordCount (entries.take (k * interval))
  goesOn : writeRows interval ⟨0, 0⟩ s rows
    = (writeRows interval ⟨recordCount (entries.take (k * interval)), k * interval⟩
        (writeRows interval ⟨0, 0⟩ s (rows.take (k * interval))).sinks
        (rows.drop (k * interval))).after
      (writeRows interval ⟨0, 0⟩ s (rows.take (k * interval))).events

section

variable {interval n : Nat} {s : Sinks} {rows : List Table.Fetched} {entries : List Entry}

theorem result_run (interval : Nat) (counts : Counts) (s : Sinks) (rows : List Table.Fetched) :
    ((loop interval).run counts s rows).result = (writeRows interval counts s rows).result := by
  rw [← left_writeRows]
  rfl

theorem events_run (interval : Nat) (counts : Counts) (s : Sinks) (rows : List Table.Fetched) :
    ((loop interval).run counts s rows).events = (writeRows interval counts s rows).events := by
  rw [← left_writeRows]
  rfl

/-- Rows of a query that are all values are entries. -/
theorem exists_entries_of_take {db : Database} {table : Text} {values : List (List (Option Text))}
    (h : (Table.rowsOf (db.select table selection)).take n = values.map .ok) :
    ∃ entries : List Entry, entries.map Entry.columns = values := by
  have hmem : ∀ value ∈ values, value ∈ Set.range Entry.columns := by
    intro value hvalue
    have hrow : Except.ok value ∈ (Table.rowsOf (db.select table selection)).take n := by
      rw [h]
      exact List.mem_map_of_mem hvalue
    have hfetched := List.mem_of_mem_take hrow
    rcases hselect : db.select table selection with e | rows
    · rw [hselect] at hfetched
      exact nomatch List.mem_singleton.1 hfetched
    · rw [hselect] at hfetched
      exact exists_entry hselect hfetched
  rw [← Set.mem_range, Set.range_list_map]
  exact hmem

/-- Behind `j` rows their records and they themselves are counted, and both outputs have grown by
these records. -/
theorem counts_take (hentries : rows.take n = entries.map fun e => .ok e.columns) {j : Nat}
    (hj : j ≤ n) (hrows : n ≤ rows.length) {done : Counts}
    (h : (writeRows interval ⟨0, 0⟩ s (rows.take j)).result = .ok done) :
    done = ⟨recordCount (entries.take j), j⟩
      ∧ Grown s (writeRows interval ⟨0, 0⟩ s (rows.take j)).sinks
          ((entries.take j).flatMap Entry.records) := by
  obtain ⟨values, hvalues, rfl, hgrown⟩ := writeRows_ok h
  have hshort : rows.take j = ((entries.take j).map Entry.columns).map .ok := by
    rw [← Nat.min_eq_left hj, ← List.take_take, hentries, Nat.min_eq_left hj, List.map_take,
      List.map_take, List.map_map]
    rfl
  have hinj : Function.Injective (Except.ok : List (Option Text) → Table.Fetched) := by
    intro a b hab
    exact Except.ok.inj hab
  obtain rfl : (entries.take j).map Entry.columns = values :=
    List.map_injective_iff.2 hinj (hshort.symm.trans hvalues)
  have hlength := congrArg List.length hshort
  rw [List.length_take, List.length_map, Nat.min_eq_left (Nat.le_trans hj hrows)] at hlength
  rw [recordsOf_columns] at hgrown ⊢
  rw [length_flatMap_records, ← hlength, Nat.zero_add, Nat.zero_add]
  exact ⟨rfl, hgrown⟩

/-- **What is reported behind `m` rows**: the multiples up to `m`, each with the records of the rows
in front of it. -/
theorem events_take (hentries : rows.take n = entries.map fun e => .ok e.columns)
    (h : Completes (fun rows => (writeRows interval ⟨0, 0⟩ s rows).result) rows n) {m : Nat}
    (hm : m ≤ n) :
    (writeRows interval ⟨0, 0⟩ s (rows.take m)).events
      = Log.ticks interval (fun j => progress ⟨recordCount (entries.take j), j⟩) m := by
  obtain ⟨done, hdone⟩ := h.front
  obtain ⟨earlier, hfront⟩ :=
    RowLoop.exists_take_ok hm ((result_run interval ⟨0, 0⟩ s _).trans hdone)
  rw [← events_run]
  refine RowLoop.events_take (Nat.le_trans hm h.le) ?_ hfront
  intro j hj counts hcounts
  rw [result_run] at hcounts
  rw [(counts_take hentries (Nat.le_trans hj hm) h.le hcounts).1]
  rfl

theorem behindLine (hs : s.json.taken = [] ∧ s.custom.taken = [])
    (hentries : rows.take n = entries.map fun e => .ok e.columns)
    (h : Completes (fun rows => (writeRows interval ⟨0, 0⟩ s rows).result) rows n) {k : Nat}
    (hk : k ≤ n / interval) : BehindLine interval k s rows entries := by
  have hle : k * interval ≤ n := Nat.le_trans (Nat.mul_le_mul_right _ hk) (Nat.div_mul_le_self _ _)
  obtain ⟨done, hdone⟩ := h.front
  obtain ⟨earlier, hfront⟩ :=
    RowLoop.exists_take_ok hle ((result_run interval ⟨0, 0⟩ s _).trans hdone)
  have hgoes := RowLoop.run_of_take hfront
  rw [result_run] at hfront
  obtain ⟨rfl, hgrown⟩ := counts_take hentries hle h.le hfront
  constructor
  · rw [events_take hentries h hle, Log.ticks_mul _ hk]
  · rw [hgrown.json, hs.1, List.nil_append]
    exact LabelRecord.splitOn_lines _
  · rw [hgrown.custom, hs.2, List.nil_append, splitOn_customLines]
  · exact length_flatMap_records _
  · apply Writing.left_injective
    rw [left_writeRows, hgoes, ← left_writeRows, ← left_writeRows]
    rfl

end

/-- What the fiction conversion of a table reports.  It gets through `n` rows, whose entries are
given, and reports the multiples of the interval up to `n`, each with the number of records of the
rows so far, as soon as it gets there and none before; at the interval zero it reports nothing, and
does what it does at any other; and behind each progress line both outputs are as the line says. -/
structure ReportsProgress (db : Database) (table : Text) (jsonLimit customLimit : Option Nat)
    (interval n : Nat) (entries : List Entry) : Prop where
  completes : Completes
    (fun rows => (writeRows interval ⟨0, 0⟩ ⟨.ofLimit jsonLimit, .ofLimit customLimit⟩ rows).result)
    (Table.rowsOf (db.select table selection)) n
  delivered : (Table.rowsOf (db.select table selection)).take n
    = entries.map fun e => .ok e.columns
  lines : (writeDatasets db table ⟨.ofLimit jsonLimit, .ofLimit customLimit⟩ interval).events
    = (List.range (n / interval)).map fun i =>
      progress ⟨recordCount (entries.take ((i + 1) * interval)), (i + 1) * interval⟩
  soFar : ∀ m ≤ n, (writeRows interval ⟨0, 0⟩ ⟨.ofLimit jsonLimit, .ofLimit customLimit⟩
      ((Table.rowsOf (db.select table selection)).take m)).events
    = (List.range (m / interval)).map fun i =>
      progress ⟨recordCount (entries.take ((i + 1) * interval)), (i + 1) * interval⟩
  zero : interval = 0 →
    (writeDatasets db table ⟨.ofLimit jsonLimit, .ofLimit customLimit⟩ interval).events = []
  unmoved : ∀ other,
    (writeDatasets db table ⟨.ofLimit jsonLimit, .ofLimit customLimit⟩ other).outcome
      = (writeDatasets db table ⟨.ofLimit jsonLimit, .ofLimit customLimit⟩ interval).outcome
  behind : ∀ k ≤ n / interval,
    BehindLine interval k ⟨.ofLimit jsonLimit, .ofLimit customLimit⟩
      (Table.rowsOf (db.select table selection)) entries

/-- **The fiction conversion reports the multiples** of its interval. -/
theorem exists_reportsProgress (db : Database) (table : Text) (jsonLimit customLimit : Option Nat)
    (interval : Nat) :
    ∃ n entries, ReportsProgress db table jsonLimit customLimit interval n entries := by
  obtain ⟨n, hrun⟩ := RowLoop.exists_completes (loop interval) ⟨0, 0⟩
    ⟨.ofLimit jsonLimit, .ofLimit customLimit⟩ (Table.rowsOf (db.select table selection))
  have hevents := RowLoop.events_of_completes hrun
  simp only [result_run] at hrun
  rw [events_run, events_run] at hevents
  obtain ⟨done, hfront⟩ := hrun.front
  obtain ⟨values, hvalues, -, -⟩ := writeRows_ok hfront
  obtain ⟨entries, rfl⟩ := exists_entries_of_take hvalues
  rw [List.map_map] at hvalues
  have hlines : (writeDatasets db table ⟨.ofLimit jsonLimit, .ofLimit customLimit⟩ interval).events
      = Log.ticks interval (fun j => progress ⟨recordCount (entries.take j), j⟩) n := by
    rw [writeDatasets_eq, hevents, events_take hvalues hrun (Nat.le_refl n)]
  refine ⟨n, entries, hrun, hvalues, hlines, fun m hm => events_take hvalues hrun hm, ?_, ?_,
    fun k hk => behindLine ⟨rfl, rfl⟩ hvalues hrun hk⟩
  · rintro rfl
    rw [hlines, Log.ticks, Nat.div_zero]
    rfl
  · intro other
    rw [writeDatasets_eq, writeDatasets_eq, writeRows_eq, writeRows_eq]

end Fiction

/-- **Progress lines are the multiples of the interval, with the counts that hold there.**  This is
so for every database, whatever its tables, for every interval and for outputs with and without a
limit, whether the conversion succeeds or fails. -/
theorem progress_at_multiples (db : Database) (interval : Nat) :
    (∀ limit, ∃ n, Library.ReportsProgress db limit interval n)
    ∧ ∀ table jsonLimit customLimit, ∃ n entries,
      Fiction.ReportsProgress db table jsonLimit customLimit interval n entries :=
  ⟨fun limit => Library.exists_reportsProgress db limit interval,
    fun table jsonLimit customLimit =>
      Fiction.exists_reportsProgress db table jsonLimit customLimit interval⟩

end BookDatasets
