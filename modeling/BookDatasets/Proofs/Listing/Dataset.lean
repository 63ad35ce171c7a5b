/-
  The listing dataset undoes every spelling of a listing.

  1. **A row** — `shown` is the record of a row's fields.  A row with seven fields has it, and it
     does not depend on the row's line number.
  2. **A run** — without a limit, rows with seven fields each are all written, one line a row, in
     order (`writeRows_unlimited`).
  3. **The whole way** — spelled rows are read as the rows (`rows_listingSpelling`), written as
     their records' lines, and these read back as the records.
-/
import BookDatasets.Proofs.Listing.Run
import BookDatasets.Proofs.Listing.Spelling
import Mathlib.Data.Bool.AllAny

namespace BookDatasets

namespace Listing

/-! ## A row -/

/-- The record of a row: its fields at the positions 3 to 6, each octet the character with its
number. -/
def shown (fields : List Bytes) : LabelRecord :=
  ⟨"label_pair".toList,
    [⟨"title".toList, some (Latin1.decode (fields.getD 3 []))⟩,
     ⟨"author".toList, some (Latin1.decode (fields.getD 4 []))⟩,
     ⟨"category_id".toList, some (Latin1.decode (fields.getD 5 []))⟩,
     ⟨"category".toList, some (Latin1.decode (fields.getD 6 []))⟩]⟩

theorem labels_of_long {row : Row} (h : minFields ≤ row.fields.length) :
    row.labels = .ok (shown row.fields) := by
  have hlong : ¬ row.fields.length < minFields := Nat.not_lt.2 h
  rw [Row.labels, if_neg hlong]
  rfl

/-- Rows with the same fields have the same records. -/
theorem map_shown_congr {rows rows' : List Row} (h : rows.map Row.fields = rows'.map Row.fields) :
    (rows.map fun row => shown row.fields) = rows'.map fun row => shown row.fields := by
  have hmap := congrArg (List.map shown) h
  rw [List.map_map, List.map_map] at hmap
  exact hmap

/-! ## A run -/

/-- **Without a limit all rows are written**, when each has seven fields. -/
theorem writeRows_unlimited {s : Sink} {rows : List Row} (count : Nat) (hs : s.room = none)
    (h : ∀ row ∈ rows, minFields ≤ row.fields.length) :
    ∃ s', writeRows count s rows = (s', .ok (count + rows.length))
      ∧ s'.taken = s.taken
          ++ Bytes.ofLines (LabelRecord.lines (rows.map fun row => shown row.fields)) := by
  have hlabels : rows.map Row.labels = (rows.map fun row => shown row.fields).map .ok := by
    rw [List.map_map]
    exact List.map_congr_left fun row hrow => labels_of_long (h row hrow)
  obtain ⟨s', hrun, htaken⟩ := s.writeLines_unlimited hs (lineValues rows)
  refine ⟨s', ?_, ?_⟩
  · rw [writeRows_eq, Sink.writeThen, hrun, ending, hlabels, Answers.outcome_map_ok]
    rfl
  · rw [htaken, lineValues, hlabels, Answers.before_map_ok, LabelRecord.lines, List.map_map]
    rfl

/-! ## The whole way -/

/-- **The conversion undoes every spelling.**  A listing of rows with seven fields or more, spelled
in any way, is converted without fail; the answer is the number of rows; and the output is one
line per row, in order, which reads back as the record of the row's fields. -/
theorem writeDataset_of_spelling {rows : List (List Bytes)} {input : Bytes}
    (hlength : ∀ fields ∈ rows, 7 ≤ fields.length) (h : ListingSpelling rows input) :
    ∃ s lines, writeDataset input .unlimited = (s, .ok rows.length)
      ∧ s.taken.splitOn 0x0A = lines ++ [[]]
      ∧ lines.map LabelRecord.read? = rows.map fun fields => some (shown fields) := by
  have htwo : ∀ fields ∈ rows, 2 ≤ fields.length := by
    intro fields hfields
    exact le_trans (by decide) (hlength fields hfields)
  have hread : (Listing.rows input).map Row.fields = rows := rows_listingSpelling htwo h
  have hlong : ∀ row ∈ Listing.rows input, minFields ≤ row.fields.length := by
    intro row hrow
    have hmem : row.fields ∈ (Listing.rows input).map Row.fields := List.mem_map_of_mem hrow
    rw [hread] at hmem
    exact hlength _ hmem
  obtain ⟨s, hrun, htaken⟩ := writeRows_unlimited (s := .unlimited) 0 rfl hlong
  have hcount : 0 + (Listing.rows input).length = rows.length := by
    rw [Nat.zero_add, ← hread, List.length_map]
  have hshown : ((Listing.rows input).map fun row => shown row.fields) = rows.map shown := by
    rw [← hread, List.map_map]
    rfl
  refine ⟨s, LabelRecord.lines (rows.map shown), ?_, ?_, ?_⟩
  · rw [writeDataset, hrun, hcount]
  · rw [htaken, hshown]
    exact LabelRecord.splitOn_lines _
  · rw [LabelRecord.map_read?_lines, List.map_map]
    rfl

/-- Two rows with commas, quotes and row endings in their fields, the second with a field to
spare. -/
def mixedRows : List (List Bytes) :=
  [[[], [quote, lineFeed], [0x31], [0xE9, comma], [0x41, quote], [], [0x43]],
   [[0x32], [], [], [quote, quote], [carriageReturn], [0x39], [0x44], [0x45]]]

/-- A spelling of them with a byte order mark, an empty line and an unended last row. -/
def mixedListing : Bytes :=
  byteOrderMark ++ Utf8.encode ",\"\"\"\n\",1,\"".toList ++ [0xE9]
    ++ Utf8.encode ",\",A\",,C\r\n\n2,,\"\",\"\"\"\"\"\",\"\r\",9,D,E".toList

theorem mixedRows_spelling : ListingSpelling mixedRows mixedListing := by
  have hplain : ∀ field : Bytes,
      field.all (fun b => decide (b ≠ comma ∧ b ≠ lineFeed ∧ b ≠ carriageReturn)) = true
        ∧ field.head? ≠ some quote → FieldSpelling field field := by
    intro field h
    exact .bare field (List.all_iff_forall_prop.1 h.1) h.2
  have hfirst := RowSpelling.more (hplain [] (by decide)) <| .more (.quoted [quote, lineFeed]) <|
    .more (hplain [0x31] (by decide)) <| .more (.quoted [0xE9, comma]) <|
    .more (hplain [0x41, quote] (by decide)) <| .more (hplain [] (by decide)) <|
    .last (hplain [0x43] (by decide))
  have hsecond := RowSpelling.more (hplain [0x32] (by decide)) <|
    .more (hplain [] (by decide)) <| .more (.quoted []) <| .more (.quoted [quote, quote]) <|
    .more (.quoted [carriageReturn]) <| .more (hplain [0x39] (by decide)) <|
    .more (hplain [0x44] (by decide)) <| .last (hplain [0x45] (by decide))
  have hspelling := ListingSpelling.marked <|
    RowsSpelling.more hfirst (.empty (.line .both) .lineFeed) (.last hsecond)
  have hbytes : ∀ b, b = mixedListing → ListingSpelling mixedRows b →
      ListingSpelling mixedRows mixedListing := by
    rintro b rfl h
    exact h
  exact hbytes _ (by decide +kernel) hspelling

theorem writeDataset_of_mixedListing :
    ListingSpelling mixedRows mixedListing
    ∧ ∃ s lines, writeDataset mixedListing .unlimited = (s, .ok 2)
      ∧ s.taken.splitOn 0x0A = lines ++ [[]]
      ∧ lines.map LabelRecord.read? = mixedRows.map fun fields => some (shown fields) :=
  ⟨mixedRows_spelling, writeDataset_of_spelling (by decide) mixedRows_spelling⟩

end Listing

end BookDatasets
