/-
  What the fiction datasets say.

  1. **Custom lines** — a cut of the custom output at every line feed gives one line per record.
     Each line has ONE parse, and its values, unescaped, are the texts the record was made of, less
     what `Field.strip` takes.  No text in any column can forge or hide a field or a record.
  2. **Agreement** — when a run succeeds, both outputs have one line per record of the rows in
     table order; the k-th JSON line says in label pairs what the k-th custom line says in fields.
     It does not matter whether the outputs had limits.
-/
import BookDatasets.Proofs.Fiction.Dataset
import Mathlib.Data.List.Forall2

namespace BookDatasets

namespace Fiction

/-! ## Runs on a table -/

/-- A run that succeeds had a query without a bad cell. -/
theorem exists_select_of_ok {db : Database} {table : Text} {s : Sinks} {interval : Nat}
    {counts : Counts} (h : (writeDatasets db table s interval).result = .ok counts) :
    ∃ entries : List Entry,
      db.select table selection = .ok (entries.map fun e => .ok e.columns) := by
  rcases hselect : db.select table selection with e | rows
  · rw [writeDatasets, hselect] at h
    exact nomatch h
  · rw [writeDatasets, hselect] at h
    obtain ⟨values, rfl, -, -⟩ := writeRows_ok h
    obtain ⟨entries, rfl⟩ := exists_entries hselect
    exact ⟨entries, by rw [List.map_map]; rfl⟩

/-- **A run that succeeds** has counted the entries and their records, and written these. -/
theorem writeDatasets_ok {db : Database} {table : Text} {s : Sinks} {interval : Nat}
    {counts : Counts} {entries : List Entry}
    (hselect : db.select table selection = .ok (entries.map fun e => .ok e.columns))
    (h : (writeDatasets db table s interval).result = .ok counts) :
    counts = ⟨(entries.flatMap Entry.records).length, entries.length⟩
      ∧ Grown s (writeDatasets db table s interval).sinks (entries.flatMap Entry.records) := by
  rw [writeDatasets, hselect] at h ⊢
  obtain ⟨values, hvalues, hcounts, hgrown⟩ := writeRows_ok h
  -- The rows that were written are those of the query, so they are the columns of the entries.
  have hcolumns : entries.map Entry.columns = values := by
    have hinj : Function.Injective (Except.ok : List (Option Text) → Table.Fetched) := by
      intro a b hab
      exact Except.ok.inj hab
    apply List.map_injective_iff.2 hinj
    rw [← hvalues, List.map_map]
    rfl
  rw [← hcolumns, recordsOf_columns] at hcounts hgrown
  rw [List.length_map, Nat.zero_add, Nat.zero_add] at hcounts
  exact ⟨hcounts, hgrown⟩

/-- Without limits the datasets of a query without a bad cell are written to the end. -/
theorem writeDatasets_unlimited {db : Database} {table : Text} {entries : List Entry}
    (interval : Nat)
    (hselect : db.select table selection = .ok (entries.map fun e => .ok e.columns)) :
    ∃ counts, (writeDatasets db table ⟨.unlimited, .unlimited⟩ interval).result = .ok counts := by
  obtain ⟨counts, hcounts⟩ := writeRows_unlimited (s := ⟨.unlimited, .unlimited⟩) interval ⟨0, 0⟩
    ⟨rfl, rfl⟩ (entries.map Entry.columns)
  refine ⟨counts, ?_⟩
  rw [writeDatasets, hselect]
  rw [List.map_map] at hcounts
  exact hcounts

/-! ## Cutting the custom output -/

/-- The line of each record parses as its fields. -/
theorem parse_of_mem_flatMap {entries : List Entry} {record : Record}
    (h : record ∈ entries.flatMap Entry.records) :
    CustomLine.Parse record.fields (CustomLine.text record.fields) := by
  obtain ⟨e, -, hrecord⟩ := List.mem_flatMap.1 h
  exact Entry.parse_of_mem hrecord

/-- A cut of the custom output at every line feed gives its lines back. -/
theorem splitOn_customLines (entries : List Entry) :
    (Bytes.ofLines (customLines (entries.flatMap Entry.records))).splitOn 0x0A
      = customLines (entries.flatMap Entry.records) ++ [[]] := by
  apply Bytes.splitOn_ofLines
  intro line hline
  obtain ⟨record, hrecord, rfl⟩ := List.mem_map.1 hline
  exact CustomLine.lineFeed_not_mem (parse_of_mem_flatMap hrecord)

/-! ## Custom lines -/

/-- The line has one parse; its names are those of the columns, and its values, unescaped, are the
sources without line feeds and trimmed. -/
def Says (line : Bytes) (sources : List Text) : Prop :=
  ∃ fields, (∀ other, CustomLine.Reads other line ↔ other = fields)
    ∧ fields.map Prod.fst = columnNames
    ∧ (fields.map fun field => Field.unescape field.2) = sources.map Field.strip

/-- The sources of an entry's records, one list for each author token. -/
def Entry.recordSources (e : Entry) : List (List Text) :=
  (Author.tokens e.authors).map e.sources

theorem says_records (e : Entry) : List.Forall₂ Says (customLines e.records) e.recordSources := by
  have hparse : ∀ r ∈ e.records, CustomLine.Parse r.fields (CustomLine.text r.fields) := by
    intro r hr
    exact Entry.parse_of_mem hr
  -- Lines and sources are now two maps over the author tokens.
  rw [Entry.records_eq] at hparse ⊢
  rw [customLines, List.map_map, Entry.recordSources, List.forall₂_map_left_iff,
    List.forall₂_map_right_iff, List.forall₂_same]
  intro token htoken
  have hone := hparse _ (List.mem_map_of_mem htoken)
  refine ⟨_, fun other => CustomLine.reads_iff hone, Record.map_fst_fields _, ?_⟩
  rw [← Entry.unescape_values, ← Record.map_snd_fields, List.map_map]
  rfl

theorem says_entries (entries : List Entry) :
    List.Forall₂ Says (customLines (entries.flatMap Entry.records))
      (entries.flatMap Entry.recordSources) := by
  induction entries with
  | nil => exact .nil
  | cons e entries ih =>
    rw [List.flatMap_cons, List.flatMap_cons, customLines, List.map_append]
    exact List.rel_append (says_records e) ih

/-- **Custom lines read back without ambiguity.**  When the query delivers entries, a run without
limits succeeds; its custom output, cut at every line feed, has one line per record; and each
line's only parse says the names and the details of its record. -/
theorem custom_lines_read_back {db : Database} {table : Text} {entries : List Entry}
    (interval : Nat)
    (h : db.select table selection = .ok (entries.map fun e => .ok e.columns)) :
    ∃ counts lines,
      (writeDatasets db table ⟨.unlimited, .unlimited⟩ interval).result = .ok counts
      ∧ (writeDatasets db table ⟨.unlimited, .unlimited⟩ interval).sinks.custom.taken.splitOn 0x0A
        = lines ++ [[]]
      ∧ lines.length = (entries.flatMap Entry.records).length
      ∧ List.Forall₂ Says lines (entries.flatMap Entry.recordSources) := by
  obtain ⟨counts, hok⟩ := writeDatasets_unlimited interval h
  obtain ⟨-, hgrown⟩ := writeDatasets_ok h hok
  refine ⟨counts, customLines (entries.flatMap Entry.records), hok, ?_, List.length_map _,
    says_entries entries⟩
  rw [hgrown.custom]
  exact splitOn_customLines entries

/-- A table of two rows, full of what could be taken for the marks of a line. -/
def shelf : Database :=
  ⟨[.plain "fiction".toList
      ["Title".toList, "author".toList, "Year".toList, "Language".toList, "Extension".toList,
        "Publisher".toList, "Edition".toList]
      [[.text " \\\"\x7d\n\x7bx=\"".toList, .text "A\n, \"a\";B\\".toList, .integer 1999, .null,
          .null, .text [], .text "\\".toList],
        [.null, .null, .null, .text "en".toList, .null, .null, .null]]], []⟩

/-- What the query delivers of it. -/
def shelfEntries : List Entry :=
  [⟨some "A\n, \"a\";B\\".toList, none, some "1999".toList, none,
      some " \\\"\x7d\n\x7bx=\"".toList, some [], some "\\".toList⟩,
   ⟨none, some "en".toList, none, none, none, none, none⟩]

theorem custom_lines_of_shelf :
    shelf.select "Fiction".toList selection = .ok (shelfEntries.map fun e => .ok e.columns)
    ∧ ∃ counts lines,
      (writeDatasets shelf "Fiction".toList ⟨.unlimited, .unlimited⟩ 0).result = .ok counts
      ∧ (writeDatasets shelf "Fiction".toList ⟨.unlimited, .unlimited⟩ 0).sinks.custom.taken.splitOn
          0x0A = lines ++ [[]]
      ∧ lines.length = (shelfEntries.flatMap Entry.records).length
      ∧ List.Forall₂ Says lines (shelfEntries.flatMap Entry.recordSources) :=
  ⟨rfl, custom_lines_read_back 0 rfl⟩

/-! ## Agreement -/

theorem length_flatMap_records (entries : List Entry) :
    (entries.flatMap Entry.records).length
      = (entries.map fun e => 1 + e.authors.count Author.separator).sum := by
  rw [List.length_flatMap]
  congr 1
  apply List.map_congr_left
  intro e _
  exact e.length_records

/-- A JSON line and a custom line say what a record has: eight names and values, read from the
custom line in the only way there is and from the JSON line as label pairs without a null. -/
structure LinesAgree (jsonLine customLine : Bytes) (record : Record) : Prop where
  custom : ∀ fields, CustomLine.Reads fields customLine ↔ fields = record.fields
  eight : record.fields.length = 8
  json : LabelRecord.read? jsonLine
    = some ⟨"label_pairs".toList, record.fields.map fun field => ⟨field.1, some field.2⟩⟩

/-- What is left behind by the datasets of entries: the counts of the entries and of their records,
as many for each as its author column has semicolons and one more; and in both outputs one line
per record, in table order, the k-th lines in agreement. -/
structure Agree (entries : List Entry) (sinks : Sinks) (counts : Counts) : Prop where
  rows : counts.rows = entries.length
  records : counts.records = (entries.map fun e => 1 + (e.author.getD []).count ';').sum
  lines : ∃ jsonLines customLines,
    sinks.json.taken.splitOn 0x0A = jsonLines ++ [[]] ∧ jsonLines.length = counts.records
    ∧ sinks.custom.taken.splitOn 0x0A = customLines ++ [[]] ∧ customLines.length = counts.records
    ∧ ∀ k < counts.records, ∃ jsonLine customLine record,
      jsonLines[k]? = some jsonLine ∧ customLines[k]? = some customLine
      ∧ (entries.flatMap fun e => (Row.ofColumns e.columns).explode)[k]? = some record
      ∧ LinesAgree jsonLine customLine record

theorem linesAgree_of_parse {record : Record}
    (h : CustomLine.Parse record.fields (CustomLine.text record.fields)) :
    LinesAgree record.labels.toJson.bytes (Utf8.encode (CustomLine.text record.fields)) record := by
  constructor
  · intro fields
    exact CustomLine.reads_iff h
  · rfl
  · rw [LabelRecord.read?_bytes, Record.labels_eq]
    rfl

/-- **The two datasets agree.**  A run that succeeds, with limits or without, had a query of
entries, and its outputs agree about these. -/
theorem datasets_agree {db : Database} {table : Text} {jsonLimit customLimit : Option Nat}
    {interval : Nat} {counts : Counts}
    (h : (writeDatasets db table ⟨.ofLimit jsonLimit, .ofLimit customLimit⟩ interval).result
      = .ok counts) :
    ∃ entries : List Entry, db.select table selection = .ok (entries.map fun e => .ok e.columns)
      ∧ Agree entries
          (writeDatasets db table ⟨.ofLimit jsonLimit, .ofLimit customLimit⟩ interval).sinks
          counts := by
  obtain ⟨entries, hselect⟩ := exists_select_of_ok h
  obtain ⟨rfl, hgrown⟩ := writeDatasets_ok hselect h
  refine ⟨entries, hselect, rfl, length_flatMap_records entries,
    jsonLines (entries.flatMap Entry.records), customLines (entries.flatMap Entry.records),
    ?_, length_jsonLines _, ?_, List.length_map _, ?_⟩
  · rw [hgrown.json]
    exact LabelRecord.splitOn_lines _
  · rw [hgrown.custom]
    exact splitOn_customLines entries
  · intro k hk
    obtain ⟨record, hrecord⟩ : ∃ record, (entries.flatMap Entry.records)[k]? = some record :=
      ⟨_, List.getElem?_eq_getElem hk⟩
    have hparse := parse_of_mem_flatMap (List.mem_of_getElem? hrecord)
    refine ⟨_, _, record, ?_, ?_, hrecord, linesAgree_of_parse hparse⟩
    · rw [jsonLines, LabelRecord.lines, List.getElem?_map, List.getElem?_map, hrecord]
      rfl
    · rw [customLines, List.getElem?_map, hrecord, Option.map_some]

theorem datasets_agree_on_shelf :
    (writeDatasets shelf "Fiction".toList ⟨.ofLimit (some 4000), .ofLimit none⟩ 1).result
      = .ok ⟨3, 2⟩
    ∧ ∃ entries : List Entry,
      shelf.select "Fiction".toList selection = .ok (entries.map fun e => .ok e.columns)
      ∧ Agree entries
          (writeDatasets shelf "Fiction".toList ⟨.ofLimit (some 4000), .ofLimit none⟩ 1).sinks
          ⟨3, 2⟩ :=
  ⟨rfl, datasets_agree rfl⟩

end Fiction

end BookDatasets
