/-
  Fiction rows as the query delivers them, and their records.

  1. **Entry** — seven columns, each null or a text.  Whatever a query delivers without a bad cell
     is a list of entries, and every list of entries is delivered by some query.  The author column
     is selected twice, so both sources of a row are ONE column, and the given tokens never run out
     before the family tokens: the i-th record has both names from the i-th token
     (`Entry.records_eq`).
  2. **Sources** — the texts that a record's values are made of.  The record forgets of each what
     `Field.strip` forgets, and nothing else.
  3. **Fields** — a record's names and values are what a custom line can hold, and its label pairs
     are its fields again.
-/
import BookDatasets.Fiction.Dataset
import BookDatasets.Proofs.CustomLine
import BookDatasets.Proofs.Table.Query
import Mathlib.Data.Set.List

namespace BookDatasets

namespace Fiction

/-! ## Entries -/

/-- What the selected columns say of one row. -/
structure Entry where
  author : Option Text
  language : Option Text
  year : Option Text
  extension : Option Text
  title : Option Text
  publisher : Option Text
  edition : Option Text
  deriving DecidableEq, Repr

namespace Entry

/-- The columns as the query delivers them, the author twice. -/
def columns (e : Entry) : List (Option Text) :=
  [e.author, e.author, e.language, e.year, e.extension, e.title, e.publisher, e.edition]

/-- The author column; a null is an empty one. -/
def authors (e : Entry) : Text := e.author.getD []

/-- The six columns that all authors share. -/
def details (e : Entry) : Details :=
  ⟨e.language.getD [], e.year.getD [], e.extension.getD [], e.title.getD [], e.publisher.getD [],
    e.edition.getD []⟩

/-- The eight texts that the record of an author token is made of. -/
def sources (e : Entry) (token : Text) : List Text :=
  Author.family token :: Author.given token :: e.details.toList

/-- The records of an entry. -/
def records (e : Entry) : List Record := (Row.ofColumns e.columns).explode

end Entry

/-- A row of the query without a bad cell is an entry. -/
theorem exists_entry {db : Database} {table : Text} {rows : List Table.Fetched}
    {values : List (Option Text)} (h : db.select table selection = .ok rows)
    (hrow : Except.ok values ∈ rows) : ∃ e : Entry, e.columns = values := by
  obtain ⟨f, rfl⟩ := Database.select_row h hrow
  -- The first two columns have one name, so `f` gives them one text.
  exact ⟨⟨f "Author".toList, f "Language".toList, f "Year".toList, f "Extension".toList,
    f "Title".toList, f "Publisher".toList, f "Edition".toList⟩, rfl⟩

/-- The rows of a query without a bad cell are entries. -/
theorem exists_entries {db : Database} {table : Text} {values : List (List (Option Text))}
    (h : db.select table selection = .ok (values.map .ok)) :
    ∃ entries : List Entry, entries.map Entry.columns = values := by
  have hmem : ∀ value ∈ values, value ∈ Set.range Entry.columns := by
    intro value hvalue
    exact exists_entry h (List.mem_map_of_mem hvalue)
  rw [← Set.mem_range, Set.range_list_map]
  exact hmem

/-- A database with one table, whose rows are entries. -/
def holding (entries : List Entry) : Database :=
  ⟨[.plain "fiction".toList
      ["Author".toList, "Language".toList, "Year".toList, "Extension".toList, "Title".toList,
        "Publisher".toList, "Edition".toList]
      (entries.map fun e => (e.columns.drop 1).map Table.Cell.ofText?)], []⟩

/-- **Every list of entries is delivered by a query**, nulls as nulls and texts as they are. -/
theorem select_holding (entries : List Entry) :
    (holding entries).select "fiction".toList selection
      = .ok (entries.map fun e => .ok e.columns) := by
  have hrow : ∀ e : Entry,
      Table.fetchFrom 0 (Table.pick [0, 0, 1, 2, 3, 4, 5, 6]
        ((e.columns.drop 1).map Table.Cell.ofText?)) = .ok e.columns := by
    intro e
    simp [Entry.columns, Table.pick, Table.fetchFrom, Table.Cell.asText_ofText?, Except.map]
  have hselect : (holding entries).select "fiction".toList selection
      = .ok ((entries.map fun e => (e.columns.drop 1).map Table.Cell.ofText?).map fun row =>
          Table.fetchFrom 0 (Table.pick [0, 0, 1, 2, 3, 4, 5, 6] row)) :=
    rfl
  rw [hselect, List.map_map]
  congr 1
  apply List.map_congr_left
  intro e _
  exact hrow e

/-! ## Explosion -/

theorem explodeTokens_self (details : Details) (tokens : List Text) :
    explodeTokens details tokens tokens
      = tokens.map fun token =>
          Record.normalized (Author.family token) (Author.given token) details := by
  induction tokens with
  | nil => rfl
  | cons token tokens ih => rw [explodeTokens, ih, List.map_cons]

/-- **One record per author token**, both names from that token. -/
theorem Entry.records_eq (e : Entry) :
    e.records = (Author.tokens e.authors).map fun token =>
      Record.normalized (Author.family token) (Author.given token) e.details :=
  explodeTokens_self e.details (Author.tokens e.authors)

theorem length_tokens (column : Text) :
    (Author.tokens column).length = 1 + column.count Author.separator := by
  induction column with
  | nil => rfl
  | cons c column ih =>
    rw [Author.tokens, List.splitOn_cons_eq_if_modifyHead, ← Author.tokens, List.count_cons]
    split_ifs with hc
    · rw [List.length_cons, ih, Nat.add_assoc]
    · rw [List.length_modifyHead, ih, Nat.add_zero]

theorem Entry.length_records (e : Entry) :
    e.records.length = 1 + e.authors.count Author.separator := by
  rw [records_eq, List.length_map, length_tokens]

/-! ## Fields -/

theorem isName_columnNames : ∀ name ∈ columnNames, CustomLine.IsName name := by
  have hchars : ∀ name ∈ columnNames, name ≠ [] ∧ name.all CustomLine.isNameChar = true := by
    decide
  intro name hname
  obtain ⟨hne, hall⟩ := hchars name hname
  exact ⟨hne, List.all_eq_true.1 hall⟩

theorem Record.length_values (r : Record) : r.values.length = columnNames.length := rfl

theorem Record.map_fst_fields (r : Record) : r.fields.map Prod.fst = columnNames :=
  List.map_fst_zip (le_of_eq r.length_values.symm)

theorem Record.map_snd_fields (r : Record) : r.fields.map Prod.snd = r.values :=
  List.map_snd_zip (le_of_eq r.length_values)

/-- The label pairs of a record are its fields. -/
theorem Record.labels_eq (r : Record) :
    r.labels = ⟨labelPairsKey, r.fields.map fun field => ⟨field.1, some field.2⟩⟩ :=
  rfl

/-- The values of a normalized record are the normalized parts. -/
theorem Record.values_normalized (family given : Text) (details : Details) :
    (Record.normalized family given details).values
      = (family :: given :: details.toList).map Field.normalize :=
  rfl

/-- Each field of an entry's record is one that a line can hold. -/
theorem Entry.isField_of_mem {e : Entry} {r : Record} (h : r ∈ e.records) :
    ∀ field ∈ r.fields, CustomLine.IsField field := by
  rw [records_eq] at h
  obtain ⟨token, -, rfl⟩ := List.mem_map.1 h
  intro field hfield
  have hname := List.mem_map_of_mem (f := Prod.fst) hfield
  have hvalue := List.mem_map_of_mem (f := Prod.snd) hfield
  rw [Record.map_fst_fields] at hname
  rw [Record.map_snd_fields, Record.values_normalized] at hvalue
  obtain ⟨raw, -, hraw⟩ := List.mem_map.1 hvalue
  refine ⟨isName_columnNames _ hname, ?_⟩
  rw [← hraw]
  exact Field.isBody_normalize raw

/-- Its line parses as its fields. -/
theorem Entry.parse_of_mem {e : Entry} {r : Record} (h : r ∈ e.records) :
    CustomLine.Parse r.fields (CustomLine.text r.fields) :=
  CustomLine.parse_text (List.cons_ne_nil _ _) (isField_of_mem h)

/-- What is read back of the values of an author token's record. -/
theorem Entry.unescape_values (e : Entry) (token : Text) :
    (Record.normalized (Author.family token) (Author.given token) e.details).values.map
      Field.unescape = (e.sources token).map Field.strip := by
  rw [Record.values_normalized, List.map_map]
  apply List.map_congr_left
  intro raw _
  exact Field.unescape_normalize raw

end Fiction

end BookDatasets
