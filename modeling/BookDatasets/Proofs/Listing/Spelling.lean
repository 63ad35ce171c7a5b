/-
  Spellings of a listing, and that the reader undoes each of them.

  A listing has many spellings.  Each field may be QUOTED, with every quote in it doubled, or BARE
  if it begins with no quote and holds no comma and no row ending; each row may end in a line
  feed, a carriage return or both, and any number of empty lines may follow; the last row need not
  end; one byte order mark may stand in front.

  1. **Specification** — one relation for each layer: `FieldSpelling`, `RowSpelling`, `Ending`,
     `RowsSpelling`, `ListingSpelling`.
  2. **The crux** — behind a spelled field the reader stands at a place that says HOW the field was
     spelled (`bare`, `quoteSeen`, or still where the field began when it is empty and bare), but a
     comma does the same at all of them, and so does a row ending unless the row is one empty bare
     field, which would be an empty line.  So a row is read right when it has two fields or more.
  3. **Runs** — fields, rows and listings follow by induction on the spelling.
-/
import BookDatasets.Proofs.Listing.Reading

namespace BookDatasets

namespace Listing

/-! ## Spellings -/

/-- The spellings of a field. -/
inductive FieldSpelling : Bytes → Bytes → Prop where
  | quoted (field : Bytes) : FieldSpelling field (quote :: doubled field ++ [quote])
  | bare (field : Bytes)
      (hoctets : ∀ b ∈ field, b ≠ comma ∧ b ≠ lineFeed ∧ b ≠ carriageReturn)
      (hquote : field.head? ≠ some quote) : FieldSpelling field field

/-- The spellings of a row, without what ends it. -/
inductive RowSpelling : List Bytes → Bytes → Prop where
  | last {field spelling : Bytes} (h : FieldSpelling field spelling) :
      RowSpelling [field] spelling
  | more {field spelling : Bytes} {fields : List Bytes} {rest : Bytes}
      (h : FieldSpelling field spelling) (hrest : RowSpelling fields rest) :
      RowSpelling (field :: fields) (spelling ++ comma :: rest)

/-- One end of a line. -/
inductive LineEnd : Bytes → Prop where
  | lineFeed : LineEnd [lineFeed]
  | carriageReturn : LineEnd [carriageReturn]
  | both : LineEnd [carriageReturn, lineFeed]

/-- The end of a row, and any number of empty lines after it. -/
inductive Ending : Bytes → Prop where
  | line {b : Bytes} (h : LineEnd b) : Ending b
  | empty {a b : Bytes} (ha : Ending a) (h : LineEnd b) : Ending (a ++ b)

/-- The spellings of rows; the last one need not end. -/
inductive RowsSpelling : List (List Bytes) → Bytes → Prop where
  | none : RowsSpelling [] []
  | last {fields : List Bytes} {spelling : Bytes} (h : RowSpelling fields spelling) :
      RowsSpelling [fields] spelling
  | more {fields : List Bytes} {spelling ending : Bytes} {rows : List (List Bytes)} {rest : Bytes}
      (h : RowSpelling fields spelling) (hending : Ending ending) (hrest : RowsSpelling rows rest) :
      RowsSpelling (fields :: rows) (spelling ++ ending ++ rest)

/-- The byte order mark in UTF-8. -/
def byteOrderMark : Bytes := [0xEF, 0xBB, 0xBF]

/-- The spellings of a listing.  Without a mark in front, it must not begin as one does. -/
inductive ListingSpelling : List (List Bytes) → Bytes → Prop where
  | marked {rows : List (List Bytes)} {spelling : Bytes} (h : RowsSpelling rows spelling) :
      ListingSpelling rows (byteOrderMark ++ spelling)
  | unmarked {rows : List (List Bytes)} {spelling : Bytes} (h : RowsSpelling rows spelling)
      (hmark : ¬ byteOrderMark <+: spelling) : ListingSpelling rows spelling

/-! ## Fields -/

namespace Reader

theorem isBare_of_ne {b : UInt8} (h : b ≠ comma ∧ b ≠ lineFeed ∧ b ≠ carriageReturn) :
    IsBare b :=
  ⟨h.1, by simp [endsRow, h.2.1, h.2.2]⟩

/-- **A spelled field is read as the field**, and the reader stands outside quotes behind it.  It
stands before a row only if it stood there already. -/
theorem read_fieldSpelling {r : Reader} {field spelling : Bytes} (hr : r.AtField)
    (h : FieldSpelling field spelling) :
    ∃ place, place ≠ .quoted ∧ (place = .rowStart → r.place = .rowStart)
      ∧ r.read spelling
        = ({ r with place := place, field := field.reverse,
                    line := r.line + spelling.count lineFeed }, []) := by
  obtain ⟨hplace, hempty⟩ := hr
  cases h with
  | quoted =>
    refine ⟨.quoteSeen, nofun, nofun, ?_⟩
    have hinside := read_doubled (r := { r with place := .quoted }) field rfl
    have hcount : (quote :: doubled field ++ [quote]).count lineFeed = field.count lineFeed := by
      rw [List.cons_append, List.count_cons_of_ne (by decide), List.count_append, count_doubled]
      rfl
    rw [hcount, List.cons_append, read_cons_of_silent (step_quote hplace),
      read_append_of_silent hinside, read_cons_of_silent (step_closing rfl), hempty,
      List.append_nil]
    rfl
  | bare hoctets hquote =>
    have hbare : ∀ b ∈ field, IsBare b := fun b hb => isBare_of_ne (hoctets b hb)
    have hcount : field.count lineFeed = 0 :=
      List.count_eq_zero.2 fun hmem => (hoctets lineFeed hmem).2.1 rfl
    rw [hcount]
    rcases field with _ | ⟨b, field⟩
    · -- Nothing is read of an empty bare field, and the reader stays where the field began.
      refine ⟨r.place, ?_, id, ?_⟩
      · rcases hplace with h | h <;> rw [h] <;> exact nofun
      · rw [read, List.reverse_nil, ← hempty]
        rfl
    · obtain ⟨hb, hfield⟩ := List.forall_mem_cons.1 hbare
      have hne : b ≠ quote := fun h => hquote (congrArg some h)
      refine ⟨.bare, nofun, nofun, ?_⟩
      rw [read_cons_of_silent (step_first hplace hb.1 hne hb.2), read_bare rfl hfield, keep,
        hempty, List.reverse_cons]
      rfl

/-! ## Rows -/

theorem read_comma {r : Reader} (h : r.place ≠ .quoted) (rest : Bytes) :
    r.read (comma :: rest) = r.endField.read rest :=
  read_cons_of_silent (step_comma h) rest

/-- **The fields of a spelled row are read into the open row**, behind those already there.  A row
is open afterwards, unless the spelling is that of one empty bare field before a row. -/
theorem read_rowSpelling {r : Reader} {fields : List Bytes} {spelling : Bytes} (hr : r.AtField)
    (h : RowSpelling fields spelling) :
    ∃ r', r.read spelling = (r', []) ∧ r'.row.fields = r.fields.reverse ++ fields
      ∧ (r.place = .fieldStart ∨ 2 ≤ fields.length → r'.HasRow) := by
  induction h generalizing r with
  | last h =>
    obtain ⟨place, hplace, hstart, hread⟩ := read_fieldSpelling hr h
    refine ⟨_, hread, ?_, ?_⟩
    · simp [row]
    · rintro (hfield | hlength)
      · -- The reader stood behind a comma, so it stands in the row wherever it is now.
        have hne : place ≠ .rowStart := by
          intro hrow
          rw [hstart hrow] at hfield
          exact nomatch hfield
        cases place with
        | rowStart => exact absurd rfl hne
        | quoted => exact absurd rfl hplace
        | fieldStart => exact Or.inl rfl
        | bare => exact Or.inr (Or.inl rfl)
        | quoteSeen => exact Or.inr (Or.inr rfl)
      · exact absurd hlength (by simp)
  | more h _ ih =>
    obtain ⟨place, hplace, -, hread⟩ := read_fieldSpelling hr h
    -- The comma forgets how the field was spelled, and the row is open behind it.
    rw [read_append_of_silent hread, read_comma hplace]
    obtain ⟨r', hread', hrow, hopen⟩ := ih (r := endField _) ⟨Or.inr rfl, rfl⟩
    refine ⟨r', hread', ?_, fun _ => hopen (Or.inl rfl)⟩
    rw [hrow]
    simp [endField]

/-! ## Row endings -/

/-- Every octet of an ending ends a row, and there is at least one. -/
theorem endsRow_of_mem_ending {ending : Bytes} (h : Ending ending) :
    ending ≠ [] ∧ ∀ b ∈ ending, endsRow b = true := by
  have hline : ∀ {b : Bytes}, LineEnd b → b ≠ [] ∧ ∀ octet ∈ b, endsRow octet = true := by
    intro b hb
    cases hb <;> exact ⟨List.cons_ne_nil _ _, List.all_eq_true.1 (by decide)⟩
  induction h with
  | line h => exact hline h
  | empty _ h ih =>
    refine ⟨List.append_ne_nil_of_left_ne_nil ih.1 _, ?_⟩
    exact List.forall_mem_append.2 ⟨ih.2, (hline h).2⟩

theorem atRow_countLine {r : Reader} (h : r.AtRow) (b : UInt8) : (r.countLine b).AtRow := by
  rw [countLine]
  split_ifs
  · exact h
  · exact h

/-- Before a row, row endings are skipped. -/
theorem read_skip {r : Reader} {skipped : Bytes} (hr : r.AtRow)
    (h : ∀ b ∈ skipped, endsRow b = true) : ∃ r', r.read skipped = (r', []) ∧ r'.AtRow := by
  induction skipped generalizing r with
  | nil => exact ⟨r, rfl, hr⟩
  | cons b skipped ih =>
    obtain ⟨hb, hskipped⟩ := List.forall_mem_cons.1 h
    rw [read_cons_of_silent (step_skip hr.1 hb)]
    exact ih (atRow_countLine hr b) hskipped

/-- **An ending ends the open row once**, however many empty lines follow. -/
theorem read_ending {r : Reader} {ending : Bytes} (hr : r.HasRow) (h : Ending ending) :
    ∃ r', r.read ending = (r', [r.row]) ∧ r'.AtRow := by
  obtain ⟨hne, hends⟩ := endsRow_of_mem_ending h
  rcases ending with _ | ⟨b, rest⟩
  · exact absurd rfl hne
  · obtain ⟨hb, hrest⟩ := List.forall_mem_cons.1 hends
    obtain ⟨r', hread, hr'⟩ := read_skip (r := (r.countLine b).afterRow) ⟨rfl, rfl, rfl⟩ hrest
    refine ⟨r', ?_, hr'⟩
    rw [read_cons, step_endsRow hr hb, hread]
    rfl

/-! ## Listings -/

theorem finish_of_hasRow {r : Reader} (h : r.HasRow) : r.finish = [r.row] := by
  have hne : r.place ≠ .rowStart := by
    rcases h with h | h | h <;> rw [h] <;> exact nofun
  exact if_neg hne

/-- **Spelled rows are read as the rows.** -/
theorem rows_rowsSpelling {r : Reader} {rows : List (List Bytes)} {spelling : Bytes} (hr : r.AtRow)
    (hlength : ∀ fields ∈ rows, 2 ≤ fields.length) (h : RowsSpelling rows spelling) :
    (r.rows spelling).map Row.fields = rows := by
  induction h generalizing r with
  | none =>
    rw [Reader.rows, finish, if_pos hr.1]
    rfl
  | last h =>
    obtain ⟨r', hread, hrow, hopen⟩ := read_rowSpelling ⟨Or.inl hr.1, hr.2.1⟩ h
    have htwo := hlength _ (List.mem_singleton_self _)
    rw [rows_eq_read, hread, finish_of_hasRow (hopen (Or.inr htwo)), List.nil_append,
      List.map_singleton, hrow, hr.2.2]
    rfl
  | more h hending _ ih =>
    obtain ⟨htwo, hrest⟩ := List.forall_mem_cons.1 hlength
    obtain ⟨r', hread, hrow, hopen⟩ := read_rowSpelling ⟨Or.inl hr.1, hr.2.1⟩ h
    -- The ending ends this row and nothing else, so the other rows are read from a fresh reader.
    obtain ⟨r'', hend, hr''⟩ := read_ending (hopen (Or.inr htwo)) hending
    rw [List.append_assoc, rows_append, hread, List.nil_append, rows_append, hend, List.map_append,
      ih hr'' hrest, List.map_singleton, hrow, hr.2.2]
    rfl

end Reader

theorem withoutMark_of_not_prefix {b : Bytes} (h : ¬ byteOrderMark <+: b) : withoutMark b = b := by
  unfold withoutMark
  split
  · exact absurd (List.prefix_append byteOrderMark _) h
  · rfl

/-- **The reader undoes every spelling** of rows with two fields or more. -/
theorem rows_listingSpelling {rows : List (List Bytes)} {input : Bytes}
    (hlength : ∀ fields ∈ rows, 2 ≤ fields.length) (h : ListingSpelling rows input) :
    (Listing.rows input).map Row.fields = rows := by
  have hstart : Reader.start.AtRow := ⟨rfl, rfl, rfl⟩
  cases h with
  | marked h => exact Reader.rows_rowsSpelling hstart hlength h
  | unmarked h hmark =>
    rw [Listing.rows, withoutMark_of_not_prefix hmark]
    exact Reader.rows_rowsSpelling hstart hlength h

end Listing

end BookDatasets
