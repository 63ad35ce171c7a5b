/-
  The library dataset loses nothing.

  1. **A run** — writing rows is writing the lines of those before the first bad one, and the run
     ends with that row's error or with the number of all (`writeRows_eq`).  The progress events are
     beside the point here: they go along with a run and change neither output nor answer.
  2. **A line** — `Shows` says what a line is to say about a row, with every column of the book table
     set against the key that its values stand under.  A record pairs keys and values by POSITION,
     and a row has a value for each column, so no pair is left out.
  3. **Back again** — the output tells its rows: cut into lines and read, it gives the values of each
     row, nulls as nulls.  So equal outputs are outputs of equal rows.
-/
import BookDatasets.Library.Dataset
import BookDatasets.Proofs.Answers
import BookDatasets.Proofs.Json.Run
import BookDatasets.Proofs.Table.Reading

namespace BookDatasets

namespace Library

/-! ## A run -/

/-- Output and answer of a run, without its events. -/
def Writing.outcome (w : Writing) : Sink × Except ConvertError Nat := (w.sink, w.result)

/-- The JSON value of a row's line. -/
def lineValue (values : List (Option Text)) : Json := (labels values).toJson

/-- **Writing rows** is writing lines and an ending: the lines of the rows before the first bad one,
and then its error, or the number of rows when there is none. -/
theorem writeRows_eq (interval count : Nat) (s : Sink) (rows : List Table.Fetched) :
    (writeRows interval count s rows).outcome
      = s.writeThen ((Answers.before rows).map lineValue)
          ((Answers.outcome (count + rows.length) rows).mapError SqlError.toConvert) := by
  induction rows generalizing count s with
  | nil => rfl
  | cons row rows ih =>
    cases row with
    | error e => rfl
    | ok values =>
      rw [Answers.before, Answers.outcome, List.map_cons, Sink.writeThen_cons, writeRows, lineValue]
      rcases s.writeJson (labels values).toJson with ⟨s', e | ⟨⟩⟩
      · rfl
      · have hcount : count + (Except.ok values :: rows).length = count + 1 + rows.length := by
          rw [List.length_cons]
          omega
        rw [hcount]
        exact ih (count + 1) s'

/-- Without a limit rows that are all values are written to the end. -/
theorem writeRows_unlimited (interval : Nat) (books : List (List (Option Text))) :
    (writeRows interval 0 .unlimited (books.map .ok)).result = .ok books.length
      ∧ (writeRows interval 0 .unlimited (books.map .ok)).sink.taken
        = Bytes.ofLines (LabelRecord.lines (books.map labels)) := by
  have hrun := writeRows_eq interval 0 .unlimited (books.map .ok)
  rw [Answers.before_map_ok, Answers.outcome_map_ok] at hrun
  obtain ⟨s, hending, htaken⟩ := Sink.writeThen_unlimited (books.map lineValue)
    ((Except.ok (0 + (books.map (Except.ok : _ → Table.Fetched)).length)).mapError SqlError.toConvert)
  rw [hending] at hrun
  obtain ⟨hsink, hresult⟩ := Prod.mk.inj hrun
  constructor
  · rw [hresult, List.length_map, Nat.zero_add]
    rfl
  · rw [hsink, htaken, LabelRecord.lines, List.map_map, List.map_map]
    rfl

/-! ## A line -/

/-- Each column of the book table with the key that its values stand under. -/
def keyed : List (Text × Text) :=
  [("AuthorFamilyName".toList, "author_family_name".toList),
   ("AuthorName".toList, "author_first_name".toList),
   ("AuthorSurname".toList, "author_surname".toList), ("Language".toList, "language".toList),
   ("Year".toList, "year".toList), ("Extension".toList, "extension".toList),
   ("Title".toList, "title".toList), ("Publisher".toList, "publisher".toList),
   ("Edition".toList, "edition".toList)]

/-- The line says what the row says: read back it is a record with the nine keys in order, and its
values are those of the row, a null as null. -/
def Shows (line : Bytes) (book : List (Option Text)) : Prop :=
  ∃ pairs, LabelRecord.read? line = some ⟨"label_pair".toList, pairs⟩
    ∧ pairs.map LabelPair.key = keyed.map Prod.snd
    ∧ pairs.map LabelPair.val = book

/-- The pairs of a row with a value for each key leave out none of them. -/
theorem map_key_labels {book : List (Option Text)} (h : book.length = columnNames.length) :
    (labels book).pairs.map LabelPair.key = columnNames := by
  rw [labels, LabelRecord.zipped, List.map_map]
  exact List.map_fst_zip (le_of_eq h.symm)

theorem map_val_labels {book : List (Option Text)} (h : book.length = columnNames.length) :
    (labels book).pairs.map LabelPair.val = book := by
  rw [labels, LabelRecord.zipped, List.map_map]
  exact List.map_snd_zip (le_of_eq h)

theorem shows_line {book : List (Option Text)} (h : book.length = columnNames.length) :
    Shows (labels book).toJson.bytes book := by
  refine ⟨(labels book).pairs, ?_, ?_, ?_⟩
  · rw [LabelRecord.read?_bytes]
    rfl
  · exact map_key_labels h
  · exact map_val_labels h

/-- A line says one row only. -/
theorem Shows.unique {line : Bytes} {book book' : List (Option Text)} (h : Shows line book)
    (h' : Shows line book') : book = book' := by
  obtain ⟨pairs, hread, -, rfl⟩ := h
  obtain ⟨pairs', hread', -, rfl⟩ := h'
  have hrecord := Option.some.inj (hread.symm.trans hread')
  obtain rfl : pairs = pairs' := congrArg LabelRecord.pairs hrecord
  rfl

/-! ## The whole dataset -/

/-- The output has one line per row, in order, each saying what its row says. -/
def Keeps (output : Bytes) (books : List (List (Option Text))) : Prop :=
  ∃ lines, output.splitOn 0x0A = lines ++ [[]] ∧ List.Forall₂ Shows lines books

/-- An output keeps one list of rows only. -/
theorem Keeps.unique {output : Bytes} {books books' : List (List (Option Text))}
    (h : Keeps output books) (h' : Keeps output books') : books = books' := by
  obtain ⟨lines, hcut, hshows⟩ := h
  obtain ⟨lines', hcut', hshows'⟩ := h'
  have hlines : lines = lines' := List.append_cancel_right (hcut.symm.trans hcut')
  subst hlines
  have hunique : Relator.RightUnique Shows := fun _ _ _ => Shows.unique
  exact hunique.forall₂ hshows hshows'

/-- **What a readable book table is turned into**: a success with the number of rows, and an output
that keeps them. -/
theorem writeDataset_of_reads {db : Database} {books : List (List (Option Text))} (interval : Nat)
    (h : db.Reads Table.bookName Table.bookColumns books) :
    (writeDataset db .unlimited interval).result = .ok books.length
      ∧ (writeDataset db .unlimited interval).sink.taken
        = Bytes.ofLines (LabelRecord.lines (books.map labels))
      ∧ Keeps (writeDataset db .unlimited interval).sink.taken books := by
  have hselect : db.select Table.bookName Table.bookColumns = .ok (books.map .ok) :=
    (Database.select_eq_ok_iff (by decide) (by decide)).2 h
  have hlength : ∀ book ∈ books, book.length = columnNames.length := by
    obtain ⟨t, -, hreads⟩ := h
    intro book hbook
    calc book.length = Table.bookColumns.length := hreads.length_row book hbook
      _ = 9 := rfl
      _ = columnNames.length := rfl
  obtain ⟨hresult, houtput⟩ := writeRows_unlimited interval books
  have hrun : writeDataset db .unlimited interval
      = writeRows interval 0 .unlimited (books.map .ok) := by
    rw [writeDataset, hselect, writeFrom]
  rw [hrun]
  refine ⟨hresult, houtput, LabelRecord.lines (books.map labels), ?_, ?_⟩
  · rw [houtput]
    exact LabelRecord.splitOn_lines _
  · rw [LabelRecord.lines, List.map_map, List.forall₂_map_left_iff, List.forall₂_same]
    intro book hbook
    exact shows_line (hlength book hbook)

/-- **The library dataset loses nothing.**  A book table whose cells all have a text, or are null, is
converted without fail; the answer is the number of its rows; the output has one line per row, in
table order, with the nine keys and the row's nine values.  And two such tables have the same output
exactly when they have the same rows, read as text. -/
theorem writeDataset_loses_nothing {db db' : Database} {books books' : List (List (Option Text))}
    (interval interval' : Nat) (h : db.Reads "book".toList (keyed.map Prod.fst) books)
    (h' : db'.Reads "book".toList (keyed.map Prod.fst) books') :
    ((writeDataset db .unlimited interval).result = .ok books.length
      ∧ Keeps (writeDataset db .unlimited interval).sink.taken books)
    ∧ ((writeDataset db .unlimited interval).sink.taken
        = (writeDataset db' .unlimited interval').sink.taken ↔ books = books') := by
  obtain ⟨hresult, houtput, hkeeps⟩ := writeDataset_of_reads interval h
  obtain ⟨-, houtput', hkeeps'⟩ := writeDataset_of_reads interval' h'
  refine ⟨⟨hresult, hkeeps⟩, ?_, ?_⟩
  · intro heq
    rw [← heq] at hkeeps'
    exact hkeeps.unique hkeeps'
  · rintro rfl
    rw [houtput, houtput']

/-- A book table of texts and nulls. -/
def cards : Database :=
  ⟨[{ Table.book with rows :=
      [[.text " Doe".toList, .null, .text "null".toList, .text [], .text "1999".toList,
          .text "pdf\n".toList, .text "\"\\é😀".toList, .null, .null]] }], []⟩

/-- A book table with its columns in another order and of any kind; it has no surname where the
other one has the text `null`. -/
def pile : Database :=
  ⟨[.plain "Book".toList
      ["Year".toList, "Shelf".toList, "Title".toList, "AUTHORNAME".toList, "AuthorSurname".toList,
        "AuthorFamilyName".toList, "Language".toList, "Extension".toList, "Publisher".toList,
        "Edition".toList]
      [[.integer 1999, .blob [0xFF], .text "\"\\é😀".toList, .null, .null, .text " Doe".toList,
        .blob [], .blob [0x70, 0x64, 0x66, 0x0A]]]], []⟩

/-- What a card says, with the surname given. -/
def cardValues (surname : Option Text) : List (Option Text) :=
  [some " Doe".toList, none, surname, some [], some "1999".toList, some "pdf\n".toList,
    some "\"\\é😀".toList, none, none]

theorem writeDataset_of_cards :
    cards.Reads "book".toList (keyed.map Prod.fst) [cardValues (some "null".toList)]
    ∧ pile.Reads "book".toList (keyed.map Prod.fst) [cardValues none]
    ∧ ((writeDataset cards .unlimited 1).result = .ok 1
      ∧ Keeps (writeDataset cards .unlimited 1).sink.taken [cardValues (some "null".toList)])
    ∧ ((writeDataset cards .unlimited 1).sink.taken = (writeDataset pile .unlimited 0).sink.taken
      ↔ [cardValues (some "null".toList)] = [cardValues none]) := by
  have hcards : cards.Reads "book".toList (keyed.map Prod.fst) [cardValues (some "null".toList)] :=
    (Database.select_eq_ok_iff (by decide) (by decide)).1 rfl
  have hpile : pile.Reads "book".toList (keyed.map Prod.fst) [cardValues none] :=
    (Database.select_eq_ok_iff (by decide) (by decide)).1 rfl
  exact ⟨hcards, hpile, writeDataset_loses_nothing 1 0 hcards hpile⟩

end Library

end BookDatasets
