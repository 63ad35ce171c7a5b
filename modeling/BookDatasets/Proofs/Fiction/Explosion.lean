/-
  The records of a row, author by author.

  1. **Columns** — a row is read from eight columns.  A list that is too short is padded with empty
     texts and one that is too long is cut; a null is an empty text (`texts_ofColumns`).
  2. **Two lists in step** — the tokens of the given source are used up beside those of the family
     source.  At each index the record has what both lists have THERE, however the tokens before it
     look and wherever the given tokens run out (`getElem?_explodeTokens`): no position drifts.
  3. **Names** — so the family name of the i-th record is the one at index i of the family source,
     and its given name the one at index i of the given source, in the sense of `Author.FamilyAt`
     and `Author.GivenAt`, which know nothing of lists walked in step.
-/
import BookDatasets.Proofs.Author
import BookDatasets.Proofs.Fiction.Record

namespace BookDatasets

namespace Fiction

/-! ## Columns -/

/-- The texts of a row in the order of the columns. -/
def Row.texts (row : Row) : List Text :=
  row.familySource :: row.givenSource :: row.details.toList

/-- The texts of the first eight columns, a null being an empty one; then empty texts, as far as
columns are missing. -/
def eightTexts (columns : List (Option Text)) : List Text :=
  (columns.map (fun (column : Option Text) => column.getD []) ++ List.replicate 8 []).take 8

/-- **A row is read from exactly eight texts.** -/
theorem texts_ofColumns (columns : List (Option Text)) :
    (Row.ofColumns columns).texts = eightTexts columns := by
  have hrange : (Row.ofColumns columns).texts = (List.range 8).map (columnText columns) := rfl
  rw [hrange, eightTexts]
  apply List.ext_getElem?
  intro i
  rw [List.getElem?_map, List.getElem?_take]
  split_ifs with hi
  · rw [List.getElem?_range hi, Option.map_some]
    rcases Nat.lt_or_ge i columns.length with hlength | hlength
    · rw [List.getElem?_append_left (by rwa [List.length_map]), List.getElem?_map, columnText,
        List.getElem?_eq_getElem hlength]
      rfl
    · rw [List.getElem?_append_right (by rwa [List.length_map]), List.getElem?_replicate,
        if_pos (by omega), columnText, List.getElem?_eq_none hlength]
      rfl
  · rw [List.getElem?_eq_none (by rw [List.length_range]; omega), Option.map_none]

/-! ## Two lists in step -/

theorem length_explodeTokens (details : Details) (tokens others : List Text) :
    (explodeTokens details tokens others).length = tokens.length := by
  induction tokens, others using explodeTokens.induct with
  | case1 others => rfl
  | case2 token tokens ih => rw [explodeTokens, List.length_cons, List.length_cons, ih]
  | case3 token tokens other others ih =>
    rw [explodeTokens, List.length_cons, List.length_cons, ih]

/-- **No position drifts**: the record at an index is made of the two tokens there. -/
theorem getElem?_explodeTokens (details : Details) (tokens others : List Text) (i : Nat) :
    (explodeTokens details tokens others)[i]?
      = tokens[i]?.map fun token =>
          Record.normalized (Author.family token) ((others[i]?.map Author.given).getD [])
            details := by
  induction tokens, others using explodeTokens.induct generalizing i with
  | case1 others => rfl
  | case2 token tokens ih =>
    cases i with
    | zero => rfl
    | succ i =>
      rw [explodeTokens, List.getElem?_cons_succ, List.getElem?_cons_succ, ih]
      rfl
  | case3 token tokens other others ih =>
    cases i with
    | zero => rfl
    | succ i =>
      rw [explodeTokens, List.getElem?_cons_succ, List.getElem?_cons_succ,
        List.getElem?_cons_succ, ih]

theorem length_explode (row : Row) :
    row.explode.length = 1 + row.familySource.count ';' := by
  rw [Row.explode, length_explodeTokens, length_tokens]
  rfl

/-! ## Names -/

/-- The eight fields of an author's record: the names and the details, each normalized. -/
def normalizedFields (family given : Text) (details : Details) : List (Text × Text) :=
  [("author_family_name".toList, Field.normalize family),
   ("author_first_name".toList, Field.normalize given),
   ("language".toList, Field.normalize details.language),
   ("year".toList, Field.normalize details.year),
   ("extension".toList, Field.normalize details.extension),
   ("title".toList, Field.normalize details.title),
   ("publisher".toList, Field.normalize details.publisher),
   ("edition".toList, Field.normalize details.edition)]

theorem fields_normalized (family given : Text) (details : Details) :
    (Record.normalized family given details).fields = normalizedFields family given details :=
  rfl

/-- A record is the one of a row's author at an index: its fields are the only family name and the
only given name that stand there, and the details of the row. -/
def IsRecordAt (row : Row) (i : Nat) (record : Record) : Prop :=
  ∃ family given, (∀ name, Author.FamilyAt row.familySource i name ↔ name = family)
    ∧ (∀ name, Author.GivenAt row.givenSource i name ↔ name = given)
    ∧ record.fields = normalizedFields family given row.details

/-- Up to the number of records there is a token, and a record of its names. -/
theorem exists_record {row : Row} {i : Nat} (h : i < 1 + row.familySource.count ';') :
    ∃ token, (Author.tokens row.familySource)[i]? = some token
      ∧ row.explode[i]? = some (Record.normalized (Author.family token)
          (((Author.tokens row.givenSource)[i]?.map Author.given).getD []) row.details) := by
  have hlength : i < (Author.tokens row.familySource).length := by
    rw [length_tokens]
    exact h
  have htoken := List.getElem?_eq_getElem hlength
  refine ⟨_, htoken, ?_⟩
  rw [Row.explode, getElem?_explodeTokens, htoken, Option.map_some]

/-- **One record per author.**  A row has one record more than its family source has semicolons,
whatever its given source is, and the record at each index is that of the names there.  When both
sources are one column, both names of a record come from the same token.  And a row that is read
from columns has their first eight texts, where what is null or missing is empty. -/
theorem explode_by_author (row : Row) (columns : List (Option Text)) :
    row.explode.length = 1 + row.familySource.count ';'
      ∧ (∀ i < 1 + row.familySource.count ';',
          ∃ record, row.explode[i]? = some record ∧ IsRecordAt row i record)
      ∧ (row.givenSource = row.familySource → ∀ i < 1 + row.familySource.count ';',
          ∃ record token family given, row.explode[i]? = some record
            ∧ Author.TokenAt row.familySource i token ∧ Author.Halves token family given
            ∧ record.fields = normalizedFields family given row.details)
      ∧ (Row.ofColumns columns).texts = eightTexts columns := by
  refine ⟨length_explode row, ?_, ?_, texts_ofColumns columns⟩
  · intro i hi
    obtain ⟨token, htoken, hrecord⟩ := exists_record hi
    exact ⟨_, hrecord, _, _, Author.familyAt_iff htoken, Author.givenAt_iff row.givenSource i,
      fields_normalized _ _ _⟩
  · intro hsame i hi
    obtain ⟨token, htoken, hrecord⟩ := exists_record hi
    rw [hsame, htoken, Option.map_some, Option.getD_some] at hrecord
    exact ⟨_, token, _, _, hrecord, Author.tokenAt_iff.2 htoken, Author.halves_iff.2 rfl,
      fields_normalized _ _ _⟩

/-- A row of two different sources; the given one has fewer tokens. -/
def lopsided : Row :=
  ⟨"A, a;\"B\" ,;;C".toList, "x;y, \n z;".toList, ⟨[], [], [], " T\\".toList, [], []⟩⟩

/-- Columns of two authors; the last five are missing. -/
def coauthors : List (Option Text) :=
  [some "Doe, J;Cher".toList, some "Doe, J;Cher".toList, none]

theorem explode_by_author_of_lopsided :
    (1 < 1 + lopsided.familySource.count ';'
      ∧ ∃ record, lopsided.explode[1]? = some record ∧ IsRecordAt lopsided 1 record)
    ∧ ((Row.ofColumns coauthors).givenSource = (Row.ofColumns coauthors).familySource
      ∧ ∃ record token family given, (Row.ofColumns coauthors).explode[1]? = some record
        ∧ Author.TokenAt (Row.ofColumns coauthors).familySource 1 token
        ∧ Author.Halves token family given
        ∧ record.fields = normalizedFields family given (Row.ofColumns coauthors).details) := by
  obtain ⟨-, hrecord, -, -⟩ := explode_by_author lopsided coauthors
  obtain ⟨-, -, hsame, -⟩ := explode_by_author (Row.ofColumns coauthors) coauthors
  exact ⟨⟨by decide, hrecord 1 (by decide)⟩, rfl, hsame rfl 1 (by decide)⟩

end Fiction

end BookDatasets
