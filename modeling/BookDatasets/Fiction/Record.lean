/-
  Fiction rows and their explosion: one record per author.

  1. **Row** — the query selects the author column TWICE.  Family names are read from the first
     copy and given names from the second; a row built by hand may hold two different texts.
  2. **Program** — `Row.explode` walks the tokens of the family source.  The given source is read
     in step with it: the i-th record takes its family name from the i-th token of the one and its
     given name from the i-th token of the other, or nothing where there is none.
  3. **Every field is normalized** — a `Record` holds values as they stand in a custom line.  The
     JSON line of a record shows the same values, still escaped.
-/
import BookDatasets.Author
import BookDatasets.Field
import BookDatasets.Label
import BookDatasets.CustomLine
import BookDatasets.Json.Layout

namespace BookDatasets

namespace Fiction

/-! ## Rows -/

/-- What a row says about the book itself. -/
structure Details where
  language : Text
  year : Text
  extension : Text
  title : Text
  publisher : Text
  edition : Text
  deriving DecidableEq, Repr

/-- The six details in output order. -/
def Details.toList (d : Details) : List Text :=
  [d.language, d.year, d.extension, d.title, d.publisher, d.edition]

/-- The details with a function applied to each. -/
def Details.map (f : Text → Text) (d : Details) : Details :=
  ⟨f d.language, f d.year, f d.extension, f d.title, f d.publisher, f d.edition⟩

/-- One row of the fiction query. -/
structure Row where
  /-- The author column, read for family names. -/
  familySource : Text
  /-- The author column, read for given names. -/
  givenSource : Text
  /-- The six columns that all authors of the row share. -/
  details : Details
  deriving DecidableEq, Repr

/-- The text of the column at a position; empty where it is null or missing. -/
def columnText (columns : List (Option Text)) (index : Nat) : Text :=
  ((columns[index]?).getD none).getD []

/-- Reads a row from its eight columns.  Columns past the eighth are ignored. -/
def Row.ofColumns (columns : List (Option Text)) : Row where
  familySource := columnText columns 0
  givenSource := columnText columns 1
  details :=
    ⟨columnText columns 2, columnText columns 3, columnText columns 4, columnText columns 5,
     columnText columns 6, columnText columns 7⟩

/-! ## Records -/

/-- The names of a record's fields, in output order. -/
def columnNames : List Text :=
  ["author_family_name".toList, "author_first_name".toList, "language".toList, "year".toList,
   "extension".toList, "title".toList, "publisher".toList, "edition".toList]

/-- One author of one row, every field normalized. -/
structure Record where
  family : Text
  given : Text
  details : Details
  deriving DecidableEq, Repr

/-- Normalizes the parts of a record. -/
def Record.normalized (family given : Text) (details : Details) : Record :=
  ⟨Field.normalize family, Field.normalize given, details.map Field.normalize⟩

/-- The eight values in output order. -/
def Record.values (r : Record) : List Text := r.family :: r.given :: r.details.toList

/-- Name and value of each field, in output order. -/
def Record.fields (r : Record) : List (Text × Text) := columnNames.zip r.values

/-- The record as label pairs. -/
def Record.labels (r : Record) : LabelRecord :=
  LabelRecord.zipped labelPairsKey columnNames (r.values.map some)

/-- The record's line in the JSON dataset. -/
def Record.jsonLine (r : Record) : Bytes := r.labels.toJson.line

/-- The record's line in the custom dataset. -/
def Record.customLine (r : Record) : Bytes := CustomLine.line r.fields

/-! ## Explosion -/

/-- One record per family token; the given tokens are used up in step and may run out. -/
def explodeTokens (details : Details) : List Text → List Text → List Record
  | [], _ => []
  | token :: tokens, [] =>
    Record.normalized (Author.family token) [] details :: explodeTokens details tokens []
  | token :: tokens, other :: others =>
    Record.normalized (Author.family token) (Author.given other) details
      :: explodeTokens details tokens others

/-- The records of a row, one for each token of its family source. -/
def Row.explode (row : Row) : List Record :=
  explodeTokens row.details (Author.tokens row.familySource) (Author.tokens row.givenSource)

example : ((Row.ofColumns [some "A, a;B".toList, some "A, a;B".toList]).explode.map
    fun r => (r.family, r.given)) = [("A".toList, "a".toList), ("B".toList, [])] := by decide

end Fiction

end BookDatasets
