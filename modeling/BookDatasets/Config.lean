/-
  Settings of the three conversions.

  Each conversion has a record of its own; a field that nobody sets has the value given here, so
  the empty record `{}` IS the standard layout of a data directory.
-/
import BookDatasets.Text.Basic

namespace BookDatasets

/-! ## Standard places -/

/-- The database of the library and fiction conversions. -/
def standardDatabase : Text := "data/book_dataset.sqlite".toList

/-- The output of the listing and library conversions. -/
def standardDataset : Text := "data/dataset.txt".toList

/-- How many rows lie between two progress lines. -/
def standardInterval : Nat := 10000

/-! ## Records -/

/-- Settings of the listing conversion. -/
structure ListingConfig where
  /-- Where the listing is downloaded from when there is no local copy. -/
  url : Text := "https://github.com/uchidalab/book-dataset/raw/master/Task2/book32-listing.csv".toList
  /-- The local copy. -/
  listing : Text := "data/dataset.csv".toList
  output : Text := standardDataset
  /-- Seconds that the download may take. -/
  timeout : Nat := 300
  /-- What the client calls itself. -/
  userAgent : Text := "book_labels/0.1.0".toList
  deriving DecidableEq, Repr

/-- Settings of the library conversion. -/
structure LibraryConfig where
  database : Text := standardDatabase
  /-- The dump that a new database is seeded from. -/
  dump : Option Text := none
  output : Text := standardDataset
  /-- Rows in one transaction. -/
  batchSize : Nat := 10000
  interval : Nat := standardInterval
  deriving DecidableEq, Repr

/-- Settings of the fiction conversion. -/
structure FictionConfig where
  database : Text := standardDatabase
  table : Text := "fiction".toList
  jsonOutput : Text := "data/dataset_json.txt".toList
  customOutput : Text := "data/dataset_custom.txt".toList
  interval : Nat := standardInterval
  deriving DecidableEq, Repr

end BookDatasets
