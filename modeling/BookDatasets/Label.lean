/-
  Label records: what one JSON line of a dataset says about a book.

      {"label_pair": [{"key": "title", "val": "..."}, {"key": "author", "val": "..."}]}

  A record has ONE key and a list of pairs.  The list keeps its order and may repeat a key; a pair
  without a value is a null, which is not the same as the empty text.
-/
import BookDatasets.Json.Basic

namespace BookDatasets

/-- A named attribute of a book, with or without a value. -/
structure LabelPair where
  /-- The attribute's name. -/
  key : Text
  /-- Its value, absent where the source has none. -/
  val : Option Text
  deriving DecidableEq, Repr

/-- One dataset line. -/
structure LabelRecord where
  /-- The key that all pairs stand under. -/
  recordKey : Text
  /-- The pairs, in output order. -/
  pairs : List LabelPair
  deriving DecidableEq, Repr

/-! ## Keys -/

/-- The record key of the listing and library datasets. -/
def labelPairKey : Text := "label_pair".toList

/-- The record key of the fiction dataset. -/
def labelPairsKey : Text := "label_pairs".toList

/-! ## Records -/

/-- The object with the members `key` and `val`. -/
def LabelPair.toJson (pair : LabelPair) : Json :=
  .object [("key".toList, .text pair.key), ("val".toList, Json.ofText? pair.val)]

/-- The object whose only member is the list of pairs. -/
def LabelRecord.toJson (record : LabelRecord) : Json :=
  .object [(record.recordKey, .array (record.pairs.map LabelPair.toJson))]

/-- Pairs keys and values by position.  What one list has more than the other is left out. -/
def LabelRecord.zipped (recordKey : Text) (keys : List Text) (values : List (Option Text)) :
    LabelRecord :=
  ⟨recordKey, (keys.zip values).map fun pair => ⟨pair.1, pair.2⟩⟩

end BookDatasets
