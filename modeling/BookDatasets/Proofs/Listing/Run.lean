/-
  Runs of the listing conversion.

  Writing the rows of a listing is writing lines and an ending: the lines of the rows before the
  first SHORT one, and then the complaint about it, or the number of rows when all are long enough.
  A row is judged before anything of its line is written, so a short row costs no octet.
-/
import BookDatasets.Listing.Dataset
import BookDatasets.Proofs.Answers
import BookDatasets.Proofs.Json.Run

namespace BookDatasets

namespace Listing

/-- The values of the lines that are written for rows. -/
def lineValues (rows : List Row) : List Json :=
  (Answers.before (rows.map Row.labels)).map LabelRecord.toJson

/-- What a run over rows comes to, with `count` lines written before it. -/
def ending (count : Nat) (rows : List Row) : Except ConvertError Nat :=
  Answers.outcome (count + rows.length) (rows.map Row.labels)

/-- **Writing rows** is writing their lines and an ending. -/
theorem writeRows_eq (count : Nat) (s : Sink) (rows : List Row) :
    writeRows count s rows = s.writeThen (lineValues rows) (ending count rows) := by
  induction rows generalizing count s with
  | nil => rfl
  | cons row rows ih =>
    rw [lineValues, ending, List.map_cons, writeRows]
    rcases row.labels with e | record
    · -- A short row: no line is left to write, and the ending is the complaint.
      rfl
    · rw [Answers.before, Answers.outcome, List.map_cons, Sink.writeThen_cons]
      dsimp only
      rcases s.writeJson record.toJson with ⟨s', e | ⟨⟩⟩
      · rfl
      · have hcount : count + (row :: rows).length = count + 1 + rows.length := by
          rw [List.length_cons]
          omega
        rw [hcount]
        exact ih (count + 1) s'

end Listing

end BookDatasets
