/-
  Datasets on a full disk.

  The listing and the library dataset are both runs of JSON lines with an ending, so one law holds of
  them: a limit leaves the FIRST octets of what the run writes without it, and the octet that is
  missing first tells how the run was refused.  A refusal comes before an error of the source that
  lies behind the cut; an error in front of it is reached and reported as ever.
-/
import BookDatasets.Proofs.Library.Dataset
import BookDatasets.Proofs.Listing.Run

namespace BookDatasets

namespace Listing

/-- **A limit cuts the listing dataset** at a clean prefix. -/
theorem writeDataset_cutAt (input : Bytes) (limit : Nat) :
    Sink.CutAt limit (writeDataset input .unlimited) (writeDataset input (.limited limit)) := by
  rw [writeDataset, writeDataset, writeRows_eq, writeRows_eq]
  exact Sink.writeThen_cutAt limit (lineValues (rows input)) (ending 0 (rows input))

end Listing

namespace Library

/-- **A limit cuts the library dataset** at a clean prefix, also when the table cannot be read. -/
theorem writeDataset_cutAt (db : Database) (interval limit : Nat) :
    Sink.CutAt limit (writeDataset db .unlimited interval).outcome
      (writeDataset db (.limited limit) interval).outcome := by
  rcases hselect : db.select Table.bookName Table.bookColumns with e | rows
  · -- Nothing is written, and there is no octet to cut.
    rw [writeDataset, writeDataset, hselect]
    exact Sink.writeThen_cutAt limit [] (.error e.toConvert)
  · rw [writeDataset, writeDataset, hselect, writeFrom, writeFrom, writeRows_eq, writeRows_eq]
    exact Sink.writeThen_cutAt limit _ _

end Library

/-- **A full disk cuts the JSON datasets at a clean prefix** and is reported with the right kind,
for every listing, every book table and every limit. -/
theorem datasets_cut_at_limit (limit : Nat) :
    (∀ input : Bytes,
      Sink.CutAt limit (Listing.writeDataset input .unlimited)
        (Listing.writeDataset input (.limited limit)))
    ∧ ∀ (db : Database) (interval : Nat),
      Sink.CutAt limit (Library.writeDataset db .unlimited interval).outcome
        (Library.writeDataset db (.limited limit) interval).outcome :=
  ⟨fun input => Listing.writeDataset_cutAt input limit,
    fun db interval => Library.writeDataset_cutAt db interval limit⟩

end BookDatasets
