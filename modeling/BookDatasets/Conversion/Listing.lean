/-
  The listing conversion: download once, convert always.

  1. **Order** — the client is made, the listing is acquired, its file is opened, and only then the
     output is opened and emptied.  So a run that cannot get its listing leaves the output alone.
  2. **One file for both** — the listing is read after the output has been emptied.  A listing that
     is its own output is therefore empty when it is read.
-/
import BookDatasets.Config
import BookDatasets.Conversion.Output
import BookDatasets.Download
import BookDatasets.Listing.Dataset

namespace BookDatasets

namespace Conversion

/-- What a listing conversion did. -/
structure ListingReport where
  downloaded : Bool
  records : Nat
  output : Text
  deriving DecidableEq, Repr

/-- Opens the listing. -/
def openListing (path : Text) : Procedure Location :=
  (Procedure.operate (fun files => (files, files.openRead path)) Cause.io).within
    (.openingListing path)

/-- Writes the dataset of the listing at one place to another place. -/
def writeListing (source output : Location) : Procedure Nat :=
  Procedure.operate (fun files =>
    match files.read source with
    | .error error => (files, .error (.listing error))
    | .ok octets =>
      match Listing.writeDataset octets .unlimited with
      | (sink, result) => (written files output sink.taken, result)) Cause.convert

/-- Says that the dataset is being written. -/
def listingBegins : Log.Event := Log.info .listing "Generating the dataset file".toList

/-- Downloads the listing if it is missing and writes its dataset. -/
def convertListing (network : Web.Network) (config : ListingConfig) :
    Procedure ListingReport :=
  if Web.mayCallItself config.userAgent then do
    let exchange := network config.url config.userAgent
    let downloaded ← (Download.ifMissing exchange config.url config.listing).within .acquiringListing
    Procedure.report listingBegins
    let source ← openListing config.listing
    let output ← createOutput config.output
    let records ← (writeListing source output).within
      (.convertingListing config.listing)
    Procedure.report (generated .listing records)
    return ⟨downloaded, records, config.output⟩
  else
    Procedure.fail (Failure.within .makingClient (.of .httpClient))

end Conversion

end BookDatasets
