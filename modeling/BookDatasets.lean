import BookDatasets.Text.Basic
import BookDatasets.Text.Blank
import BookDatasets.Text.Utf8
import BookDatasets.Field
import BookDatasets.Author
import BookDatasets.Json.Basic
import BookDatasets.Json.Fragment
import BookDatasets.Json.Layout
import BookDatasets.Label
import BookDatasets.CustomLine
import BookDatasets.Fiction.Record
import BookDatasets.Error
import BookDatasets.Sink
import BookDatasets.Web.Status
import BookDatasets.Listing.Reader
import BookDatasets.Listing.Dataset
import BookDatasets.Log
import BookDatasets.Table.Binary64
import BookDatasets.Table.Cell
import BookDatasets.Table.Basic
import BookDatasets.Table.Identifier
import BookDatasets.Table.Query
import BookDatasets.Library.Seeding
import BookDatasets.Library.Dataset
import BookDatasets.Fiction.Dataset
import BookDatasets.Config
import BookDatasets.CommandLine.Flag
import BookDatasets.CommandLine.Reader
import BookDatasets.CommandLine.Invocation
import BookDatasets.Files.Path
import BookDatasets.Files.Basic
import BookDatasets.Files.Walk
import BookDatasets.Files.Operations
import BookDatasets.Files.Connection
import BookDatasets.Web.Address
import BookDatasets.Web.Script
import BookDatasets.Procedure
import BookDatasets.Download
import BookDatasets.Conversion.Output
import BookDatasets.Conversion.SharedFile
import BookDatasets.Conversion.Listing
import BookDatasets.Conversion.Database
import BookDatasets.Conversion.Library
import BookDatasets.Conversion.Fiction
import BookDatasets.Program
import BookDatasets.Files.Arrangement
import BookDatasets.Main
import BookDatasets.Proofs.Text.Utf8
import BookDatasets.Proofs.Json.Reader
import BookDatasets.Proofs.Json.Strings
import BookDatasets.Proofs.Json.RoundTrip
import BookDatasets.Proofs.Json.Printable
import BookDatasets.Proofs.Sink
import BookDatasets.Proofs.Json.Lines
import BookDatasets.Proofs.Listing.Reading
import BookDatasets.Proofs.Listing.Spelling
import BookDatasets.Proofs.Listing.Dataset
import BookDatasets.Proofs.Field
import BookDatasets.Proofs.CustomLine
import BookDatasets.Proofs.Fiction.Record
import BookDatasets.Proofs.Fiction.Dataset
import BookDatasets.Proofs.Fiction.Lines
import BookDatasets.Proofs.Answers
import BookDatasets.Proofs.Sink.Limit
import BookDatasets.Proofs.Json.Run
import BookDatasets.Proofs.Library.Dataset
import BookDatasets.Proofs.Listing.Run
import BookDatasets.Proofs.Truncation
import BookDatasets.Proofs.Fiction.Lockstep
import BookDatasets.Proofs.Library.Seeding
import BookDatasets.Proofs.Listing.ShortRow
import BookDatasets.Proofs.Library.FailedSeeding
import BookDatasets.Proofs.Download
import BookDatasets.Proofs.Files.Meeting
import BookDatasets.Proofs.Files.Naming
import BookDatasets.Proofs.Files.Tending
import BookDatasets.Proofs.Files.Bundled
import BookDatasets.Proofs.Files.Twins
import BookDatasets.Proofs.SpoiledRow
import BookDatasets.Proofs.Json.Spacing
import BookDatasets.Proofs.CleanLines
import BookDatasets.Proofs.Listing.Beginning
import BookDatasets.Proofs.Listing.Pieces
import BookDatasets.Proofs.Listing.LineNumber
import BookDatasets.Proofs.Field.Steps
import BookDatasets.Proofs.Field.Image
import BookDatasets.Proofs.Field.Passes
import BookDatasets.Proofs.Author
import BookDatasets.Proofs.Fiction.Explosion
import BookDatasets.Proofs.Text.Joined
import BookDatasets.Proofs.Author.Joining
import BookDatasets.Proofs.Author.Padding
import BookDatasets.Proofs.Fiction.Forgetting
import BookDatasets.Proofs.Fiction.Query
import BookDatasets.Proofs.Fiction.Seam
import BookDatasets.Proofs.Field.Runs
import BookDatasets.Proofs.Json.Fragment
import BookDatasets.Proofs.Progress.RowLoop
import BookDatasets.Proofs.Progress.Lines
import BookDatasets.Proofs.CommandLine.Order
import BookDatasets.Proofs.Conversion.Database
import BookDatasets.Proofs.Conversion.Library
import BookDatasets.Proofs.Conversion.Runs
import BookDatasets.Proofs.Conversion.Sourcing
import BookDatasets.Proofs.Conversion.Sourceless
import BookDatasets.Proofs.Conversion.Bystanders
import BookDatasets.Proofs.Conversion.Twins
import BookDatasets.Proofs.Conversion.Leftovers
import BookDatasets.Proofs.Conversion.Stations
