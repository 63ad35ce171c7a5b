/-
  Invocations: what a command line asks the program to do.

  A flag that is not given has the value of its configuration record.  A log flag may be given on
  both sides of the subcommand, and the one AFTER it wins.  A batch has at least one row.
-/
import BookDatasets.CommandLine.Reader

namespace BookDatasets

namespace CommandLine

/-- A conversion with its settings. -/
inductive Job where
  | csv (config : ListingConfig)
  | library (config : LibraryConfig)
  | fiction (config : FictionConfig)
  deriving DecidableEq, Repr

/-- Everything that a command line settles. -/
structure Invocation where
  level : Log.Level
  format : Log.Format
  job : Job
  deriving DecidableEq, Repr

/-- A text, or a default where the flag is not given. -/
def Given.textOr (g : Given) (flag : Flag) (default : Text) : Text :=
  (g.value? flag).getD default

/-- A number, or a default where the flag is not given. -/
def Given.countOr (g : Given) (flag : Flag) (default : Nat) : Nat :=
  ((g.value? flag).bind count?).getD default

/-- The job of a subcommand with the flags that follow it. -/
def job (g : Given) : Subcommand → Job
  | .csv =>
    let standard : ListingConfig := {}
    .csv
      { url := g.textOr .url standard.url
        listing := g.textOr .csvPath standard.listing
        output := g.textOr .output standard.output
        timeout := g.countOr .timeoutSeconds standard.timeout
        userAgent := g.textOr .userAgent standard.userAgent }
  | .library =>
    let standard : LibraryConfig := {}
    .library
      { database := g.textOr .dbPath standard.database
        dump := g.value? .seedDb
        output := g.textOr .output standard.output
        batchSize := max (g.countOr .batchSize standard.batchSize) 1
        interval := standard.interval }
  | .fiction =>
    let standard : FictionConfig := {}
    .fiction
      { database := g.textOr .dbPath standard.database
        table := g.textOr .table standard.table
        jsonOutput := g.textOr .jsonOutput standard.jsonOutput
        customOutput := g.textOr .customOutput standard.customOutput
        interval := standard.interval }

/-- The value of a flag: the one after the subcommand, else the one before it. -/
def Reading.value? (r : Reading) (flag : Flag) : Option Text :=
  (r.after.value? flag).or (r.before.value? flag)

/-- The invocation of a command line that has been read. -/
def Reading.invocation (r : Reading) : Invocation where
  level := ((r.value? .logLevel).bind level?).getD .info
  format := ((r.value? .logFormat).bind format?).getD .plain
  job := job r.after r.command

/-- The invocation of a command line, the program's name not included. -/
def parse (words : List Text) : Except Refusal Invocation :=
  (read words).map Reading.invocation

end CommandLine

end BookDatasets
