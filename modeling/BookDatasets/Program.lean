/-
  The program: a command line, worked off on a directory tree.

  1. **Exit codes** — 0 after a success and where help or the version was asked for, 1 after a
     failed conversion, 2 for a command line that is none.
  2. **Two texts** — what was done goes to the output; events and the failure go to the errors, one
     line each, the failure last and whatever the log level.
-/
import BookDatasets.CommandLine.Invocation
import BookDatasets.Conversion.Fiction
import BookDatasets.Conversion.Library
import BookDatasets.Conversion.Listing

namespace BookDatasets

namespace Program

/-! ## Lines -/

/-- The program's name. -/
def name : Text := "book_labels".toList

/-- The program's version. -/
def version : Text := "0.1.0".toList

/-- A count and a noun for it. -/
def counted (n : Nat) (noun : Text) : Text := decimal n ++ [' '] ++ noun ++ pluralEnding n

/-- The beginning of a line about a success. -/
def wrote (records : Nat) : Text := "✅ Wrote ".toList ++ counted records "record".toList

/-- The elapsed time in a line. -/
def elapsed : Text := " in ".toList ++ Log.elapsedMark ++ ['s']

/-- What a listing conversion says when it is done. -/
def listingLines (r : Conversion.ListingReport) : List Text :=
  [wrote r.records ++ " to ".toList ++ r.output ++ elapsed
    ++ (if r.downloaded then " (listing downloaded)".toList else [])]

/-- What a library conversion says when it is done. -/
def libraryLines (r : Conversion.LibraryReport) : List Text :=
  (match r.seeded with
    | some n => ["Seeded ".toList ++ counted n "book row".toList]
    | none => [])
  ++ [wrote r.records ++ " to ".toList ++ r.output ++ elapsed]

/-- What a fiction conversion says when it is done. -/
def fictionLines (r : Conversion.FictionReport) : List Text :=
  [wrote r.counts.records ++ " from ".toList ++ counted r.counts.rows "row".toList
    ++ " to ".toList ++ r.jsonOutput ++ " and ".toList ++ r.customOutput ++ elapsed]

/-! ## Running -/

/-- What a run leaves behind. -/
structure Result where
  files : Files
  requests : List Web.Request
  exitCode : Nat
  /-- The lines of the output. -/
  output : List Text
  /-- The lines of the errors. -/
  errors : List Text

/-- The conversion of a job, and what it says when it is done. -/
def work (network : Web.Network) (engine : Engine) : CommandLine.Job → Procedure (List Text)
  | .csv config => do return listingLines (← Conversion.convertListing network config)
  | .library config => do return libraryLines (← Conversion.convertLibrary engine config)
  | .fiction config => do return fictionLines (← Conversion.convertFiction engine config)

/-- The lines of the errors after an outcome. -/
def errorLines (i : CommandLine.Invocation) (o : Outcome (List Text)) : List Text :=
  (Log.upTo i.level o.events).map (Log.Event.line i.format)
    ++ match o.result with
      | .ok _ => []
      | .error failure => [name ++ " error: ".toList ++ failure.message]

/-- Runs an invocation. -/
def invoke (network : Web.Network) (engine : Engine) (i : CommandLine.Invocation) (files : Files) : Result :=
  let o := (work network engine i.job).run files
  match o.result with
  | .ok lines => ⟨o.files, o.requests, 0, lines, errorLines i o⟩
  | .error _ => ⟨o.files, o.requests, 1, [], errorLines i o⟩

/-- Answers a command line that asks for no conversion. -/
def refuse (refusal : CommandLine.Refusal) (files : Files) : Result :=
  ⟨files, [], refusal.exitCode,
    if refusal = .version then [name ++ [' '] ++ version] else [], []⟩

/-- Runs a command line, the program's name not included. -/
def run (network : Web.Network) (engine : Engine) (words : List Text) (files : Files) : Result :=
  match CommandLine.parse words with
  | .error refusal => refuse refusal files
  | .ok invocation => invoke network engine invocation files

end Program

end BookDatasets
