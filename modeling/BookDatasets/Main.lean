/-
  The executable: the program on a real directory.

  It reads the files that the command line names into a tree, runs the program on that tree, and
  puts the files that the run has changed back into the directory.  Everything that is decided is
  decided by `Program.run`; here are only reading, writing and printing.  There is no server, so a
  listing has to be there already, and a database is known by its octets only.
-/
import BookDatasets.Files.Arrangement
import BookDatasets.Files.Bundled
import BookDatasets.Program

namespace BookDatasets

/-- The files that a job may read or write. -/
def CommandLine.Job.paths : CommandLine.Job → List Text
  | .csv config => [config.listing, config.output]
  | .library config =>
    config.dump.toList ++ [config.database, config.output]
      ++ Conversion.sidecarEndings.map (config.database ++ ·)
  | .fiction config => [config.database, config.jsonOutput, config.customOutput]

/-- The files that a command line names. -/
def namedPaths (words : List Text) : List Text :=
  match CommandLine.parse words with
  | .ok invocation => invocation.job.paths
  | .error _ => []

/-- The octets of a real file, if it can be read. -/
def readFile (path : Text) : IO (Option Bytes) := do
  try
    let octets ← IO.FS.readBinFile (String.ofList path)
    return some octets.toList
  catch _ => return none

/-- The tree of the real files of some paths. -/
def load (paths : List Text) : IO Files :=
  paths.foldlM (fun files path => do
    match ← readFile path with
    | some octets => return files.withFile path octets
    | none => return files) Files.empty

/-- What the file at a path holds in a tree. -/
def octetsAt (files : Files) (path : Text) : Option Bytes :=
  (files.openRead path).toOption.bind fun place =>
    (files.content? place).map Content.octets

/-- Puts a file back if the run has changed it. -/
def save (before after : Files) (path : Text) : IO Unit := do
  let name := String.ofList path
  match octetsAt before path, octetsAt after path with
  | some _, none => IO.FS.removeFile name
  | old, some octets =>
    if old != some octets then
      if Path.parent path ≠ [] then IO.FS.createDirAll (String.ofList (Path.parent path))
      IO.FS.writeBinFile name ⟨octets.toArray⟩
  | none, none => return ()

end BookDatasets

/-- Runs the program on the working directory. -/
def main (args : List String) : IO UInt32 := do
  let words := args.map String.toList
  let paths := BookDatasets.namedPaths words
  let before ← BookDatasets.load paths
  let result := BookDatasets.Program.run BookDatasets.Web.nowhere BookDatasets.Engine.bundled words before
  paths.forM (BookDatasets.save before result.files)
  result.errors.forM fun line => IO.eprintln (String.ofList line)
  result.output.forM fun line => IO.println (String.ofList line)
  return UInt32.ofNat result.exitCode
