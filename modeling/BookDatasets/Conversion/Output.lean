/-
  Outputs of conversions.

  An output is emptied when it is opened, whatever it held, and the directories above it are made.
  What is written to it stands in the file afterwards even if the conversion fails.
-/
import BookDatasets.Files.Operations
import BookDatasets.Procedure

namespace BookDatasets

namespace Conversion

/-- Makes the directories above an output. -/
def makeParent (path : Text) : Procedure Unit :=
  (Procedure.operate (fun files => files.createDirectories (Path.parent path)) Cause.io).within
    (.makingDirectory (Path.parent path))

/-- Opens the file of an output, empty. -/
def openFile (path : Text) : Procedure Location :=
  (Procedure.operate (fun files =>
    match files.create path with
    | .ok (files, place) => (files, .ok place)
    | .error error => (files, .error error)) Cause.io).within
    (.makingOutput path)

/-- Opens an output. -/
def createOutput (path : Text) : Procedure Location := do
  makeParent path
  openFile path

/-- The tree with octets as the contents of a file. -/
def written (files : Files) (place : Location) (octets : Bytes) : Files :=
  files.put place (.file (.bytes octets))

/-- Says how many lines a dataset has. -/
def generated (source : Log.Source) (count : Nat) : Log.Event :=
  Log.info source ("Finished::: Generated ".toList ++ decimal count ++ " lines".toList)

end Conversion

end BookDatasets
