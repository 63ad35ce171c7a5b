/-
  Operations on files by path.

  Each operation follows its path for its own purpose (`BookDatasets.Files.Purpose`) and then looks
  at the ONE node it is about.  What can be refused is decided before anything changes, so a refused
  operation leaves the tree as it was; only `createDirectories` may have made some of the
  directories when it fails.
-/
import BookDatasets.Files.Walk

namespace BookDatasets

namespace Files

/-! ## Reading -/

/-- Opens what stands at a path for reading, behind links.  A directory can be opened too. -/
def openRead (files : Files) (path : Text) : Except IoError Location :=
  match files.locate .existing path with
  | .error error => .error error
  | .ok (.directory place) => .ok place
  | .ok (.entry directory name slash) =>
    match files.find? (name :: directory) with
    | some .directory => .ok (name :: directory)
    | some _ => if slash then .error .notADirectory else .ok (name :: directory)
    | none => .error .notFound

/-- The octets of what has been opened. -/
def read (files : Files) (place : Location) : Except IoError Bytes :=
  match files.find? place with
  | some (.file content) => .ok content.octets
  | some _ => .error .isADirectory
  | none => .error .notFound

/-- Whether a path leads to a directory, behind links. -/
def isDirectory (files : Files) (path : Text) : Bool :=
  match files.openRead path with
  | .ok place => files.find? place == some .directory
  | .error _ => false

/-! ## Making and removing files -/

/-- Opens a file for writing, behind links.  It is empty afterwards, whether it is new or not. -/
def create (files : Files) (path : Text) : Except IoError (Files × Location) :=
  match files.locate .writing path with
  | .error error => .error error
  | .ok (.directory _) => .error .isADirectory
  | .ok (.entry directory name _) =>
    if files.find? (name :: directory) = some .directory then .error .isADirectory
    else .ok (files.put (name :: directory) (.file (.bytes [])), name :: directory)

/-- Makes a file that must not exist yet.  A link in its place, even one that leads nowhere, counts
as existing. -/
def createNew (files : Files) (path : Text) : Except IoError (Files × Location) :=
  match files.locate .entry path with
  | .error error => .error error
  | .ok (.directory _) => .error .fileExists
  | .ok (.entry directory name slash) =>
    if slash then .error .isADirectory
    else if (files.find? (name :: directory)).isSome then .error .fileExists
    else .ok (files.put (name :: directory) (.file (.bytes [])), name :: directory)

/-- Removes a file or a link, not what a link leads to. -/
def unlink (files : Files) (path : Text) : Except IoError Files :=
  match files.locate .entry path with
  | .error error => .error error
  | .ok (.directory _) => .error .isADirectory
  | .ok (.entry directory name slash) =>
    match files.find? (name :: directory) with
    | none => .error .notFound
    | some .directory => .error .isADirectory
    | some _ => if slash then .error .notADirectory else .ok (files.drop (name :: directory))

/-! ## Directories -/

/-- Makes one directory; the one above it must be there. -/
def makeDirectory (files : Files) (path : Text) : Except IoError Files :=
  match files.locate .entry path with
  | .error error => .error error
  | .ok (.directory _) => .error .fileExists
  | .ok (.entry directory name _) =>
    if (files.find? (name :: directory)).isSome then .error .fileExists
    else .ok (files.put (name :: directory) .directory)

/-- Makes a directory, or finds one there. -/
def ensureDirectory (files : Files) (path : Text) : Files × Except IoError Unit :=
  match files.makeDirectory path with
  | .ok files => (files, .ok ())
  | .error error => (files, if files.isDirectory path then .ok () else .error error)

/-- Makes a directory and those above it, looking at most `depth` directories up. -/
def createDirectoriesWithin (files : Files) : (depth : Nat) → Text → Files × Except IoError Unit
  | 0, _ => (files, .ok ())
  | depth + 1, path =>
    if path = [] then (files, .ok ())
    else
      match files.makeDirectory path with
      | .ok files => (files, .ok ())
      | .error .notFound =>
        match createDirectoriesWithin files depth (Path.parent path) with
        | (files, .error error) => (files, .error error)
        | (files, .ok ()) => files.ensureDirectory path
      | .error error => (files, if files.isDirectory path then .ok () else .error error)

/-- Makes a directory and those above it that are missing.  A path has fewer directories than
characters. -/
def createDirectories (files : Files) (path : Text) : Files × Except IoError Unit :=
  files.createDirectoriesWithin path.length path

end Files

end BookDatasets
