/-
  Arranging a directory tree by hand.

  These are the changes that somebody makes between two runs: files, directories, links and
  databases appear and disappear, with the directories above them made as needed.  What cannot be
  done is not done.
-/
import BookDatasets.Files.Connection
import BookDatasets.Files.Operations

namespace BookDatasets

namespace Files

/-- The tree with the directories above a path. -/
def withParent (files : Files) (path : Text) : Files :=
  (files.createDirectories (Path.parent path)).1

/-- The tree with a directory, and those above it. -/
def withDirectory (files : Files) (path : Text) : Files := (files.createDirectories path).1

/-- The tree with octets as the contents of the file at a path, behind links. -/
def withFile (files : Files) (path : Text) (octets : Bytes) : Files :=
  let files := files.withParent path
  match files.create path with
  | .ok (files, place) => files.put place (.file (.bytes octets))
  | .error _ => files

/-- The tree with a link at a path where nothing stood. -/
def withLink (files : Files) (path target : Text) : Files :=
  let files := files.withParent path
  match files.locate .entry path with
  | .ok (.entry directory name _) =>
    if (files.find? (name :: directory)).isSome then files
    else files.put (name :: directory) (.link target)
  | _ => files

/-- The tree without what stands at a path, and without what stands below it. -/
def without (files : Files) (path : Text) : Files :=
  match files.locate .entry path with
  | .ok (.entry directory name _) =>
    ⟨files.nodes.filter fun entry => !((name :: directory).isSuffixOf entry.1)⟩
  | _ => files

/-- The tree with a database at a path, changed from what it is there. -/
def withDatabase (engine : Engine) (files : Files) (path : Text) (change : Database → Database) :
    Files :=
  let files := files.withParent path
  let files := match files.createNew path with
    | .ok (files, _) => files
    | .error _ => files
  match files.connect engine path with
  | .ok connection =>
    match files.database engine .changing connection with
    | (files, .ok db) => (files.store connection (change db)).1
    | (files, .error _) => files
  | .error _ => files

/-- The nodes to show: all but directories that something stands in. -/
def shown (files : Files) : List (Location × Node) :=
  files.nodes.filter fun entry =>
    entry.2 != .directory || files.nodes.all fun other => other.1.tail != entry.1

/-- The path of a location. -/
def pathOf (place : Location) : Text := Text.joined [Path.slash] place.reverse

end Files

end BookDatasets
