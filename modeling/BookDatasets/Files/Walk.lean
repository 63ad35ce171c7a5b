/-
  Following paths.

  1. **Program** — `steps` walks through directories, segment by segment, as long as no symbolic
     link is in the way; it is a recursion on the segments.  `walk` goes on behind a link with the
     segments of its target in front of the segments that are left.
  2. **Termination** — a walk follows at most forty links, so `walk` recurses on how many it may
     still follow.  A link to itself uses them up: too many links.
  3. **The last segment** — a path leads to a `Spot`: a directory that needs no name (`.`, `..` or
     the root), or a NAME IN A DIRECTORY, where something stands or could be made.  Whether a link
     in this last place is followed, and what a slash behind it means, depends on what is wanted
     (`Purpose`).
-/
import BookDatasets.Files.Basic
import BookDatasets.Files.Path

namespace BookDatasets

namespace Files

/-! ## Spots -/

/-- Where a path leads. -/
inductive Spot where
  /-- A directory that the path names without its name. -/
  | directory (place : Location)
  /-- A name in a directory; `slash` says that a slash follows it. -/
  | entry (directory : Location) (name : Text) (slash : Bool)
  deriving DecidableEq, Repr

/-- The location of a spot. -/
def Spot.place : Spot → Location
  | .directory place => place
  | .entry dir name _ => name :: dir

/-- What a path is followed for. -/
inductive Purpose where
  /-- For the entry itself: a link in the last place is not followed. -/
  | entry
  /-- For what there is: a link in the last place is followed. -/
  | existing
  /-- For a file to write: a link is followed, and a slash at the end is refused. -/
  | writing
  deriving DecidableEq, Repr

/-! ## Steps through directories -/

/-- Where steps without links end. -/
inductive Stop where
  /-- No segment is left. -/
  | arrived (place : Location)
  /-- The last segment is a name in a directory. -/
  | last (directory : Location) (name : Text)
  /-- A link in a directory stands before the segments that are left. -/
  | link (directory : Location) (target : Text) (rest : List Text)
  | refused (error : IoError)
  deriving DecidableEq, Repr

/-- Walks from a directory, up to the last segment or the first link. -/
def steps (files : Files) (place : Location) : List Text → Stop
  | [] => .arrived place
  | segment :: rest =>
    if segment = Path.here then steps files place rest
    else if segment = Path.above then steps files place.tail rest
    else if rest = [] then .last place segment
    else if ¬Path.fits segment then .refused .nameTooLong
    else
      match files.find? (segment :: place) with
      | none => .refused .notFound
      | some (.file _) => .refused .notADirectory
      | some .directory => steps files (segment :: place) rest
      | some (.link target) => .link place target rest

/-! ## Walks behind links -/

/-- How many links a walk follows. -/
def maxLinks : Nat := 40

/-- The directory from which a link's target or a path is followed. -/
def base (place : Location) (path : Text) : Location :=
  if Path.isAbsolute path then [] else place

/-- Walks from a directory to the spot that the segments lead to, behind at most `links` links. -/
def walk (files : Files) (purpose : Purpose) :
    (links : Nat) → (slash : Bool) → Location → List Text → Except IoError Spot
  | links, slash, place, segments =>
    match steps files place segments with
    | .refused error => .error error
    | .arrived place => .ok (.directory place)
    | .link directory target rest =>
      match links with
      | 0 => .error .tooManyLinks
      | links + 1 =>
        walk files purpose links slash (base directory target) (Path.segments target ++ rest)
    | .last directory name =>
      if purpose = .writing ∧ slash then .error .isADirectory
      else if ¬Path.fits name then .error .nameTooLong
      else
        match files.find? (name :: directory) with
        | some (.link target) =>
          if purpose = .entry then .ok (.entry directory name slash)
          else
            match links with
            | 0 => .error .tooManyLinks
            | links + 1 =>
              walk files purpose links (slash || Path.endsInSlash target) (base directory target)
                (Path.segments target)
        | _ => .ok (.entry directory name slash)

/-- The spot that a path leads to from the root.  The empty path leads nowhere, no path holds the
character U+0000, and a path that is too long is not followed. -/
def locate (files : Files) (purpose : Purpose) (path : Text) : Except IoError Spot :=
  if '\x00' ∈ path then .error .nulInPath
  else if path = [] then .error .notFound
  else if Path.isTooLong path then .error .nameTooLong
  else walk files purpose maxLinks (Path.endsInSlash path) [] (Path.segments path)

end Files

end BookDatasets
